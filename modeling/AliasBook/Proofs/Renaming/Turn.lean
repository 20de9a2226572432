import AliasBook.Mapping.Renaming
import AliasBook.Proofs.Mapping.Rules

/-! The turn of one entry in a pass, and a pass as the turns of its entries. `Moves` and `Passes` say what
    they do to the copy; a step and a run succeed exactly where these relations hold (`step_eq_ok_iff`,
    `run_iff_passes`). -/

namespace AliasBook

namespace Renaming
variable {a n x t : String} {a' n' : Option String}

/-- The entry that two answers make, if they are usable and differ. -/
def target (a' n' : Option String) : Option (String × String) :=
  match usable a', usable n' with
  | some x, some n => if x = n then none else some (x, n)
  | _, _ => none

theorem usable_eq_some_iff {s : Option String} : usable s = some x ↔ s = some x ∧ Text.isBlank x = false := by
  cases s with
  | none => simp [usable]
  | some y =>
    by_cases h : Text.isBlank y = true
    · simp only [usable, h, if_true, reduceCtorEq, Option.some.injEq, false_iff, not_and]
      rintro rfl
      simp [h]
    · simp only [usable, h, Bool.false_eq_true, if_false, Option.some.injEq]
      constructor
      · rintro rfl
        exact ⟨rfl, by simpa using h⟩
      · exact And.left

theorem target_eq_some_iff : target a' n' = some (x, t) ↔
    a' = some x ∧ n' = some t ∧ Text.isBlank x = false ∧ Text.isBlank t = false ∧ x ≠ t := by
  have huse : target a' n' = some (x, t) ↔ usable a' = some x ∧ usable n' = some t ∧ x ≠ t := by
    unfold target
    split
    · rename_i y k hy hk
      rw [hy, hk]
      split
      · rename_i heq
        simp only [reduceCtorEq, Option.some.injEq, false_iff, not_and, not_not]
        rintro rfl rfl
        exact heq
      · rename_i hne
        simp only [Option.some.injEq, Prod.mk.injEq]
        constructor
        · rintro ⟨rfl, rfl⟩
          exact ⟨rfl, rfl, hne⟩
        · rintro ⟨rfl, rfl, -⟩
          exact ⟨rfl, rfl⟩
    · rename_i hnot
      simp only [reduceCtorEq, false_iff, not_and]
      intro hx ht
      exact (hnot x t hx ht).elim
  rw [huse, usable_eq_some_iff, usable_eq_some_iff]
  tauto

/-- What the turn of the entry from `a` to `n` does to the copy, by what the entry becomes. -/
inductive Moves (w : Mapping) (a n : String) : Option (String × String) → Mapping → Prop
  | drop : Moves w a n none (w.erase a)
  | keep : Moves w a n (some (a, n)) w
  | retarget {t : String} : t ≠ n → ¬w.Leads t a → Moves w a n (some (a, t)) (w.insert a t)
  | merge {x t : String} : x ≠ a → w.get? x = some t → Moves w a n (some (x, t)) (w.erase a)
  | move {x t : String} : x ≠ a → w.get? x = none → ¬w.Leads t x →
      Moves w a n (some (x, t)) ((w.erase a).insert x t)

namespace Moves
variable {w w' : Mapping} {g : Option (String × String)}

theorem keeps {P : Mapping → Prop} {Q : Notice → Prop} (hrules : Rules P Q) (h : Moves w a n (target a' n') w')
    (hw : P w) : P w' := by
  generalize hg : target a' n' = g at h
  cases h with
  | drop => exact hrules.erase hw
  | keep => exact hw
  | retarget hne hlead =>
    obtain ⟨-, -, ha, ht, hne⟩ := target_eq_some_iff.mp hg
    exact hrules.insert hw hne hlead ha ht
  | merge => exact hrules.erase hw
  | move hne hfree hlead =>
    obtain ⟨-, -, hx, ht, hne⟩ := target_eq_some_iff.mp hg
    exact hrules.insert (hrules.erase hw) hne (fun h => hlead h.erase) hx ht

/-! What a turn does to an entry: that of another alias stays, its own becomes its target, and no other comes
    in. -/

theorem get?_of_ne {k l : String} (h : Moves w a n g w') (hk : k ≠ a) (hget : w.get? k = some l) :
    w'.get? k = some l := by
  cases h with
  | drop => rw [Mapping.get?_erase, if_neg hk, hget]
  | keep => exact hget
  | retarget => rw [Mapping.get?_insert, if_neg hk, hget]
  | merge => rw [Mapping.get?_erase, if_neg hk, hget]
  | @move x t _ hfree =>
    have hne : k ≠ x := by
      rintro rfl
      rw [hget] at hfree
      cases hfree
    rw [Mapping.get?_insert, if_neg hne, Mapping.get?_erase, if_neg hk, hget]

theorem get?_target (h : Moves w a n (some (x, t)) w') (ha : w.get? a = some n) : w'.get? x = some t := by
  cases h with
  | keep => exact ha
  | retarget => rw [Mapping.get?_insert, if_pos rfl]
  | merge hne hsame => rw [Mapping.get?_erase, if_neg hne, hsame]
  | move => rw [Mapping.get?_insert, if_pos rfl]

theorem origin {k l : String} (h : Moves w a n g w') (ha : w.get? a = some n) (hk : w'.get? k = some l) :
    (k ≠ a ∧ w.get? k = some l) ∨ g = some (k, l) := by
  have kept : (w.erase a).get? k = some l → k ≠ a ∧ w.get? k = some l := by
    intro hk
    rw [Mapping.get?_erase] at hk
    split at hk
    · cases hk
    · exact ⟨‹_›, hk⟩
  cases h with
  | drop => exact Or.inl (kept hk)
  | keep =>
    by_cases hka : k = a
    · subst hka
      rw [ha] at hk
      exact Or.inr (by rw [Option.some.inj hk])
    · exact Or.inl ⟨hka, hk⟩
  | retarget =>
    rw [Mapping.get?_insert] at hk
    split at hk
    · rename_i hka
      exact Or.inr (by rw [hka, Option.some.inj hk])
    · exact Or.inl ⟨‹_›, hk⟩
  | merge => exact Or.inl (kept hk)
  | move =>
    rw [Mapping.get?_insert] at hk
    split at hk
    · rename_i hkx
      exact Or.inr (by rw [hkx, Option.some.inj hk])
    · exact Or.inl (kept hk)

theorem same_iff : Moves w a n (some (a, t)) w' ↔
    (t = n ∧ w' = w) ∨ (t ≠ n ∧ ¬w.Leads t a ∧ w' = w.insert a t) := by
  constructor
  · intro h
    cases h with
    | keep => exact Or.inl ⟨rfl, rfl⟩
    | retarget hne hlead => exact Or.inr ⟨hne, hlead, rfl⟩
    | merge hne => exact absurd rfl hne
    | move hne => exact absurd rfl hne
  · rintro (⟨rfl, rfl⟩ | ⟨hne, hlead, rfl⟩)
    · exact .keep
    · exact .retarget hne hlead

theorem other_iff (hx : x ≠ a) : Moves w a n (some (x, t)) w' ↔
    (w.get? x = some t ∧ w' = w.erase a) ∨ (w.get? x = none ∧ ¬w.Leads t x ∧ w' = (w.erase a).insert x t) := by
  constructor
  · intro h
    cases h with
    | keep => exact absurd rfl hx
    | retarget => exact absurd rfl hx
    | merge _ hsame => exact Or.inl ⟨hsame, rfl⟩
    | move _ hfree hlead => exact Or.inr ⟨hfree, hlead, rfl⟩
  · rintro (⟨hsame, rfl⟩ | ⟨hfree, hlead, rfl⟩)
    · exact .merge hx hsame
    · exact .move hx hfree hlead

end Moves

theorem step_of_target_none {p : Renaming} (h : target a' n' = none) :
    p.step a n a' n' = { notices := [.dropped a n], outcome := .ok (p.change (p.working.erase a)) } := by
  unfold target at h
  unfold step
  cases hx : usable a' with
  | none => rfl
  | some x =>
    cases ht : usable n' with
    | none => rfl
    | some t =>
      have heq : x = t := by
        by_contra hne
        simp only [hx, ht, if_neg hne, reduceCtorEq] at h
      simp only [heq, if_true]

theorem step_of_target_some {p : Renaming} (h : target a' n' = some (x, t)) : (p.step a n a' n').outcome =
    if x = a then
      if t = n then .ok p else (p.working.place t a).outcome.map p.change
    else
      match p.working.get? x with
      | some existing =>
        if existing = t then .ok (p.change (p.working.erase a)) else .error (.resolvedConflict x t existing a)
      | none =>
        if (p.working.walk t).reaches x then .error (.circular x t)
        else .ok (p.change ((p.working.erase a).insert x t)) := by
  obtain ⟨rfl, rfl, hx, ht, hne⟩ := target_eq_some_iff.mp h
  simp only [step, usable, hx, ht, Bool.false_eq_true, if_false, hne]
  by_cases hxa : x = a
  · rw [if_pos hxa, if_pos hxa]
    split <;> rfl
  · rw [if_neg hxa, if_neg hxa]
    cases p.working.get? x with
    | some existing =>
      dsimp only
      split <;> rfl
    | none =>
      dsimp only
      split <;> rfl

theorem step_same {p q : Renaming} (h : target a' n' = some (a, t)) : (p.step a n a' n').outcome = .ok q ↔
    (t = n ∧ q = p) ∨ (t ≠ n ∧ ¬p.working.Leads t a ∧ q = p.change (p.working.insert a t)) := by
  rw [step_of_target_some h, if_pos rfl]
  by_cases ht : t = n
  · rw [if_pos ht]
    simp [ht, eq_comm]
  · rw [if_neg ht]
    cases hp : (p.working.place t a).outcome with
    | error e =>
      have hno : ¬(¬p.working.Leads t a) := by
        intro hlead
        rw [Mapping.place_eq_ok_iff.mpr ⟨hlead, rfl⟩] at hp
        cases hp
      simp [Except.map, ht, hno]
    | ok w =>
      obtain ⟨hlead, rfl⟩ := Mapping.place_eq_ok_iff.mp hp
      simp [Except.map, ht, hlead, eq_comm]

theorem step_other {p q : Renaming} (h : target a' n' = some (x, t)) (hx : x ≠ a) :
    (p.step a n a' n').outcome = .ok q ↔
      (p.working.get? x = some t ∧ q = p.change (p.working.erase a)) ∨
      (p.working.get? x = none ∧ ¬p.working.Leads t x ∧ q = p.change ((p.working.erase a).insert x t)) := by
  rw [step_of_target_some h, if_neg hx]
  cases hget : p.working.get? x with
  | some existing =>
    by_cases he : existing = t
    · simp [he, eq_comm]
    · simp [he]
  | none =>
    rw [← Mapping.reaches_walk_iff]
    by_cases hlead : (p.working.walk t).reaches x = true
    · simp [hlead]
    · simp [hlead, eq_comm]

/-- A step ends in a conflict exactly if its new alias is another one and stands for something else. -/
theorem step_conflict_iff {p : Renaming} {existing : String} (h : target a' n' = some (x, t)) :
    (p.step a n a' n').outcome = .error (.resolvedConflict x t existing a) ↔
      x ≠ a ∧ p.working.get? x = some existing ∧ existing ≠ t := by
  rw [step_of_target_some h]
  by_cases hxa : x = a
  · rw [if_pos hxa]
    simp only [hxa, ne_eq, not_true, false_and, iff_false]
    split
    · simp
    · unfold Mapping.place
      dsimp only
      split <;> simp [Except.map]
  · rw [if_neg hxa]
    cases hget : p.working.get? x with
    | some other =>
      by_cases ho : other = t
      · simp only [ho, if_true, reduceCtorEq, Option.some.injEq, false_iff, not_and, not_not]
        exact fun _ heq => heq.symm
      · simp only [ho, if_false, Except.error.injEq, AliasError.resolvedConflict.injEq, true_and, and_true,
          Option.some.injEq, ne_eq, hxa, not_false_eq_true]
        constructor
        · rintro rfl
          exact ⟨rfl, ho⟩
        · exact And.left
    | none =>
      dsimp only
      split <;> simp

/-- A step succeeds exactly where its turn can be taken. Only an entry that stays as it is does not count as
    changed. -/
theorem step_eq_ok_iff {p q : Renaming} : (p.step a n a' n').outcome = .ok q ↔
    ∃ w, Moves p.working a n (target a' n') w ∧
      q = if target a' n' = some (a, n) then p else p.change w := by
  cases hg : target a' n' with
  | none =>
    rw [step_of_target_none hg]
    constructor
    · intro h
      cases h
      exact ⟨_, .drop, rfl⟩
    · rintro ⟨w, hm, rfl⟩
      cases hm
      rfl
  | some e =>
    obtain ⟨x, t⟩ := e
    by_cases hx : x = a
    · subst hx
      simp only [step_same hg, Moves.same_iff]
      constructor
      · rintro (⟨rfl, rfl⟩ | ⟨ht, hlead, rfl⟩)
        · exact ⟨_, Or.inl ⟨rfl, rfl⟩, by rw [if_pos rfl]⟩
        · exact ⟨_, Or.inr ⟨ht, hlead, rfl⟩, by rw [if_neg (by simp [ht])]⟩
      · rintro ⟨w, ⟨rfl, -⟩ | ⟨ht, hlead, rfl⟩, rfl⟩
        · exact Or.inl ⟨rfl, by rw [if_pos rfl]⟩
        · exact Or.inr ⟨ht, hlead, by rw [if_neg (by simp [ht])]⟩
    · have hnew : ¬some (x, t) = some (a, n) := by simp [hx]
      simp only [step_other hg hx, Moves.other_iff hx, if_neg hnew]
      constructor
      · rintro (⟨hsame, rfl⟩ | ⟨hfree, hlead, rfl⟩)
        · exact ⟨_, Or.inl ⟨hsame, rfl⟩, rfl⟩
        · exact ⟨_, Or.inr ⟨hfree, hlead, rfl⟩, rfl⟩
      · rintro ⟨w, ⟨hsame, rfl⟩ | ⟨hfree, hlead, rfl⟩, rfl⟩
        · exact Or.inl ⟨hsame, rfl⟩
        · exact Or.inr ⟨hfree, hlead, rfl⟩

theorem moves_of_step {p q : Renaming} (h : (p.step a n a' n').outcome = .ok q) :
    Moves p.working a n (target a' n') q.working := by
  obtain ⟨w, hm, rfl⟩ := step_eq_ok_iff.mp h
  split
  · rename_i hkeep
    rw [hkeep]
    exact .keep
  · exact hm

theorem exists_step {p : Renaming} {w : Mapping} (h : Moves p.working a n (target a' n') w) :
    ∃ q, (p.step a n a' n').outcome = .ok q ∧ q.working = w := by
  refine ⟨_, step_eq_ok_iff.mpr ⟨w, h, rfl⟩, ?_⟩
  split
  · rename_i hkeep
    rw [hkeep, Moves.same_iff] at h
    rcases h with ⟨-, rfl⟩ | ⟨hne, -⟩
    · rfl
    · exact absurd rfl hne
  · rfl

/-- What a step tells is that an entry is dropped, or where a walk along the copy as it is would have gone in a circle. -/
theorem mem_notices_step {p : Renaming} {note : Notice} (h : note ∈ (p.step a n a' n').notices) :
    note = .dropped a n ∨ ∃ x y, note = .circularChain x y ∧ (p.working.walk x).again = some y := by
  have hdropped : ∀ note ∈ [Notice.dropped a n], note = .dropped a n := fun _ hnote => List.mem_singleton.mp hnote
  have hwalk : ∀ x, ∀ note ∈ (p.working.walk x).notices,
      ∃ x y, note = .circularChain x y ∧ (p.working.walk x).again = some y := by
    intro x note hnote
    obtain ⟨y, hy, rfl⟩ := List.mem_map.mp hnote
    exact ⟨x, y, by rw [Mapping.start_walk], Option.mem_toList.mp hy⟩
  have hplace : ∀ x, ∀ note ∈ (p.working.place x a).notices,
      ∃ x y, note = .circularChain x y ∧ (p.working.walk x).again = some y := by
    intro x
    unfold Mapping.place
    dsimp only
    split
    · simp
    · exact hwalk x
  unfold step at h
  dsimp only at h
  split at h
  · split at h
    · exact Or.inl (hdropped note h)
    · split at h
      · split at h
        · cases h
        · exact Or.inr (hplace _ note h)
      · split at h
        · split at h <;> cases h
        · split at h
          · cases h
          · exact Or.inr (hwalk _ note h)
  · exact Or.inl (hdropped note h)

theorem notices_step {P : Mapping → Prop} {Q : Notice → Prop} (hrules : Rules P Q) {p : Renaming} (hp : P p.working)
    (a n : String) (a' n' : Option String) : ∀ note ∈ (p.step a n a' n').notices, Q note := by
  intro note hnote
  rcases mem_notices_step hnote with rfl | ⟨x, y, rfl, hagain⟩
  · exact hrules.routine _ rfl
  · exact (hrules.walk hp hagain).1

end Renaming

end AliasBook
