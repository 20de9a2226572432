import AliasBook.Proofs.Registry.Isolation
import AliasBook.Proofs.Renaming.Places

/-! The points of a pass between two turns, whatever the resolver answers and does. What the copy holds there is settled
    by the turns before: an entry that waits is as it was, as a turn touches no entry but its own; what a turn gave an
    alias stays, as no turn of that alias is still to come; and a turn takes its entry out before one comes in
    (`resolve_between`). -/

namespace AliasBook

/-! ### The turns -/

namespace Renaming
variable {w v : Mapping} {a n x t : String} {g : Option (String × String)} {e : String × String} {ts : List Turn}
  {rest : List (String × String)}

/-- The turn of the entry, which found the copy `w` and left `v`, gave `x` the name `t`: it wrote the pair, or it left its
    own entry as it was. -/
def Gives (w v : Mapping) (e : String × String) (x t : String) : Prop :=
  v.get? x = some t ∧ (w.get? x ≠ some t ∨ (x, t) = e)

/-- A turn gives what its entry becomes, unless it is another alias's and was there before. -/
theorem Moves.gives_iff (h : Moves w a n g v) (ha : w.get? a = some n) :
    Gives w v (a, n) x t ↔ g = some (x, t) ∧ (x ≠ a → w.get? x = none) := by
  constructor
  · rintro ⟨hx, hnew⟩
    have hgiven : x ≠ a → w.get? x ≠ some t := fun hne => hnew.resolve_right fun heq => hne (congrArg Prod.fst heq)
    have himage : g = some (x, t) := by
      rcases h.origin ha hx with ⟨hne, hold⟩ | himage
      · exact absurd hold (hgiven hne)
      · exact himage
    refine ⟨himage, fun hne => ?_⟩
    rw [himage, Moves.other_iff hne] at h
    rcases h with ⟨hsame, -⟩ | ⟨hfree, -⟩
    · exact absurd hsame (hgiven hne)
    · exact hfree
  · rintro ⟨rfl, hfree⟩
    refine ⟨h.get?_target ha, ?_⟩
    by_cases hx : x = a
    · subst hx
      rw [ha]
      by_cases ht : t = n
      · exact Or.inr (by rw [ht])
      · exact Or.inl fun heq => ht (Option.some.inj heq).symm
    · rw [hfree hx]
      exact Or.inl (Option.some_ne_none t).symm

/-- An alias that a turn gives a name is none of those that wait. -/
theorem Moves.not_mem_of_gives (h : Moves w e.1 e.2 g v) (hwait : ∀ d ∈ e :: rest, w.get? d.1 = some d.2)
    (he : e.1 ∉ rest.map Prod.fst) (hgives : Gives w v e x t) : x ∉ rest.map Prod.fst := by
  obtain ⟨-, hfree⟩ := (h.gives_iff (hwait e List.mem_cons_self)).mp hgives
  intro hx
  obtain ⟨d, hd, rfl⟩ := List.mem_map.mp hx
  have hne : d.1 ≠ e.1 := fun heq => he (heq ▸ hx)
  have hd : w.get? d.1 = some d.2 := hwait d (List.mem_cons_of_mem e hd)
  rw [hfree hne] at hd
  cases hd

theorem Moves.size_le (h : Moves w a n g v) (ha : w.get? a = some n) : v.size ≤ w.size := by
  obtain ⟨front, back, hsplit⟩ := List.append_of_mem (Mapping.get?_eq_some_iff.mp ha)
  obtain ⟨late, hlate, hentries⟩ := h.entries_eq hsplit
  have hlate := hlate.length_le
  have hone : (g.filter fun y => y.1 = a).toList.length + (g.filter fun y => y.1 ≠ a).toList.length ≤ 1 := by
    cases g with
    | none => simp
    | some y => by_cases hy : y.1 = a <;> simp [Option.filter_some, hy]
  simp only [Mapping.size, hsplit, hentries, List.length_append, List.length_cons]
  omega

/-- The entry of an alias that has no turn stays. -/
theorem Passes.get?_of_not_mem (h : Passes w ts v) (hx : x ∉ (ts.map Turn.entry).map Prod.fst)
    (hget : w.get? x = some t) : v.get? x = some t := by
  induction h with
  | nil => exact hget
  | cons hm _ ih =>
    rw [List.map_cons, List.map_cons, List.mem_cons, not_or] at hx
    exact ih hx.2 (hm.get?_of_ne hx.1 hget)

theorem Passes.waits (h : Passes w ts v) (hnodup : ((ts.map Turn.entry ++ rest).map Prod.fst).Nodup)
    (hwait : ∀ e ∈ rest, w.get? e.1 = some e.2) : ∀ e ∈ rest, v.get? e.1 = some e.2 := by
  intro e he
  rw [List.map_append] at hnodup
  have hdisjoint := (List.nodup_append.mp hnodup).2.2
  refine h.get?_of_not_mem (fun hx => ?_) (hwait e he)
  exact hdisjoint e.1 hx e.1 (List.mem_map_of_mem he) rfl

theorem Passes.size_le (h : Passes w ts v) (hnodup : ((ts.map Turn.entry).map Prod.fst).Nodup)
    (hwait : ∀ e ∈ ts.map Turn.entry, w.get? e.1 = some e.2) : v.size ≤ w.size := by
  induction h with
  | nil => exact Nat.le_refl _
  | @cons w u v d ds hm _ ih =>
    rw [List.map_cons] at hnodup hwait
    have hd : w.get? d.entry.1 = some d.entry.2 := hwait d.entry List.mem_cons_self
    -- The others still wait when the turn of `d` is over.
    have hone : Passes w [d] u := .cons hm .nil
    have hnext := hone.waits (by simpa using hnodup) fun e he => hwait e (List.mem_cons_of_mem _ he)
    exact (ih (List.nodup_cons.mp hnodup).2 hnext).trans (hm.size_le hd)

theorem entries_answered {es : List (String × String)} {answers : List (Option String)}
    (h : answers.length = (Mapping.texts es).length) : (answered es answers).map Turn.entry = es := by
  induction es generalizing answers with
  | nil => simp [answered]
  | cons e es ih =>
    rcases answers with _ | ⟨a', _ | ⟨n', answers⟩⟩
    · simp [Mapping.texts] at h
    · simp [Mapping.texts] at h
    · have hrest : answers.length = (Mapping.texts es).length := by simpa [Mapping.texts] using h
      rw [answered, List.map_cons, ih hrest]

end Renaming

/-! ### The loop -/

namespace Action
open Renaming
variable {ρ : Type} {f : Resolver ρ} {s : Host ρ} {p q : Renaming} {done rest front back es : List (String × String)}
  {e : String × String}

theorem renameEntries_append (f : Resolver ρ) (p : Renaming) (es es' : List (String × String)) :
    renameEntries f p (es ++ es') = renameEntries f p es >>= fun q => renameEntries f q es' := by
  induction es generalizing p with
  | nil => rfl
  | cons e es ih => simp only [List.cons_append, renameEntries, ih, bind_assoc]

/-- The part of a pass that is over is turns of its entries. -/
theorem passes_of_renameEntries (h : result (renameEntries f p es) s = .ok q) :
    ∃ ts : List Turn, ts.map Turn.entry = es ∧ Passes p.working ts q.working := by
  obtain ⟨calls, -, -, -, haccount⟩ := renameEntries_recorded f p es s []
  obtain ⟨hasked, answers, hanswers, hrun⟩ := haccount.success q h
  have hlength : answers.length = (Mapping.texts es).length :=
    calc answers.length = (calls.map Call.answer).length := by rw [hanswers, List.length_map]
      _ = (calls.map Call.text).length := by rw [List.length_map, List.length_map]
      _ = (Mapping.texts es).length := by rw [hasked]
  exact ⟨answered es answers, entries_answered hlength, run_iff_passes.mp ⟨q, hrun, rfl⟩⟩

/-- A pass by the resolver from the state `s` stands between two turns: those of `done` are over and left `p`, and those
    of `rest` are to come. -/
structure Between (f : Resolver ρ) (s : Host ρ) (done rest : List (String × String)) (p : Renaming) : Prop where
  split : s.registry.mapping.entries = done ++ rest
  reached : result (renameEntries f (start s.registry.mapping) done) s = .ok p

/-- What is left to do of a pass that began with the registry of the given number. -/
def finish (f : Resolver ρ) (number : Nat) (p : Renaming) (rest : List (String × String)) : Action ρ Unit := do
  let q ← renameEntries f p rest
  commit number q

namespace Between

theorem nodup (h : Between f s done rest p) : ((done ++ rest).map Prod.fst).Nodup :=
  h.split ▸ s.registry.mapping.nodup

/-- A point between the same turns as before, and what the turns since then were. -/
theorem before (h : Between f s (front ++ back) rest p) : ∃ u, Between f s front (back ++ rest) u ∧
    result (renameEntries f u back) (after (renameEntries f (start s.registry.mapping) front) s) = .ok p := by
  have hreached := h.reached
  rw [renameEntries_append, result_bind] at hreached
  cases hfront : result (renameEntries f (start s.registry.mapping) front) s with
  | error fault =>
    rw [hfront] at hreached
    cases hreached
  | ok u =>
    rw [hfront] at hreached
    exact ⟨u, ⟨by rw [h.split, List.append_assoc], hfront⟩, hreached⟩

theorem passes (h : Between f s done rest p) :
    ∃ ts : List Turn, ts.map Turn.entry = done ∧ Passes s.registry.mapping ts p.working :=
  passes_of_renameEntries h.reached

theorem waits (h : Between f s done rest p) : ∀ e ∈ rest, p.working.get? e.1 = some e.2 := by
  obtain ⟨ts, rfl, hpasses⟩ := h.passes
  refine hpasses.waits h.nodup fun e he => Mapping.get?_eq_some_iff.mpr ?_
  rw [h.split]
  exact List.mem_append_right _ he

theorem size_le (h : Between f s done rest p) : p.working.size ≤ s.registry.mapping.size := by
  obtain ⟨ts, rfl, hpasses⟩ := h.passes
  have hnodup := h.nodup
  rw [List.map_append] at hnodup
  refine hpasses.size_le (List.nodup_append.mp hnodup).1 fun e he => Mapping.get?_eq_some_iff.mpr ?_
  rw [h.split]
  exact List.mem_append_left _ he

/-- The turn of an entry stands between two points, and what it gives is there at every point after it. -/
theorem given (h : Between f s (front ++ e :: back) rest p) : ∃ u v,
    Between f s front (e :: (back ++ rest)) u ∧ Between f s (front ++ [e]) (back ++ rest) v ∧
      ∀ x t, Gives u.working v.working e x t → p.working.get? x = some t := by
  rw [List.append_cons] at h
  obtain ⟨v, hv, hback⟩ := h.before
  obtain ⟨u, hu, hturn⟩ := hv.before
  change Between f s front (e :: (back ++ rest)) u at hu
  obtain ⟨us, hus, hpasses⟩ := passes_of_renameEntries hback
  obtain ⟨ts, hts, hone⟩ := passes_of_renameEntries hturn
  have hlater : e.1 ∉ (back ++ rest).map Prod.fst := by
    have hnodup := hu.nodup
    rw [List.map_append] at hnodup
    exact (List.nodup_cons.mp (List.nodup_append.mp hnodup).2.1).1
  refine ⟨u, v, hu, hv, fun x t hgives => ?_⟩
  obtain ⟨d, rfl, rfl⟩ := List.map_eq_singleton_iff.mp hts
  cases hone with
  | cons hm hnil =>
    cases hnil
    -- The alias has no turn among those of `back`, so that they leave it alone.
    have hx := hm.not_mem_of_gives hu.waits hlater hgives
    refine hpasses.get?_of_not_mem (fun hmem => hx ?_) hgives.1
    rw [List.map_append, ← hus]
    exact List.mem_append_left _ hmem

/-- What follows a point is what is left to do there. -/
theorem resolve_eq (h : Between f s done rest p) :
    let here := after (renameEntries f (start s.registry.mapping) done) s
    result (resolve (some f)) s = result (finish f s.registry.number p rest) here ∧
      after (resolve (some f)) s = after (finish f s.registry.number p rest) here := by
  have hwhole : renameAll f s >>= commit s.registry.number =
      renameEntries f (start s.registry.mapping) done >>= fun q => finish f s.registry.number q rest := by
    simp only [renameAll, finish, h.split, renameEntries_append, bind_assoc]
  show result (renameAll f s >>= commit s.registry.number) s = _ ∧
    after (renameAll f s >>= commit s.registry.number) s = _
  rw [hwhole, result_bind, after_bind, h.reached]
  exact ⟨rfl, rfl⟩

end Between

/-- At every point between two turns of renaming, each entry that waits is in the copy as it was, what an earlier turn
    wrote or left as it was is still there, and the copy is no larger than the mapping at the start. -/
theorem resolve_between (h : Between f s done rest p) :
    let m := s.registry.mapping
    let here := after (renameEntries f (start m) done) s
    (result (resolve (some f)) s = result (finish f s.registry.number p rest) here ∧
      after (resolve (some f)) s = after (finish f s.registry.number p rest) here) ∧
    (∀ e ∈ rest, p.working.get? e.1 = some e.2) ∧
    (∀ front e back, done = front ++ e :: back → ∃ u v,
      Between f s front (e :: (back ++ rest)) u ∧ Between f s (front ++ [e]) (back ++ rest) v ∧
        ∀ x t, Gives u.working v.working e x t → p.working.get? x = some t) ∧
    p.working.size ≤ m.size := by
  refine ⟨h.resolve_eq, h.waits, fun front e back hdone => ?_, h.size_le⟩
  subst hdone
  exact h.given

/-- Answers what the caller has ready, whatever the text. -/
def dictated : Resolver (List (Option String)) := fun _ => do
  let answers := (← get).caller
  modify fun s => { s with caller := answers.tail }
  return answers.headD none

theorem resolve_between_dictated :
    let m : Mapping := { entries := [("a", "n"), ("b", "m"), ("c", "k"), ("d", "l")] }
    let answers := [some "x", some "n", some "b", some "m", none, some "k", some "x", some "l"]
    let s : Host (List (Option String)) := { registry := { mapping := m }, caller := answers }
    ∃ p : Renaming, Between dictated s [("a", "n"), ("b", "m"), ("c", "k")] [("d", "l")] p ∧
      p.working.get? "d" = some "l" ∧ p.working.get? "x" = some "n" ∧ p.working.get? "b" = some "m" ∧
      p.working.size ≤ 4 ∧
      result (resolve (some dictated)) s = .error (.refused (.resolvedConflict "x" "l" "n" "d")) := by
  intro m answers s
  let p : Renaming := { working := { entries := [("b", "m"), ("d", "l"), ("x", "n")] }, changed := 2 }
  have hpoint : Between dictated s [("a", "n"), ("b", "m"), ("c", "k")] [("d", "l")] p := ⟨rfl, rfl⟩
  obtain ⟨⟨hresult, -⟩, hwaits, hgiven, hsize⟩ := resolve_between hpoint
  obtain ⟨u, v, hu, hv, ha⟩ := hgiven [] ("a", "n") [("b", "m"), ("c", "k")] rfl
  obtain ⟨u', v', hu', hv', hb⟩ := hgiven [("a", "n")] ("b", "m") [("c", "k")] rfl
  refine ⟨p, hpoint, hwaits ("d", "l") (by simp), ha "x" "n" ?_, hb "b" "m" ?_, hsize, hresult.trans rfl⟩
  · cases hu.reached
    cases hv.reached
    exact ⟨rfl, Or.inl (by decide)⟩
  · cases hu'.reached
    cases hv'.reached
    exact ⟨rfl, Or.inr rfl⟩

end Action

end AliasBook
