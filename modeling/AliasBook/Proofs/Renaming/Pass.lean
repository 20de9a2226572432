import AliasBook.Proofs.Renaming.Turn

/-! A pass as the turns of its entries. What a pass leaves depends on the mapping and the answers only:
    `run` takes turns with given answers, and `Passes` says what they do to the copy. While it lasts, the
    entries that wait are as they were, and every other entry is what one of those before became
    (`Midway`). -/

namespace AliasBook.Renaming

/-- An entry, and what its alias and its name became. -/
structure Turn where
  entry : String × String
  answers : Option String × Option String

def Turn.target (t : Turn) : Option (String × String) :=
  Renaming.target t.answers.1 t.answers.2

/-- Takes turns one by one, until one is refused. -/
def run : Renaming → List Turn → Except AliasError Renaming
  | p, [] => .ok p
  | p, t :: ts => (p.step t.entry.1 t.entry.2 t.answers.1 t.answers.2).outcome.bind (run · ts)

/-- Turns that can all be taken, and what they make of the copy. -/
inductive Passes : Mapping → List Turn → Mapping → Prop
  | nil {w : Mapping} : Passes w [] w
  | cons {w u v : Mapping} {t : Turn} {ts : List Turn} :
      Moves w t.entry.1 t.entry.2 t.target u → Passes u ts v → Passes w (t :: ts) v

section Run
variable {p q : Renaming} {t : Turn} {ts us : List Turn} {w v : Mapping}

theorem run_cons_eq_ok_iff : p.run (t :: ts) = .ok q ↔
    ∃ p', (p.step t.entry.1 t.entry.2 t.answers.1 t.answers.2).outcome = .ok p' ∧ p'.run ts = .ok q := by
  rw [run]
  cases hstep : (p.step t.entry.1 t.entry.2 t.answers.1 t.answers.2).outcome with
  | error e => simp [Except.bind]
  | ok p' => simp [Except.bind]

/-- A run succeeds exactly where its turns can be taken. -/
theorem run_iff_passes : (∃ q, p.run ts = .ok q ∧ q.working = w) ↔ Passes p.working ts w := by
  induction ts generalizing p with
  | nil =>
    constructor
    · rintro ⟨q, hrun, rfl⟩
      cases hrun
      exact .nil
    · intro h
      cases h
      exact ⟨p, rfl, rfl⟩
  | cons t ts ih =>
    constructor
    · rintro ⟨q, hrun, hq⟩
      obtain ⟨p', hstep, hrun⟩ := run_cons_eq_ok_iff.mp hrun
      exact .cons (moves_of_step hstep) (ih.mp ⟨q, hrun, hq⟩)
    · intro h
      cases h with
      | cons hm hp =>
        obtain ⟨p', hstep, rfl⟩ := exists_step hm
        obtain ⟨q, hrun, hq⟩ := ih.mpr hp
        exact ⟨q, run_cons_eq_ok_iff.mpr ⟨p', hstep, hrun⟩, hq⟩

theorem Passes.sound (h : Passes w ts v) (hw : w.Sound) : v.Sound := by
  induction h with
  | nil => exact hw
  | cons hm _ ih => exact ih (hm.keeps .sound hw)

theorem passes_append : Passes w (ts ++ us) v ↔ ∃ u, Passes w ts u ∧ Passes u us v := by
  induction ts generalizing w with
  | nil =>
    constructor
    · exact fun h => ⟨w, .nil, h⟩
    · rintro ⟨u, hu, h⟩
      cases hu
      exact h
  | cons t ts ih =>
    constructor
    · intro h
      cases h with
      | cons hm hp =>
        obtain ⟨u, hu, h⟩ := ih.mp hp
        exact ⟨u, .cons hm hu, h⟩
    · rintro ⟨u, hu, h⟩
      cases hu with
      | cons hm hp => exact .cons hm (ih.mpr ⟨u, hp, h⟩)

/-- Entries that become what they are stay, and so does everything else. -/
theorem passes_self (h : ∀ t ∈ ts, t.target = some t.entry) : Passes w ts w := by
  induction ts with
  | nil => exact .nil
  | cons t ts ih =>
    have hkeep : Moves w t.entry.1 t.entry.2 t.target w := by
      rw [h t List.mem_cons_self]
      exact .keep
    exact .cons hkeep (ih fun u hu => h u (List.mem_cons_of_mem t hu))

end Run

/-! ### Passes by a function -/

/-- What an entry becomes if a function answers. -/
def image (r : String → Option String) (e : String × String) : Option (String × String) :=
  target (r e.1) (r e.2)

/-- The turns of entries if a function answers. -/
def turns (r : String → Option String) (es : List (String × String)) : List Turn :=
  es.map fun e => ⟨e, (r e.1, r e.2)⟩

/-- The copy after some entries and before the rest. -/
structure Midway (r : String → Option String) (done rest : List (String × String)) (w : Mapping) : Prop where
  /-- Entries that wait are as they were. -/
  pending : ∀ e ∈ rest, w.get? e.1 = some e.2
  /-- Every other entry is what an earlier one became. -/
  origin : ∀ x t, w.get? x = some t → (x, t) ∈ rest ∨ ∃ e ∈ done, image r e = some (x, t)

/-- Everything that entries became is there. -/
def Written (r : String → Option String) (done : List (String × String)) (w : Mapping) : Prop :=
  ∀ e ∈ done, ∀ x t, image r e = some (x, t) → w.get? x = some t

/-- An entry that another one becomes stays as it is. -/
def Settled (r : String → Option String) (es : List (String × String)) : Prop :=
  ∀ e ∈ es, ∀ e' ∈ es, image r e = some e' → image r e' = some e'

section Midway
variable {r : String → Option String} {done rest pre post : List (String × String)} {e : String × String}
  {m w w' v : Mapping} {x t : String}

theorem midway_start (r : String → Option String) (m : Mapping) : Midway r [] m.entries m where
  pending := fun _ he => Mapping.get?_eq_some_iff.mpr he
  origin := fun _ _ h => Or.inl (Mapping.get?_eq_some_iff.mp h)

theorem Midway.step (h : Midway r done (e :: rest) w) (hnodup : ((e :: rest).map Prod.fst).Nodup)
    (hm : Moves w e.1 e.2 (image r e) w') : Midway r (done ++ [e]) rest w' := by
  have he : w.get? e.1 = some e.2 := h.pending e List.mem_cons_self
  rw [List.map_cons, List.nodup_cons] at hnodup
  constructor
  · intro d hd
    have hne : d.1 ≠ e.1 := fun heq => hnodup.1 (heq ▸ List.mem_map_of_mem hd)
    exact hm.get?_of_ne hne (h.pending d (List.mem_cons_of_mem e hd))
  · intro x t hx
    rcases hm.origin he hx with ⟨hne, hx⟩ | himage
    · rcases h.origin x t hx with hmem | ⟨d, hd, himage⟩
      · rcases List.mem_cons.mp hmem with heq | hmem
        · exact absurd (congrArg Prod.fst heq) hne
        · exact Or.inl hmem
      · exact Or.inr ⟨d, List.mem_append_left _ hd, himage⟩
    · exact Or.inr ⟨e, by simp, himage⟩

theorem Written.step (hw : Written r done w) (h : Midway r done (e :: rest) w)
    (hset : ∀ d ∈ done, image r d = some e → image r e = some e) (hm : Moves w e.1 e.2 (image r e) w') :
    Written r (done ++ [e]) w' := by
  have he : w.get? e.1 = some e.2 := h.pending e List.mem_cons_self
  intro d hd x t himage
  rcases List.mem_append.mp hd with hd | hd
  · have hx := hw d hd x t himage
    by_cases hxe : x = e.1
    · -- The entry whose turn it is was written before it came to it, so it is settled.
      subst hxe
      rw [he] at hx
      cases hx
      rw [hset d hd himage] at hm
      exact hm.get?_target he
    · exact hm.get?_of_ne hxe hx
  · rw [List.mem_singleton] at hd
    subst hd
    rw [himage] at hm
    exact hm.get?_target he

theorem Passes.midway (h : Passes w (turns r pre) v) (hmid : Midway r done (pre ++ rest) w)
    (hnodup : ((pre ++ rest).map Prod.fst).Nodup) : Midway r (done ++ pre) rest v := by
  induction pre generalizing done w with
  | nil =>
    cases h
    simpa using hmid
  | cons e pre ih =>
    cases h with
    | cons hm hp =>
      have hnext := ih hp (hmid.step hnodup hm) (List.nodup_cons.mp hnodup).2
      simpa using hnext

theorem Passes.split (h : Passes w (turns r (pre ++ e :: post)) v) :
    ∃ u u', Passes w (turns r pre) u ∧ Moves u e.1 e.2 (image r e) u' ∧ Passes u' (turns r post) v := by
  rw [turns, List.map_append] at h
  obtain ⟨u, hpre, h⟩ := passes_append.mp h
  cases h with
  | @cons _ u' _ _ _ hm hpost => exact ⟨u, u', hpre, hm, hpost⟩

theorem Passes.midway_first (h : Passes m (turns r pre) v) (hsplit : m.entries = pre ++ rest) :
    Midway r pre rest v ∧ (rest.map Prod.fst).Nodup := by
  have hstart := midway_start r m
  have hnodup := m.nodup
  rw [hsplit] at hstart hnodup
  have hmid : Midway r ([] ++ pre) rest v := h.midway hstart hnodup
  rw [List.map_append] at hnodup
  exact ⟨hmid, (List.nodup_append.mp hnodup).2.1⟩

theorem Passes.written (h : Passes w (turns r rest) v) (hmid : Midway r done rest w) (hw : Written r done w)
    (hnodup : (rest.map Prod.fst).Nodup) (hset : Settled r (done ++ rest)) : Written r (done ++ rest) v := by
  induction rest generalizing done w with
  | nil =>
    cases h
    simpa using hw
  | cons e rest ih =>
    cases h with
    | @cons _ u _ _ _ hm hp =>
      have hstep : Written r (done ++ [e]) u := by
        refine hw.step hmid (fun d hd => ?_) hm
        exact hset d (List.mem_append_left _ hd) e (by simp)
      have hnext := ih hp (hmid.step hnodup hm) hstep (List.nodup_cons.mp hnodup).2 (by simpa using hset)
      simpa using hnext

/-- Where entries that others become are settled, a pass leaves what the entries became, no less and no more. -/
theorem Passes.get?_iff (h : Passes m (turns r m.entries) v) (hset : Settled r m.entries) :
    v.get? x = some t ↔ ∃ e ∈ m.entries, image r e = some (x, t) := by
  obtain ⟨hmid, -⟩ := h.midway_first (List.append_nil m.entries).symm
  have hwritten := h.written (midway_start r m) (fun _ he => by cases he) m.nodup hset
  constructor
  · intro hx
    rcases hmid.origin x t hx with hmem | himage
    · cases hmem
    · exact himage
  · rintro ⟨e, he, himage⟩
    exact hwritten e he x t himage

end Midway

end AliasBook.Renaming
