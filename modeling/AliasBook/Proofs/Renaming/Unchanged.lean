import AliasBook.Proofs.Renaming.Contents

/-! Passes that change nothing. The entries are the same ones afterwards only if each of them was left as it is: what
    there is of a pair in the end is the pair itself or comes from an entry behind it (`Passes.fixes`). A run counts the
    entries that were not left as they are (`run_changed`). -/

namespace AliasBook.Renaming
variable {r : String → Option String} {m v : Mapping} {p q : Renaming} {ts : List Turn} {e : String × String}

/-- The function leaves both texts of the entry as they are, and they can be an entry. -/
def Fixes (r : String → Option String) (e : String × String) : Prop :=
  r e.1 = some e.1 ∧ r e.2 = some e.2 ∧ Text.isBlank e.1 = false ∧ Text.isBlank e.2 = false ∧ e.1 ≠ e.2

instance (r : String → Option String) (e : String × String) : Decidable (Fixes r e) :=
  inferInstanceAs (Decidable (_ ∧ _))

theorem fixes_iff : Fixes r e ↔ image r e = some e := target_eq_some_iff.symm

/-- Where no entry came in and none is gone, no two of them have changed places and none went into another: the last
    one can only be what it was itself, hence so can the one before it, and so on. -/
theorem Passes.fixes (h : Passes m (turns r m.entries) v) (hsame : ∀ e, e ∈ v.entries ↔ e ∈ m.entries) :
    ∀ e ∈ m.entries, Fixes r e := by
  suffices hall : ∀ front back, m.entries = front ++ back → ∀ e ∈ back, image r e = some e from
    fun e he => fixes_iff.mpr (hall [] m.entries rfl e he)
  intro front back hsplit
  induction back generalizing front with
  | nil => simp
  | cons e back ih =>
    have hback := ih (front ++ [e]) (by simp [hsplit])
    refine List.forall_mem_cons.mpr ⟨?_, hback⟩
    obtain ⟨d, hd, himage, hlast⟩ := h.mem_iff.mp ((hsame e).mpr (by simp [hsplit]))
    rw [hsplit] at hd hlast
    rcases List.mem_append.mp hd with hd | hd
    · have hfront : [d].Sublist front := List.singleton_sublist.mpr hd
      have hback : [e].Sublist (e :: back) := List.singleton_sublist.mpr List.mem_cons_self
      exact absurd (hfront.append hback) hlast
    · rcases List.mem_cons.mp hd with rfl | hd
      · exact himage
      · rw [hback d hd] at himage
        rw [Option.some.inj himage] at hd
        exact hback e hd

/-! ### Counting -/

/-- How many entries the function does not leave as they are. -/
def changes (r : String → Option String) (es : List (String × String)) : Nat :=
  es.countP fun e => ¬Fixes r e

theorem changes_eq_zero_iff {es : List (String × String)} : changes r es = 0 ↔ ∀ e ∈ es, Fixes r e := by
  simp [changes, List.countP_eq_zero]

/-- A run counts the turns whose entries do not stay as they are. -/
theorem run_changed (h : p.run ts = .ok q) : q.changed = p.changed + ts.countP fun t => t.target ≠ some t.entry := by
  induction ts generalizing p with
  | nil =>
    cases h
    rfl
  | cons t ts ih =>
    obtain ⟨p', hstep, hrun⟩ := run_cons_eq_ok_iff.mp h
    obtain ⟨w, -, hp'⟩ := step_eq_ok_iff.mp hstep
    rw [ih hrun, hp', List.countP_cons]
    by_cases hkeep : t.target = some t.entry
    · have hstays : target t.answers.1 t.answers.2 = some (t.entry.1, t.entry.2) := hkeep
      simp [hstays, hkeep]
    · have hchanges : ¬target t.answers.1 t.answers.2 = some (t.entry.1, t.entry.2) := hkeep
      simp [hchanges, hkeep, change]
      omega

theorem countP_turns (r : String → Option String) (es : List (String × String)) :
    ((turns r es).countP fun t => t.target ≠ some t.entry) = changes r es := by
  rw [turns, List.countP_map, changes]
  refine List.countP_congr fun e _ => ?_
  rw [decide_eq_true_iff, fixes_iff]
  exact decide_eq_true_iff

end AliasBook.Renaming
