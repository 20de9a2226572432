import AliasBook.Proofs.Renaming.Pass
import Mathlib.Data.List.Nodup

/-! What the copy holds in the middle of a pass by a function, exactly (`Passes.get?_iff_remains`): an entry that
    waits is there, and what an entry became is there unless the same pair had a turn of its own after it. -/

namespace AliasBook.Renaming
variable {r : String → Option String} {done rest pre : List (String × String)} {e d y : String × String}
  {m w w' v : Mapping} {a n x t : String} {g : Option (String × String)}

/-- The pair is in the copy after the turns of `done`, while `rest` waits. -/
def Remains (r : String → Option String) (done rest : List (String × String)) (x t : String) : Prop :=
  (x, t) ∈ rest ∨ ∃ d ∈ done, image r d = some (x, t) ∧ ¬[d, (x, t)].Sublist done

theorem Moves.get?_iff (h : Moves w a n g w') (ha : w.get? a = some n) :
    w'.get? x = some t ↔ g = some (x, t) ∨ ((x, t) ≠ (a, n) ∧ w.get? x = some t) := by
  constructor
  · intro hx
    rcases h.origin ha hx with ⟨hne, hx⟩ | hg
    · exact Or.inr ⟨fun heq => hne (congrArg Prod.fst heq), hx⟩
    · exact Or.inl hg
  · rintro (rfl | ⟨hne, hx⟩)
    · exact h.get?_target ha
    · refine h.get?_of_ne (fun hxa => hne ?_) hx
      rw [hxa, ha] at hx
      rw [hxa, Option.some.inj hx]

theorem pair_sublist_snoc : [d, y].Sublist (done ++ [e]) ↔ [d, y].Sublist done ∨ (d ∈ done ∧ y = e) := by
  rw [List.sublist_append_iff]
  constructor
  · rintro ⟨l₁, l₂, heq, h₁, h₂⟩
    match l₁, heq with
    | [], heq =>
      have hlong := h₂.length_le
      rw [List.nil_append] at heq
      simp [← heq] at hlong
    | [_], heq =>
      obtain ⟨rfl, rfl⟩ := List.cons.inj heq
      exact Or.inr ⟨List.singleton_sublist.mp h₁, List.mem_singleton.mp (List.singleton_sublist.mp h₂)⟩
    | _ :: _ :: l, heq =>
      simp only [List.cons_append, List.cons.injEq] at heq
      obtain ⟨rfl, rfl, hl⟩ := heq
      rw [(List.append_eq_nil_iff.mp hl.symm).1] at h₁
      exact Or.inl h₁
  · rintro (h | ⟨hd, rfl⟩)
    · exact ⟨[d, y], [], by simp, h, List.nil_sublist _⟩
    · exact ⟨[d], [y], rfl, List.singleton_sublist.mpr hd, List.Sublist.refl _⟩

/-- A turn takes its own pair away and puts what it becomes in its place. -/
theorem remains_snoc (hnodup : (done ++ e :: rest).Nodup) : Remains r (done ++ [e]) rest x t ↔
    image r e = some (x, t) ∨ ((x, t) ≠ e ∧ Remains r done (e :: rest) x t) := by
  obtain ⟨-, hrest, hdisjoint⟩ := List.nodup_append.mp hnodup
  have hnew : e ∉ done := fun he => hdisjoint e he e List.mem_cons_self rfl
  unfold Remains
  constructor
  · rintro (hwait | ⟨d, hd, himage, hlast⟩)
    · refine Or.inr ⟨?_, Or.inl (List.mem_cons_of_mem e hwait)⟩
      rintro rfl
      exact (List.nodup_cons.mp hrest).1 hwait
    · rw [pair_sublist_snoc, not_or, not_and] at hlast
      rcases List.mem_append.mp hd with hd | hd
      · exact Or.inr ⟨hlast.2 hd, Or.inr ⟨d, hd, himage, hlast.1⟩⟩
      · rw [List.mem_singleton.mp hd] at himage
        exact Or.inl himage
  · rintro (himage | ⟨hne, hwait | ⟨d, hd, himage, hlast⟩⟩)
    · refine Or.inr ⟨e, by simp, himage, fun hlast => ?_⟩
      rcases pair_sublist_snoc.mp hlast with hlast | ⟨he, -⟩
      · exact hnew (hlast.subset List.mem_cons_self)
      · exact hnew he
    · exact Or.inl ((List.mem_cons.mp hwait).resolve_left hne)
    · refine Or.inr ⟨d, List.mem_append_left _ hd, himage, fun hlater => ?_⟩
      rcases pair_sublist_snoc.mp hlater with hlater | ⟨-, heq⟩
      · exact hlast hlater
      · exact hne heq

theorem Passes.get?_remains (h : Passes w (turns r pre) v)
    (hw : ∀ x t, w.get? x = some t ↔ Remains r done (pre ++ rest) x t) (hnodup : (done ++ (pre ++ rest)).Nodup) :
    ∀ x t, v.get? x = some t ↔ Remains r (done ++ pre) rest x t := by
  induction pre generalizing done w with
  | nil =>
    cases h
    simpa using hw
  | cons e pre ih =>
    rw [List.cons_append] at hw hnodup
    cases h with
    | @cons _ u _ _ _ hm hp =>
      have he : w.get? e.1 = some e.2 := (hw e.1 e.2).mpr (Or.inl List.mem_cons_self)
      have hstep : ∀ x t, u.get? x = some t ↔ Remains r (done ++ [e]) (pre ++ rest) x t := by
        intro x t
        rw [remains_snoc hnodup, ← hw]
        exact hm.get?_iff he
      simpa using ih hp hstep (by simpa using hnodup)

/-- After the turns of the first entries the copy holds exactly the pairs that remain. -/
theorem Passes.get?_iff_remains (h : Passes m (turns r done) w) (hsplit : m.entries = done ++ rest) :
    w.get? x = some t ↔ Remains r done rest x t := by
  have hnodup : m.entries.Nodup := .of_map Prod.fst m.nodup
  have hstart : ∀ x t, m.get? x = some t ↔ Remains r [] (done ++ rest) x t := by
    intro x t
    simp [Remains, Mapping.get?_eq_some_iff, hsplit]
  exact h.get?_remains hstart (by simpa [hsplit] using hnodup) x t

/-- A whole pass leaves what the entries became, but for those of which the same pair had its turn later. -/
theorem Passes.mem_iff (h : Passes m (turns r m.entries) v) :
    y ∈ v.entries ↔ ∃ d ∈ m.entries, image r d = some y ∧ ¬[d, y].Sublist m.entries := by
  rw [← Mapping.get?_eq_some_iff, h.get?_iff_remains (List.append_nil _).symm]
  simp [Remains]

theorem Passes.leads_iff_remains (h : Passes m (turns r done) w) (hsplit : m.entries = done ++ rest) :
    w.Leads x t ↔ Relation.TransGen (Remains r done rest) x t := by
  have hsame : (fun a n => w.get? a = some n) = Remains r done rest := by
    funext a n
    exact propext (h.get?_iff_remains hsplit)
  rw [Mapping.Leads, hsame]

end AliasBook.Renaming
