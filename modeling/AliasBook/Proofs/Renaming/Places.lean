import AliasBook.Proofs.Mapping.Fresh
import AliasBook.Proofs.Renaming.Contents

/-! The places of entries in a pass by a function. An entry that keeps its alias keeps its place, and one that moves
    comes behind all others. So in the end the entries that stayed are in front and those that moved are behind them,
    each of the two in the order of the turns (`Passes.entries_eq`). -/

namespace AliasBook

namespace Mapping
variable {m : Mapping} {front back : List (String × String)} {a n t : String}

theorem not_mem_keys_of_split (h : m.entries = front ++ (a, n) :: back) :
    a ∉ front.map Prod.fst ∧ a ∉ back.map Prod.fst := by
  have hnodup := m.nodup
  rw [h, List.map_append, List.map_cons] at hnodup
  obtain ⟨-, hback, hdisjoint⟩ := List.nodup_append.mp hnodup
  exact ⟨fun ha => hdisjoint a ha a List.mem_cons_self rfl, (List.nodup_cons.mp hback).1⟩

theorem dropEntry_of_free {es : List (String × String)} (h : a ∉ es.map Prod.fst) : dropEntry a es = es := by
  refine List.filter_eq_self.mpr fun e he => ?_
  have hne : e.1 ≠ a := fun heq => h (heq ▸ List.mem_map_of_mem he)
  simpa using hne

theorem putEntry_append {es : List (String × String)} (h : a ∉ front.map Prod.fst) :
    putEntry a t (front ++ es) = front ++ putEntry a t es := by
  induction front with
  | nil => rfl
  | cons e front ih =>
    rw [List.map_cons, List.mem_cons, not_or] at h
    rw [List.cons_append, putEntry, if_neg (fun heq => h.1 heq.symm), ih h.2, List.cons_append]

theorem entries_erase (h : m.entries = front ++ (a, n) :: back) : (m.erase a).entries = front ++ back := by
  obtain ⟨hfront, hback⟩ := not_mem_keys_of_split h
  have hfront := dropEntry_of_free hfront
  have hback := dropEntry_of_free hback
  show dropEntry a m.entries = front ++ back
  unfold dropEntry at hfront hback ⊢
  rw [h, List.filter_append, List.filter_cons_of_neg (by simp), hfront, hback]

/-- An alias that has an entry gets its new name in its place. -/
theorem entries_insert (h : m.entries = front ++ (a, n) :: back) :
    (m.insert a t).entries = front ++ (a, t) :: back := by
  obtain ⟨hfront, -⟩ := not_mem_keys_of_split h
  show putEntry a t m.entries = front ++ (a, t) :: back
  rw [h, putEntry_append hfront, putEntry, if_pos rfl]

/-- An alias that has none comes last. -/
theorem entries_insert_of_free (h : m.get? a = none) : (m.insert a t).entries = m.entries ++ [(a, t)] :=
  putEntry_of_free (get?_eq_none_iff.mp h)

end Mapping

namespace Renaming
variable {r : String → Option String} {done rest pre front back : List (String × String)} {e y : String × String}
  {m w w' v : Mapping} {a n x t : String} {g : Option (String × String)}

/-- What the entry becomes if it keeps its alias. -/
def stayed (r : String → Option String) (e : String × String) : Option (String × String) :=
  (image r e).filter fun y => y.1 = e.1

/-- What the entry becomes if it gets another alias. -/
def moved (r : String → Option String) (e : String × String) : Option (String × String) :=
  (image r e).filter fun y => y.1 ≠ e.1

theorem stayed_eq_some_iff : stayed r (a, n) = some (x, t) ↔
    x = a ∧ r a = some a ∧ r n = some t ∧ Text.isBlank a = false ∧ Text.isBlank t = false ∧ t ≠ a := by
  rw [stayed, Option.filter_eq_some_iff, image, target_eq_some_iff, decide_eq_true_iff]
  constructor
  · rintro ⟨⟨ha, hn, hx, ht, hne⟩, rfl⟩
    exact ⟨rfl, ha, hn, hx, ht, hne.symm⟩
  · rintro ⟨rfl, ha, hn, hx, ht, hne⟩
    exact ⟨⟨ha, hn, hx, ht, hne.symm⟩, rfl⟩

theorem moved_eq_some_iff : moved r (a, n) = some (x, t) ↔
    x ≠ a ∧ r a = some x ∧ r n = some t ∧ Text.isBlank x = false ∧ Text.isBlank t = false ∧ x ≠ t := by
  rw [moved, Option.filter_eq_some_iff, image, target_eq_some_iff, decide_eq_true_iff, and_comm]

/-- A turn takes the entry out of its place, and puts what it becomes there or behind all others. -/
theorem Moves.entries_eq (h : Moves w a n g w') (hw : w.entries = front ++ (a, n) :: back) :
    ∃ late, late.Sublist (g.filter fun y => y.1 ≠ a).toList ∧
      w'.entries = front ++ (g.filter fun y => y.1 = a).toList ++ (back ++ late) := by
  cases h with
  | drop => exact ⟨[], List.nil_sublist _, by simp [Mapping.entries_erase hw]⟩
  | keep => exact ⟨[], List.nil_sublist _, by simp [hw, Option.filter_some]⟩
  | retarget => exact ⟨[], List.nil_sublist _, by simp [Mapping.entries_insert hw, Option.filter_some]⟩
  | merge hne => exact ⟨[], List.nil_sublist _, by simp [Mapping.entries_erase hw, hne]⟩
  | @move x t hne hfree =>
    have hlast : (w.erase a).get? x = none := by rw [Mapping.get?_erase, if_neg hne, hfree]
    refine ⟨[(x, t)], by simp [hne], ?_⟩
    simp [Mapping.entries_insert_of_free hlast, Mapping.entries_erase hw, hne]

/-- After the turns of `done` the entries that stayed come first, then those that wait, then those that moved. -/
def Arranged (r : String → Option String) (done rest : List (String × String)) (w : Mapping) : Prop :=
  ∃ late, late.Sublist (done.filterMap (moved r)) ∧ w.entries = done.filterMap (stayed r) ++ (rest ++ late)

theorem Arranged.step (h : Arranged r done (e :: rest) w) (hm : Moves w e.1 e.2 (image r e) w') :
    Arranged r (done ++ [e]) rest w' := by
  obtain ⟨late, hlate, hw⟩ := h
  rw [List.cons_append] at hw
  obtain ⟨last, hlast, hw'⟩ := hm.entries_eq hw
  have hsnoc : ∀ f : String × String → Option (String × String),
      (done ++ [e]).filterMap f = done.filterMap f ++ (f e).toList := by
    intro f
    rw [List.filterMap_append]
    cases hf : f e <;> simp [hf]
  refine ⟨late ++ last, ?_, ?_⟩
  · rw [hsnoc]
    exact hlate.append hlast
  · rw [hsnoc, hw', List.append_assoc rest]
    rfl

theorem Passes.arranged (h : Passes w (turns r pre) v) (hw : Arranged r done (pre ++ rest) w) :
    Arranged r (done ++ pre) rest v := by
  induction pre generalizing done w with
  | nil =>
    cases h
    simpa using hw
  | cons e pre ih =>
    cases h with
    | cons hm hp => simpa using ih hp (hw.step hm)

/-- After a pass the entries that stayed come first and then those that moved, in the order of their turns. -/
theorem Passes.entries_eq (h : Passes m (turns r m.entries) v) :
    ∃ late, late.Sublist (m.entries.filterMap (moved r)) ∧ v.entries = m.entries.filterMap (stayed r) ++ late := by
  have hstart : Arranged r [] (m.entries ++ []) m := ⟨[], List.nil_sublist _, by simp⟩
  simpa [Arranged] using h.arranged hstart

end Renaming

end AliasBook
