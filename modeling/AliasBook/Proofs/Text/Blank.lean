import AliasBook.Text.Blank
import Mathlib.Data.List.TakeWhile
import Mathlib.Tactic.Common

/-! What stripping leaves. Characters are padded from others if blanks are all that stands around those (`Padded`), and what
    is left of them once they are stripped is the one text they are padded from that no blank begins or ends
    (`stripChars_eq_iff`). -/

namespace AliasBook.Text
variable {c : Char} {s : String} {cs xs ys core front back : List Char}

/-- Nothing but blanks. -/
def Blanks (cs : List Char) : Prop := ∀ c ∈ cs, isBlankChar c = true

/-- The characters are the given ones with blanks in front and behind. -/
def Padded (core cs : List Char) : Prop :=
  ∃ front back, Blanks front ∧ Blanks back ∧ cs = front ++ core ++ back

instance : Decidable (Blanks cs) := decidable_of_iff (cs.all isBlankChar = true) List.all_eq_true

theorem Blanks.nil : Blanks [] := by simp [Blanks]

theorem Blanks.append (hfront : Blanks front) (hback : Blanks back) : Blanks (front ++ back) :=
  List.forall_mem_append.mpr ⟨hfront, hback⟩

theorem Blanks.not_mem (h : Blanks cs) (hc : isBlankChar c = false) : c ∉ cs := fun hmem =>
  Bool.false_ne_true (hc.symm.trans (h c hmem))

theorem Blanks.padded (h : Blanks cs) : Padded [] cs := ⟨cs, [], h, .nil, by simp⟩

namespace Padded

theorem refl (cs : List Char) : Padded cs cs := ⟨[], [], .nil, .nil, by simp⟩

theorem append_right (h : Padded core cs) (hback : Blanks back) : Padded core (cs ++ back) := by
  obtain ⟨front', back', hfront', hback', rfl⟩ := h
  exact ⟨front', back' ++ back, hfront', hback'.append hback, by simp⟩

/-- Padding brings in no character that is not blank. -/
theorem mem_iff (h : Padded core cs) (hc : isBlankChar c = false) : c ∈ cs ↔ c ∈ core := by
  obtain ⟨front, back, hfront, hback, rfl⟩ := h
  simp [hfront.not_mem hc, hback.not_mem hc]

theorem subset (h : Padded core cs) : core ⊆ cs := by
  obtain ⟨front, back, -, -, rfl⟩ := h
  simp

end Padded

/-! ### Blanks in front and behind -/

theorem stripFront_append (h : Blanks front) (cs : List Char) : stripFront (front ++ cs) = stripFront cs :=
  List.dropWhile_append_of_pos h

theorem stripBack_append (h : Blanks back) (cs : List Char) : stripBack (cs ++ back) = stripBack cs := by
  have hrev : Blanks back.reverse := fun c hc => h c (List.mem_reverse.mp hc)
  rw [stripBack, List.reverse_append, List.dropWhile_append_of_pos hrev, ← stripBack]

theorem stripFront_around (cs : List Char) : ∃ front, Blanks front ∧ cs = front ++ stripFront cs :=
  ⟨cs.takeWhile isBlankChar, fun _ => List.mem_takeWhile_imp, List.takeWhile_append_dropWhile.symm⟩

theorem stripBack_around (cs : List Char) : ∃ back, Blanks back ∧ cs = stripBack cs ++ back := by
  obtain ⟨front, hfront, hcs⟩ := stripFront_around cs.reverse
  refine ⟨front.reverse, fun c hc => hfront c (List.mem_reverse.mp hc), ?_⟩
  rw [stripBack, ← stripFront, ← List.reverse_append, ← hcs, List.reverse_reverse]

theorem stripFront_append_cons (hc : isBlankChar c = false) (xs ys : List Char) :
    stripFront (xs ++ c :: ys) = stripFront xs ++ c :: ys := by
  have hstay : stripFront (c :: ys) = c :: ys := List.dropWhile_cons_of_neg (by simp [hc])
  rw [stripFront, List.dropWhile_append, ← stripFront, ← stripFront, hstay]
  split
  · rename_i hempty
    rw [List.isEmpty_iff.mp hempty, List.nil_append]
  · rfl

theorem stripBack_append_cons (hc : isBlankChar c = false) (xs ys : List Char) :
    stripBack (xs ++ c :: ys) = xs ++ c :: stripBack ys := by
  have hrev := stripFront_append_cons hc ys.reverse xs.reverse
  rw [stripBack, ← stripFront, List.reverse_append, List.reverse_cons, List.append_assoc, List.singleton_append, hrev]
  simp [stripBack, stripFront]

/-! ### Both ends -/

theorem padded_stripChars (cs : List Char) : Padded (stripChars cs) cs := by
  obtain ⟨front, hfront, hcs⟩ := stripFront_around cs
  obtain ⟨back, hback, hrest⟩ := stripBack_around (stripFront cs)
  refine ⟨front, back, hfront, hback, ?_⟩
  rw [List.append_assoc, stripChars, ← hrest, ← hcs]

theorem Padded.stripChars_eq (h : Padded core cs) : stripChars cs = stripChars core := by
  obtain ⟨front, back, hfront, hback, rfl⟩ := h
  have hnone : stripFront back = [] := List.dropWhile_eq_nil_iff.mpr hback
  rw [List.append_assoc, stripChars, stripFront_append hfront, stripFront, List.dropWhile_append, ← stripFront, ← stripFront]
  split
  · rename_i hempty
    rw [hnone, stripChars, List.isEmpty_iff.mp hempty]
  · rw [stripBack_append hback, stripChars]

theorem stripChars_stripChars (cs : List Char) : stripChars (stripChars cs) = stripChars cs :=
  (padded_stripChars cs).stripChars_eq.symm

theorem stripChars_stripFront (cs : List Char) : stripChars (stripFront cs) = stripChars cs := by
  obtain ⟨front, hfront, hcs⟩ := stripFront_around cs
  have hpad : Padded (stripFront cs) cs := ⟨front, [], hfront, .nil, by rw [List.append_nil, ← hcs]⟩
  exact hpad.stripChars_eq.symm

theorem stripChars_of_not_blank (h : ∀ c ∈ cs, isBlankChar c = false) : stripChars cs = cs := by
  have hstay : ∀ xs : List Char, (∀ c ∈ xs, isBlankChar c = false) → stripFront xs = xs := by
    intro xs hxs
    cases xs with
    | nil => rfl
    | cons x xs => exact List.dropWhile_cons_of_neg (by simp [hxs x])
  have hback := hstay cs.reverse fun c hc => h c (List.mem_reverse.mp hc)
  rw [stripChars, hstay cs h, stripBack, ← stripFront, hback, List.reverse_reverse]

theorem stripChars_eq_iff : stripChars cs = core ↔ stripChars core = core ∧ Padded core cs := by
  constructor
  · rintro rfl
    exact ⟨stripChars_stripChars cs, padded_stripChars cs⟩
  · rintro ⟨hcore, hpad⟩
    rw [hpad.stripChars_eq, hcore]

theorem strip_eq_self_iff : strip s = s ↔ stripChars s.toList = s.toList := by
  rw [strip, ← String.toList_inj, String.toList_ofList]

theorem isBlank_of_strip (hstrip : strip s = s) (hne : s ≠ "") : isBlank s = false := by
  rw [← Bool.not_eq_true, ← strip_eq_empty_iff, hstrip]
  exact hne

theorem stripChars_eq_nil_iff : stripChars cs = [] ↔ Blanks cs := by
  refine ⟨fun h => ?_, fun h => h.padded.stripChars_eq⟩
  obtain ⟨front, back, hfront, hback, hcs⟩ := padded_stripChars cs
  rw [h, List.append_nil] at hcs
  exact hcs ▸ hfront.append hback

theorem stripChars_append_cons (hc : isBlankChar c = false) (xs ys : List Char) :
    stripChars (xs ++ c :: ys) = stripFront xs ++ c :: stripBack ys := by
  rw [stripChars, stripFront_append_cons hc, stripBack_append_cons hc]

/-- Stripping the back leaves the first character that stays in front. -/
theorem head?_stripChars (cs : List Char) : (stripChars cs).head? = (stripFront cs).head? := by
  rw [stripChars]
  cases hcs : stripFront cs with
  | nil => rfl
  | cons c rest =>
    have hc : isBlankChar c = false := head?_stripFront (by rw [hcs]; rfl)
    rw [← List.nil_append (c :: rest), stripBack_append_cons hc]
    rfl

end AliasBook.Text
