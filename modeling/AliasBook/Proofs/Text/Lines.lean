import AliasBook.Text.Lines
import Mathlib.Data.List.Basic
import Mathlib.Tactic.Common

/-! How a text falls into lines: `Splits` says it without saying how to find them, and there is only one way
    (`splits_iff`). A line feed between two texts keeps their lines apart (`splitLines_append_lf`). -/

namespace AliasBook.Text
variable {c : Char} {cs xs ys line rest sep : List Char} {ls lines : List (List Char)}

/-- No line ends inside of the characters. -/
def OneLine (cs : List Char) : Prop := ∀ c ∈ cs, c ≠ '\n' ∧ c ≠ '\r'

namespace OneLine

@[simp] theorem nil : OneLine [] := by simp [OneLine]

@[simp] theorem cons_iff : OneLine (c :: cs) ↔ (c ≠ '\n' ∧ c ≠ '\r') ∧ OneLine cs := List.forall_mem_cons

@[simp] theorem append_iff : OneLine (xs ++ ys) ↔ OneLine xs ∧ OneLine ys := List.forall_mem_append

theorem intercalate_iff (hsep : OneLine sep) : OneLine (sep.intercalate ls) ↔ ∀ l ∈ ls, OneLine l := by
  induction ls with
  | nil => simp
  | cons l ls ih =>
    cases ls with
    | nil => simp
    | cons l' ls => rw [List.intercalate_cons_cons, append_iff, append_iff, ih, List.forall_mem_cons]; simp [hsep]

theorem of_isDigit (h : ∀ c ∈ cs, c.isDigit = true) : OneLine cs := by
  refine fun c hc => ⟨?_, ?_⟩
  · rintro rfl
    exact absurd (h _ hc) (by decide)
  · rintro rfl
    exact absurd (h _ hc) (by decide)

end OneLine

/-- The characters consist of the lines, each of which ends at a line feed, at a carriage return, or at the two together;
    the last one may go on to the end of the characters if there is something in it. -/
inductive Splits : List Char → List (List Char) → Prop
  | nil : Splits [] []
  | last {line : List Char} : OneLine line → line ≠ [] → Splits line [line]
  | lf {line rest : List Char} {lines : List (List Char)} :
      OneLine line → Splits rest lines → Splits (line ++ '\n' :: rest) (line :: lines)
  | crlf {line rest : List Char} {lines : List (List Char)} :
      OneLine line → Splits rest lines → Splits (line ++ '\r' :: '\n' :: rest) (line :: lines)
  | cr {line rest : List Char} {lines : List (List Char)} :
      OneLine line → rest.head? ≠ some '\n' → Splits rest lines → Splits (line ++ '\r' :: rest) (line :: lines)

theorem splitLines_cr (h : rest.head? ≠ some '\n') : splitLines ('\r' :: rest) = [] :: splitLines rest := by
  rw [splitLines]
  · simp
  · rintro tail ⟨⟩ rfl
    simp at h

theorem splitLines_cons (h : c ≠ '\n' ∧ c ≠ '\r') (cs : List Char) :
    splitLines (c :: cs) = match splitLines cs with
      | [] => [[c]]
      | line :: lines => (c :: line) :: lines := by
  rw [splitLines]
  · refine (if_neg (by simp [h])).trans ?_
    cases splitLines cs <;> rfl
  · rintro tail rfl
    exact absurd rfl h.2

theorem splitLines_oneLine (h : OneLine line) (hne : line ≠ []) : splitLines line = [line] := by
  induction line with
  | nil => exact absurd rfl hne
  | cons c cs ih =>
    obtain ⟨hc, hcs⟩ := OneLine.cons_iff.mp h
    rw [splitLines_cons hc]
    cases cs with
    | nil => rfl
    | cons d cs => rw [ih hcs (List.cons_ne_nil _ _)]

/-- Characters in front of a line end belong to its line. -/
theorem splitLines_append (h : OneLine line) {first : List Char} (hrest : splitLines rest = first :: lines) :
    splitLines (line ++ rest) = (line ++ first) :: lines := by
  induction line with
  | nil => exact hrest
  | cons c cs ih =>
    obtain ⟨hc, hcs⟩ := OneLine.cons_iff.mp h
    rw [List.cons_append, splitLines_cons hc, ih hcs]
    rfl

theorem splitLines_lf (h : OneLine line) (rest : List Char) :
    splitLines (line ++ '\n' :: rest) = line :: splitLines rest := by
  have hend : splitLines ('\n' :: rest) = [] :: splitLines rest := by
    rw [splitLines]
    · simp
    · rintro tail ⟨⟩
  rw [splitLines_append h hend, List.append_nil]

theorem splitLines_eq_nil_iff : splitLines cs = [] ↔ cs = [] := by
  refine ⟨fun h => ?_, fun h => h ▸ rfl⟩
  unfold splitLines at h
  split at h
  · rfl
  · cases h
  · split at h
    · cases h
    · split at h <;> cases h

namespace Splits

theorem cons (hc : c ≠ '\n' ∧ c ≠ '\r') (h : Splits rest (line :: lines)) : Splits (c :: rest) ((c :: line) :: lines) := by
  cases h with
  | last hline hne => exact .last (OneLine.cons_iff.mpr ⟨hc, hline⟩) (List.cons_ne_nil _ _)
  | lf hline hrest => exact .lf (OneLine.cons_iff.mpr ⟨hc, hline⟩) hrest
  | crlf hline hrest => exact .crlf (OneLine.cons_iff.mpr ⟨hc, hline⟩) hrest
  | cr hline hhead hrest => exact .cr (OneLine.cons_iff.mpr ⟨hc, hline⟩) hhead hrest

theorem splitLines (cs : List Char) : Splits cs (splitLines cs) := by
  fun_induction Text.splitLines cs with
  | case1 => exact .nil
  | case2 rest ih => exact .crlf .nil ih
  | case3 c rest hpair hc ih =>
    rcases hc with rfl | rfl
    · exact .lf .nil ih
    · refine .cr .nil (fun hhead => ?_) ih
      obtain ⟨tail, rfl⟩ := List.head?_eq_some_iff.mp hhead
      exact hpair tail rfl rfl
  | case4 c rest _ hc hnil _ =>
    rw [splitLines_eq_nil_iff.mp hnil]
    exact .last (by simpa [not_or] using hc) (List.cons_ne_nil _ _)
  | case5 c rest _ hc line lines hsplit ih =>
    rw [hsplit] at ih
    exact ih.cons (not_or.mp hc)

end Splits

/-- Characters fall into lines in one way. -/
theorem splits_iff : Splits cs ls ↔ splitLines cs = ls := by
  refine ⟨fun h => ?_, fun h => h ▸ .splitLines cs⟩
  induction h with
  | nil => rfl
  | last hline hne => exact splitLines_oneLine hline hne
  | lf hline _ ih => rw [splitLines_lf hline, ih]
  | crlf hline _ ih => rw [splitLines_append hline rfl, List.append_nil, ih]
  | cr hline hhead _ ih => rw [splitLines_append hline (splitLines_cr hhead), List.append_nil, ih]

/-- The line feed ends the last line of what is in front of it, or else makes an empty line. -/
theorem splitLines_append_lf (xs ys : List Char) :
    ∃ between, (between = [] ∨ between = [[]]) ∧
      splitLines (xs ++ '\n' :: ys) = splitLines xs ++ (between ++ splitLines ys) := by
  have h := Splits.splitLines xs
  generalize splitLines xs = ls at h ⊢
  induction h with
  | nil => exact ⟨[[]], Or.inr rfl, splitLines_lf .nil ys⟩
  | last hline _ => exact ⟨[], Or.inl rfl, splitLines_lf hline ys⟩
  | @lf line rest lines hline _ ih =>
    obtain ⟨between, hbetween, hsplit⟩ := ih
    refine ⟨between, hbetween, ?_⟩
    rw [List.append_assoc, List.cons_append, splitLines_lf hline, hsplit, List.cons_append]
  | @crlf line rest lines hline _ ih =>
    obtain ⟨between, hbetween, hsplit⟩ := ih
    refine ⟨between, hbetween, ?_⟩
    rw [List.append_assoc, List.cons_append, List.cons_append, splitLines_append hline rfl, hsplit]
    simp
  | @cr line rest lines hline hhead _ ih =>
    cases rest with
    | nil =>
      -- a carriage return that ends the first text makes one line end with the line feed
      obtain rfl := splits_iff.mp ‹Splits [] lines›
      refine ⟨[], Or.inl rfl, ?_⟩
      have hend : splitLines ('\r' :: '\n' :: ys) = [] :: splitLines ys := rfl
      rw [List.append_assoc, List.cons_append, List.nil_append, splitLines_append hline hend]
      simp [splitLines_eq_nil_iff.mpr]
    | cons d rest =>
      obtain ⟨between, hbetween, hsplit⟩ := ih
      refine ⟨between, hbetween, ?_⟩
      have hhead' : (d :: rest ++ '\n' :: ys).head? ≠ some '\n' := by simpa using hhead
      rw [List.append_assoc, List.cons_append, splitLines_append hline (splitLines_cr hhead'), hsplit]
      simp

end AliasBook.Text
