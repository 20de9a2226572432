import AliasBook.Text.CodePoints

/-! Blank characters, and texts without the blanks at their two ends. A name made of blanks alone counts
    as no name at all. -/

namespace AliasBook.Text

/-- The code points of the 29 blank characters: the control characters that separate lines or fields,
    the space, and the spaces and separators beyond ASCII. -/
def blankRanges : List (Nat × Nat) :=
  [(0x09, 0x0d), (0x1c, 0x20), (0x85, 0x85), (0xa0, 0xa0), (0x1680, 0x1680), (0x2000, 0x200a),
    (0x2028, 0x2029), (0x202f, 0x202f), (0x205f, 0x205f), (0x3000, 0x3000)]

/-- The character is blank. -/
def isBlankChar (c : Char) : Bool :=
  inRanges blankRanges c.toNat

/-- The characters without the blanks in front. -/
def stripFront (cs : List Char) : List Char :=
  cs.dropWhile isBlankChar

/-- The characters without the blanks behind. -/
def stripBack (cs : List Char) : List Char :=
  (cs.reverse.dropWhile isBlankChar).reverse

/-- The characters without the blanks at the two ends. -/
def stripChars (cs : List Char) : List Char :=
  stripBack (stripFront cs)

/-- The text without the blanks at its two ends. -/
def strip (s : String) : String :=
  String.ofList (stripChars s.toList)

/-- The text holds nothing but blanks. -/
def isBlank (s : String) : Bool :=
  s.toList.all isBlankChar

theorem stripFront_eq_nil_iff {cs : List Char} :
    stripFront cs = [] ↔ cs.all isBlankChar = true := by
  induction cs with
  | nil => exact iff_of_true rfl rfl
  | cons c cs ih =>
    rw [stripFront, List.dropWhile_cons, List.all_cons]
    cases isBlankChar c
    · exact iff_of_false (List.cons_ne_nil _ _) Bool.false_ne_true
    · rw [if_pos rfl, Bool.true_and]
      exact ih

theorem stripBack_eq_nil_iff {cs : List Char} :
    stripBack cs = [] ↔ cs.all isBlankChar = true := by
  rw [stripBack, List.reverse_eq_nil_iff, ← List.all_reverse]
  exact stripFront_eq_nil_iff

/-- The first character that stays, if any, is not blank. -/
theorem head?_stripFront {cs : List Char} {c : Char} (h : (stripFront cs).head? = some c) :
    isBlankChar c = false := by
  induction cs with
  | nil => simp [stripFront] at h
  | cons d cs ih =>
    cases hd : isBlankChar d
    · simp only [stripFront, List.dropWhile_cons, hd, Bool.false_eq_true, if_false, List.head?_cons,
        Option.some.injEq] at h
      exact h ▸ hd
    · exact ih (by simpa [stripFront, hd] using h)

/-- A text is blank exactly when nothing is left of it once it is stripped. -/
theorem strip_eq_empty_iff {s : String} : strip s = "" ↔ isBlank s = true := by
  have hall : (stripFront s.toList).all isBlankChar = true ↔ stripFront s.toList = [] := by
    constructor
    · intro h
      match hc : stripFront s.toList with
      | [] => rfl
      | c :: r =>
        have hnot : isBlankChar c = false := head?_stripFront (by rw [hc]; rfl)
        simp [hc, hnot] at h
    · intro h
      simp [h]
  have hempty : strip s = "" ↔ stripBack (stripFront s.toList) = [] := by
    simp [strip, stripChars]
  rw [hempty, stripBack_eq_nil_iff, hall, stripFront_eq_nil_iff, isBlank]

end AliasBook.Text
