import AliasBook.Text.Case.Table

/-! Upper and lower case of whole texts. A character may become several (`ß` is `SS` in upper case), and
    one letter has two lower-case forms: a capital sigma becomes a final sigma where a word ends in it. -/

namespace AliasBook.Text

namespace Case

/-- The characters that stand for `c`: its own spelling if it has one, else the character that the
    first matching shift leads to. -/
def mapChar (shifts : List Shift) (spellings : List (Nat × List Nat)) (c : Char) : List Char :=
  match spellings.lookup c.toNat with
  | some spelling => spelling.map Char.ofNat
  | none =>
    match shifts.find? (·.covers c.toNat) with
    | some shift => [Char.ofNat (c.toNat + shift.distance).toNat]
    | none => [c]

/-- The upper case of one character. -/
def upperChar (c : Char) : List Char :=
  if c.toNat < 0x80 then [c.toUpper] else mapChar upperShifts upperSpellings c

/-- The lower case of one character, apart from what follows from its place in a word. -/
def lowerChar (c : Char) : List Char :=
  if c.toNat < 0x80 then [c.toLower] else mapChar lowerShifts lowerSpellings c

/-- The first character that is not passed over is a letter with a case. -/
def meetsCased (cs : List Char) : Bool :=
  match cs.dropWhile fun c => inRanges ignorable c.toNat with
  | [] => false
  | c :: _ => inRanges cased c.toNat

/-- A capital sigma between `before` (nearest character first) and `after` ends a word: there is a
    letter before it and none after it. -/
def sigmaIsFinal (before after : List Char) : Bool :=
  meetsCased before && !meetsCased after

/-- The lower case of the characters that follow `before` (nearest character first). -/
def lowerFrom (before : List Char) : List Char → List Char
  | [] => []
  | c :: after =>
    (if c = 'Σ' then [if sigmaIsFinal before after then 'ς' else 'σ'] else lowerChar c) ++
      lowerFrom (c :: before) after

end Case

/-- The text in upper case. -/
def upper (s : String) : String :=
  String.ofList (s.toList.flatMap Case.upperChar)

/-- The text in lower case. -/
def lower (s : String) : String :=
  String.ofList (Case.lowerFrom [] s.toList)

theorem toList_lower (s : String) : (lower s).toList = Case.lowerFrom [] s.toList := by
  simp [lower]

end AliasBook.Text
