import AliasBook.Kind
import AliasBook.Text.Digit

/-! Layouts of values in message templates: in how much space a value stands, where in it, and what fills the
    rest. A layout is written as fill and alignment, sign, zero sign, mark, width, grouping, precision and
    type, all of them optional and in this order; which of them a value takes depends on its kind. -/

namespace AliasBook

/-- Where a value stands in the space it is given. -/
inductive Layout.Align where
  | left
  | right
  | center
  /-- The sign on the left and the digits on the right. -/
  | inside
deriving DecidableEq

/-- A layout. The type `'\x00'` is that of decimal numbers for which none is written. -/
structure Layout where
  fill : Char := ' '
  align : Layout.Align := .left
  sign : Option Char := none
  keepsNoZeroSign : Bool := false
  isMarked : Bool := false
  width : Nat := 0
  grouping : Option Char := none
  precision : Option Nat := none
  type : Char := 's'
deriving DecidableEq

namespace Layout

/-- What is wrong with a layout, as such or for a value. -/
inductive Flaw where
  /-- A number that is too large to count to. -/
  | hugeNumber
  | twoGroupings
  | missingPrecision
  /-- More behind a layout than a type. -/
  | malformed (kind : Kind) (layout : String)
  | misplacedGrouping (grouping type : Char)
  | unknownType (kind : Kind) (type : Char)
  /-- Signs, marks and inner space in the layout of a text. -/
  | textSpaceSign
  | textSign
  | textZeroSign
  | textMark
  | textInside
  /-- Places and zero signs in the layout of an integer. -/
  | intPrecision
  | intZeroSign
  /-- Signs and marks in the layout of an integer as a character. -/
  | charSign
  | charMark
  /-- An integer that is the number of no character, and one of more than 64 bits. -/
  | noChar
  | hugeChar
  /-- An integer that is too large to be taken for a decimal number. -/
  | hugeDecimal
  | hugePrecision
  /-- More space than a text can fill. -/
  | tooWide
deriving DecidableEq

/-- A character as messages show it: by its number unless it is printable ASCII. -/
def shownChar (c : Char) : String :=
  if 0x20 < c.toNat ∧ c.toNat < 0x80 then String.singleton c
  else "\\x" ++ String.ofList (Nat.toDigits 16 c.toNat)

/-- What a message says of the flaw. -/
def Flaw.message : Flaw → String
  | .hugeNumber => "Too many decimal digits in format string"
  | .twoGroupings => "Cannot specify both ',' and '_'."
  | .missingPrecision => "Format specifier missing precision"
  | .malformed kind layout =>
    "Invalid format specifier '" ++ layout ++ "' for object of type '" ++ kind.name ++ "'"
  | .misplacedGrouping grouping type =>
    "Cannot specify '" ++ String.singleton grouping ++ "' with '" ++ shownChar type ++ "'."
  | .unknownType kind type =>
    "Unknown format code '" ++ shownChar type ++ "' for object of type '" ++ kind.name ++ "'"
  | .textSpaceSign => "Space not allowed in string format specifier"
  | .textSign => "Sign not allowed in string format specifier"
  | .textZeroSign => "Negative zero coercion (z) not allowed in string format specifier"
  | .textMark => "Alternate form (#) not allowed in string format specifier"
  | .textInside => "'=' alignment not allowed in string format specifier"
  | .intPrecision => "Precision not allowed in integer format specifier"
  | .intZeroSign => "Negative zero coercion (z) not allowed in integer format specifier"
  | .charSign => "Sign not allowed with integer format specifier 'c'"
  | .charMark => "Alternate form (#) not allowed with integer format specifier 'c'"
  | .noChar => "%c arg not in range(0x110000)"
  | .hugeChar => "Python int too large to convert to C long"
  | .hugeDecimal => "int too large to convert to float"
  | .hugePrecision => "precision too big"
  | .tooWide => ""

/-- The flaw is a number that does not fit, and not a mistake in the layout. -/
def Flaw.isOverflow : Flaw → Bool
  | .noChar | .hugeChar | .hugeDecimal => true
  | _ => false

/-- The alignment that a character asks for. -/
def Align.ofChar? : Char → Option Align
  | '<' => some .left
  | '>' => some .right
  | '^' => some .center
  | '=' => some .inside
  | _ => none

/-- Takes the first character if it satisfies the condition. -/
def takeIf (p : Char → Bool) : List Char → Option Char × List Char
  | [] => (none, [])
  | c :: cs => if p c then (some c, cs) else (none, c :: cs)

/-- Reads an alignment, which may have a fill character before it. -/
def readAlign (cs : List Char) : Option Char × Option Align × List Char :=
  match cs with
  | [] => (none, none, [])
  | c :: rest =>
    match rest with
    | d :: others =>
      match Align.ofChar? d with
      | some align => (some c, some align, others)
      | none =>
        match Align.ofChar? c with
        | some align => (none, some align, rest)
        | none => (none, none, cs)
    | [] =>
      match Align.ofChar? c with
      | some align => (none, some align, [])
      | none => (none, none, cs)

/-- The largest number that a template may write. -/
def maxNumber : Nat := Nat.pow 2 63 - 1

/-- Reads a number, if there is one. -/
def readNumber (cs : List Char) : Except Flaw (Option Nat × List Char) :=
  let (n, rest) := Text.leadingNumber cs
  if maxNumber < n then .error .hugeNumber
  else .ok (if rest.length < cs.length then some n else none, rest)

/-- The grouping may stand with the type: commas with decimal digits only, underscores with the digits
    of any number. -/
def groupingFits (grouping type : Char) : Bool :=
  type ∈ ['d', 'e', 'f', 'g', 'E', 'G', '%', 'F', '\x00'] ||
    grouping == '_' && type ∈ ['b', 'o', 'x', 'X']

/-- The type of a value for which none is written. -/
def typeOf : Kind → Char
  | .text => 's'
  | .decimal => '\x00'
  | _ => 'd'

/-- The alignment of a value for which none is written: texts stand on the left and numbers on the right,
    unless a zero in front of the width asks for zeros between sign and digits. -/
def alignOf (kind : Kind) (zero : Bool) : Align :=
  match kind, zero with
  | .text, _ => .left
  | _, true => .inside
  | _, false => .right

/-- Reads the layout of a value of the given kind. -/
def parse (kind : Kind) (layout : String) : Except Flaw Layout := do
  let (fill, align, cs) := readAlign layout.toList
  let (sign, cs) := takeIf (fun c => c == '+' || c == '-' || c == ' ') cs
  let (zeroSign, cs) := takeIf (· == 'z') cs
  let (mark, cs) := takeIf (· == '#') cs
  let (zero, cs) := if fill.isSome then (none, cs) else takeIf (· == '0') cs
  let (width, cs) ← readNumber cs
  let (comma, cs) := takeIf (· == ',') cs
  let (underscore, cs) := takeIf (· == '_') cs
  if underscore.isSome && (comma.isSome || cs.head? == some ',') then throw .twoGroupings
  let (point, cs) := takeIf (· == '.') cs
  let (precision, cs) ← if point.isSome then readNumber cs else pure (none, cs)
  if point.isSome && precision.isNone then throw .missingPrecision
  let type ←
    match cs with
    | [] => pure (typeOf kind)
    | [c] => pure c
    | _ => throw (.malformed kind layout)
  let grouping := comma <|> underscore
  match grouping with
  | some g => if !groupingFits g type then throw (.misplacedGrouping g type)
  | none => pure ()
  return {
    fill := (fill <|> zero).getD ' '
    align := align.getD (alignOf kind zero.isSome)
    sign
    keepsNoZeroSign := zeroSign.isSome
    isMarked := mark.isSome
    width := width.getD 0
    grouping
    precision
    type }

/-- The widest space that is filled. -/
def maxWidth : Nat := Nat.pow 2 32

/-- Refuses a space that is too wide to be filled. -/
def checkWidth (l : Layout) : Except Flaw Unit :=
  if maxWidth < l.width then .error .tooWide else .ok ()

/-- How often the fill character stands on the left, behind the sign, and on the right, if it is missing so
    often to the width. -/
def margins (l : Layout) (missing : Nat) : Nat × Nat × Nat :=
  match l.align with
  | .left => (0, 0, missing)
  | .right => (missing, 0, 0)
  | .center => (missing / 2, 0, missing - missing / 2)
  | .inside => (0, missing, 0)

end Layout

end AliasBook
