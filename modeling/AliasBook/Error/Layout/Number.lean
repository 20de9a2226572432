import AliasBook.Error.Layout
import AliasBook.Number.Notation

/-! Numbers in layouts. The type says how a number is written: an integer in one of four bases or as the
    character that it is the number of, any number as a decimal one. A number stands on the right unless
    told otherwise. -/

namespace AliasBook

open Number (Written)

/-- A number in writing: whether it is negative, what stands in front of its digits to tell their base, the
    digits in front of the point, which may be grouped, and all that follows them. -/
structure Layout.Numeral where
  isNegative : Bool := false
  mark : List Char := []
  whole : List Char
  rest : List Char := []
deriving DecidableEq

namespace Layout

/-- The base of the digits of a type. -/
def base : Char → Nat
  | 'b' => 2
  | 'o' => 8
  | 'x' | 'X' => 16
  | _ => 10

/-- The mark of the base of a type. Decimal digits have none. -/
def baseMark : Char → List Char
  | 'b' => ['0', 'b']
  | 'o' => ['0', 'o']
  | 'x' => ['0', 'x']
  | 'X' => ['0', 'X']
  | _ => []

/-- The sign in front of a number. -/
def signChars (l : Layout) (isNegative : Bool) : List Char :=
  if isNegative then ['-']
  else
    match l.sign with
    | some '+' => ['+']
    | some ' ' => [' ']
    | _ => []

/-- The digits in groups of three, or of four in a base that is a power of two, with at least as many
    characters as `least`, where zeros in front are grouped as well. -/
def groupWhole (l : Layout) (least : Nat) (digits : List Char) : List Char :=
  match l.grouping with
  | some separator =>
    let size := if base l.type = 10 then 3 else 4
    Number.groupDigits separator size (Number.leadZeros (Number.digitsToFill size least) digits)
  | none => Number.leadZeros least digits

/-- The number filled up as the layout says. Zeros between the sign and the digits count as digits. -/
def placeNumeral (l : Layout) (n : Numeral) : List Char :=
  let sign := l.signChars n.isNegative
  let others := sign.length + n.mark.length + n.rest.length
  let least := if l.fill = '0' ∧ l.align = .inside then l.width - others else 0
  let whole := if n.whole.isEmpty then [] else l.groupWhole least n.whole
  let (before, between, after) := l.margins (l.width - (others + whole.length))
  List.replicate before l.fill ++ sign ++ n.mark ++ List.replicate between l.fill ++ whole ++ n.rest ++
    List.replicate after l.fill

/-- The character that an integer is the number of. -/
def charNumeral (l : Layout) (n : Int) : Except Flaw Numeral :=
  if l.sign.isSome then .error .charSign
  else if l.isMarked then .error .charMark
  else if n < -(Nat.pow 2 63) ∨ Nat.pow 2 63 ≤ n then .error .hugeChar
  else if n < 0 ∨ 0x110000 ≤ n then .error .noChar
  else .ok { whole := [], rest := [Char.ofNat n.toNat] }

/-- An integer in the digits of a base, or as a character. -/
def intNumeral (l : Layout) (n : Int) : Except Flaw Numeral :=
  if l.precision.isSome then .error .intPrecision
  else if l.keepsNoZeroSign then .error .intZeroSign
  else if l.type = 'c' then l.charNumeral n
  else
    let digits := Nat.toDigits (base l.type) n.natAbs
    .ok {
      isNegative := n < 0
      mark := if l.isMarked then baseMark l.type else []
      whole := if l.type = 'X' then digits.map Char.toUpper else digits }

/-- The type writes decimal numbers. -/
def isDecimalType (type : Char) : Bool :=
  type ∈ ['e', 'E', 'f', 'F', 'g', 'G', '%']

/-- The type writes integers. -/
def isIntType (type : Char) : Bool :=
  type ∈ ['b', 'c', 'd', 'o', 'x', 'X', 'n']

/-- The fraction in the notation that the type asks for; there are six places or digits unless the layout
    tells their number. Without a type there are as few as it takes. -/
def written (l : Layout) (num den : Nat) : Written :=
  let count := l.precision.getD 6
  match l.type with
  | 'e' | 'E' => Number.scientific l.isMarked count num den
  | 'f' | 'F' | '%' => Number.fixed l.isMarked count num den
  | '\x00' =>
    match l.precision with
    | some count => Number.general l.isMarked true count num den
    | none => Number.shortest l.isMarked num den
  | _ => Number.general l.isMarked false count num den

/-- The writing has no digit but zeros. -/
def isZero (w : Written) : Bool :=
  !w.whole.isEmpty && (w.whole ++ w.rest).all fun c => !(c.isDigit && c != '0')

/-- The number of the given sign and writing, with a sign of percent and in capitals if the type says
    so. -/
def decimalNumeral (l : Layout) (isNegative : Bool) (w : Written) : Numeral :=
  let rest := if l.type = '%' then w.rest ++ ['%'] else w.rest
  { isNegative := isNegative && !(l.keepsNoZeroSign && isZero w)
    whole := w.whole
    rest := if l.type ∈ ['E', 'F', 'G'] then rest.map Char.toUpper else rest }

/-- The largest number of places or digits of a decimal number. -/
def maxPrecision : Nat := Nat.pow 2 31 - 1

/-- A decimal number, given by the fraction that is its size if it is finite. -/
def fractionNumeral (l : Layout) (isNegative : Bool) (size : Option (Nat × Nat)) : Except Flaw Numeral :=
  if maxPrecision < l.precision.getD 0 then .error .hugePrecision
  else
    let size :=
      if l.type = '%' then size.bind fun (num, den) => Number.nearestBinary? (num * 100) den else size
    match size with
    | none => .ok (l.decimalNumeral isNegative { whole := [], rest := ['i', 'n', 'f'] })
    | some (num, den) => .ok (l.decimalNumeral isNegative (l.written num den))

/-- The integer in the layout, where the kind is that of integers or of truth values. -/
def ofInt (l : Layout) (kind : Kind) (n : Int) : Except Flaw String := do
  let numeral ←
    if isIntType l.type then l.intNumeral n
    else if isDecimalType l.type then
      match Number.nearestBinary? n.natAbs 1 with
      | some size => l.fractionNumeral (n < 0) (some size)
      | none => throw .hugeDecimal
    else throw (.unknownType kind l.type)
  l.checkWidth
  return String.ofList (l.placeNumeral numeral)

/-- The decimal number in the layout. -/
def ofDecimal (l : Layout) (isNegative : Bool) (mantissa places : Nat) : Except Flaw String := do
  if isDecimalType l.type || l.type == 'n' || l.type == '\x00' then
    let numeral ← l.fractionNumeral isNegative (Number.nearestBinary? mantissa (Nat.pow 10 places))
    l.checkWidth
    return String.ofList (l.placeNumeral numeral)
  else throw (.unknownType .decimal l.type)

end Layout

end AliasBook
