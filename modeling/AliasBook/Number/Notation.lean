import AliasBook.Number.Rounding

/-! Decimal notations of fractions: with a fixed number of places, with one digit in front of the point and a
    power of ten, and with a number of significant digits in the one of these two that suits the size. The
    number of digits is given, or it is the smallest that tells the fraction from its neighbours. -/

namespace AliasBook.Number

/-- The size of a number in writing: the digits in front of the point, and all that follows them. -/
structure Written where
  whole : List Char
  rest : List Char
deriving DecidableEq

/-- The places behind their point, which may stand alone if `pointed`. -/
def withPoint (pointed : Bool) (places : List Char) : List Char :=
  if places.isEmpty && !pointed then [] else '.' :: places

/-- The digits with as many zeros in front of them as their number falls short of `count`. -/
def leadZeros (count : Nat) (digits : List Char) : List Char :=
  List.replicate (count - digits.length) '0' ++ digits

/-- The digits with as many zeros behind them as their number falls short of `count`. -/
def trailZeros (count : Nat) (digits : List Char) : List Char :=
  digits ++ List.replicate (count - digits.length) '0'

/-- The fraction with a fixed number of places. -/
def fixed (pointed : Bool) (places num den : Nat) : Written :=
  let digits := leadZeros (places + 1) (Nat.toDigits 10 (roundHalfEven (num * Nat.pow 10 places) den))
  let count := digits.length - places
  { whole := digits.take count, rest := withPoint pointed (digits.drop count) }

/-- The numerator and the denominator of `num / den / 10 ^ e`. -/
def scaled (num den : Nat) (e : Int) : Nat × Nat :=
  (num * Nat.pow 10 (-e).toNat, den * Nat.pow 10 e.toNat)

/-- The power of ten that the first digit of the fraction stands for, and zero for zero. The lengths of
    the numerator and the denominator leave two candidates for it. -/
def exponent (num den : Nat) : Int :=
  if num = 0 then 0
  else
    let e : Int := (Nat.toDigits 10 num).length - (Nat.toDigits 10 den).length
    let (n, d) := scaled num den e
    if d ≤ n then e else e - 1

/-- The fraction rounded to a number of significant digits: the digits, and the power of ten that the first
    one stands for, which rounding may raise. -/
def significant (count num den : Nat) : List Char × Int :=
  let e := exponent num den
  let (n, d) := scaled num den (e - (count - 1))
  let digits := Nat.toDigits 10 (roundHalfEven n d)
  if count < digits.length then (digits.take count, e + 1) else (trailZeros count digits, e)

/-- A power of ten: the letter, a sign, and at least two digits. -/
def powerChars (e : Int) : List Char :=
  'e' :: (if e < 0 then '-' else '+') :: leadZeros 2 (Nat.toDigits 10 e.natAbs)

/-- The digits with a point behind the first one, and their power of ten. -/
def withPower (pointed : Bool) (digits : List Char) (e : Int) : Written where
  whole := digits.take 1
  rest := withPoint pointed (digits.drop 1) ++ powerChars e

/-- The digits with a point where their power of ten puts it. If `placed`, a whole number has one place. -/
def positional (pointed placed : Bool) (digits : List Char) (e : Int) : Written :=
  let digits := List.replicate (-e).toNat '0' ++ digits
  let count := e.toNat + 1
  let places := digits.drop count
  { whole := trailZeros count (digits.take count)
    rest := withPoint pointed (if placed && places.isEmpty then ['0'] else places) }

/-- The digits with a point where it belongs if at most three zeros follow it and the power of ten is below
    the limit, and otherwise with a power of ten. -/
def arranged (pointed placed : Bool) (limit : Int) (digits : List Char) (e : Int) : Written :=
  if -4 ≤ e ∧ e < limit then positional pointed placed digits e else withPower pointed digits e

/-- The fraction with a power of ten and a fixed number of places. -/
def scientific (pointed : Bool) (places num den : Nat) : Written :=
  let (digits, e) := significant (places + 1) num den
  withPower pointed digits e

/-- The digits without the zeros at their end. The first digit stays. -/
def trimZeros : List Char → List Char
  | [] => []
  | c :: cs => c :: (cs.reverse.dropWhile (· == '0')).reverse

/-- The fraction with a number of significant digits, in the notation whose point the digits reach. Zeros at
    the end are left out unless `pointed`. If `placed`, a digit is kept for the place of a whole number. -/
def general (pointed placed : Bool) (count num den : Nat) : Written :=
  let count := max count 1
  let (digits, e) := significant count num den
  let digits := if pointed then digits else trimZeros digits
  arranged pointed placed (if placed then count - 1 else count) digits e

/-- Of the binary fractions of 53 bits, `num / den` is the nearest one to `n * 10 ^ e`. -/
def isNearestTo (num den n : Nat) (e : Int) : Bool :=
  let (a, b) := scaled n 1 (-e)
  (nearestBinary? a b).any fun (x, y) => x * den = num * y

/-- A number of significant digits that the binary fraction is the nearest one to, if there are any, and the
    power of ten of the first one. They are below the fraction or above it, the nearer ones if both will
    do. -/
def identifying? (num den count : Nat) : Option (List Char × Int) :=
  let e := exponent num den
  let last := e - (count - 1)
  let (n, d) := scaled num den last
  let near := roundHalfEven n d
  let far := if near = n / d then near + 1 else n / d
  ([near, far].find? (isNearestTo num den · last)).map fun n =>
    let digits := Nat.toDigits 10 n
    if count < digits.length then (digits.take count, e + 1) else (digits, e)

/-- The fewest digits that the binary fraction is the nearest one to, and the power of ten of the first one.
    Seventeen are always enough. -/
def fewestDigits (num den : Nat) : List Char × Int :=
  ((List.range' 1 17).findSome? (identifying? num den)).getD (significant 17 num den)

/-- The binary fraction in the fewest digits. The point is put where it belongs below the sixteenth power of
    ten, and a whole number has one place then. -/
def shortest (pointed : Bool) (num den : Nat) : Written :=
  let found := fewestDigits num den
  arranged pointed true 16 found.1 found.2

/-- Puts a separator between groups of digits, counted from the end. -/
def groupDigits (separator : Char) (size : Nat) (digits : List Char) : List Char :=
  (digits.foldr (fun c (cs, n) =>
    (if n ≠ 0 ∧ n % size = 0 then c :: separator :: cs else c :: cs, n + 1)) ([], 0)).1

/-- The least number of digits that, in groups with separators between them, take at least `width`
    characters. -/
def digitsToFill (size width : Nat) : Nat :=
  width - (width - 1) / (size + 1)

end AliasBook.Number
