import AliasBook.Error.Fault
import AliasBook.Number.Rounding

/-! Points in time, to the microsecond, and the way log lines write them: date and time of day in UTC. A time
    given as a decimal number of seconds is first taken to the nearest binary fraction of 53 bits, which
    is how clocks hand it over, and its microseconds are then rounded, a half to the even neighbour. -/

namespace AliasBook

open Number (roundHalfEven toBinary)

/-- A point in time: microseconds since the start of 1970, before it if negative. -/
structure Instant where
  micros : Int
deriving DecidableEq, Inhabited

namespace Instant

/-- The microseconds of `n / 2 ^ scale` seconds. The part below a second is multiplied alone, and the
    product is again a binary fraction before it is rounded. -/
def microsOfBinary (n scale : Nat) : Nat :=
  let (part, partScale) := toBinary (n % Nat.pow 2 scale * 1000000) (Nat.pow 2 scale)
  n / Nat.pow 2 scale * 1000000 + roundHalfEven part (Nat.pow 2 partScale)

/-- A whole number of seconds. -/
def ofSeconds (n : Int) : Instant where
  micros := n * 1000000

/-- A decimal number of seconds. -/
def ofDecimal (isNegative : Bool) (mantissa places : Nat) : Instant :=
  let (n, scale) := toBinary mantissa (Nat.pow 10 places)
  let size : Int := microsOfBinary n scale
  { micros := if isNegative then -size else size }

/-- A number of seconds; other values are no times. -/
def ofValue? : Value → Option Instant
  | .int n => some (ofSeconds n)
  | .decimal isNegative mantissa places => some (ofDecimal isNegative mantissa places)
  | _ => none

/-- Year, month and day of a day counted from the start of 1970. Years are counted from March, so that
    the leap day is the last of its year, in spans of 400 years, which all have 146097 days. -/
def dateOfDay (day : Int) : Int × Nat × Nat :=
  let shifted := day + 719468
  let era := shifted / 146097
  let dayOfEra := (shifted % 146097).toNat
  let yearOfEra := (dayOfEra - dayOfEra / 1460 + dayOfEra / 36524 - dayOfEra / 146096) / 365
  let dayOfYear := dayOfEra - (365 * yearOfEra + yearOfEra / 4 - yearOfEra / 100)
  let monthFromMarch := (5 * dayOfYear + 2) / 153
  let dayOfMonth := dayOfYear - (153 * monthFromMarch + 2) / 5 + 1
  let month := if monthFromMarch < 10 then monthFromMarch + 3 else monthFromMarch - 9
  let year := era * 400 + yearOfEra + if month ≤ 2 then 1 else 0
  (year, month, dayOfMonth)

/-- The digits of `n`, with zeros in front up to the width. -/
def padded (width n : Nat) : String :=
  let digits := Nat.toDigits 10 n
  String.ofList (List.replicate (width - digits.length) '0' ++ digits)

/-- The date and time of day, with microseconds only if there are any. Dates have years from 1 to
    9999. -/
def stamp (t : Instant) : Except Fault String :=
  let seconds := t.micros / 1000000
  let micros := (t.micros % 1000000).toNat
  let (year, month, day) := dateOfDay (seconds / 86400)
  let second := (seconds % 86400).toNat
  if year < 1 ∨ 9999 < year then .error (.yearOutOfRange year)
  else
    .ok (padded 4 year.toNat ++ "-" ++ padded 2 month ++ "-" ++ padded 2 day ++ "T" ++
      padded 2 (second / 3600) ++ ":" ++ padded 2 (second / 60 % 60) ++ ":" ++ padded 2 (second % 60) ++
      (if micros = 0 then "" else "." ++ padded 6 micros) ++ "Z")

end Instant

end AliasBook
