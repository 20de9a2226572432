/-! Rounding of fractions, to whole numbers and to binary fractions of 53 significant bits. Fractions are not
    negative; a numerator and a denominator stand for one. A half goes to the even neighbour. -/

namespace AliasBook.Number

/-- The whole number nearest to `num / den`, the even one of two. -/
def roundHalfEven (num den : Nat) : Nat :=
  let q := num / den
  let twice := 2 * (num % den)
  if twice < den ∨ twice = den ∧ q % 2 = 0 then q else q + 1

/-- The largest scale of a binary fraction, which small ones lose bits for. -/
def maxScale : Nat := 1074

/-- The numerator and the scale of the fraction `n / 2 ^ scale` of 53 significant bits that is nearest to
    `num / den`. From `2 ^ 53` on it is the nearest whole number. -/
def toBinary (num den : Nat) : Nat × Nat :=
  let low := 52 + den.log2 - num.log2
  let scale := min maxScale (if den * Nat.pow 2 52 ≤ num * Nat.pow 2 low then low else low + 1)
  (roundHalfEven (num * Nat.pow 2 scale) den, scale)

/-- The fraction of 53 significant bits nearest to `num / den`, of any size below `2 ^ 1024`. There is none
    from there on. -/
def nearestBinary? (num den : Nat) : Option (Nat × Nat) :=
  if den * Nat.pow 2 53 ≤ num then
    let zeros := (num / den).log2 - 52
    let n := roundHalfEven num (den * Nat.pow 2 zeros) * Nat.pow 2 zeros
    if n < Nat.pow 2 1024 then some (n, 1) else none
  else
    let (n, scale) := toBinary num den
    some (n, Nat.pow 2 scale)

end AliasBook.Number
