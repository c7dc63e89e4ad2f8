import MailMerge.Decimal.Reading

/-! Nearest binary64 numbers of exact fractions, by their bits. The bits of the finite
numbers that are not negative count up from zero in the order of the numbers.
-/

namespace MailMerge.Decimal

/-- The number of fractions that share a scale, `2 ^ 52`. -/
def fractionCount : Nat := 0x10000000000000

/-- The bits of infinity: every finite magnitude has smaller ones. -/
def infinityBits : Nat := 0x7FF * fractionCount

/-- The bits of `fraction * 2 ^ scale`, where the fraction is below `2 ^ 53` and, above the
least scale, at least `2 ^ 52`. A fraction of `2 ^ 53` carries into the next scale.
-/
def packBits (fraction : Nat) (scale : Int) : Nat :=
  (scale + 1074).toNat * fractionCount + fraction

/-- The whole number nearest to a quotient; a half goes to the even neighbour. -/
def nearestQuotient (num den : Nat) : Nat :=
  let quotient := num / den
  let twice := 2 * (num % den)
  if den < twice ∨ (twice = den ∧ quotient % 2 = 1) then quotient + 1 else quotient

/-- The quotient `num / (den * 2 ^ scale)` as two whole numbers. -/
def rescale (num den : Nat) (scale : Int) : Nat × Nat :=
  (num * Nat.pow 2 (-scale).toNat, den * Nat.pow 2 scale.toNat)

/-- The power of two that leaves 53 bits of a quotient before the point, or the least one
of the format.
-/
def scaleOf (num den : Nat) : Int :=
  let low := max ((Nat.log2 num : Int) - Nat.log2 den - 53) (-1074)
  let (num', den') := rescale num den low
  if 2 * fractionCount ≤ num' / den' then low + 1 else low

/-- The bits of the binary64 number nearest to a quotient, a tie going to the even one.
They reach `infinityBits` when the quotient is too large for the format.
-/
def nearestBits (num den : Nat) : Nat :=
  if num = 0 then 0
  else
    let scale := scaleOf num den
    let (num', den') := rescale num den scale
    packBits (nearestQuotient num' den') scale

/-- The bits of the number nearest to `digits * 10 ^ exponent`. The first two cases only
keep the powers small: such numbers are infinite, or closer to zero than to any other.
-/
def magnitudeBits (digits : Nat) (exponent : Int) : Nat :=
  if digits = 0 then 0
  else if 400 < exponent then infinityBits
  else if (Nat.log2 digits : Int) + 1200 < -3 * exponent then 0
  else nearestBits (digits * Nat.pow 10 exponent.toNat) (Nat.pow 10 (-exponent).toNat)

/-- The place of a literal's number among the finite numbers, negative zero before zero;
none if the nearest number is not finite.
-/
def Literal.rank? (literal : Literal) : Option Int :=
  let bits := magnitudeBits literal.digits literal.exponent
  if infinityBits ≤ bits then none
  else if literal.negative then some (-1 - bits)
  else some bits

end MailMerge.Decimal
