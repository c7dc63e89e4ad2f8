import MailMerge.Decimal.Shortest

/-! Numbers laid out with a wanted number of digits: with a point at its place, with a power
of ten behind, or whichever is shorter. What is left out is rounded to the nearest digit, a
half to the even one.
-/

namespace MailMerge.Decimal

/-- Digits with a point in front of the last ones. -/
def pointed (units places : Nat) : List Char :=
  let digits := (toString units).toList
  let digits := List.replicate (places + 1 - digits.length) '0' ++ digits
  let whole := digits.length - places
  digits.take whole ++ (if places = 0 then [] else '.' :: digits.drop whole)

/-- A quotient with so many digits behind the point. -/
def Quotient.fixed (q : Quotient) (places : Nat) : List Char :=
  pointed (nearestQuotient (q.num * Nat.pow 10 places) q.den) places

/-- A quotient times a power of ten, rounded to a whole number. -/
def Quotient.shifted (q : Quotient) (power : Int) : Nat :=
  nearestQuotient (q.num * Nat.pow 10 power.toNat) (q.den * Nat.pow 10 (-power).toNat)

/-- The power of ten of the first digit of a quotient that is not zero. -/
def Quotient.magnitude (q : Quotient) : Int :=
  let whole := q.num / q.den
  if whole ≠ 0 then (toString whole).length - 1
  else
    let guess := (toString (q.den / (q.num + 1))).length
    let reaches (power : Nat) : Bool := q.den ≤ q.num * Nat.pow 10 power
    let least := (List.range 4).map (fun i => guess + i - 2)
    match least.find? reaches with
    | some power => -(power : Int)
    | none => -(guess + 2 : Int)

/-- The digits of a quotient, so many behind the first one, as a whole number, and the
power of ten of the first one.
-/
def Quotient.scientific (q : Quotient) (places : Nat) : Nat × Int :=
  if q.num = 0 then (0, 0)
  else
    let power := q.magnitude
    let units := q.shifted (places - power)
    if Nat.pow 10 (places + 1) ≤ units then (q.shifted (places - power - 1), power + 1)
    else (units, power)

/-- A power of ten behind a number. -/
def powerText (letter : Char) (power : Int) : List Char :=
  let digits := (toString power.natAbs).toList
  letter :: (if power < 0 then '-' else '+')
    :: (if digits.length < 2 then '0' :: digits else digits)

def Quotient.exponential (q : Quotient) (letter : Char) (places : Nat) : List Char :=
  let (units, power) := q.scientific places
  pointed units places ++ powerText letter power

/-- Leaves out zeros behind the point, and the point if nothing is left behind it. -/
def trimZeros (text : List Char) : List Char :=
  if text.contains '.' then
    let trimmed := (text.reverse.dropWhile (· = '0')).reverse
    if trimmed.getLast? = some '.' then trimmed.dropLast else trimmed
  else text

/-- The shorter layout with so many digits in all. -/
def Quotient.general (q : Quotient) (letter : Char) (digits : Nat) (keepsZeros : Bool)
    : List Char :=
  let digits := max digits 1
  let trim (text : List Char) : List Char := if keepsZeros then text else trimZeros text
  let (units, power) := q.scientific (digits - 1)
  if -4 ≤ power ∧ power < digits then trim (q.fixed (digits - 1 - power).toNat)
  else trim (pointed units (digits - 1)) ++ powerText letter power

end MailMerge.Decimal
