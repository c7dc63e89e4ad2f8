/-! Decimal literals and the binary64 numbers they are read as. The digits of a literal
and its exponent are kept exactly; rounding goes to the nearest number, a tie to the even
one.
-/

namespace MailMerge.Decimal

/-- The value of a run of decimal digits. -/
def ofDigits (digits : List Char) : Nat :=
  digits.foldl (fun value digit => 10 * value + (digit.toNat - '0'.toNat)) 0

/-- A decimal number: a sign, a whole number, and a power of ten to scale it with. -/
structure Literal where
  negative : Bool
  digits : Nat
  exponent : Int
  deriving DecidableEq, Repr

/-- Takes a sign off a text; no sign is a plus. -/
def splitSign : List Char → Bool × List Char
  | '-' :: cs => (true, cs)
  | '+' :: cs => (false, cs)
  | cs => (false, cs)

/-- A whole number with an optional sign. -/
def readInt? (cs : List Char) : Option Int :=
  let (negative, digits) := splitSign cs
  if digits = [] ∨ digits.any (!·.isDigit) then none
  else if negative then some (-(ofDigits digits : Int))
  else some (ofDigits digits)

/-- The exponent behind a mantissa: nothing, or the letter and a whole number. -/
def readExponent? : List Char → Option Int
  | [] => some 0
  | c :: cs => if c = 'e' ∨ c = 'E' then readInt? cs else none

/-- Reads a decimal literal: a sign, digits with an optional point and at least one digit,
and an optional exponent.
-/
def Literal.read? (cs : List Char) : Option Literal :=
  let (negative, unsigned) := splitSign cs
  let whole := unsigned.takeWhile Char.isDigit
  let afterWhole := unsigned.dropWhile Char.isDigit
  let (fraction, tail) :=
    match afterWhole with
    | '.' :: more => (more.takeWhile Char.isDigit, more.dropWhile Char.isDigit)
    | _ => ([], afterWhole)
  if whole ++ fraction = [] then none
  else
    (readExponent? tail).map fun exponent =>
      {
        negative
        digits := ofDigits (whole ++ fraction)
        exponent := exponent - fraction.length
      }

end MailMerge.Decimal
