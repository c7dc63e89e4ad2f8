import MailMerge.Decimal.Binary64

/-! The shortest decimal that reads back as a binary64 number. For each number of digits
the two neighbours of the number on that decimal grid are tried, and the first grid with a
hit gives the digits.
-/

namespace MailMerge.Decimal

/-- A fraction of whole numbers. -/
structure Quotient where
  num : Nat
  den : Nat
  deriving DecidableEq, Repr

namespace Quotient

def ofScaled (digits : Nat) (scale : Int) : Quotient where
  num := digits * Nat.pow 2 scale.toNat
  den := Nat.pow 2 (-scale).toNat

def le (left right : Quotient) : Bool :=
  left.num * right.den ≤ right.num * left.den

def lt (left right : Quotient) : Bool :=
  left.num * right.den < right.num * left.den

/-- The distance between two quotients. -/
def distance (left right : Quotient) : Quotient where
  num :=
    (left.num * right.den - right.num * left.den)
      + (right.num * left.den - left.num * right.den)
  den := left.den * right.den

end Quotient

/-- The numbers that round to a given one. -/
structure Interval where
  low : Quotient
  high : Quotient
  hasEnds : Bool

def Interval.holds (interval : Interval) (q : Quotient) : Bool :=
  if interval.hasEnds then interval.low.le q && q.le interval.high
  else interval.low.lt q && q.lt interval.high

/-- The fraction and the scale of finite bits. -/
def unpackBits (bits : Nat) : Nat × Int :=
  let exponent := bits / fractionCount
  let fraction := bits % fractionCount
  if exponent = 0 then (fraction, -1074)
  else (fraction + fractionCount, Int.ofNat exponent - 1075)

/-- The numbers that round to the one with the given bits, which are not those of zero. -/
def roundingInterval (bits : Nat) : Interval :=
  let (fraction, scale) := unpackBits bits
  let isLeast := fraction = fractionCount ∧ fractionCount ≤ bits - fractionCount
  {
    low :=
      if isLeast then .ofScaled (4 * fraction - 1) (scale - 2)
      else .ofScaled (2 * fraction - 1) (scale - 1)
    high := .ofScaled (2 * fraction + 1) (scale - 1)
    hasEnds := fraction % 2 = 0
  }

/-- The number of decimal digits of a whole number. -/
def countDigits (n : Nat) : Nat :=
  (Nat.toDigits 10 n).length

/-- The least shift in tens that makes a fraction below one reach one. -/
def leadingPlace (q : Quotient) : Nat → Nat → Nat
  | 0, place => place
  | fuel + 1, place =>
      if q.den ≤ q.num * Nat.pow 10 place then place else leadingPlace q fuel (place + 1)

/-- The power of ten of a number's first digit. -/
def leadingExponent (q : Quotient) : Int :=
  if q.den ≤ q.num then Int.ofNat (countDigits (q.num / q.den)) - 1
  else -Int.ofNat (leadingPlace q 400 1)

/-- A whole number of steps of a decimal grid. -/
def onGrid (steps : Nat) (exponent : Int) : Quotient where
  num := steps * Nat.pow 10 exponent.toNat
  den := Nat.pow 10 (-exponent).toNat

/-- The neighbour of a number on a grid that rounds to the number; of two the nearer one,
and of two equally near the even one.
-/
def nearestOnGrid? (q : Quotient) (interval : Interval) (exponent : Int) : Option Nat :=
  let below :=
    q.num * Nat.pow 10 (-exponent).toNat / (q.den * Nat.pow 10 exponent.toNat)
  let low := onGrid below exponent
  let high := onGrid (below + 1) exponent
  match interval.holds low && below != 0, interval.holds high with
  | true, true =>
      let toLow := q.distance low
      let toHigh := q.distance high
      if toLow.lt toHigh then some below
      else if toHigh.lt toLow then some (below + 1)
      else some (if below % 2 = 0 then below else below + 1)
  | true, false => some below
  | false, true => some (below + 1)
  | false, false => none

/-- Tries grids of more and more digits. -/
def shortestFrom (q : Quotient) (interval : Interval) (lead : Int) : Nat → Nat → Nat × Int
  | 0, count => (0, lead + count)
  | fuel + 1, count =>
      let exponent := lead + 1 - count
      match nearestOnGrid? q interval exponent with
      | some digits => (digits, exponent)
      | none => shortestFrom q interval lead fuel (count + 1)

/-- The digits and the power of ten of the shortest decimal that reads back. -/
def shortest (bits : Nat) : Nat × Int :=
  let (fraction, scale) := unpackBits bits
  let q := Quotient.ofScaled fraction scale
  shortestFrom q (roundingInterval bits) (leadingExponent q) 17 1

/-- Drops the zeros at the end of a run of digits, and counts them into the exponent. -/
def dropZeros : Nat → Nat → Int → Nat × Int
  | 0, digits, exponent => (digits, exponent)
  | fuel + 1, digits, exponent =>
      if digits % 10 = 0 ∧ digits ≠ 0 then dropZeros fuel (digits / 10) (exponent + 1)
      else (digits, exponent)

def zeros (count : Nat) : String :=
  String.ofList (List.replicate count '0')

/-- How a decimal is written: with a point from `1e-5` up to sixteen digits before it, and
otherwise with an exponent. A number always shows that it need not be whole.
-/
def write (digits : Nat) (exponent : Int) : String :=
  let (digits, exponent) := dropZeros 20 digits exponent
  let text := toString digits
  let point := exponent + text.length
  if 0 ≤ exponent ∧ point ≤ 16 then text ++ zeros exponent.toNat ++ ".0"
  else if 0 < point ∧ point ≤ 16 then
    (text.take point.toNat).toString ++ "." ++ (text.drop point.toNat).toString
  else if -5 < point ∧ point ≤ 0 then "0." ++ zeros (-point).toNat ++ text
  else
    let tail := (text.drop 1).toString
    (text.take 1).toString ++ (if tail = "" then "" else "." ++ tail)
      ++ "e" ++ toString (point - 1)

/-- The text of a finite number: its shortest decimal. -/
def writeBits (isNegative : Bool) (bits : Nat) : String :=
  (if isNegative then "-" else "")
    ++ (if bits = 0 then "0.0"
        else
          let (digits, exponent) := shortest bits
          write digits exponent)

end MailMerge.Decimal
