import MailMerge.Decimal.Layout

/-! Numbers at the heads of texts: decimal ones, ones in base sixteen with a power of two,
and the words for what is infinite or no number.
-/

namespace MailMerge.Decimal

/-- The size of a number of a binary format. -/
inductive Magnitude where
  | finite (size : Quotient)
  | infinite
  | undefined
  deriving DecidableEq, Repr

/-- The size of the number that some bits stand for. -/
def Magnitude.ofBits (bits : Nat) : Magnitude :=
  if infinityBits < bits then .undefined
  else if bits = infinityBits then .infinite
  else
    let (fraction, scale) := unpackBits bits
    .finite (.ofScaled fraction scale)

/-- A number at the head of a text: its sign, the bits of its size, and what stands behind. -/
structure Head where
  isNegative : Bool
  bits : Nat
  rest : List Char

def Head.magnitude (head : Head) : Magnitude :=
  .ofBits head.bits

def hexDigit? (c : Char) : Option Nat :=
  if c.isDigit then some (c.toNat - '0'.toNat)
  else if 'a' ≤ c.toLower ∧ c.toLower ≤ 'f' then some (c.toLower.toNat - 'a'.toNat + 10)
  else none

def hexValue (digits : List Char) : Nat :=
  digits.foldl (fun value c => value * 16 + (hexDigit? c).getD 0) 0

/-- The bits of the number nearest to `digits * 2 ^ scale`. Powers that are far out of the
format are cut off.
-/
def scaledBits (digits : Nat) (scale : Int) : Nat :=
  if digits = 0 then 0
  else
    let size : Int := Nat.log2 digits + scale
    if 1100 < size then infinityBits
    else if size < -1200 then 0
    else
      let quotient := Quotient.ofScaled digits scale
      min infinityBits (nearestBits quotient.num quotient.den)

/-- An exponent at the head of a text, and what stands behind it; nothing is an exponent of
zero.
-/
def takeExponent (letter : Char) (cs : List Char) : Int × List Char :=
  match cs with
  | c :: rest =>
      if c.toLower ≠ letter then (0, cs)
      else
        let (isNegative, body) := splitSign rest
        let digits := body.takeWhile Char.isDigit
        if digits = [] then (0, cs)
        else
          let size : Int := ofDigits (digits.take 8)
          (if isNegative then -size else size, body.drop digits.length)
  | [] => (0, [])

/-- Digits of some kind with an optional point among them: the digits, how many stand behind
the point, and what stands behind them all.
-/
def takePointed (isDigit : Char → Bool) (cs : List Char) : List Char × Nat × List Char :=
  let whole := cs.takeWhile isDigit
  match cs.drop whole.length with
  | '.' :: more =>
      let fraction := more.takeWhile isDigit
      if whole = [] ∧ fraction = [] then ([], 0, cs)
      else (whole ++ fraction, fraction.length, more.drop fraction.length)
  | rest => (whole, 0, rest)

/-- A number without a sign: the bits of its size, and what stands behind it. -/
def takeSize? (cs : List Char) : Option (Nat × List Char) :=
  let hex :=
    match cs with
    | '0' :: x :: body =>
        if x.toLower = 'x' then
          let (digits, places, rest) := takePointed (hexDigit? · |>.isSome) body
          if digits = [] then none
          else
            let (power, rest) := takeExponent 'p' rest
            some (scaledBits (hexValue digits) (power - 4 * places), rest)
        else none
    | _ => none
  match hex with
  | some found => some found
  | none =>
      let (digits, places, rest) := takePointed Char.isDigit cs
      if digits ≠ [] then
        let (power, rest) := takeExponent 'e' rest
        some (min infinityBits (magnitudeBits (ofDigits digits) (power - places)), rest)
      else
        let starts (word : String) : Bool :=
          word.toList.isPrefixOf (cs.map Char.toLower)
        if starts "infinity" then some (infinityBits, cs.drop 8)
        else if starts "inf" then some (infinityBits, cs.drop 3)
        else if starts "nan" then
          let rest := cs.drop 3
          let inside := rest.tail.takeWhile fun c => c.isAlphanum || c = '_'
          let isClosed : Bool :=
            rest.head? = some '(' && (rest.tail.drop inside.length).head? = some ')'
          some (infinityBits + 1, if isClosed then rest.drop (inside.length + 2) else rest)
        else none

/-- The number at the head of a text, if there is one. -/
def Head.read? (cs : List Char) : Option Head :=
  let (isNegative, body) := splitSign cs
  (takeSize? body).map fun (bits, rest) => { isNegative, bits, rest }

/-! ### Base sixteen -/

/-- The digits behind the point of a number in base sixteen, rounded to so many places; the
digit in front may grow.
-/
def hexRounded (lead fraction places : Nat) : Nat × List Char :=
  let (value, size) :=
    if places < 13 then
      (nearestQuotient (lead * Nat.pow 16 13 + fraction) (Nat.pow 16 (13 - places)), places)
    else ((lead * Nat.pow 16 13 + fraction) * Nat.pow 16 (places - 13), places)
  let unit := Nat.pow 16 size
  let digits := Nat.toDigits 16 (value % unit)
  (value / unit,
    if size = 0 then [] else List.replicate (size - digits.length) '0' ++ digits)

/-- A finite number in base sixteen, with so many places behind the point or as many as it
takes.
-/
def hexText (bits : Nat) (places : Option Nat) (keepsPoint : Bool) : List Char :=
  let scale := bits / fractionCount
  let fraction := bits % fractionCount
  let lead := if scale = 0 then 0 else 1
  let power : Int :=
    if bits = 0 then 0 else if scale = 0 then -1022 else (scale : Int) - 1023
  let (lead, digits) := hexRounded lead fraction (places.getD 13)
  let digits :=
    if places.isSome then digits else (digits.reverse.dropWhile (· = '0')).reverse
  let point := if digits = [] ∧ !keepsPoint then [] else '.' :: digits
  ['0', 'x'] ++ (toString lead).toList ++ point
    ++ 'p' :: (if power < 0 then '-' else '+') :: (toString power.natAbs).toList

end MailMerge.Decimal
