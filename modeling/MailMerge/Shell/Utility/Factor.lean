import MailMerge.Shell.Utility.Lines

/-! The prime factors of numbers. Small factors are found by division. What is left is split
where two values of one walk through the residues agree up to a factor.
-/

namespace MailMerge.Shell.Utility

open Work

namespace Factor

/-- A power up to multiples of a number; the fuel bounds the digits of the exponent. -/
def power (modulus : Nat) : Nat → Nat → Nat → Nat
  | 0, _, _ => 1 % modulus
  | fuel + 1, base, exponent =>
      if exponent = 0 then 1 % modulus
      else
        let half := power modulus fuel (base * base % modulus) (exponent / 2)
        if exponent % 2 = 1 then base * half % modulus else half

/-- Takes the twos out of a number. -/
def splitTwos : Nat → Nat → Nat × Nat
  | 0, n => (0, n)
  | fuel + 1, n =>
      if n = 0 ∨ n % 2 = 1 then (0, n)
      else
        let (count, odd) := splitTwos fuel (n / 2)
        (count + 1, odd)

/-- Whether squaring reaches the residue in front of zero. -/
def reachesLast (n : Nat) : Nat → Nat → Bool
  | 0, _ => false
  | fuel + 1, x => x = n - 1 || reachesLast n fuel (x * x % n)

/-- Whether a base does not show that a number has factors. -/
def agrees (n base : Nat) : Bool :=
  let (count, odd) := splitTwos n.log2 (n - 1)
  let x := power n (n.log2 + 1) (base % n) odd
  base % n = 0 || x = 1 || reachesLast n count x

def bases : List Nat :=
  [2, 3, 5, 7, 11, 13, 17, 19, 23, 29, 31, 37]

/-- Whether a number has no factors but itself: no base shows one. -/
def isPrime (n : Nat) : Bool :=
  2 ≤ n && (bases.contains n || (n % 2 = 1 && bases.all (agrees n)))

/-- Divides by the numbers from a place on while they are small, and gives what is left. -/
def divideOut (most : Nat) : Nat → Nat → Nat → List Nat → List Nat × Nat
  | 0, _, n, found => (found, n)
  | fuel + 1, divisor, n, found =>
      if most < divisor then (found, n)
      else if n < divisor * divisor then (if 1 < n then n :: found else found, 1)
      else if n % divisor = 0 then divideOut most fuel divisor (n / divisor) (divisor :: found)
      else divideOut most fuel (if divisor = 2 then 3 else divisor + 2) n found

/-- Goes on with two values of a walk, one twice as fast, until they agree up to a factor. -/
def walk (n step : Nat) : Nat → Nat → Nat → Option Nat
  | 0, _, _ => none
  | fuel + 1, slow, fast =>
      let next (x : Nat) : Nat := (x * x + step) % n
      let slow := next slow
      let fast := next (next fast)
      let factor := Nat.gcd (max slow fast - min slow fast) n
      if factor = 1 then walk n step fuel slow fast
      else if factor = n then none
      else some factor

/-- A factor of a number that is not prime. -/
def someFactor? (n : Nat) : Option Nat :=
  (List.range 20).findSome? fun i => walk n (i + 1) 4000000 2 2

/-- Splits a number that has no small factors. -/
def split : Nat → Nat → List Nat
  | 0, n => [n]
  | fuel + 1, n =>
      if n ≤ 1 then []
      else if isPrime n then [n]
      else
        match someFactor? n with
        | some factor => split fuel factor ++ split fuel (n / factor)
        | none => [n]

/-- The prime factors of a number, the smallest one first. -/
def factors (n : Nat) : List Nat :=
  let most := 1000
  let (small, rest) := divideOut most (most + n.log2 + 1) 2 n []
  (split (n.log2 + 1) rest ++ small).mergeSort (· ≤ ·)

end Factor

/-- Shows the factors of a number, if a word spells one. -/
def showFactorsOf (isBrief : Bool) (word : String) : Work Bool := do
  let cs := word.toList.dropWhile isSpace
  let cs := if cs.head? = some '+' then cs.tail else cs
  match natOf? (String.ofList cs) with
  | none => do
      warn "factor" s!"{marked word} is not a valid positive integer"
      return false
  | some n => do
      let found := if n = 0 then [] else Factor.factors n
      let texts :=
        if isBrief then
          found.eraseDups.map fun prime =>
            let count := found.countP (· = prime)
            if count = 1 then s!" {prime}" else s!" {prime}^{count}"
        else found.map fun prime => s!" {prime}"
      sayLine (s!"{n}:" ++ String.join texts)
      return true

def showFactors (words : List String) : Work Nat := do
  let name := "factor"
  let arguments ← arguments (Switches.of "h" "" [("exponents", 'h')]) 1 name words
  let words ←
    if arguments.operands.isEmpty then
      pure (((← takeInput).splitOnP isSpace).filter (· ≠ []) |>.map String.ofList)
    else pure arguments.operands
  let results ← words.mapM (showFactorsOf (arguments.has 'h'))
  return statusOf (results.all id)

end MailMerge.Shell.Utility
