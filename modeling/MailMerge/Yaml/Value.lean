import MailMerge.Decimal.Shortest

/-! Values of structured documents, and the values that plain scalars stand for. Integers
are decimal, hexadecimal, octal or binary and have no leading zeros; what is neither null,
a boolean nor a number is text.
-/

namespace MailMerge.Yaml

inductive Number where
  | integer (value : Int)
  /-- A finite binary64 number by its sign and the bits of its magnitude. -/
  | float (isNegative : Bool) (bits : Nat)
  | infinity (isNegative : Bool)
  | notANumber
  deriving DecidableEq, Repr

namespace Number

def text : Number → String
  | integer value => toString value
  | float isNegative bits => Decimal.writeBits isNegative bits
  | infinity isNegative => if isNegative then "-.inf" else ".inf"
  | notANumber => ".nan"

/-- Numbers are the same key when they are the same number; the two zeros are one. -/
def same : Number → Number → Bool
  | float isNegative bits, float isNegative' bits' =>
      bits = bits' && (isNegative = isNegative' || bits = 0)
  | left, right => left = right

end Number

inductive Value where
  | null
  | bool (value : Bool)
  | number (value : Number)
  | text (value : String)
  | list (items : List Value)
  | map (entries : List (Value × Value))
  | tagged (tag : String) (value : Value)

/-- What options files take from a reader of YAML. -/
structure Library where
  /-- The value of a document, or what is wrong with it. -/
  read : String → Except String Value
  /-- How a number is written. -/
  numberText : Number → String

/-- A tag and the tag with one more exclamation mark in front are the same. -/
def bareTag (tag : String) : String :=
  if tag.startsWith "!" ∧ tag ≠ "!" then (tag.drop 1).toString else tag

namespace Value

mutual
/-- Whether two values are the same key of a map. The order of a map's entries does not
matter.
-/
def same : Value → Value → Bool
  | null, null => true
  | bool left, bool right => left = right
  | number left, number right => left.same right
  | text left, text right => left = right
  | list left, list right => sameItems left right
  | map left, map right => left.length = right.length && haveSame left right
  | tagged tag left, tagged tag' right => bareTag tag = bareTag tag' && same left right
  | _, _ => false

def sameItems : List Value → List Value → Bool
  | [], [] => true
  | left :: lefts, right :: rights => same left right && sameItems lefts rights
  | _, _ => false

/-- Whether all entries are among some others. -/
def haveSame : List (Value × Value) → List (Value × Value) → Bool
  | [], _ => true
  | (key, value) :: rest, others =>
      others.any (fun other => same key other.1 && same value other.2)
        && haveSame rest others
end

/-- The value under a tag. -/
def untag : Value → Value
  | tagged _ value => value.untag
  | value => value

end Value

/-! ### Plain scalars -/

def digitOf? (base : Nat) (c : Char) : Option Nat :=
  let value :=
    if c.isDigit then c.toNat - '0'.toNat
    else if 'a' ≤ c ∧ c ≤ 'f' then c.toNat - 'a'.toNat + 10
    else if 'A' ≤ c ∧ c ≤ 'F' then c.toNat - 'A'.toNat + 10
    else base
  if value < base then some value else none

/-- The value of a run of digits that is not empty. -/
def natOf? (base : Nat) (cs : List Char) : Option Nat :=
  if cs = [] then none
  else cs.foldlM (fun value c => (digitOf? base c).map (value * base + ·)) 0

/-- Digits behind a leading zero make no number. -/
def hasLeadingZero (cs : List Char) : Bool :=
  match (Decimal.splitSign cs).2 with
  | '0' :: rest => rest ≠ [] && rest.all Char.isDigit
  | _ => false

/-- The magnitude of an integer behind its sign. -/
def magnitude? : List Char → Option Nat
  | '0' :: 'x' :: cs => natOf? 16 cs
  | '0' :: 'o' :: cs => natOf? 8 cs
  | '0' :: 'b' :: cs => natOf? 2 cs
  | cs => natOf? 10 cs

def integer? (cs : List Char) : Option Int :=
  if hasLeadingZero cs then none
  else
    let (isNegative, rest) := Decimal.splitSign cs
    (magnitude? rest).map fun value => if isNegative then -Int.ofNat value else Int.ofNat value

/-- The integers that a word holds are below this bound, or not below its half's negative. -/
def wordBound : Int := 0x10000000000000000

/-- The integers that are read as such are bounded in the same way by this; larger ones are
read as floating point numbers.
-/
def integerBound : Int := wordBound * wordBound

def isWithin (bound value : Int) : Bool :=
  -(bound / 2) ≤ value && value < bound

def float? (cs : List Char) : Option Number :=
  let (isNegative, rest) := Decimal.splitSign cs
  let word := String.ofList rest
  if [".inf", ".Inf", ".INF"].contains word then some (.infinity isNegative)
  else if [".nan", ".NaN", ".NAN"].contains (String.ofList cs) then some .notANumber
  else
    match Decimal.Literal.read? cs with
    | none => none
    | some literal =>
        let bits := Decimal.magnitudeBits literal.digits literal.exponent
        if bits < Decimal.infinityBits then some (.float literal.negative bits) else none

/-- What a plain scalar stands for; none for an integer that no 64-bit word holds. -/
def Value.ofPlain (text : String) : Option Value :=
  if ["", "~", "null", "Null", "NULL"].contains text then some .null
  else if ["true", "True", "TRUE"].contains text then some (.bool true)
  else if ["false", "False", "FALSE"].contains text then some (.bool false)
  else
    match (integer? text.toList).filter (isWithin integerBound) with
    | some value => if isWithin wordBound value then some (.number (.integer value)) else none
    | none =>
        if hasLeadingZero text.toList then some (.text text)
        else
          match float? text.toList with
          | some found => some (.number found)
          | none => some (.text text)

end MailMerge.Yaml
