import MailMerge.Decimal.Layout
import MailMerge.Shell.Awk.Token

/-! Values: numbers, texts, and texts of the input that read as numbers. -/

namespace MailMerge.Shell.Awk

inductive Value where
  | number (value : Float)
  | text (text : List Char)
  /-- A text of the input that reads as a number. -/
  | numeral (text : List Char) (value : Float)
  | nothing

/-! ### Numbers -/

/-- The size of a number as a fraction; none if it is infinite. -/
def sizeOf? (value : Float) : Option Decimal.Quotient :=
  let bits := value.abs.toBits.toNat
  if Decimal.infinityBits ≤ bits then none
  else
    let (fraction, scale) := Decimal.unpackBits bits
    some (.ofScaled fraction scale)

/-- The number without its fraction. -/
def truncated (value : Float) : Float :=
  if value < 0 then value.ceil else value.floor

/-- The whole part of a number; infinite ones are cut off. -/
def wholePart (value : Float) : Int :=
  if value.isNaN then -0x8000000000000000
  else
    let size : Nat := ((sizeOf? value).map fun q => q.num / q.den).getD 0x10000000000000000
    if value < 0 then -(size : Int) else size

/-- What is left of a division; it has the sign of the number that is divided. -/
def remainder (left right : Float) : Float :=
  match sizeOf? left, sizeOf? right with
  | some x, some y =>
      if y.num = 0 then 0.0 / 0.0
      else
        let rest := (x.num * y.den) % (y.num * x.den)
        let bits := Decimal.nearestBits rest (x.den * y.den)
        let size := Float.ofBits (UInt64.ofNat bits)
        if left < 0 then -size else size
  | none, _ => 0.0 / 0.0
  | some _, none => left

def smallLetters (cs : List Char) : String :=
  String.ofList (cs.map Char.toLower)

/-- A number at the head of a text, and how much of the text it takes. -/
def readNumber (cs : List Char) : Float × Nat :=
  let body := cs.dropWhile isSpace
  let (isNegative, unsigned) := Decimal.splitSign body
  let signed (value : Float) : Float := if isNegative then -value else value
  let used (rest : List Char) : Nat := cs.length - rest.length
  let isHex : Bool :=
    smallLetters (unsigned.take 2) = "0x"
      && (unsigned.drop 2).head?.any fun c => (hexDigit? c).isSome
  if isHex then
    let digits := (unsigned.drop 2).takeWhile fun c => (hexDigit? c).isSome
    let value := digits.foldl (fun value c => value * 16 + (hexDigit? c).getD 0) 0
    (signed (ofDecimal false value 0), used (unsigned.drop (2 + digits.length)))
  else
    match takeDecimal? unsigned with
    | some (value, rest) => (signed value, used rest)
    | none =>
        let words := ["infinity", "inf", "nan"]
        match words.find? fun word => smallLetters (unsigned.take word.length) = word with
        | some word =>
            let value : Float := if word = "nan" then 0.0 / 0.0 else 1.0 / 0.0
            (signed value, used (unsigned.drop word.length))
        | none => (0, 0)
where
  hexDigit? (c : Char) : Option Nat :=
    if c.isDigit then some (c.toNat - '0'.toNat)
    else if 'a' ≤ c.toLower ∧ c.toLower ≤ 'f' then some (c.toLower.toNat - 'a'.toNat + 10)
    else none

/-- A text of the input, which counts as a number if it reads as one. -/
def Value.ofInput (text : List Char) : Value :=
  let (value, used) := readNumber text
  if used ≠ 0 ∧ (text.drop used).all isSpace then .numeral text value else .text text

/-! ### Formats -/

/-- A letter that says how a value is shown, with the field around it. -/
structure Directive where
  field : Field
  letter : Char

/-- Shows a number in the manner of a directive. -/
def Directive.showNumber (directive : Directive) (value : Float) : List Char :=
  let field := directive.field
  let letter := directive.letter
  if letter = 'd' ∨ letter = 'i' then
    let most : Int := 0xFFFFFFFFFFFFFFFF
    let least : Int := -0x7FFFFFFFFFFFFFFF
    field.whole (max least (min most (wholePart value)))
  else if "ouxX".toList.contains letter then
    let whole := max (-0x7FFFFFFFFFFFFFFF) (min 0xFFFFFFFFFFFFFFFF (wholePart value))
    field.unsigned letter (whole % 0x10000000000000000).toNat
  else if value.isNaN then field.pad "-nan".toList
  else
    let isNegative : Bool := value.toBits.toNat / 0x8000000000000000 = 1
    field.fractional letter isNegative value.abs.toBits.toNat

/-- Reads what stands behind a percent sign. Asterisks take sizes from the values. -/
def takeDirective (cs : List Char) (values : List Float)
    : Option (Directive × List Char × Nat) :=
  let flags := cs.takeWhile "#-+ 0".toList.contains
  let takeSize (cs : List Char) (used : Nat) : Option Int × List Char × Nat :=
    match cs with
    | '*' :: cs => (some (((values.drop used).head?.map wholePart).getD 0), cs, used + 1)
    | cs =>
        let digits := cs.takeWhile Char.isDigit
        (if digits.isEmpty then none else some (Decimal.ofDigits digits),
          cs.drop digits.length, used)
  let (width, rest, used) := takeSize (cs.drop flags.length) 0
  let (precision, rest, used) :=
    match rest with
    | '.' :: rest =>
        let (precision, rest, used) := takeSize rest used
        (some (precision.getD 0), rest, used)
    | rest => (none, rest, used)
  let size := width.getD 0
  let field : Field :=
    {
      flags := if size < 0 then '-' :: flags else flags
      width := size.natAbs
      precision := (precision.filter (0 ≤ ·)).map Int.toNat
    }
  match rest.dropWhile "hlLqjzt".toList.contains with
  | letter :: rest => some ({ field, letter }, rest, used)
  | [] => none

/-- The text of a number in a format for numbers. -/
def formatNumber (format : List Char) (value : Float) : List Char :=
  let lead := format.takeWhile (· ≠ '%')
  match takeDirective (format.drop (lead.length + 1)) [] with
  | some (directive, rest, _) => lead ++ directive.showNumber value ++ rest
  | none => format

/-- The text of a number: its digits if it is whole, else by a format. -/
def numberText (format : List Char) (value : Float) : List Char :=
  let isWhole : Bool :=
    value == value.floor && -9223372036854775808.0 ≤ value && value ≤ 18446744073709551616.0
  if isWhole then (toString (min 0xFFFFFFFFFFFFFFFF (wholePart value))).toList
  else if value.isNaN then "-nan".toList
  else if value.isInf then (if value < 0 then "-inf" else "inf").toList
  else formatNumber format value

namespace Value

def toNumber : Value → Float
  | number value | numeral _ value => value
  | text cs => (readNumber cs).1
  | nothing => 0

def toText (format : List Char) : Value → List Char
  | number value => numberText format value
  | text cs | numeral cs _ => cs
  | nothing => []

def isTrue : Value → Bool
  | number value | numeral _ value => value != 0
  | text cs => !cs.isEmpty
  | nothing => false

def isText : Value → Bool
  | text _ => true
  | _ => false

/-- Compares two values: as texts if one of them is a text, else as numbers. -/
def compare (format : List Char) (operator : Operator) (left right : Value) : Bool :=
  if left.isText || right.isText then
    let order := Ord.compare (String.ofList (left.toText format))
      (String.ofList (right.toText format))
    match operator with
    | .less => order.isLT
    | .atMost => order.isLE
    | .equal => order.isEq
    | .unequal => !order.isEq
    | .more => order.isGT
    | _ => order.isGE
  else
    let x := left.toNumber
    let y := right.toNumber
    match operator with
    | .less => x < y
    | .atMost => x ≤ y
    | .equal => x == y
    | .unequal => x != y
    | .more => x > y
    | _ => x ≥ y

end Value

/-- Reckons with two numbers. -/
def reckon (operator : Operator) (left right : Float) : Float :=
  match operator with
  | .add => left + right
  | .subtract => left - right
  | .multiply => left * right
  | .divide => left / right
  | .remainder => remainder left right
  | _ => left.pow right

/-! ### Formats with values -/

/-- What a format has come to, and what stopped it. -/
structure Filled where
  shown : List Char
  problem : Option String

/-- Fills values into a format. -/
def fillValues (name : String) (numbers format : List Char)
    : Nat → Nat → List Char → List Char → List Value → Filled
  | 0, _, done, _, _ => { shown := done.reverse, problem := none }
  | _ + 1, _, done, [], _ => { shown := done.reverse, problem := none }
  | fuel + 1, count, done, '%' :: '%' :: cs, values =>
      fillValues name numbers format fuel count ('%' :: done) cs values
  | fuel + 1, count, done, '%' :: cs, values =>
      let stop (problem : String) : Filled :=
        { shown := done.reverse
          problem := some s!"{problem} {name}(\"{String.ofList format}\")" }
      match takeDirective cs (values.map Value.toNumber) with
      | none => stop s!"improper conversion(number {count + 1}) in"
      | some (directive, rest, used) =>
          let field := directive.field
          if "diouxXeEfFgGcs".toList.contains directive.letter then
            match values.drop used with
            | [] => stop "not enough arguments passed to"
            | value :: values =>
                let text : List Char :=
                  match directive.letter, value with
                  | 's', value =>
                      let text := value.toText numbers
                      field.pad ((field.precision.map text.take).getD text)
                  | 'c', .text cs => field.pad [cs.head?.getD '\x00']
                  | 'c', value =>
                      field.pad [Char.ofNat (wholePart value.toNumber % 256).toNat]
                  | _, value => directive.showNumber value.toNumber
                fillValues name numbers format fuel (count + 1) (text.reverse ++ done) rest values
          else if values.length ≤ used then stop "not enough arguments passed to"
          else stop s!"improper conversion(number {count + 1}) in"
  | fuel + 1, count, done, c :: cs, values =>
      fillValues name numbers format fuel count (c :: done) cs values

end MailMerge.Shell.Awk
