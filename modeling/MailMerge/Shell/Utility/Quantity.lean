import MailMerge.Decimal.Layout
import MailMerge.Shell.Utility.Columns
import MailMerge.Shell.Utility.Order

/-! Numbers with a letter for their scale: reading them, and writing them so. Values are
exact fractions.
-/

namespace MailMerge.Shell.Utility

open Work

namespace Quantity

/-- The letters of a scale, and by how much one is more than the one before. -/
inductive Scale where
  | none
  | auto
  | decimal
  | binary
  | binaryMarked
  deriving DecidableEq, Repr

def scaleNames : List (String × Scale) :=
  [
    ("none", .none), ("auto", .auto), ("si", .decimal), ("iec", .binary),
    ("iec-i", .binaryMarked)
  ]

def Scale.base : Scale → Nat
  | binary => 1024
  | binaryMarked => 1024
  | _ => 1000

def scaleLetters : List Char :=
  "KMGTPEZYRQ".toList

inductive Rounding where
  | up
  | down
  | fromZero
  | towardsZero
  | nearest
  deriving DecidableEq, Repr

def roundingNames : List (String × Rounding) :=
  [
    ("up", .up), ("down", .down), ("from-zero", .fromZero), ("towards-zero", .towardsZero),
    ("nearest", .nearest)
  ]

/-- A fraction; what is below the line is not zero. -/
structure Value where
  isNegative : Bool
  above : Nat
  below : Nat

/-- A fraction as a whole number. -/
def Rounding.round (rounding : Rounding) (isNegative : Bool) (above below : Nat) : Nat :=
  let low := above / below
  let isExact : Bool := above % below = 0
  let high := if isExact then low else low + 1
  match rounding with
  | up => if isNegative then low else high
  | down => if isNegative then high else low
  | fromZero => high
  | towardsZero => low
  | nearest => (2 * above + below) / (2 * below)

/-- The digits of a fraction with so many of them behind the point. -/
def fixed (value : Value) (places : Nat) : String :=
  let digits := Decimal.Quotient.fixed { num := value.above, den := value.below } places
  String.ofList (if value.isNegative then '-' :: digits else digits)

/-- Divides by a base while the value is not below it, and counts how often. -/
def reduce (base : Nat) : Nat → Nat → Nat → Nat × Nat
  | 0, _, below => (0, below)
  | fuel + 1, above, below =>
      if above < base * below then (0, below)
      else
        let (count, below) := reduce base fuel above (below * base)
        (count + 1, below)

/-- A value rounded with so many digits behind the point. -/
def roundAt (rounding : Rounding) (places : Nat) (value : Value) : Value :=
  let power := Nat.pow 10 places
  { value with
    above := rounding.round value.isNegative (value.above * power) value.below
    below := power }

/-- A value as it is written in a scale. -/
def write (scale : Scale) (rounding : Rounding) (places? : Option Nat) (places : Nat)
    (value : Value) : String :=
  if scale = .none then
    let places := places?.getD places
    fixed (roundAt rounding places value) places
  else
    let base := scale.base
    let (power, below) := reduce base (value.above.log2 + 1) value.above value.below
    let reduced := { value with below }
    let isSmall (value : Value) : Bool := value.above < 10 * value.below
    let kept :=
      match places? with
      | some places => min (3 * power) places
      | none => if isSmall reduced then 1 else 0
    let rounded := roundAt rounding kept reduced
    let isFull : Bool := base * rounded.below ≤ rounded.above
    let power := if isFull then power + 1 else power
    let rounded := if isFull then { rounded with below := rounded.below * base } else rounded
    let hasPoint : Bool := rounded.above ≠ 0 && isSmall rounded && 0 < power
    let places := places?.getD (if hasPoint then 1 else 0)
    let letter := if power = 0 then "" else String.singleton (scaleLetters.getD (power - 1) '?')
    let mark := if scale = .binaryMarked ∧ 0 < power then "i" else ""
    fixed rounded places ++ letter ++ mark

/-- Reads a number in a scale, with the digits that it has behind the point. -/
def read? (scale : Scale) (text : String) : Except String (Value × Nat) :=
  let shown := marked text
  let cs := text.toList
  let isNegative : Bool := cs.head? = some '-'
  let cs := if isNegative then cs.tail else cs
  let whole := cs.takeWhile Char.isDigit
  let rest := cs.drop whole.length
  let hasPoint : Bool := rest.head? = some '.'
  let fraction := if hasPoint then rest.tail.takeWhile Char.isDigit else []
  let rest := if hasPoint then rest.drop (fraction.length + 1) else rest
  if (whole = [] ∧ !hasPoint) ∨ (hasPoint ∧ fraction = []) then
    .error s!"invalid number: {shown}"
  else
    let number (digits : List Char) : Nat :=
      digits.foldl (fun value c => value * 10 + (c.toNat - '0'.toNat)) 0
    let value : Value :=
      { isNegative, above := number (whole ++ fraction), below := Nat.pow 10 fraction.length }
    if 33 < (whole.dropWhile (· = '0')).length then
      .error s!"value too large to be converted: {shown}"
    else
      match rest.dropWhile isBlankChar with
      | [] =>
          if rest = [] then .ok (value, fraction.length)
          else .error s!"invalid suffix in input: {shown}"
      | letter :: behind =>
          match scaleLetters.idxOf? letter with
          | none => .error s!"invalid suffix in input: {shown}"
          | some i =>
              let isMarked : Bool := behind.head? = some 'i'
              let raise (base : Nat) (behind : List Char) : Except String (Value × Nat) :=
                if behind = [] then .ok ({ value with above := value.above * Nat.pow base (i + 1) }, 0)
                else
                  let extra := marked (String.ofList behind)
                  .error s!"invalid suffix in input {shown}: {extra}"
              match scale with
              | .none =>
                  .error s!"rejecting suffix in input: {shown} (consider using --from)"
              | .auto => if isMarked then raise 1024 behind.tail else raise 1000 behind
              | .binaryMarked =>
                  if isMarked then raise 1024 behind.tail
                  else .error s!"missing 'i' suffix in input: {shown} (e.g Ki/Mi/Gi)"
              | _ => raise scale.base behind

/-- How numbers are laid out. -/
structure Layout where
  before : String
  behind : String
  /-- The least width, and whether the blanks go behind. -/
  width : Nat
  isLeft : Bool
  isZeroPadded : Bool
  places : Option Nat

def plainLayout : Layout where
  before := ""
  behind := ""
  width := 0
  isLeft := false
  isZeroPadded := false
  places := none

/-- Splits a format before its first directive. -/
def cutDirective : List Char → List Char × List Char
  | '%' :: '%' :: rest =>
      let (before, rest) := cutDirective rest
      ('%' :: '%' :: before, rest)
  | '%' :: rest => ([], '%' :: rest)
  | c :: rest =>
      let (before, rest) := cutDirective rest
      (c :: before, rest)
  | [] => ([], [])

def readLayout (format : String) : Except String Layout := do
  let shown := marked format
  let (before, rest) := cutDirective format.toList
  if rest = [] then throw s!"format {shown} has no % directive"
  let rest := rest.tail
  let flags := rest.takeWhile fun c => c = ' ' || c = '\x27' || c = '0'
  let rest := rest.drop flags.length
  let isLeft : Bool := rest.head? = some '-'
  let rest := if isLeft then rest.tail else rest
  let digits := rest.takeWhile Char.isDigit
  let rest := rest.drop digits.length
  let hasPlaces : Bool := rest.head? = some '.'
  let rest := if hasPlaces then rest.tail else rest
  if hasPlaces ∧ (rest.head? = some '-' ∨ rest.head? = some '+' ∨ rest.head? = some ' ') then
    throw s!"invalid precision in format {shown}"
  let places := if hasPlaces then rest.takeWhile Char.isDigit else []
  let rest := rest.drop places.length
  match rest with
  | [] => throw s!"format {shown} ends in %"
  | 'f' :: behind => do
      let (_, more) := cutDirective behind
      if more ≠ [] then throw s!"format {shown} has too many % directives"
      let number (digits : List Char) : Nat := (natOf? (String.ofList digits)).getD 0
      return {
        before := String.ofList before
        behind := String.ofList behind
        width := number digits
        isLeft
        isZeroPadded := flags.contains '0' && !isLeft
        places := if hasPlaces then some (number places) else none
      }
  | _ =>
      throw s!"invalid format {shown}, directive must be %[0]['][-][N][.][N]f"

/-- How the numbers of a text are to be turned. -/
structure Turning where
  source : Scale
  target : Scale
  fromUnit : Nat
  toUnit : Nat
  rounding : Rounding
  suffix : String
  layout : Layout
  /-- Whether a number keeps the width that its field has. -/
  keepsWidth : Bool

/-- Turns one field of a line, or says what is wrong with it. -/
def Turning.turn (turning : Turning) (isFirst : Bool) (field : List Char)
    : Except String (List Char) := do
  let suffix := turning.suffix.toList
  let field :=
    if suffix ≠ [] ∧ suffix.length < field.length ∧ suffix.isSuffixOf field = true then
      field.take (field.length - suffix.length)
    else field
  let text := field.dropWhile isBlankChar
  let (value, places) ← read? turning.source (String.ofList text)
  let value : Value :=
    { value with
      above := value.above * turning.fromUnit, below := value.below * turning.toUnit }
  let layout := turning.layout
  let places := layout.places.getD places
  let limit := 18
  let size := (toString (value.above / value.below)).length - 1
  if turning.target = .none ∧ limit < size + places then
    let quotient : Decimal.Quotient := { num := value.above, den := value.below }
    let digits := quotient.general 'e' 6 false
    let shown := String.ofList (if value.isNegative then '-' :: digits else digits)
    if places = 0 then
      throw s!"value too large to be printed: '{shown}' (consider using --to)"
    else
      throw
        s!"value/precision too large to be printed: '{shown}/{places}' (consider using --to)"
  let number :=
    (write turning.target turning.rounding layout.places places value).toList
  let number :=
    if layout.isZeroPadded then
      let sign := number.takeWhile (· = '-')
      sign ++ List.replicate (layout.width - number.length) '0' ++ number.drop sign.length
    else number
  let number := number ++ suffix
  let isWide := turning.keepsWidth && (!isFirst || text.length < field.length)
  let width := if isWide then field.length else layout.width
  let padded :=
    if layout.isLeft then padRight width number else padLeft width number
  return layout.before.toList ++ padded ++ layout.behind.toList

/-- What is done about a number that cannot be read. -/
inductive Lenience where
  | abort
  | fail
  | warn
  | ignore
  deriving DecidableEq, Repr

def lenienceNames : List (String × Lenience) :=
  [("abort", .abort), ("fail", .fail), ("warn", .warn), ("ignore", .ignore)]

/-- Cuts a line behind its first field. -/
def cutField (separator : Option Char) (line : List Char) : List Char × List Char :=
  match separator with
  | some mark => line.span (· ≠ mark)
  | none =>
      let blanks := line.takeWhile isBlankChar
      let field := (line.drop blanks.length).takeWhile (!isBlankChar ·)
      (blanks ++ field, line.drop (blanks.length + field.length))

/-- Turns the fields of a line that are meant, and tells whether all could be. -/
def turnLine (turning : Turning) (spans : List Span) (lenience : Lenience)
    (separator : Option Char) : Nat → Nat → List Char → Work Bool
  | 0, _, _ => return true
  | fuel + 1, number, line => do
      let (field, rest) := cutField separator line
      let mut isFine := true
      if spans.any (·.holds number) then
        match turning.turn (number = 1) field with
        | .ok shown => say shown
        | .error problem => do
            if lenience ≠ .ignore then warn "numfmt" problem
            if lenience = .abort then quit 2
            if lenience = .fail then isFine := false
            say field
      else say field
      match rest with
      | [] => return isFine
      | _ :: rest => do
          say [separator.getD ' ']
          return (← turnLine turning spans lenience separator fuel (number + 1) rest) && isFine

/-- The number of things that a unit stands for. -/
def unitOf (text : String) : Work Nat := do
  let digits := text.toList.takeWhile Char.isDigit
  let rest := text.toList.drop digits.length
  let count := if digits = [] then some 1 else natOf? (String.ofList digits)
  let scale :=
    match rest with
    | [] => if digits = [] then none else some 1
    | letter :: rest =>
        (scaleLetters.idxOf? letter).bind fun i =>
          if rest = [] then some (Nat.pow 1000 (i + 1))
          else if rest = ['i'] then some (Nat.pow 1024 (i + 1))
          else none
  match count, scale with
  | some count, some scale =>
      if count = 0 then fail 1 "numfmt" s!"invalid unit size: {marked text}"
      return count * scale
  | _, _ => fail 1 "numfmt" s!"invalid unit size: {marked text}"

def switches : Switches :=
  let switches :=
    Switches.of "z\x01\x02" "d\x03\x04\x05\x06\x07\x08\x0b\x0c\x0e\x0f"
      [
        ("zero-terminated", 'z'), ("debug", '\x01'), ("grouping", '\x02'), ("delimiter", 'd'),
        ("from", '\x03'), ("to", '\x04'), ("from-unit", '\x05'), ("to-unit", '\x06'),
        ("round", '\x07'), ("padding", '\x08'), ("suffix", '\x0b'), ("format", '\x0c'),
        ("field", '\x0e'), ("invalid", '\x0f'), ("header", '\x10')
      ]
  { switches with letters := ('\x10', .optional) :: switches.letters }

/-- How numbers are to be turned, by the switches. -/
def readTurning (arguments : Arguments) : Work Turning := do
  let name := "numfmt"
  let value (letter : Char) (usual : String) : String := (arguments.value? letter).getD usual
  let source ← choose 1 name "--from" scaleNames (value '\x03' "none")
  let target ←
    choose 1 name "--to" (scaleNames.filter (·.1 ≠ "auto")) (value '\x04' "none")
  let fromUnit ← unitOf (value '\x05' "1")
  let toUnit ← unitOf (value '\x06' "1")
  let rounding ← choose 1 name "--round" roundingNames (value '\x07' "from-zero")
  let layout ←
    match arguments.value? '\x0c' with
    | none => pure plainLayout
    | some format =>
        match readLayout format with
        | .ok layout => pure layout
        | .error problem => fail 1 name problem
  let layout ←
    match arguments.value? '\x08' with
    | none => pure layout
    | some text => do
        let isLeft := text.startsWith "-"
        match natOf? (if isLeft then (text.drop 1).toString else text) with
        | some (width + 1) =>
            pure (if layout.width = 0 then { layout with width := width + 1, isLeft } else layout)
        | _ => fail 1 name s!"invalid padding value {marked text}"
  if arguments.has '\x02' then
    if arguments.has '\x0c' then fail 1 name "--grouping cannot be combined with --format"
    if target ≠ .none then fail 1 name "grouping cannot be combined with --to"
  return {
    source, target, fromUnit, toUnit, rounding
    suffix := value '\x0b' ""
    layout
    keepsWidth := layout.width = 0 && !arguments.has 'd'
  }

end Quantity

open Quantity in
/-- Turns numbers of its operands or of the input. -/
def showQuantities (words : List String) : Work Nat := do
  let name := "numfmt"
  let arguments ← arguments Quantity.switches 1 name words
  let turning ← readTurning arguments
  let lenience ←
    choose 1 name "--invalid" lenienceNames ((arguments.value? '\x0f').getD "abort")
  let separator ←
    match (arguments.value? 'd').map String.toList with
    | none => pure none
    | some [] => pure (some '\x00')
    | some [c] => pure (some c)
    | some _ => fail 1 name "the delimiter must be a single character"
  let spans ←
    match arguments.value? '\x0e' with
    | none => pure [{ first := 1, last := some 1 : Span }]
    | some "-" => pure [{ first := 1, last := none : Span }]
    | some list =>
        match readSpans .fields list with
        | .ok spans => pure spans
        | .error problem => misuse 1 name problem
  let headers ←
    match arguments.value? '\x10' with
    | none => pure 0
    | some "" => pure 1
    | some text =>
        match natOf? text with
        | some (count + 1) => pure (count + 1)
        | _ => fail 1 name s!"invalid header value {marked text}"
  let isBare : Bool := turning.source = .none && turning.target = .none && !arguments.has '\x02'
  if arguments.has '\x01' ∧ isBare ∧ !arguments.has '\x08' ∧ !arguments.has '\x0c' then
    warn name "no conversion option specified"
  let mark := lineMark arguments
  let turn (line : List Char) : Work Bool :=
    turnLine turning spans lenience separator (line.length + 2) 1 line
  let mut isFine := true
  if arguments.operands.isEmpty then
    for (line, i) in (fullPieces mark (← takeInput)).zipIdx do
      if i < headers then say line
      else
        let isEnded : Bool := line.getLast? = some mark
        isFine := (← turn (if isEnded then line.dropLast else line)) && isFine
        if isEnded then say [mark]
  else
    for operand in arguments.operands do
      isFine := (← turn operand.toList) && isFine
      say [mark]
  return if isFine then 0 else 2

end MailMerge.Shell.Utility
