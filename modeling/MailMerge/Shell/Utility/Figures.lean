import MailMerge.Shell.Expression
import MailMerge.Decimal.Reading
import MailMerge.Shell.Utility.Lines

/-! Utilities for numbers: counting, series, and the values of expressions. -/

namespace MailMerge.Shell.Utility

open Work

/-! ### Counting -/

/-- The number of runs of bytes that are not blank. -/
def wordCount (text : List Char) : Nat :=
  (text.foldl
    (fun (count, isInside) c =>
      if isSpace c then (count, false) else (if isInside then count else count + 1, true))
    (0, false)).1

/-- The width of the widest line, with tabs up to the next multiple of eight. -/
def widest (text : List Char) : Nat :=
  let (best, last) := text.foldl
    (fun (best, here) c =>
      if c = newline ∨ c = '\r' ∨ c = '\x0c' then (max best here, 0)
      else if c = '\t' then (best, here / 8 * 8 + 8)
      else if c < ' ' ∨ '~' < c then (best, here)
      else (best, here + 1))
    (0, 0)
  max best last

/-- The counts that the switches ask for, in the order in which they are shown. -/
def countsOf (letters : List Char) (text : List Char) : List Nat :=
  letters.map fun letter =>
    match letter with
    | 'l' => text.count newline
    | 'w' => wordCount text
    | 'm' => text.length
    | 'c' => text.length
    | _ => widest text

def countContent (words : List String) : Work Nat := do
  let name := "wc"
  let switches :=
    Switches.of "lwmcL" "\x01"
      [
        ("lines", 'l'), ("words", 'w'), ("chars", 'm'), ("bytes", 'c'), ("max-line-length", 'L'),
        ("total", '\x01')
      ]
  let arguments ← arguments switches 1 name words
  let asked := "lwmcL".toList.filter arguments.has
  let letters := if asked.isEmpty then ['l', 'w', 'c'] else asked
  let isSeekable := (← get).isSeekable
  let operands := orInput arguments.operands
  let mut isFine := true
  let mut rows : List (List Nat × String) := []
  let mut sizes := 0
  let mut leastWidth := 1
  for path in operands do
    let isInput := path = "-" || path = "/dev/stdin"
    match ← content path with
    | .ok text => do
        if (isInput && !isSeekable) || path = "/dev/null" then leastWidth := 7
        else sizes := sizes + text.length
        rows := rows ++ [(countsOf letters text, path)]
    | .error e => do
        warn name (plainProblem path e)
        isFine := false
        if e = .isDirectory then
          leastWidth := 7
          rows := rows ++ [(letters.map fun _ => 0, path)]
  let width :=
    if operands.length = 1 ∧ letters.length = 1 then 1
    else max leastWidth (toString sizes).length
  let show1 (counts : List Nat) (label : String) : List Char :=
    [' '].intercalate (counts.map (numbered width))
      ++ (if label = "" then [] else ' ' :: label.toList) ++ [newline]
  for (counts, path) in rows do
    say (show1 counts (if arguments.operands.isEmpty then "" else path))
  if operands.length > 1 then
    let totals := (List.range letters.length).map fun i =>
      let column := rows.map fun row => row.1.getD i 0
      if letters.getD i 'l' = 'L' then column.foldl max 0 else column.foldl (· + ·) 0
    say (show1 totals "total")
  return statusOf isFine

/-! ### Series -/

/-- A decimal number by its value in units of a power of ten. -/
structure Fixed where
  units : Int
  places : Nat

def Fixed.read? (text : String) : Option Fixed :=
  (Decimal.Literal.read? (text.toList.dropWhile isSpace)).map fun literal =>
    let sign : Int := if literal.negative then -1 else 1
    {
      units := sign * (literal.digits * Nat.pow 10 literal.exponent.toNat)
      places := (-literal.exponent).toNat
    }

/-- The value in units of a smaller power of ten. -/
def Fixed.at (number : Fixed) (places : Nat) : Int :=
  number.units * Nat.pow 10 (places - number.places)

/-- A number of units as a decimal number with so many places. -/
def fixedText (units : Int) (places : Nat) : List Char :=
  let digits := (toString units.natAbs).toList
  let digits := List.replicate (places + 1 - digits.length) '0' ++ digits
  let whole := digits.take (digits.length - places)
  (if units < 0 then ['-'] else []) ++ whole
    ++ (if places = 0 then [] else '.' :: digits.drop (digits.length - places))

/-- Zeros behind the sign of a number, to have a width. -/
def padZeros (width : Nat) (text : List Char) : List Char :=
  let (sign, digits) :=
    match text with
    | '-' :: digits => (['-'], digits)
    | digits => ([], digits)
  sign ++ List.replicate (width - text.length) '0' ++ digits

/-- A number rounded to so many places, a half away from zero. -/
def roundTo (places : Nat) (units : Int) (given : Nat) : Int :=
  if given ≤ places then units * Nat.pow 10 (places - given)
  else
    let size : Int := Nat.pow 10 (given - places)
    if units < 0 then -((-units * 2 + size) / (2 * size)) else (units * 2 + size) / (2 * size)

/-- A format of series: the text around the number, and how the number is shown. -/
structure SeriesFormat where
  before : List Char
  after : List Char
  flags : List Char
  width : Nat
  places : Option Nat
  kind : Char

/-- Reads a format with one directive. -/
def SeriesFormat.read? (text : String) : Except String SeriesFormat := do
  let cs := text.toList
  let before := cs.takeWhile (· ≠ '%')
  let rest := cs.drop before.length
  match rest with
  | [] => throw s!"format {marked text} has no % directive"
  | _ :: rest =>
      let flags := rest.takeWhile "-+#0 \x27".toList.contains
      let rest := rest.drop flags.length
      let width := rest.takeWhile Char.isDigit
      let rest := rest.drop width.length
      let (places, rest) :=
        match rest with
        | '.' :: rest =>
            let digits := rest.takeWhile Char.isDigit
            (some (Decimal.ofDigits digits), rest.drop digits.length)
        | rest => (none, rest)
      match rest with
      | [] => throw s!"format {marked text} ends in %"
      | kind :: after =>
          if !"efgaEFGA".toList.contains kind then
            throw s!"format {marked text} has unknown %{kind} directive"
          if after.contains '%' then
            throw s!"format {marked text} has too many % directives"
          return { before, after, flags, width := Decimal.ofDigits width, places, kind }

def SeriesFormat.apply (format : SeriesFormat) (units : Int) (places : Nat) : List Char :=
  let text :=
    if format.kind = 'f' then
      let wanted := format.places.getD 6
      fixedText (roundTo wanted units places) wanted
    else
      let text := fixedText units places
      if places = 0 then text
      else
        let short := (text.reverse.dropWhile (· = '0')).reverse
        if short.getLast? = some '.' then short.dropLast else short
  let text := if format.flags.contains '+' ∧ 0 ≤ units then '+' :: text else text
  let text :=
    if format.flags.contains '-' then padRight format.width text
    else if format.flags.contains '0' then padZeros format.width text
    else padLeft format.width text
  format.before ++ text ++ format.after

/-- The bytes of a series that is too long to be shown whole. -/
def maxSeries : Nat := 2000000

def showSeries (words : List String) : Work Nat := do
  let name := "seq"
  let switches :=
    Switches.of "w" "fs" [("equal-width", 'w'), ("format", 'f'), ("separator", 's')]
  let isNumber (word : String) : Bool :=
    match word.toList with
    | '-' :: c :: _ => c.isDigit || c = '.'
    | _ => false
  let (leading, rest) := words.span fun word => !isNumber word
  let (leading, rest) := if leading.getLast? = some "-s" ∨ leading.getLast? = some "-f" then
    (leading ++ rest.take 1, rest.drop 1) else (leading, rest)
  let arguments ← arguments switches 1 name (leading ++ (if rest.isEmpty then [] else "--" :: rest))
  let operands := arguments.operands
  match operands with
  | [] => misuse 1 name "missing operand"
  | _ :: _ :: _ :: extra :: _ => misuse 1 name s!"extra operand {marked extra}"
  | _ => pure ()
  let numbers ← operands.mapM fun text =>
    match Fixed.read? text with
    | some number => return number
    | none => misuse 1 name s!"invalid floating point argument: {marked text}"
  let one : Fixed := { units := 1, places := 0 }
  let (first, step, last) :=
    match numbers with
    | [first, step, last] => (first, step, last)
    | [first, last] => (first, one, last)
    | numbers => (one, one, numbers.headD one)
  if step.units = 0 then
    misuse 1 name ("invalid Zero increment value: " ++ marked (operands.getD 1 "0"))
  let format ←
    match arguments.value? 'f' with
    | none => pure none
    | some text =>
        match SeriesFormat.read? text with
        | .ok format => pure (some format)
        | .error problem => fail 1 name problem
  let places := max first.places step.places
  let fine := max places last.places
  let start := first.at fine
  let increment := step.at fine
  let finish := last.at fine
  let count := if (finish - start) * increment.sign < 0 then 0
    else (Int.tdiv (finish - start) increment).toNat + 1
  let show1 (units : Int) : List Char :=
    match format with
    | some format => format.apply units fine
    | none => fixedText (Int.tdiv units (Nat.pow 10 (fine - places))) places
  let values := (List.range (min count maxSeries)).map fun (i : Nat) => start + increment * (i : Int)
  let width :=
    if arguments.has 'w' then
      max (show1 start).length ((values.getLast?.map fun value => (show1 value).length).getD 0)
    else 0
  let texts := values.map fun value => padZeros width (show1 value)
  if !texts.isEmpty then
    say (((arguments.value? 's').getD "\n").toList.intercalate texts ++ [newline])
  return 0

/-! ### Expressions -/

/-- Why an expression has no value: the exit status and the message. -/
abbrev Evaluate := StateT (List String) (Except (Nat × String))

def evaluateFail {α : Type} (status : Nat) (problem : String) : Evaluate α :=
  throw (status, problem)

/-- The number that a text is, if it is one. -/
def wholeNumber? (text : String) : Option Int :=
  match text.toList with
  | '-' :: cs => (natOf? (String.ofList cs)).map fun n => -(Int.ofNat n)
  | _ => (natOf? text).map Int.ofNat

/-- Whether a value counts as none. -/
def isNull (value : String) : Bool :=
  value = "" || wholeNumber? value = some 0

def toNumber (value : String) : Evaluate Int :=
  match wholeNumber? value with
  | some number => return number
  | none => evaluateFail 2 "non-integer argument"

/-- The value of a pattern matched from the start of a text. -/
def matchValue (text pattern : String) : Evaluate String := do
  let dialect : Expression.Dialect :=
    { isExtended := false, ignoresCase := false, isLenient := true, isMultiline := false }
  match Expression.read? dialect pattern.toList with
  | .error problem => evaluateFail 2 problem
  | .ok expression =>
      let anchored := { expression with node := .both (.edge .start) expression.node }
      match anchored.find? none text.toList with
      | none => return if expression.groups > 0 then "" else "0"
      | some found =>
          if expression.groups > 0 then
            return String.ofList (((found.groups.lookup 1).getD []))
          else return toString found.text.length

/-- Takes one of some signs, if it stands ahead. -/
def takeOne (signs : List String) : Evaluate (Option String) := do
  match ← get with
  | word :: rest =>
      if signs.contains word then
        set rest
        return some word
      else return none
  | [] => return none

def compareValues (sign left right : String) : Bool :=
  let order :=
    match wholeNumber? left, wholeNumber? right with
    | some x, some y => compare x y
    | _, _ => compare left right
  match sign with
  | "<" => order == .lt
  | "<=" => order != .gt
  | "=" | "==" => order == .eq
  | "!=" => order != .eq
  | ">=" => order != .lt
  | _ => order == .gt

/-- The signs of operators, by how closely they bind; the last ones are the closest. -/
def evaluateSigns : List (List String) :=
  [
    ["|"], ["&"], ["<", "<=", "=", "==", "!=", ">=", ">"], ["+", "-"], ["*", "/", "%"], [":"]
  ]

def applySign (isWanted : Bool) (sign left right : String) : Evaluate String := do
  if !isWanted then return left
  match sign with
  | "|" => return if isNull left then (if isNull right then "0" else right) else left
  | "&" => return if isNull left || isNull right then "0" else left
  | ":" => matchValue left right
  | "+" => return toString ((← toNumber left) + (← toNumber right))
  | "-" => return toString ((← toNumber left) - (← toNumber right))
  | "*" => return toString ((← toNumber left) * (← toNumber right))
  | "/" | "%" => do
      let x ← toNumber left
      let y ← toNumber right
      if y = 0 then evaluateFail 2 "division by zero"
      return toString (if sign = "/" then Int.tdiv x y else Int.tmod x y)
  | _ => return if compareValues sign left right then "1" else "0"

/-- Takes the word ahead, which has to be there. -/
def evaluateWord (last : String) : Evaluate String := do
  match ← get with
  | word :: rest => do
      set rest
      return word
  | [] => evaluateFail 2 s!"syntax error: missing argument after {marked last}"

mutual
/-- Operands joined by the operators of a level, and of those that bind closer. -/
def evaluateLevel (last : String) (isWanted : Bool) (levels : List (List String))
    : Nat → Evaluate String
  | 0 => evaluateFail 2 "syntax error"
  | fuel + 1 => do
      match levels with
      | [] => evaluatePrimary last isWanted fuel
      | signs :: closer => do
          let left ← evaluateLevel last isWanted closer fuel
          evaluateMore left isWanted signs closer fuel
termination_by structural fuel => fuel

def evaluateMore (left : String) (isWanted : Bool) (signs : List String)
    (closer : List (List String)) : Nat → Evaluate String
  | 0 => evaluateFail 2 "syntax error"
  | fuel + 1 => do
      match ← takeOne signs with
      | none => return left
      | some sign => do
          let wantsRight :=
            isWanted && !(sign = "|" && !isNull left) && !(sign = "&" && isNull left)
          let right ← evaluateLevel sign wantsRight closer fuel
          let value ← applySign isWanted sign left right
          evaluateMore value isWanted signs closer fuel
termination_by structural fuel => fuel

def evaluatePrimary (last : String) (isWanted : Bool) : Nat → Evaluate String
  | 0 => evaluateFail 2 "syntax error"
  | fuel + 1 => do
      let word ← evaluateWord last
      let operand (last : String) : Evaluate String :=
        evaluatePrimary last isWanted fuel
      match word with
      | "(" => do
          let value ← evaluateLevel word isWanted evaluateSigns fuel
          match ← takeOne [")"] with
          | some _ => return value
          | none =>
              match (← get).head? with
              | none => evaluateFail 2 s!"syntax error: expecting ')' after {marked value}"
              | some found =>
                  evaluateFail 2 s!"syntax error: expecting ')' instead of {marked found}"
      | ")" => evaluateFail 2 "syntax error: unexpected ')'"
      | "+" => evaluateWord word
      | "length" => do
          let value ← operand word
          return toString value.toList.length
      | "match" => do
          let text ← operand word
          let pattern ← operand text
          if isWanted then matchValue text pattern else return text
      | "index" => do
          let text ← operand word
          let set ← operand text
          let chars := set.toList
          let place := text.toList.findIdx? chars.contains
          return toString (place.elim 0 (· + 1))
      | "substr" => do
          let text ← operand word
          let start ← operand text
          let size ← operand start
          match wholeNumber? start, wholeNumber? size with
          | some start, some size =>
              if start ≤ 0 ∨ size ≤ 0 then return ""
              let chars := text.toList.drop (start.toNat - 1)
              return String.ofList ((chars.take size.toNat))
          | _, _ => return ""
      | word => return word
termination_by structural fuel => fuel
end

/-- The value of an expression that is given word by word. -/
def evaluate (words : List String) : Except (Nat × String) String := do
  let (value, rest) ← (evaluateLevel "expr" true evaluateSigns (16 * words.length + 32)).run words
  match rest with
  | [] => return value
  | word :: _ => throw (2, s!"syntax error: unexpected argument {marked word}")

def showValue (words : List String) : Work Nat := do
  let name := "expr"
  let words := if words.head? = some "--" then words.tail else words
  if words.isEmpty then misuse 2 name "missing operand"
  match evaluate words with
  | .ok value => do
      sayLine value
      return if isNull value then 1 else 0
  | .error (status, problem) => fail status name problem

end MailMerge.Shell.Utility
