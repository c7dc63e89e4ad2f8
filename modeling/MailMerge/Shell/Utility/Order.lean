import MailMerge.Decimal.Reading
import MailMerge.Shell.Utility.Lines
import MailMerge.Shell.Utility.Version

/-! Utilities that order lines or look at their order: sorting by keys, lines that follow
themselves, and lines that two files share.
-/

namespace MailMerge.Shell.Utility

open Work

/-- The order of texts by their bytes. -/
def compareTexts : List Char → List Char → Ordering
  | [], [] => .eq
  | [], _ :: _ => .lt
  | _ :: _, [] => .gt
  | x :: xs, y :: ys => if x = y then compareTexts xs ys else compare x.toNat y.toNat

def isBlankChar (c : Char) : Bool :=
  c = ' ' || c = '\t'

def upperCase (text : List Char) : List Char :=
  text.map Char.toUpper

/-! ### Numbers in texts -/

/-- A decimal number at the head of a text, and what stands behind it. -/
structure Figure where
  isNegative : Bool
  whole : Nat
  /-- The digits behind the point, without zeros at the end. -/
  fraction : List Char
  behind : List Char

def figureOf (text : List Char) : Figure :=
  let cs := text.dropWhile isBlankChar
  let isNegative : Bool := cs.head? = some '-'
  let cs := if isNegative then cs.tail else cs
  let digits := cs.takeWhile Char.isDigit
  let cs := cs.drop digits.length
  let fraction := if cs.head? = some '.' then cs.tail.takeWhile Char.isDigit else []
  let behind := if cs.head? = some '.' then cs.drop (fraction.length + 1) else cs
  {
    isNegative
    whole := Decimal.ofDigits digits
    fraction := (fraction.reverse.dropWhile (· = '0')).reverse
    behind
  }

def Figure.isZero (figure : Figure) : Bool :=
  figure.whole = 0 && figure.fraction.isEmpty

/-- The order of two numbers by their distances from zero, turned where they are negative. -/
def compareSigned (left right : Figure) (distance : Ordering) : Ordering :=
  match left.isNegative && !left.isZero, right.isNegative && !right.isZero with
  | false, false => distance
  | true, true => distance.swap
  | true, false => .lt
  | false, true => .gt

def compareFigures (left right : Figure) : Ordering :=
  compareSigned left right
    ((compare left.whole right.whole).then (compareTexts left.fraction right.fraction))

/-- The rank of the unit behind a number. -/
def unitRank (behind : List Char) : Nat :=
  match behind.head? with
  | some 'k' => 1
  | some c => (" KMGTPEZY".toList.idxOf? c).getD 0
  | none => 0

def compareScaled (left right : Figure) : Ordering :=
  let distance :=
    (compare (unitRank left.behind) (unitRank right.behind)).then
      ((compare left.whole right.whole).then (compareTexts left.fraction right.fraction))
  compareSigned left right distance

/-- The rank of a text by a decimal literal at its head; texts without one come first. -/
def literalOf (text : List Char) : Option Decimal.Literal :=
  let cs := text.dropWhile isSpace
  ((List.range (cs.length + 1)).reverse.findSome? fun size =>
    Decimal.Literal.read? (cs.take size))

/-- A literal as a whole number of the units of another power of ten. -/
def scaled (lowest : Int) (literal : Decimal.Literal) : Int :=
  let size : Int := literal.digits * Nat.pow 10 (literal.exponent - lowest).toNat
  if literal.negative then -size else size

def compareLiterals (left right : List Char) : Ordering :=
  match literalOf left, literalOf right with
  | none, none => .eq
  | none, some _ => .lt
  | some _, none => .gt
  | some x, some y =>
      let lowest := min x.exponent y.exponent
      compare (scaled lowest x) (scaled lowest y)

def monthRank (text : List Char) : Nat :=
  let head := String.ofList (upperCase ((text.dropWhile isBlankChar).take 3))
  let months :=
    [
      "JAN", "FEB", "MAR", "APR", "MAY", "JUN", "JUL", "AUG", "SEP", "OCT", "NOV", "DEC"
    ]
  (months.idxOf? head).elim 0 (· + 1)

/-! ### Keys -/

/-- How two texts are compared. -/
structure Manner where
  letters : List Char
  deriving DecidableEq

def Manner.has (manner : Manner) (letter : Char) : Bool :=
  manner.letters.contains letter

/-- The characters of a text that count. -/
def Manner.prepare (manner : Manner) (text : List Char) : List Char :=
  let text :=
    if manner.has 'd' then text.filter fun c => c.isAlphanum || isBlankChar c else text
  let text := if manner.has 'i' then text.filter fun c => ' ' ≤ c && c ≤ '~' else text
  if manner.has 'f' then upperCase text else text

def Manner.compare (manner : Manner) (left right : List Char) : Ordering :=
  if manner.has 'n' then compareFigures (figureOf left) (figureOf right)
  else if manner.has 'h' then compareScaled (figureOf left) (figureOf right)
  else if manner.has 'g' then compareLiterals left right
  else if manner.has 'M' then Ord.compare (monthRank left) (monthRank right)
  else if manner.has 'V' then Version.compareNames left right
  else compareTexts (manner.prepare left) (manner.prepare right)

/-- A place in a line: a field and a character in it, both counted from zero. -/
structure Place where
  field : Nat
  char : Nat

structure Key where
  start : Place
  /-- The last field, and the number of its characters if not all of them. -/
  finish : Option (Nat × Option Nat)
  manner : Manner
  skipsAtFinish : Bool

/-- Drops fields from the head of a line. -/
def dropFields (separator : Option Char) (count : Nat) (line : List Char) : List Char :=
  match count with
  | 0 => line
  | count + 1 =>
      match separator with
      | none => dropFields separator count ((line.dropWhile isBlankChar).dropWhile (!isBlankChar ·))
      | some mark => dropFields separator count (line.dropWhile (· ≠ mark)).tail

/-- The size of what stands in front of the end of a field. -/
def fieldEnd (separator : Option Char) (field : Nat) (line : List Char) : Nat :=
  let rest := dropFields separator field line
  let own :=
    match separator with
    | none =>
        let blanks := rest.takeWhile isBlankChar
        blanks.length + ((rest.drop blanks.length).takeWhile (!isBlankChar ·)).length
    | some mark => (rest.takeWhile (· ≠ mark)).length
  line.length - rest.length + own

/-- The part of a line that a key looks at. -/
def Key.part (key : Key) (separator : Option Char) (line : List Char) : List Char :=
  let rest := dropFields separator key.start.field line
  let rest := if key.manner.has 'b' then rest.dropWhile isBlankChar else rest
  let start := line.length - rest.length + min key.start.char rest.length
  let finish :=
    match key.finish with
    | none => line.length
    | some (field, none) => fieldEnd separator field line
    | some (field, some count) =>
        let rest := dropFields separator field line
        let rest := if key.skipsAtFinish then rest.dropWhile isBlankChar else rest
        line.length - rest.length + min count rest.length
  (line.take finish).drop start

def Key.compare (key : Key) (separator : Option Char) (left right : List Char) : Ordering :=
  let order := key.manner.compare (key.part separator left) (key.part separator right)
  if key.manner.has 'r' then order.swap else order

def keyFault {α : Type} (problem text : String) : Work α :=
  fail 2 "sort" s!"{problem}: invalid field specification {marked text}"

/-- Reads a position of a key: a field, a character if one is given, and letters. -/
def readPlace (text : String) (cs : List Char) (isStart : Bool)
    : Work (Nat × Option Nat × List Char × List Char) := do
  let number (problem : String) (cs : List Char) : Work (Nat × List Char) := do
    let digits := cs.takeWhile Char.isDigit
    if digits.isEmpty then
      fail 2 "sort" s!"invalid number {problem}: invalid count at start of {marked (String.ofList cs)}"
    return (Decimal.ofDigits digits, cs.drop digits.length)
  let (field, cs) ← number (if isStart then "at field start" else "after ','") cs
  if field = 0 then keyFault "field number is zero" text
  let (char, cs) ←
    match cs with
    | '.' :: cs => do
        let (char, cs) ← number "after '.'" cs
        if char = 0 ∧ isStart then keyFault "character offset is zero" text
        pure (some char, cs)
    | cs => pure (none, cs)
  let letters := cs.takeWhile "bdfgiMnhrRV".toList.contains
  return (field - 1, char, letters, cs.drop letters.length)

def readKey (text : String) : Work Key := do
  let (field, char, letters, rest) ← readPlace text text.toList true
  let start : Place := { field, char := char.getD 1 - 1 }
  match rest with
  | [] =>
      return { start, finish := none, manner := { letters }, skipsAtFinish := false }
  | ',' :: rest => do
      let (field, char, more, rest) ← readPlace text rest false
      if !rest.isEmpty then keyFault "stray character in field spec" text
      return {
        start
        finish := some (field, char.filter (· ≠ 0))
        manner := { letters := letters ++ more.filter (· ≠ 'b') }
        skipsAtFinish := more.contains 'b'
      }
  | _ => keyFault "stray character in field spec" text

/-! ### Sorting -/

structure Sorting where
  keys : List Key
  separator : Option Char
  manner : Manner
  isStable : Bool
  isUnique : Bool

/-- The order of lines by the keys, or by themselves if there are none. -/
def Sorting.compareKeys (sorting : Sorting) (left right : List Char) : Ordering :=
  if sorting.keys.isEmpty then
    let trim (line : List Char) : List Char :=
      if sorting.manner.has 'b' then line.dropWhile isBlankChar else line
    let order := sorting.manner.compare (trim left) (trim right)
    if sorting.manner.has 'r' then order.swap else order
  else
    sorting.keys.foldl
      (fun order key => order.then (key.compare sorting.separator left right)) .eq

def Sorting.compare (sorting : Sorting) (left right : List Char) : Ordering :=
  let order := sorting.compareKeys left right
  if order ≠ .eq ∨ sorting.isStable ∨ sorting.isUnique then order
  else
    let order := compareTexts left right
    if sorting.manner.has 'r' then order.swap else order

/-- Leaves out lines that are equal to the line in front of them. -/
def dropEqual (same : List Char → List Char → Bool) (lines : List (List Char))
    : List (List Char) :=
  (lines.foldl
    (fun kept line =>
      match kept with
      | last :: _ => if same last line then kept else line :: kept
      | [] => [line])
    []).reverse

def Sorting.sort (sorting : Sorting) (lines : List (List Char)) : List (List Char) :=
  let sorted := lines.mergeSort fun left right => sorting.compare left right != .gt
  if sorting.isUnique then dropEqual (fun x y => sorting.compareKeys x y == .eq) sorted
  else sorted

/-- The first line that is out of order, with its number. -/
def Sorting.disorder? (sorting : Sorting) (lines : List (List Char))
    : Option (Nat × List Char) :=
  ((lines.zip lines.tail).zipIdx.find? fun ((left, right), _) =>
    let order := sorting.compare left right
    order == .gt || (sorting.isUnique && order == .eq)).map
      fun ((_, right), i) => (i + 2, right)

def sortSwitches : Switches :=
  Switches.of "bcCdfghiMmnRrsuVz\x02" "kotST\x01"
    [
      ("ignore-leading-blanks", 'b'), ("check", 'c'), ("dictionary-order", 'd'),
      ("ignore-case", 'f'), ("general-numeric-sort", 'g'), ("human-numeric-sort", 'h'),
      ("ignore-nonprinting", 'i'), ("month-sort", 'M'), ("merge", 'm'),
      ("numeric-sort", 'n'), ("reverse", 'r'), ("stable", 's'), ("unique", 'u'),
      ("version-sort", 'V'), ("key", 'k'), ("output", 'o'), ("field-separator", 't'),
      ("zero-terminated", 'z'), ("buffer-size", 'S'), ("temporary-directory", 'T'),
      ("parallel", '\x01'), ("debug", '\x02')
    ]

def readSorting (arguments : Arguments) : Work Sorting := do
  let separator ←
    match arguments.value? 't' with
    | none => pure none
    | some text =>
        match text.toList with
        | [] => fail 2 "sort" "empty tab"
        | [c] => pure (some c)
        | _ =>
            if text = "\\0" then pure (some '\x00')
            else fail 2 "sort" s!"multi-character tab {marked text}"
  let manner : Manner := { letters := "bdfghiMnrV".toList.filter arguments.has }
  let keys ← (arguments.values 'k').mapM readKey
  let keys := keys.map fun key =>
    if key.manner.letters.isEmpty ∧ !key.skipsAtFinish then
      { key with manner, skipsAtFinish := manner.has 'b' }
    else key
  let kinds := ("dghiMnV".toList.filter manner.has)
  if (kinds.filter fun c => c ≠ 'd' && c ≠ 'i').length > 1
      ∨ (kinds.any (fun c => c = 'd' || c = 'i') ∧ kinds.any fun c => c ≠ 'd' && c ≠ 'i') then
    fail 2 "sort" s!"options '-{String.ofList kinds}' are incompatible"
  return {
    keys
    separator
    manner
    isStable := arguments.has 's'
    isUnique := arguments.has 'u'
  }

/-- The switch that a named order stands for. -/
def spellOrder (word : String) : String :=
  match word with
  | "--sort=general-numeric" => "-g"
  | "--sort=human-numeric" => "-h"
  | "--sort=month" => "-M"
  | "--sort=numeric" => "-n"
  | "--sort=random" => "-R"
  | "--sort=version" => "-V"
  | "--check=quiet" | "--check=silent" => "-C"
  | "--check=diagnose-first" => "-c"
  | word => word

def sortLines (words : List String) : Work Nat := do
  let name := "sort"
  let arguments ← arguments sortSwitches 2 name (words.map spellOrder)
  let sorting ← readSorting arguments
  let mark := if arguments.has 'z' then '\x00' else newline
  let operands := orInput arguments.operands
  if arguments.has 'c' ∨ arguments.has 'C' then
    match operands with
    | _ :: extra :: _ =>
        fail 2 name s!"extra operand {quoted extra} not allowed with -c"
    | _ => pure ()
  let mut lines : List (List Char) := []
  for path in operands do
    match ← content path with
    | .ok text => lines := lines ++ splitAt mark text
    | .error e => do
        let problem :=
          if e = .isDirectory then "read failed" else "cannot read"
        fail 2 name s!"{problem}: {plainProblem path e}"
  if arguments.has 'c' ∨ arguments.has 'C' then
    match sorting.disorder? lines with
    | none => return 0
    | some (number, line) => do
        if !arguments.has 'C' then
          let path := operands.headD "-"
          warn name s!"{path}:{number}: disorder: {String.ofList line}"
        return 1
  let sorted := (sorting.sort lines).flatMap (· ++ [mark])
  match arguments.value? 'o' with
  | none => say sorted
  | some path =>
      match ← change (·.write · (ofOctets sorted)) path with
      | .ok () => pure ()
      | .error e => fail 2 name s!"open failed: {plainProblem path e}"
  return 0

/-! ### Lines that follow themselves -/

/-- Runs of lines that are the same. -/
def runsOf (same : List Char → List Char → Bool) (lines : List (List Char))
    : List (List (List Char)) :=
  ((lines.foldl
    (fun runs line =>
      match runs with
      | [] => [[line]]
      | run :: runs =>
          if run.head?.any (same · line) then (line :: run) :: runs else [line] :: run :: runs)
    []).map List.reverse).reverse

def showRuns (words : List String) : Work Nat := do
  let name := "uniq"
  let switches :=
    Switches.of "cdDiuz" "fsw"
      [
        ("count", 'c'), ("repeated", 'd'), ("all-repeated", 'D'), ("ignore-case", 'i'),
        ("unique", 'u'), ("skip-fields", 'f'), ("skip-chars", 's'), ("check-chars", 'w'),
        ("zero-terminated", 'z')
      ]
  let arguments ← arguments switches 1 name words
  let number (letter : Char) (things : String) : Work (Option Nat) :=
    match arguments.value? letter with
    | none => return none
    | some text =>
        match natOf? text with
        | some n => return some n
        | none => fail 1 name s!"{text}: invalid number of {things}"
  let fields ← number 'f' "fields to skip"
  let skipped ← number 's' "bytes to skip"
  let compared ← number 'w' "bytes to compare"
  if arguments.has 'D' ∧ arguments.has 'c' then
    misuse 1 name "printing all duplicated lines and repeat counts is meaningless"
  let target ←
    match arguments.operands with
    | _ :: _ :: extra :: _ => misuse 1 name s!"extra operand {marked extra}"
    | [_, target] => pure (some target)
    | _ => pure none
  let path := arguments.operands.headD "-"
  let mark := lineMark arguments
  let text ←
    match ← content path with
    | .ok text => pure text
    | .error .isDirectory =>
        fail 1 name s!"error reading {quoted path}: {Files.FileError.reason .isDirectory}"
    | .error e => fail 1 name (plainProblem path e)
  let view (line : List Char) : List Char :=
    let line := (dropFields none (fields.getD 0) line).drop (skipped.getD 0)
    let line := match compared with
      | some count => line.take count
      | none => line
    if arguments.has 'i' then upperCase line else line
  let runs := runsOf (fun x y => view x = view y) (splitAt mark text)
  let wanted := runs.filter fun run =>
    let isRepeated := run.length > 1
    (!arguments.has 'd' && !arguments.has 'D' || isRepeated)
      && (!arguments.has 'u' || !isRepeated)
  let shown :=
    if arguments.has 'D' then wanted.flatten
    else
      wanted.map fun run =>
        let line := run.headD []
        if arguments.has 'c' then numbered 7 run.length ++ ' ' :: line else line
  let shown := joinAt mark shown
  match target with
  | none => say shown
  | some "-" => say shown
  | some path =>
      match ← change (·.write · (ofOctets shown)) path with
      | .ok () => pure ()
      | .error e => fail 1 name (plainProblem path e)
  return 0

/-! ### Lines that two files share -/

/-- Merges sorted lines; the number tells which of the files a line is from, three for
both. The last line comes first.
-/
def mergeShared : Nat → List (Nat × List Char) → List (List Char) → List (List Char)
    → List (Nat × List Char)
  | 0, done, _, _ => done
  | _ + 1, done, left, [] => (left.map ((1, ·))).reverse ++ done
  | _ + 1, done, [], right => (right.map ((2, ·))).reverse ++ done
  | fuel + 1, done, x :: xs, y :: ys =>
      match compareTexts x y with
      | .lt => mergeShared fuel ((1, x) :: done) xs (y :: ys)
      | .gt => mergeShared fuel ((2, y) :: done) (x :: xs) ys
      | .eq => mergeShared fuel ((3, x) :: done) xs ys

def showShared (words : List String) : Work Nat := do
  let name := "comm"
  let arguments ← arguments (Switches.of "123z" "" []) 1 name words
  match arguments.operands with
  | [] => misuse 1 name "missing operand"
  | [path] => misuse 1 name s!"missing operand after {marked path}"
  | [first, second] => do
      let read (path : String) : Work (List (List Char)) := do
        match ← content path with
        | .ok text => return splitAt (lineMark arguments) text
        | .error e => fail 1 name (plainProblem path e)
      let left ← read first
      let right ← read second
      let merged := (mergeShared (left.length + right.length + 1) [] left right).reverse
      let columns := [1, 2, 3].filter fun n => !arguments.has (Char.ofNat ('0'.toNat + n))
      let shown := merged.filterMap fun (number, line) =>
        (columns.idxOf? number).map fun depth => List.replicate depth '\t' ++ line
      say (joinAt (lineMark arguments) shown)
      let isSorted (lines : List (List Char)) : Bool :=
        (lines.zip lines.tail).all fun (x, y) => compareTexts x y != .gt
      let mut isFine := true
      for (lines, number) in [(left, 1), (right, 2)] do
        if !isSorted lines then
          warn name s!"file {number} is not in sorted order"
          isFine := false
      if !isFine then warn name "input is not in sorted order"
      return statusOf isFine
  | _ :: _ :: extra :: _ => misuse 1 name s!"extra operand {marked extra}"

end MailMerge.Shell.Utility
