import MailMerge.Shell.Utility.Lines

/-! Splitting a text into files: after so many lines or bytes, or into so many parts. The
names of the files go on in the order of their letters or digits.
-/

namespace MailMerge.Shell.Utility

open Work

namespace Split

/-! ### Names -/

def letters : List Char :=
  "abcdefghijklmnopqrstuvwxyz".toList

def hexDigits : List Char :=
  "0123456789abcdef".toList

/-- A number by digits of another kind, of at least so many places. -/
def spelled (digits : List Char) (places number : Nat) : List Char :=
  let text := (Nat.toDigits digits.length number).map fun c =>
    digits.getD (if c.isDigit then c.toNat - '0'.toNat else c.toLower.toNat - 'a'.toNat + 10) '?'
  List.replicate (places - text.length) (digits.headD '0') ++ text

/-- The digits of a number in a base, the last one first; the fuel bounds how many. -/
def digitsBackward (base : Nat) : Nat → Nat → List Nat
  | 0, _ => []
  | fuel + 1, number => (number % base) :: digitsBackward base fuel (number / base)

/-- A number by so many digits of any kind. -/
def word (digits : List Char) (places number : Nat) : List Char :=
  (digitsBackward digits.length places number).reverse.map fun i => digits.getD i '?'

/-- How the files are named. -/
structure Naming where
  front : String
  digits : List Char
  places : Nat
  /-- Whether names get longer before the digits run out. -/
  widens : Bool
  first : Nat
  behind : String

/-- The end of the name of a file, where names get longer. -/
def widening (digits : List Char) : Nat → Nat → Nat → List Char
  | 0, places, number => word digits places number
  | fuel + 1, places, number =>
      let count := (digits.length - 1) * Nat.pow digits.length (places - 1)
      if number < count then word digits places number
      else digits.getLastD 'z' :: widening digits fuel (places + 1) (number - count)

/-- The name of a file, if there is one for its number. -/
def Naming.name? (naming : Naming) (number : Nat) : Option String :=
  let number := number + naming.first
  let text? :=
    if naming.widens then some (widening naming.digits 20 naming.places number)
    else if number < Nat.pow naming.digits.length naming.places then
      some (word naming.digits naming.places number)
    else none
  text?.map fun text => naming.front ++ String.ofList text ++ naming.behind

/-! ### Parts -/

/-- How a text is split. -/
inductive Plan where
  | lines (count : Nat)
  | bytes (count : Nat)
  | fullLines (bytes : Nat)
  | chunks (count : Nat)
  | lineChunks (count : Nat)
  | inTurn (count : Nat)
  deriving DecidableEq, Repr

/-- The number of parts, if it is known before. -/
def Plan.count? : Plan → Option Nat
  | chunks count => some count
  | lineChunks count => some count
  | inTurn count => some count
  | _ => none

/-- Splits a list into runs of so many items; the fuel bounds how many runs there are. -/
def runsOfSize {α : Type} (size : Nat) : Nat → List α → List (List α)
  | 0, _ => []
  | _ + 1, [] => []
  | fuel + 1, items => items.take size :: runsOfSize size fuel (items.drop size)

/-- Full lines in parts of so many bytes at most. A line that is longer is split. -/
def packLines (most : Nat) (lines : List (List Char)) : List (List Char) :=
  let (parts, last) :=
    lines.foldl
      (fun ((parts, part) : List (List Char) × List Char) line =>
        if part.length + line.length ≤ most then (parts, part ++ line)
        else
          let parts := if part = [] then parts else part :: parts
          let pieces := runsOfSize most (line.length + 1) line
          (pieces.dropLast.reverse ++ parts, pieces.getLastD []))
      ([], [])
  (if last = [] then parts else last :: parts).reverse

/-- Where the chunks of a text end; what is left over is shared among the first ones. -/
def chunkEnds (size count : Nat) : List Nat :=
  (List.range count).map fun i => (i + 1) * (size / count) + min (i + 1) (size % count)

/-- The parts of a text. -/
def Plan.parts (plan : Plan) (mark : Char) (text : List Char) : List (List Char) :=
  match plan with
  | lines count =>
      (runsOfSize count (text.length + 1) (fullPieces mark text)).map List.flatten
  | bytes count => runsOfSize count (text.length + 1) text
  | fullLines most => packLines most (fullPieces mark text)
  | chunks count =>
      let ends := chunkEnds text.length count
      (ends.zip (0 :: ends)).map fun (stop, start) => (text.take stop).drop start
  | lineChunks count =>
      let ends := chunkEnds text.length count
      let placed := ((fullPieces mark text).foldl
        (fun ((done, place) : List (Nat × List Char) × Nat) line =>
          ((place, line) :: done, place + line.length)) ([], 0)).1.reverse
      (ends.zip (0 :: ends)).map fun (stop, start) =>
        placed.flatMap fun (place, line) => if start ≤ place ∧ place < stop then line else []
  | inTurn count =>
      let pieces := (fullPieces mark text).zipIdx
      (List.range count).map fun i =>
        pieces.flatMap fun (line, n) => if n % count = i then line else []

/-- Reads a number of things. -/
def readCount (problem text : String) : Work Nat := do
  match countOf? text with
  | some (count + 1) => return count + 1
  | _ => fail 1 "split" s!"{problem}: {marked text}"

/-- Reads a number of parts, and which of them is wanted. -/
def readChunks (text : String) : Work (Plan × Option Nat) := do
  let (make, rest) : (Nat → Plan) × String :=
    if text.startsWith "l/" then (.lineChunks, (text.drop 2).toString)
    else if text.startsWith "r/" then (.inTurn, (text.drop 2).toString)
    else (.chunks, text)
  match rest.splitOn "/" with
  | [wanted, count] => do
      let total ← readCount "invalid number of chunks" count
      match natOf? wanted with
      | some (k + 1) =>
          if total ≤ k then fail 1 "split" s!"invalid chunk number: {marked wanted}"
          return (make total, some k)
      | _ => fail 1 "split" s!"invalid chunk number: {marked wanted}"
  | _ => return (make (← readCount "invalid number of chunks" rest), none)

def switches : Switches :=
  let switches :=
    Switches.of "deux\x010123456789" "abClnt\x02\x06"
      [
        ("lines", 'l'), ("bytes", 'b'), ("line-bytes", 'C'), ("number", 'n'),
        ("suffix-length", 'a'), ("numeric-suffixes", '\x03'), ("hex-suffixes", '\x04'),
        ("additional-suffix", '\x02'), ("elide-empty-files", 'e'), ("unbuffered", 'u'),
        ("separator", 't'), ("verbose", '\x01'), ("filter", '\x06')
      ]
  { switches with
    letters := ('\x03', .optional) :: ('\x04', .optional) :: switches.letters }

/-- How the text is to be split, and the only part that is wanted. -/
def readPlan (arguments : Arguments) : Work (Plan × Option Nat) := do
  let digits := (arguments.found.map Prod.fst).filter Char.isDigit
  let ways := ["l", "b", "C", "n"].filter fun letter => arguments.has (letter.toList.headD ' ')
  let isMixed : Bool := digits ≠ [] && ways ≠ []
  if 1 < ways.length ∨ isMixed = true then misuse 1 "split" "cannot split in more than one way"
  if digits ≠ [] then
    return (.lines (← readCount "invalid number of lines" (String.ofList digits)), none)
  match arguments.value? 'l', arguments.value? 'b', arguments.value? 'C', arguments.value? 'n' with
  | some text, _, _, _ => return (.lines (← readCount "invalid number of lines" text), none)
  | _, some text, _, _ => return (.bytes (← readCount "invalid number of bytes" text), none)
  | _, _, some text, _ => return (.fullLines (← readCount "invalid number of bytes" text), none)
  | _, _, _, some text => readChunks text
  | none, none, none, none => return (.lines 1000, none)

/-- How many digits are needed to name so many files. -/
def placesFor (base : Nat) : Nat → Nat → Nat
  | 0, _ => 1
  | fuel + 1, last => if last < base then 1 else placesFor base fuel (last / base) + 1

def readNaming (arguments : Arguments) (plan : Plan) (front : String) : Work Naming := do
  let name := "split"
  let digits :=
    if arguments.has 'x' ∨ arguments.has '\x04' then hexDigits
    else if arguments.has 'd' ∨ arguments.has '\x03' then hexDigits.take 10
    else letters
  let behind := (arguments.value? '\x02').getD ""
  if behind.toList.contains '/' then
    misuse 1 name s!"invalid suffix {marked behind}, contains directory separator"
  let first? := ((arguments.value? '\x03') <|> (arguments.value? '\x04')).filter (· ≠ "")
  let first ←
    match first? with
    | none => pure 0
    | some text =>
        match natOf? text with
        | some first => pure first
        | none =>
            misuse 1 name s!"{marked text}: invalid start value for numerical suffix"
  let length ←
    match arguments.value? 'a' with
    | none => pure none
    | some text =>
        match natOf? text with
        | some 0 => pure none
        | some length => pure (some length)
        | none => fail 1 name s!"invalid suffix length: {marked text}"
  let needed := (plan.count?.map fun count => placesFor digits.length count (count - 1)).getD 0
  match length with
  | some length => do
      if length < needed then
        fail 1 name s!"the suffix length needs to be at least {needed}"
      return { front, digits, places := length, widens := false, first, behind }
  | none =>
      let widens : Bool := plan.count?.isNone && first?.isNone
      let places := max (max 2 needed) ((first?.map String.length).getD 0)
      return { front, digits, places, widens, first, behind }

/-- Writes the parts to their files. -/
def writeParts (arguments : Arguments) (naming : Naming) : Nat → List (List Char) → Work Nat
  | _, [] => return 0
  | number, part :: parts => do
      let name := "split"
      if part = [] ∧ arguments.has 'e' then writeParts arguments naming number parts
      else
        match naming.name? number with
        | none => fail 1 name "output file suffixes exhausted"
        | some path => do
            if arguments.has '\x01' then sayLine s!"creating file {quoted path}"
            match ← change (·.write · (ofOctets part)) path with
            | .ok () => writeParts arguments naming (number + 1) parts
            | .error e => fail 1 name (plainProblem path e)

end Split

open Split in
/-- Splits a file, or the input, into files. -/
def splitText (words : List String) : Work Nat := do
  let name := "split"
  let arguments ← arguments Split.switches 1 name words
  let (plan, wanted) ← readPlan arguments
  let mark ←
    match arguments.value? 't' with
    | none => pure newline
    | some text =>
        match text.toList with
        | [c] => pure c
        | [] => fail 1 name "empty record separator"
        | _ =>
            if text = "\\0" then pure '\x00'
            else fail 1 name s!"multi-character separator {marked text}"
  let (path, front) ←
    match arguments.operands with
    | [] => pure ("-", "x")
    | [path] => pure (path, "x")
    | [path, front] => pure (path, front)
    | _ :: _ :: extra :: _ => misuse 1 name s!"extra operand {quoted extra}"
  let naming ← readNaming arguments plan front
  match ← content path with
  | .error .isDirectory => fail 1 name s!"{path}: Is a directory"
  | .error e => fail 1 name s!"cannot open {quoted path} for reading: {e.reason}"
  | .ok text => do
      let parts := plan.parts mark text
      match wanted with
      | some k => do
          say (parts.getD k [])
          return 0
      | none => writeParts arguments naming 0 parts

end MailMerge.Shell.Utility
