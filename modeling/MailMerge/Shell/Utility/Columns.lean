import MailMerge.Shell.Utility.Lines

/-! Cutting bytes or fields out of lines. -/

namespace MailMerge.Shell.Utility

open Work

/-- A range of positions, counted from one; without an end it goes on for ever. -/
structure Span where
  first : Nat
  last : Option Nat
  deriving DecidableEq, Repr

def Span.holds (span : Span) (position : Nat) : Bool :=
  span.first ≤ position && span.last.all (position ≤ ·)

/-- What a list of ranges counts. -/
inductive Measure where
  | bytes
  | fields
  deriving DecidableEq

/-- The largest position that can be named. -/
def maxPosition : Nat := 18446744073709551614

def Measure.zeroProblem : Measure → String
  | bytes => "byte/character positions are numbered from 1"
  | fields => "fields are numbered from 1"

def readPosition (measure : Measure) (cs : List Char) : Except String Nat :=
  let digits := cs.takeWhile Char.isDigit
  if digits.length < cs.length then
    let bad := marked (String.ofList (cs.drop digits.length))
    .error <|
      match measure with
      | .bytes => s!"invalid byte/character position {bad}"
      | .fields => s!"invalid field value {bad}"
  else
    let number := digits.foldl (fun value c => value * 10 + (c.toNat - '0'.toNat)) 0
    if maxPosition < number then
      let bad := marked (String.ofList digits)
      .error <|
        match measure with
        | .bytes => s!"byte/character offset {bad} is too large"
        | .fields => s!"field number {bad} is too large"
    else .ok number

def readSpan (measure : Measure) (text : List Char) : Except String Span := do
  match text.splitOn '-' with
  | [single] => do
      let number ← readPosition measure single
      if number = 0 then throw measure.zeroProblem
      return { first := number, last := some number }
  | [[], []] => throw "invalid range with no endpoint: -"
  | [first, last] => do
      let start ← readPosition measure first
      let finish ← readPosition measure last
      if first ≠ [] ∧ start = 0 then throw measure.zeroProblem
      let start := if first = [] then 1 else start
      if last = [] then return { first := start, last := none }
      if finish < start then throw "invalid decreasing range"
      return { first := start, last := some finish }
  | _ =>
      throw <|
        match measure with
        | .bytes => "invalid byte or character range"
        | .fields => "invalid field range"

/-- Reads a list of ranges between commas or blanks. -/
def readSpans (measure : Measure) (text : String) : Except String (List Span) :=
  ((text.toList.map fun c => if isSpace c then ',' else c).splitOn ',').mapM (readSpan measure)

/-- Ranges in their order, with those that overlap joined. -/
def joinSpans (spans : List Span) : List Span :=
  let sorted := spans.mergeSort fun x y => x.first ≤ y.first
  (sorted.foldl
    (fun joined span =>
      match joined with
      | last :: rest =>
          if last.holds span.first then
            let finish :=
              match last.last, span.last with
              | some x, some y => some (max x y)
              | _, _ => none
            { last with last := finish } :: rest
          else span :: joined
      | [] => [span])
    []).reverse

/-- The ranges between some ranges. -/
def gapsOf (start : Nat) : List Span → List Span
  | [] => [{ first := start, last := none }]
  | span :: spans =>
      let rest :=
        match span.last with
        | some last => gapsOf (last + 1) spans
        | none => []
      if start < span.first then { first := start, last := some (span.first - 1) } :: rest
      else rest

/-- The pieces of a list that ranges cover. -/
def piecesOf {α : Type} (spans : List Span) (items : List α) : List (List α) :=
  spans.filterMap fun span =>
    let rest := items.drop (span.first - 1)
    let piece :=
      match span.last with
      | some last => rest.take (last + 1 - span.first)
      | none => rest
    if piece.isEmpty then none else some piece

def cutSwitches : Switches :=
  let switches :=
    Switches.of "nsz\x01" "bcdf\x02"
      [
        ("bytes", 'b'), ("characters", 'c'), ("delimiter", 'd'), ("fields", 'f'),
        ("only-delimited", 's'), ("complement", '\x01'), ("output-delimiter", '\x02'),
        ("zero-terminated", 'z')
      ]
  switches

def cutLines (words : List String) : Work Nat := do
  let name := "cut"
  let arguments ← arguments cutSwitches 1 name words
  let lists := arguments.found.filter fun found => "bcf".toList.contains found.1
  let (letter, list) ←
    match lists with
    | [] => misuse 1 name "you must specify a list of bytes, characters, or fields"
    | [found] => pure found
    | _ => misuse 1 name "only one list may be specified"
  let delimiter ←
    match (arguments.value? 'd').map String.toList with
    | none => pure '\t'
    | some [] => pure '\x00'
    | some [c] => pure c
    | some _ => misuse 1 name "the delimiter must be a single character"
  let measure : Measure := if letter = 'f' then .fields else .bytes
  if measure = .bytes ∧ arguments.has 'd' then
    misuse 1 name "an input delimiter may be specified only when operating on fields"
  if measure = .bytes ∧ arguments.has 's' then
    misuse 1 name "suppressing non-delimited lines makes sense\n\tonly when operating on fields"
  match readSpans measure list with
  | .error problem => misuse 1 name problem
  | .ok spans => do
      let spans := joinSpans spans
      let spans := if arguments.has '\x01' then gapsOf 1 spans else spans
      let mark := (arguments.value? '\x02').map String.toList
      let (text, isFine) ← readAll name plainProblem arguments.operands
      let cut (line : List Char) : Option (List Char) :=
        match measure with
        | .bytes => some ((mark.getD []).intercalate (piecesOf spans line))
        | .fields =>
            let fields := line.splitOn delimiter
            if fields.length = 1 then if arguments.has 's' then none else some line
            else some ((mark.getD [delimiter]).intercalate (piecesOf spans fields).flatten)
      let lineMark := lineMark arguments
      say (joinAt lineMark ((splitAt lineMark text).filterMap cut))
      return statusOf isFine

end MailMerge.Shell.Utility
