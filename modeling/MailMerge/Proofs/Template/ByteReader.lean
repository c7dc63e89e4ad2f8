import MailMerge.Proofs.Template.CheckedText
import MailMerge.Proofs.Template.Cut

/-! A reader of template text that works on byte positions. It goes through the bytes of a text
one by one, those inside of characters too, and cuts its pieces out of the text by sums of
positions and lengths. Each step is a checked one.
-/

namespace MailMerge.Template.ByteReader

open MailMerge.Text
open Checked

-----------------------------------------------------------------------------------------
-- Names
-----------------------------------------------------------------------------------------

def isNameByte (byte : UInt8) : Bool :=
  ('0'.toUInt8 ≤ byte && byte ≤ '9'.toUInt8) || ('A'.toUInt8 ≤ byte && byte ≤ 'Z'.toUInt8)
    || ('a'.toUInt8 ≤ byte && byte ≤ 'z'.toUInt8) || byte = '_'.toUInt8
    || byte = '-'.toUInt8 || byte = '.'.toUInt8

def isBlankByte (byte : UInt8) : Bool :=
  byte = ' '.toUInt8 || byte = '\t'.toUInt8 || byte = '\n'.toUInt8 || byte = '\x0c'.toUInt8
    || byte = '\r'.toUInt8

/-- The number of bytes of the name that a text starts with. -/
def nameLength (text : String) : Nat :=
  ((toBytes text).takeWhile isNameByte).length

-----------------------------------------------------------------------------------------
-- Recognisers
-----------------------------------------------------------------------------------------

/-- A segment that was recognised, with the number of bytes that it takes. -/
abbrev Found := Segment × Nat

variable (limit : Nat)

/-- Recognises a reference between two brackets at the start of a text. -/
def reference? (opening closing : Char) (rest : String) : Checked (Option Found) := do
  if byte? rest 0 = some opening.toUInt8 ∧ byte? rest 1 = some '$'.toUInt8 then
    let length := nameLength (← sliceFrom rest 2)
    if length = 0 then return none
    else
      let stop ← sum limit 2 length
      if byte? rest stop = some closing.toUInt8 then
        return some (.value (← slice rest 2 stop), ← sum limit length 3)
      else return none
  else return none

/-- The length of the column's name where a text starts with the opening of a conditional. -/
def opening? (rest : String) : Checked (Option Nat) := do
  if byte? rest 1 = some '?'.toUInt8 then
    let length := nameLength (← sliceFrom rest 2)
    if 0 < length then return some length else return none
  else return none

/-- Where a body ends, and where its separator stands if it has one. -/
structure Bounds where
  close : Nat
  split : Option Nat
  deriving DecidableEq, Repr

/-- What one turn of the search for the end of a body comes to: the end, or the state of the
search and the number of bytes to go on by.
-/
inductive Turn where
  | found (bounds : Bounds)
  | goOn (depth : Nat) (split : Option Nat) (count : Nat)

/-- One turn of the search for the end of a body, at a byte of it. -/
def turn (body : String) (depth : Nat) (split : Option Nat) (position : Nat) : Checked Turn := do
  let here ← byte body position
  if here = '{'.toUInt8 then
    let rest ← sliceFrom body position
    match ← reference? limit '{' '}' rest with
    | some (_, count) => return .goOn depth split count
    | none =>
        match ← opening? rest with
        | some _ => return .goOn (← sum limit depth 1) split 1
        | none => return .goOn depth split 1
  else if here = '}'.toUInt8 then
    if depth = 0 then return .found { close := position, split }
    else return .goOn (← lowered depth) split 1
  else if here = '!'.toUInt8 ∧ depth = 0 ∧ split = none then
    if byte? body (← sum limit position 1) = some '!'.toUInt8 then
      return .goOn depth (some position) 2
    else return .goOn depth split 1
  else return .goOn depth split 1

/-- Searches for the end of a body from a position on. -/
def boundsFrom (body : String) (depth : Nat) (split : Option Nat) (position : Nat)
    : Checked (Option Bounds) := do
  if position < body.utf8ByteSize then
    match ← turn limit body depth split position with
    | .found bounds => return some bounds
    | .goOn depth split count =>
        let ⟨next, _⟩ ← advance limit position count
        boundsFrom body depth split next
  else return none
termination_by body.utf8ByteSize - position

/-- Reads the branches of a body that stands at an offset, each at its own offset. -/
def branches (inner : String → Nat → Checked (List Segment)) (body : String) (offset : Nat)
    : Option Nat → Checked (List Segment × Option (List Segment))
  | none => do return (← inner body offset, none)
  | some split => do
      let shown ← inner (← slice body 0 split) offset
      let second ← sliceFrom body (← sum limit split 2)
      let otherwise ← inner second (← sum limit (← sum limit offset split) 2)
      return (shown, some otherwise)

/-- Where a body starts, given where the name in front of it stops: one blank between the two
belongs to neither.
-/
def bodyStart (rest : String) (stop : Nat) : Checked Nat :=
  if (byte? rest stop).any isBlankByte then sum limit stop 1 else return stop

/-- Recognises a conditional at the start of a text that stands at an offset. Its branches are
read by `inner`.
-/
def conditional? (inner : String → Nat → Checked (List Segment)) (rest : String) (offset : Nat)
    : Checked (Option Found) := do
  match ← opening? rest with
  | none => return none
  | some length =>
      let stop ← sum limit 2 length
      let column ← slice rest 2 stop
      let start ← bodyStart limit rest stop
      match ← boundsFrom limit (← sliceFrom rest start) 0 none 0 with
      | none => throw (.fault (.unclosed column offset))
      | some bounds =>
          let close ← sum limit start bounds.close
          let body ← slice rest start close
          let (shown, otherwise) ← branches limit inner body (← sum limit offset start) bounds.split
          return some (.conditional column shown otherwise, ← sum limit close 1)

/-- Recognises the mark at a position of a text that stands at an offset. -/
def mark? (inner : String → Nat → Checked (List Segment)) (scope : Scope) (text : String)
    (offset position : Nat)
    : Checked (Option Found) := do
  let here ← byte text position
  if here = '{'.toUInt8 then
    let rest ← sliceFrom text position
    match ← reference? limit '{' '}' rest with
    | some found => return some found
    | none => conditional? limit inner rest (← sum limit offset position)
  else if here = '['.toUInt8 ∧ scope = .branch then
    reference? limit '[' ']' (← sliceFrom text position)
  else if here = '!'.toUInt8 ∧ scope = .top then
    if byte? text (← sum limit position 1) = some '!'.toUInt8 then
      throw (.fault (.strayElse (← sum limit offset position)))
    else return none
  else return none

-----------------------------------------------------------------------------------------
-- Segments
-----------------------------------------------------------------------------------------

/-- Segments as they are gathered, with the literal text behind them. -/
structure Builder where
  segments : List Segment
  literal : String

namespace Builder

def empty : Builder where
  segments := []
  literal := ""

def add (builder : Builder) (text : String) : Builder :=
  { builder with literal := builder.literal ++ text }

/-- The segments, the last of which is the literal text if there is any. -/
def finish (builder : Builder) : List Segment :=
  builder.segments ++ if builder.literal = "" then [] else [.literal builder.literal]

def push (builder : Builder) (segment : Segment) : Builder where
  segments := builder.finish ++ [segment]
  literal := ""

end Builder

/-- Reads the segments of a text that stands at an offset, from a position on. The text between
`start` and the position is literal and not yet gathered.
-/
def segmentsFrom (scope : Scope) (text : String) (offset : Nat) (builder : Builder)
    (start position : Nat)
    : Checked (List Segment) := do
  if position < text.utf8ByteSize then
    let inner (piece : String) (offset : Nat) : Checked (List Segment) :=
      if piece.utf8ByteSize < text.utf8ByteSize then
        segmentsFrom .branch piece offset .empty 0 0
      else trap .notShorter
    match ← mark? limit inner scope text offset position with
    | some (segment, count) =>
        let literal ← slice text start position
        let ⟨next, _⟩ ← advance limit position count
        segmentsFrom scope text offset ((builder.add literal).push segment) next next
    | none =>
        let ⟨next, _⟩ ← advance limit position 1
        segmentsFrom scope text offset builder start next
  else
    let literal ← sliceFrom text start
    return (builder.add literal).finish
termination_by (text.utf8ByteSize, text.utf8ByteSize - position)

/-- Reads a whole template. -/
def read (raw : String) : Checked Template := do
  let segments ← segmentsFrom limit .top raw 0 .empty 0 0
  return { source := raw, segments }

end MailMerge.Template.ByteReader
