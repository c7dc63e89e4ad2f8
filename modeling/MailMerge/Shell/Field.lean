import MailMerge.Shell.Wildcard

/-! Fields: what a word comes to when its expansions are cut at separators, and how the
fields of a line are shared out among variables.
-/

namespace MailMerge.Shell

/-- A bit of an expanded word. -/
inductive Bit where
  /-- A character; it may part fields if it comes from an expansion without quotes. -/
  | char (c : Char) (isQuoted mayPart : Bool)
  /-- The end of one item of a list that is expanded to several fields. -/
  | gap
  /-- Quotes, which make a field of what is between them even if that is nothing. -/
  | mark
  deriving DecidableEq, Repr

namespace Bit

/-- The bits of a text that is quoted, of which at least a field without text comes. -/
def quoted (text : List Char) : List Bit :=
  .mark :: text.map (.char · true false)

/-- The bits of a text that stands in the script. -/
def literal (text : List Char) : List Bit :=
  text.map (.char · false false)

/-- The bits of a value that is not quoted. -/
def value (text : List Char) : List Bit :=
  text.map (.char · false true)

/-- The text of some bits where nothing parts fields. -/
def text (bits : List Bit) : String :=
  String.ofList <| bits.filterMap fun bit =>
    match bit with
    | .char c _ _ => some c
    | _ => none

/-- The signs of a pattern. -/
def glyphs (bits : List Bit) : List Wildcard.Glyph :=
  bits.filterMap fun bit =>
    match bit with
    | .char c isQuoted _ => some (c, isQuoted)
    | _ => none

end Bit

/-- White space that separators may have around them. -/
def isBlankSeparator (c : Char) : Bool :=
  c = ' ' || c = '\t' || c = '\n'

/-- How far the cutting of a word into fields has come. -/
structure Parting where
  /-- The fields that have ended, the last one first. -/
  done : List (List Wildcard.Glyph)
  /-- The field in the making, its last sign first. -/
  current : List Wildcard.Glyph
  /-- Whether there is a field in the making. -/
  isOpen : Bool
  /-- Whether white space has just ended a field, so that a separator behind it ends none. -/
  isBehindBlank : Bool

namespace Parting

def close (parting : Parting) : Parting :=
  if parting.isOpen then
    { parting with
      done := parting.current.reverse :: parting.done, current := [], isOpen := false }
  else parting

def add (parting : Parting) (glyph : Wildcard.Glyph) : Parting :=
  { parting with
    current := glyph :: parting.current, isOpen := true, isBehindBlank := false }

def step (separators : List Char) (parting : Parting) : Bit → Parting
  | .mark => { parting with isOpen := true, isBehindBlank := false }
  | .gap => { parting.close with isBehindBlank := true }
  | .char c isQuoted mayPart =>
      if !mayPart || !separators.contains c then parting.add (c, isQuoted)
      else if isBlankSeparator c then
        if parting.isOpen then { parting.close with isBehindBlank := true } else parting
      else if parting.isOpen then { parting.close with isBehindBlank := false }
      else if parting.isBehindBlank then { parting with isBehindBlank := false }
      else { parting with done := [] :: parting.done }

end Parting

/-- The fields of an expanded word. -/
def partFields (separators : List Char) (bits : List Bit) : List (List Wildcard.Glyph) :=
  (bits.foldl (Parting.step separators)
    { done := [], current := [], isOpen := false, isBehindBlank := false }).close.done.reverse

/-! ### Lines shared out among variables -/

/-- A character of a line; one that is fixed is never a separator. -/
abbrev Mark := Char × Bool

def parts? (separators : List Char) (mark : Mark) : Bool :=
  !mark.2 && separators.contains mark.1

def partsAsBlank (separators : List Char) (mark : Mark) : Bool :=
  parts? separators mark && isBlankSeparator mark.1

/-- The text at the head of a line up to a separator, and the line behind that. -/
def cutField (separators : List Char) (line : List Mark) : List Mark × List Mark :=
  let field := line.takeWhile (!parts? separators ·)
  let behind := (line.drop field.length).dropWhile (partsAsBlank separators)
  match behind with
  | mark :: rest =>
      if parts? separators mark then (field, rest.dropWhile (partsAsBlank separators))
      else (field, behind)
  | [] => (field, [])

/-- A line without separating white space at its end. -/
def trimBlanks (separators : List Char) (line : List Mark) : List Mark :=
  (line.reverse.dropWhile (partsAsBlank separators)).reverse

/-- The texts for so many variables. The last one gets all that is left, without the
separator at its end if it is a single field.
-/
def shareOut (separators : List Char) : Nat → List Mark → List String
  | 0, _ => []
  | 1, line =>
      let (field, behind) := cutField separators line
      let kept := if behind.isEmpty then field else trimBlanks separators line
      [String.ofList (kept.map Prod.fst)]
  | count + 1, line =>
      let (field, behind) := cutField separators line
      String.ofList (field.map Prod.fst) :: shareOut separators count behind

/-- The texts of a line for so many variables. -/
def shareLine (separators : List Char) (count : Nat) (line : List Mark) : List String :=
  shareOut separators count (line.dropWhile (partsAsBlank separators))

end MailMerge.Shell
