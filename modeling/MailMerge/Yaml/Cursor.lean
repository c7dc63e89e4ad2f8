import MailMerge.Text.Utf8

/-! The place in the text of a document, and moving on from there. Five characters end a
line, and a carriage return with its line feed ends one line.
-/

namespace MailMerge.Yaml

/-- The text ahead, and the bytes, lines and columns behind. -/
structure Cursor where
  rest : List Char
  offset : Nat
  line : Nat
  column : Nat

/-- A reader moves on through the text; it fails where the text is no document. -/
abbrev Reader := StateT Cursor Option

/-! ### Characters -/

def lineSeparator : Char := '\u2028'

def paragraphSeparator : Char := '\u2029'

def nextLine : Char := '\x85'

def byteOrderMark : Char := '\uFEFF'

/-- Whether a character ends a line. -/
def isBreak (c : Char) : Bool :=
  c = '\n' || c = '\r' || c = nextLine || c = lineSeparator || c = paragraphSeparator

def isBlank (c : Char) : Bool :=
  c = ' ' || c = '\t'

/-- Characters of the names of anchors, tag handles and directives. -/
def isNameChar (c : Char) : Bool :=
  c.isAlphanum || c = '_' || c = '-'

/-- Whether the line is over here. -/
def startsBreak : List Char → Bool
  | [] => true
  | c :: _ => isBreak c

/-- Whether white space stands here, or the line is over. -/
def startsBlank : List Char → Bool
  | [] => true
  | c :: _ => isBlank c || isBreak c

/-! ### Moving on -/

namespace Cursor

def start (text : List Char) : Cursor where
  rest := text
  offset := 0
  line := 0
  column := 0

/-- Moves past one character. -/
def next (cursor : Cursor) : Cursor :=
  match cursor.rest with
  | [] => cursor
  | c :: rest =>
      {
        cursor with
        rest
        offset := cursor.offset + c.utf8Size
        column := cursor.column + 1
      }

/-- Moves past the end of a line, if it stands ahead. -/
def nextLine (cursor : Cursor) : Cursor :=
  match cursor.rest with
  | '\r' :: '\n' :: rest =>
      { rest, offset := cursor.offset + 2, line := cursor.line + 1, column := 0 }
  | c :: rest =>
      if isBreak c then
        { rest, offset := cursor.offset + c.utf8Size, line := cursor.line + 1, column := 0 }
      else cursor
  | [] => cursor

/-- Whether a line that marks the start or the end of a document stands ahead. -/
def atMarker (cursor : Cursor) : Bool :=
  cursor.column = 0
    && (cursor.rest.take 3 = ['-', '-', '-'] || cursor.rest.take 3 = ['.', '.', '.'])
    && startsBlank (cursor.rest.drop 3)

end Cursor

def ahead : Reader (List Char) :=
  return (← get).rest

def head? : Reader (Option Char) :=
  return (← get).rest.head?

def next : Reader Unit :=
  modify Cursor.next

def skip : Nat → Reader Unit
  | 0 => return
  | count + 1 => do next; skip count

/-- Moves past characters as long as they satisfy a test, and hands them back. -/
def takeWhile (test : Char → Bool) : Reader (List Char) := do
  let taken := (← ahead).takeWhile test
  skip taken.length
  return taken

/-- Moves past one character that has to stand ahead. -/
def expect (c : Char) : Reader Unit := do
  if (← head?) = some c then next else failure

/-- Moves past the end of a line, if it stands ahead, and hands back what it counts for in
a text: the ends that are usual elsewhere all count for a line feed.
-/
def takeBreak : Reader (List Char) := do
  match ← head? with
  | some c => do
      if !isBreak c then return []
      modify Cursor.nextLine
      return [if c = lineSeparator ∨ c = paragraphSeparator then c else '\n']
  | none => return []

/-- Moves past white space and a comment at the end of a line, and past that end. -/
def endLine : Reader Unit := do
  let _ ← takeWhile isBlank
  if (← head?) = some '#' then
    let _ ← takeWhile (!isBreak ·)
  if startsBreak (← ahead) then modify Cursor.nextLine else failure

end MailMerge.Yaml
