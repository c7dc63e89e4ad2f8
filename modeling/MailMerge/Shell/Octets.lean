import MailMerge.Text.Utf8

/-! Texts as the shell knows them: a text is a run of bytes, and each byte is the character
with its number. Only the bytes of ASCII are letters, digits or blanks.
-/

namespace MailMerge.Shell

/-- A byte as a character. -/
def octet (byte : UInt8) : Char :=
  Char.ofNat byte.toNat

def toOctets (bytes : Bytes) : List Char :=
  bytes.map octet

def ofOctets (octets : List Char) : Bytes :=
  octets.map (·.toNat.toUInt8)

/-- The shell's text for a text of any characters. -/
def spell (text : String) : String :=
  String.ofList (toOctets (Text.toBytes text))

/-- The text of any characters that the shell's text stands for. -/
def unspell (text : String) : String :=
  Text.ofBytesLossy (ofOctets text.toList)

/-! ### Lines -/

def newline : Char := '\n'

/-- The pieces of a text without the marks that end them. -/
def splitAt (mark : Char) (octets : List Char) : List (List Char) :=
  let pieces := octets.splitOn mark
  if pieces.getLast? = some [] then pieces.dropLast else pieces

/-- The lines of a text without their line feeds. -/
def splitLines (octets : List Char) : List (List Char) :=
  splitAt newline octets

/-- Whether the last line of a text has no line feed. -/
def isOpenEnded (octets : List Char) : Bool :=
  octets.getLast?.any (· ≠ newline)

/-- Pieces with a mark behind each. -/
def joinAt (mark : Char) (pieces : List (List Char)) : List Char :=
  pieces.flatMap (· ++ [mark])

def joinLines (lines : List (List Char)) : List Char :=
  joinAt newline lines

/-- White space of the shell's texts. -/
def isSpace (c : Char) : Bool :=
  c = ' ' || ('\t' ≤ c && c ≤ '\r')

/-- A text with blanks in front, to have a size. -/
def padLeft (size : Nat) (text : List Char) : List Char :=
  List.replicate (size - text.length) ' ' ++ text

/-- A text with blanks behind, to have a size. -/
def padRight (size : Nat) (text : List Char) : List Char :=
  text ++ List.replicate (size - text.length) ' '

end MailMerge.Shell
