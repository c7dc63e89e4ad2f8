import MailMerge.Files.Change
import MailMerge.Shell.Octets

/-! The place where a utility works: the files around it, what is left of its input, and
what it has written.
-/

namespace MailMerge.Shell

inductive Channel where
  | out
  | err
  deriving DecidableEq, Repr

structure Station where
  files : Files.Tree
  /-- The path of the working directory, from the root of the files. -/
  directory : String
  environment : List (String × String)
  input : List Char
  /-- Why the input cannot be read, if it cannot. -/
  inputFault : Option Files.FileError
  /-- Whether what has been read of the input ahead of need can be handed back. -/
  isSeekable : Bool
  /-- The file that the output goes to, and where in it, if it goes to a file. -/
  outputFile : Option (Nat × Nat)
  /-- How much of the input the work has called for; nothing if it went to the end. -/
  needed : Option Nat
  /-- Whether something is read that has no end. -/
  isEndless : Bool
  /-- What has been written, the last piece first. -/
  output : List (Channel × List Char)

/-- The path from the root of the files that a path within a directory stands for. -/
def placeOf (directory path : String) : String :=
  if path = "" ∨ path.startsWith "/" then path else Files.joinPath directory path

/-- The start of what a device without end holds: zero bytes, or bytes of all kinds. -/
def endlessText (isVaried : Bool) : List Char :=
  (List.range 0x20000).map fun i => if isVaried then Char.ofNat (i * 167 % 256) else '\x00'

/-- Why the work of a utility stops early. -/
inductive Stop where
  | exit (status : Nat)
  /-- The work has no end. -/
  | forever
  deriving DecidableEq, Repr

/-- The work of a utility. -/
abbrev Work := ExceptT Stop (StateM Station)

namespace Work

def emit (channel : Channel) (octets : List Char) : Work Unit :=
  if octets = [] then pure ()
  else modify fun station => { station with output := (channel, octets) :: station.output }

def say (octets : List Char) : Work Unit :=
  emit .out octets

def sayLine (text : String) : Work Unit :=
  emit .out (text.toList ++ [newline])

/-- Reports a problem under the name of the utility. -/
def warn (name problem : String) : Work Unit :=
  emit .err (name ++ ": " ++ problem ++ "\n").toList

/-- Stops with an exit status. -/
def quit {α : Type} (status : Nat) : Work α :=
  throw (.exit status)

/-- Reports a problem and stops. -/
def fail {α : Type} (status : Nat) (name problem : String) : Work α := do
  warn name problem
  quit status

/-- Points to the advice that a utility gives about itself. -/
def advice (name : String) : String :=
  s!"\nTry '{name} --help' for more information."

/-- Reports that a utility is not called as it should be, and stops. -/
def misuse {α : Type} (status : Nat) (name problem : String) : Work α :=
  fail status name (problem ++ advice name)

/-- Takes all that is left of the input. -/
def takeInput : Work (List Char) :=
  modifyGet fun station => (station.input, { station with input := [], needed := none })

/-- The path of an operand from the root of the files. -/
def locate (path : String) : Work String := do
  return unspell (placeOf (← get).directory path)

/-- The content of an operand. -/
def content (path : String) : Work (Except Files.FileError (List Char)) := do
  if path = "-" ∨ path = "/dev/stdin" then
    match (← get).inputFault with
    | some e => return .error e
    | none => return .ok (← takeInput)
  else if path = "/dev/null" then return .ok []
  else if ["/dev/zero", "/dev/full", "/dev/urandom", "/dev/random"].contains path then
    modify fun station => { station with isEndless := true }
    return .ok (endlessText (path.endsWith "random"))
  else return ((← get).files.read (← locate path)).map toOctets

/-- Changes the files, unless the change fails. -/
def change (action : Files.Tree → String → Except Files.FileError Files.Tree) (path : String)
    : Work (Except Files.FileError Unit) := do
  match action (← get).files (← locate path) with
  | .ok files => do
      modify fun station => { station with files }
      return .ok ()
  | .error e => return .error e

/-- What stands at a path, if anything does. -/
def entryAt? (path : String) : Work (Option Files.Entry) := do
  return ((← get).files.stat (← locate path)).toOption

/-- What a path names, be it a link. -/
def namedAt? (path : String) : Work (Option Files.Entry) := do
  return ((← get).files.statName (← locate path)).toOption

/-- Whether a path leads to the file that the output goes to; if so, where that goes on. -/
def outputPlace? (path : String) : Work (Option Nat) := do
  let { files, outputFile, .. } ← get
  match outputFile, files.resolve (← locate path) with
  | some (node, place), .ok route =>
      return if files.places.lookup route = some node then some place else none
  | _, _ => return none

/-- Whether a path leads to a directory. -/
def isDirectory (path : String) : Work Bool := do
  return (← entryAt? path) = some .directory

end Work

/-! ### Names in messages -/

def isPrintable (c : Char) : Bool :=
  ' ' ≤ c && c ≤ '~'

/-- The letters that stand for bytes that cannot be shown. -/
def shownEscapes : List (Char × Char) :=
  [
    ('\x07', 'a'), ('\x08', 'b'), ('\t', 't'), ('\n', 'n'), ('\x0b', 'v'), ('\x0c', 'f'),
    ('\r', 'r')
  ]

/-- A byte as a backslash and its octal digits. -/
def octalEscape (c : Char) : List Char :=
  let digits := Nat.toDigits 8 c.toNat
  '\\' :: (List.replicate (3 - digits.length) '0' ++ digits)

/-- A byte that cannot be shown, by an escape. -/
def shownEscape (c : Char) : List Char :=
  match shownEscapes.lookup c with
  | some letter => ['\\', letter]
  | none => octalEscape c

/-- A text between the marks that single it out in a sentence. -/
def marked (text : String) : String :=
  let inside := text.toList.flatMap fun c =>
    if c = '\\' ∨ c = '\x27' then ['\\', c]
    else if isPrintable c then [c]
    else shownEscape c
  "\x27" ++ String.ofList inside ++ "\x27"

/-- Whether a character may stand at a place of a name without being quoted. -/
def isPlain (isFirst : Bool) (c : Char) : Bool :=
  c.isAlphanum || "%+,-./:@_]\x7b\x7d".toList.contains c || (!isFirst && (c = '#' || c = '~'))

/-- The characters of a name between quotes. The ones that cannot be shown stand in quotes
of their own, with a dollar sign in front.
-/
def quotedChars (isEscaped : Bool) : List Char → List Char
  | [] => []
  | c :: cs =>
      if c = '\x27' then "\x27\\\x27\x27".toList ++ quotedChars false cs
      else if isPrintable c then
        (if isEscaped then ['\x27', '\x27', c] else [c]) ++ quotedChars false cs
      else
        (if isEscaped then [] else ['\x27', '$', '\x27']) ++ shownEscape c
          ++ quotedChars true cs

/-- A name with quotes around it. -/
def quoted (name : String) : String :=
  let cs := name.toList
  let isSimple (c : Char) : Bool := isPrintable c && !("\x22$\x60\\!".toList.contains c)
  if cs.contains '\x27' ∧ cs.all isSimple then "\x22" ++ name ++ "\x22"
  else "\x27" ++ String.ofList (quotedChars false cs) ++ "\x27"

/-- A name with quotes around it where the shell would need them. -/
def quotedAsNeeded (name : String) : String :=
  match name.toList with
  | [] => quoted name
  | first :: rest =>
      let isBrace : Bool := rest = [] && (first = '\x7b' || first = '\x7d')
      if isPlain true first ∧ rest.all (isPlain false) ∧ !isBrace then name else quoted name

end MailMerge.Shell
