import MailMerge.Shell.Station

/-! The switches that utilities are called with: letters behind a dash, several of them
together, and names behind two dashes, which may be cut short.
-/

namespace MailMerge.Shell

/-- Whether a value belongs to a switch. -/
inductive Arity where
  | alone
  | value
  /-- A value only if it stands right behind the switch. -/
  | optional
  deriving DecidableEq, Repr

/-- The switches of a utility. Names stand for letters. -/
structure Switches where
  letters : List (Char × Arity)
  names : List (String × Char)
  /-- Whether switches may stand behind operands. -/
  permutes : Bool

/-- The switches and operands of a call. -/
structure Arguments where
  found : List (Char × String)
  operands : List String
  deriving Repr

namespace Arguments

def has (arguments : Arguments) (letter : Char) : Bool :=
  arguments.found.any (·.1 = letter)

/-- The value that was given last. -/
def value? (arguments : Arguments) (letter : Char) : Option String :=
  (arguments.found.reverse.find? (·.1 = letter)).map Prod.snd

def values (arguments : Arguments) (letter : Char) : List String :=
  arguments.found.filterMap fun (found, value) => if found = letter then some value else none

def prepend (found : List (Char × String)) (arguments : Arguments) : Arguments :=
  { arguments with found := found ++ arguments.found }

end Arguments

namespace Switches

/-- Switches by their letters: those that stand alone and those that take a value. -/
def of (alone valued : String) (names : List (String × Char)) : Switches where
  letters := alone.toList.map (·, .alone) ++ valued.toList.map (·, .value)
  names
  permutes := true

/-- Reads letters behind a dash; the last one may take its value from the words behind. -/
def readLetters (switches : Switches)
    : List Char → List String → Except String (List (Char × String) × List String)
  | [], rest => .ok ([], rest)
  | c :: cs, rest =>
      match switches.letters.lookup c with
      | none => .error s!"invalid option -- '{c}'"
      | some .alone =>
          (switches.readLetters cs rest).map fun (found, rest) => ((c, "") :: found, rest)
      | some .optional => .ok ([(c, String.ofList cs)], rest)
      | some .value =>
          if cs ≠ [] then .ok ([(c, String.ofList cs)], rest)
          else
            match rest with
            | [] => .error s!"option requires an argument -- '{c}'"
            | value :: rest => .ok ([(c, value)], rest)

/-- The name and the letter that a name cut short stands for. -/
def complete? (switches : Switches) (text : String) : Except String (String × Char) :=
  match switches.names.lookup text with
  | some letter => .ok (text, letter)
  | none =>
      match switches.names.filter (·.1.startsWith text) with
      | [found] => .ok found
      | [] => .error s!"unrecognized option '--{text}'"
      | first :: more =>
          if more.all (·.2 = first.2) then .ok first
          else
            let names := (first :: more).map fun found => s!" '--{found.1}'"
            .error (s!"option '--{text}' is ambiguous; possibilities:" ++ String.join names)

/-- Reads a name behind two dashes, with its value behind an equality sign if one is
there.
-/
def readName (switches : Switches) (text : List Char) (rest : List String)
    : Except String (List (Char × String) × List String) := do
  let name := String.ofList (text.takeWhile (· ≠ '='))
  let value? := (text.dropWhile (· ≠ '=')).tail?.map String.ofList
  let (name, letter) ← switches.complete? name
  match (switches.letters.lookup letter).getD .alone, value?, rest with
  | .alone, none, _ => return ([(letter, "")], rest)
  | .alone, some _, _ => throw s!"option '--{name}' doesn't allow an argument"
  | .optional, value?, _ => return ([(letter, value?.getD "")], rest)
  | .value, some value, _ => return ([(letter, value)], rest)
  | .value, none, value :: rest => return ([(letter, value)], rest)
  | .value, none, [] => throw s!"option '--{name}' requires an argument"

/-- Reads words; the number bounds how many there are. -/
def readWords (switches : Switches) : Nat → List String → Except String Arguments
  | 0, words => .ok { found := [], operands := words }
  | _ + 1, [] => .ok { found := [], operands := [] }
  | fuel + 1, word :: words =>
      match word.toList with
      | ['-', '-'] => .ok { found := [], operands := words }
      | '-' :: '-' :: text => do
          let (found, rest) ← switches.readName text words
          return (← switches.readWords fuel rest).prepend found
      | '-' :: c :: cs => do
          let (found, rest) ← switches.readLetters (c :: cs) words
          return (← switches.readWords fuel rest).prepend found
      | _ =>
          if switches.permutes then do
            let arguments ← switches.readWords fuel words
            return { arguments with operands := word :: arguments.operands }
          else .ok { found := [], operands := word :: words }

/-- Reads the words of a call, or says what is wrong with them. -/
def read (switches : Switches) (words : List String) : Except String Arguments :=
  switches.readWords words.length words

end Switches

namespace Work

/-- Reads the words of a call, or refuses them. -/
def arguments (switches : Switches) (status : Nat) (name : String) (words : List String)
    : Work Arguments :=
  match switches.read words with
  | .ok arguments => return arguments
  | .error problem => misuse status name problem

/-- The value that a word names among some, where it may be cut short. -/
def choose {α : Type} (status : Nat) (name option : String) (choices : List (String × α))
    (word : String) : Work α := do
  match choices.lookup word, choices.filter (·.1.startsWith word) with
  | some value, _ => return value
  | none, [(_, value)] => return value
  | none, found => do
      let kind := if found.isEmpty then "invalid" else "ambiguous"
      let list := String.join (choices.map fun choice => s!"\n  - '{choice.1}'")
      misuse status name
        (s!"{kind} argument {marked word} for {marked option}\nValid arguments are:" ++ list)

end Work

/-! ### Numbers -/

/-- The units that a number may be followed by. -/
def units : List (String × Nat) :=
  [
    ("", 1), ("b", 512), ("k", 1024), ("K", 1024), ("kB", 1000), ("KB", 1000),
    ("KiB", 1024), ("m", 1048576), ("M", 1048576), ("MB", 1000000), ("MiB", 1048576),
    ("G", 1073741824), ("GB", 1000000000), ("GiB", 1073741824)
  ]

/-- The number that a run of digits spells. -/
def natOf? (text : String) : Option Nat :=
  if text ≠ "" ∧ text.toList.all Char.isDigit then
    some (text.toList.foldl (fun value c => value * 10 + (c.toNat - '0'.toNat)) 0)
  else none

/-- A number of things, with a unit. -/
def countOf? (text : String) : Option Nat := do
  let digits := String.ofList (text.toList.takeWhile Char.isDigit)
  let unit := String.ofList (text.toList.dropWhile Char.isDigit)
  return (← natOf? digits) * (← units.lookup unit)

end MailMerge.Shell
