import MailMerge.Files.Permission
import MailMerge.Shell.Calendar.Reading
import MailMerge.Shell.Expression
import MailMerge.Shell.Switches

/-! What is asked of entries while directories are gone through, and how it is read from
words.
-/

namespace MailMerge.Shell.Find

/-- How a number is compared with one that is given. -/
inductive Sense where
  | more
  | less
  | exactly
  deriving DecidableEq, Repr

def Sense.holds (sense : Sense) (given found : Int) : Bool :=
  match sense with
  | more => given < found
  | less => found < given
  | exactly => found = given

/-- How permissions are compared with some that are given. -/
inductive Share where
  | all
  | any
  | exact
  deriving DecidableEq, Repr

/-- Which text of an entry is looked at. -/
inductive Subject where
  | name
  | path
  | target
  deriving DecidableEq, Repr

/-- A command that is run on entries. -/
structure Task where
  number : Nat
  words : List String
  /-- Whether it is run once on many entries. -/
  isJoint : Bool
  /-- Whether it is run in the directory of the entry. -/
  isLocal : Bool
  asks : Bool
  deriving DecidableEq, Repr

inductive Test where
  | both (first second : Test)
  | either (first second : Test)
  | sequence (first second : Test)
  | negated (test : Test)
  | constant (value : Bool)
  | fits (subject : Subject) (ignoresCase : Bool) (pattern : String)
  | matching (expression : Expression)
  | kind (follows : Bool) (letters : List Char)
  | size (sense : Sense) (count unit : Nat)
  | empty
  | newer (time : Int)
  | age (sense : Sense) (count : Nat) (unit : Int)
  | mode (share : Share) (bits : Nat)
  | names (sense : Sense) (count : Nat)
  | number (sense : Sense) (count : Nat)
  | runs
  | same (path : String)
  | tell (ending : Char)
  | format (text : List Char)
  | details
  | write (path : String) (ending : Char)
  | task (task : Task)
  | delete
  | prune
  | quit
  deriving Repr

/-- How directories are gone through. -/
structure Manner where
  least : Nat
  most : Option Nat
  /-- Whether what stands in a directory comes before it. -/
  isUpwards : Bool
  followsLinks : Bool
  deriving Repr

/-- What has been read of the words. -/
structure Progress where
  rest : List String
  manner : Manner
  tasks : Nat
  /-- Whether something is done with entries, so that they need not be shown. -/
  acts : Bool
  /-- The kind of regular expressions. -/
  regexKind : String
  warnings : List String

/-- What is known of the files while words are read. -/
structure Setting where
  timeOf : String → Option Int
  now : Int
  mask : Nat

abbrev Reader := ReaderT Setting (StateT Progress (Except String))

def fail {α : Type} (problem : String) : Reader α :=
  throw problem

def next? : Reader (Option String) :=
  return (← get).rest.head?

def advance : Reader Unit :=
  modify fun progress => { progress with rest := progress.rest.tail }

/-- A name between the marks that messages put around it. -/
def named (name : String) : String :=
  "\x60" ++ name ++ "\x27"

/-- Takes the word that belongs to a test. -/
def operand (name : String) : Reader String := do
  match ← next? with
  | some word => do
      advance
      return word
  | none => fail ("missing argument to " ++ named name)

/-- Notes that something is done with entries. -/
def acting (test : Test) : Reader Test := do
  modify fun progress => { progress with acts := true }
  return test

/-! ### Numbers -/

/-- A number with a sign in front that tells how it is compared, and what stands behind. -/
def sensed? (text : String) : Option (Sense × Nat × String) :=
  let (sense, cs) :=
    match text.toList with
    | '+' :: cs => (Sense.more, cs)
    | '-' :: cs => (Sense.less, cs)
    | cs => (Sense.exactly, cs)
  let digits := cs.takeWhile Char.isDigit
  (natOf? (String.ofList digits)).map fun number =>
    (sense, number, String.ofList (cs.drop digits.length))

/-- Takes the number that belongs to a test. -/
def numbered (name : String) : Reader (Sense × Nat) := do
  let text ← operand name
  match sensed? text with
  | some (sense, number, "") => return (sense, number)
  | _ => fail s!"invalid argument {named text} to {named name}"

def unitOf? (unit : String) : Option Nat :=
  match unit with
  | "" | "b" => some 512
  | "c" => some 1
  | "w" => some 2
  | "k" => some 1024
  | "M" => some 0x100000
  | "G" => some 0x40000000
  | _ => none

/-- Takes a limit of levels. -/
def level (name : String) : Reader Nat := do
  let text ← operand name
  match natOf? text with
  | some number => return number
  | none =>
      fail s!"Expected a positive decimal integer argument to {name}, but got {marked text}"

/-! ### Regular expressions -/

/-- An expression in which plus signs, question marks and stars repeat, and backslashes make
groups and alternatives, with these the other way round.
-/
def turned : List Char → List Char
  | '\\' :: c :: cs =>
      if "()|".toList.contains c then c :: turned cs else '\\' :: c :: turned cs
  | c :: cs =>
      if "()|\x7b\x7d".toList.contains c then '\\' :: c :: turned cs else c :: turned cs
  | [] => []

/-- Reads an expression that has to match a whole path. -/
def wholeMatch (ignoresCase : Bool) (text : String) : Reader Test := do
  let kind := (← get).regexKind
  let isExtended := kind.startsWith "posix-e" || kind = "egrep" || kind = "awk" || kind = "gnu-awk"
    || kind = "posix-awk" || kind = "posix-minimal-extended"
  let isEmacs := kind = "emacs" || kind = "findutils-default"
  let dialect : Expression.Dialect :=
    { isExtended := isExtended || isEmacs, ignoresCase, isLenient := true, isMultiline := false }
  let cs := if isEmacs then turned text.toList else text.toList
  match Expression.read? dialect cs with
  | .error problem => fail problem
  | .ok expression =>
      let node := Node.both (.edge .start) (.both expression.node (.edge .finish))
      return .matching { expression with node }

/-! ### Tests -/

/-- Takes the words of a command up to its end. -/
def command (name : String) (isLocal asks : Bool) : Reader Test := do
  let words := (← get).rest
  let isEnd (i : Nat) : Bool :=
    words[i]? = some ";" || (words[i]? = some "+" && 0 < i && words[i - 1]? = some "\x7b\x7d"
      && !asks)
  match (List.range words.length).find? isEnd with
  | none => fail ("missing argument to " ++ named name)
  | some size => do
      let isJoint : Bool := words[size]? = some "+"
      let taken := words.take size
      if taken.isEmpty then fail ("missing argument to " ++ named name)
      if isJoint ∧ 1 < (taken.filter (· = "\x7b\x7d")).length then
        fail s!"Only one instance of \x7b\x7d is supported with {name} ... +"
      let number := (← get).tasks
      modify fun progress =>
        { progress with rest := words.drop (size + 1), tasks := number + 1, acts := true }
      return .task
        {
          number, isJoint, isLocal, asks
          words := if isJoint then taken.dropLast else taken
        }

/-- A test on the time of the last change, which was so many days or minutes back. -/
def aged (name : String) (unit : Int) : Reader Test := do
  let (sense, count) ← numbered name
  return .age sense count unit

/-- Takes the path of a file and tells when that was changed. -/
def timeOfOperand (name : String) : Reader Int := do
  let path ← operand name
  match (← read).timeOf path with
  | some time => return time
  | none => fail s!"{marked path}: {Files.FileError.reason .notFound}"

/-- Takes permissions, and how they are compared. -/
def permissions : Reader Test := do
  let text ← operand "-perm"
  let (share, rest) :=
    match text.toList with
    | '-' :: cs => (Share.all, String.ofList cs)
    | '/' :: cs => (Share.any, String.ofList cs)
    | _ => (Share.exact, text)
  match Files.Permission.read? rest with
  | some setting => return .mode share (setting.apply false 0 0)
  | none => fail ("invalid mode " ++ marked text)

/-- Changes how directories are gone through. -/
def setManner (change : Manner → Manner) : Reader Test := do
  modify fun progress => { progress with manner := change progress.manner }
  return .constant true

/-- Reads the test that a word stands for. -/
def testNamed (name : String) : Reader Test := do
  match name with
  | "-name" => return .fits .name false (← operand name)
  | "-iname" => return .fits .name true (← operand name)
  | "-path" | "-wholename" => return .fits .path false (← operand name)
  | "-ipath" | "-iwholename" => return .fits .path true (← operand name)
  | "-lname" => return .fits .target false (← operand name)
  | "-ilname" => return .fits .target true (← operand name)
  | "-regex" => wholeMatch false (← operand name)
  | "-iregex" => wholeMatch true (← operand name)
  | "-regextype" => do
      let kind ← operand name
      modify fun progress => { progress with regexKind := kind }
      return .constant true
  | "-type" | "-xtype" => do
      let text ← operand name
      let letters := ((text.splitOn ",").map String.toList).flatten
      if letters.isEmpty then fail s!"Arguments to {name} should contain at least one letter"
      match letters.find? fun c => !("bcdpflsD".toList.contains c) with
      | some letter => fail s!"Unknown argument to {name}: {letter}"
      | none => return .kind (name = "-xtype") letters
  | "-size" => do
      let text ← operand name
      match sensed? text with
      | some (sense, count, unit) =>
          match unitOf? unit with
          | some size => return .size sense count size
          | none => fail s!"invalid {name} type {named unit}"
      | none =>
          let cs := text.toList.dropWhile fun c => c = '+' || c = '-'
          match cs with
          | [c] =>
              if (unitOf? c.toString).isSome then fail s!"Invalid argument {named text} to {name}"
              else fail s!"invalid {name} type {named c.toString}"
          | _ => fail s!"Invalid argument {named text} to {name}"
  | "-empty" => return .empty
  | "-newer" | "-anewer" | "-cnewer" | "-newermm" => return .newer (← timeOfOperand name)
  | "-newermt" | "-newerat" | "-newerct" => do
      let text ← operand name
      match Calendar.read? (← read).now text with
      | some time => return .newer time
      | none => fail s!"I cannot figure out how to interpret {marked text} as a date or time"
  | "-mtime" | "-atime" | "-ctime" => aged name Calendar.daySeconds
  | "-mmin" | "-amin" | "-cmin" => aged name 60
  | "-perm" => permissions
  | "-links" => do
      let (sense, count) ← numbered name
      return .names sense count
  | "-inum" => do
      let (sense, count) ← numbered name
      return .number sense count
  | "-user" | "-group" => do
      let who ← operand name
      let what := (name.drop 1).toString
      if (natOf? who).isSome then return .constant (natOf? who = some 0)
      else if ["root"].contains who then return .constant true
      else fail s!"{marked who} is not the name of a known {what}"
  | "-uid" | "-gid" => do
      let (sense, count) ← numbered name
      return .constant (sense.holds count 0)
  | "-nouser" | "-nogroup" | "-false" => return .constant false
  | "-true" | "-readable" | "-writable" => return .constant true
  | "-noleaf" | "-mount" | "-xdev" | "-warn" | "-nowarn" | "-ignore_readdir_race" =>
      return .constant true
  | "-daystart" => return .constant true
  | "-executable" => return .runs
  | "-samefile" => do
      let path ← operand name
      if ((← read).timeOf path).isNone then
        fail s!"{marked path}: {Files.FileError.reason .notFound}"
      return .same path
  | "-maxdepth" => do
      let most ← level name
      setManner fun manner => { manner with most := some most }
  | "-mindepth" => do
      let least ← level name
      setManner fun manner => { manner with least }
  | "-depth" | "-d" => setManner fun manner => { manner with isUpwards := true }
  | "-follow" => setManner fun manner => { manner with followsLinks := true }
  | "-print" => acting (.tell newline)
  | "-print0" => acting (.tell '\x00')
  | "-printf" => do acting (.format (← operand name).toList)
  | "-fprint" => do acting (.write (← operand name) newline)
  | "-fprint0" => do acting (.write (← operand name) '\x00')
  | "-ls" => acting .details
  | "-delete" => do
      let _ ← setManner fun manner => { manner with isUpwards := true }
      acting .delete
  | "-exec" => command name false false
  | "-execdir" => command name true false
  | "-ok" => command name false true
  | "-okdir" => command name true true
  | "-prune" => return .prune
  | "-quit" => acting .quit
  | _ => fail ("unknown predicate " ++ named name)

/-! ### Expressions -/

/-- Whether a word ends the operand in front of it. -/
def isBehind (word : String) : Bool :=
  ["-o", "-or", ",", ")"].contains word

mutual
/-- Reads tests with commas between them. -/
def sequences : Nat → Reader Test
  | 0 => fail "invalid expression"
  | fuel + 1 => do
      let first ← disjunctions fuel
      match ← next? with
      | some "," => do
          advance
          if (← next?).isNone then fail ("expected an expression after " ++ marked ",")
          return .sequence first (← sequences fuel)
      | _ => return first
termination_by structural fuel => fuel

def disjunctions : Nat → Reader Test
  | 0 => fail "invalid expression"
  | fuel + 1 => do
      let first ← conjunctions fuel
      match ← next? with
      | some word =>
          if word = "-o" ∨ word = "-or" then
            advance
            if (← next?).isNone then fail ("expected an expression after " ++ marked word)
            return .either first (← disjunctions fuel)
          else return first
      | none => return first
termination_by structural fuel => fuel

def conjunctions : Nat → Reader Test
  | 0 => fail "invalid expression"
  | fuel + 1 => do
      let first ← operands fuel
      match ← next? with
      | none => return first
      | some word =>
          if isBehind word then return first
          else
            if word = "-a" ∨ word = "-and" then
              advance
              if (← next?).isNone then fail ("expected an expression after " ++ marked word)
            return .both first (← conjunctions fuel)
termination_by structural fuel => fuel

def operands : Nat → Reader Test
  | 0 => fail "invalid expression"
  | fuel + 1 => do
      match ← next? with
      | none => return .constant true
      | some word => do
          advance
          match word with
          | "!" | "-not" => do
              if (← next?).isNone then fail ("expected an expression after " ++ marked word)
              return .negated (← operands fuel)
          | "(" => do
              if (← next?) = some ")" then
                fail "invalid expression; empty parentheses are not allowed."
              let inside ← if (← next?).isNone then pure (.constant true) else sequences fuel
              if (← next?) ≠ some ")" then
                fail
                  ("invalid expression; I was expecting to find a ')' somewhere "
                    ++ "but did not see one.")
              advance
              return inside
          | _ =>
              if isBehind word ∨ word = "-a" ∨ word = "-and" then
                if word = ")" then
                  fail "invalid expression; you have too many ')'"
                fail
                  ("invalid expression; you have used a binary operator "
                    ++ marked word ++ " with nothing before it.")
              else if word.startsWith "-" ∧ word ≠ "-" then testNamed word
              else
                fail
                  ("paths must precede expression: " ++ named word)
termination_by structural fuel => fuel
end

/-- Whether a word starts the tests. -/
def startsTests (word : String) : Bool :=
  (word.startsWith "-" && word ≠ "-") || ["(", ")", "!", ","].contains word

/-- What is to be done: the places to start at, how to go on, and the test of each entry. -/
structure Query where
  paths : List String
  manner : Manner
  test : Test

/-- Reads the words of a call. -/
def Query.read (setting : Setting) (words : List String) : Except String Query := do
  let switches := words.takeWhile fun word => ["-H", "-L", "-P"].contains word
  let words := words.drop switches.length
  let words := if words.head? = some "--" then words.tail else words
  let paths := words.takeWhile (!startsTests ·)
  let rest := words.drop paths.length
  let manner : Manner :=
    {
      least := 0
      most := none
      isUpwards := false
      followsLinks := switches.getLast? = some "-L"
    }
  let progress : Progress :=
    { rest, manner, tasks := 0, acts := false, regexKind := "emacs", warnings := [] }
  let action : Reader Test := do
    if rest.isEmpty then return .constant true
    let test ← sequences (4 * rest.length + 8)
    match ← next? with
    | none => return test
    | some ")" => fail "you have too many ')'"
    | some word => fail ("paths must precede expression: " ++ named word)
  let (test, after) ← (action.run setting).run progress
  let test := if after.acts then test else .both test (.tell newline)
  return { paths := if paths.isEmpty then ["."] else paths, manner := after.manner, test }

end MailMerge.Shell.Find
