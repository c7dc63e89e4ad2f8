import MailMerge.Files.Change
import MailMerge.Shell.Octets

/-! Conditions that are given word by word: on texts, on whole numbers, and on files. -/

namespace MailMerge.Shell.Condition

/-- What a word means as an operator. -/
inductive Operator where
  | unary (name : String)
  | binary (name : String)
  | negation
  | both
  | either
  | opening
  | closing
  deriving DecidableEq, Repr

def unaryNames : List String :=
  [
    "-b", "-c", "-d", "-e", "-f", "-g", "-G", "-h", "-k", "-L", "-n", "-O", "-p", "-r", "-s",
    "-S", "-t", "-u", "-w", "-x", "-z"
  ]

def binaryNames : List String :=
  ["=", "!=", "<", ">", "-eq", "-ne", "-ge", "-gt", "-le", "-lt", "-nt", "-ot", "-ef"]

def operator? (word : String) : Option Operator :=
  if unaryNames.contains word then some (.unary word)
  else if binaryNames.contains word then some (.binary word)
  else
    match word with
    | "!" => some .negation
    | "-a" => some .both
    | "-o" => some .either
    | "(" => some .opening
    | ")" => some .closing
    | _ => none

def isBinary (word : String) : Bool :=
  binaryNames.contains word

/-- How files are looked at. -/
structure View where
  files : Files.Tree
  /-- The path from the root of the files that a path stands for. -/
  locate : String → String

namespace View

def entryAt? (view : View) (path : String) : Option Files.Entry :=
  (view.files.stat (view.locate path)).toOption

/-- What a path names, be it a link. -/
def namedAt? (view : View) (path : String) : Option Files.Entry :=
  (view.files.statName (view.locate path)).toOption

def routeOf? (view : View) (path : String) : Option Files.Route := do
  let route ← (view.files.resolve (view.locate path)).toOption
  let _ ← view.files.find? route
  return route

def nodeAt? (view : View) (path : String) : Option Files.Inode :=
  (view.routeOf? path).bind view.files.nodeAt?

/-- Whether the permissions of what stands at a path have one of some bits. -/
def hasMode (view : View) (bits : Nat) (path : String) : Bool :=
  (view.nodeAt? path).any fun node => node.mode &&& bits ≠ 0

/-- Whether what stands at a path can be run or entered. -/
def isExecutable (view : View) (path : String) : Bool :=
  view.entryAt? path = some .directory || view.hasMode 0o111 path

/-- Whether one file was changed after another one. -/
def isNewer (view : View) (left right : String) : Bool :=
  match view.nodeAt? left, view.nodeAt? right with
  | some x, some y => y.time < x.time
  | _, _ => false

/-- Whether two paths lead to one file. -/
def isSame (view : View) (left right : String) : Bool :=
  match view.routeOf? left, view.routeOf? right with
  | some x, some y =>
      x = y || ((view.files.places.lookup x).isSome
        && view.files.places.lookup x = view.files.places.lookup y)
  | _, _ => false

end View

/-- The words from the one in view on, and a message if something is wrong. -/
abbrev Reader := StateT (List String) (Except String)

def fail {α : Type} (problem : String) : Reader α :=
  throw problem

/-- What the first of some words means: an operator, an operand, or nothing. -/
def meaning (words : List String) : Option (Option Operator) :=
  match words with
  | [] => none
  | word :: rest =>
      match operator? word with
      | some (.unary name) =>
          let isOperand :=
            match rest with
            | [] => true
            | [_] => false
            | next :: _ => isBinary next
          some (if isOperand then none else some (.unary name))
      | some .opening => some (if rest.isEmpty then none else some .opening)
      | found => some found

/-- The whole number that a word is. -/
def integerOf (word : String) : Reader Int := do
  let cs := word.toList.dropWhile isSpace
  let (isNegative, body) :=
    match cs with
    | '-' :: cs => (true, cs)
    | '+' :: cs => (false, cs)
    | cs => (false, cs)
  let digits := body.takeWhile Char.isDigit
  let size := digits.foldl (fun value c => value * 10 + (c.toNat - '0'.toNat)) 0
  let value : Int := if isNegative then -(size : Int) else size
  if digits.isEmpty ∨ !(body.drop digits.length).all isSpace
      ∨ value < -0x8000000000000000 ∨ 0x7FFFFFFFFFFFFFFF < value then
    fail s!"Illegal number: {word}"
  return value

def compareWords (view : View) (sign left right : String) : Reader Bool := do
  match sign with
  | "=" => return left = right
  | "!=" => return left ≠ right
  | "<" => return left < right
  | ">" => return right < left
  | "-eq" => return (← integerOf left) = (← integerOf right)
  | "-ne" => return (← integerOf left) ≠ (← integerOf right)
  | "-ge" => return (← integerOf right) ≤ (← integerOf left)
  | "-gt" => return (← integerOf right) < (← integerOf left)
  | "-le" => return (← integerOf left) ≤ (← integerOf right)
  | "-lt" => return (← integerOf left) < (← integerOf right)
  | "-ef" => return view.isSame left right
  | "-nt" => return view.isNewer left right
  | "-ot" => return view.isNewer right left
  | _ => return false

/-- Paths of devices. -/
def devices : List String :=
  [
    "/dev/null", "/dev/zero", "/dev/full", "/dev/random", "/dev/urandom", "/dev/tty",
    "/dev/stdin", "/dev/stdout", "/dev/stderr"
  ]

/-- Files that any system has. -/
def systemFiles : List String :=
  [
    "/etc/passwd", "/etc/group", "/etc/hosts", "/etc/hostname", "/bin/sh", "/usr/bin/sh",
    "/bin/cat", "/usr/bin/cat", "/bin/ls", "/usr/bin/ls", "/bin/echo", "/usr/bin/env"
  ]

def testWord (view : View) (sign word : String) : Reader Bool := do
  let isDevice := devices.contains word
  let isSystem := systemFiles.contains word
  match sign with
  | "-n" => return word ≠ ""
  | "-z" => return word = ""
  | "-t" => do
      let _ ← integerOf word
      return false
  | "-d" => return view.entryAt? word = some .directory
  | "-f" => return ((view.entryAt? word) matches some (.file _)) || isSystem
  | "-s" =>
      return match view.entryAt? word with
        | some (.file bytes) => bytes ≠ []
        | some _ => true
        | none => isSystem
  | "-x" => return view.isExecutable word || (isSystem && !word.startsWith "/etc/")
  | "-u" => return view.hasMode 0o4000 word
  | "-g" => return view.hasMode 0o2000 word
  | "-k" => return view.hasMode 0o1000 word
  | "-h" | "-L" => return ((view.namedAt? word) matches some (.link _))
  | "-e" | "-r" | "-w" | "-O" | "-G" => return (view.entryAt? word).isSome || isDevice || isSystem
  | "-c" => return isDevice && !word.startsWith "/dev/std"
  | "-p" => return word.startsWith "/dev/std"
  | _ => return false

/-- The meaning of the words behind so many. -/
def behind (count : Nat) : Reader (Option (Option Operator)) := do
  return meaning ((← get).drop count)

def advance (count : Nat) : Reader Unit :=
  modify (·.drop count)

def word : Reader String := do
  return (← get).headD ""

mutual
def disjunction (view : View) (token : Option (Option Operator)) : Nat → Reader Bool
  | 0 => fail "too many arguments"
  | fuel + 1 => do
      let first ← conjunction view token fuel
      if (← behind 1) = some (some .either) then
        advance 2
        let rest ← disjunction view (← behind 0) fuel
        return first || rest
      else return first
termination_by structural fuel => fuel

def conjunction (view : View) (token : Option (Option Operator)) : Nat → Reader Bool
  | 0 => fail "too many arguments"
  | fuel + 1 => do
      let first ← negation view token fuel
      if (← behind 1) = some (some .both) then
        advance 2
        let rest ← conjunction view (← behind 0) fuel
        return first && rest
      else return first
termination_by structural fuel => fuel

def negation (view : View) (token : Option (Option Operator)) : Nat → Reader Bool
  | 0 => fail "too many arguments"
  | fuel + 1 => do
      if token = some (some .negation) then
        let next ← behind 1
        if next.isSome then advance 1
        return !(← negation view next fuel)
      else primary view token fuel
termination_by structural fuel => fuel

def primary (view : View) (token : Option (Option Operator)) : Nat → Reader Bool
  | 0 => fail "too many arguments"
  | fuel + 1 => do
      match token with
      | none => return false
      | some (some .opening) => do
          advance 1
          let next ← behind 0
          if next = some (some .closing) then return false
          let value ← disjunction view next fuel
          advance 1
          if (← behind 0) ≠ some (some .closing) then fail "closing paren expected"
          return value
      | some (some (.unary sign)) => do
          advance 1
          match ← get with
          | [] => fail s!"{sign}: argument expected"
          | operand :: _ => testWord view sign operand
      | _ => do
          match ← behind 1 with
          | some (some (.binary sign)) => do
              let left ← word
              advance 2
              match ← get with
              | [] => fail s!"{sign}: argument expected"
              | right :: _ => compareWords view sign left right
          | _ => return (← word) ≠ ""
termination_by structural fuel => fuel
end

/-- Evaluates words from the first one on; words that are left are wrong. -/
def evaluateFrom (view : View) (words : List String) (token : Option (Option Operator))
    : Except String Bool := do
  let (value, rest) ← (disjunction view token (8 * words.length + 16)).run words
  match rest with
  | word :: _ :: _ => throw s!"{word}: unexpected operator"
  | _ => return value

/-- The truth of a condition that may be turned into its contrary. -/
def holdsWith (view : View) (isNegated : Bool) : List String → Except String Bool
  | [] => .ok isNegated
  | first :: rest =>
      let words := first :: rest
      let isShort := words.length = 3 || words.length = 4
      if words.length = 3 ∧ isBinary (rest.headD "") then
        (evaluateFrom view words (some none)).map (· != isNegated)
      else if isShort ∧ first = "(" ∧ words.getLast? = some ")" then
        (evaluateFrom view rest.dropLast (meaning rest.dropLast)).map (· != isNegated)
      else if isShort ∧ first = "!" then holdsWith view true rest
      else (evaluateFrom view words (meaning words)).map (· != isNegated)

/-- The truth of a condition, or what is wrong with it. -/
def holds (view : View) (words : List String) : Except String Bool :=
  holdsWith view false words

end MailMerge.Shell.Condition
