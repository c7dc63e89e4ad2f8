import MailMerge.Shell.Expression
import MailMerge.Shell.Utility.Exchange

/-! Scripts that edit lines: commands, each for the lines that its addresses pick out, and
how they are read from a text.
-/

namespace MailMerge.Shell.Edit

/-- What picks out a line. -/
inductive Address where
  | line (number : Nat)
  | last
  /-- Every so many lines from a line on. -/
  | steps (first step : Nat)
  /-- Lines that match; without an expression, the one that was used last. -/
  | pattern (expression : Option Expression)

/-- Where a range of lines ends. -/
inductive Finish where
  | address (address : Address)
  | lines (count : Nat)
  | multiple (number : Nat)

/-- The lines that a command is for. -/
structure Lines where
  first : Option Address
  last : Option Finish
  isNegated : Bool

/-- How the letters of what is put in are written. -/
inductive Casing where
  | lower
  | upper
  | asIs
  | nextLower
  | nextUpper
  deriving DecidableEq

/-- A piece of what is put in for a match. -/
inductive Insert where
  | text (text : List Char)
  | group (number : Nat)
  | casing (casing : Casing)

structure Substitution where
  expression : Option Expression
  inserts : List Insert
  isGlobal : Bool
  /-- The first of the matches of a line that is replaced. -/
  number : Nat
  prints : Bool
  target : Option String

inductive Action where
  | openBlock
  | closeBlock
  | label (name : String)
  | branch (name : String)
  | branchIfChanged (name : String)
  | branchUnlessChanged (name : String)
  | append (text : List Char)
  | insert (text : List Char)
  | change (text : List Char)
  | delete
  | deleteFirst
  | print
  | printFirst
  | printNumber
  | printName
  | list (width : Option Nat)
  | get
  | getMore
  | hold
  | holdMore
  | exchange
  | next
  | nextMore
  | zap
  | quit (status : Nat)
  | quitSilently (status : Nat)
  | readFile (path : String)
  | readLine (path : String)
  | writeFile (path : String)
  | writeFirst (path : String)
  | substitute (substitution : Substitution)
  | translate (table : List (Char × Char))

structure Instruction where
  lines : Lines
  action : Action

/-! ### Reading -/

/-- What is wrong with a script, and how many of its characters had been read; none if
that does not matter.
-/
structure Fault where
  place : Option Nat
  problem : String
  /-- Whether the place is told. -/
  hasPlace : Bool

structure Cursor where
  rest : List Char
  taken : Nat
  openBlocks : Nat
  isExtended : Bool
  isQuiet : Bool

abbrev Reader := StateT Cursor (Except Fault)

def fail {α : Type} (problem : String) : Reader α := do
  throw { place := some (← get).taken, problem, hasPlace := true }

/-- Takes a character; none at the end. -/
def take : Reader (Option Char) :=
  modifyGet fun cursor =>
    match cursor.rest with
    | c :: rest => (some c, { cursor with rest, taken := cursor.taken + 1 })
    | [] => (none, cursor)

def peek : Reader (Option Char) :=
  return (← get).rest.head?

/-- Takes characters as long as a test holds. -/
def takeWhile (test : Char → Bool) : Reader (List Char) :=
  modifyGet fun cursor =>
    let run := cursor.rest.takeWhile test
    (run, { cursor with rest := cursor.rest.drop run.length, taken := cursor.taken + run.length })

def isBlank (c : Char) : Bool :=
  isSpace c && c ≠ '\n'

/-- Takes blanks and the character behind them. -/
def takeNonblank : Reader (Option Char) := do
  let _ ← takeWhile isBlank
  take

/-- Gives back the character that was taken last. -/
def giveBack (c : Option Char) : Reader Unit :=
  match c with
  | some c =>
      modify fun cursor => { cursor with rest := c :: cursor.rest, taken := cursor.taken - 1 }
  | none => pure ()

def number (first : Char) : Reader Nat := do
  return ((first :: (← takeWhile Char.isDigit)).foldl
    (fun value c => value * 10 + (c.toNat - '0'.toNat)) 0)

/-- Takes the text up to a mark that no backslash stands in front of, none if the line ends
before. A backslash in front of the mark is taken off.
-/
def upTo (mark : Char) (isPattern : Bool) : Nat → List Char → Reader (Option (List Char))
  | 0, _ => return none
  | fuel + 1, found => do
      match ← take with
      | none => return none
      | some '\n' => do
          giveBack (some '\n')
          return none
      | some '\\' => do
          if mark = '\\' then return some found.reverse
          match ← take with
          | none => return none
          | some c =>
              if c = 'n' ∧ isPattern then upTo mark isPattern fuel ('\n' :: found)
              else if c = '\n' then
                upTo mark isPattern fuel (if isPattern then '\n' :: found else '\n' :: '\\' :: found)
              else if c = mark ∧ !(!isPattern ∧ c = '&') then upTo mark isPattern fuel (c :: found)
              else upTo mark isPattern fuel (c :: '\\' :: found)
      | some c =>
          if c = mark then return some found.reverse else upTo mark isPattern fuel (c :: found)

def delimited (mark : Char) (isPattern : Bool) : Reader (Option (List Char)) := do
  upTo mark isPattern ((← get).rest.length + 1) []

/-- The value of a hexadecimal digit. -/
def hexValue (c : Char) : Nat :=
  if c.isDigit then c.toNat - '0'.toNat else (c.toLower.toNat - 'a'.toNat) + 10

def isHex (c : Char) : Bool :=
  c.isDigit || ('a' ≤ c.toLower && c.toLower ≤ 'f')

/-- The character of an escape that names it, and the text behind. -/
def namedChar? : List Char → Option (Char × List Char)
  | 'a' :: cs => some ('\x07', cs)
  | 'f' :: cs => some ('\x0c', cs)
  | 'n' :: cs => some ('\n', cs)
  | 'r' :: cs => some ('\r', cs)
  | 't' :: cs => some ('\t', cs)
  | 'v' :: cs => some ('\x0b', cs)
  | 'x' :: cs =>
      let digits := (cs.take 2).takeWhile isHex
      if digits.isEmpty then none
      else
        some (Char.ofNat (digits.foldl (fun value c => value * 16 + hexValue c) 0),
          cs.drop digits.length)
  | 'o' :: cs =>
      let digits := (cs.take 3).takeWhile Utility.isOctal
      if digits.isEmpty then none
      else some (Char.ofNat (Utility.octalValue digits % 256), cs.drop digits.length)
  | 'd' :: cs =>
      let digits := (cs.take 3).takeWhile Char.isDigit
      if digits.length < 3 then none
      else
        some (Char.ofNat (digits.foldl (fun value c => value * 10 + (c.toNat - '0'.toNat)) 0 % 256),
          cs.drop digits.length)
  | _ => none

/-- Writes the characters that escapes name into a pattern. -/
def patternChars : Nat → List Char → List Char
  | 0, cs => cs
  | _ + 1, [] => []
  | fuel + 1, '\\' :: cs =>
      match if cs.head? = some 'n' then none else namedChar? cs with
      | some (c, rest) =>
          if "*.[]^$/+?(){}|\\".toList.contains c then '\\' :: c :: patternChars fuel rest
          else c :: patternChars fuel rest
      | none =>
          match cs with
          | c :: rest => '\\' :: c :: patternChars fuel rest
          | [] => ['\\']
  | fuel + 1, c :: cs => c :: patternChars fuel cs

/-- Reads an expression; an empty one stands for the one that was used last. -/
def readExpression (text : List Char) (ignoresCase isMultiline : Bool)
    : Reader (Option Expression) := do
  if text.isEmpty then return none
  let dialect : Expression.Dialect :=
    { isExtended := (← get).isExtended, ignoresCase, isLenient := false, isMultiline }
  match Expression.read? dialect ((patternChars (text.length + 1) text)) with
  | .ok expression => return some expression
  | .error problem =>
      if problem = Expression.classAdvice then
        throw { place := none, problem, hasPlace := false }
      else fail problem

/-- Reads the letters behind an expression: whether case is ignored, and lines count. -/
def addressLetters : Nat → Bool → Bool → Reader (Bool × Bool)
  | 0, ignoresCase, isMultiline => return (ignoresCase, isMultiline)
  | fuel + 1, ignoresCase, isMultiline => do
      match ← takeNonblank with
      | some 'I' => addressLetters fuel true isMultiline
      | some 'M' => addressLetters fuel ignoresCase true
      | c => do
          giveBack c
          return (ignoresCase, isMultiline)

/-- Reads an address that starts with a character, none if there is no address. -/
def readAddress (first : Option Char) : Reader (Option Address) := do
  let pattern (mark : Char) : Reader (Option Address) := do
    match ← delimited mark true with
    | none => fail "unterminated address regex"
    | some text => do
        let (ignoresCase, isMultiline) ← addressLetters ((← get).rest.length + 1) false false
        return some (.pattern (← readExpression text ignoresCase isMultiline))
  match first with
  | some '/' => pattern '/'
  | some '\\' =>
      match ← take with
      | none => fail "unexpected \x60,'"
      | some mark => pattern mark
  | some '$' => return some .last
  | some c =>
      if c.isDigit then do
        let first ← number c
        let behind ← takeNonblank
        if behind = some '~' then
          match ← takeNonblank with
          | some c =>
              if c.isDigit then return some (.steps first (← number c))
              else do
                giveBack (some c)
                return some (.steps first 0)
          | none => return some (.steps first 0)
        else do
          giveBack behind
          return some (.line first)
      else return none
  | none => return none

def readFinish (first : Option Char) : Reader Finish := do
  let count : Reader Nat := do
    match ← take with
    | some c => if c.isDigit then number c else fail "expected number"
    | none => fail "unexpected \x60,'"
  match first with
  | some '+' => return .lines (← count)
  | some '~' => return .multiple (← count)
  | first =>
      match ← readAddress first with
      | some address => return .address address
      | none => fail "unexpected \x60,'"

/-- Takes what has to stand behind a command. -/
def endCommand : Reader Unit := do
  let c ← takeNonblank
  if c = some '\x7d' ∨ c = some '#' then giveBack c
  else if c ≠ none ∧ c ≠ some '\n' ∧ c ≠ some ';' then fail "extra characters after command"

def readLabel : Reader String := do
  let _ ← takeWhile isBlank
  return String.ofList (← takeWhile fun c => !isSpace c && c ≠ ';' && c ≠ '\x7d')

def readPath : Reader String := do
  let _ ← takeWhile isBlank
  let path ← takeWhile (· ≠ '\n')
  if path.isEmpty then fail "missing filename in r/R/w/W commands"
  return String.ofList path

/-- Reads text up to a line end that no backslash stands in front of. -/
def textLines : Nat → List Char → Reader (List Char)
  | 0, found => return found.reverse
  | fuel + 1, found => do
      match ← take with
      | none => return found.reverse
      | some '\n' => return found.reverse
      | some '\\' => do
          let rest := (← get).rest
          match namedChar? rest with
          | some (c, behind) => do
              let _ ← takeWhile fun _ => false
              modify fun cursor =>
                { cursor with rest := behind, taken := cursor.taken + (rest.length - behind.length) }
              textLines fuel (c :: found)
          | none =>
              match ← take with
              | none => return found.reverse
              | some c => textLines fuel (c :: found)
      | some c => textLines fuel (c :: found)

/-- Reads the text of a command that puts text between lines. -/
def readText : Reader (List Char) := do
  let missing : Reader Unit := fail "expected \\ after \x60a', \x60c' or \x60i'"
  let first ← takeNonblank
  match first with
  | none => missing
  | some '\n' => do
      giveBack first
      missing
  | some '\\' => do
      if (← peek).isNone then return []
      if (← peek) = some '\n' then let _ ← take
  | some _ => giveBack first
  return (← textLines ((← get).rest.length + 1) []) ++ ['\n']
/-- Reads what is put in for a match. -/
def readInserts : Nat → List Char → List Insert
  | 0, _ => []
  | _ + 1, [] => []
  | fuel + 1, '&' :: cs => .group 0 :: readInserts fuel cs
  | fuel + 1, '\\' :: c :: cs =>
      if c.isDigit then .group (c.toNat - '0'.toNat) :: readInserts fuel cs
      else
        let casing? : Option Casing :=
          [
            ('L', .lower), ('U', .upper), ('E', .asIs), ('l', .nextLower), ('u', .nextUpper)
          ].lookup c
        match casing?, namedChar? (c :: cs) with
        | some casing, _ => .casing casing :: readInserts fuel cs
        | none, some (named, rest) => .text [named] :: readInserts fuel rest
        | none, none => .text [c] :: readInserts fuel cs
  | fuel + 1, cs =>
      let text := cs.head?.toList ++ cs.tail.takeWhile fun c => c ≠ '&' && c ≠ '\\'
      .text text :: readInserts fuel (cs.drop text.length)

/-- The letters behind a substitution. -/
structure Letters where
  isGlobal : Bool
  prints : Bool
  number : Option Nat
  ignoresCase : Bool
  isMultiline : Bool
  target : Option String

def substitutionLetters : Nat → Letters → Reader Letters
  | 0, letters => return letters
  | fuel + 1, letters => do
      match ← take with
      | none | some '\n' | some ';' => return letters
      | some 'i' | some 'I' => substitutionLetters fuel { letters with ignoresCase := true }
      | some 'm' | some 'M' => substitutionLetters fuel { letters with isMultiline := true }
      | some 'g' => do
          if letters.isGlobal then fail "multiple \x60g' options to \x60s' command"
          substitutionLetters fuel { letters with isGlobal := true }
      | some 'p' => do
          if letters.prints then fail "multiple \x60p' options to \x60s' command"
          substitutionLetters fuel { letters with prints := true }
      | some 'w' => return { letters with target := some (← readPath) }
      | some c => do
          if c = '\x7d' ∨ c = '#' then
            giveBack (some c)
            return letters
          else if isBlank c then substitutionLetters fuel letters
          else if c.isDigit then
            if letters.number.isSome then
              fail "multiple number options to \x60s' command"
            let number ← number c
            if number = 0 then fail "number option to \x60s' command may not be zero"
            substitutionLetters fuel { letters with number := some number }
          else fail "unknown option to \x60s'"

def readSubstitution : Reader Substitution := do
  let unterminated : Reader (List Char) := fail "unterminated \x60s' command"
  let mark ← take
  let mark ← match mark with
    | some c => if c = '\n' ∨ c = '\\' then do let _ ← unterminated; pure c else pure c
    | none => do let _ ← unterminated; pure ' '
  let pattern ← match ← delimited mark true with
    | some text => pure text
    | none => unterminated
  let inserts ← match ← delimited mark false with
    | some text => pure text
    | none => unterminated
  let letters ← substitutionLetters ((← get).rest.length + 1)
    {
      isGlobal := false
      prints := false
      number := none
      ignoresCase := false
      isMultiline := false
      target := none
    }
  let expression ← readExpression pattern letters.ignoresCase letters.isMultiline
  let inserts := readInserts (inserts.length + 1) inserts
  let most := (inserts.map fun insert =>
    match insert with
    | .group number => number
    | _ => 0).foldl max 0
  if expression.any (·.groups < most) then
    fail s!"invalid reference \\{most} on \x60s' command's RHS"
  return {
    expression
    inserts
    isGlobal := letters.isGlobal
    number := letters.number.getD 1
    prints := letters.prints
    target := letters.target
  }

/-- The characters of a list for a translation. -/
def tableChars : Nat → List Char → List Char
  | 0, _ => []
  | _ + 1, [] => []
  | fuel + 1, '\\' :: '\\' :: cs => '\\' :: tableChars fuel cs
  | fuel + 1, '\\' :: cs =>
      match namedChar? cs with
      | some (c, rest) => c :: tableChars fuel rest
      | none => '\\' :: tableChars fuel cs
  | fuel + 1, c :: cs => c :: tableChars fuel cs

def readTranslation : Reader (List (Char × Char)) := do
  let unterminated : Reader (List Char) := fail "unterminated \x60y' command"
  let mark := (← take).getD ' '
  let source ← match ← delimited mark false with
    | some text => pure text
    | none => unterminated
  let target ← match ← delimited mark false with
    | some text => pure text
    | none => unterminated
  let source := (tableChars (source.length + 1) source)
  let target := (tableChars (target.length + 1) target)
  if source.length ≠ target.length then
    fail "strings for \x60y' command are different lengths"
  endCommand
  return source.zip target

/-- The commands that are a letter and nothing more. -/
def plainActions : List (Char × Action) :=
  [
    ('=', .printNumber), ('d', .delete), ('D', .deleteFirst), ('F', .printName), ('g', .get),
    ('G', .getMore), ('h', .hold), ('H', .holdMore), ('n', .next), ('N', .nextMore),
    ('p', .print), ('P', .printFirst), ('z', .zap), ('x', .exchange)
  ]

/-- A number behind a command, if there is one, and the end of the command. -/
def readCount : Reader (Option Nat) := do
  let c ← takeNonblank
  let count ←
    match c with
    | some c => if c.isDigit then some <$> number c else do giveBack (some c); pure none
    | none => pure none
  endCommand
  return count

/-- Reads a command behind its addresses. -/
def readAction (lines : Lines) (first : Option Char) : Reader Action := do
  match first with
  | none => fail "missing command"
  | some c =>
      match plainActions.lookup c with
      | some action => do
          endCommand
          return action
      | none =>
          match c with
          | '\x7b' => do
              modify fun cursor => { cursor with openBlocks := cursor.openBlocks + 1 }
              return .openBlock
          | '\x7d' => do
              if (← get).openBlocks = 0 then fail "unexpected \x60\x7d'"
              if lines.first.isSome then fail "\x7d doesn't want any addresses"
              modify fun cursor => { cursor with openBlocks := cursor.openBlocks - 1 }
              endCommand
              return .closeBlock
          | ':' => do
              if lines.first.isSome then fail ": doesn't want any addresses"
              let name ← readLabel
              if name = "" then fail "\x22:\x22 lacks a label"
              return .label name
          | 'b' => return .branch (← readLabel)
          | 't' => return .branchIfChanged (← readLabel)
          | 'T' => return .branchUnlessChanged (← readLabel)
          | 'a' => return .append (← readText)
          | 'i' => return .insert (← readText)
          | 'c' => return .change (← readText)
          | 'q' | 'Q' => do
              if lines.last.isSome then fail "command only uses one address"
              let status := (← readCount).getD 0
              return if c = 'q' then .quit status else .quitSilently status
          | 'l' => return .list (← readCount)
          | 'r' => return .readFile (← readPath)
          | 'R' => return .readLine (← readPath)
          | 'w' => return .writeFile (← readPath)
          | 'W' => return .writeFirst (← readPath)
          | 's' => return .substitute (← readSubstitution)
          | 'y' => return .translate (← readTranslation)
          | c => fail s!"unknown command: \x60{c}'"

/-- Reads one command from its first character on. -/
def readInstruction (first : Char) : Reader Instruction := do
  if first = '+' ∨ first = '~' then
    let _ ← take
    fail "invalid usage of +N or ~N as first address"
  let address ← readAddress (some first)
  let (last, behind) ←
    match address with
    | none => pure (none, some first)
    | some address => do
        let behind ← takeNonblank
        let (last, behind) ←
          if behind = some ',' then do
            let last ← readFinish (← takeNonblank)
            pure (some last, ← takeNonblank)
          else pure (none, behind)
        match address, last with
        | .line 0, some (.address (.pattern _)) => pure ()
        | .line 0, _ => fail "invalid usage of line address 0"
        | _, _ => pure ()
        pure (last, behind)
  let isNegated : Bool := behind = some '!'
  let behind ← if isNegated then takeNonblank else pure behind
  if isNegated ∧ behind = some '!' then fail "multiple \x60!'s"
  let lines : Lines := { first := address, last, isNegated }
  return { lines, action := ← readAction lines behind }

/-- Reads commands up to the end of the text. -/
def readInstructions : Nat → Array Instruction → Reader (Array Instruction)
  | 0, found => return found
  | fuel + 1, found => do
      match ← take with
      | none => return found
      | some '#' => do
          let taken := (← get).taken
          let comment ← takeWhile (· ≠ '\n')
          if taken = 1 ∧ comment = ['n'] then
            modify fun cursor => { cursor with isQuiet := true }
          readInstructions fuel found
      | some c =>
          if isSpace c ∨ c = ';' then readInstructions fuel found
          else readInstructions fuel (found.push (← readInstruction c))

end MailMerge.Shell.Edit
