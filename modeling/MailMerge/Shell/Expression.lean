import MailMerge.Shell.Octets

/-! Regular expressions, in the basic and the extended notation, and how they are found in
a text: the leftmost match, and the longest one there.
-/

namespace MailMerge.Shell

/-- What stands at a place between two characters. -/
inductive Edge where
  | start
  | finish
  | wordStart
  | wordFinish
  | wordEdge
  | noWordEdge
  | lineStart
  | lineFinish
  /-- Behind no character of a word. -/
  | freeStart
  /-- In front of no character of a word. -/
  | freeFinish
  deriving DecidableEq, Repr

/-- Characters, by ranges. -/
structure CharSet where
  isNegated : Bool
  ranges : List (Char × Char)
  ignoresCase : Bool
  deriving DecidableEq, Repr

def CharSet.holds (set : CharSet) (c : Char) : Bool :=
  set.ranges.any fun range => range.1 ≤ c && c ≤ range.2

def CharSet.accepts (set : CharSet) (c : Char) : Bool :=
  let isMember :=
    set.holds c || (set.ignoresCase && (set.holds c.toLower || set.holds c.toUpper))
  isMember != set.isNegated

inductive Node where
  | nothing
  | chars (set : CharSet)
  | edge (edge : Edge)
  | both (first second : Node)
  | either (first second : Node)
  | repeated (body : Node) (least : Nat) (most : Option Nat)
  | group (number : Nat) (body : Node)
  /-- What a group has matched. -/
  | again (number : Nat)
  deriving Repr

structure Expression where
  node : Node
  groups : Nat
  ignoresCase : Bool
  /-- What is strange about the way it is written. -/
  warnings : List String
  deriving Repr

namespace Expression

/-! ### Characters -/

def isWordChar (c : Char) : Bool :=
  c.isAlpha || c.isDigit || c = '_'

def alphaRanges : List (Char × Char) :=
  [('a', 'z'), ('A', 'Z')]

def wordRanges : List (Char × Char) :=
  ('0', '9') :: ('_', '_') :: alphaRanges

def spaceRanges : List (Char × Char) :=
  [(' ', ' '), ('\t', '\r')]

/-- Classes of characters by name. -/
def classes : List (String × List (Char × Char)) :=
  [
    ("alpha", alphaRanges),
    ("digit", [('0', '9')]),
    ("alnum", ('0', '9') :: alphaRanges),
    ("upper", [('A', 'Z')]),
    ("lower", [('a', 'z')]),
    ("space", spaceRanges),
    ("blank", [(' ', ' '), ('\t', '\t')]),
    ("punct", [('!', '/'), (':', '@'), ('[', '\x60'), ('\x7b', '~')]),
    ("print", [(' ', '~')]),
    ("graph", [('!', '~')]),
    ("cntrl", [('\x00', '\x1f'), ('\x7f', '\x7f')]),
    ("xdigit", [('0', '9'), ('a', 'f'), ('A', 'F')])
  ]

/-! ### Reading -/

/-- A notation. A lenient one lets signs stand for themselves where they make no sense. -/
structure Dialect where
  isExtended : Bool
  ignoresCase : Bool
  isLenient : Bool
  /-- Whether the edges of lines within a text count as edges of the text. -/
  isMultiline : Bool
  deriving DecidableEq, Repr

/-- The text of an expression ahead, and what has been seen of it. -/
structure Progress where
  rest : List Char
  groups : Nat
  closed : List Nat
  warnings : List String

abbrev Reader := ReaderT Dialect (StateT Progress (Except String))

def fail {α : Type} (message : String) : Reader α :=
  fun _ _ => .error message

def warn (message : String) : Reader Unit :=
  modify fun progress => { progress with warnings := progress.warnings ++ [message] }

def ahead : Reader (List Char) :=
  return (← get).rest

def drop (count : Nat) : Reader Unit :=
  modify fun progress => { progress with rest := progress.rest.drop count }

def oneOf (ranges : List (Char × Char)) : Reader Node := do
  return .chars { isNegated := false, ranges, ignoresCase := (← read).ignoresCase }

def char (c : Char) : Reader Node :=
  oneOf [(c, c)]

/-- Reads a name such as `[:alpha:]` within brackets, up to its mark and a bracket. -/
def cutName (mark : Char) : List Char → Option (List Char × List Char)
  | [] => none
  | c :: cs =>
      if c = mark ∧ cs.head? = some ']' then some ([], cs.tail)
      else (cutName mark cs).map fun (name, rest) => (c :: name, rest)

/-- What is wrong with a set that is not closed. -/
def openSet : String := "Unmatched [, [^, [:, [., or [="

/-- Reads the members of a set up to the closing bracket. -/
def members (isFirst : Bool) : Nat → Reader (List (Char × Char))
  | 0 => fail openSet
  | fuel + 1 => do
      match ← ahead with
      | [] => fail (if isFirst then "Invalid regular expression" else openSet)
      | ']' :: _ =>
          if isFirst then single ']' 1 fuel
          else do
            drop 1
            return []
      | '[' :: ':' :: cs =>
          match cutName ':' cs with
          | some (name, rest) =>
              match classes.lookup (String.ofList name) with
              | some ranges => do
                  modify fun progress => { progress with rest }
                  return ranges ++ (← members false fuel)
              | none => fail "Invalid character class name"
          | none => fail openSet
      | '[' :: mark :: cs =>
          if mark = '.' ∨ mark = '=' then
            match cutName mark cs with
            | some ([c], _) => single c 5 fuel
            | some _ => fail "Invalid collation character"
            | none => fail openSet
          else single '[' 1 fuel
      | c :: _ => single c 1 fuel
where
  /-- A member of its own, or the lower end of a range. -/
  single (low : Char) (size fuel : Nat) : Reader (List (Char × Char)) := do
    drop size
    match ← ahead with
    | '-' :: high :: _ =>
        if high = ']' then return (low, low) :: (← members false fuel)
        else if high < low then fail "Invalid range end"
        else do
          drop 2
          return (low, high) :: (← members false fuel)
    | _ => return (low, low) :: (← members false fuel)

/-- Whether a set reads as if a class were meant. -/
def confusesClass (ranges : List (Char × Char)) : Bool :=
  let colon := (':', ':')
  ranges.length > 2 && ranges.head? = some colon && ranges.getLast? = some colon
    && ranges.all fun range => range.1 = range.2

def classAdvice : String := "character class syntax is [[:space:]], not [:space:]"

def bracket : Reader Node := do
  drop 1
  let isNegated : Bool := (← ahead).head? = some '^'
  if isNegated then drop 1
  let ranges ← members true ((← ahead).length + 1)
  if confusesClass ranges then fail classAdvice
  return .chars { isNegated, ranges, ignoresCase := (← read).ignoresCase }

/-- The number of digits ahead, if there are some. -/
def number : Reader (Option Nat) := do
  let digits := (← ahead).takeWhile Char.isDigit
  drop digits.length
  return if digits = [] then none else (String.ofList digits).toNat?

/-- The greatest number of repetitions that may be asked for. -/
def maxRepetition : Nat := 32767

/-- Reads the bounds of a repetition behind the opening brace, up to the closing one. -/
def bounds (closing : List Char) : Reader (Nat × Option Nat) := do
  let least ← number
  let rest ← ahead
  let most ←
    if rest.head? = some ',' then do
      drop 1
      number
    else pure least
  if rest.head? ≠ some ',' ∧ least = none then fail "Invalid content of \\\x7b\\\x7d"
  let behind ← ahead
  if !closing.isPrefixOf behind then
    fail (if behind = [] then "Unmatched \\\x7b" else "Invalid content of \\\x7b\\\x7d")
  drop closing.length
  if most.any (· < least.getD 0) then fail "Invalid content of \\\x7b\\\x7d"
  if maxRepetition < (most.getD 0) ∨ maxRepetition < least.getD 0 then
    fail "Regular expression too big"
  return (least.getD 0, most)

/-- The meaning of a letter behind a backslash that is the same in both notations. -/
def escape? (c : Char) : Option (Reader Node) :=
  match c with
  | 'w' => some (oneOf wordRanges)
  | 'W' => some (return .chars { isNegated := true, ranges := wordRanges, ignoresCase := false })
  | 's' => some (oneOf spaceRanges)
  | 'S' => some (return .chars { isNegated := true, ranges := spaceRanges, ignoresCase := false })
  | '<' => some (return .edge .wordStart)
  | '>' => some (return .edge .wordFinish)
  | 'b' => some (return .edge .wordEdge)
  | 'B' => some (return .edge .noWordEdge)
  | '\x60' => some (return .edge .start)
  | '\x27' => some (return .edge .finish)
  | _ => none

/-- Takes the sign of an operator: by itself in the extended notation, else behind a
backslash.
-/
def takeOperator (sign : Char) : Reader Bool := do
  let written := if (← read).isExtended then [sign] else ['\\', sign]
  if written.isPrefixOf (← ahead) then
    drop written.length
    return true
  else return false

/-- Whether the text ahead ends a branch of an expression. -/
def endsBranch (depth : Nat) : Reader Bool := do
  let rest ← ahead
  let starts (sign : Char) : Reader Bool := do
    return (if (← read).isExtended then [sign] else ['\\', sign]).isPrefixOf rest
  return rest = [] || (← starts '|') || ((← starts ')') && depth > 0)

/-- Whether bounds of a repetition in the extended notation stand ahead. -/
def startsBounds (rest : List Char) : Bool :=
  let digits := rest.takeWhile Char.isDigit
  let behind := rest.drop digits.length
  if behind.head? = some ',' then
    (behind.tail.dropWhile Char.isDigit).head? = some '\x7d'
  else digits ≠ [] && behind.head? = some '\x7d'

/-- Reads the repetitions behind a part of an expression. In the strict basic notation
they cannot be repeated.
-/
def repetitions (body : Node) : Nat → Reader Node
  | 0 => return body
  | fuel + 1 => do
      let dialect ← read
      let once (node : Node) : Reader Node := do
        let rest ← ahead
        let isStrict := !dialect.isExtended && !dialect.isLenient
        if isStrict ∧ (rest.head? = some '*' ∨ ['\\', '\x7b'].isPrefixOf rest) then
          fail "Invalid preceding regular expression"
        else repetitions node fuel
      if (← ahead).head? = some '*' then
        drop 1
        once (.repeated body 0 none)
      else if ← takeOperator '+' then once (.repeated body 1 none)
      else if ← takeOperator '?' then once (.repeated body 0 (some 1))
      else
        let before ← get
        if ← takeOperator '\x7b' then
          if dialect.isExtended ∧ dialect.isLenient ∧ !startsBounds (← ahead) then
            modify fun _ => before
            return body
          else
            let closing := if dialect.isExtended then ['\x7d'] else ['\\', '\x7d']
            let (least, most) ← bounds closing
            once (.repeated body least most)
        else return body

/-- Reads a sign of repetition that has nothing in front of it. -/
def idle (sign : String) : Reader (Node × Bool) := do
  if !(← read).isLenient then fail "Invalid preceding regular expression"
  warn (sign ++ " at start of expression")
  return (.nothing, false)

mutual
/-- Branches, of which any may match. -/
def branches (depth : Nat) : Nat → Reader Node
  | 0 => fail "Invalid regular expression"
  | fuel + 1 => do
      let first ← branch depth true fuel
      if ← takeOperator '|' then return .either first (← branches depth fuel)
      else return first
termination_by structural fuel => fuel

/-- Parts one after the other. -/
def branch (depth : Nat) (isFirst : Bool) : Nat → Reader Node
  | 0 => fail "Invalid regular expression"
  | fuel + 1 => do
      if ← endsBranch depth then return .nothing
      let (body, isRepeatable) ← part depth isFirst fuel
      let first ←
        if isRepeatable then repetitions body ((← ahead).length + 1) else pure body
      return .both first (← branch depth (!isRepeatable && isFirst) fuel)
termination_by structural fuel => fuel

/-- One part, and whether it may be repeated. -/
def part (depth : Nat) (isFirst : Bool) : Nat → Reader (Node × Bool)
  | 0 => fail "Invalid regular expression"
  | fuel + 1 => do
      let isExtended := (← read).isExtended
      if ← takeOperator '(' then
        modify fun progress => { progress with groups := progress.groups + 1 }
        let number := (← get).groups
        let body ← branches (depth + 1) fuel
        if !(← takeOperator ')') then fail "Unmatched ( or \\("
        modify fun progress => { progress with closed := number :: progress.closed }
        return (.group number body, true)
      match ← ahead with
      | '[' :: _ => return (← bracket, true)
      | '.' :: _ => do
          drop 1
          return (.chars { isNegated := true, ranges := [], ignoresCase := false }, true)
      | '^' :: _ => do
          drop 1
          if isExtended || isFirst then
            return (.edge (if (← read).isMultiline then .lineStart else .start), false)
          else return (← char '^', true)
      | '$' :: rest => do
          drop 1
          let isLast :=
            rest = [] || ['\\', ')'].isPrefixOf rest || ['\\', '|'].isPrefixOf rest
          if isExtended || isLast then
            return (.edge (if (← read).isMultiline then .lineFinish else .finish), isExtended)
          else return (← char '$', true)
      | '*' :: _ => do
          drop 1
          if isExtended ∧ isFirst then idle "*" else return (← char '*', true)
      | '\\' :: c :: _ => do
          drop 2
          if c.isDigit ∧ c ≠ '0' then
            let number := c.toNat - '0'.toNat
            if !(← get).closed.contains number then fail "Invalid back reference"
            return (.again number, true)
          else if c = ')' ∧ !isExtended then fail "Unmatched ) or \\)"
          else if c = '\x7b' ∧ !isExtended ∧ isFirst ∧ !(← read).isLenient then
            fail "Invalid preceding regular expression"
          else
            match escape? c with
            | some node => return (← node, true)
            | none => return (← char (if c = 'n' then '\n' else c), true)
      | ['\\'] => fail "Trailing backslash"
      | c :: rest => do
          let isLenient := (← read).isLenient
          if isExtended ∧ c = ')' ∧ !isLenient then fail "Unmatched ) or \\)"
          drop 1
          if isExtended ∧ isFirst ∧ (c = '+' ∨ c = '?') then idle (String.singleton c)
          else if isExtended ∧ isFirst ∧ c = '\x7b' ∧ (!isLenient ∨ startsBounds rest) then
            let node ← idle "\x7b...\x7d"
            let _ ← bounds ['\x7d']
            return node
          else return (← char c, true)
      | [] => return (.nothing, false)
termination_by structural fuel => fuel
end

/-- Reads a whole expression, or says what is wrong with it. -/
def read? (dialect : Dialect) (text : List Char) : Except String Expression := do
  let ((node, progress) : Node × Progress) ←
    ((branches 0 (8 * text.length + 16)).run dialect).run
      { rest := text, groups := 0, closed := [], warnings := [] }
  if progress.rest ≠ [] then .error "Unmatched ) or \\)"
  else
    .ok
      {
        node
        groups := progress.groups
        ignoresCase := dialect.ignoresCase
        warnings := progress.warnings
      }

/-- An expression for a text as it is. -/
def ofText (ignoresCase : Bool) (text : List Char) : Expression where
  node :=
    text.foldr
      (fun c node =>
        .both (.chars { isNegated := false, ranges := [(c, c)], ignoresCase }) node)
      .nothing
  groups := 0
  ignoresCase
  warnings := []

/-! ### Finding -/

/-- A place in a text: what stands ahead, how much that is, the character in front, and
what the groups have matched.
-/
structure Spot where
  rest : List Char
  size : Nat
  before : Option Char
  groups : List (Nat × List Char)

def Spot.isEdge (spot : Spot) (edge : Edge) : Bool :=
  let behind := spot.before.any isWordChar
  let ahead := spot.rest.head?.any isWordChar
  match edge with
  | .start => spot.before.isNone
  | .finish => spot.rest.isEmpty
  | .wordStart => !behind && ahead
  | .wordFinish => behind && !ahead
  | .wordEdge => behind != ahead
  | .noWordEdge => behind == ahead
  | .lineStart => spot.before.all (· = newline)
  | .lineFinish => spot.rest.head?.all (· = newline)
  | .freeStart => !behind
  | .freeFinish => !ahead

/-- The place behind one character of a set. -/
def Spot.step? (spot : Spot) (set : CharSet) : Option Spot :=
  match spot.rest with
  | c :: rest =>
      if set.accepts c then
        some { spot with rest, size := spot.size - 1, before := some c }
      else none
  | [] => none

/-- The places behind as many characters of a set as there are, the last one first. -/
def Spot.steps (set : CharSet) : Nat → Spot → List Spot → List Spot
  | 0, spot, found => spot :: found
  | most + 1, spot, found =>
      match spot.step? set with
      | some next => Spot.steps set most next (spot :: found)
      | none => spot :: found

/-- The place that is further on; the first one where both are as far. -/
def further (first second : Option Spot) : Option Spot :=
  match first, second with
  | some left, some right => if right.size < left.size then some right else some left
  | some left, none => some left
  | none, right => right

/-- The first success, or the one furthest on if all of them count. -/
def choose (isLongest : Bool) (first : Option Spot) (second : Unit → Option Spot)
    : Option Spot :=
  if isLongest then further first (second ())
  else
    match first with
    | some spot => some spot
    | none => second ()

/-- Matches a body again and again; a repetition that takes nothing is not repeated. -/
def repeatWith (isLongest : Bool) (once : Spot → (Spot → Option Spot) → Option Spot)
    (least : Nat) (most : Option Nat) (next : Spot → Option Spot)
    : Nat → Nat → Spot → Option Spot
  | 0, _, _ => none
  | fuel + 1, count, spot =>
      if most.any (· ≤ count) then next spot
      else
        let again :=
          once spot fun after =>
            if after.size = spot.size ∧ least ≤ count then none
            else repeatWith isLongest once least most next fuel (count + 1) after
        if count < least then again
        else choose isLongest again fun _ => next spot

end Expression

namespace Node

open Expression

/-- Matches a node at a place and goes on from where the match ends. -/
def run (ignoresCase isLongest : Bool) : Node → Spot → (Spot → Option Spot) → Option Spot
  | .nothing, spot, next => next spot
  | .chars set, spot, next => (spot.step? set).bind next
  | .edge place, spot, next => if spot.isEdge place then next spot else none
  | .both first second, spot, next =>
      first.run ignoresCase isLongest spot fun after =>
        second.run ignoresCase isLongest after next
  | .either first second, spot, next =>
      choose isLongest (first.run ignoresCase isLongest spot next) fun _ =>
        second.run ignoresCase isLongest spot next
  | .repeated (.chars set) least most, spot, next =>
      let places := Spot.steps set (most.getD spot.size) spot []
      let places := places.take (places.length - least)
      if isLongest then places.foldl (fun best place => further best (next place)) none
      else places.findSome? next
  | .repeated body least most, spot, next =>
      repeatWith isLongest (body.run ignoresCase isLongest) least most next
        (spot.size + least + 2) 0 spot
  | .group number body, spot, next =>
      body.run ignoresCase isLongest spot fun after =>
        let text := spot.rest.take (spot.size - after.size)
        let others := after.groups.filter (·.1 ≠ number)
        next { after with groups := (number, text) :: others }
  | .again number, spot, next =>
      match spot.groups.lookup number with
      | none => none
      | some text =>
          let here := spot.rest.take text.length
          let isSame := if ignoresCase then here.map Char.toLower = text.map Char.toLower else here = text
          if isSame then
            next
              { spot with
                rest := spot.rest.drop text.length
                size := spot.size - text.length
                before := if text = [] then spot.before else here.getLast? }
          else none

/-- Whether the first way to match may be shorter than another one. -/
def mayBeShort : Node → Bool
  | .either .. => true
  | .both first second => first.mayBeShort || second.mayBeShort
  | .repeated (.chars _) _ _ => false
  | .repeated _ _ _ => true
  | .group _ body => body.mayBeShort
  | _ => false

end Node

namespace Expression

/-- A match: the text in front of it, its own text, the text behind, and the groups. -/
structure Match where
  before : List Char
  text : List Char
  after : List Char
  groups : List (Nat × List Char)

/-- Finds the first match from a place on. -/
def findFrom (expression : Expression) : Nat → Spot → List Char → Option Match
  | 0, _, _ => none
  | fuel + 1, spot, passed =>
      let isLongest := expression.node.mayBeShort
      match expression.node.run expression.ignoresCase isLongest spot some with
      | some after =>
          some
            {
              before := passed.reverse
              text := spot.rest.take (spot.size - after.size)
              after := after.rest
              groups := after.groups
            }
      | none =>
          match spot.rest with
          | [] => none
          | c :: rest =>
              findFrom expression fuel
                { rest, size := spot.size - 1, before := some c, groups := [] } (c :: passed)

/-- Finds the first match in a text that a character may stand in front of. -/
def find? (expression : Expression) (before : Option Char) (text : List Char)
    : Option Match :=
  expression.findFrom (text.length + 1)
    { rest := text, size := text.length, before, groups := [] } []

def occursIn (expression : Expression) (text : List Char) : Bool :=
  (expression.find? none text).isSome

end Expression

end MailMerge.Shell
