import MailMerge.Yaml.Cursor

/-! Reading scalars in their several styles. Line ends within a scalar are folded: a single
line feed between words counts for a space, and more of them for one less. Line and
paragraph separators stay what they are.
-/

namespace MailMerge.Yaml

/-! ### Folded text -/

/-- The white space between two words: blanks, or the first line end and the ones behind. -/
structure Gap where
  blanks : List Char
  isBroken : Bool
  first : List Char
  more : List Char

namespace Gap

def none : Gap where
  blanks := []
  isBroken := false
  first := []
  more := []

/-- The gap behind a line end that was escaped, which counts for nothing itself. -/
def escaped : Gap where
  blanks := []
  isBroken := true
  first := []
  more := []

def fold (first more : List Char) : List Char :=
  if first = ['\n'] then (if more = [] then [' '] else more) else first ++ more

/-- What the gap counts for between words. -/
def text (gap : Gap) : List Char :=
  if gap.isBroken then fold gap.first gap.more else gap.blanks

end Gap

/-- Reads the white space between words. A tab may not stand where a line should be
indented by spaces.
-/
def readGap (indent : Nat) : Nat → Gap → Reader Gap
  | 0, _ => failure
  | fuel + 1, gap => do
      match ← head? with
      | some c =>
          if isBlank c then
            if gap.isBroken ∧ c = '\t' ∧ (← get).column < indent then failure
            next
            if gap.isBroken then readGap indent fuel gap
            else readGap indent fuel { gap with blanks := gap.blanks ++ [c] }
          else if isBreak c then
            let ending ← takeBreak
            if gap.isBroken then readGap indent fuel { gap with more := gap.more ++ ending }
            else readGap indent fuel { blanks := [], isBroken := true, first := ending, more := [] }
          else return gap
      | none => return gap

/-! ### Plain scalars -/

def isFlowSign (c : Char) : Bool :=
  c = ',' || c = '[' || c = ']' || c = '\x7b' || c = '\x7d'

/-- Characters that have a meaning of their own at the start of a node. -/
def isIndicator (c : Char) : Bool :=
  isFlowSign c || "-?:#&*!|>\x27\x22%@\x60".toList.contains c

/-- Whether a plain scalar may start with the text ahead. -/
def startsPlain (inFlow : Bool) : List Char → Bool
  | [] => false
  | c :: rest =>
      !(startsBlank (c :: rest) || isIndicator c)
        || (c = '-' && !rest.head?.any isBlank)
        || (!inFlow && (c = '?' || c = ':') && !startsBlank rest)

/-- Reads a run of characters of a plain scalar. -/
def readWord (inFlow : Bool) : Nat → Reader (List Char)
  | 0 => failure
  | fuel + 1 => do
      match ← ahead with
      | [] => return []
      | c :: rest =>
          if startsBlank (c :: rest) then return []
          else if inFlow ∧ c = ':' ∧ rest.head?.any fun d => isFlowSign d || d = '?' then
            failure
          else if (c = ':' ∧ startsBlank rest) ∨ (inFlow ∧ isFlowSign c) then return []
          else do
            next
            return c :: (← readWord inFlow fuel)

/-- Reads a plain scalar over its lines, which stand at least at an indentation. Hands back
whether it ended on a line of its own.
-/
def readPlain (inFlow : Bool) (indent : Nat) : Nat → Gap → Reader (List Char × Bool)
  | 0, _ => failure
  | fuel + 1, gap => do
      let here ← get
      if here.atMarker ∨ here.rest.head? = some '#' then return ([], gap.isBroken)
      let word ← readWord inFlow (here.rest.length + 1)
      let start := if word = [] then [] else gap.text ++ word
      let gap := if word = [] then gap else .none
      let behind ← ahead
      if behind = [] ∨ !startsBlank behind then return (start, gap.isBroken)
      let gap ← readGap indent (behind.length + 1) .none
      if !inFlow ∧ (← get).column < indent then return (start, gap.isBroken)
      let (rest, isBroken) ← readPlain inFlow indent fuel gap
      return (start ++ rest, isBroken)

/-! ### Quoted scalars -/

/-- Characters by the letter that stands for them behind a backslash. -/
def escapes : List (Char × Nat) :=
  [
    ('0', 0x00), ('a', 0x07), ('b', 0x08), ('t', 0x09), ('\t', 0x09), ('n', 0x0A),
    ('v', 0x0B), ('f', 0x0C), ('r', 0x0D), ('e', 0x1B), (' ', 0x20), ('\x22', 0x22),
    ('/', 0x2F), ('\\', 0x5C), ('N', 0x85), ('_', 0xA0), ('L', 0x2028), ('P', 0x2029)
  ]

/-- The number of hexadecimal digits behind an escape letter. -/
def escapeWidth? (c : Char) : Option Nat :=
  [('x', 2), ('u', 4), ('U', 8)].lookup c

def hexDigit? (c : Char) : Option Nat :=
  if c.isDigit then some (c.toNat - '0'.toNat)
  else if 'a' ≤ c ∧ c ≤ 'f' then some (c.toNat - 'a'.toNat + 10)
  else if 'A' ≤ c ∧ c ≤ 'F' then some (c.toNat - 'A'.toNat + 10)
  else none

/-- Reads as many hexadecimal digits as are asked for. -/
def readHex : Nat → Nat → Reader Nat
  | 0, value => return value
  | count + 1, value => do
      match (← head?).bind hexDigit? with
      | some digit => do next; readHex count (value * 16 + digit)
      | none => failure

/-- Reads an escape behind its backslash. -/
def readEscape : Reader Char := do
  let letter ← head?
  next
  match letter.bind (escapes.lookup ·), letter.bind escapeWidth? with
  | some code, _ => return Char.ofNat code
  | none, some width => do
      let code ← readHex width 0
      if code.isValidChar then return Char.ofNat code else failure
  | none, none => failure

/-- Reads a run of characters between quotes. Hands back whether a line end was escaped
behind it.
-/
def readQuotedRun (quote : Char) : Nat → Reader (List Char × Bool)
  | 0 => failure
  | fuel + 1 => do
      let rest ← ahead
      if startsBlank rest then return ([], false)
      match rest with
      | '\x27' :: '\x27' :: _ =>
          if quote = '\x27' then do
            skip 2
            more '\x27' fuel
          else do
            next
            more '\x27' fuel
      | c :: behind =>
          if c = quote then return ([], false)
          else if quote = '\x22' ∧ c = '\\' then
            if behind ≠ [] ∧ startsBreak behind then do
              next
              modify Cursor.nextLine
              return ([], true)
            else do
              next
              let escaped ← readEscape
              more escaped fuel
          else do
            next
            more c fuel
      | [] => return ([], false)
where
  more (c : Char) (fuel : Nat) : Reader (List Char × Bool) := do
    let (run, isEscaped) ← readQuotedRun quote fuel
    return (c :: run, isEscaped)

/-- Reads a quoted scalar behind its opening quote. -/
def readQuoted (quote : Char) : Nat → Reader (List Char)
  | 0 => failure
  | fuel + 1 => do
      let here ← get
      if here.atMarker ∨ here.rest = [] then failure
      let (run, isEscaped) ← readQuotedRun quote (here.rest.length + 1)
      if (← head?) = some quote then
        next
        return run
      else
        let gap ← readGap 0 ((← ahead).length + 1) (if isEscaped then .escaped else .none)
        return run ++ gap.text ++ (← readQuoted quote fuel)

/-! ### Block scalars -/

/-- What to do with the line ends at the end of a block scalar. -/
inductive Chomping where
  | strip
  | clip
  | keep
  deriving DecidableEq, Repr

/-- The marks behind the sign of a block scalar. -/
structure BlockHeader where
  isLiteral : Bool
  chomping : Chomping
  increment : Option Nat

def readChomping : Reader (Option Chomping) := do
  match ← head? with
  | some '+' => do next; return some .keep
  | some '-' => do next; return some .strip
  | _ => return none

def readIncrement : Reader (Option Nat) := do
  match ← head? with
  | some c =>
      if c = '0' then failure
      else if c.isDigit then do next; return some (c.toNat - '0'.toNat)
      else return none
  | none => return none

/-- Reads the header of a block scalar up to the end of its line. -/
def readHeader (isLiteral : Bool) : Reader BlockHeader := do
  next
  let early ← readChomping
  let increment ← readIncrement
  let late ← if early.isNone then readChomping else pure none
  endLine
  return { isLiteral, chomping := (early <|> late).getD .clip, increment }

/-- Reads the indentation of lines and the lines that hold nothing else. Hands back the
ends of those lines and the widest indentation seen.
-/
def readBreaks (indent : Option Nat) : Nat → List Char → Nat → Reader (List Char × Nat)
  | 0, _, _ => failure
  | fuel + 1, breaks, widest => do
      let column := (← get).column
      let isShort := indent.all (column < ·)
      match ← head? with
      | some c =>
          if c = ' ' ∧ isShort then do next; readBreaks indent fuel breaks widest
          else if c = '\t' ∧ isShort then failure
          else if isBreak c then do
            let ending ← takeBreak
            readBreaks indent fuel (breaks ++ ending) (max widest column)
          else return (breaks, max widest column)
      | none => return (breaks, max widest column)

/-- Reads the lines of a block scalar. Between a line and the one above stand the end of
that one and the ends of the empty lines; a fold joins lines that do not start with white
space.
-/
def readLines (header : BlockHeader) (indent : Nat) (ending empty : List Char)
    (wasBlank : Bool) : Nat → Reader (List Char)
  | 0 => failure
  | fuel + 1 => do
      let here ← get
      if here.column ≠ indent ∨ here.rest = [] then
        match header.chomping with
        | .strip => return []
        | .clip => return ending
        | .keep => return ending ++ empty
      else
        let isBlank := here.rest.head?.any isBlank
        let join :=
          if header.isLiteral ∨ ending ≠ ['\n'] ∨ wasBlank ∨ isBlank then ending ++ empty
          else Gap.fold ending empty
        let line ← takeWhile (!isBreak ·)
        let ending ← takeBreak
        let (empty, _) ← readBreaks (some indent) (here.rest.length + 1) [] 0
        return join ++ line ++ (← readLines header indent ending empty isBlank fuel)

/-- Reads a block scalar from its sign on, within a block of an indentation. -/
def readBlock (isLiteral : Bool) (parent : Int) : Reader (List Char) := do
  let header ← readHeader isLiteral
  let size := (← ahead).length + 1
  let given := header.increment.map ((max parent 0).toNat + ·)
  let (empty, widest) ← readBreaks given size [] 0
  let indent := given.getD (max (max widest (parent + 1).toNat) 1)
  readLines header indent [] empty false size

end MailMerge.Yaml
