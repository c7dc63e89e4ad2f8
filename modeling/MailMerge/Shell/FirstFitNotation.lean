import MailMerge.Shell.Arithmetic
import MailMerge.Shell.FirstFit

/-! The notation of the expressions whose first fitting way is taken. A text is read twice:
at first only to learn how many groups there are and how they are named.
-/

namespace MailMerge.Shell.FirstFit

/-- How what follows is read. -/
structure Manner where
  ignoresCase : Bool
  isMultiline : Bool
  pointTakesAll : Bool
  isSpaced : Bool
  skipsCaptures : Bool
  prefersFew : Bool
  deriving DecidableEq, Repr

def plainManner : Manner where
  ignoresCase := false
  isMultiline := false
  pointTakesAll := false
  isSpaced := false
  skipsCaptures := false
  prefersFew := false

/-- What is known about the groups before the reading: nothing in a first reading. -/
structure Survey where
  groups : Nat
  names : List (String × Nat)

structure Writing where
  rest : List Char
  manner : Manner
  groups : Nat
  names : List (String × Nat)
  /-- Whether signs are taken as they stand. -/
  isQuoted : Bool
  isInLook : Bool

abbrev Reader := ReaderT (Option Survey) (StateT Writing (Except String))

def fail {α : Type} (message : String) : Reader α :=
  fun _ _ => .error message

def ahead : Reader (List Char) :=
  return (← get).rest

def drop (count : Nat) : Reader Unit :=
  modify fun writing => { writing with rest := writing.rest.drop count }

/-- Takes a text if it stands ahead. -/
def take (text : String) : Reader Bool := do
  if text.toList.isPrefixOf (← ahead) then
    drop text.length
    return true
  else return false

def setOf (isNegated : Bool) (ranges : List (Char × Char)) : Reader FirstFit := do
  return .chars { isNegated, ranges, ignoresCase := (← get).manner.ignoresCase }

def char (c : Char) : Reader FirstFit :=
  setOf false [(c, c)]

/-! ### Sets -/

def horizontalRanges : List (Char × Char) :=
  [('\t', '\t'), (' ', ' '), ('\xa0', '\xa0')]

def verticalRanges : List (Char × Char) :=
  [('\n', '\r'), ('\x85', '\x85')]

/-- The ranges of what is not in some ranges. -/
def complement (ranges : List (Char × Char)) : List (Char × Char) :=
  (List.range 256).filterMap fun code =>
    let c := Char.ofNat code
    if ranges.any fun range => range.1 ≤ c && c ≤ range.2 then none else some (c, c)

def upperRanges : List (Char × Char) :=
  [('A', 'Z'), ('\xc0', '\xd6'), ('\xd8', '\xde')]

def lowerRanges : List (Char × Char) :=
  [('a', 'z'), ('\xb5', '\xb5'), ('\xdf', '\xf6'), ('\xf8', '\xff')]

def letterRanges : List (Char × Char) :=
  upperRanges ++ lowerRanges ++ [('\xaa', '\xaa'), ('\xba', '\xba')]

def numberRanges : List (Char × Char) :=
  [('0', '9'), ('\xb2', '\xb3'), ('\xb9', '\xb9'), ('\xbc', '\xbe')]

def markRanges : List (Char × Char) :=
  "!\x22#%&'()*,-./:;?@[\\]_\x7b\x7d\xa1\xa7\xab\xb6\xb7\xbb\xbf".toList.map fun c => (c, c)

def signRanges : List (Char × Char) :=
  "$+<=>^\x60|~\xa2\xa3\xa4\xa5\xa6\xa8\xa9\xac\xae\xaf\xb0\xb1\xb4\xb8\xd7\xf7".toList.map
    fun c => (c, c)

/-- Kinds of characters by the names of their properties. -/
def properties : List (String × List (Char × Char)) :=
  [
    ("L", letterRanges), ("Lu", upperRanges), ("Ll", lowerRanges),
    ("L&", upperRanges ++ lowerRanges), ("Lo", [('\xaa', '\xaa'), ('\xba', '\xba')]),
    ("Lt", []), ("Lm", []), ("M", []), ("Mn", []), ("N", numberRanges), ("Nd", [('0', '9')]),
    ("No", numberRanges.tail), ("Nl", []), ("P", markRanges), ("S", signRanges),
    ("Sc", [('$', '$'), ('\xa2', '\xa5')]), ("Z", [(' ', ' '), ('\xa0', '\xa0')]),
    ("Zs", [(' ', ' '), ('\xa0', '\xa0')]), ("Zl", []), ("Zp", []),
    ("C", [('\x00', '\x1f'), ('\x7f', '\x9f'), ('\xad', '\xad')]),
    ("Cc", [('\x00', '\x1f'), ('\x7f', '\x9f')]), ("Any", [('\x00', '\xff')]),
    ("Xan", letterRanges ++ numberRanges), ("Xwd", ('_', '_') :: letterRanges ++ numberRanges),
    ("Xsp", Expression.spaceRanges ++ [('\x85', '\x85'), ('\xa0', '\xa0')]),
    ("Xps", Expression.spaceRanges ++ [('\x85', '\x85'), ('\xa0', '\xa0')]),
    ("Latin", letterRanges.filter fun range => range.1 ≠ '\xb5')
  ]

/-- Reads the name of a property; it may be negated. -/
def property (isNegated : Bool) : Reader (List (Char × Char)) := do
  let malformed := "malformed \\P or \\p sequence"
  let (name, isNegated) ←
    if ← take "\x7b" then do
      let isTurned ← take "^"
      let name := (← ahead).takeWhile fun c => c.isAlphanum || c = '_' || c = '&'
      drop name.length
      if !(← take "\x7d") then fail malformed
      pure (String.ofList name, isTurned != isNegated)
    else
      match ← ahead with
      | [] => fail malformed
      | c :: _ => do
          drop 1
          pure (String.singleton c, isNegated)
  match properties.lookup name with
  | none => fail "unknown property after \\P or \\p"
  | some ranges => return if isNegated then complement ranges else ranges

/-- The characters that a letter behind a backslash stands for, where it stands for many. -/
def kindRanges? (c : Char) : Option (List (Char × Char)) :=
  match c with
  | 'd' => some [('0', '9')]
  | 'D' => some (complement [('0', '9')])
  | 'w' => some Expression.wordRanges
  | 'W' => some (complement Expression.wordRanges)
  | 's' => some Expression.spaceRanges
  | 'S' => some (complement Expression.spaceRanges)
  | 'h' => some horizontalRanges
  | 'H' => some (complement horizontalRanges)
  | 'v' => some verticalRanges
  | 'V' => some (complement verticalRanges)
  | _ => none

def isDigitOf (base : Nat) (c : Char) : Bool :=
  (Arithmetic.digitOf? base c).isSome

def digitsValue (base : Nat) (digits : List Char) : Nat :=
  digits.foldl (fun value c => base * value + (Arithmetic.digitOf? base c).getD 0) 0

/-- Reads the number of a character within braces. -/
def bracedCode (base : Nat) (problem : String) : Reader Char := do
  let digits := (← ahead).takeWhile (isDigitOf base)
  drop digits.length
  if digits = [] ∨ !(← take "\x7d") then fail problem
  let code := digitsValue base digits
  if 255 < code then fail "character code point value in \\x\x7b\x7d or \\o\x7b\x7d is too large"
  return Char.ofNat code

def octalCode (most : Nat) : Reader Char := do
  let digits := ((← ahead).take most).takeWhile (isDigitOf 8)
  drop digits.length
  let code := digitsValue 8 digits
  if 255 < code then fail "octal value is greater than \\377 in 8-bit non-UTF-8 mode"
  return Char.ofNat code

/-- The one character that a letter behind a backslash stands for, if it does. The letter
has been taken.
-/
def namedChar? (c : Char) : Reader (Option Char) := do
  match c with
  | 'a' => return some '\x07'
  | 'e' => return some '\x1b'
  | 'f' => return some '\x0c'
  | 'n' => return some '\n'
  | 'r' => return some '\r'
  | 't' => return some '\t'
  | '0' => some <$> octalCode 2
  | 'o' =>
      if ← take "\x7b" then
        some <$> bracedCode 8 "non-octal character in \\o\x7b\x7d (closing brace missing?)"
      else fail "missing opening brace after \\o"
  | 'x' =>
      if ← take "\x7b" then
        some <$> bracedCode 16 "non-hex character in \\x\x7b\x7d (closing brace missing?)"
      else do
        let digits := ((← ahead).take 2).takeWhile (isDigitOf 16)
        drop digits.length
        return some (Char.ofNat (digitsValue 16 digits))
  | 'c' =>
      match ← ahead with
      | [] => fail "\\c at end of pattern"
      | letter :: _ => do
          drop 1
          if letter < ' ' ∨ '~' < letter then
            fail "\\c must be followed by a printable ASCII character"
          return some (Char.ofNat (letter.toUpper.toNat ^^^ 64))
  | _ => return if c.isAlphanum then none else some c

/-- What a letter behind a backslash that means nothing comes to. -/
def unknownEscape {α : Type} (c : Char) : Reader α :=
  if "FLlUuN".toList.contains c then
    fail "PCRE2 does not support \\F, \\L, \\l, \\N\x7bname\x7d, \\U, or \\u"
  else fail "unrecognized character follows \\"

def openSet : String := "missing terminating ] for character class"

/-- The classes of characters by name. -/
def classRanges? (manner : Manner) (name : String) : Option (List (Char × Char)) :=
  match name with
  | "word" => some Expression.wordRanges
  | "ascii" => some [('\x00', '\x7f')]
  | _ =>
      let name :=
        if manner.ignoresCase ∧ (name = "upper" ∨ name = "lower") then "alpha" else name
      Expression.classes.lookup name

/-- One member of a set: a character, or many. -/
inductive Member where
  | one (c : Char)
  | many (ranges : List (Char × Char))

/-- A named class that stands ahead behind an opening bracket. -/
def cutClass? (rest : List Char) : Option (Char × List Char × List Char) :=
  match rest with
  | '[' :: mark :: cs =>
      if mark = ':' ∨ mark = '.' ∨ mark = '=' then
        match Expression.cutName mark cs with
        | some (name, rest) =>
            if name.any fun c => c = ']' || c = '\\' || c = '[' then none else some (mark, name, rest)
        | none => none
      else none
  | _ => none

/-- Reads one member of a set, which is not closed here. -/
def member : Reader Member := do
  let rest ← ahead
  match cutClass? rest with
  | some (mark, name, behind) =>
      if mark ≠ ':' then fail "POSIX collating elements are not supported"
      let isNegated : Bool := name.head? = some '^'
      let name := String.ofList (if isNegated then name.tail else name)
      match classRanges? (← get).manner name with
      | none => fail "unknown POSIX class name"
      | some ranges => do
          modify fun writing => { writing with rest := behind }
          return .many (if isNegated then complement ranges else ranges)
  | none =>
      match rest with
      | ['\\'] => fail "\\ at end of pattern"
      | '\\' :: c :: _ => do
          drop 2
          if c = 'b' then return .one '\x08'
          else if c = 'p' ∨ c = 'P' then return .many (← property (c = 'P'))
          else if c = 'N' then fail "\\N is not supported in a class"
          else if c = 'B' ∨ c = 'R' ∨ c = 'X' then
            fail "escape sequence is invalid in character class"
          else
            match kindRanges? c with
            | some ranges => return .many ranges
            | none =>
                if c.isDigit ∧ c ≠ '0' then
                  if isDigitOf 8 c then
                    modify fun writing => { writing with rest := c :: writing.rest }
                    return .one (← octalCode 3)
                  else return .one c
                else
                  match ← namedChar? c with
                  | some c => return .one c
                  | none => unknownEscape c
      | c :: _ => do
          drop 1
          return .one c
      | [] => fail openSet

/-- Reads the members of a set up to the closing bracket. -/
def members (isFirst : Bool) : Nat → Reader (List (Char × Char))
  | 0 => fail openSet
  | fuel + 1 => do
      let writing ← get
      if writing.isQuoted then
        if ← take "\\E" then
          modify fun writing => { writing with isQuoted := false }
          members isFirst fuel
        else
          match writing.rest with
          | [] => fail openSet
          | c :: _ => do
              drop 1
              return (c, c) :: (← members false fuel)
      else if ← take "\\Q" then
        modify fun writing => { writing with isQuoted := true }
        members isFirst fuel
      else if ← take "\\E" then members isFirst fuel
      else if !isFirst ∧ writing.rest.head? = some ']' then
        drop 1
        return []
      else
        let low ← member
        let isRange : Bool :=
          match ← ahead with
          | '-' :: next :: _ => next ≠ ']'
          | _ => false
        match low with
        | .many ranges => do
            if isRange then fail "invalid range in character class"
            return ranges ++ (← members false fuel)
        | .one low => do
            if isRange then
              drop 1
              match ← member with
              | .many _ => fail "invalid range in character class"
              | .one high => do
                  if high < low then fail "range out of order in character class"
                  return (low, high) :: (← members false fuel)
            else return (low, low) :: (← members false fuel)

def bracket : Reader FirstFit := do
  if (cutClass? (← ahead)).isSome then
    fail "POSIX named classes are supported only within a class"
  drop 1
  let isNegated ← take "^"
  let ranges ← members true ((← ahead).length + 1)
  setOf isNegated ranges

/-! ### Repetitions -/

def maxRepetition : Nat := 65535

/-- Bounds of a repetition that stand ahead: how many signs they take, and the bounds. -/
def cutBounds? (rest : List Char) : Option (Nat × List Char × Option (List Char)) :=
  match rest with
  | '\x7b' :: behind =>
      let least := behind.takeWhile Char.isDigit
      let behind := behind.drop least.length
      if least = [] then none
      else
        match behind with
        | '\x7d' :: _ => some (least.length + 2, least, some least)
        | ',' :: behind =>
            let most := behind.takeWhile Char.isDigit
            if (behind.drop most.length).head? = some '\x7d' then
              some (least.length + most.length + 3, least, if most = [] then none else some most)
            else none
        | _ => none
  | _ => none

/-- Whether a sign of repetition stands ahead. -/
def startsRepetition (rest : List Char) : Bool :=
  match rest with
  | c :: _ => c = '*' || c = '+' || c = '?' || (cutBounds? rest).isSome
  | [] => false

/-- Reads the repetition behind a part, if there is one. -/
def repetition (body : FirstFit) : Reader FirstFit := do
  let rest ← ahead
  let bounds : Option (Nat × Nat × Option Nat) ←
    match rest with
    | '*' :: _ => pure (some (1, 0, none))
    | '+' :: _ => pure (some (1, 1, none))
    | '?' :: _ => pure (some (1, 0, some 1))
    | _ =>
        match cutBounds? rest with
        | none => pure none
        | some (size, least, most) => do
            let low := digitsValue 10 least
            let high := most.map (digitsValue 10)
            if maxRepetition < low ∨ high.any (maxRepetition < ·) then
              fail "number too big in \x7b\x7d quantifier"
            if high.any (· < low) then fail "numbers out of order in \x7b\x7d quantifier"
            pure (some (size, low, high))
  match bounds with
  | none => return body
  | some (size, least, most) => do
      drop size
      let few := (← get).manner.prefersFew
      if ← take "+" then return .settled (.repeated body least most false)
      else if ← take "?" then return .repeated body least most (!few)
      else return .repeated body least most few

/-! ### Names and references -/

def isNameChar (c : Char) : Bool :=
  c.isAlphanum || c = '_'

/-- Reads the name of a group up to its end. -/
def groupName (closing : String) : Reader String := do
  let name := (← ahead).takeWhile isNameChar
  if name = [] then fail "subpattern name expected"
  if (name.headD 'a').isDigit then fail "subpattern name must start with a non-digit"
  drop name.length
  if !(← take closing) then fail "syntax error in subpattern name (missing terminator?)"
  return String.ofList name

def noSuchGroup : String := "reference to non-existent subpattern"

/-- The group of a number, if there is one in the whole text. -/
def groupNumbered (number : Nat) : Reader Nat := do
  match ← read with
  | none => return number
  | some survey => if survey.groups < number then fail noSuchGroup else return number

def groupNamed (name : String) : Reader Nat := do
  match ← read with
  | none => return 0
  | some survey =>
      match survey.names.lookup name with
      | some number => return number
      | none => fail noSuchGroup

/-- Opens a group that is counted, and gives its number. -/
def openGroup (name : Option String) : Reader Nat := do
  let writing ← get
  let number := writing.groups + 1
  let names ←
    match name with
    | none => pure writing.names
    | some name =>
        match writing.names.lookup name with
        | some other =>
            if other = number then pure writing.names
            else fail "two named subpatterns have the same name (PCRE2_DUPNAMES not set)"
        | none => pure ((name, number) :: writing.names)
  modify fun writing => { writing with groups := number, names }
  return number

/-- A number of a group, which may count from here. -/
def relativeNumber? (rest : List Char) : Option (Nat × Char × Nat) :=
  let (sign, digits) :=
    match rest with
    | '+' :: rest => ('+', rest)
    | '-' :: rest => ('-', rest)
    | _ => (' ', rest)
  let digits := digits.takeWhile Char.isDigit
  if digits = [] then none
  else some (digits.length + (if sign = ' ' then 0 else 1), sign, digitsValue 10 digits)

/-- The group that a number means. -/
def numberedFrom (sign : Char) (number : Nat) : Reader Nat := do
  let here := (← get).groups
  if sign = '+' then groupNumbered (here + number)
  else if sign = '-' then
    if here < number ∨ number = 0 then fail noSuchGroup else groupNumbered (here + 1 - number)
  else groupNumbered number

/-- What a group of a number has matched. -/
def refer (number : Nat) : Reader FirstFit := do
  return .again number (← get).manner.ignoresCase

/-- Reads what stands behind a letter that refers to a group. -/
def reference : Reader FirstFit := do
  let problem :=
    "\\g is not followed by a braced, angle-bracketed, or quoted name/number or by a plain number"
  let numbered (closing : String) (isCall : Bool) : Reader FirstFit := do
    match relativeNumber? (← ahead) with
    | some (size, sign, number) => do
        drop size
        let number ← numberedFrom sign number
        if !(← take closing) then fail problem
        if isCall then return .call number else refer number
    | none => do
        let number ← groupNamed (← groupName closing)
        if isCall then return .call number else refer number
  if ← take "\x7b" then numbered "\x7d" false
  else if ← take "<" then numbered ">" true
  else if ← take "'" then numbered "'" true
  else
    match relativeNumber? (← ahead) with
    | some (size, sign, number) => do
        drop size
        refer (← numberedFrom sign number)
    | none => fail problem

def namedReference : Reader FirstFit := do
  let closing ←
    if ← take "\x7b" then pure "\x7d"
    else if ← take "<" then pure ">"
    else if ← take "'" then pure "'"
    else fail "\\k is not followed by a braced, angle-bracketed, or quoted name"
  refer (← groupNamed (← groupName closing))

/-! ### Parts -/

/-- A part of an expression, and whether it may be repeated. -/
abbrev Piece := FirstFit × Bool

/-- A line end of any kind. -/
def lineEnd : FirstFit :=
  let one (ranges : List (Char × Char)) : FirstFit :=
    .chars { isNegated := false, ranges, ignoresCase := false }
  .settled (.either (.both (one [('\r', '\r')]) (one [('\n', '\n')])) (one verticalRanges))

/-- Reads what a backslash stands in front of. -/
def escape : Reader Piece := do
  drop 1
  match ← ahead with
  | [] => fail "\\ at end of pattern"
  | c :: rest => do
      drop 1
      if c.isDigit ∧ c ≠ '0' then
        let digits := c :: rest.takeWhile Char.isDigit
        let number := digitsValue 10 digits
        let total := ((← read).map Survey.groups).getD 0
        if number < 10 ∨ number ≤ total ∨ !isDigitOf 8 c then
          drop (digits.length - 1)
          return (← refer (← groupNumbered number), true)
        else
          modify fun writing => { writing with rest := c :: writing.rest }
          return (← char (← octalCode 3), true)
      match c with
      | 'b' => return (.edge .wordEdge, false)
      | 'B' => return (.edge .noWordEdge, false)
      | 'A' => return (.edge .start, false)
      | 'G' => return (.nothing, false)
      | 'z' => return (.edge .finish, false)
      | 'Z' => return (.nearFinish, false)
      | 'K' =>
          if (← get).isInLook then
            fail
              "\\K is not allowed in lookarounds (but see PCRE2_EXTRA_ALLOW_LOOKAROUND_BSK)"
          return (.keep, false)
      | 'R' => return (lineEnd, true)
      | 'X' => return (.settled (.chars { isNegated := true, ranges := [], ignoresCase := false }), true)
      | 'C' => return (← setOf true [], true)
      | 'g' => return (← reference, true)
      | 'k' => return (← namedReference, true)
      | 'p' => return (← setOf false (← property false), true)
      | 'P' => return (← setOf false (← property true), true)
      | 'N' =>
          if rest.head? = some '\x7b' then unknownEscape c
          return (← setOf true [(newline, newline)], true)
      | _ =>
          match kindRanges? c with
          | some ranges => return (← setOf false ranges, true)
          | none =>
              match ← namedChar? c with
              | some c => return (← char c, true)
              | none => unknownEscape c

/-- Reads letters that change how what follows is read, up to the end of their list. -/
def manners (isOn : Bool) : Nat → Reader Unit
  | 0 => fail "missing closing parenthesis"
  | fuel + 1 => do
      match ← ahead with
      | [] => fail "missing closing parenthesis"
      | c :: _ =>
          if c = ')' ∨ c = ':' then return
          drop 1
          let set (change : Manner → Manner) : Reader Unit := do
            modify fun writing => { writing with manner := change writing.manner }
            manners isOn fuel
          match c with
          | '-' => manners false fuel
          | 'i' => set fun manner => { manner with ignoresCase := isOn }
          | 'm' => set fun manner => { manner with isMultiline := isOn }
          | 's' => set fun manner => { manner with pointTakesAll := isOn }
          | 'x' => set fun manner => { manner with isSpaced := isOn }
          | 'n' => set fun manner => { manner with skipsCaptures := isOn }
          | 'U' => set fun manner => { manner with prefersFew := isOn }
          | 'J' => set id
          | _ => fail "unrecognized character after (? or (?-"

/-- Reads the name of a command such as a cut, up to its parenthesis. -/
def verb : Reader FirstFit := do
  let problem := "(*VERB) not recognized or malformed"
  let name := (← ahead).takeWhile fun c => c ≠ ')'
  drop name.length
  if !(← take ")") then fail problem
  match String.ofList name with
  | "F" | "FAIL" => return .never
  | "ACCEPT" => return .accept
  | "SKIP" => return .cut .here
  | "PRUNE" => return .cut .nextStart
  | "COMMIT" => return .cut .nowhere
  | _ => fail problem

/-- Drops blanks and remarks where they mean nothing. -/
def skipBlanks : Nat → Reader Unit
  | 0 => return
  | fuel + 1 => do
      if ← take "(?#" then
        let rest := (← ahead).dropWhile (· ≠ ')')
        if rest = [] then fail "missing ) after (?# comment"
        modify fun writing => { writing with rest := rest.tail }
        skipBlanks fuel
      else if (← get).manner.isSpaced then
        match ← ahead with
        | '#' :: rest => do
            modify fun writing => { writing with rest := (rest.dropWhile (· ≠ newline)).tail }
            skipBlanks fuel
        | c :: _ =>
            if isSpace c then
              drop 1
              skipBlanks fuel
        | [] => return

mutual
/-- Branches, of which any may match; in a set of equals each numbers its groups alike. -/
def branches (isAlike : Bool) : Nat → Reader FirstFit
  | 0 => fail "missing closing parenthesis"
  | fuel + 1 => do
      let before := (← get).groups
      let first ← branch fuel
      if !(← get).isQuoted ∧ (← take "|") then
        let counted := (← get).groups
        if isAlike then modify fun writing => { writing with groups := before }
        let others ← branches isAlike fuel
        if isAlike then
          modify fun writing => { writing with groups := max counted writing.groups }
        return .either first others
      else return first
termination_by structural fuel => fuel

/-- Parts one after the other. -/
def branch : Nat → Reader FirstFit
  | 0 => fail "missing closing parenthesis"
  | fuel + 1 => do
      let writing ← get
      if writing.isQuoted then
        if ← take "\\E" then
          modify fun writing => { writing with isQuoted := false }
          branch fuel
        else
          match writing.rest with
          | [] => return .nothing
          | c :: rest => do
              drop 1
              let one ← char c
              let one ←
                if ['\\', 'E'].isPrefixOf rest then do
                  drop 2
                  modify fun writing => { writing with isQuoted := false }
                  repetition one
                else pure one
              return .both one (← branch fuel)
      else if ← take "\\Q" then
        modify fun writing => { writing with isQuoted := true }
        branch fuel
      else if ← take "\\E" then branch fuel
      else
        let start ← ahead
        skipBlanks (start.length + 1)
        match ← ahead with
        | [] => return .nothing
        | '|' :: _ => return .nothing
        | ')' :: _ => return .nothing
        | rest => do
            if startsRepetition rest then fail "quantifier does not follow a repeatable item"
            let (body, isRepeatable) ← part fuel
            skipBlanks ((← ahead).length + 1)
            let body ← if isRepeatable then repetition body else pure body
            return .both body (← branch fuel)
termination_by structural fuel => fuel

/-- One part. -/
def part : Nat → Reader Piece
  | 0 => fail "missing closing parenthesis"
  | fuel + 1 => do
      let manner := (← get).manner
      match ← ahead with
      | '[' :: _ => return (← bracket, true)
      | '\\' :: _ => escape
      | '.' :: _ => do
          drop 1
          return (← setOf true (if manner.pointTakesAll then [] else [(newline, newline)]), true)
      | '^' :: _ => do
          drop 1
          return (.edge (if manner.isMultiline then .lineStart else .start), false)
      | '$' :: _ => do
          drop 1
          return (.edge (if manner.isMultiline then .lineFinish else .finish), false)
      | '(' :: '*' :: _ => do
          drop 2
          return (← verb, false)
      | '(' :: '?' :: _ => do
          drop 2
          special fuel
      | '(' :: _ => do
          drop 1
          if manner.skipsCaptures then return (← closed false fuel, true)
          else
            let number ← openGroup none
            return (.group number (← closed false fuel), true)
      | c :: _ => do
          drop 1
          return (← char c, true)
      | [] => return (.nothing, false)
termination_by structural fuel => fuel

/-- Branches up to a closing parenthesis, behind which all is read as before. -/
def closed (isAlike : Bool) : Nat → Reader FirstFit
  | 0 => fail "missing closing parenthesis"
  | fuel + 1 => do
      let before := (← get).manner
      let body ← branches isAlike fuel
      if !(← take ")") then fail "missing closing parenthesis"
      modify fun writing => { writing with manner := before }
      return body
termination_by structural fuel => fuel

/-- What looks ahead or behind. -/
def looking (isBehind isNegated : Bool) : Nat → Reader FirstFit
  | 0 => fail "missing closing parenthesis"
  | fuel + 1 => do
      let before := (← get).isInLook
      modify fun writing => { writing with isInLook := true }
      let body ← closed false fuel
      modify fun writing => { writing with isInLook := before }
      if isBehind ∧ !body.isMeasured then fail "lookbehind assertion is not fixed length"
      return .look isBehind isNegated body
termination_by structural fuel => fuel

/-- What stands behind an opening parenthesis and a question mark. -/
def special : Nat → Reader Piece
  | 0 => fail "missing closing parenthesis"
  | fuel + 1 => do
      let named (closing : String) : Reader Piece := do
        let number ← openGroup (some (← groupName closing))
        return (.group number (← closed false fuel), true)
      let ended (piece : FirstFit) : Reader Piece := do
        if !(← take ")") then fail "missing closing parenthesis"
        return (piece, true)
      if ← take ":" then return (← closed false fuel, true)
      else if ← take "|" then return (← closed true fuel, true)
      else if ← take ">" then return (.settled (← closed false fuel), true)
      else if ← take "=" then return (← looking false false fuel, true)
      else if ← take "!" then return (← looking false true fuel, true)
      else if ← take "<=" then return (← looking true false fuel, true)
      else if ← take "<!" then return (← looking true true fuel, true)
      else if ← take "<" then named ">"
      else if ← take "P<" then named ">"
      else if ← take "'" then named "'"
      else if ← take "P=" then return (← refer (← groupNamed (← groupName ")")), true)
      else if ← take "P>" then return (.call (← groupNamed (← groupName ")")), true)
      else if ← take "&" then return (.call (← groupNamed (← groupName ")")), true)
      else if ← take "R" then ended (.call 0)
      else if ← take "C" then
        let digits := (← ahead).takeWhile Char.isDigit
        drop digits.length
        let (piece, _) ← ended .nothing
        return (piece, false)
      else if ← take "(" then conditional fuel
      else
        match relativeNumber? (← ahead) with
        | some (size, sign, number) => do
            drop size
            ended (.call (← numberedFrom sign number))
        | none => do
            let before := (← get).manner
            if ← take "^" then
              modify fun writing =>
                { writing with
                  manner := { plainManner with prefersFew := writing.manner.prefersFew } }
            if (← take "P") ∧ (← ahead) ≠ [] then
              fail "unrecognized character after (?P"
            manners true ((← ahead).length + 1)
            if ← take ":" then
              let body ← branches false fuel
              if !(← take ")") then fail "missing closing parenthesis"
              modify fun writing => { writing with manner := before }
              return (body, true)
            else
              drop 1
              return (.nothing, false)
termination_by structural fuel => fuel

/-- Two ways, by whether a group has matched or by what stands ahead or behind. -/
def conditional : Nat → Reader Piece
  | 0 => fail "missing closing parenthesis"
  | fuel + 1 => do
      let condition ←
        if ← take "?=" then looking false false fuel
        else if ← take "?!" then looking false true fuel
        else if ← take "?<=" then looking true false fuel
        else if ← take "?<!" then looking true true fuel
        else if ← take "DEFINE)" then pure .never
        else if ← take "<" then do
          let number ← groupNamed (← groupName ">")
          if !(← take ")") then fail "missing closing parenthesis for condition"
          pure (.known number)
        else if ← take "'" then do
          let number ← groupNamed (← groupName "'")
          if !(← take ")") then fail "missing closing parenthesis for condition"
          pure (.known number)
        else
          match relativeNumber? (← ahead) with
          | some (size, sign, number) => do
              drop size
              let number ← numberedFrom sign number
              if !(← take ")") then fail "missing closing parenthesis for condition"
              pure (.known number)
          | none => do
              let number ← groupNamed (← groupName ")")
              pure (.known number)
      match ← closed false fuel with
      | .either _ (.either ..) => fail "conditional subpattern contains more than two branches"
      | .either yes no => return (.whether condition yes no, true)
      | yes => return (.whether condition yes .nothing, true)
termination_by structural fuel => fuel
end

/-- Reads a whole text, with what is known about its groups. -/
def readWith (survey : Option Survey) (manner : Manner) (text : List Char)
    : Except String (FirstFit × Writing) := do
  let ((part, writing) : FirstFit × Writing) ←
    ((branches false (8 * text.length + 16)).run survey).run
      {
        rest := text
        manner
        groups := 0
        names := []
        isQuoted := false
        isInLook := false
      }
  if writing.rest ≠ [] then .error "unmatched closing parenthesis" else .ok (part, writing)

/-- Reads an expression, or says what is wrong with it. -/
def read? (ignoresCase : Bool) (text : List Char) : Except String FirstFit := do
  let manner := { plainManner with ignoresCase }
  let (_, writing) ← readWith none manner text
  let survey : Survey := { groups := writing.groups, names := writing.names }
  return (← readWith (some survey) manner text).1

end MailMerge.Shell.FirstFit
