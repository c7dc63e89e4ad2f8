import MailMerge.Shell.FirstFitNotation
import MailMerge.Shell.Utility.Lines
import MailMerge.Shell.Wildcard

/-! Searching lines for patterns. -/

namespace MailMerge.Shell.Utility

open Work

/-- The switches of a search by their names. -/
def searchNames : List (String × Char) :=
  [
    ("extended-regexp", 'E'), ("fixed-strings", 'F'), ("basic-regexp", 'G'),
    ("perl-regexp", 'P'), ("regexp", 'e'), ("file", 'f'), ("ignore-case", 'i'),
    ("no-ignore-case", '\x06'), ("invert-match", 'v'), ("word-regexp", 'w'),
    ("line-regexp", 'x'), ("count", 'c'), ("files-with-matches", 'l'),
    ("files-without-match", 'L'), ("max-count", 'm'), ("only-matching", 'o'), ("quiet", 'q'),
    ("silent", 'q'), ("no-messages", 's'), ("byte-offset", 'b'), ("no-filename", 'h'),
    ("with-filename", 'H'), ("label", '\x02'), ("line-number", 'n'), ("after-context", 'A'),
    ("before-context", 'B'), ("context", 'C'), ("text", 'a'), ("recursive", 'r'),
    ("dereference-recursive", 'R'), ("null", 'Z'), ("null-data", 'z'), ("initial-tab", 'T'),
    ("binary", 'U'), ("binary-files", '\x07'), ("line-buffered", '\x01'),
    ("directories", 'd'), ("devices", 'D'), ("include", '\x03'), ("exclude", '\x04'),
    ("exclude-dir", '\x08'), ("group-separator", '\x0b'), ("no-group-separator", '\x0c'),
    ("color", '\x05'), ("colour", '\x05')
  ]

def searchSwitches : Switches :=
  let switches :=
    Switches.of "EFGPivwxyclLqshHnboaIrRUuzZT\x01\x06\x0c" "efmABCdD\x02\x03\x04\x07\x08\x0b"
      searchNames
  { switches with letters := ('\x05', .optional) :: switches.letters }

/-- One pattern, of which the longest match counts or the first. -/
inductive Matcher where
  | longest (expression : Expression)
  | first (expression : FirstFit)

/-- The first match behind what has been passed, the last character of which comes first. -/
def Matcher.find? (matcher : Matcher) (passed text : List Char) : Option Expression.Match :=
  match matcher with
  | longest expression => expression.find? passed.head? text
  | first expression => expression.find? passed text

/-- What lines are searched for. -/
structure Quest where
  matchers : List Matcher
  isInverted : Bool

/-- The first match of any pattern; the longest one where several start together. -/
def Quest.find? (quest : Quest) (passed text : List Char) : Option Expression.Match :=
  (quest.matchers.filterMap (·.find? passed text)).foldl
    (fun best found =>
      match best with
      | none => some found
      | some best =>
          let isEarlier := found.before.length < best.before.length
          let isLonger :=
            found.before.length = best.before.length && best.text.length < found.text.length
          some (if isEarlier || isLonger then found else best))
    none

def Quest.selects (quest : Quest) (line : List Char) : Bool :=
  (quest.matchers.any fun matcher => (matcher.find? [] line).isSome) != quest.isInverted

/-- The parts of a line that match, with their places, the last one first. -/
def Quest.matchesIn (quest : Quest) : Nat → List Char → Nat → List Char
    → List (Nat × List Char) → List (Nat × List Char)
  | 0, _, _, _, found => found
  | fuel + 1, passed, place, text, found =>
      match quest.find? passed text with
      | none => found
      | some hit =>
          let start := place + hit.before.length
          let passed := hit.text.reverse ++ hit.before.reverse ++ passed
          if hit.text.isEmpty then
            match hit.after with
            | [] => found
            | c :: rest => quest.matchesIn fuel (c :: passed) (start + 1) rest found
          else
            quest.matchesIn fuel passed (start + hit.text.length) hit.after
              ((start, hit.text) :: found)

/-- The lines of a pattern; an empty one is one empty line. -/
def patternLines (text : String) : List (List Char) :=
  text.toList.splitOn newline

def searchFail {α : Type} (problem : String) : Work α :=
  fail 2 "grep" problem

/-- The kind of patterns that the switches ask for. -/
def patternKind (arguments : Arguments) : Work Char := do
  let kinds := (arguments.found.map Prod.fst).filter "EFGP".toList.contains
  let letter := kinds.headD 'G'
  if kinds.any (· ≠ letter) then searchFail "conflicting matchers specified"
  return letter

/-- An expression for one pattern, with the limits that the switches set. -/
def readPattern (arguments : Arguments) (pattern : List Char) : Work Matcher := do
  let letter ← patternKind arguments
  let cases := (arguments.found.map Prod.fst).filter "iy\x06".toList.contains
  let ignoresCase := cases.getLast?.any (· ≠ '\x06')
  if letter = 'P' then
    match FirstFit.read? ignoresCase pattern with
    | .error problem => searchFail problem
    | .ok part =>
        return .first <|
          if arguments.has 'x' then .both (.edge .start) (.both part (.edge .finish))
          else if arguments.has 'w' then
            .both (.edge .freeStart) (.both part (.edge .freeFinish))
          else part
  let expression ←
    if letter = 'F' then pure (Expression.ofText ignoresCase pattern)
    else
      let dialect : Expression.Dialect :=
        { isExtended := letter ≠ 'G', ignoresCase, isLenient := true, isMultiline := false }
      match Expression.read? dialect pattern with
      | .ok expression => pure expression
      | .error problem => searchFail problem
  expression.warnings.forM fun warning => warn "grep" ("warning: " ++ warning)
  let node := expression.node
  let node :=
    if arguments.has 'x' then .both (.edge .start) (.both node (.edge .finish))
    else if arguments.has 'w' then .both (.edge .freeStart) (.both node (.edge .freeFinish))
    else node
  return .longest { expression with node }

/-- What the search has shown of a file. -/
structure Progress where
  /-- The lines selected so far. -/
  selected : Nat
  /-- The number of the last line shown, to see where lines are left out. -/
  shown : Option Nat
  /-- How many of the lines that follow are shown. -/
  following : Nat
  /-- The lines in front, the last one first, each with its number and place. -/
  behind : List (Nat × Nat × List Char)
  output : List (List Char)

structure Display where
  name : Option String
  /-- What stands behind a name, unless it is the usual sign. -/
  nameMark : Option Char
  /-- What ends a line. -/
  mark : Char
  showsNumbers : Bool
  showsPlaces : Bool
  isAligned : Bool
  isColored : Bool
  onlyMatches : Bool
  before : Option Nat
  after : Option Nat
  /-- What stands between lines that do not follow each other. -/
  gap : Option String
  most : Option Nat

/-- A text in a color. -/
def Display.paint (display : Display) (color : String) (text : List Char) : List Char :=
  if display.isColored then
    ("\x1b[" ++ color ++ "m\x1b[K").toList ++ text ++ "\x1b[m\x1b[K".toList
  else text

def nameColor : String := "35"
def numberColor : String := "32"
def signColor : String := "36"
def matchColor : String := "01;31"

/-- The name of the file with what stands behind it. -/
def Display.title (display : Display) (sign : Char) : List Char :=
  display.name.elim [] fun name =>
    display.paint nameColor name.toList
      ++ display.nameMark.elim (display.paint signColor [sign]) fun mark => [mark]

/-- A line with what is put in front of it. -/
def Display.line (display : Display) (sign : Char) (number place : Nat)
    (text shown : List Char) : List Char :=
  let figure (isShown : Bool) (number : Nat) : List Char :=
    if isShown then
      let digits := (toString number).toList
      display.paint numberColor (if display.isAligned then padLeft 19 digits else digits)
        ++ display.paint signColor [sign]
    else []
  let front :=
    display.title sign ++ figure display.showsNumbers number
      ++ figure display.showsPlaces place
  let tab := if display.isAligned ∧ front ≠ [] ∧ text ≠ [] then ['\t'] else []
  front ++ tab ++ shown ++ [display.mark]

/-- The mark between lines that do not follow each other. -/
def Display.between (display : Display) (progress : Progress) (number : Nat)
    : List (List Char) :=
  if display.before.isNone ∧ display.after.isNone then []
  else if progress.shown.any (· + 1 < number) then
    match display.gap with
    | some gap => [display.paint signColor gap.toList ++ [newline]]
    | none => []
  else []

/-- A line with its matches in color, if it has any to be shown. -/
def Display.colored (display : Display) (quest : Quest) (matches? : Bool) (text : List Char)
    : List Char :=
  if !display.isColored ∨ !matches? then text
  else
    let found := (quest.matchesIn (text.length + 1) [] 0 text []).reverse
    let (shown, place) :=
      found.foldl
        (fun ((shown, place) : List (List Char) × Nat) (start, hit) =>
          (display.paint matchColor hit :: (text.take start).drop place :: shown,
            start + hit.length))
        ([], 0)
    shown.reverse.flatten ++ text.drop place

/-- Takes one line into account. -/
def Display.step (display : Display) (quest : Quest) (progress : Progress)
    (item : Nat × Nat × List Char) : Progress :=
  let (number, place, text) := item
  let before := display.before.getD 0
  let whole (sign : Char) (number place : Nat) (text : List Char) : List Char :=
    let shown := display.colored quest ((sign = ':') != quest.isInverted) text
    display.line sign number place text shown
  if display.most.all (progress.selected < ·) ∧ quest.selects text then
    let context := (progress.behind.take before).reverse
    let first := (context.head?.map Prod.fst).getD number
    let context := context.map fun (number, place, line) => whole '-' number place line
    let lines :=
      if display.onlyMatches then
        if quest.isInverted then []
        else
          ((quest.matchesIn (text.length + 1) [] place text []).map fun (start, text) =>
            display.line ':' number start text (display.paint matchColor text)).reverse
      else [whole ':' number place text]
    let context := if display.onlyMatches then [] else context
    {
      selected := progress.selected + 1
      shown := some number
      following := display.after.getD 0
      behind := []
      output := (display.between progress first ++ context ++ lines).reverse ++ progress.output
    }
  else if 0 < progress.following then
    let lines := if display.onlyMatches then [] else [whole '-' number place text]
    {
      progress with
      shown := some number
      following := progress.following - 1
      behind := []
      output := lines ++ progress.output
    }
  else { progress with behind := (item :: progress.behind).take before }

/-- Lines with their numbers and places. -/
def placed (lines : List (List Char)) : List (Nat × Nat × List Char) :=
  (lines.foldl
    (fun (done, number, place) line =>
      ((number, place, line) :: done, number + 1, place + line.length + 1))
    ([], 1, 0)).1.reverse

def Display.search (display : Display) (quest : Quest) (lines : List (List Char)) : Progress :=
  (placed lines).foldl (display.step quest)
    { selected := 0, shown := none, following := 0, behind := [], output := [] }

/-- The bytes of the lines up to the last one that is needed for a number of selected
lines.
-/
def neededBytes (quest : Quest) (most : Nat) (lines : List (List Char)) : Nat :=
  (lines.foldl
    (fun (used, selected) line =>
      if most ≤ selected then (used, selected)
      else (used + line.length + 1, if quest.selects line then selected + 1 else selected))
    (0, 0)).1

/-- Whether a text is none that can be shown. -/
def isBinary (text : List Char) : Bool :=
  text.contains '\x00'

/-- Whether a path is meant by one of some patterns, by its last name or as a whole. -/
def isNamedBy (patterns : List String) (path : String) : Bool :=
  let name := (path.splitOn "/").getLastD ""
  patterns.any fun pattern => Wildcard.fits pattern name || Wildcard.fits pattern path

/-- Whether the switches leave a file in. -/
def isWanted (arguments : Arguments) (path : String) : Bool :=
  let included := arguments.values '\x03'
  (included.isEmpty || isNamedBy included path) && !isNamedBy (arguments.values '\x04') path

/-- Whether the switches leave a directory out. -/
def isLeftOut (arguments : Arguments) (name : String) : Bool :=
  let plain := String.ofList (name.toList.reverse.dropWhile (· = '/')).reverse
  isNamedBy (arguments.values '\x08') plain

/-- The files at a path and below it, in their order. -/
def filesBelow (arguments : Arguments) (path : String) : Work (List String) := do
  let located ← locate path
  let files := (← get).files
  let followsLinks := arguments.has 'R'
  match files.resolve located with
  | .error _ => return [path]
  | .ok route =>
      match files.find? route with
      | some .directory =>
          if isLeftOut arguments path ∧ path ≠ "." then return []
          let found := (files.below route).filterMap fun (way, entry) =>
            let isFile : Bool :=
              match entry with
              | .directory => false
              | .file _ => true
              | .link _ => followsLinks
            if !isFile ∨ way.dropLast.any (isLeftOut arguments) = true then none
            else some (Files.joinPath path (spell ("/".intercalate way)))
          return found.mergeSort fun x y => x ≤ y
      | _ => return [path]

/-- The number that stands behind a switch, if it is there. -/
def contextOf (arguments : Arguments) (letter : Char) : Work (Option Nat) := do
  match (arguments.value? letter) <|> (arguments.value? 'C') with
  | none => return none
  | some text =>
      match natOf? text with
      | some number => return some number
      | none => searchFail s!"{text}: invalid context length argument"

/-- Digits behind a dash ask for that many lines of context. -/
def spellContext (words : List String) : List String :=
  words.map fun word =>
    if word.startsWith "-" ∧ (natOf? (word.drop 1).toString).isSome then
      "-C" ++ (word.drop 1).toString
    else word

def searchUsage : String :=
  "Usage: grep [OPTION]... PATTERNS [FILE]...\nTry 'grep --help' for more information.\n"

/-- Searches one file, and tells how many lines it selects; none if it cannot be read. -/
def searchFile (arguments : Arguments) (quest : Quest) (display : Display) (path : String)
    : Work (Option Nat) := do
  let before := (← get).input
  if (← outputPlace? path).isSome ∧ !(['q', 'l', 'L'].any arguments.has) then
    warn "grep" s!"{path}: input file is also the output"
    return none
  match ← content path with
  | .error e => do
      if e = .isDirectory ∧ arguments.value? 'd' = some "skip" then return some 0
      if !arguments.has 's' then warn "grep" s!"{path}: {e.reason}"
      return none
  | .ok text => do
      let lines := splitAt display.mark text
      let isInput := path = "-" || path = "/dev/stdin"
      let title :=
        if path = "-" then (arguments.value? '\x02').getD "(standard input)" else path
      let display := { display with name := display.name.map fun _ => title }
      let kind := (arguments.value? '\x07').getD "binary"
      let isUnshown : Bool :=
        isBinary text && !arguments.has 'a' && !arguments.has 'z' && kind ≠ "text"
      if isUnshown ∧ (arguments.has 'I' ∨ kind = "without-match") then return some 0
      let isQuick := arguments.has 'q' || arguments.has 'l' || arguments.has 'L'
      let most := if isQuick then some 1 else display.most
      if isInput then
        match most with
        | some most => do
            modify fun station => { station with input := before }
            leaveBehind (min before.length (neededBytes quest most lines)) 98304
        | none => pure ()
      if isQuick then
        let found := lines.any fun line => quest.selects line
        if !arguments.has 'q' ∧ found = arguments.has 'l' then
          say (display.paint nameColor title.toList ++ [display.nameMark.getD newline])
        return some (if found then 1 else 0)
      let progress := display.search quest lines
      if arguments.has 'c' then
        say (display.title ':' ++ (toString progress.selected).toList ++ [newline])
      else if isUnshown then
        if progress.selected > 0 then warn "grep" s!"{title}: binary file matches"
      else say progress.output.reverse.flatten
      return some progress.selected

def directoriesName : String := "--directories"

def search (words : List String) : Work Nat := do
  let name := "grep"
  let refuse {α : Type} : Work α := do
    emit .err searchUsage.toList
    quit 2
  let arguments ←
    match searchSwitches.read (spellContext words) with
    | .ok arguments => pure arguments
    | .error problem => do
        warn name problem
        refuse
  let (patterns, operands) ←
    if arguments.has 'e' ∨ arguments.has 'f' then do
      let given := (arguments.values 'e').flatMap patternLines
      let files ← (arguments.values 'f').mapM fun path => do
        match ← content path with
        | .ok text => return splitLines text
        | .error e => searchFail s!"{path}: {e.reason}"
      pure (given ++ files.flatten, arguments.operands)
    else
      match arguments.operands with
      | [] => refuse
      | pattern :: operands => pure (patternLines pattern, operands)
  let after ← contextOf arguments 'A'
  let before ← contextOf arguments 'B'
  let most ←
    match arguments.value? 'm' with
    | none => pure none
    | some text =>
        match natOf? text with
        | some number => pure (some number)
        | none => searchFail "invalid max count"
  if (← patternKind arguments) = 'P' ∧ 1 < patterns.length then
    searchFail "the -P option only supports a single pattern"
  let matchers ← patterns.mapM (readPattern arguments)
  let quest : Quest := { matchers, isInverted := arguments.has 'v' }
  let action := (arguments.value? 'd').getD "read"
  if ¬["read", "recurse", "skip"].contains action then
    warn name
      (s!"invalid argument {marked action} for {marked directoriesName}\n"
        ++ "Valid arguments are:\n  - 'read'\n  - 'recurse'\n  - 'skip'")
    refuse
  let isDeep := arguments.has 'r' || arguments.has 'R' || action = "recurse"
  let paths ←
    if isDeep then
      if operands.isEmpty then
        pure ((← filesBelow arguments ".").map fun path => (path.drop 2).toString)
      else pure (← operands.mapM (filesBelow arguments)).flatten
    else pure (orInput operands)
  let paths := paths.filter fun path => path = "-" || isWanted arguments path
  let named := (operands.length > 1 || isDeep || arguments.has 'H') && !arguments.has 'h'
  let display : Display :=
    {
      name := if named then some "" else none
      nameMark := if arguments.has 'Z' then some '\x00' else none
      mark := lineMark arguments
      showsNumbers := arguments.has 'n'
      showsPlaces := arguments.has 'b'
      isAligned := arguments.has 'T'
      isColored := arguments.value? '\x05' = some "always"
      onlyMatches := arguments.has 'o'
      before
      after
      gap :=
        if arguments.has '\x0c' then none
        else some ((arguments.value? '\x0b').getD "--")
      most
    }
  if most = some 0 then return 1
  let results ← paths.mapM (searchFile arguments quest display)
  let isFound := results.any fun result => result.any (0 < ·)
  if results.any Option.isNone ∧ !(arguments.has 'q' ∧ isFound) then return 2
  return if isFound then 0 else 1

end MailMerge.Shell.Utility
