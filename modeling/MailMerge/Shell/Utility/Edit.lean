import MailMerge.Shell.Utility.EditScript
import MailMerge.Shell.Utility.Order

/-! Editing lines by a script. Each line goes through the commands of the script and is shown
at the end, unless the script is run quietly.
-/

namespace MailMerge.Shell.Edit

/-- A text in work, and whether a line feed ends it. -/
structure Space where
  text : List Char
  isEnded : Bool

/-- A line ahead, with the name of its file. -/
structure Line where
  space : Space
  file : String

/-- Text that is shown behind the line in work. -/
inductive Trailing where
  | text (text : List Char)
  | file (path : String)
  | lineOf (path : String)

structure State where
  space : Space
  kept : Space
  number : Nat
  file : String
  ahead : List Line
  /-- The number of bytes that the lines taken so far have. -/
  taken : Nat
  trailing : List Trailing
  hasChanged : Bool
  /-- For the commands with ranges: the line where the range that is open ends, if that is
  known.
  -/
  ranges : List (Nat × Option Nat)
  lastExpression : Option Expression
  /-- What has been shown, the last piece first. -/
  output : List (List Char)
  /-- Whether the last piece lacks its line feed. -/
  owesLineEnd : Bool
  /-- What has been written to files, the last piece first. -/
  written : List (String × List Char)
  /-- The lines that are left of files that are shown line by line. -/
  opened : List (String × List (List Char))

structure Program where
  instructions : Array Instruction
  isQuiet : Bool
  lineEnd : Char
  width : Nat
  contentOf : String → Option (List Char)

/-- Where the run of a program goes on. -/
inductive Next where
  | goto (place : Nat)
  /-- The end of the script: the line is shown. -/
  | finish
  /-- The next line, with nothing shown. -/
  | drop
  /-- The script from its start, with what is left of the line. -/
  | again
  | quit (status : Nat) (shows : Bool)
  | fault (problem : String)

namespace State

/-- Shows a text behind the line feed that is owed. -/
def show1 (state : State) (program : Program) (text : List Char) (isEnded : Bool) : State :=
  let owed := if state.owesLineEnd then [[program.lineEnd]] else []
  let text := if isEnded then text ++ [program.lineEnd] else text
  { state with output := text :: owed ++ state.output, owesLineEnd := !isEnded }

/-- Shows text that comes with its line ends. -/
def showRaw (state : State) (program : Program) (text : List Char) : State :=
  let owed := if state.owesLineEnd then [[program.lineEnd]] else []
  { state with output := text :: owed ++ state.output, owesLineEnd := false }

def showSpace (state : State) (program : Program) : State :=
  state.show1 program state.space.text state.space.isEnded

/-- Writes a text to a file, or shows it. -/
def write (state : State) (program : Program) (path : String) (text : List Char)
    (isEnded : Bool) : State :=
  if path = "/dev/stdout" then state.show1 program text isEnded
  else
    let text := if isEnded then text ++ [program.lineEnd] else text
    { state with written := (path, text) :: state.written }

/-- Shows what was put behind the line. -/
def showTrailing (state : State) (program : Program) : State :=
  let shown := state.trailing.foldl
    (fun state trailing =>
      match trailing with
      | .text text => state.showRaw program text
      | .file path =>
          let content := (program.contentOf path).getD []
          let state := state.showRaw program content
          { state with owesLineEnd := isOpenEnded content }
      | .lineOf path =>
          let lines := (state.opened.lookup path).getD
            (((program.contentOf path).map splitLines).getD [])
          let state := { state with opened := Pairs.assign path lines.tail state.opened }
          match lines with
          | line :: _ => state.show1 program line true
          | [] => state)
    state
  { shown with trailing := [] }

/-- Takes the next line, if there is one, with what was put behind the last one shown. -/
def advance? (state : State) (program : Program) : Option State :=
  match state.ahead with
  | [] => none
  | line :: ahead =>
      let state := state.showTrailing program
      some
        { state with
          space := { line.space with text := line.space.text }
          number := state.number + 1
          file := line.file
          ahead
          taken := state.taken + line.space.text.length + (if line.space.isEnded then 1 else 0)
          hasChanged := false }

def isLast (state : State) : Bool :=
  state.ahead.isEmpty

/-- Whether an address picks out the line in work, none if it needs an expression that was
never used.
-/
def picks (state : State) (address : Address) : Option (Bool × State) :=
  match address with
  | .line number => some (state.number = number, state)
  | .last => some (state.isLast, state)
  | .steps first step =>
      some
        (if step = 0 then state.number = first
          else first ≤ state.number && (state.number - first) % step = 0,
        state)
  | .pattern expression =>
      (expression <|> state.lastExpression).map fun expression =>
        (expression.occursIn state.space.text, { state with lastExpression := some expression })

/-- The end of a range that starts at the line in work, if it is a line that is known. -/
def finishLine? (state : State) : Finish → Option Nat
  | .address (.line number) => some number
  | .lines count => some (state.number + count)
  | .multiple number =>
      some (if number = 0 then state.number else (state.number + number - 1) / number * number)
  | _ => none

/-- Whether a command is for the line in work. -/
def selects (state : State) (place : Nat) (lines : Lines) : Option (Bool × State) :=
  let close (state : State) : State :=
    { state with ranges := state.ranges.filter (·.1 ≠ place) }
  let enter (state : State) (finish : Option Nat) : State :=
    { close state with ranges := (place, finish) :: state.ranges.filter (·.1 ≠ place) }
  match lines.first, lines.last with
  | none, _ => some (true, state)
  | some first, none => state.picks first
  | some first, some last =>
      let inside (state : State) (finish : Option Nat) : Option (Bool × State) :=
        match finish with
        | some finish =>
            if finish ≤ state.number then
              some (decide (state.number ≤ finish) || first matches .pattern _, close state)
            else some (true, state)
        | none =>
            match last with
            | .address address =>
                (state.picks address).map fun (isEnd, state) =>
                  (true, if isEnd then close state else state)
            | _ => some (true, close state)
      match state.ranges.lookup place with
      | some (some finish) =>
          if finish < state.number then
            match first with
            | .line _ => some (false, close state)
            | _ => start (close state) first last enter
          else inside state (some finish)
      | some none => inside state none
      | none =>
          match first, state.number with
          | .line 0, 1 => inside (enter state none) none
          | .line 0, _ => some (false, state)
          | _, _ => start state first last enter
where
  /-- Opens a range where its first line is found. -/
  start (state : State) (first : Address) (last : Finish)
      (enter : State → Option Nat → State) : Option (Bool × State) :=
    (state.picks first).map fun (isStart, state) =>
      if isStart then
        match state.finishLine? last with
        | some finish =>
            (true, if finish ≤ state.number then state else enter state (some finish))
        | none =>
            match last with
            | .address .last => (true, if state.isLast then state else enter state none)
            | _ => (true, enter state none)
      else (false, state)

end State

/-! ### Commands -/

/-- The letters of a text in a casing. -/
def recase (base : Casing) (first : Option Casing) (text : List Char) : List Char :=
  let apply (casing : Casing) (c : Char) : Char :=
    match casing with
    | .lower | .nextLower => c.toLower
    | .upper | .nextUpper => c.toUpper
    | .asIs => c
  match text with
  | [] => []
  | c :: cs => apply (first.getD base) c :: cs.map (apply base)

/-- What is put in for a match. -/
def fill (inserts : List Insert) (found : Expression.Match) : List Char :=
  (inserts.foldl
    (fun (done, base, first) insert =>
      let add (text : List Char) : List (List Char) × Casing × Option Casing :=
        if text.isEmpty then (done, base, first)
        else (recase base first text :: done, base, none)
      match insert with
      | .text text => add text
      | .group 0 => add found.text
      | .group number => add ((found.groups.lookup number).getD [])
      | .casing .nextLower => (done, base, some .nextLower)
      | .casing .nextUpper => (done, base, some .nextUpper)
      | .casing casing => (done, casing, none))
    ([], .asIs, none)).1.reverse.flatten

/-- Replaces matches from a place on. The pieces that are done come with the last one
first; a match without text is none where a match has just ended.
-/
def replaceFrom (substitution : Substitution) (expression : Expression)
    : Nat → Nat → Option Char → Bool → List Char → List (List Char) → Bool
      → List (List Char) × Bool
  | 0, _, _, _, text, done, hasChanged => (text :: done, hasChanged)
  | fuel + 1, count, before, isBehind, text, done, hasChanged =>
      match expression.find? before text with
      | none => (text :: done, hasChanged)
      | some found =>
          let pass (skipped : List Char) : List (List Char) × Bool :=
            match found.after with
            | [] => ((skipped ++ found.before) :: done, hasChanged)
            | c :: rest =>
                replaceFrom substitution expression fuel count (some c) false rest
                  ((found.before ++ [c]) :: done) hasChanged
          if found.text.isEmpty ∧ isBehind ∧ found.before.isEmpty then pass []
          else
            let isWanted :=
              substitution.number ≤ count
                && (count = substitution.number || substitution.isGlobal)
            let piece := if isWanted then fill substitution.inserts found else found.text
            let done := piece :: found.before :: done
            if isWanted ∧ !substitution.isGlobal then (found.after :: done, true)
            else if found.text.isEmpty then
              match found.after with
              | [] => (done, hasChanged || isWanted)
              | c :: rest =>
                  replaceFrom substitution expression fuel (count + 1) (some c) false rest
                    ([c] :: done) (hasChanged || isWanted)
            else
              replaceFrom substitution expression fuel (count + 1) found.text.getLast? true
                found.after done (hasChanged || isWanted)

def replace (substitution : Substitution) (expression : Expression) (text : List Char)
    : List Char × Bool :=
  let (done, hasChanged) :=
    replaceFrom substitution expression (text.length + 2) 1 none false text [] false
  (done.reverse.flatten, hasChanged)

/-- A text by marks that can all be seen, in lines of a width. -/
def listed (width : Nat) (text : List Char) : List Char :=
  let mark (c : Char) : List Char :=
    match Utility.escapedLetters.find? (·.2 = c) with
    | some (letter, _) => ['\\', letter]
    | none =>
        if ' ' ≤ c ∧ c ≤ '~' then [c] else (Utility.shownByte c).toList
  let pieces := text.map mark
  let lines := pieces.foldl
    (fun (done, line) piece =>
      if 1 < width ∧ width ≤ line.length + piece.length then
        ((line ++ ['\\']) :: done, piece)
      else (done, line ++ piece))
    (([] : List (List Char)), ([] : List Char))
  joinLines ((lines.2 ++ ['$']) :: lines.1).reverse

/-- The place behind the block that opens at a place. -/
def blockEnd (program : Program) : Nat → Nat → Nat → Nat
  | 0, place, _ => place
  | fuel + 1, place, depth =>
      match program.instructions[place]? with
      | none => place
      | some instruction =>
          match instruction.action, depth with
          | .openBlock, _ => blockEnd program fuel (place + 1) (depth + 1)
          | .closeBlock, 0 => place + 1
          | .closeBlock, 1 => place + 1
          | .closeBlock, depth + 1 => blockEnd program fuel (place + 1) depth
          | _, _ => blockEnd program fuel (place + 1) depth

/-- The place of a label; the end of the script for no name. -/
def Program.placeOf (program : Program) (name : String) : Nat :=
  if name = "" then program.instructions.size
  else
    (program.instructions.findIdx? fun instruction =>
      match instruction.action with
      | .label found => found = name
      | _ => false).getD program.instructions.size

/-- Carries out a command for the line in work. -/
def act (program : Program) (state : State) (place : Nat) (instruction : Instruction)
    : Next × State :=
  let onward := Next.goto (place + 1)
  let text := state.space.text
  let setText (text : List Char) : State :=
    { state with space := { state.space with text } }
  let firstLine := text.takeWhile (· ≠ '\n')
  match instruction.action with
  | .openBlock | .closeBlock | .label _ => (onward, state)
  | .branch name => (.goto (program.placeOf name), state)
  | .branchIfChanged name =>
      if state.hasChanged then (.goto (program.placeOf name), { state with hasChanged := false })
      else (onward, state)
  | .branchUnlessChanged name =>
      if state.hasChanged then (onward, { state with hasChanged := false })
      else (.goto (program.placeOf name), state)
  | .append text => (onward, { state with trailing := state.trailing ++ [.text text] })
  | .insert text => (onward, state.showRaw program text)
  | .change text =>
      let isOpen := (state.ranges.lookup place).isSome && instruction.lines.last.isSome
      (.drop, if isOpen && !instruction.lines.isNegated then state else state.showRaw program text)
  | .delete => (.drop, state)
  | .deleteFirst =>
      if text.contains '\n' then (.again, setText (text.drop (firstLine.length + 1)))
      else (.drop, state)
  | .print => (onward, state.showSpace program)
  | .printFirst => (onward, state.show1 program firstLine true)
  | .printNumber => (onward, state.showRaw program (toString state.number ++ "\n").toList)
  | .printName => (onward, state.showRaw program (state.file ++ "\n").toList)
  | .list width =>
      (onward, state.showRaw program (listed (width.getD program.width) text))
  | .get => (onward, { state with space := state.kept })
  | .getMore =>
      (onward,
        { state with space := { state.kept with text := text ++ '\n' :: state.kept.text } })
  | .hold => (onward, { state with kept := state.space })
  | .holdMore =>
      (onward,
        { state with kept := { state.space with text := state.kept.text ++ '\n' :: text } })
  | .exchange => (onward, { state with space := state.kept, kept := state.space })
  | .next =>
      if state.isLast then (.quit 0 true, state)
      else
        let state := if program.isQuiet then state else state.showSpace program
        match state.advance? program with
        | some state => (onward, state)
        | none => (.quit 0 false, state)
  | .nextMore =>
      match state.advance? program with
      | none => (.quit 0 true, state)
      | some after =>
          let joined := text ++ '\n' :: after.space.text
          (onward, { after with space := { after.space with text := joined } })
  | .zap => (onward, setText [])
  | .quit status => (.quit status true, state)
  | .quitSilently status => (.quit status false, { state with trailing := [] })
  | .readFile path => (onward, { state with trailing := state.trailing ++ [.file path] })
  | .readLine path => (onward, { state with trailing := state.trailing ++ [.lineOf path] })
  | .writeFile path =>
      (onward, state.write program path text state.space.isEnded)
  | .writeFirst path => (onward, state.write program path firstLine true)
  | .translate table =>
      (onward, setText (text.map fun c => (table.lookup c).getD c))
  | .substitute substitution =>
      match substitution.expression <|> state.lastExpression with
      | none => (.fault "no previous regular expression", state)
      | some expression =>
          let (changed, hasChanged) := replace substitution expression text
          let state := { state with lastExpression := some expression }
          if hasChanged then
            let state :=
              { state with space := { state.space with text := changed }, hasChanged := true }
            let state := if substitution.prints then state.showSpace program else state
            match substitution.target with
            | some path =>
                (onward, state.write program path changed state.space.isEnded)
            | none => (onward, state)
          else (onward, state)

/-! ### Runs -/

/-- Runs the command at a place. -/
def step (program : Program) (state : State) (place : Nat) : Next × State :=
  match program.instructions[place]? with
  | none => (.finish, state)
  | some instruction =>
      match state.selects place instruction.lines with
      | none => (.fault "no previous regular expression", state)
      | some (isSelected, state) =>
          if isSelected != instruction.lines.isNegated then act program state place instruction
          else
            match instruction.action with
            | .openBlock =>
                (.goto (blockEnd program program.instructions.size (place + 1) 1), state)
            | _ => (.goto (place + 1), state)

/-- How a run ends. -/
inductive Ending where
  | exit (status : Nat)
  | fault (problem : String)
  | forever

/-- Runs a program from a place on, to the end of the lines; the number bounds the steps. -/
def run (program : Program) : Nat → State → Nat → Ending × State
  | 0, state, _ => (.forever, state)
  | fuel + 1, state, place =>
      let shown (state : State) : State :=
        if program.isQuiet then state else state.showSpace program
      let more (state : State) : Ending × State :=
        match state.advance? program with
        | some state => run program fuel state 0
        | none => (.exit 0, state.showTrailing program)
      match step program state place with
      | (.goto place, state) => run program fuel state place
      | (.finish, state) => more (shown state)
      | (.drop, state) => more state
      | (.again, state) => run program fuel (state.showTrailing program) 0
      | (.quit status shows, state) =>
          let state := if shows then shown state else state
          (.exit status, state.showTrailing program)
      | (.fault problem, state) => (.fault problem, state)

/-- The most steps that a run is followed for. -/
def maxSteps : Nat := 3000000

/-- Runs a program over lines. -/
def runLines (program : Program) (state : State) (lines : List Line) : Ending × State :=
  match { state with ahead := lines }.advance? program with
  | none => (.exit 0, state)
  | some state => run program maxSteps state 0

end MailMerge.Shell.Edit

namespace MailMerge.Shell.Utility

open Work

def editSwitches : Switches :=
  {
    Switches.of "nErsuz\x01\x02\x03" "efl"
      [
        ("quiet", 'n'), ("silent", 'n'), ("expression", 'e'), ("file", 'f'),
        ("regexp-extended", 'E'), ("in-place", 'i'), ("line-length", 'l'), ("separate", 's'),
        ("unbuffered", 'u'), ("null-data", 'z'), ("zero-terminated", 'z'), ("posix", '\x01'),
        ("debug", '\x02'), ("sandbox", '\x03')
      ] with
    letters :=
      ('i', .optional)
        :: (Switches.of "nErsuz\x01\x02\x03" "efl" []).letters
  }

/-- A part of a script: an expression by its number, or a file by its name. -/
structure Chunk where
  origin : Nat ⊕ String
  text : List Char

/-- Joins a part that ends within a text with the part behind it. -/
def joinChunks : List Chunk → List Chunk
  | [] => []
  | chunk :: chunks =>
      let rest := joinChunks chunks
      let slashes := (chunk.text.reverse.takeWhile (· = '\\')).length
      match rest with
      | next :: others =>
          if slashes % 2 = 1 then
            { chunk with text := chunk.text ++ newline :: next.text } :: others
          else chunk :: rest
      | [] => [chunk]

/-- What a fault of a script is told as. -/
def faultMessage (chunk : Chunk) (fault : Edit.Fault) : String :=
  if !fault.hasPlace then fault.problem
  else
    match chunk.origin with
    | .inl number =>
        s!"-e expression #{number}, char {fault.place.getD 0}: {fault.problem}"
    | .inr path =>
        let line := (chunk.text.take (fault.place.getD 0)).count newline + 1
        s!"file {path} line {line}: {fault.problem}"

/-- Reads the parts of a script. -/
def readScript (isExtended isQuiet : Bool) (chunks : List Chunk)
    : Except String (Array Edit.Instruction × Bool) := do
  let mut found : Array Edit.Instruction := #[]
  let mut isQuiet := isQuiet
  let mut openBlocks := 0
  let mut isFirst := true
  for chunk in joinChunks chunks do
    let cursor : Edit.Cursor :=
      { rest := chunk.text, taken := 0, openBlocks, isExtended, isQuiet := false }
    match (Edit.readInstructions (chunk.text.length + 1) found).run cursor with
    | .error fault => throw (faultMessage chunk fault)
    | .ok (instructions, cursor) => do
        found := instructions
        if isFirst && cursor.isQuiet then isQuiet := true
        openBlocks := cursor.openBlocks
        if isFirst ∧ openBlocks > 0 ∧ chunks.length = 1 then
          throw (faultMessage chunk { place := some 0, problem := "unmatched \x60\x7b'", hasPlace := true })
        isFirst := false
  match chunks.head? with
  | some chunk =>
      if openBlocks > 0 then
        throw (faultMessage chunk { place := some 0, problem := "unmatched \x60\x7b'", hasPlace := true })
  | none => pure ()
  for instruction in found do
    match instruction.action with
    | .branch name | .branchIfChanged name | .branchUnlessChanged name =>
        let isKnown := name = "" || found.any fun other =>
          match other.action with
          | .label label => label = name
          | _ => false
        if !isKnown then throw s!"can't find label for jump to \x60{name}'"
    | _ => pure ()
  return (found, isQuiet)

/-- The files that a script writes to. -/
def targetsOf (instructions : Array Edit.Instruction) : List String :=
  (instructions.toList.filterMap fun instruction =>
    match instruction.action with
    | .writeFile path | .writeFirst path => some path
    | .substitute substitution => substitution.target
    | _ => none).filter (· ≠ "/dev/stdout")

/-- The lines of a text for a script. -/
def editLines (lineEnd : Char) (file : String) (text : List Char) : List Edit.Line :=
  let pieces := text.splitOn lineEnd
  let isOpen := pieces.getLast? ≠ some []
  let pieces := if isOpen then pieces else pieces.dropLast
  let count := pieces.length
  pieces.zipIdx.map fun (text, i) =>
    { space := { text, isEnded := !isOpen || i + 1 < count }, file }

def editFail {α : Type} (status : Nat) (problem : String) : Work α :=
  fail status "sed" problem

/-- Reads the content of a file that is edited. What is wrong is reported. -/
def readEdited (path : String) (isInPlace : Bool) : Work (Option (List Char)) := do
  match ← content path with
  | .ok text => return some text
  | .error .isDirectory =>
      if isInPlace then editFail 4 s!"couldn't edit {path}: not a regular file"
      else editFail 4 s!"read error on {path}: Is a directory"
  | .error e => do
      warn "sed" s!"can't read {path}: {e.reason}"
      return none

/-- Takes over what a run has written to files. -/
def writeTargets (written : List (String × List Char)) : Work Unit := do
  for (path, text) in written.reverse do
    if path = "/dev/stderr" then emit .err text
    else let _ ← change (·.append · (ofOctets text)) path

def startState : Edit.State where
  space := { text := [], isEnded := true }
  kept := { text := [], isEnded := true }
  number := 0
  file := "-"
  ahead := []
  taken := 0
  trailing := []
  hasChanged := false
  ranges := []
  lastExpression := none
  output := []
  owesLineEnd := false
  written := []
  opened := []

/-- Reports how a run has ended, and stops unless it has come to its end. -/
def finishRun (ending : Edit.Ending) : Work Nat := do
  match ending with
  | .exit status => return status
  | .fault problem => editFail 1 s!"-e expression #1, char 0: {problem}"
  | .forever => throw .forever

def edit (words : List String) : Work Nat := do
  let name := "sed"
  let usage := "Usage: sed [OPTION]... \x7bscript-only-if-no-other-script\x7d [input-file]...\n"
  let arguments ←
    match editSwitches.read words with
    | .ok arguments => pure arguments
    | .error problem => do
        warn name problem
        emit .err usage.toList
        quit 1
  let mut chunks : List Chunk := []
  let mut number := 0
  for (letter, value) in arguments.found do
    if letter = 'e' then
      number := number + 1
      chunks := chunks ++ [{ origin := .inl number, text := value.toList }]
    else if letter = 'f' then
      match ← content value with
      | .ok text =>
          let text := if text.getLast? = some newline then text.dropLast else text
          chunks := chunks ++ [{ origin := .inr value, text }]
      | .error e => editFail 4 s!"couldn't open file {value}: {e.reason}"
  let mut operands := arguments.operands
  if chunks.isEmpty then
    match operands with
    | script :: rest => do
        chunks := [{ origin := .inl 1, text := script.toList }]
        operands := rest
    | [] => do
        emit .err usage.toList
        quit 1
  let isExtended := arguments.has 'E' || arguments.has 'r'
  let (instructions, isQuiet) ←
    match readScript isExtended (arguments.has 'n') chunks with
    | .ok found => pure found
    | .error problem => editFail (if problem.startsWith "can't find" then 4 else 1) problem
  for path in targetsOf instructions do
    if path ≠ "/dev/stderr" then let _ ← change (·.write · []) path
  let station ← get
  let contentOf (path : String) : Option (List Char) :=
    if path = "/dev/stdin" then some station.input
    else
      ((station.files.read (unspell (placeOf station.directory path))).toOption).map toOctets
  let lineEnd := if arguments.has 'z' then '\x00' else newline
  let width := ((arguments.value? 'l').bind natOf?).getD 70
  let program : Edit.Program := { instructions, isQuiet, lineEnd, width, contentOf }
  let inPlace := arguments.has 'i'
  let mut status := 0
  let mut state := startState
  if inPlace ∨ arguments.has 's' then
    for path in orInput operands do
      match ← readEdited path inPlace with
      | none => status := 2
      | some text => do
          let (ending, after) :=
            Edit.runLines program { state with number := 0 } (editLines lineEnd path text)
          let shown := after.output.reverse.flatten
          if inPlace then
            let suffix := (arguments.value? 'i').getD ""
            if suffix ≠ "" then let _ ← change (·.write · (ofOctets text)) (path ++ suffix)
            let _ ← change (·.write · (ofOctets shown)) path
          else say shown
          writeTargets after.written
          state := { after with output := [], written := [], ranges := [] }
          let ended ← finishRun ending
          if ended ≠ 0 then quit ended
    return status
  let before := (← get).input
  let mut lines : List Edit.Line := []
  for path in orInput operands do
    match ← readEdited path false with
    | none => status := 2
    | some text => lines := lines ++ editLines lineEnd path text
  let (ending, after) := Edit.runLines program state lines
  if operands.isEmpty then
    modify fun station => { station with input := before }
    leaveBehind (min before.length after.taken) 4096
  say after.output.reverse.flatten
  writeTargets after.written
  let ended ← finishRun ending
  return if ended ≠ 0 then ended else status

end MailMerge.Shell.Utility
