import MailMerge.Shell.Find.Query
import MailMerge.Shell.Program
import MailMerge.Shell.Utility.Listing

/-! Going through directories: each entry is tested, and the test may show it, run commands
on it or remove it.
-/

namespace MailMerge.Shell.Find

open Utility

/-- What has come of the work so far. -/
structure State where
  status : Nat
  hasEnded : Bool
  /-- Whether what stands in the directory in view is left out. -/
  isPruned : Bool
  /-- The entries that commands are still to be run on, the last one first. -/
  waiting : List (Nat × List String)

abbrev Step := StateT State Run

def lift {α : Type} (action : Run α) : Step α :=
  fun state => do return (← action, state)

/-- Does work on the files. -/
def onFiles {α : Type} (work : Work α) (otherwise : α) : Run α := do
  Run.changeFiles id
  let station : Station :=
    {
      files := (← Run.world).files
      outputFile := none
      directory := (← Run.process).directory
      environment := []
      input := []
      inputFault := none
      isSeekable := false
      needed := some 0
      isEndless := false
      output := []
    }
  let (result, after) := work.run station
  Run.setWorld fun world => { world with files := after.files }
  for (channel, text) in after.output.reverse do
    let _ ← Run.emit (if channel = .out then 1 else 2) text
  return result.toOption.getD otherwise

def complain (problem : String) : Step Unit := do
  lift (Run.report ("find: " ++ problem))
  modify fun state => { state with status := 1 }

/-- An entry that has been reached. -/
structure Found where
  entry : Listed
  /-- The path where the way to it started. -/
  origin : String
  depth : Nat

/-! ### Showing -/

/-- What stands behind the origin in the path of an entry. -/
def Found.wayFrom (found : Found) : String :=
  if found.depth = 0 then ""
  else
    let rest := (found.entry.path.drop found.origin.length).toString
    if rest.startsWith "/" then (rest.drop 1).toString else rest

/-- The directory that an entry is said to stand in. -/
def Found.parent (found : Found) : String :=
  let path := found.entry.path
  if path.toList.contains '/' then
    let before := path.toList.reverse.dropWhile (· ≠ '/')
    let trimmed := String.ofList before.tail.reverse
    if trimmed = "" then "/" else trimmed
  else "."

/-- The last name of the path of an entry. -/
def Found.name (found : Found) : String :=
  let path := found.entry.path
  if path.endsWith "/" ∧ path ≠ "/" then baseName path ++ "/" else baseName path

/-- A part of what is known of an entry, by the letter that names it. -/
def Found.part? (found : Found) (letter : Char) : Option String :=
  let one := found.entry
  match letter with
  | 'p' => some one.path
  | 'f' => some found.name
  | 'h' => some found.parent
  | 'P' => some found.wayFrom
  | 'H' => some found.origin
  | 'd' => some (toString found.depth)
  | 's' => some (toString one.size)
  | 'y' => some (kindText one.entry)
  | 'Y' => some ((one.behind.map kindText).getD "N")
  | 'm' => some (Files.Permission.octal 1 one.mode)
  | 'M' => some one.modeText
  | 'u' | 'g' => some "root"
  | 'U' | 'G' => some "0"
  | 'n' => some (toString one.names)
  | 'i' => some (toString one.number)
  | 'k' => some (toString ((one.blocks + 1) / 2))
  | 'b' => some (toString one.blocks)
  | 'l' =>
      some <|
        match one.entry with
        | .link target => spell target
        | _ => ""
  | 't' | 'a' | 'c' =>
      some (Calendar.format (Calendar.momentOf one.time) "%a %b %e %H:%M:%S.%N0 %Y")
  | 'D' => some "2049"
  | 'F' => some "overlay"
  | 'S' => some "1"
  | _ => none
where
  kindText : Files.Entry → String
    | .file _ => "f"
    | .directory => "d"
    | .link _ => "l"

/-- A time in the way that a letter asks for. -/
def timePart (time : Int) (letter : Char) : String :=
  let moment := Calendar.momentOf time
  match letter with
  | '@' => Calendar.format moment "%s.%N0"
  | 'S' => Calendar.format moment "%S.%N0"
  | 'T' => Calendar.format moment "%H:%M:%S.%N0"
  | '+' => Calendar.format moment "%Y-%m-%d+%H:%M:%S.%N0"
  | letter => Calendar.format moment (String.ofList ['%', letter])

def escapes : List (Char × Char) :=
  [
    ('n', '\n'), ('t', '\t'), ('r', '\r'), ('a', '\x07'), ('b', '\x08'), ('f', '\x0c'),
    ('v', '\x0b'), ('\\', '\\')
  ]

/-- A format filled in with what is known of an entry; the number bounds how long it is. -/
def Found.fill (found : Found) : Nat → List Char → List Char
  | 0, _ | _, [] => []
  | fuel + 1, '\\' :: cs =>
      match cs with
      | [] => ['\\']
      | c :: rest =>
          let digits := (cs.take 3).takeWhile fun c => '0' ≤ c && c ≤ '7'
          if digits ≠ [] then
            let value := digits.foldl (fun value c => value * 8 + (c.toNat - '0'.toNat)) 0
            Char.ofNat (value % 256) :: found.fill fuel (cs.drop digits.length)
          else if c = 'c' then []
          else
            match escapes.lookup c with
            | some shown => shown :: found.fill fuel rest
            | none => '\\' :: c :: found.fill fuel rest
  | fuel + 1, '%' :: cs =>
      let flags := cs.takeWhile "-+#0123456789. ".toList.contains
      let width := (natOf? (String.ofList (flags.filter Char.isDigit))).getD 0
      let place (text : String) : List Char :=
        if flags.contains '-' then padRight width text.toList
        else if flags.head? = some '0' then
          List.replicate (width - text.length) '0' ++ text.toList
        else padLeft width text.toList
      match cs.drop flags.length with
      | [] => '%' :: cs
      | '%' :: rest => '%' :: found.fill fuel rest
      | letter :: rest =>
          if "TACB".toList.contains letter ∧ rest ≠ [] then
            place (timePart found.entry.time (rest.headD ' ')) ++ found.fill fuel rest.tail
          else
            match found.part? letter with
            | some text => place text ++ found.fill fuel rest
            | none => '%' :: cs.take (flags.length + 1) ++ found.fill fuel rest
  | fuel + 1, c :: cs => c :: found.fill fuel cs

/-- An entry in a line with all that is known. -/
def Found.line (found : Found) (now : Int) : String :=
  let one := found.entry
  let right (size : Nat) (number : Nat) : String :=
    String.ofList (padLeft size (toString number).toList)
  let moment := Calendar.momentOf one.time
  let isRecent : Bool := now - 15778476 * Calendar.secondSpan < one.time
  let date := Calendar.format moment (if isRecent then "%b %e %H:%M" else "%b %e  %Y")
  let tail :=
    match one.entry with
    | .link target => s!"{one.path} -> {spell target}"
    | _ => one.path
  " ".intercalate
    [
      right 9 one.number, right 6 ((one.blocks + 1) / 2), one.modeText, right 3 one.names,
      "root    ", "root    ", right 8 one.size, date, tail
    ]

/-! ### Commands -/

/-- Runs the words of a task with the paths of entries in it. -/
def runTask (runner : Runner) (task : Task) (directory? : Option String)
    (paths : List String) : Run Bool := do
  let path := paths.headD ""
  let words :=
    if task.isJoint then task.words ++ paths
    else task.words.map (·.replace "\x7b\x7d" path)
  let ending ← Run.inChild runner do
    match directory? with
    | some directory => do
        let located ← Run.locate directory
        Run.setProcess fun process => { process with directory := spell located }
    | none => pure ()
    Run.runWithin runner "find" marked words
  Run.reportEnding ending
  return ending.number = 0

/-- Runs a task on an entry, or keeps the entry for later. -/
def perform (runner : Runner) (task : Task) (found : Found) : Step Bool := do
  let path := if task.isLocal then "./" ++ baseName found.entry.path else found.entry.path
  if task.isJoint then
    modify fun state =>
      let before := (state.waiting.lookup task.number).getD []
      { state with waiting := Pairs.assign task.number (path :: before) state.waiting }
    return true
  else do
    if task.asks then
      let program := task.words.headD ""
      let _ ← lift (Run.emit 2 s!"< {program} ... {found.entry.path} > ? ".toList)
      let answer ← lift (Run.takeLine 0)
      if !((answer.map Prod.fst).getD []).head?.any (fun c => c = 'y' || c = 'Y') then
        return false
    let directory? := if task.isLocal then some found.parent else none
    lift (runTask runner task directory? [path])

/-- The tasks of a test that are run on many entries. -/
def jointTasks : Test → List Task
  | .both first second | .either first second | .sequence first second =>
      jointTasks first ++ jointTasks second
  | .negated test => jointTasks test
  | .task task => if task.isJoint then [task] else []
  | _ => []

/-- The files that a test writes to. -/
def outputsOf : Test → List String
  | .both first second | .either first second | .sequence first second =>
      outputsOf first ++ outputsOf second
  | .negated test => outputsOf test
  | .write path _ => [path]
  | _ => []

/-! ### Testing -/

/-- The letter of a kind of entry. -/
def kindLetter (entry : Files.Entry) : Char :=
  match entry with
  | .file _ => 'f'
  | .directory => 'd'
  | .link _ => 'l'

/-- Whether nothing stands in an entry. -/
def isEmpty (entry : Files.Entry) (path : String) : Run Bool := do
  match entry with
  | .file content => return content.isEmpty
  | .directory => return (← onFiles (namesIn path true) []).isEmpty
  | .link _ => return false

/-- The truth of a test on an entry, with what the test does. -/
def evaluate (runner : Runner) (isUpwards : Bool) (test : Test) (found : Found) : Step Bool := do
  let one := found.entry
  match test with
  | .both first second => do
      if ← evaluate runner isUpwards first found then evaluate runner isUpwards second found
      else return false
  | .either first second => do
      if ← evaluate runner isUpwards first found then return true
      else evaluate runner isUpwards second found
  | .sequence first second => do
      let _ ← evaluate runner isUpwards first found
      evaluate runner isUpwards second found
  | .negated inner => return !(← evaluate runner isUpwards inner found)
  | .constant value => return value
  | .fits subject ignoresCase pattern =>
      let text :=
        match subject, one.entry with
        | .name, _ => baseName one.path
        | .path, _ => one.path
        | .target, .link target => spell target
        | .target, _ => ""
      if subject = .target ∧ !(one.entry matches .link _) then return false
      else if ignoresCase then
        return Wildcard.fits (pattern.map Char.toLower) (text.map Char.toLower)
      else return Wildcard.fits pattern text
  | .matching expression => return expression.occursIn one.path.toList
  | .kind follows letters =>
      let entry := if follows then one.behind.getD one.entry else one.entry
      return letters.contains (kindLetter entry)
  | .size sense count unit => return sense.holds count ((one.size + unit - 1) / unit : Nat)
  | .empty => lift (isEmpty one.entry one.path)
  | .newer time => return time < one.time
  | .age sense count unit => do
      let now := (← lift Run.world).files.stamp.time
      let age := Int.fdiv (now - one.time) (unit * Calendar.secondSpan)
      return sense.holds count (if unit = 60 ∧ sense = .exactly then age + 1 else age)
  | .mode share bits =>
      match share with
      | .exact => return one.mode = bits
      | .all => return one.mode &&& bits = bits
      | .any => return bits = 0 || one.mode &&& bits ≠ 0
  | .names sense count => return sense.holds count one.names
  | .number sense count => return sense.holds count one.number
  | .runs => return one.isOuter || one.mode &&& 0o111 ≠ 0
  | .same path => do
      match ← lift (onFiles (listed false path path) (.error .notFound)) with
      | .ok other => return other.number = one.number
      | .error _ => return false
  | .tell ending => do
      let _ ← lift (Run.emit 1 (one.path.toList ++ [ending]))
      return true
  | .format text => do
      let _ ← lift (Run.emit 1 (found.fill (text.length + 1) text))
      return true
  | .details => do
      let now := (← lift Run.world).files.stamp.time
      lift (Run.say (found.line now ++ "\n"))
      return true
  | .write path ending => do
      let text := one.path.toList ++ [ending]
      if path = "/dev/stdout" then let _ ← lift (Run.emit 1 text)
      else if path = "/dev/stderr" then let _ ← lift (Run.emit 2 text)
      else
        let _ ← lift (onFiles (Work.change (·.append · (ofOctets text)) path) (.ok ()))
      return true
  | .task task => perform runner task found
  | .delete => do
      if one.path = "." then return true
      let action := if one.isOuter then Files.Tree.removeDirectory else Files.Tree.removeFile
      match ← lift (onFiles (Work.change action one.path) (.ok ())) with
      | .ok () => return true
      | .error e => do
          complain s!"cannot delete {marked one.path}: {e.reason}"
          return false
  | .prune => do
      if !isUpwards then modify fun state => { state with isPruned := true }
      return true
  | .quit => do
      modify fun state => { state with hasEnded := true }
      return true

/-! ### Going through -/

/-- Tests what stands at a path, and what stands below it; the number bounds the levels. -/
def visit (runner : Runner) (query : Query) (origin : String) : Nat → Nat → String → Step Unit
  | 0, _, _ => pure ()
  | fuel + 1, depth, path => do
      if (← get).hasEnded then return
      let follows := query.manner.followsLinks
      let look (follows : Bool) : Step (Except Files.FileError Listed) :=
        lift (onFiles (listed follows path path) (.error .notFound))
      let reached ← do
        match ← look follows with
        | .ok one => pure (Except.ok one)
        | .error e => if follows then look false else pure (.error e)
      match reached with
      | .error e => complain s!"{marked path}: {e.reason}"
      | .ok entry => do
          let found : Found := { entry, origin, depth }
          let test : Step Unit := do
            if query.manner.least ≤ depth ∧ !(← get).hasEnded then
              let _ ← evaluate runner query.manner.isUpwards query.test found
          modify fun state => { state with isPruned := false }
          if !query.manner.isUpwards then test
          let isPruned := (← get).isPruned
          modify fun state => { state with isPruned := false }
          if entry.isOuter ∧ !isPruned ∧ query.manner.most.all (depth < ·) then
            for name in ← lift (onFiles (namesIn path true) []) do
              visit runner query origin fuel (depth + 1) (Files.joinPath path name)
          if query.manner.isUpwards then test

/-- Goes through all places and runs the commands that are left. -/
def visitAll (runner : Runner) (query : Query) : Step Unit := do
  for path in outputsOf query.test do
    if !path.startsWith "/dev/" then
      let _ ← lift (onFiles (Work.change (·.write · []) path) (.ok ()))
  for path in query.paths do visit runner query path maxLevels 0 path
  for task in jointTasks query.test do
    match (← get).waiting.lookup task.number with
    | none => pure ()
    | some paths => do
        if !(← lift (runTask runner task none paths.reverse)) then
          modify fun state => { state with status := 1 }

/-- Runs the command under a name. -/
def run (runner : Runner) (words : List String) : Run Unit := do
  Run.changeFiles id
  let { files, .. } ← Run.world
  let mask := (← Run.process).mask
  let directory := (← Run.process).directory
  let timeOf (path : String) : Option Int :=
    match files.resolve (unspell (placeOf directory path)) with
    | .ok route =>
        (files.find? route).map fun entry => (nodeOf files route entry).time
    | .error _ => none
  match Query.read { timeOf, now := files.stamp.time, mask } words with
  | .error problem => do
      Run.report ("find: " ++ problem)
      Run.setStatus 1
  | .ok query => do
      let start : State := { status := 0, hasEnded := false, isPruned := false, waiting := [] }
      let ((), after) ← (visitAll runner query).run start
      Run.setStatus after.status

end MailMerge.Shell.Find
