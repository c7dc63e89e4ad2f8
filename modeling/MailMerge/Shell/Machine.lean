import MailMerge.Pairs
import MailMerge.Shell.Field
import MailMerge.Shell.Signal
import MailMerge.Shell.Station
import MailMerge.Shell.Syntax

/-! The machine that scripts run on: the files, what channels are connected to, the clock,
and the process that is running. Time is counted in nanoseconds. One process runs at a
time; what runs beside another in the script runs after it here, with the clock set back.
-/

namespace MailMerge.Shell

open MailMerge.Pipe (ExitStatus)

/-- Whether more comes behind what a pipe holds. -/
inductive Supply where
  /-- Nothing comes any more from some time on. -/
  | ended (time : Nat)
  /-- The writer was stopped because it had written a lot. -/
  | cut
  /-- The writer does not come to an end. -/
  | endless
  deriving DecidableEq, Repr

/-- What has been written at once, with the time. -/
abbrev Chunk := Nat × List Char

/-- What a channel is connected to. -/
inductive Outlet where
  /-- The end of a pipe that is read. -/
  | source (chunks : List Chunk) (supply : Supply)
  /-- A place where text is collected, the last piece first. It may have limited room. -/
  | sink (chunks : List Chunk) (room : Option Nat)
  | file (node place : Nat) (appends : Bool)
  | directory
  | nothing
  /-- Bytes without end, all zero or of all kinds. -/
  | endless (isVaried : Bool)
  | full
  deriving Repr

structure Variable where
  value : Option String
  isExported : Bool
  isReadonly : Bool
  deriving DecidableEq, Repr

/-- A command that runs other commands on its own account. -/
structure Process where
  /-- The number of the process. -/
  number : Nat
  /-- The number that a script knows as its own. -/
  shellNumber : Nat
  parentNumber : Nat
  /-- The name under which messages are written. -/
  name : String
  /-- The command in whose name messages are written. -/
  commandName : Option String
  line : Nat
  arguments : List String
  bindings : List (String × Variable)
  functions : List (String × Command)
  aliases : List (String × String)
  /-- The letters of the options that are set. -/
  options : List Char
  /-- What is done on a signal; on the number zero, when the process ends. -/
  traps : List (Nat × String)
  /-- The outlets that channels are connected to. -/
  channels : List (Nat × Nat)
  /-- The path of the working directory, from the root of the files. -/
  directory : String
  status : Nat
  /-- The status of the last command whose output was expanded. -/
  outputStatus : Nat
  /-- The status before what a trap has set off. -/
  statusBefore : Option Nat
  /-- How many loops are running. -/
  loops : Nat
  /-- How many functions are running. -/
  calls : Nat
  /-- What variables were before the functions that are running set them, the innermost
  function first.
  -/
  outer : List (List (String × Option Variable))
  lastJob : Option Nat
  /-- Where the reading of options is within a word. -/
  optionPlace : Nat
  /-- The permissions that new files do not get. -/
  mask : Nat

/-- A command that runs beside the others. -/
structure Job where
  process : Process
  body : Command
  startTime : Nat
  /-- When a signal comes, and which one. -/
  stopped : Option (Nat × Nat)
  /-- When and how it ended, if it has been run. -/
  ending : Option (Nat × ExitStatus)
  isKnown : Bool

structure World where
  files : Files.Tree
  /-- When the clock was started. -/
  epoch : Int
  outlets : Array Outlet
  /-- The texts of the documents in scripts by their numbers. -/
  documents : List (Nat × Word)
  nextDocument : Nat
  clock : Nat
  deadline : Option Nat
  /-- How many steps may still be made. -/
  budget : Nat
  nextNumber : Nat
  /-- The processes that wait for others to end, the innermost first. -/
  waiting : List Nat
  jobs : List Job
  /-- Signals that have come for waiting processes. -/
  signals : List (Nat × Nat)

structure Machine where
  world : World
  process : Process

/-- Why a command stops early. -/
inductive Halt where
  | exited (status : Nat)
  /-- Something was wrong, and a message has been written. -/
  | failed
  | killed (signal : Nat)
  | late
  /-- A reader needs more than a pipe with limited room holds. -/
  | starved
  /-- A pipe with limited room is full. -/
  | flooded
  /-- Leaves loops, or goes on with the next round of the last one of them. -/
  | leave (count : Nat) (goesOn : Bool)
  | giveBack
  deriving DecidableEq, Repr

/-- The running of a command. -/
abbrev Run := ExceptT Halt (StateM Machine)

/-- How a command is run. -/
structure Manner where
  /-- Whether a failure is looked at by the command around it. -/
  isTested : Bool
  /-- Whether the process ends with the command. -/
  isLast : Bool

def Manner.plain : Manner where
  isTested := false
  isLast := false

/-- What commands need to run others. -/
structure Runner where
  command : Manner → Command → Run Unit
  /-- Runs the text of a script. -/
  script : Manner → String → Run Unit
  /-- Runs a command that is given by its words. -/
  words : Manner → List String → Run Unit
  /-- Expands a word, to fields or to one text. -/
  expand : Bool → Word → Run (List Bit)

namespace Run

/-! ### State -/

def world : Run World :=
  return (← get).world

def process : Run Process :=
  return (← get).process

def setWorld (change : World → World) : Run Unit :=
  modify fun machine => { machine with world := change machine.world }

def setProcess (change : Process → Process) : Run Unit :=
  modify fun machine => { machine with process := change machine.process }

def setStatus (status : Nat) : Run Unit :=
  setProcess fun process => { process with status }

def hasOption (letter : Char) : Run Bool :=
  return (← process).options.contains letter

/-- Catches what an action stops with. -/
def attempt (action : Run Unit) : Run (Option Halt) :=
  tryCatch (do action; return none) (fun halt => return some halt)

/-- Goes on with a halt that was held back. -/
def resume : Option Halt → Run Unit
  | none => pure ()
  | some halt => throw halt

/-- Repeats a step as long as it asks for it. -/
def repeatWhile (step : Run Bool) : Nat → Run Unit
  | 0 => throw .late
  | rounds + 1 => do
      if ← step then repeatWhile step rounds

/-! ### Time -/

/-- Lets time pass until some moment. -/
def waitUntil (time : Nat) : Run Unit := do
  let world ← world
  let time := max world.clock time
  match world.deadline with
  | some deadline =>
      if deadline < time then
        setWorld fun world => { world with clock := max world.clock deadline }
        throw .late
  | none => pure ()
  setWorld fun world => { world with clock := time }

def spend (span : Nat) : Run Unit := do
  waitUntil ((← world).clock + span)

/-- What a step within the shell takes, and what another command takes. -/
def stepSpan : Nat := 1000
def commandSpan : Nat := 1000000

/-- Makes a step, if steps are left. -/
def step : Run Unit := do
  if (← world).budget = 0 then
    setWorld fun world => { world with clock := max world.clock (world.deadline.getD 0) }
    throw .late
  setWorld fun world => { world with budget := world.budget - 1 }
  spend stepSpan

/-! ### Files -/

/-- Changes the files at the time that it is. -/
def changeFiles (change : Files.Tree → Files.Tree) : Run Unit := do
  let mask := (← process).mask
  setWorld fun world =>
    let stamp : Files.Stamp := { time := world.epoch + world.clock, mask }
    { world with files := change { world.files with stamp } }

/-! ### Channels -/

def outletAt? (channel : Nat) : Run (Option (Nat × Outlet)) := do
  match (← process).channels.lookup channel with
  | none => return none
  | some index => return ((← world).outlets[index]?).map (index, ·)

def setOutlet (index : Nat) (outlet : Outlet) : Run Unit :=
  setWorld fun world => { world with outlets := world.outlets.setIfInBounds index outlet }

def newOutlet (outlet : Outlet) : Run Nat := do
  let index := (← world).outlets.size
  setWorld fun world => { world with outlets := world.outlets.push outlet }
  return index

def connect (channel index : Nat) : Run Unit :=
  setProcess fun process =>
    { process with channels := Pairs.assign channel index process.channels }

def disconnect (channel : Nat) : Run Unit :=
  setProcess fun process =>
    { process with channels := process.channels.filter (·.1 ≠ channel) }

/-- Why nothing can be written. -/
inductive WriteFault where
  | closed
  | full
  deriving DecidableEq, Repr

def WriteFault.reason : WriteFault → String
  | closed => "Bad file descriptor"
  | full => "No space left on device"

/-- Puts text into a file at a place. -/
def overwrite (content : Bytes) (place : Nat) (text : Bytes) : Bytes :=
  content.take place ++ List.replicate (place - content.length) 0 ++ text
    ++ content.drop (place + text.length)

/-- Writes to an outlet. -/
def emitTo (index : Nat) (text : List Char) : Run (Option WriteFault) := do
  if text.isEmpty then return none
  match (← world).outlets[index]? with
  | some (.sink chunks room) => do
      let clock := (← world).clock
      let room' := room.map (· - text.length)
      setOutlet index (.sink ((clock, text) :: chunks) room')
      if room.any (· < text.length) then throw .flooded
      return none
  | some (.file node place appends) => do
      let content := ((← world).files.contentOf? node).getD []
      let place := if appends then content.length else place
      let content := overwrite content place (ofOctets text)
      changeFiles (·.fill node content)
      setOutlet index (.file node (place + text.length) appends)
      return none
  | some .full => return some .full
  | some .nothing | some (.endless _) => return none
  | _ => return some .closed

/-- Writes to a channel. -/
def emit (channel : Nat) (text : List Char) : Run (Option WriteFault) := do
  match (← process).channels.lookup channel with
  | some index => emitTo index text
  | none => return if text.isEmpty then none else some .closed

def say (text : String) : Run Unit := do
  let _ ← emit 1 text.toList

/-- Writes a line to the channel for messages. -/
def report (text : String) : Run Unit := do
  let _ ← emit 2 (text ++ "\n").toList

/-! ### Messages -/

/-- Writes a message with the name and the line of the script. -/
def warn (problem : String) : Run Unit := do
  let process ← process
  let command := (process.commandName.map (· ++ ": ")).getD ""
  report s!"{process.name}: {process.line}: {command}{problem}"

/-- Writes a message and stops. -/
def fail {α : Type} (problem : String) : Run α := do
  warn problem
  setStatus 2
  throw .failed

/-- Runs an action in whose messages a command is named. -/
def inNameOf (name : String) (action : Run Unit) : Run Unit := do
  let before := (← process).commandName
  setProcess fun process => { process with commandName := some name }
  let halt ← attempt action
  setProcess fun process => { process with commandName := before }
  resume halt

/-! ### Reading -/

/-- The bytes of a file from a place on. -/
def fileRest (node place : Nat) : Run (List Char) :=
  return toOctets ((((← world).files.contentOf? node).getD []).drop place)

/-- Waits for the end of what a pipe holds. -/
def awaitEnd (supply : Supply) : Run Unit := do
  match supply with
  | .ended time => waitUntil time
  | .cut => throw .starved
  | .endless => do
      setWorld fun world => { world with clock := max world.clock (world.deadline.getD 0) }
      throw .late

/-- A line at the head of some text, and whether it has a line feed. -/
def cutLine (text : List Char) : List Char × Bool × List Char :=
  let line := text.takeWhile (· ≠ newline)
  match text.drop line.length with
  | _ :: rest => (line, true, rest)
  | [] => (line, false, [])

/-- Takes a line from the chunks of a pipe. -/
def takeLineFrom : List Char → List Chunk → Supply → Run (List Char × Bool × List Chunk)
  | taken, [], supply => do
      awaitEnd supply
      return (taken, false, [])
  | taken, (time, text) :: chunks, supply => do
      waitUntil time
      match cutLine text with
      | (line, true, rest) =>
          return (taken ++ line, true, if rest.isEmpty then chunks else (time, rest) :: chunks)
      | (line, false, _) => takeLineFrom (taken ++ line) chunks supply

/-- Takes a line from a channel: its text, and whether it has a line feed. Tells none where
nothing can be read.
-/
def takeLine (channel : Nat) : Run (Option (List Char × Bool)) := do
  match ← outletAt? channel with
  | some (index, .source chunks supply) => do
      let (line, isWhole, chunks) ← takeLineFrom [] chunks supply
      setOutlet index (.source chunks supply)
      return some (line, isWhole)
  | some (index, .file node place appends) => do
      let (line, isWhole, _) := cutLine (← fileRest node place)
      let size := line.length + if isWhole then 1 else 0
      setOutlet index (.file node (place + size) appends)
      return some (line, isWhole)
  | some (_, .nothing) => return some ([], false)
  | _ => return none

/-- The chunks of a pipe behind so many bytes, and the time when the last of those was
there.
-/
def dropChunks (time : Nat) : Nat → List Chunk → Nat × List Chunk
  | _, [] => (time, [])
  | 0, chunks => (time, chunks)
  | count, (time', text) :: chunks =>
      if text.length ≤ count then dropChunks time' (count - text.length) chunks
      else (time', (time', text.drop count) :: chunks)

/-! ### Variables -/

def variableAt (name : String) : Run (Option Variable) :=
  return (← process).bindings.lookup name

def valueOf? (name : String) : Run (Option String) :=
  return (← variableAt name).bind Variable.value

def separators : Run (List Char) :=
  return ((← valueOf? "IFS").getD " \t\n").toList

def putVariable (name : String) (found : Option Variable) : Run Unit :=
  setProcess fun process =>
    { process with
      bindings :=
        match found with
        | some found => Pairs.assign name found process.bindings
        | none => process.bindings.filter (·.1 ≠ name) }

/-- Gives a variable a value, unless it is protected. -/
def assign (name value : String) (exports : Bool) : Run Unit := do
  let before := (← variableAt name).getD { value := none, isExported := false, isReadonly := false }
  if before.isReadonly then fail s!"{name}: is read only"
  let isExported := before.isExported || exports || (← hasOption 'a')
  putVariable name (some { before with value := some value, isExported })
  if name = "OPTIND" then
    setProcess fun process => { process with optionPlace := 0 }

/-- Keeps what a variable is, to be restored when the function that is running ends. -/
def keep (name : String) : Run Unit := do
  let before ← variableAt name
  setProcess fun process =>
    { process with
      outer :=
        match process.outer with
        | kept :: outer =>
            (if kept.any (·.1 = name) then kept else (name, before) :: kept) :: outer
        | [] => [] }

/-- Runs an action and gives the variables that were kept meanwhile back what they were. -/
def withKept (action : Run Unit) : Run Unit := do
  setProcess fun process => { process with outer := [] :: process.outer }
  let halt ← attempt action
  let kept := (← process).outer.headD []
  setProcess fun process => { process with outer := process.outer.tail }
  for (name, before) in kept do putVariable name before
  resume halt

/-- The variables that other commands get. -/
def environment : Run (List (String × String)) := do
  return (← process).bindings.filterMap fun (name, found) =>
    if found.isExported then found.value.map (name, ·) else none

/-! ### Files -/

/-- The path from the root of the files that a path of the script stands for. -/
def locate (path : String) : Run String := do
  return unspell (placeOf (← process).directory path)

def entryAt? (path : String) : Run (Option Files.Entry) := do
  return ((← world).files.stat (← locate path)).toOption

def routeOf? (path : String) : Run (Option Files.Route) := do
  return ((← world).files.resolve (← locate path)).toOption

/-- The path of a directory as scripts see it. -/
def shownPath (directory : String) : String :=
  let root := Files.Tree.rootPath
  if directory.startsWith "/" then directory
  else if directory = "" then root
  else root ++ "/" ++ directory

/-! ### Utilities -/

/-- What a utility can read from a channel. -/
def readable (channel : Nat) : Run (List Char × Option Files.FileError × Bool) := do
  match ← outletAt? channel with
  | some (_, .source chunks _) => return (chunks.flatMap Prod.snd, none, false)
  | some (_, .file node place _) => return (← fileRest node place, none, true)
  | some (_, .directory) => return ([], some .isDirectory, false)
  | some (_, .endless isVaried) => return (endlessText isVaried, none, false)
  | _ => return ([], none, false)

/-- Takes off a channel what has been used of it, and waits until what was called for was
there: so many bytes, or all of it.
-/
def consume (channel taken : Nat) (needed : Option Nat) : Run Unit := do
  match ← outletAt? channel with
  | some (index, .source chunks supply) => do
      let (time, rest) := dropChunks 0 taken chunks
      setOutlet index (.source rest supply)
      match needed with
      | none => do
          waitUntil time
          awaitEnd supply
      | some count => waitUntil (dropChunks 0 count chunks).1
  | some (index, .file node place appends) =>
      setOutlet index (.file node (place + taken) appends)
  | some (_, .endless _) => if needed.isNone then awaitEnd .endless
  | _ => pure ()

/-- Utilities that write while they read. -/
def streamers : List String :=
  ["cat", "sed", "tr", "nl", "fold", "grep", "cut", "rev", "paste", "expand", "unexpand", "tee", "od"]

/-- Whether what a channel can read from has no end. -/
def readsEndless (channel : Nat) : Run Bool := do
  match ← outletAt? channel with
  | some (_, .source _ supply) => return supply = .endless
  | some (_, .endless _) => return true
  | _ => return false

/-- Runs a utility under a name, with the channels of the process. -/
def utility (name : String) (work : Work Nat) : Run Unit := do
  let (input, inputFault, isSeekable) ← readable 0
  let outputFile ← do
    match ← outletAt? 1 with
    | some (_, .file node place appends) =>
        let size := (((← world).files.contentOf? node).getD []).length
        pure (some (node, if appends then size else place))
    | _ => pure none
  changeFiles id
  let station : Station :=
    {
      files := (← world).files
      outputFile
      directory := (← process).directory
      environment := ← environment
      input
      inputFault
      isSeekable
      needed := some 0
      isEndless := false
      output := []
    }
  let (ending, after) := work.run station
  setWorld fun world => { world with files := after.files }
  let isEndless := after.needed.isNone && (← readsEndless 0) && !after.output.isEmpty
  let isStream := isEndless && streamers.contains name
  if !isStream then consume 0 (input.length - after.input.length) after.needed
  let mut fault? : Option WriteFault := none
  for (channel, text) in after.output.reverse do
    match channel with
    | .out => do
        if fault?.isNone then fault? ← emit 1 text
    | .err => let _ ← emit 2 text
  match fault? with
  | some fault => do
      let problem :=
        if name = "sed" then "couldn't flush stdout"
        else if name = "sort" then "write failed: 'standard output'"
        else "write error"
      report s!"{name}: {problem}: {fault.reason}"
      setStatus <|
        if name = "sed" then 4
        else if ["grep", "ls", "sort"].contains name then 2
        else 1
  | none =>
      let endless : Run Unit := do
        if after.output.isEmpty then awaitEnd .endless else throw .flooded
      match ending with
      | .ok status => if after.isEndless ∨ isStream then endless else setStatus status
      | .error (.exit status) => setStatus status
      | .error .forever => endless

end Run

end MailMerge.Shell
