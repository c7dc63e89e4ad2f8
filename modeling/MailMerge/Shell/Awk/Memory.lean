import Std.Data.HashMap
import MailMerge.Shell.Awk.Pattern
import MailMerge.Shell.Awk.Table
import MailMerge.Shell.Program

/-! What a program of rules keeps while it runs: variables and tables, the line with its
fields, and what has been written. Fields are cut when they are asked for, and the line is
put together again when it is asked for after a field has changed.
-/

namespace MailMerge.Shell.Awk

/-- What a name stands for. -/
inductive Cell where
  | value (value : Value)
  | table (place : Nat)

/-- A place for output: one of the channels, a file, or a command that is run when its input
is complete.
-/
inductive Sink where
  | standard
  | file (outlet : Nat)
  | command (pieces : List (List Char))

structure Writer where
  path : List Char
  sink : Sink

/-- A text that lines are taken from. -/
structure Source where
  rest : List Char
  /-- Whether more is to be taken from the input, and how much at once. -/
  block : Option Nat

structure Feeder where
  feed : Feed
  path : List Char
  source : Source
  status : Nat

structure Memory where
  globals : Std.HashMap String Cell
  /-- The names of the function that is running. -/
  locals : List (String × Cell)
  calls : Nat
  tables : Array Table
  /-- The line, unless a field has changed since. -/
  line? : Option (List Char)
  /-- The fields, if they have been cut. -/
  fields? : Option (Array Value)
  /-- The ranges of lines that have begun. -/
  active : List Nat
  source? : Option Source
  /-- The next word that may name an input. -/
  position : Nat
  hasInput : Bool
  feeders : List Feeder
  /-- The places for output, the one that was used last first. -/
  writers : List Writer
  /-- What waits to be written, the last piece first, and its size. -/
  pending : List (List Char)
  pendingSize : Nat
  patterns : Std.HashMap String Expression
  status : Nat
  seed : Nat
  /-- The last number of the series without order that starts with the seed. -/
  draw : Nat

/-- Why a program leaves what it is doing. -/
inductive Escape where
  | next
  | nextFile
  | leaveLoop
  | nextRound
  | giveBack (value : Value)
  | exit
  /-- Nothing more is to be done. -/
  | abort

/-- What does not change while a program runs. -/
structure Setting where
  runner : Runner
  name : String
  program : Program

/-- A step of a program. -/
abbrev Step := ReaderT Setting (ExceptT Escape (StateT Memory Run))

namespace Step

def lift {α : Type} (action : Run α) : Step α :=
  fun _ => ExceptT.lift (StateT.lift action)

/-- Reports a problem and ends the program. -/
def fail {α : Type} (problem : String) : Step α := do
  lift (Run.complain (← read).name problem)
  modify fun memory => { memory with status := 2 }
  throw .abort

/-! ### Output -/

/-- How much is collected before it is written. -/
def bufferSize : Nat := 4096

/-- Writes what has been waiting. -/
def flush : Step Unit := do
  let pieces := (← get).pending
  modify fun memory => { memory with pending := [], pendingSize := 0 }
  if !pieces.isEmpty then
    match ← lift (Run.emit 1 pieces.reverse.flatten) with
    | none => pure ()
    | some fault => fail s!"write failure ({fault.reason})"

def say (text : List Char) : Step Unit := do
  modify fun memory =>
    { memory with
      pending := text :: memory.pending, pendingSize := memory.pendingSize + text.length }
  if bufferSize ≤ (← get).pendingSize then flush

/-! ### Variables -/

def cell (name : String) : Step Cell := do
  let memory ← get
  match memory.locals.lookup name with
  | some found => return found
  | none => return memory.globals.getD name (.value .nothing)

def setCell (name : String) (found : Cell) : Step Unit :=
  modify fun memory =>
    if memory.locals.any (·.1 = name) then
      { memory with locals := Pairs.assign name found memory.locals }
    else { memory with globals := memory.globals.insert name found }

/-- The value of a variable whose changes have no effects of their own. -/
def plainValue (name : String) : Step Value := do
  match ← cell name with
  | .value value => return value
  | .table _ => fail s!"illegal reference to array {name}"

def setGlobal (name : String) (value : Value) : Step Unit :=
  modify fun memory => { memory with globals := memory.globals.insert name (.value value) }

/-- The format for numbers that become texts. -/
def numberFormat : Step (List Char) := do
  match (← get).globals.get? "CONVFMT" with
  | some (.value value) => return value.toText []
  | _ => return "%.6g".toList

def textOf (value : Value) : Step (List Char) := do
  return value.toText (← numberFormat)

def globalText (name : String) : Step (List Char) := do
  match (← get).globals.get? name with
  | some (.value value) => textOf value
  | _ => return []

/-- The place of the table that a name stands for. -/
def tableAt (name : String) : Step Nat := do
  match ← cell name with
  | .table place => return place
  | .value .nothing => do
      let place := (← get).tables.size
      modify fun memory => { memory with tables := memory.tables.push Table.empty }
      setCell name (.table place)
      return place
  | .value _ => fail s!"illegal reference to variable {name}"

def table (place : Nat) : Step Table := do
  return (← get).tables.getD place Table.empty

def setTable (place : Nat) (table : Table) : Step Unit :=
  modify fun memory => { memory with tables := memory.tables.setIfInBounds place table }

/-! ### Patterns -/

/-- The expression that a pattern stands for. -/
def patternOf (text : List Char) : Step Expression := do
  let key := String.ofList text
  match (← get).patterns.get? key with
  | some expression => return expression
  | none =>
      match Pattern.read? text with
      | .ok expression => do
          modify fun memory => { memory with patterns := memory.patterns.insert key expression }
          return expression
      | .error problem =>
          fail s!"regular expression compile failed ({problem})\n{key}"

/-! ### Fields -/

/-- Cuts a text at blanks. -/
def cutAtBlanks (text : List Char) : List (List Char) :=
  (text.splitOnP fun c => c = ' ' || c = '\t' || c = newline).filter (· ≠ [])

/-- Cuts a text at a separator: a blank for any run of blanks, nothing for every character,
a character for itself, or a pattern.
-/
def cutAt (separator : List Char) (isParagraph : Bool) (text : List Char)
    : Step (List (List Char)) := do
  if text.isEmpty then return []
  match separator with
  | [' '] => return cutAtBlanks text
  | [] => return text.map ([·])
  | [c] =>
      if isParagraph then return text.splitOnP fun d => d = c || d = newline
      else return text.splitOn c
  | separator => do
      let lines := if isParagraph then "|\n".toList else []
      let expression ← patternOf (separator ++ lines)
      return Pattern.split expression (text.length + 1) text

def line : Step (List Char) := do
  let memory ← get
  match memory.line?, memory.fields? with
  | some text, _ => return text
  | none, some fields => do
      let texts ← fields.toList.mapM textOf
      let text := (← globalText "OFS").intercalate texts
      modify fun memory => { memory with line? := some text }
      return text
  | none, none => return []

def setLine (text : List Char) : Step Unit :=
  modify fun memory => { memory with line? := some text, fields? := none }

def fields : Step (Array Value) := do
  match (← get).fields? with
  | some fields => return fields
  | none => do
      let isParagraph := (← globalText "RS").isEmpty
      let pieces ← cutAt (← globalText "FS") isParagraph (← line)
      let fields := (pieces.map Value.ofInput).toArray
      modify fun memory => { memory with fields? := some fields }
      return fields

def setFields (fields : Array Value) : Step Unit :=
  modify fun memory => { memory with line? := none, fields? := some fields }

def fieldAt (index : Int) : Step Value := do
  if index = 0 then return .ofInput (← line)
  else return (← fields).getD (index.toNat - 1) (.text [])

/-- Makes a list of fields so long. -/
def resized (fields : Array Value) (size : Nat) : Array Value :=
  fields.take size ++ Array.replicate (size - fields.size) (.text [])

def setField (index : Int) (value : Value) : Step Unit := do
  if index = 0 then setLine (← textOf value)
  else
    let place := index.toNat - 1
    let found ← fields
    setFields ((resized found (max found.size (place + 1))).setIfInBounds place value)

def value (name : String) : Step Value := do
  if name = "NF" ∧ ((← get).locals.lookup name).isNone then
    return .number (Float.ofNat (← fields).size)
  else plainValue name

/-- Gives a variable a value. The number of fields cuts or fills the fields; the separator
holds for the next line only.
-/
def setValue (name : String) (value : Value) : Step Unit := do
  if (← get).locals.any (·.1 = name) then setCell name (.value value)
  else
    match name with
    | "NF" => setFields (resized (← fields) (wholePart value.toNumber).toNat)
    | "FS" | "RS" => do
        let _ ← fields
        setGlobal name value
    | _ =>
        match ← cell name with
        | .table _ => fail s!"illegal reference to array {name}"
        | .value _ => setGlobal name value

/-- Reports a problem with the place in the input, and ends the program. -/
def failAt {α : Type} (problem : String) : Step α := do
  let file := String.ofList (← globalText "FILENAME")
  let inFile := String.ofList (← globalText "FNR")
  let inAll := String.ofList (← globalText "NR")
  fail s!"run time error: {problem}\n\tFILENAME=\"{file}\" FNR={inFile} NR={inAll}"

/-! ### Commands -/

/-- The words that run a command. -/
def commandWords (command : List Char) : List String :=
  ["/bin/sh", "-c", String.ofList command]

/-- How commands are run: as all that their process has to do. -/
def commandManner : Manner where
  isTested := false
  isLast := true

/-- Runs a command, with a text as its input if one is given. -/
def runCommand (input? : Option (List Char)) (command : List Char) : Step Nat := do
  let runner := (← read).runner
  let ending ← lift do
    Run.inChild runner do
      match input? with
      | some text => do
          let clock := (← Run.world).clock
          let chunks := if text.isEmpty then [] else [(clock, text)]
          Run.connect 0 (← Run.newOutlet (.source chunks (.ended clock)))
      | none => pure ()
      runner.words commandManner (commandWords command)
  match ending with
  | .code number => return number
  | .signal number => return 256 + number

/-- The output of a command and its status. -/
def captureCommand (command : List Char) : Step (List Char × Nat) := do
  flush
  let runner := (← read).runner
  let (text, ending) ← lift do
    Run.capture runner (runner.words commandManner (commandWords command))
  match ending with
  | .code number => return (text, number)
  | .signal number => return (text, 256 + number)

/-! ### Places for output -/

/-- Opens a file for output. -/
def openOutput (isReplaced : Bool) (path : List Char) : Step Nat := do
  let name := String.ofList path
  let refuse (reason : String) : Step Nat :=
    fail s!"cannot open \"{name}\" for output ({reason})"
  match Run.deviceOf? name with
  | some outlet => lift (Run.newOutlet outlet)
  | none => do
      let files := (← lift Run.world).files
      match files.resolve (← lift (Run.locate name)) with
      | .error e => refuse e.reason
      | .ok route =>
          match files.find? route with
          | some .directory => refuse "Is a directory"
          | found? => do
              if isReplaced ∨ found?.isNone then
                lift (Run.changeFiles (·.put route (.file [])))
              match (← lift Run.world).files.places.lookup route with
              | some node => lift (Run.newOutlet (.file node 0 true))
              | none => refuse (Files.FileError.reason .notFound)

def isStandard (path : List Char) : Bool :=
  path = "/dev/stdout".toList || path = ['-']

/-- The place for output of a name, which is then the one that was used last. -/
def writerAt (direction : Direction) (path : List Char) : Step Writer := do
  let path := if direction ≠ .command ∧ isStandard path then "/dev/stdout".toList else path
  let isCommand (writer : Writer) : Bool := writer.sink matches .command _
  let isMeant (writer : Writer) : Bool :=
    writer.path = path && isCommand writer == (direction == .command)
  match (← get).writers.find? isMeant with
  | some writer => do
      modify fun memory =>
        { memory with writers := writer :: memory.writers.filter (!isMeant ·) }
      return writer
  | none => do
      let sink : Sink ←
        match direction with
        | .command => do
            flush
            pure (.command [])
        | _ => pure (.file (← openOutput (direction = .replace) path))
      let writer : Writer := { path, sink }
      modify fun memory => { memory with writers := writer :: memory.writers }
      return writer

/-- Writes to a place for output. -/
def write (target? : Option (Direction × List Char)) (text : List Char) : Step Unit := do
  match target? with
  | none => say text
  | some (direction, path) =>
      if direction ≠ .command ∧ path = "/dev/stderr".toList then
        let _ ← lift (Run.emit 2 text)
      else
        let writer ← writerAt direction path
        match writer.sink with
        | .standard => say text
        | .file outlet => do
            match ← lift (Run.emitTo outlet text) with
            | none => pure ()
            | some fault => fail s!"write failure ({fault.reason})"
        | .command pieces =>
            modify fun memory =>
              { memory with
                writers := { writer with sink := .command (text :: pieces) } :: memory.writers.tail }

/-- Ends a place for output. -/
def closeWriter (writer : Writer) : Step Nat := do
  match writer.sink with
  | .standard => do
      flush
      return 0
  | .file _ => return 0
  | .command pieces => runCommand (some pieces.reverse.flatten) writer.path

/-- Closes all that is open under a name, and tells how it ended. -/
def close (path : List Char) : Step Int := do
  let memory ← get
  let writers := memory.writers.filter (·.path = path)
  let feeders := memory.feeders.filter (·.path = path)
  modify fun memory =>
    { memory with
      writers := memory.writers.filter (·.path ≠ path)
      feeders := memory.feeders.filter (·.path ≠ path) }
  let endings ← writers.mapM closeWriter
  match endings ++ feeders.map Feeder.status with
  | [] => return -1
  | statuses => return (statuses.foldl max 0 : Nat)

/-- Closes all places for output, the one that was used last first. -/
def closeAll : Step Unit := do
  for writer in (← get).writers do
    let _ ← closeWriter writer
  flush

end Step

end MailMerge.Shell.Awk
