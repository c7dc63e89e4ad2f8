import MailMerge.Shell.Machine

/-! Processes: commands that run on their own account, one behind another in a pipe, or
beside the others as jobs. A job is run when something depends on its end.
-/

namespace MailMerge.Shell.Run

open MailMerge.Pipe (ExitStatus)

/-! ### Signals -/

/-- Runs an action whose failure and status leave the status as it was. -/
def aside (action : Run Unit) : Run Unit := do
  let process ← process
  let status := process.status
  setProcess fun process => { process with statusBefore := some status }
  action
  setProcess fun found =>
    { found with status, statusBefore := process.statusBefore }

/-- Takes a signal as the process does that it has come for. -/
def takeSignal (runner : Runner) (signal : Nat) : Run Unit := do
  let trap? := (← process).traps.lookup signal
  match if signal = Signal.kill || signal = 19 then none else trap? with
  | some "" => pure ()
  | some action => aside (runner.script .plain action)
  | none => do
      if signal = 19 then awaitEnd .endless
      if !Signal.isHarmless signal then throw (.killed signal)

/-- Takes the signals that have come for the process. -/
def takeSignals (runner : Runner) : Run Unit := do
  if (← world).signals.isEmpty then return
  let number := (← process).number
  let mine := (← world).signals.filter (·.1 = number)
  setWorld fun world => { world with signals := world.signals.filter (·.1 ≠ number) }
  for (_, signal) in mine do takeSignal runner signal

/-! ### The end of a process -/

/-- Does what is to be done when a process ends, and tells how it ended. -/
def conclude (runner : Runner) (halt : Option Halt) : Run ExitStatus := do
  match halt with
  | some (.killed signal) => return .signal signal
  | some .late => throw .late
  | some .starved => throw .starved
  | some .flooded => throw .flooded
  | _ => do
      let status ←
        match halt with
        | some (.exited status) => pure status
        | some .failed => pure 2
        | _ => pure (← process).status
      setStatus status
      match (← process).traps.lookup 0 with
      | none | some "" => return .code status
      | some action => do
          setProcess fun process =>
            { process with
              traps := process.traps.filter (·.1 ≠ 0), statusBefore := some status, loops := 0 }
          match ← attempt (runner.script .plain action) with
          | some (.exited status) => return .code status
          | some (.killed signal) => return .signal signal
          | some .failed => return .code 2
          | some .late => throw .late
          | some .starved => throw .starved
          | some .flooded => throw .flooded
          | _ => return .code status

/-- A number for a process. -/
def newNumber : Run Nat := do
  let number := (← world).nextNumber
  setWorld fun world => { world with nextNumber := number + 1 }
  return number

/-- A process that starts as a copy of another one: without its traps, except that it goes
on ignoring signals.
-/
def copyOf (process : Process) (number : Nat) : Process :=
  { process with
    number
    parentNumber := process.number
    traps := process.traps.filter (·.2 = "")
    statusBefore := none }

/-- Runs an action as a process of its own. -/
def inProcess (runner : Runner) (process : Process) (action : Run Unit) : Run ExitStatus := do
  let before ← Run.process
  setWorld fun world => { world with waiting := before.number :: world.waiting }
  setProcess fun _ => process
  let restore : Run Unit := do
    setProcess fun _ => before
    setWorld fun world => { world with waiting := world.waiting.tail }
  let ending? ← tryCatch (do
      let halt ← attempt action
      return Except.ok (← conclude runner halt))
    (fun halt => return Except.error halt)
  restore
  match ending? with
  | .ok ending => return ending
  | .error halt => throw halt

/-- Runs an action in a copy of the process. -/
def inChild (runner : Runner) (action : Run Unit) : Run ExitStatus := do
  inProcess runner (copyOf (← process) (← newNumber)) action

/-- Tells that a signal has ended a command, where that is told. -/
def reportEnding (ending : ExitStatus) : Run Unit := do
  match ending with
  | .signal number =>
      match Signal.report? number with
      | some text => report text
      | none => pure ()
  | .code _ => pure ()

/-- Takes over the status of a command that has been waited for. -/
def takeEnding (runner : Runner) (ending : ExitStatus) : Run Unit := do
  reportEnding ending
  setStatus ending.number
  takeSignals runner

/-! ### Jobs -/

/-- Starts a command beside the others. -/
def startJob (body : Command) : Run Unit := do
  let number ← newNumber
  let input ← newOutlet .nothing
  let process ← process
  let copy := copyOf process number
  let job : Job :=
    {
      process := { copy with channels := Pairs.assign 0 input copy.channels }
      body
      startTime := (← world).clock
      stopped := none
      ending := none
      isKnown := true
    }
  setWorld fun world => { world with jobs := world.jobs ++ [job] }
  setProcess fun process => { process with lastJob := some number, status := 0 }

def putJob (job : Job) : Run Unit :=
  setWorld fun world =>
    { world with
      jobs := world.jobs.map fun found =>
        if found.process.number = job.process.number then job else found }

/-- Runs a job up to some time. Tells whether it has ended by then; if not, nothing has
happened. The clock does not change.
-/
def runJob (runner : Runner) (job : Job) (limit : Option Nat) : Run Bool := do
  let before ← get
  let stopTime? := job.stopped.map Prod.fst
  let isStopped := stopTime?.any fun time => limit.all (time ≤ ·)
  setWorld fun world =>
    { world with
      clock := job.startTime
      deadline := if isStopped then stopTime? else limit
      jobs := world.jobs.map fun found =>
        if found.process.number = job.process.number then
          { found with ending := some (job.startTime, .code 0) }
        else found }
  let ending? ← tryCatch (do
      let ending ← inProcess runner job.process
        (runner.command { isTested := false, isLast := true } job.body)
      return some ending)
    (fun _ => return none)
  let time := (← world).clock
  setWorld fun world =>
    { world with clock := before.world.clock, deadline := before.world.deadline }
  match ending?, job.stopped with
  | some ending, _ => do
      putJob { job with ending := some (time, ending) }
      return true
  | none, some (time, signal) => do
      if isStopped then
        setProcess fun _ => before.process
        putJob { job with ending := some (time, .signal signal) }
        return true
      else
        let budget := (← world).budget
        set { before with world := { before.world with budget } }
        return false
  | none, none => do
      let budget := (← world).budget
      set { before with world := { before.world with budget } }
      return false

/-- The jobs that have not been run. -/
def openJobs : Run (List Job) :=
  return (← world).jobs.filter (·.ending.isNone)

/-- Runs the jobs that have ended by some time. -/
def settleJobs (runner : Runner) (time : Nat) : Run Unit := do
  for job in ← openJobs do
    if job.startTime ≤ time then
      let _ ← runJob runner job (some time)

/-- Waits for the end of a job. -/
def awaitJob (runner : Runner) (number : Nat) : Run (Option ExitStatus) := do
  match (← world).jobs.find? (·.process.number = number) with
  | none => return none
  | some job => do
      if job.ending.isNone then
        if !(← runJob runner job (← world).deadline) then awaitEnd .endless
      match (← world).jobs.find? (·.process.number = number) with
      | some { ending := some (time, ending), .. } => do
          waitUntil time
          return some ending
      | _ => return none

/-- Waits for the jobs that can still write to an outlet. -/
def drain (runner : Runner) (index : Nat) (limit : Option Nat) : Run Unit := do
  for job in ← openJobs do
    if job.process.channels.any (·.2 = index) then
      let _ ← runJob runner job limit

/-- Lets time pass, in which jobs may end. -/
def sleep (runner : Runner) (span : Nat) : Run Unit := do
  let world ← world
  let time := world.clock + span
  if !world.jobs.isEmpty then
    settleJobs runner (min time (world.deadline.getD time))
    let process ← process
    let isStopped := (← Run.world).signals.any fun (number, signal) =>
      number = process.number && process.traps.lookup signal = none
    if isStopped then takeSignals runner
  waitUntil time

/-! ### Output that is collected -/

/-- The chunks that an outlet has collected, in the order of time. -/
def collected (index : Nat) : Run (List Chunk) := do
  match (← world).outlets[index]? with
  | some (.sink chunks _) =>
      let chunks := chunks.reverse
      if (← world).jobs.isEmpty then return chunks
      else return chunks.mergeSort fun x y => x.1 ≤ y.1
  | _ => return []

/-- Collects what a command writes, and tells how it ended. -/
def capture (runner : Runner) (action : Run Unit) : Run (List Char × ExitStatus) := do
  let sink ← newOutlet (.sink [] none)
  let ending ← inChild runner do
    connect 1 sink
    action
  drain runner sink (← world).deadline
  let text := (← collected sink).flatMap Prod.snd
  setOutlet sink .nothing
  return (text, ending)

/-! ### Pipes -/

/-- How a command of a pipe ended: its status and the time, or none if it was stopped. -/
structure StageEnd where
  ending : Option ExitStatus
  time : Nat
  /-- Whether it was stopped because it had written a lot. -/
  isCut : Bool
  /-- When it wrote something. -/
  times : List Nat

/-- Runs a command of a pipe from some time on. -/
def runStage (runner : Runner) (manner : Manner) (start : Nat) (input? output? : Option Nat)
    (stage : Command) : Run (Option ExitStatus × Option Halt) := do
  setWorld fun world => { world with clock := start }
  let action : Run Unit := do
    if let some input := input? then connect 0 input
    if let some output := output? then connect 1 output
    runner.command { manner with isLast := true } stage
  tryCatch (do return (some (← inChild runner action), none))
    (fun halt => return (none, some halt))

/-- Runs commands of which each reads what the one in front has written. Pipes may have
limited room. The ends of the commands are told, the last one first.
-/
def runStages (runner : Runner) (manner : Manner) (room : Option Nat) (start : Nat)
    : Option Nat → List StageEnd → List Command → Run (List StageEnd)
  | _, ends, [] => return ends
  | input?, ends, [stage] => do
      match ← runStage runner manner start input? none stage with
      | (_, some halt) => throw halt
      | (ending, none) =>
          return { ending, time := (← world).clock, isCut := false, times := [] } :: ends
  | input?, ends, stage :: stages => do
      let sink ← newOutlet (.sink [] room)
      let (ending, halt) ← runStage runner manner start input? (some sink) stage
      let deadline := (← world).deadline
      drain runner sink deadline
      let supply ←
        match halt with
        | none => pure (Supply.ended (← world).clock)
        | some .flooded => pure (if room.isSome then Supply.cut else Supply.endless)
        | some .late => pure Supply.endless
        | some halt => throw halt
      let chunks ← collected sink
      let source ← newOutlet (.source chunks supply)
      setOutlet sink .nothing
      let ended : StageEnd :=
        {
          ending
          time := (← world).clock
          isCut := halt = some .flooded
          times := chunks.map Prod.fst
        }
      runStages runner manner room start (some source) (ended :: ends) stages

/-- The time when the commands of a pipe have ended, the last one first. One that was
stopped ends when it writes after its reader has ended.
-/
def endTime? : Nat → List StageEnd → Option Nat
  | time, [] => some time
  | time, stage :: ends =>
      if stage.ending.isSome then endTime? (max time stage.time) ends
      else if stage.isCut then endTime? time ends
      else (stage.times.find? (time < ·)).bind (endTime? · ends)

/-- How much a pipe holds at a first try. -/
def firstRoom : Nat := 0x10000

/-- Runs the commands of a pipe. Pipes have limited room at first, so that a command that
writes without end is stopped early if its reader needs no more.
-/
def runPipe (runner : Runner) (manner : Manner) (stages : List Command) : Run Unit := do
  let before ← get
  let start := before.world.clock
  let ends ← tryCatch (runStages runner manner (some firstRoom) start none [] stages)
    (fun halt => do
      if halt ≠ .starved then throw halt
      let budget := (← world).budget
      set { before with world := { before.world with budget } }
      runStages runner manner none start none [] stages)
  let last := ends.headD { ending := some (.code 0), time := start, isCut := false, times := [] }
  match endTime? last.time ends with
  | some time => do
      setWorld fun world => { world with clock := start }
      waitUntil time
  | none => awaitEnd .endless
  for stage in ends.reverse do
    match stage.ending with
    | some ending => reportEnding ending
    | none => pure ()
  setStatus ((last.ending.map ExitStatus.number).getD 0)
  takeSignals runner

end MailMerge.Shell.Run
