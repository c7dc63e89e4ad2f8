import MailMerge.Files.Tree
import MailMerge.Shell.Run

/-! A host that stands in for the processes of a system: its shell and its commands are those
of this directory, and they work on a tree of files. Only the programs are run on it; what is
said of runs is said of any host.
-/

namespace MailMerge.Shell

open MailMerge.Pipe (ExitStatus Child Host)

/-- The bytes that a command's text may take, with the zero byte behind it. -/
def maxCommandBytes : Nat := 131072

/-- What is wrong with the text of a command itself. -/
def startFault? (command : String) : Option String :=
  if command.toList.contains '\x00' then some "nul byte found in provided data"
  else if maxCommandBytes ≤ command.utf8ByteSize then
    some "Argument list too long (os error 7)"
  else none

/-- The directories that are there besides those of the tree. -/
def systemPaths : List String :=
  ["/bin", "/dev", "/etc", "/home", "/root", "/tmp", "/usr/bin", "/var"]

/-- The process that a command starts as. -/
def firstProcess : Process :=
  let environment : List (String × String) :=
    [
      ("HOME", "/root"), ("PATH", "/usr/local/bin:/usr/bin:/bin"),
      ("PWD", Files.Tree.rootPath)
    ]
  let number := 4242
  Run.newShell
    {
      number
      shellNumber := number
      parentNumber := number - 1
      name := "sh"
      commandName := none
      line := 1
      arguments := []
      bindings := environment.map fun (name, value) =>
        (name, { value := some value, isExported := true, isReadonly := false })
      functions := []
      aliases := []
      options := []
      traps := []
      channels := [(0, 0), (1, 1), (2, 2)]
      directory := ""
      status := 0
      outputStatus := 0
      statusBefore := none
      loops := 0
      calls := 0
      outer := []
      lastJob := none
      optionPlace := 0
      mask := 18
    }

/-- How many steps a command may make. -/
def maxSteps : Nat := 1000000

def firstWorld (input : Bytes) (limit : Option Nat) (files : Files.Tree) : World where
  files := systemPaths.foldl Files.Tree.plantDirectory files
  epoch := files.stamp.time
  outlets :=
    #[.source (if input = [] then [] else [(0, toOctets input)]) (.ended 0), .sink [] none,
      .sink [] none]
  documents := []
  nextDocument := 0
  clock := 0
  deadline := limit
  budget := maxSteps
  nextNumber := 4243
  waiting := []
  jobs := []
  signals := []

/-- Runs the text of a command to its end. A command takes some time to start, so that a
limit of zero always passes.
-/
def runWhole (command : String) : Run ExitStatus := do
  let runner := Run.runner Run.maxDepth
  let halt ← Run.attempt do
    Run.spend 1
    runner.script .plain (spell command)
    Run.takeSignals runner
  let ending ← Run.conclude runner halt
  Run.drain runner 1 none
  Run.drain runner 2 none
  Run.settleJobs runner (← Run.world).clock
  return ending

/-- What has been written to an outlet. -/
def writtenTo (index : Nat) : Run Bytes :=
  return ofOctets ((← Run.collected index).flatMap Prod.snd)

/-- Runs a command on a text. One that does not come to an end in time is still running. -/
def start (command : String) (input : Bytes) (limit : Option Nat) (files : Files.Tree)
    : Child × Files.Tree :=
  let run : Run (ExitStatus × Bytes × Bytes) := do
    let ending ← runWhole command
    return (ending, ← writtenTo 1, ← writtenTo 2)
  let (result, after) :=
    run.run { world := firstWorld input limit files, process := firstProcess }
  let (ending, output, errors) :=
    match result with
    | .error _ => (none, [], [])
    | .ok (ending, output, errors) => (some ending, output, errors)
  ({ feeding := .complete, ending := .ok ending, stopping := .ok (), output, errors },
    after.world.files)

/-- Starts commands with the shell, which is the only program that is there. -/
def host : Host Files.Tree :=
  fun invocation limit files =>
    match invocation.program, invocation.arguments with
    | "sh", ["-c", command] =>
        match startFault? command with
        | some reason => (.error reason, files)
        | none =>
            let (child, files) := start command invocation.input limit files
            (.ok child, files)
    | _, _ => (.error (Files.FileError.message .notFound), files)

end MailMerge.Shell
