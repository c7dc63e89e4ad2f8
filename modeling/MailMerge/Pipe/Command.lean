import MailMerge.Text.Blank
import MailMerge.Text.Utf8

/-! Commands that a text is piped through. A host starts the command with its shell, writes the
text to it, and awaits its end, for some time at most if there is a limit. What the command
prints is the answer, unless it fails, takes too long, or prints what is no text.
-/

namespace MailMerge.Pipe

/-- How a command ended. -/
inductive ExitStatus where
  | code (number : Nat)
  | signal (number : Nat)
  deriving DecidableEq, Repr

/-- Signals by name. -/
def signalNames : List (String × Nat) :=
  [
    ("HUP", 1), ("INT", 2), ("QUIT", 3), ("ILL", 4), ("TRAP", 5), ("ABRT", 6), ("BUS", 7),
    ("FPE", 8), ("KILL", 9), ("USR1", 10), ("SEGV", 11), ("USR2", 12), ("PIPE", 13),
    ("ALRM", 14), ("TERM", 15), ("STKFLT", 16), ("CHLD", 17), ("CONT", 18), ("STOP", 19),
    ("TSTP", 20), ("TTIN", 21), ("TTOU", 22), ("URG", 23), ("XCPU", 24), ("XFSZ", 25),
    ("VTALRM", 26), ("PROF", 27), ("WINCH", 28), ("IO", 29), ("PWR", 30), ("SYS", 31)
  ]

def signalName? (number : Nat) : Option String :=
  (signalNames.find? (·.2 = number)).map Prod.fst

def ExitStatus.text : ExitStatus → String
  | code number => s!"exit status: {number}"
  | signal number =>
      match signalName? number with
      | some name => s!"signal: {number} (SIG{name})"
      | none => s!"signal: {number}"

/-- What a host is asked to start, and what it is to write to it. -/
structure Invocation where
  program : String
  arguments : List String
  input : Bytes
  deriving DecidableEq, Repr

/-- What came of writing a command its input. -/
inductive Feeding where
  | complete
  /-- The command has ended without reading all of it. -/
  | broken
  | failed (reason : String)
  deriving DecidableEq, Repr

/-- What becomes of a command that was started. -/
structure Child where
  feeding : Feeding
  /-- How it ended, unless it was still running when its time was up. -/
  ending : Except String (Option ExitStatus)
  /-- What came of stopping it, where it was still running. -/
  stopping : Except String Unit
  output : Bytes
  errors : Bytes

/-- Starts a command, which may run for so many nanoseconds if there is a limit. The state is what
commands may look at and change.
-/
abbrev Host (σ : Type) := Invocation → Option Nat → σ → Except String Child × σ

/-- Why a command gives no answer. A limit is in nanoseconds. -/
inductive PipeError where
  | io (reason : String)
  | unstarted (command reason : String)
  | timeout (command : String) (limit : Nat)
  | failed (command : String) (status : ExitStatus) (errors : String)
  | invalidText
  deriving DecidableEq, Repr

/-- A count of small units as a decimal number of large ones, without trailing zeros. -/
def inUnits (count size : Nat) : String :=
  let places := (toString size).length - 1
  let digits := (toString (count % size)).toList
  let padded := List.replicate (places - digits.length) '0' ++ digits
  let fraction := (padded.reverse.dropWhile (· = '0')).reverse
  toString (count / size) ++ (if fraction = [] then "" else "." ++ String.ofList fraction)

/-- A span of nanoseconds in the largest unit that it reaches. -/
def spanText (span : Nat) : String :=
  if 1000000000 ≤ span then inUnits span 1000000000 ++ "s"
  else if 1000000 ≤ span then inUnits span 1000000 ++ "ms"
  else if 1000 ≤ span then inUnits span 1000 ++ "µs"
  else s!"{span}ns"

def PipeError.message : PipeError → String
  | io reason => "IO error: " ++ reason
  | unstarted command reason => s!"Command \x60{command}\x60 could not be started: " ++ reason
  | timeout command limit => s!"Command \x60{command}\x60 timed out after {spanText limit}"
  | failed command status errors =>
      let reason := Text.trim errors
      s!"Command \x60{command}\x60 failed with status {status.text}"
        ++ (if reason = "" then "" else ": " ++ reason)
  | invalidText => "Command output was not valid UTF-8"

/-- A command need not read all of its input, but what is written must not fail otherwise. -/
def Feeding.check : Feeding → Except PipeError Unit
  | complete | broken => .ok ()
  | failed reason => .error (.io reason)

/-- The answer of a command that was started. One that was still running when its time was up is
stopped and has none.
-/
def Child.answer (command : String) (limit : Option Nat) (child : Child)
    : Except PipeError String :=
  match child.ending with
  | .error reason => .error (.io reason)
  | .ok none =>
      match child.stopping with
      | .error reason => .error (.io reason)
      | .ok () => .error (.timeout command (limit.getD 0))
  | .ok (some status) =>
      match child.feeding.check with
      | .error e => .error e
      | .ok () =>
          if status = .code 0 then
            match Text.ofBytes? child.output with
            | some text => .ok text
            | none => .error .invalidText
          else .error (.failed command status (Text.ofBytesLossy child.errors))

/-- The shell of a host is given a command as one argument, and a text as its input. -/
def invocation (command text : String) : Invocation where
  program := "sh"
  arguments := ["-c", command]
  input := Text.toBytes text

/-- Pipes a text through a command. -/
def run {σ : Type} (host : Host σ) (command text : String) (limit : Option Nat) (state : σ)
    : Except PipeError String × σ :=
  match host (invocation command text) limit state with
  | (.error reason, state) => (.error (.unstarted command reason), state)
  | (.ok child, state) => (child.answer command limit, state)

/-- How long a command may run when nothing else is said: thirty seconds. -/
def defaultLimit : Nat := 30 * 1000000000

end MailMerge.Pipe
