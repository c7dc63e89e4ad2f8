import MailMerge.Pipe.Command

/-! Signals that end a command, as the shell knows them. -/

namespace MailMerge

/-- The number that the shell knows a way of ending by. -/
def Pipe.ExitStatus.number : Pipe.ExitStatus → Nat
  | code number => number
  | signal number => 128 + number

namespace Shell.Signal

def interrupt : Nat := 2
def kill : Nat := 9
def brokenPipe : Nat := 13
def terminate : Nat := 15

/-- The greatest number of a signal. -/
def last : Nat := 64

/-- The number without a name of its own among the shell's names. -/
def unnamed : Nat := 16

/-- The name under which the shell lists a signal. -/
def label (number : Nat) : String :=
  if number = unnamed then toString number
  else if number = 34 then "RTMIN"
  else if number = last then "RTMAX"
  else if 34 < number ∧ number < 50 then s!"RTMIN+{number - 34}"
  else if 50 ≤ number ∧ number < last then s!"RTMAX-{last - number}"
  else (Pipe.signalName? number).getD (toString number)

/-- The signal that the shell knows by a name, in capital or small letters, or by a
number.
-/
def named? (text : String) : Option Nat :=
  let capital := text.map Char.toUpper
  if text ≠ "" ∧ text.toList.all Char.isDigit then (text.toNat?).filter (· ≤ last)
  else ((List.range (last + 1)).drop 1).find? fun number =>
    label number = capital && (Pipe.signalName? number ≠ none || 34 ≤ number) && number ≠ unnamed

/-- Signals that nothing comes of unless they are trapped. -/
def isHarmless (number : Nat) : Bool :=
  [0, 17, 18, 20, 21, 22, 23, 28, 32, 33].contains number

/-- What the shell says about a command that a signal has ended, if it says anything. -/
def report? (number : Nat) : Option String :=
  if number = interrupt ∨ number = brokenPipe then none
  else
    some <|
      match number with
      | 1 => "Hangup"
      | 3 => "Quit"
      | 4 => "Illegal instruction"
      | 5 => "Trace/breakpoint trap"
      | 6 => "Aborted"
      | 7 => "Bus error"
      | 8 => "Floating point exception"
      | 9 => "Killed"
      | 10 => "User defined signal 1"
      | 11 => "Segmentation fault"
      | 12 => "User defined signal 2"
      | 14 => "Alarm clock"
      | 15 => "Terminated"
      | 16 => "Stack fault"
      | 24 => "CPU time limit exceeded"
      | 25 => "File size limit exceeded"
      | 26 => "Virtual timer expired"
      | 27 => "Profiling timer expired"
      | 29 => "I/O possible"
      | 30 => "Power failure"
      | 31 => "Bad system call"
      | number =>
          if 34 ≤ number ∧ number ≤ last then s!"Real-time signal {number - 34}"
          else s!"Unknown signal {number}"

end Shell.Signal

end MailMerge
