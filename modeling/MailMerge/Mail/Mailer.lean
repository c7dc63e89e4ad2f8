import MailMerge.Mail.Message
import MailMerge.Pipe.Command

/-! Mailers: functions that deliver one letter at a time and carry a state of their own.
One prints the messages that it is given, one pipes each message to a command.
-/

namespace MailMerge.Mail

/-- One delivery that a run asks for. -/
structure Letter where
  recipient : String
  subject : String
  body : String
  deriving DecidableEq, Repr

/-- Why a letter was not delivered. -/
inductive SendError where
  | invalidAddress (address : String)
  | command (cause : Pipe.PipeError)
  | write (reason : String)
  deriving DecidableEq, Repr

def SendError.message : SendError → String
  | invalidAddress address => s!"invalid address '{address}'"
  | command cause => "mailer command failed: Shell error: " ++ cause.message
  | write reason => "cannot write message: " ++ reason

/-- The outcome of a delivery, and what a command had to say about it. -/
structure Receipt where
  result : Except SendError Unit
  note : Option String

/-- Delivers a letter and moves on to its next state. -/
abbrev Mailer (σ : Type) := Letter → σ → Receipt × σ

def Receipt.refuse (error : SendError) : Receipt where
  result := .error error
  note := none

def Receipt.accept : Receipt where
  result := .ok ()
  note := none

def Letter.message (letter : Letter) (sender : Option String) : Message where
  sender
  recipient := letter.recipient
  subject := letter.subject
  body := letter.body

/-- Hands the text of each message on, unless its address is refused. -/
def handing {σ : Type} (sender : Option String) (hand : String → σ → Receipt × σ)
    : Mailer σ :=
  fun letter state =>
    if isAddress letter.recipient then hand (letter.message sender).text state
    else (.refuse (.invalidAddress letter.recipient), state)

/-- What messages are printed to. A fault is the reason that every write or every flush
fails for.
-/
structure Outlet where
  text : String
  writeFault : Option String
  flushFault : Option String
  deriving DecidableEq, Repr

namespace Outlet

def empty : Outlet where
  text := ""
  writeFault := none
  flushFault := none

/-- Writes a text and a line feed behind it, and flushes. -/
def print (text : String) (outlet : Outlet) : Receipt × Outlet :=
  match outlet.writeFault, outlet.flushFault with
  | some reason, _ => (.refuse (.write reason), outlet)
  | none, some reason =>
      (.refuse (.write reason), { outlet with text := outlet.text ++ text ++ "\n" })
  | none, none => (.accept, { outlet with text := outlet.text ++ text ++ "\n" })

end Outlet

/-- Pipes a text to a command. What the command prints becomes a note. -/
def pipeTo {σ : Type} (host : Pipe.Host σ) (command : String) (limit : Nat) (text : String)
    (state : σ) : Receipt × σ :=
  match Pipe.run host command text (some limit) state with
  | (.error cause, state) => (.refuse (.command cause), state)
  | (.ok output, state) =>
      let note := Text.trim output
      ({ Receipt.accept with note := if note = "" then none else some note }, state)

/-- Prints each message. -/
def printing (sender : Option String) : Mailer Outlet :=
  handing sender Outlet.print

/-- Pipes each message to a command. -/
def commanding {σ : Type} (host : Pipe.Host σ) (command : String) (limit : Nat)
    (sender : Option String) : Mailer σ :=
  handing sender (pipeTo host command limit)

/-- The mailer that is used when none is asked for. -/
def defaultCommand : String := "sendmail -t -oi"

/-- The setting that asks for messages to be printed. -/
def printSetting : String := "stdout"

def isPrintSetting (setting : String) : Bool :=
  Text.trim setting = printSetting

end MailMerge.Mail
