import MailMerge.Mail.Mailer

/-! What a run reports as it goes: the phases it moves through and the events it logs. -/

namespace MailMerge

/-- Where a run stands. -/
inductive Phase where
  | idle
  | connected
  | fetching
  | rendering
  | dispatching
  | disconnected
  | aborted
  deriving DecidableEq, Repr

def Phase.text : Phase → String
  | idle => "idle"
  | connected => "connected"
  | fetching => "fetching"
  | rendering => "rendering"
  | dispatching => "dispatching"
  | disconnected => "disconnected"
  | aborted => "aborted"

inductive Event where
  | moved (origin target : Phase)
  | opened (directory : String)
  | loaded (table : String) (rows : Nat)
  | closed (directory : String)
  | released
  | fetched (table : String) (rows : Nat)
  | skipped (row : Nat) (column : String)
  | noted (recipient output : String)
  | sent (row : Nat) (recipient : String)
  | sendFailed (row : Nat) (recipient : String) (error : Mail.SendError)
  | finished (sent skipped failed : Nat)
  deriving DecidableEq, Repr

namespace Event

inductive Level where
  | debug
  | info
  | warn
  deriving DecidableEq, Repr

def Level.text : Level → String
  | debug => "DEBUG"
  | info => "INFO"
  | warn => "WARN"

/-- Moves between rows are details; moves of the run as a whole are not. -/
def level : Event → Level
  | moved _ target => if target = .rendering ∨ target = .dispatching then .debug else .info
  | skipped .. | sendFailed .. => .warn
  | finished .. => .info
  | _ => .debug

/-- What happened, and the particulars by name. -/
def content : Event → String × List (String × String)
  | moved origin target => ("run state", [("from", origin.text), ("to", target.text)])
  | opened directory => ("opened csv database", [("dir", directory)])
  | loaded table rows => ("loaded table", [("table", table), ("rows", toString rows)])
  | closed directory => ("closed csv database", [("dir", directory)])
  | released => ("connection released", [])
  | fetched table rows => ("fetched", [("table", table), ("rows", toString rows)])
  | skipped row column =>
      ("no address, row skipped", [("row", toString row), ("column", column)])
  | noted recipient output => ("mailer output", [("to", recipient), ("output", output)])
  | sent row recipient => ("sent", [("row", toString row), ("to", recipient)])
  | sendFailed row recipient error =>
      ("send failed", [("row", toString row), ("to", recipient), ("error", error.message)])
  | finished sentCount skippedCount failedCount =>
      ("mail run finished",
        [("sent", toString sentCount), ("skipped", toString skippedCount),
          ("failed", toString failedCount)])

/-- One line of the log. -/
def text (event : Event) : String :=
  let (what, particulars) := event.content
  " ".intercalate
    (event.level.text :: what :: particulars.map fun (name, value) => name ++ "=" ++ value)

end Event

end MailMerge
