import MailMerge.Files.Change
import MailMerge.Viewer.Page

/-! Sessions: sequences of steps at one desk, with the guard of at most one connection held
between steps.
-/

namespace MailMerge

open Mail Select

/-- How a session's mail is delivered. -/
inductive Delivery where
  | print (sender : Option String) (outlet : Outlet)
  | command (command : String) (limit : Nat) (sender : Option String)

inductive Step where
  /-- Opens a connection and holds its guard; one held before goes out of scope after that. -/
  | openConnection
  | close
  /-- The guard that is held, if there is one, goes out of scope. -/
  | drop
  | fetch (table : String) (projection : Projection) (criteria : Criteria)
      (window : PageWindow)
  | tables
  | columns (table : String)
  | report (selection : Selection) (rowSeparator : String)
  | mail (job : MailJob) (delivery : Delivery)
  | view (options : Options) (route : Route)
  /-- Adds or replaces a table in memory; the phase starts over. -/
  | put (table : String) (rows : Table)
  | write (path : String) (content : Bytes)
  | remove (path : String)

inductive StepError where
  | notOpen
  | notMemory
  | connect (cause : ConnectError)
  | query (cause : QueryError)
  | run (cause : RunError)
  | view (cause : ViewError)
  | file (cause : Files.FileError)

/-- What a step answers. -/
inductive Outcome where
  | done
  | rows (table : Table)
  | names (names : List String)
  | report (page : ReportPage)
  /-- A mail run, with what it printed if it printed. -/
  | mail (summary : MailSummary) (printed : Option String)
  | page (text : String)
  | failed (error : StepError)

structure Session where
  desk : Desk
  held : Option Lease

namespace Session

def start (platform : Platform) (source : Source) (files : Files.Tree) : Session where
  desk := .start platform source files
  held := none

/-- Asks the held connection a question. -/
def ask {α : Type} (session : Session) (question : Connection → Files.View → Reply α)
    (answer : α → Outcome) : Outcome × Session :=
  match session.held with
  | none => (.failed .notOpen, session)
  | some lease =>
      let reply := question lease.connection session.desk.seen
      let session :=
        { desk := session.desk.note reply.events, held := some (lease.put reply.connection) }
      match reply.answer with
      | .ok value => (answer value, session)
      | .error e => (.failed (.query e), session)

/-- Holds another guard, or none. A guard that was held before goes out of scope. -/
def hold (session : Session) (held : Option Lease) : Session :=
  match session.held with
  | none => { session with held }
  | some lease => { desk := session.desk.drop lease.guard, held }

def mail (session : Session) (job : MailJob) (delivery : Delivery) : Outcome × Session :=
  match delivery with
  | .print sender outlet =>
      let isFaulty := outlet.writeFault.isSome || outlet.flushFault.isSome
      let (result, desk, outlet) := session.desk.mail job (printing sender) outlet
      let session := { session with desk }
      match result with
      | .ok summary =>
          (.mail summary (if isFaulty then none else some outlet.text), session)
      | .error e => (.failed (.run e), session)
  | .command command limit sender =>
      let (result, desk, files) :=
        session.desk.mail job (commanding session.desk.platform.host command limit sender)
          session.desk.files
      let session := { session with desk := { desk with files } }
      match result with
      | .ok summary => (.mail summary none, session)
      | .error e => (.failed (.run e), session)

/-- Changes the files of a session. -/
def changeFiles (session : Session)
    (change : Files.Tree → Except Files.FileError Files.Tree) : Outcome × Session :=
  match change session.desk.files with
  | .ok files => (.done, { session with desk := { session.desk with files } })
  | .error e => (.failed (.file e), session)

def step (session : Session) : Step → Outcome × Session
  | .openConnection =>
      match session.desk.openConnection with
      | (.error e, desk) => (.failed (.connect e), { session with desk })
      | (.ok lease, desk) => (.done, { session with desk }.hold (some lease))
  | .close =>
      match session.held with
      | none => (.failed .notOpen, session)
      | some lease => (.done, { desk := session.desk.close lease.guard, held := none })
  | .drop => (.done, session.hold none)
  | .fetch table projection criteria window =>
      session.ask (·.fetch session.desk.platform · table projection criteria window) .rows
  | .tables =>
      session.ask
        (fun connection files =>
          { answer := connection.tables files, connection, events := [] })
        .names
  | .columns table => session.ask (·.columns session.desk.platform · table) .names
  | .report selection rowSeparator =>
      match session.desk.report selection rowSeparator with
      | (.ok page, desk) => (.report page, { session with desk })
      | (.error e, desk) => (.failed (.run e), { session with desk })
  | .mail job delivery => session.mail job delivery
  | .view options route =>
      match session.desk.view options route with
      | (.ok text, desk) => (.page text, { session with desk })
      | (.error e, desk) => (.failed (.view e), { session with desk })
  | .put table rows =>
      match session.desk.source with
      | .memory tables isReachable =>
          let source := .memory (Pairs.assign table rows tables) isReachable
          (.done, { session with desk := { session.desk with source, phase := .idle } })
      | .directory _ => (.failed .notMemory, session)
  | .write path content => session.changeFiles fun files => .ok (files.plant path content)
  | .remove path => session.changeFiles (·.remove path)

end Session

end MailMerge
