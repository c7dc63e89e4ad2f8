import MailMerge.Run.Report

/-! Mail runs: each row of a page goes to addresses as one letter apiece. A delivery that
fails is counted and the run goes on; whatever ends a run does so before its first letter.
-/

namespace MailMerge

open Mail

/-- Who receives mail: every row goes to all of some addresses, or each row goes to the
address in one of its columns.
-/
inductive Recipients where
  | broadcast (addresses : List String)
  | column (name : String)
  deriving DecidableEq, Repr

structure MailJob where
  selection : Selection
  recipients : Recipients
  subject : Option String
  deriving DecidableEq, Repr

/-- What came of the letters of a run: how many were sent, how many rows had no address,
and the deliveries that failed.
-/
structure MailSummary where
  sent : Nat
  skipped : Nat
  failed : List (String × SendError)
  deriving DecidableEq, Repr

namespace MailSummary

def empty : MailSummary where
  sent := 0
  skipped := 0
  failed := []

def isClean (summary : MailSummary) : Bool :=
  summary.failed.isEmpty

/-- The exit status of a finished run: two if a delivery failed. -/
def exitCode (summary : MailSummary) : Nat :=
  if summary.isClean then 0 else 2

def text (summary : MailSummary) : String :=
  String.join
    (s!"sent {summary.sent}, skipped {summary.skipped}, failed {summary.failed.length}"
      :: summary.failed.map fun (address, error) => s!"\n  {address}: " ++ error.message)

end MailSummary

/-- The templates that a mail run needs before it connects. -/
structure MailTemplates where
  row : Option Template
  subject : Template

namespace MailJob

/-- The subject is a template, or the name of the table as it stands. -/
def compileSubject (job : MailJob) : Except RunError Template :=
  match job.subject with
  | none => .ok (.ofLiteral job.selection.table)
  | some source =>
      match Template.compile source with
      | .ok template => .ok template
      | .error e => .error (.template e)

/-- Checks all that can be checked without a connection. -/
def prepare (job : MailJob) : Except RunError MailTemplates :=
  if job.recipients = .broadcast [] then .error .noRecipients
  else do
    let row ← job.selection.compileRowTemplate
    let subject ← job.compileSubject
    pure { row, subject }

end MailJob

/-- The addresses that a row goes to. A row without an address goes nowhere. -/
def Recipients.addresses? (recipients : Recipients) (row : Row) : Option (List String) :=
  match recipients with
  | broadcast addresses => some addresses
  | column name =>
      match row.get? name with
      | some address => if address = "" then none else some [address]
      | none => none

/-- The column that a mail run reads addresses from. -/
def Recipients.columns : Recipients → List String
  | broadcast _ => []
  | column name => [name]

/-- What a run hands from letter to letter. -/
structure Post (σ : Type) where
  summary : MailSummary
  desk : Desk
  state : σ

namespace Post

variable {σ : Type}

/-- Delivers one letter for a row and books what came of it. -/
def deliver (mailer : Mailer σ) (index : Nat) (letter : Letter) (post : Post σ) : Post σ :=
  let (receipt, state) := mailer letter post.state
  let desk := post.desk.note (receipt.note.toList.map (Event.noted letter.recipient))
  match receipt.result with
  | .ok () =>
      {
        summary := { post.summary with sent := post.summary.sent + 1 }
        desk := desk.note [.sent index letter.recipient]
        state
      }
  | .error error =>
      {
        summary :=
          { post.summary with failed := post.summary.failed ++ [(letter.recipient, error)] }
        desk := desk.note [.sendFailed index letter.recipient error]
        state
      }

/-- Renders a row and delivers it to its addresses. -/
def deliverRow (mailer : Mailer σ) (recipients : Recipients) (subject body : Template)
    (post : Post σ) (indexed : Row × Nat) : Post σ :=
  let (row, index) := indexed
  match recipients.addresses? row with
  | none =>
      { post with
        summary := { post.summary with skipped := post.summary.skipped + 1 }
        desk := post.desk.note (recipients.columns.map (Event.skipped index)) }
  | some addresses =>
      let subjectText := subject.render row.fields
      let bodyText := body.render row.fields
      let post :=
        { post with desk := (post.desk.move .rendering).move .dispatching }
      addresses.foldl
        (fun post recipient =>
          post.deliver mailer index { recipient, subject := subjectText, body := bodyText })
        post

end Post

namespace Desk

variable {σ : Type}

/-- Fetches the rows of a mail run and checks the columns that it names. -/
def gatherMail (desk : Desk) (connection : Connection) (job : MailJob)
    : Except QueryError Table × Connection × Desk :=
  match desk.gather connection job.selection .all with
  | (.error e, connection, desk) => (.error e, connection, desk)
  | (.ok table, connection, desk) =>
      ((requireColumns job.selection.table table job.recipients.columns).map fun _ => table,
        connection, desk)

/-- Runs a mail job with a mailer and the state that the mailer starts from. -/
def mail (desk : Desk) (job : MailJob) (mailer : Mailer σ) (state : σ)
    : Except RunError MailSummary × Desk × σ :=
  match job.prepare with
  | .error e => (.error e, desk, state)
  | .ok templates =>
      match desk.begin with
      | (.error e, desk) => (.error (.connect e), desk, state)
      | (.ok lease, desk) =>
          match desk.gatherMail lease.connection job with
          | (.error e, connection, desk) =>
              (.error (.query e), desk.finish (lease.put connection).guard, state)
          | (.ok table, connection, desk) =>
              let body := templates.row.getD (job.selection.defaultTemplate table)
              let post :=
                table.rows.zipIdx.foldl
                  (Post.deliverRow mailer job.recipients templates.subject body)
                  { summary := .empty, desk, state }
              let summary := post.summary
              let desk :=
                post.desk.note
                  [.finished summary.sent summary.skipped summary.failed.length]
              (.ok summary, desk.finish (lease.put connection).guard, post.state)

end Desk

end MailMerge
