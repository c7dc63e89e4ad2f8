import MailMerge.Run.Desk
import MailMerge.Template.Compile

/-! Report runs: one page of a table, each row shown by a template. Without a row template
the rows are shown by their columns, with a separator between them.
-/

namespace MailMerge

open Select

/-- What to select and how to show it. Without a row template, the columns to show are
joined; an empty list of them means all columns.
-/
structure Selection where
  table : String
  shown : List String
  criteria : Criteria
  window : PageWindow
  rowTemplate : Option String
  fieldSeparator : String
  deriving DecidableEq, Repr

/-- What ends a run. -/
inductive RunError where
  | template (cause : Template.MarkupError)
  | noRecipients
  | connect (cause : ConnectError)
  | query (cause : QueryError)
  deriving DecidableEq, Repr

namespace RunError

def message : RunError → String
  | template cause => "template error: " ++ cause.message
  | noRecipients => "no recipients: the address list is empty"
  | connect cause => cause.message
  | query cause => cause.message

/-- The causes that a message is followed by where all of them are told. -/
def causes : RunError → List String
  | template cause => [cause.message]
  | noRecipients => []
  | connect cause => cause.causes
  | query cause => cause.causes

end RunError

/-- The columns of a row as templates look them up. -/
def Row.fields (row : Row) : Fields :=
  row.get?

/-- Stands between the rows of a report when nothing else is asked for. -/
def defaultRowSeparator : String := "\n"

/-- Fails at the first name that is no column of a fetched table. -/
def requireColumns (table : String) (fetched : Table) (names : List String)
    : Except QueryError Unit :=
  match names.find? (· ∉ fetched.columns) with
  | some column => .error (.unknownColumn table column)
  | none => .ok ()

namespace Selection

/-- Compiles the row template, if there is one. -/
def compileRowTemplate (selection : Selection) : Except RunError (Option Template) :=
  match selection.rowTemplate with
  | none => .ok none
  | some source =>
      match Template.compile source with
      | .ok template => .ok (some template)
      | .error e => .error (.template e)

/-- The template of rows where no other is given. -/
def defaultTemplate (selection : Selection) (fetched : Table) : Template :=
  .ofColumns (if selection.shown = [] then fetched.columns else selection.shown)
    selection.fieldSeparator

/-- A report with a row template may look at every column; one without needs only those
that it shows.
-/
def projection (selection : Selection) (rowTemplate : Option Template) : Projection :=
  if rowTemplate.isSome then .all else .ofList selection.shown

end Selection

/-- One page of a report. -/
structure ReportPage where
  lines : List String
  text : String
  page : UInt64
  hasNext : Bool
  deriving DecidableEq, Repr

namespace Desk

/-- Fetches a page of rows and checks that the columns to show are there. -/
def gather (desk : Desk) (connection : Connection) (selection : Selection)
    (projection : Projection) : Except QueryError Table × Connection × Desk :=
  let desk := desk.move .fetching
  let reply :=
    connection.fetch desk.platform desk.seen selection.table projection selection.criteria
      selection.window
  let desk := desk.note reply.events
  match reply.answer with
  | .error e => (.error e, reply.connection, desk)
  | .ok table =>
      let desk := desk.note [.fetched selection.table table.rows.length]
      ((requireColumns selection.table table selection.shown).map fun _ => table,
        reply.connection, desk)

/-- Runs a report. A template that does not compile ends the run before it connects. -/
def report (desk : Desk) (selection : Selection) (rowSeparator : String)
    : Except RunError ReportPage × Desk :=
  match selection.compileRowTemplate with
  | .error e => (.error e, desk)
  | .ok rowTemplate =>
      match desk.begin with
      | (.error e, desk) => (.error (.connect e), desk)
      | (.ok lease, desk) =>
          match
            desk.gather lease.connection selection (selection.projection rowTemplate) with
          | (.error e, connection, desk) =>
              (.error (.query e), desk.finish (lease.put connection).guard)
          | (.ok table, connection, desk) =>
              let template := rowTemplate.getD (selection.defaultTemplate table)
              let lines := table.rows.map fun row => template.render row.fields
              let desk := table.rows.foldl (fun desk _ => desk.move .rendering) desk
              let page :=
                {
                  lines
                  text := rowSeparator.intercalate lines
                  page := selection.window.page
                  hasNext := selection.window.hasNext table.rows.length
                }
              (.ok page, desk.finish (lease.put connection).guard)

end Desk

end MailMerge
