import MailMerge.Options.Basic

/-! The pages of the table viewer: the tables of a database, the search form of a table,
and the report of a search.
-/

namespace MailMerge

open Select

/-- Which page to show. -/
inductive Route where
  | tables
  | searchForm (table : String)
  | report (table : String)
  deriving DecidableEq, Repr

/-- Without a table there is nothing to search. -/
def Route.choose (table : Option String) (isSearch : Bool) : Route :=
  match table with
  | none => tables
  | some table => if isSearch then report table else searchForm table

/-- Why a page cannot be shown. -/
inductive ViewError where
  | usage (cause : UsageError)
  | run (cause : RunError)
  deriving DecidableEq, Repr

namespace ViewError

def message : ViewError → String
  | usage cause => cause.message
  | run cause => cause.message

def causes : ViewError → List String
  | usage _ => []
  | run cause => cause.causes

end ViewError

namespace Page

def listLines (items : List String) : String :=
  String.join (items.map fun item => "  " ++ item ++ "\n")

def tables (database : String) (names : List String) : String :=
  "Tables in " ++ database ++ ":\n"
    ++ (if names.isEmpty then "  (none)\n" else listLines names)

def searchForm (database table : String) (columns : List String) : String :=
  "Search " ++ table ++ "\nColumns:\n" ++ listLines columns
    ++ "\nRun: tableview --database " ++ database ++ " --table " ++ table
    ++ " --search [--where COLUMN=PATTERN]... [--sort_by COLUMN]...\n"

def report (table : String) (page : ReportPage) : String :=
  table ++ ", page " ++ toString page.page.toNat ++ "\n"
    ++ (if page.lines.isEmpty then "(no matching rows)\n" else page.text ++ "\n")
    ++ (if page.hasNext then "next: --page " ++ toString (page.page.toNat + 1) ++ "\n" else "")

end Page

namespace Desk

/-- Asks a new connection one question. The guard is closed behind an answer, and goes out of
scope where there is none.
-/
def ask {α : Type} (desk : Desk) (question : Connection → Files.View → Reply α)
    : Except ViewError α × Desk :=
  match desk.openConnection with
  | (.error e, desk) => (.error (.run (.connect e)), desk)
  | (.ok lease, desk) =>
      let reply := question lease.connection desk.seen
      let desk := desk.note reply.events
      let lease := lease.put reply.connection
      match reply.answer with
      | .error e => (.error (.run (.query e)), desk.drop lease.guard)
      | .ok value => (.ok value, desk.close lease.guard)

/-- The text of a page. A report runs on its own, so that the phase of the desk's last run
stays as it was.
-/
def view (desk : Desk) (options : Options) (route : Route) : Except ViewError String × Desk :=
  let database := options.database.getD ""
  match route with
  | .tables =>
      let (names, desk) :=
        desk.ask fun connection files =>
          { answer := connection.tables files, connection, events := [] }
      (names.map (Page.tables database), desk)
  | .searchForm table =>
      let (columns, desk) :=
        desk.ask fun connection files => connection.columns desk.platform files table
      (columns.map (Page.searchForm database table), desk)
  | .report table =>
      match options.selection with
      | .error e => (.error (.usage e), desk)
      | .ok selection =>
          let (page, after) :=
            { desk with phase := .idle }.report { selection with table } options.rowSeparatorText
          ((page.mapError .run).map (Page.report table), { after with phase := desk.phase })

end Desk

end MailMerge
