import MailMerge.Proofs.Run.MailAccounting
import MailMerge.Proofs.Source.RecordedTables
import MailMerge.Proofs.Template.Joining

/-! A report and a mail run of one selection agree: both end well or neither does, and the
lines of the report are the bodies of the mail. A report may fetch only the columns that it
shows, so it is first shown to be what the rows with all their columns would make it.
-/

namespace MailMerge

open Select Mail
open Files (joinPath)

-----------------------------------------------------------------------------------------
-- Projected rows
-----------------------------------------------------------------------------------------

/-- Joined columns show the same for a row and for its projection to them. -/
theorem Row.render_project (row : Row) (columns : List String) (delimiter : String)
    : (Template.ofColumns columns delimiter).render (row.project columns).fields
      = (Template.ofColumns columns delimiter).render row.fields :=
  Template.render_ofColumns_congr (fun _ member => text_project member) delimiter

-----------------------------------------------------------------------------------------
-- Fetches with fewer columns
-----------------------------------------------------------------------------------------

/-- All columns to show are there exactly when none is missing. -/
theorem requireColumns_eq_ok_iff {table : String} {fetched : Table} {names : List String}
    : requireColumns table fetched names = .ok ()
      ↔ ∀ name ∈ names, name ∈ fetched.columns := by
  unfold requireColumns
  split
  · rename_i column missing
    have hmem := List.mem_of_find?_eq_some missing
    have hout := List.find?_some missing
    simp only [decide_eq_true_eq] at hout
    constructor
    · rintro ⟨⟩
    · exact fun known => absurd (known column hmem) hout
  · rename_i known
    simp only [List.find?_eq_none, decide_eq_true_eq, Decidable.not_not] at known
    exact ⟨fun _ => known, fun _ => rfl⟩

namespace Select

@[simp]
theorem Projection.requested_ofList (columns : List String)
    : (Projection.ofList columns).requested = columns := by
  unfold ofList
  split
  · rename_i h
    rw [h]
    rfl
  · rfl

/-- What a projection shows of rows depends on the columns of the table and on the rows. -/
theorem Projection.shown_rows (projection : Projection) (table : Table) (rows : List Row)
    : projection.shown { table with rows } rows = projection.shown table rows := by
  cases projection <;> rfl

/-- Selecting some columns is selecting all columns, if these are among them, and showing
less.
-/
theorem select_ofList_eq_ok_iff {limits : Limits} {table result : Table}
    {shown : List String} {criteria : Criteria} {window : PageWindow}
    : select limits table (.ofList shown) criteria window = .ok result
      ↔ ∃ full,
          select limits table .all criteria window = .ok full
          ∧ (∀ column ∈ shown, column ∈ full.columns)
          ∧ (Projection.ofList shown).shown full full.rows = result := by
  simp only [select_eq_ok_iff, namedColumns, Projection.requested_ofList,
    Projection.requested_all, List.append_nil, List.forall_mem_append]
  constructor
  · rintro ⟨⟨known, there⟩, compiles, rfl⟩
    exact ⟨_, ⟨known, compiles, rfl⟩, there, Projection.shown_rows ..⟩
  · rintro ⟨full, ⟨known, compiles, rfl⟩, there, rfl⟩
    exact ⟨⟨known, there⟩, compiles, (Projection.shown_rows ..).symm⟩

end Select

section

variable {platform : Platform} {connection : Connection} {files : Files.View} {name : String}
  {criteria : Criteria} {window : PageWindow} {result : Table}

theorem fetch_eq_ok_iff {projection : Projection}
    : (connection.fetch platform files name projection criteria window).answer = .ok result
      ↔ ∃ table,
          (connection.load platform files name).answer = .ok table
          ∧ select platform.limits table projection criteria window = .ok result := by
  refine Outcome.bind_eq_ok_iff.trans (exists_congr fun table => and_congr_right fun _ => ?_)
  exact Outcome.mapError_eq_ok_iff

/-- Fetching some columns is fetching all columns, if these are among them, and showing
less.
-/
theorem fetch_ofList_eq_ok_iff {shown : List String}
    : (connection.fetch platform files name (.ofList shown) criteria window).answer
          = .ok result
      ↔ ∃ full,
          (connection.fetch platform files name .all criteria window).answer = .ok full
          ∧ (∀ column ∈ shown, column ∈ full.columns)
          ∧ (Projection.ofList shown).shown full full.rows = result := by
  simp only [fetch_eq_ok_iff, select_ofList_eq_ok_iff]
  constructor
  · rintro ⟨table, loaded, full, selected, known, h⟩
    exact ⟨full, ⟨table, loaded, selected⟩, known, h⟩
  · rintro ⟨full, ⟨table, loaded, selected⟩, known, h⟩
    exact ⟨table, loaded, full, selected, known, h⟩

end

-----------------------------------------------------------------------------------------
-- Reports
-----------------------------------------------------------------------------------------

/-- The page that a report makes of rows with a template. -/
def Selection.page (selection : Selection) (separator : String) (body : Template)
    (rows : List Row) : ReportPage :=
  let lines := rows.map fun row => body.render row.fields
  {
    lines
    text := separator.intercalate lines
    page := selection.window.page
    hasNext := selection.window.hasNext rows.length
  }

namespace Selection

variable (selection : Selection) {full : Table}

/-- The columns to show stay when the others are left out. -/
theorem mem_columns_shown (known : ∀ column ∈ selection.shown, column ∈ full.columns)
    : ∀ column ∈ selection.shown,
        column ∈ ((Projection.ofList selection.shown).shown full full.rows).columns := by
  unfold Projection.ofList
  split
  · exact known
  · exact fun column member => member

/-- A page without a row template stays the same when the columns that it does not show are
left out.
-/
theorem page_shown (separator : String)
    : let shown := (Projection.ofList selection.shown).shown full full.rows
      selection.page separator (selection.defaultTemplate shown) shown.rows
        = selection.page separator (selection.defaultTemplate full) full.rows := by
  unfold Projection.ofList
  split
  · rfl
  · rename_i hshown
    simp [page, defaultTemplate, hshown, Projection.shown, Function.comp_def, Row.render_project]

end Selection

namespace Desk

variable {desk : Desk} {selection : Selection} {separator : String} {page : ReportPage}

/-- What a report answers, as a chain of steps of which any may fail. -/
theorem fst_report
    : (desk.report selection separator).1
      = (do
          let rowTemplate ← selection.compileRowTemplate
          let lease ← desk.begin.1.mapError .connect
          let table ←
            (desk.begin.2.gather lease.connection selection
              (selection.projection rowTemplate)).1.mapError .query
          return selection.page separator
            (rowTemplate.getD (selection.defaultTemplate table)) table.rows) := by
  unfold report
  cases selection.compileRowTemplate with
  | error e => rfl
  | ok rowTemplate =>
      rcases desk.begin with ⟨_ | lease, begun⟩
      · rfl
      · dsimp only [Outcome.mapError_ok, bind, Except.bind]
        rcases begun.gather lease.connection selection (selection.projection rowTemplate)
          with ⟨_ | table, used, gathered⟩ <;> rfl

/-- A report that ends well made its page of the rows that it fetched. -/
theorem report_eq_ok_iff
    : (desk.report selection separator).1 = .ok page
      ↔ ∃ rowTemplate connection table,
          selection.compileRowTemplate = .ok rowTemplate
          ∧ desk.source.connect desk.seen = .ok connection
          ∧ (connection.fetch desk.platform desk.seen selection.table
              (selection.projection rowTemplate) selection.criteria selection.window).answer
            = .ok table
          ∧ requireColumns selection.table table selection.shown = .ok ()
          ∧ selection.page separator (rowTemplate.getD (selection.defaultTemplate table))
              table.rows
            = page := by
  rw [fst_report]
  simp only [Outcome.bind_eq_ok_iff, Outcome.mapError_eq_ok_iff, begin_eq_ok_iff,
    gather_eq_ok_iff, platform_begin, seen_begin]
  constructor
  · rintro ⟨rowTemplate, hcompile, lease, hconnect, table, ⟨hanswer, hshown⟩, hpage⟩
    exact ⟨_, _, table, hcompile, hconnect, hanswer, hshown, Except.ok.inj hpage⟩
  · rintro ⟨rowTemplate, connection, table, hcompile, hconnect, hanswer, hshown, rfl⟩
    exact ⟨_, hcompile, .ofConnection connection, hconnect, table, ⟨hanswer, hshown⟩, rfl⟩

/-- A report shows the rows of the selection as they are fetched with all their columns, of
which those to show have to be there.
-/
theorem report_eq_ok_iff_fetches
    : (desk.report selection separator).1 = .ok page
      ↔ ∃ rowTemplate table,
          selection.compileRowTemplate = .ok rowTemplate
          ∧ desk.Fetches selection table
          ∧ requireColumns selection.table table selection.shown = .ok ()
          ∧ selection.page separator (rowTemplate.getD (selection.defaultTemplate table))
              table.rows
            = page := by
  rw [report_eq_ok_iff]
  constructor
  · rintro ⟨rowTemplate, connection, result, hcompile, hconnect, hanswer, hshown, hpage⟩
    cases rowTemplate with
    | some template =>
        exact ⟨_, result, hcompile, ⟨connection, hconnect, hanswer⟩, hshown, hpage⟩
    | none =>
        obtain ⟨full, hfull, hknown, rfl⟩ := fetch_ofList_eq_ok_iff.mp hanswer
        rw [Option.getD_none, selection.page_shown] at hpage
        exact ⟨none, full, hcompile, ⟨connection, hconnect, hfull⟩,
          requireColumns_eq_ok_iff.mpr hknown, hpage⟩
  · rintro ⟨rowTemplate, full, hcompile, ⟨connection, hconnect, hfull⟩, hshown, hpage⟩
    cases rowTemplate with
    | some template => exact ⟨_, connection, full, hcompile, hconnect, hfull, hshown, hpage⟩
    | none =>
        have hknown := requireColumns_eq_ok_iff.mp hshown
        refine ⟨none, connection, _, hcompile, hconnect,
          fetch_ofList_eq_ok_iff.mpr ⟨full, hfull, hknown, rfl⟩, ?_, ?_⟩
        · exact requireColumns_eq_ok_iff.mpr (selection.mem_columns_shown hknown)
        · rw [Option.getD_none, selection.page_shown]
          exact hpage

end Desk

-----------------------------------------------------------------------------------------
-- Mail to fixed addresses
-----------------------------------------------------------------------------------------

/-- A text as it stands shows itself. -/
theorem Template.render_ofLiteral (text : String) (fields : Fields)
    : (Template.ofLiteral text).render fields = text := by
  unfold Template.ofLiteral Template.render
  split
  · rename_i h
    rw [h]
    rfl
  · simp [Segment.renderAll, Segment.render]

/-- The mail of a selection to fixed addresses, under the name of its table. -/
def Selection.broadcast (selection : Selection) (addresses : List String) : MailJob where
  selection
  recipients := .broadcast addresses
  subject := none

/-- The letters that the lines of a report make, each line to each address. -/
def Selection.lettersOf (selection : Selection) (addresses lines : List String)
    : List Letter :=
  lines.flatMap fun body =>
    addresses.map fun recipient => { recipient, subject := selection.table, body }

theorem prepare_broadcast_eq_ok_iff {selection : Selection} {addresses : List String}
    (nonempty : addresses ≠ []) {templates : MailTemplates}
    : (selection.broadcast addresses).prepare = .ok templates
      ↔ ∃ row,
          selection.compileRowTemplate = .ok row
          ∧ { row, subject := .ofLiteral selection.table } = templates := by
  have hrecipients : (selection.broadcast addresses).recipients ≠ .broadcast [] :=
    fun h => nonempty (Recipients.broadcast.inj h)
  rw [MailJob.prepare, if_neg hrecipients]
  exact Outcome.map_eq_ok_iff

/-- Mail to fixed addresses has the bodies that the rows make, each to every address. -/
theorem letters_eq_lettersOf (selection : Selection) (addresses : List String) (body : Template)
    (rows : List Row)
    : (Recipients.broadcast addresses).letters (.ofLiteral selection.table) body rows
      = selection.lettersOf addresses (rows.map fun row => body.render row.fields) := by
  rw [Recipients.letters_broadcast, Selection.lettersOf, List.flatMap_map]
  refine congrArg (List.flatMap · rows) (funext fun row => ?_)
  simp only [Recipients.rowLetters, Recipients.destinations, Template.render_ofLiteral]

namespace Desk

/-- A run that has all it goes by ends well, whatever the mailer does. -/
theorem Serves.ends {σ : Type} {desk : Desk} {job : MailJob} {templates : MailTemplates}
    {table : Table} (serves : desk.Serves job templates table) (mailer : Mailer σ) (state : σ)
    : ∃ summary, (desk.mail job mailer state).1 = .ok summary := by
  obtain ⟨begun, hruns⟩ := serves.mail
  obtain ⟨ended, hrun⟩ := hruns σ mailer state
  exact ⟨_, congrArg Prod.fst hrun⟩

/-- A run that has all it goes by hands its letters to a mailer that writes them down. -/
theorem Serves.recorded {σ : Type} {desk : Desk} {job : MailJob} {templates : MailTemplates}
    {table : Table} (serves : desk.Serves job templates table) (mailer : Mailer σ) (state : σ)
    : let body := templates.row.getD (job.selection.defaultTemplate table)
      (desk.mail job mailer.recording (state, [])).2.2.2.map Call.letter
        = job.recipients.letters templates.subject body table.rows := by
  intro body
  obtain ⟨begun, hruns⟩ := serves.mail
  obtain ⟨ended, hrun⟩ := hruns (σ × List Call) mailer.recording (state, [])
  have accounts :=
    @Post.accounts_deliverRows _ mailer.recording job.recipients templates.subject body
      table.rows.zipIdx { summary := .empty, desk := begun, state := (state, []) }
  rw [hrun, accounts.state, after_recording, List.nil_append, map_letter_calls,
    List.zipIdx_map_fst]

/-- What mail to fixed addresses goes by is what a report goes by. -/
theorem serves_broadcast_iff {desk : Desk} {selection : Selection} {addresses : List String}
    (nonempty : addresses ≠ []) {templates : MailTemplates} {table : Table}
    : desk.Serves (selection.broadcast addresses) templates table
      ↔ selection.compileRowTemplate = .ok templates.row
        ∧ templates.subject = .ofLiteral selection.table
        ∧ desk.Fetches selection table
        ∧ requireColumns selection.table table selection.shown = .ok () := by
  constructor
  · rintro ⟨hprepare, hfetched, hshown, -⟩
    obtain ⟨row, hcompile, rfl⟩ := (prepare_broadcast_eq_ok_iff nonempty).mp hprepare
    exact ⟨hcompile, rfl, hfetched, hshown⟩
  · rintro ⟨hcompile, hsubject, hfetched, hshown⟩
    have hprepare := (prepare_broadcast_eq_ok_iff nonempty).mpr ⟨templates.row, hcompile, rfl⟩
    rw [← hsubject] at hprepare
    exact ⟨hprepare, hfetched, hshown, rfl⟩

-----------------------------------------------------------------------------------------
-- Two runs of one selection
-----------------------------------------------------------------------------------------

/-- Two desks have the same tables if they have one platform and one source, and where this is a
directory, it is found alike and each file in it is seen alike and reads the same.
-/
structure SameTables (first second : Desk) : Prop where
  platform : first.platform = second.platform
  source : first.source = second.source
  found : ∀ path, first.source = .directory path
    → first.seen.stat path = second.seen.stat path
  kinds : ∀ path, first.source = .directory path → ∀ name,
    first.seen.stat (joinPath path name) = second.seen.stat (joinPath path name)
  files : ∀ path, first.source = .directory path → ∀ name,
    first.seen.read (joinPath path name) = second.seen.read (joinPath path name)

theorem SameTables.symm {first second : Desk} (same : first.SameTables second)
    : second.SameTables first where
  platform := same.platform.symm
  source := same.source.symm
  found path h := (same.found path (same.source.trans h)).symm
  kinds path h name := (same.kinds path (same.source.trans h) name).symm
  files path h name := (same.files path (same.source.trans h) name).symm

/-- A desk with the same tables connects alike. -/
theorem SameTables.connect {first second : Desk} (same : first.SameTables second)
    : first.source.connect first.seen = second.source.connect second.seen := by
  rw [← same.source]
  cases hsource : first.source with
  | memory tables isReachable => cases isReachable <;> rfl
  | directory path => simp only [Source.connect, same.found path hsource]

theorem SameTables.loadTable_eq {first second : Desk} (same : first.SameTables second)
    {path : String} (source : first.source = .directory path) (name : String)
    : loadTable first.platform first.seen path name
      = loadTable second.platform second.seen path name := by
  rw [← same.platform]
  unfold loadTable
  cases place : tablePath? path name with
  | none => rfl
  | some file =>
      obtain ⟨-, rfl⟩ := tablePath?_eq_some_iff.mp place
      have isFile
          : first.seen.isFile (joinPath path (tableFileName name))
            = second.seen.isFile (joinPath path (tableFileName name)) := by
        rw [Files.View.isFile, Files.View.isFile, same.kinds path source]
      simp only [isFile, readTable, same.files path source]

/-- A connection of a desk loads the same table for another desk that has it too. -/
theorem SameTables.load {first second : Desk} (same : first.SameTables second)
    {connection : Connection} (h : first.source.connect first.seen = .ok connection)
    (name : String)
    : connection.load first.platform first.seen name
      = connection.load second.platform second.seen name := by
  cases hsource : first.source with
  | memory tables isReachable =>
      -- The tables are in memory, so the connection does not look at files.
      cases isReachable with
      | false => simp [hsource, Source.connect] at h
      | true =>
          simp only [hsource, Source.connect, Except.ok.injEq] at h
          rw [← h]
          rfl
  | directory path =>
      rw [hsource] at h
      obtain ⟨-, rfl⟩ := connect_directory_eq_ok_iff.mp h
      simp only [Connection.load, same.loadTable_eq hsource]

/-- A desk with the same tables fetches the same. -/
theorem SameTables.fetches {first second : Desk} (same : first.SameTables second)
    {selection : Selection} {table : Table} (h : first.Fetches selection table)
    : second.Fetches selection table := by
  obtain ⟨connection, hconnect, hanswer⟩ := h
  refine ⟨connection, same.connect ▸ hconnect, ?_⟩
  rw [fetch_eq_ok_iff] at hanswer ⊢
  rwa [← same.load hconnect, ← same.platform]

section

variable {first second : Desk} (same : first.SameTables second) {selection : Selection}
  {separator : String} {addresses : List String} (nonempty : addresses ≠ [])
include same nonempty

/-- What a report was made of is what mail for the same tables goes by. -/
theorem serves_of_report {page : ReportPage}
    (h : (first.report selection separator).1 = .ok page)
    : ∃ templates table,
        second.Serves (selection.broadcast addresses) templates table
        ∧ selection.page separator (templates.row.getD (selection.defaultTemplate table))
            table.rows
          = page := by
  obtain ⟨row, table, hcompile, hfetched, hshown, hpage⟩ := report_eq_ok_iff_fetches.mp h
  refine ⟨{ row, subject := .ofLiteral selection.table }, table, ?_, hpage⟩
  exact (serves_broadcast_iff nonempty).mpr ⟨hcompile, rfl, same.fetches hfetched, hshown⟩

/-- What mail goes by, a report for the same tables can be made of. -/
theorem report_of_serves {templates : MailTemplates} {table : Table}
    (serves : second.Serves (selection.broadcast addresses) templates table)
    : ∃ page, (first.report selection separator).1 = .ok page := by
  obtain ⟨hcompile, -, hfetched, hshown⟩ := (serves_broadcast_iff nonempty).mp serves
  exact ⟨_, report_eq_ok_iff_fetches.mpr
    ⟨_, table, hcompile, same.symm.fetches hfetched, hshown, rfl⟩⟩

end

end Desk

/-- A report of a selection and its mail to fixed addresses, for the same tables, both end
well or neither does. When they do, the report has one line for each row fetched, which is
the body of the mail for that row, and every line goes to every address, in order.
-/
theorem mail_bodies_eq_report_lines {σ : Type} {first second : Desk}
    (same : first.SameTables second) (selection : Selection) (separator : String)
    {addresses : List String} (nonempty : addresses ≠ []) (mailer : Mailer σ) (state : σ)
    : let job := selection.broadcast addresses
      ((∃ page, (first.report selection separator).1 = .ok page)
        ↔ ∃ summary, (second.mail job mailer state).1 = .ok summary)
      ∧ ∀ page,
          (first.report selection separator).1 = .ok page
          → ∃ templates table,
              job.prepare = .ok templates
              ∧ second.Fetches selection table
              ∧ (let body := templates.row.getD (selection.defaultTemplate table)
                page.lines = table.rows.map fun row => body.render row.fields)
              ∧ (second.mail job mailer.recording (state, [])).2.2.2.map Call.letter
                = selection.lettersOf addresses page.lines := by
  intro job
  refine ⟨⟨?_, ?_⟩, ?_⟩
  · rintro ⟨page, h⟩
    obtain ⟨templates, table, serves, -⟩ := Desk.serves_of_report same nonempty h
    exact serves.ends mailer state
  · rintro ⟨summary, h⟩
    obtain ⟨templates, table, serves⟩ := Desk.serves_of_mail h
    exact Desk.report_of_serves same nonempty serves
  · intro page h
    obtain ⟨templates, table, serves, rfl⟩ := Desk.serves_of_report same nonempty h
    obtain ⟨-, hsubject, -⟩ := (Desk.serves_broadcast_iff nonempty).mp serves
    refine ⟨templates, table, serves.prepared, serves.fetched, rfl, ?_⟩
    rw [serves.recorded mailer state, hsubject]
    exact letters_eq_lettersOf selection addresses _ table.rows

/-- A column is shown twice, one row lacks it, and rows are chosen by a column that is not
shown. The mailer refuses every other letter.
-/
theorem mail_bodies_eq_report_lines_repeated
    : let ada := Row.ofValues ["name", "email", "city"] ["Ada", "a@x", "Ulm"]
      let bob := Row.ofValues ["city", "name"] ["Ulm", "Bob"]
      let cy := Row.ofValues ["name", "email", "city"] ["Cy", "c@x", "Rom"]
      let table : Table := { columns := ["name", "email", "city"], rows := [ada, bob, cy] }
      let first := Desk.start (.standard .quiet) (.memory [("people", table)] true) .empty
      let second := (first.move .aborted).note [.released]
      let selection : Selection :=
        {
          table := "people"
          shown := ["email", "name", "email"]
          criteria := { clauses := [⟨"city", "U%", false⟩], sortKeys := [] }
          window := .unbounded
          rowTemplate := none
          fieldSeparator := "\x7b$"
        }
      let addresses := ["x@y", "x@y"]
      let mailer : Mailer Nat := fun letter count =>
        (if count % 2 = 0 then .refuse (.invalidAddress letter.recipient) else .accept,
          count + 1)
      let lines := ["a@x\x7b$Ada\x7b$a@x", "\x7b$Bob\x7b$"]
      let job := selection.broadcast addresses
      first.SameTables second
      ∧ addresses ≠ []
      ∧ (∃ page, (first.report selection ";").1 = .ok page ∧ page.lines = lines)
      ∧ (∃ summary, (second.mail job mailer 0).1 = .ok summary)
      ∧ (second.mail job mailer.recording (0, [])).2.2.2.map Call.letter
        = selection.lettersOf addresses lines := by
  intro ada bob cy table first second selection addresses mailer lines job
  have same : first.SameTables second :=
    ⟨rfl, rfl, fun _ _ => rfl, fun _ _ _ => rfl, fun _ _ _ => rfl⟩
  have nonempty : addresses ≠ [] := by decide
  have hselect : select .standard table .all selection.criteria .unbounded
      = .ok { table with rows := [ada, bob] } := by
    refine select_eq_ok_iff.mpr ⟨by decide, by decide +kernel, ?_⟩
    have hfilter : table.rows.filter selection.criteria.holds = [ada, bob] := by
      decide +kernel
    rw [hfilter, sortRows_nil]
    rfl
  have hfetches : first.Fetches selection { table with rows := [ada, bob] } := by
    refine ⟨.memory [("people", table)], rfl, ?_⟩
    exact congrArg (Except.mapError (QueryError.ofSelect "people")) hselect
  have hreport : ∃ page, (first.report selection ";").1 = .ok page ∧ page.lines = lines :=
    ⟨_, Desk.report_eq_ok_iff_fetches.mpr ⟨none, _, rfl, hfetches, rfl, rfl⟩,
      by decide +kernel⟩
  obtain ⟨page, hpage, hlines⟩ := hreport
  obtain ⟨hends, hbodies⟩ :=
    mail_bodies_eq_report_lines same selection ";" nonempty mailer 0
  obtain ⟨templates, fetched, -, -, -, hletters⟩ := hbodies page hpage
  rw [hlines] at hletters
  exact ⟨same, nonempty, ⟨page, hpage, hlines⟩, hends.mp ⟨page, hpage⟩, hletters⟩

end MailMerge
