import Mathlib.Data.List.GetD
import MailMerge.Proofs.Run.ReportedMail
import MailMerge.Proofs.Select.PageWalk
import MailMerge.Proofs.Source.RecordedTables

/-! Reports of every column of a table in a directory, without a row template. Each line is made
of a record of the file. Columns are shown by their names, so a column whose name comes earlier
in the header shows what is in the first column of that name, and every other column shows the
cell of the record that stands in it.
-/

namespace MailMerge

open Select

/-- A record with as many cells as there are columns: empty ones are added, and those without a
column are cut off.
-/
def fittedCells (width : Nat) (record : List String) : List String :=
  (record.rightpad width "").take width

/-- What the columns of a header show of a record: each the cell in the first column of its name,
empty where the record has none there.
-/
def namedCells (header record : List String) : List String :=
  header.map fun name => record.getD (header.idxOf name) ""

/-- The records of a table that are on a page of a selection, in the order of the selection. -/
def chosenRecords (header : List String) (criteria : Criteria) (window : PageWindow)
    (records : List (List String))
    : List (List String) :=
  let matching := records.filter fun record => criteria.holds (.ofValues header record)
  window.apply
    (matching.mergeSort fun left right =>
      (compareRows criteria.sortKeys (.ofValues header left) (.ofValues header right)).isLE)

-----------------------------------------------------------------------------------------
-- Cells
-----------------------------------------------------------------------------------------

/-- A name finds the cell in the first column that has it, by induction on the columns. -/
theorem Row.text_ofValues {header : List String} {name : String} (member : name ∈ header)
    (record : List String)
    : (ofValues header record).text name = record.getD (header.idxOf name) "" := by
  unfold ofValues text get?
  induction header generalizing record with
  | nil => simp at member
  | cons first header ih =>
      by_cases same : first = name
      · cases record <;> simp [named, same]
      · have apart : (name == first) = false := by simpa using Ne.symm same
        have hmember := (List.mem_cons.mp member).resolve_left (Ne.symm same)
        cases record with
        | nil => simpa [named, List.lookup_cons, apart] using ih hmember []
        | cons value record =>
            simpa [named, List.lookup_cons, apart, List.idxOf_cons, same] using ih hmember record

/-- Where no name comes twice, the columns show the cells of the record one after the other. -/
theorem namedCells_of_nodup {header : List String} (once : header.Nodup) (record : List String)
    : namedCells header record = fittedCells header.length record := by
  have hlength : (fittedCells header.length record).length = header.length := by
    simp only [fittedCells, List.length_take, List.rightpad, List.length_append,
      List.length_replicate]
    omega
  refine List.ext_getElem (by simp [namedCells, hlength]) fun place _ inside => ?_
  have hplace : place < header.length := hlength ▸ inside
  simp only [namedCells, List.getElem_map, once.idxOf_getElem place hplace, fittedCells,
    List.getElem_take, List.rightpad, List.getElem_append, List.getElem_replicate]
  split
  · rename_i there
    exact List.getD_eq_getElem record "" there
  · rename_i missing
    exact List.getD_eq_default record "" (Nat.le_of_not_lt missing)

/-- The default template of a header shows the cells of a record with the separator as it stands
between them.
-/
theorem render_ofColumns_ofValues (header record : List String) (separator : String)
    : (Template.ofColumns header separator).render (Row.ofValues header record).fields
      = separator.intercalate (namedCells header record) := by
  rw [Template.render, Template.ofColumns, Template.renderAll_joinSegments, namedCells]
  refine congrArg _ (List.map_congr_left fun name member => ?_)
  exact Row.text_ofValues member record

-----------------------------------------------------------------------------------------
-- Records
-----------------------------------------------------------------------------------------

/-- The rows of the chosen records are the rows that a selection shows. -/
theorem map_chosenRecords (header : List String) (criteria : Criteria) (window : PageWindow)
    (records : List (List String))
    : (chosenRecords header criteria window records).map (Row.ofValues header)
      = window.apply
          (sortRows criteria.sortKeys
            ((records.map (Row.ofValues header)).filter criteria.holds)) := by
  rw [chosenRecords, ← PageWindow.apply_map, sortRows, List.filter_map]
  exact congrArg window.apply (List.map_mergeSort fun _ _ _ _ => rfl)

/-- A selection of every column of recorded rows shows the rows of the records that it chooses. -/
theorem select_tableOf_eq_ok_iff {limits : Limits} {recorded : List (List String)}
    {criteria : Criteria} {window : PageWindow} {result : Table}
    : let header := recorded.headD []
      select limits (Csv.tableOf recorded) .all criteria window = .ok result
      ↔ (∀ column ∈ criteria.columns, column ∈ header)
        ∧ (∀ clause ∈ criteria.clauses, clause.Compiles limits)
        ∧ Table.ofRecords header (chosenRecords header criteria window recorded.tail)
          = result := by
  intro header
  rw [select_eq_ok_iff, namedColumns, Projection.requested_all, List.append_nil, Csv.tableOf_eq,
    Table.ofRecords, Table.ofRecords, map_chosenRecords]
  rfl

/-- What a desk on a directory fetches for a selection are the rows of the records that the
selection chooses.
-/
theorem Desk.fetches_directory_iff {desk : Desk} {path : String}
    (source : desk.source = .directory path) {selection : Selection} {result : Table}
    : desk.Fetches selection result
      ↔ ∃ recorded,
          HoldsRecords desk.platform desk.seen path selection.table recorded
          ∧ select desk.platform.limits (Csv.tableOf recorded) .all selection.criteria
              selection.window
            = .ok result := by
  constructor
  · rintro ⟨connection, connected, fetched⟩
    obtain ⟨table, loaded, selected⟩ := fetch_eq_ok_iff.mp fetched
    rw [source] at connected
    obtain ⟨recorded, holds, rfl⟩ := load_directory_eq_ok_iff.mp ⟨connection, connected, loaded⟩
    exact ⟨recorded, holds, selected⟩
  · rintro ⟨recorded, holds, selected⟩
    obtain ⟨connection, connected, loaded⟩ := load_directory_eq_ok_iff.mpr ⟨recorded, holds, rfl⟩
    rw [← source] at connected
    exact ⟨connection, connected, fetch_eq_ok_iff.mpr ⟨_, loaded, selected⟩⟩

-----------------------------------------------------------------------------------------
-- Reports
-----------------------------------------------------------------------------------------

/-- A report of every column without a row template shows the rows fetched by their columns. -/
theorem Desk.report_bare_eq_ok_iff {desk : Desk} {selection : Selection}
    (bare : selection.rowTemplate = none) (all : selection.shown = []) {separator : String}
    {page : ReportPage}
    : (desk.report selection separator).1 = .ok page
      ↔ ∃ table,
          desk.Fetches selection table
          ∧ selection.page separator (.ofColumns table.columns selection.fieldSeparator)
              table.rows
            = page := by
  have hcompile : selection.compileRowTemplate = .ok none := by
    rw [Selection.compileRowTemplate, bare]
  have htemplate (table : Table)
      : selection.defaultTemplate table
        = .ofColumns table.columns selection.fieldSeparator := by
    rw [Selection.defaultTemplate, if_pos all]
  rw [report_eq_ok_iff_fetches]
  constructor
  · rintro ⟨rowTemplate, table, compiled, fetched, -, hpage⟩
    cases hcompile.symm.trans compiled
    rw [Option.getD_none, htemplate] at hpage
    exact ⟨table, fetched, hpage⟩
  · rintro ⟨table, fetched, hpage⟩
    refine ⟨none, table, hcompile, fetched, ?_, ?_⟩
    · rw [all]
      rfl
    · rwa [Option.getD_none, htemplate]

/-- The lines of a page that shows rows of records by their columns. -/
theorem Selection.lines_page_ofRecords (selection : Selection) (separator : String)
    (header : List String) (records : List (List String))
    : let table := Table.ofRecords header records
      (selection.page separator (.ofColumns table.columns selection.fieldSeparator)
          table.rows).lines
        = records.map fun record =>
            selection.fieldSeparator.intercalate (namedCells header record) := by
  simp only [page, Table.ofRecords, List.map_map]
  refine List.map_congr_left fun record _ => ?_
  exact render_ofColumns_ofValues header record selection.fieldSeparator

/-- A report of recorded rows ends well if the criteria can be run on them, and its page shows the
records chosen.
-/
theorem Desk.report_recorded_eq_ok_iff {desk : Desk} {path : String}
    (source : desk.source = .directory path) {selection : Selection}
    (bare : selection.rowTemplate = none) (all : selection.shown = [])
    {recorded : List (List String)}
    (holds : HoldsRecords desk.platform desk.seen path selection.table recorded)
    (separator : String)
    {page : ReportPage}
    : let header := recorded.headD []
      let chosen := chosenRecords header selection.criteria selection.window recorded.tail
      (desk.report selection separator).1 = .ok page
      ↔ ((∀ column ∈ selection.criteria.columns, column ∈ header)
          ∧ ∀ clause ∈ selection.criteria.clauses, clause.Compiles desk.platform.limits)
        ∧ selection.page separator (.ofColumns header selection.fieldSeparator)
            (chosen.map (Row.ofValues header))
          = page := by
  intro header chosen
  rw [report_bare_eq_ok_iff bare all]
  constructor
  · rintro ⟨table, fetched, rfl⟩
    obtain ⟨recorded', holds', selected⟩ := (fetches_directory_iff source).mp fetched
    obtain rfl := holds.unique holds'
    obtain ⟨known, compiles, rfl⟩ := select_tableOf_eq_ok_iff.mp selected
    exact ⟨⟨known, compiles⟩, rfl⟩
  · rintro ⟨⟨known, compiles⟩, rfl⟩
    have selected
        : select desk.platform.limits (Csv.tableOf recorded) .all selection.criteria
            selection.window
          = .ok (Table.ofRecords header chosen) :=
      select_tableOf_eq_ok_iff.mpr ⟨known, compiles, rfl⟩
    exact ⟨_, (fetches_directory_iff source).mpr ⟨recorded, holds, selected⟩, rfl⟩

/-- A report of every column of a table in a directory, without a row template, ends well if the
table has the columns that the criteria name and their patterns can be run. It has a line for
each record chosen, with one text for each column of the header and the field separator as it
stands between them. The text is the record's cell in the first column of that name, so where
no name comes twice, the line has the cells of the record itself, empty ones added or the last
ones cut off to make as many as there are columns.
-/
theorem report_shows_named_cells {desk : Desk} {path : String}
    (source : desk.source = .directory path) {selection : Selection}
    (bare : selection.rowTemplate = none) (all : selection.shown = [])
    {recorded : List (List String)}
    (holds : HoldsRecords desk.platform desk.seen path selection.table recorded)
    (separator : String)
    : let header := recorded.headD []
      let chosen := chosenRecords header selection.criteria selection.window recorded.tail
      let report := (desk.report selection separator).1
      ((∃ page, report = .ok page)
        ↔ (∀ column ∈ selection.criteria.columns, column ∈ header)
          ∧ ∀ clause ∈ selection.criteria.clauses, clause.Compiles desk.platform.limits)
      ∧ ∀ page,
          report = .ok page
          → (page.lines = chosen.map fun record =>
              selection.fieldSeparator.intercalate (namedCells header record))
            ∧ (header.Nodup
              → page.lines = chosen.map fun record =>
                  selection.fieldSeparator.intercalate
                    (fittedCells header.length record)) := by
  intro header chosen report
  have hreport (page : ReportPage) : report = .ok page ↔ _ :=
    Desk.report_recorded_eq_ok_iff source bare all holds separator
  refine ⟨?_, ?_⟩
  · simp only [report, hreport]
    constructor
    · rintro ⟨page, runs, -⟩
      exact runs
    · exact fun runs => ⟨_, runs, rfl⟩
  · intro page h
    obtain ⟨-, rfl⟩ := (hreport page).mp h
    have hlines := selection.lines_page_ofRecords separator header chosen
    refine ⟨hlines, fun once => hlines.trans ?_⟩
    refine List.map_congr_left fun record _ => ?_
    rw [namedCells_of_nodup once]

/-- A name comes twice, a record is too short and another one too long. -/
theorem report_shows_named_cells_ragged
    : let text := "name,age,name\nBob\nCy,10,Ray,x\nDi,\nAda,9,King\n"
      let files := Files.Tree.empty.plant "d/t.csv" (Text.toBytes text)
      let desk := Desk.start (.standard .quiet) (.directory "d") files
      let selection : Selection :=
        {
          table := "t"
          shown := []
          criteria :=
            { clauses := [⟨"name", "D%", true⟩], sortKeys := [⟨"age", .descending⟩] }
          window := .of 2 1
          rowTemplate := none
          fieldSeparator := "\x7b$"
        }
      ∃ page,
        (desk.report selection "\n").1 = .ok page
        ∧ page.lines = ["Bob\x7b$\x7b$Bob", "Cy\x7b$10\x7b$Cy"] := by
  intro text files desk selection
  have holds
      : HoldsRecords desk.platform desk.seen "d" "t"
          [["name", "age", "name"], ["Bob"], ["Cy", "10", "Ray", "x"], ["Di", ""],
            ["Ada", "9", "King"]] :=
    holdsRecords_plant (by decide +kernel)
  have source : desk.source = .directory "d" := rfl
  have bare : selection.rowTemplate = none := rfl
  have all : selection.shown = [] := rfl
  obtain ⟨succeeds, shows⟩ := report_shows_named_cells source bare all holds "\n"
  obtain ⟨page, reported⟩ := succeeds.mpr ⟨by decide +kernel, by decide +kernel⟩
  have matching
      : [["Bob"], ["Cy", "10", "Ray", "x"], ["Di", ""], ["Ada", "9", "King"]].filter
          (fun record => selection.criteria.holds (.ofValues ["name", "age", "name"] record))
        = [["Bob"], ["Cy", "10", "Ray", "x"], ["Ada", "9", "King"]] := by
    decide +kernel
  have chosen
      : chosenRecords ["name", "age", "name"] selection.criteria selection.window
          [["Bob"], ["Cy", "10", "Ray", "x"], ["Di", ""], ["Ada", "9", "King"]]
        = [["Bob"], ["Cy", "10", "Ray", "x"]] := by
    -- The records are in order already, so the sort leaves them as they are.
    rw [chosenRecords, matching, List.mergeSort_of_pairwise (by decide +kernel)]
    decide +kernel
  refine ⟨page, reported, (shows page reported).1.trans ?_⟩
  exact (congrArg _ chosen).trans (by decide +kernel)

/-- A later column of the same name shows the cell of the first one again, and not the cell of
the record that stands in it.
-/
theorem report_repeats_first_cell
    : let desk :=
        Desk.start (.standard .quiet) (.directory "d")
          (Files.Tree.empty.plant "d/t.csv" (Text.toBytes "name,name\nAda,King\n"))
      let selection : Selection :=
        {
          table := "t"
          shown := []
          criteria := { clauses := [], sortKeys := [] }
          window := .unbounded
          rowTemplate := none
          fieldSeparator := " "
        }
      let header := ["name", "name"]
      let records := [["Ada", "King"]]
      HoldsRecords desk.platform desk.seen "d" "t" (header :: records)
      ∧ ∃ page,
          (desk.report selection "\n").1 = .ok page
          ∧ page.lines = ["Ada Ada"]
          ∧ page.lines
            ≠ (chosenRecords header selection.criteria selection.window records).map fun record =>
                selection.fieldSeparator.intercalate (fittedCells header.length record) := by
  intro desk selection header records
  have holds : HoldsRecords desk.platform desk.seen "d" "t" (header :: records) :=
    holdsRecords_plant (by decide +kernel)
  have chosen
      : chosenRecords header selection.criteria selection.window records = records := by
    have matching
        : records.filter (fun record => selection.criteria.holds (.ofValues header record))
          = records := by
      decide +kernel
    rw [chosenRecords, matching, List.mergeSort_of_pairwise (by decide +kernel)]
    decide +kernel
  have source : desk.source = .directory "d" := rfl
  have bare : selection.rowTemplate = none := rfl
  have all : selection.shown = [] := rfl
  have hreport :=
    (Desk.report_recorded_eq_ok_iff source bare all holds "\n").mpr
      ⟨⟨by decide +kernel, by decide +kernel⟩, rfl⟩
  have hlines
      : (selection.page "\n" (.ofColumns header selection.fieldSeparator)
          ((chosenRecords header selection.criteria selection.window records).map
            (Row.ofValues header))).lines
        = ["Ada Ada"] := by
    refine (selection.lines_page_ofRecords "\n" header _).trans ?_
    rw [chosen]
    decide +kernel
  refine ⟨holds, _, hreport, hlines, ?_⟩
  rw [chosen]
  refine ne_of_eq_of_ne hlines ?_
  decide +kernel

end MailMerge
