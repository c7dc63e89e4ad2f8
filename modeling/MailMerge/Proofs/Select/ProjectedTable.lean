import MailMerge.Proofs.Select.PageWalk

/-! Showing some columns of a selection is selecting from a table that has only these. Criteria
read a row through the columns that they name, so they see the same in the row and in its
projection, and no step of a selection tells the two apart.
-/

namespace MailMerge

/-- The table with only the given columns, in the given order, in each of its rows. -/
def Table.project (table : Table) (columns : List String) : Table where
  columns
  rows := table.rows.map (·.project columns)

namespace Select

section

variable {columns : List String}

-----------------------------------------------------------------------------------------
-- Criteria on projected rows
-----------------------------------------------------------------------------------------

theorem Clause.holds_project {clause : Clause} (within : clause.column ∈ columns) (row : Row)
    : clause.holds (row.project columns) = clause.holds row := by
  rw [Clause.holds, Clause.holds, Row.text_project within]

theorem Criteria.holds_project {criteria : Criteria}
    (within : ∀ clause ∈ criteria.clauses, clause.column ∈ columns) (row : Row)
    : criteria.holds (row.project columns) = criteria.holds row := by
  rw [Bool.eq_iff_iff, Criteria.holds, Criteria.holds, List.all_eq_true, List.all_eq_true]
  refine forall₂_congr fun clause member => ?_
  rw [Clause.holds_project (within clause member)]

/-- Keys order projections as they order the rows, by induction on the keys. -/
theorem compareRows_project {keys : List SortKey}
    (within : ∀ key ∈ keys, key.column ∈ columns) (left right : Row)
    : compareRows keys (left.project columns) (right.project columns)
      = compareRows keys left right := by
  induction keys with
  | nil => rfl
  | cons key keys ih =>
      obtain ⟨hkey, hkeys⟩ := List.forall_mem_cons.mp within
      rw [compareRows, compareRows, Row.text_project hkey, Row.text_project hkey, ih hkeys]

-----------------------------------------------------------------------------------------
-- The steps of a selection
-----------------------------------------------------------------------------------------

variable {criteria : Criteria} (within : ∀ column ∈ criteria.columns, column ∈ columns)
include within

theorem filter_map_project (rows : List Row)
    : (rows.map (·.project columns)).filter criteria.holds
      = (rows.filter criteria.holds).map (·.project columns) := by
  have hclauses := (Criteria.forall_mem_columns_iff.mp within).1
  rw [List.filter_map]
  refine congrArg (List.map _) (List.filter_congr fun row _ => ?_)
  exact Criteria.holds_project hclauses row

theorem sortRows_map_project (rows : List Row)
    : sortRows criteria.sortKeys (rows.map (·.project columns))
      = (sortRows criteria.sortKeys rows).map (·.project columns) := by
  have hkeys := (Criteria.forall_mem_columns_iff.mp within).2
  refine (List.map_mergeSort fun left _ right _ => ?_).symm
  rw [compareRows_project hkeys]

/-- Showing columns of the selected rows is selecting from the rows that have only these. -/
theorem shown_only_eq_shown_all (table : Table) (window : PageWindow)
    : (Projection.only columns).shown table
        (window.apply (sortRows criteria.sortKeys (table.rows.filter criteria.holds)))
      = Projection.all.shown (table.project columns)
        (window.apply
          (sortRows criteria.sortKeys ((table.project columns).rows.filter criteria.holds))) := by
  simp only [Projection.shown, Table.project, filter_map_project within,
    sortRows_map_project within, PageWindow.apply_map]

end

-----------------------------------------------------------------------------------------
-- Selections
-----------------------------------------------------------------------------------------

/-- A selection that shows columns of a table, among them those of its criteria, is the
selection of every column from the table that has only these. Neither fails unless a pattern
cannot be run, and then the first such pattern is the error of both.
-/
theorem select_only_eq_select_project (limits : Limits) (table : Table) (window : PageWindow)
    {columns : List String} {criteria : Criteria}
    (known : ∀ column ∈ columns, column ∈ table.columns)
    (within : ∀ column ∈ criteria.columns, column ∈ columns)
    : select limits table (.only columns) criteria window
        = select limits (table.project columns) .all criteria window
      ∧ Outcome.error? (select limits table (.only columns) criteria window)
        = (invalid? limits criteria.clauses).map .ofRefused := by
  have hnamed : ∀ column ∈ namedColumns (.only columns) criteria, column ∈ table.columns :=
    List.forall_mem_append.mpr ⟨fun column member => known column (within column member), known⟩
  have hnamed'
      : ∀ column ∈ namedColumns .all criteria, column ∈ (table.project columns).columns :=
    List.forall_mem_append.mpr ⟨within, by simp⟩
  have herror := error?_select_of_known limits hnamed window
  refine ⟨Outcome.eq_of_error?_eq ?_ ?_, herror⟩
  · exact herror.trans (error?_select_of_known limits hnamed' window).symm
  · intro result selected
    obtain ⟨-, hcompiles, rfl⟩ := select_eq_ok_iff.mp selected
    exact select_eq_ok_iff.mpr
      ⟨hnamed', hcompiles, (shown_only_eq_shown_all within table window).symm⟩

/-- The table has a column twice, and so has the list of columns to show; two rows have columns
of their own and lack some of the table.
-/
theorem select_only_eq_select_project_repeated
    : let ada := Row.ofValues ["name", "age", "name", "city"] ["Ada", "9", "King", "Ulm"]
      let bob := Row.ofValues ["city", "pet", "name"] ["Ulm", "cat", "Bob"]
      let cy := Row.ofValues ["name"] ["Cy"]
      let di := Row.ofValues ["name", "age", "name", "city"] ["Di", "9", "Ray", "Aue"]
      let table : Table :=
        { columns := ["name", "age", "name", "city"], rows := [ada, bob, cy, di] }
      let columns := ["city", "name", "city"]
      let criteria : Criteria :=
        {
          clauses := [⟨"name", "A%", true⟩]
          sortKeys := [⟨"city", .descending⟩, ⟨"name", .ascending⟩]
        }
      let result : Table := .ofRecords columns [["", "Cy", ""], ["Ulm", "Bob", "Ulm"]]
      (∀ column ∈ columns, column ∈ table.columns)
      ∧ (∀ column ∈ criteria.columns, column ∈ columns)
      ∧ select .lenient table (.only columns) criteria (.of 2 1) = .ok result
      ∧ select .lenient (table.project columns) .all criteria (.of 2 1) = .ok result
      ∧ invalid? .lenient criteria.clauses = none := by
  intro ada bob cy di table columns criteria result
  have hwithin : ∀ column ∈ criteria.columns, column ∈ columns := by decide +kernel
  have hknown : ∀ column ∈ columns, column ∈ table.columns := by decide
  have hselect : select .lenient table (.only columns) criteria (.of 2 1) = .ok result := by
    have hmatching : table.rows.filter criteria.holds = [bob, cy, di] := by
      decide +kernel
    have harrangement
        : Arrangement criteria.sortKeys [bob, cy, di].zipIdx [(cy, 1), (bob, 0), (di, 2)] := by
      constructor <;> decide +kernel
    refine select_eq_ok_iff.mpr ⟨by decide +kernel, fun _ _ => rfl, ?_⟩
    rw [hmatching, sortRows_eq_of_arrangement criteria.sortKeys harrangement]
    rfl
  obtain ⟨hsame, herror⟩ := select_only_eq_select_project .lenient table (.of 2 1) hknown hwithin
  rw [hselect] at hsame herror
  exact ⟨hknown, hwithin, hselect, hsame.symm, Option.map_eq_none_iff.mp herror.symm⟩

end Select

end MailMerge
