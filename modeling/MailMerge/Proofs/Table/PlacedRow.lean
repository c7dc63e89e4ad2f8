import Mathlib.Data.List.Basic
import Mathlib.Data.List.Induction
import MailMerge.Table.Row

/-! Rows that keep their columns and their values apart, in two lists. A value is found by the
place of its column, and there is one at that place because the lists are equally long however
a row is made and however often it is projected. What such a row answers is what the row with
the same cells does.
-/

namespace MailMerge

/-- A row whose columns and values are two lists. A column's value stands at its place. -/
structure PlacedRow where
  columns : List String
  values : List String
  deriving DecidableEq, Repr

/-- A value was looked for behind the last one. -/
structure MissingPlace where
  place : Nat
  count : Nat
  deriving DecidableEq, Repr

namespace PlacedRow

/-- Places a record's values. Missing values are empty and values without a column are dropped. -/
def ofValues (columns values : List String) : PlacedRow where
  columns
  values := values.takeD columns.length ""

def ofPairs (pairs : List (String × String)) : PlacedRow where
  columns := pairs.unzip.1
  values := pairs.unzip.2

/-- The value at the place of the first column with the name, if there is such a column. -/
def get? (row : PlacedRow) (column : String) : Except MissingPlace (Option String) :=
  match row.columns.findIdx? (· == column) with
  | none => .ok none
  | some place =>
      match row.values[place]? with
      | some value => .ok (some value)
      | none => .error { place, count := row.values.length }

/-- The given columns in the given order; those that the row lacks are empty. -/
def project (row : PlacedRow) (columns : List String) : Except MissingPlace PlacedRow := do
  let found ← columns.mapM row.get?
  return { columns, values := found.map (·.getD "") }

/-- Projects a row to one list of columns after the other. -/
def projectAll (row : PlacedRow) (lists : List (List String)) : Except MissingPlace PlacedRow :=
  lists.foldlM project row

/-- The cells of a row, with its columns and its values apart. -/
def ofRow (row : Row) : PlacedRow where
  columns := row.columns
  values := row.values

/-- The ways in which rows are made, each with the row of the same cells. -/
inductive Made : PlacedRow → Row → Prop
  | values (columns values : List String)
    : Made (.ofValues columns values) (.ofValues columns values)
  | pairs (pairs : List (String × String)) : Made (.ofPairs pairs) { cells := pairs }

@[simp]
theorem columns_ofRow (row : Row) : (ofRow row).columns = row.columns :=
  rfl

@[simp]
theorem values_ofRow (row : Row) : (ofRow row).values = row.values :=
  rfl

-----------------------------------------------------------------------------------------
-- Making rows
-----------------------------------------------------------------------------------------

/-- Placed values are the values of named cells, by induction on the columns. -/
theorem takeD_eq_map_named (columns values : List String)
    : values.takeD columns.length "" = (Row.named columns values).map Prod.snd := by
  induction columns generalizing values with
  | nil => rfl
  | cons column columns ih => cases values <;> simp [Row.named, ← ih]

theorem Made.eq_ofRow {row : PlacedRow} {cells : Row} (made : Made row cells)
    : row = ofRow cells := by
  cases made with
  | values columns values =>
      rw [ofRow, Row.columns_ofValues, ofValues, takeD_eq_map_named]
      rfl
  | pairs pairs => simp [ofPairs, ofRow, Row.columns, Row.values]

end PlacedRow

-----------------------------------------------------------------------------------------
-- Looking up and projecting
-----------------------------------------------------------------------------------------

theorem Row.length_values (row : Row) : row.values.length = row.columns.length := by
  simp [Row.values, Row.columns]

/-- Looking a column up finds what stands at the place of the first cell with its name, by
induction on the cells.
-/
theorem Row.get?_eq_at_place (row : Row) (column : String)
    : row.get? column
      = (row.columns.findIdx? (· == column)).bind fun place => row.values[place]? := by
  obtain ⟨cells⟩ := row
  simp only [Row.get?, Row.columns, Row.values]
  induction cells with
  | nil => rfl
  | cons cell cells ih =>
      obtain ⟨name, value⟩ := cell
      rw [List.lookup_cons, List.map_cons, List.map_cons, List.findIdx?_cons]
      by_cases same : name = column
      · simp [same]
      · have apart : (column == name) = false := by simpa using Ne.symm same
        rw [apart, if_neg (by simpa using same), Option.bind_map, ih]
        rfl

namespace PlacedRow

/-- The place of a column is a place of a value, so looking up never misses. -/
theorem get?_ofRow (row : Row) (column : String)
    : (ofRow row).get? column = .ok (row.get? column) := by
  rw [get?, columns_ofRow, values_ofRow, Row.get?_eq_at_place]
  cases hplace : row.columns.findIdx? (· == column) with
  | none => rfl
  | some place =>
      have inside : place < row.values.length := by
        rw [Row.length_values]
        exact (List.findIdx?_eq_some_iff_getElem.mp hplace).1
      simp only [Option.bind_some, List.getElem?_eq_getElem inside]

theorem project_ofRow (row : Row) (columns : List String)
    : (ofRow row).project columns = .ok (ofRow (row.project columns)) := by
  have hfound : columns.mapM (ofRow row).get? = .ok (columns.map row.get?) := by
    have hget : (ofRow row).get? = fun column => pure (row.get? column) :=
      funext (get?_ofRow row)
    rw [hget, List.mapM_pure]
    rfl
  rw [project, hfound, ofRow, Row.columns_project]
  simp only [bind, Except.bind, pure, Except.pure, List.map_map, Row.project, Row.values]
  rfl

/-- Projecting goes on as with named cells, by induction on the lists of columns. -/
theorem projectAll_ofRow (row : Row) (lists : List (List String))
    : (ofRow row).projectAll lists = .ok (ofRow (lists.foldl Row.project row)) := by
  induction lists generalizing row with
  | nil => rfl
  | cons columns lists ih =>
      rw [projectAll, List.foldlM_cons, project_ofRow, List.foldl_cons]
      exact ih (row.project columns)

end PlacedRow

-----------------------------------------------------------------------------------------
-- Named cells through projections
-----------------------------------------------------------------------------------------

namespace Row

theorem isSome_get?_iff (row : Row) (column : String)
    : (row.get? column).isSome = true ↔ column ∈ row.columns := by
  rw [get?, List.lookup_isSome_iff, columns, List.mem_map]
  simp only [beq_iff_eq, @eq_comm _ column]

theorem get?_of_mem {row : Row} {column : String} (member : column ∈ row.columns)
    : row.get? column = some (row.text column) := by
  obtain ⟨value, found⟩ := Option.isSome_iff_exists.mp ((isSome_get?_iff row column).mpr member)
  rw [text, found, Option.getD_some]

theorem text_of_notMem {row : Row} {column : String} (lacking : column ∉ row.columns)
    : row.text column = "" := by
  rw [text, Option.not_isSome_iff_eq_none.mp (mt (isSome_get?_iff row column).mp lacking),
    Option.getD_none]

theorem text_project_eq (row : Row) (columns : List String) (column : String)
    : (row.project columns).text column = if column ∈ columns then row.text column else "" := by
  split
  · rename_i member
    exact text_project member
  · rename_i lacking
    exact text_of_notMem (by rwa [columns_project])

/-- A row has the columns that it was projected to last. -/
theorem columns_foldl_project (row : Row) (lists : List (List String))
    : (lists.foldl project row).columns = lists.getLast?.getD row.columns := by
  induction lists using List.reverseRecOn with
  | nil => rfl
  | append_singleton lists columns _ =>
      rw [List.foldl_append, List.foldl_cons, List.foldl_nil, columns_project]
      simp

/-- A column keeps its text as long as it is listed, by induction on the lists. Once it was left
out, it comes back empty.
-/
theorem text_foldl_project (row : Row) (lists : List (List String)) (column : String)
    : (lists.foldl project row).text column
      = if ∀ columns ∈ lists, column ∈ columns then row.text column else "" := by
  induction lists generalizing row with
  | nil => simp
  | cons columns lists ih =>
      rw [List.foldl_cons, ih, text_project_eq]
      by_cases member : column ∈ columns <;> simp [member]

theorem project_project_self (row : Row) (columns : List String)
    : (row.project columns).project columns = row.project columns := by
  have htext : ∀ column ∈ columns, (row.project columns).text column = row.text column :=
    fun column member => text_project member
  simp only [project, Row.mk.injEq]
  exact List.map_congr_left fun column member => by rw [← htext column member, project]

end Row

namespace PlacedRow

/-- However a row is made and to whatever lists of columns it is projected in turn, no value is
looked for at a place where there is none: projecting succeeds, there are as many values as
columns, and just the names of columns are answered. The row has the columns of the last list.
Each has the value that it had at first if it has been in all the lists, and is empty if it was
left out or was no column at first. To project once more to the same list changes nothing.
Every step of a chain is the end of a shorter one, so all this holds there too.
-/
theorem projectAll_wellFormed {row : PlacedRow} {cells : Row} (made : Made row cells)
    (lists : List (List String))
    : ∃ last,
        row.projectAll lists = .ok last
        ∧ last = ofRow (lists.foldl Row.project cells)
        ∧ last.columns = lists.getLast?.getD row.columns
        ∧ last.values.length = last.columns.length
        ∧ (∀ column,
            ∃ found,
              last.get? column = .ok found ∧ (found.isSome = true ↔ column ∈ last.columns))
        ∧ (∀ column ∈ last.columns,
            (∀ value,
              row.get? column = .ok (some value)
              → (∀ columns ∈ lists, column ∈ columns)
              → last.get? column = .ok (some value))
            ∧ (row.get? column = .ok none ∨ (∃ columns ∈ lists, column ∉ columns)
              → last.get? column = .ok (some "")))
        ∧ ∀ columns,
            (last.project columns >>= fun once => once.project columns)
            = last.project columns := by
  obtain rfl := made.eq_ofRow
  refine ⟨_, projectAll_ofRow cells lists, rfl, ?_, ?_, ?_, ?_, ?_⟩
  · exact Row.columns_foldl_project cells lists
  · exact Row.length_values _
  · intro column
    exact ⟨_, get?_ofRow _ column, Row.isSome_get?_iff _ column⟩
  · intro column member
    rw [get?_ofRow, get?_ofRow, Row.get?_of_mem member, Row.text_foldl_project]
    refine ⟨?_, ?_⟩
    · intro value found kept
      rw [if_pos kept, Row.text, Except.ok.inj found, Option.getD_some]
    · rintro (lacking | ⟨columns, listed, dropped⟩)
      · rw [Row.text, Except.ok.inj lacking, Option.getD_none, ite_self]
      · rw [if_neg fun kept => dropped (kept columns listed)]
  · intro columns
    simp only [project_ofRow, bind, Except.bind, Row.project_project_self]

/-- A column that comes twice, one that is left out and comes back, and one that was not there. -/
theorem projectAll_wellFormed_returning
    : let pairs := [("name", "Ada"), ("age", "36"), ("name", "Eve")]
      let row := PlacedRow.ofPairs pairs
      let lists := [["name", "age", "city"], ["city", "name"], ["age", "name", "city", "name"]]
      Made row { cells := pairs }
      ∧ row.get? "name" = .ok (some "Ada")
      ∧ row.get? "city" = .ok none
      ∧ ∃ last,
          row.projectAll lists = .ok last
          ∧ last.values.length = 4
          ∧ last.get? "name" = .ok (some "Ada")
          ∧ last.get? "age" = .ok (some "")
          ∧ last.get? "city" = .ok (some "") := by
  intro pairs row lists
  have made : Made row { cells := pairs } := .pairs pairs
  have hname : row.get? "name" = .ok (some "Ada") := rfl
  have hcity : row.get? "city" = .ok none := rfl
  obtain ⟨last, projected, -, columns, lengths, -, values, -⟩ := projectAll_wellFormed made lists
  have hcolumns : last.columns = ["age", "name", "city", "name"] := columns
  refine ⟨made, hname, hcity, last, projected, by rw [lengths, hcolumns]; rfl, ?_, ?_, ?_⟩
  · exact (values "name" (by simp [hcolumns])).1 "Ada" hname (by decide)
  · exact (values "age" (by simp [hcolumns])).2 (.inr (by decide))
  · exact (values "city" (by simp [hcolumns])).2 (.inl hcity)

end PlacedRow

end MailMerge
