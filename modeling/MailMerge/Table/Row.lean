/-! Rows and tables. A row is a list of named cells, and the empty text stands for a cell
without a value. The rows of a table usually share its columns but need not.
-/

namespace MailMerge

/-- One record: its cells in column order, each with the name of its column. -/
structure Row where
  cells : List (String × String)
  deriving DecidableEq, Repr, Inhabited

namespace Row

/-- Names a record's values. Missing values are empty and values without a column are
dropped.
-/
def named : List String → List String → List (String × String)
  | [], _ => []
  | column :: columns, [] => (column, "") :: named columns []
  | column :: columns, value :: values => (column, value) :: named columns values

def ofValues (columns values : List String) : Row where
  cells := named columns values

def columns (row : Row) : List String :=
  row.cells.map Prod.fst

def values (row : Row) : List String :=
  row.cells.map Prod.snd

/-- The value of the first cell with the name, if there is one. -/
def get? (row : Row) (column : String) : Option String :=
  row.cells.lookup column

/-- The value of a column; a column that the row lacks reads as empty. -/
def text (row : Row) (column : String) : String :=
  (row.get? column).getD ""

/-- The cells of the given columns in the given order; those that the row lacks are empty. -/
def project (row : Row) (columns : List String) : Row where
  cells := columns.map fun column => (column, row.text column)

@[simp]
theorem columns_ofValues (columns values : List String)
    : (ofValues columns values).columns = columns := by
  unfold ofValues Row.columns
  induction columns generalizing values with
  | nil => rfl
  | cons column columns ih => cases values <;> simp [named, ih]

@[simp]
theorem columns_project (row : Row) (columns : List String)
    : (row.project columns).columns = columns := by
  simp [project, Row.columns, Function.comp_def]

/-- A row has every column that it was projected to, by induction on these. -/
theorem get?_project {row : Row} {columns : List String} {column : String}
    (member : column ∈ columns)
    : (row.project columns).get? column = some (row.text column) := by
  unfold get? project
  induction columns with
  | nil => simp at member
  | cons first columns ih =>
      by_cases h : column = first
      · simp [h]
      · have hne : (column == first) = false := by simpa using h
        have hmember := (List.mem_cons.mp member).resolve_left h
        simpa [List.lookup_cons, hne] using ih hmember

theorem text_project {row : Row} {columns : List String} {column : String}
    (member : column ∈ columns)
    : (row.project columns).text column = row.text column := by
  rw [text, get?_project member, Option.getD_some]

end Row

/-- Rows with the columns that they were produced for. -/
structure Table where
  columns : List String
  rows : List Row
  deriving DecidableEq, Repr, Inhabited

/-- A table whose rows are records of values, padded and cut to the columns. -/
def Table.ofRecords (columns : List String) (records : List (List String)) : Table where
  columns
  rows := records.map (Row.ofValues columns)

end MailMerge
