import MailMerge.Select.Criteria
import MailMerge.Select.Page

/-! Selections over a whole table: check the columns, keep the rows that match, sort them
stably, cut the page, and show the columns asked for.
-/

namespace MailMerge.Select

/-- The columns of a result: those of the table, or a list of them. -/
inductive Projection where
  | all
  | only (columns : List String)
  deriving DecidableEq, Repr

/-- An empty list asks for every column. -/
def Projection.ofList (columns : List String) : Projection :=
  if columns = [] then all else only columns

def Projection.requested : Projection → List String
  | all => []
  | only columns => columns

/-- Why a selection cannot be run. -/
inductive SelectError where
  | unknownColumn (column : String)
  | invalidPattern (pattern reason : String)
  deriving DecidableEq, Repr

def SelectError.message : SelectError → String
  | unknownColumn column => s!"unknown column '{column}'"
  | invalidPattern pattern reason => s!"invalid LIKE pattern '{pattern}': " ++ reason

/-- A clause with its pattern compiled. -/
structure Test where
  column : String
  pattern : Pattern
  negated : Bool
  deriving DecidableEq, Repr

namespace Test

def compile (limits : Limits) (clause : Clause) : Except SelectError Test :=
  match Pattern.compile limits clause.pattern with
  | .ok pattern => .ok { column := clause.column, pattern, negated := clause.negated }
  | .error reason => .error (.invalidPattern clause.pattern reason)

/-- A column that the row lacks is matched as empty. -/
def holds (test : Test) (row : Row) : Bool :=
  test.pattern.accepts (row.text test.column) != test.negated

end Test

/-- Compiles the clauses in order; the first bad pattern is the error. -/
def compileTests (limits : Limits) : List Clause → Except SelectError (List Test)
  | [] => .ok []
  | clause :: clauses => do
      let test ← Test.compile limits clause
      let tests ← compileTests limits clauses
      pure (test :: tests)

def holdsAll (tests : List Test) (row : Row) : Bool :=
  tests.all (·.holds row)

/-- Sorts rows by keys, keeping the order of rows that the keys do not tell apart. -/
def sortRows (keys : List SortKey) (rows : List Row) : List Row :=
  rows.mergeSort fun left right => (compareRows keys left right).isLE

/-- Every column that a selection names, criteria first. -/
def namedColumns (projection : Projection) (criteria : Criteria) : List String :=
  criteria.columns ++ projection.requested

def select (limits : Limits) (table : Table) (projection : Projection) (criteria : Criteria)
    (window : PageWindow) : Except SelectError Table :=
  match (namedColumns projection criteria).find? (· ∉ table.columns) with
  | some column => .error (.unknownColumn column)
  | none => do
      let tests ← compileTests limits criteria.clauses
      let chosen := sortRows criteria.sortKeys (table.rows.filter (holdsAll tests))
      let page := window.apply chosen
      match projection with
      | .all => pure { table with rows := page }
      | .only columns => pure { columns, rows := page.map (·.project columns) }

end MailMerge.Select
