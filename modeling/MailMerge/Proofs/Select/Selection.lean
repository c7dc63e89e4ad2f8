import MailMerge.Proofs.Outcome
import MailMerge.Select.Query

/-! What a selection returns, in terms of the table and the criteria alone. It succeeds
exactly when every column is known and every pattern compiles.
-/

namespace MailMerge.Select

/-- An engine that refuses no expression. -/
def Limits.lenient : Limits where
  refusal? _ := none

namespace Clause

/-- What an engine has to say against the pattern of a clause. -/
def refusal? (limits : Limits) (clause : Clause) : Option String :=
  limits.refusal? (Pattern.expression clause.pattern)

/-- The pattern of the clause is one that the engine runs. -/
def Compiles (limits : Limits) (clause : Clause) : Prop :=
  clause.refusal? limits = none

instance (limits : Limits) : DecidablePred (Compiles limits) :=
  fun clause => inferInstanceAs (Decidable (clause.refusal? limits = none))

/-- A row satisfies a clause if its value matches the pattern, or does not match the pattern
of a negated clause.
-/
def holds (clause : Clause) (row : Row) : Bool :=
  (Pattern.read clause.pattern).accepts (row.text clause.column) != clause.negated

/-- The test of a clause, of its own column, its pattern and its direction. -/
def test (clause : Clause) : Test where
  column := clause.column
  pattern := .read clause.pattern
  negated := clause.negated

end Clause

/-- A row satisfies criteria if it satisfies every clause. -/
def Criteria.holds (criteria : Criteria) (row : Row) : Bool :=
  criteria.clauses.all (·.holds row)

/-- The result that shows rows of a table with the columns asked for. -/
def Projection.shown (table : Table) (rows : List Row) : Projection → Table
  | all => { table with rows }
  | only columns => { columns, rows := rows.map (·.project columns) }

-----------------------------------------------------------------------------------------
-- Clauses
-----------------------------------------------------------------------------------------

section

variable {limits : Limits}

theorem Test.compile_eq_ok_iff {clause : Clause} {test : Test}
    : Test.compile limits clause = .ok test
      ↔ clause.Compiles limits ∧ clause.test = test := by
  unfold Test.compile Pattern.compile Clause.Compiles Clause.refusal? Clause.test
  cases limits.refusal? (Pattern.expression clause.pattern) <;> simp

theorem error?_compile (clause : Clause)
    : Outcome.error? (Test.compile limits clause)
      = (clause.refusal? limits).map (.invalidPattern clause.pattern) := by
  unfold Test.compile Pattern.compile Clause.refusal?
  cases limits.refusal? (Pattern.expression clause.pattern) <;> rfl

/-- Clauses that compile are tested as they stand, by induction on the clauses. -/
theorem compileTests_eq_ok_iff {clauses : List Clause} {tests : List Test}
    : compileTests limits clauses = .ok tests
      ↔ (∀ clause ∈ clauses, clause.Compiles limits) ∧ clauses.map Clause.test = tests := by
  induction clauses generalizing tests with
  | nil => simp [compileTests]
  | cons clause clauses ih =>
      simp only [compileTests, Outcome.bind_eq_ok_iff, Test.compile_eq_ok_iff, ih,
        List.forall_mem_cons, List.map_cons]
      constructor
      · rintro ⟨test, ⟨first, rfl⟩, rest, ⟨others, rfl⟩, h⟩
        exact ⟨⟨first, others⟩, Except.ok.inj h⟩
      · rintro ⟨⟨first, others⟩, rfl⟩
        exact ⟨_, ⟨first, rfl⟩, _, ⟨others, rfl⟩, rfl⟩

/-- The rows that pass the tests of criteria are the rows that satisfy the criteria. -/
theorem holdsAll_map_test (criteria : Criteria)
    : holdsAll (criteria.clauses.map Clause.test) = criteria.holds := by
  funext row
  rw [holdsAll, List.all_map]
  rfl

end

-----------------------------------------------------------------------------------------
-- Selections
-----------------------------------------------------------------------------------------

@[simp]
theorem Projection.requested_all : all.requested = [] :=
  rfl

/-- The columns that criteria name are those of their clauses and of their sort keys. -/
theorem Criteria.forall_mem_columns_iff {criteria : Criteria} {property : String → Prop}
    : (∀ column ∈ criteria.columns, property column)
      ↔ (∀ clause ∈ criteria.clauses, property clause.column)
        ∧ ∀ key ∈ criteria.sortKeys, property key.column := by
  simp only [Criteria.columns, List.mem_eraseDups, List.forall_mem_append,
    List.forall_mem_map]

/-- A selection succeeds exactly when the table has every column named and every pattern
compiles. It then shows the page of the sorted rows that satisfy the criteria.
-/
theorem select_eq_ok_iff {limits : Limits} {table : Table} {projection : Projection}
    {criteria : Criteria} {window : PageWindow} {result : Table}
    : select limits table projection criteria window = .ok result
      ↔ (∀ column ∈ namedColumns projection criteria, column ∈ table.columns)
        ∧ (∀ clause ∈ criteria.clauses, clause.Compiles limits)
        ∧ projection.shown table
            (window.apply (sortRows criteria.sortKeys (table.rows.filter criteria.holds)))
          = result := by
  unfold select
  split
  case h_1 column unknown =>
    have hmem := List.mem_of_find?_eq_some unknown
    have hout := List.find?_some unknown
    simp only [decide_eq_true_eq] at hout
    constructor
    · rintro ⟨⟩
    · rintro ⟨known, -, -⟩
      exact absurd (known column hmem) hout
  case h_2 known =>
    simp only [List.find?_eq_none, decide_eq_true_eq, Decidable.not_not] at known
    simp only [Outcome.bind_eq_ok_iff, compileTests_eq_ok_iff]
    constructor
    · rintro ⟨_, ⟨compiles, rfl⟩, h⟩
      rw [holdsAll_map_test] at h
      refine ⟨known, compiles, ?_⟩
      cases projection <;> exact Except.ok.inj h
    · rintro ⟨-, compiles, rfl⟩
      refine ⟨_, ⟨compiles, rfl⟩, ?_⟩
      rw [holdsAll_map_test]
      cases projection <;> rfl

/-- What a selection of every column on one page returns. -/
theorem select_all_eq_ok_iff {limits : Limits} {table result : Table} {criteria : Criteria}
    {window : PageWindow} (unbounded : window.isUnbounded)
    : select limits table .all criteria window = .ok result
      ↔ ((∀ clause ∈ criteria.clauses, clause.column ∈ table.columns)
          ∧ ∀ key ∈ criteria.sortKeys, key.column ∈ table.columns)
        ∧ (∀ clause ∈ criteria.clauses, clause.Compiles limits)
        ∧ { table with
              rows := sortRows criteria.sortKeys (table.rows.filter criteria.holds) }
          = result := by
  have hpage (rows : List Row) : window.apply rows = rows := if_pos unbounded
  rw [select_eq_ok_iff, namedColumns, Projection.requested_all, List.append_nil,
    Criteria.forall_mem_columns_iff, hpage]
  rfl

-----------------------------------------------------------------------------------------
-- Refusals
-----------------------------------------------------------------------------------------

/-- The first of some names that is no column of a table. -/
def unknown? (table : Table) (names : List String) : Option String :=
  names.find? (· ∉ table.columns)

/-- The first pattern of some clauses that an engine refuses, and its reason. -/
def invalid? (limits : Limits) (clauses : List Clause) : Option (String × String) :=
  clauses.findSome? fun clause =>
    (clause.refusal? limits).map fun reason => (clause.pattern, reason)

/-- The error that a refused pattern is told with. -/
def SelectError.ofRefused (refused : String × String) : SelectError :=
  invalidPattern refused.1 refused.2

section

variable {limits : Limits}

/-- The error of clauses is about the first bad pattern, by induction on the clauses. -/
theorem error?_compileTests (clauses : List Clause)
    : Outcome.error? (compileTests limits clauses)
      = (invalid? limits clauses).map .ofRefused := by
  induction clauses with
  | nil => rfl
  | cons clause clauses ih =>
      rw [compileTests, Outcome.error?_bind, error?_compile, invalid?, List.findSome?_cons]
      cases hrefused : clause.refusal? limits with
      | some reason => rfl
      | none =>
          have compiled : Test.compile limits clause = .ok clause.test :=
            Test.compile_eq_ok_iff.mpr ⟨hrefused, rfl⟩
          have htail
              : Outcome.error? (do
                  let tests ← compileTests limits clauses
                  pure (clause.test :: tests))
                = Outcome.error? (compileTests limits clauses) := by
            cases compileTests limits clauses <;> rfl
          rw [compiled]
          exact htail.trans ih

/-- The error of a selection is about the first unknown column, and else about the first bad
pattern.
-/
theorem error?_select (table : Table) (projection : Projection) (criteria : Criteria)
    (window : PageWindow)
    : Outcome.error? (select limits table projection criteria window)
      = ((unknown? table (namedColumns projection criteria)).map .unknownColumn).or
          ((invalid? limits criteria.clauses).map .ofRefused) := by
  unfold select
  split
  case h_1 column hunknown =>
    rw [unknown?, hunknown]
    rfl
  case h_2 hknown =>
    rw [unknown?, hknown, ← error?_compileTests]
    cases compileTests limits criteria.clauses with
    | error e => rfl
    | ok tests => cases projection <;> rfl

/-- Where every column is known, the error of a selection is about a pattern. -/
theorem error?_select_of_known (limits : Limits) {table : Table} {projection : Projection}
    {criteria : Criteria}
    (known : ∀ column ∈ namedColumns projection criteria, column ∈ table.columns)
    (window : PageWindow)
    : Outcome.error? (select limits table projection criteria window)
      = (invalid? limits criteria.clauses).map .ofRefused := by
  have hknown : unknown? table (namedColumns projection criteria) = none := by
    simpa [unknown?, List.find?_eq_none] using known
  rw [error?_select, hknown]
  rfl

end

end MailMerge.Select
