import MailMerge.Proofs.Select.Selection

/-! When a selection is refused, and with which error. The columns that it names are looked at
one by one, and then its patterns, and the first one that is wrong is told. The rows of the
table are not looked at before, so they have no say in it.
-/

namespace MailMerge.Select

/-- The first of some items with a property, which no item before it has. -/
def IsFirst {α : Type} (property : α → Prop) (item : α) (items : List α) : Prop :=
  ∃ earlier later,
    items = earlier ++ item :: later
    ∧ property item
    ∧ ∀ other ∈ earlier, ¬ property other

/-- The columns that a selection names, each as often as it does: those of the clauses, those of
the sort keys, and those to show.
-/
def mentions (projection : Projection) (criteria : Criteria) : List String :=
  criteria.clauses.map Clause.column ++ criteria.sortKeys.map SortKey.column
    ++ projection.requested

/-- The columns of the result of a selection. -/
def Projection.columns (table : Table) : Projection → List String
  | all => table.columns
  | only columns => columns

-----------------------------------------------------------------------------------------
-- First items
-----------------------------------------------------------------------------------------

theorem find?_eq_some_iff_isFirst {α : Type} {property : α → Prop} [DecidablePred property]
    {items : List α} {item : α}
    : items.find? (property ·) = some item ↔ IsFirst property item items := by
  simp only [List.find?_eq_some_iff_append, decide_eq_true_eq, Bool.not_eq_true',
    decide_eq_false_iff_not, IsFirst]
  constructor
  · rintro ⟨holds, earlier, later, h, none⟩
    exact ⟨earlier, later, h, holds, none⟩
  · rintro ⟨earlier, later, h, holds, none⟩
    exact ⟨holds, earlier, later, h, none⟩

/-- Leaving out repeats does not change what comes first of a kind, by recursion on the items that
are not the first one.
-/
theorem find?_eraseDups {α : Type} [BEq α] [LawfulBEq α] (test : α → Bool)
    : (items : List α) → items.eraseDups.find? test = items.find? test
  | [] => rfl
  | item :: items => by
      rw [List.eraseDups_cons, List.find?_cons, List.find?_cons]
      cases failed : test item with
      | true => rfl
      | false =>
          have hothers
              : (fun other => decide ((!other == item) = true ∧ test other = true)) = test := by
            funext other
            by_cases h : other = item
            · simp [h, failed]
            · simp [h]
          dsimp only
          rw [find?_eraseDups test (items.filter (!· == item)), List.find?_filter, hothers]
termination_by items => items.length
decreasing_by
  exact Nat.lt_succ_of_le (List.length_filter_le _ _)

-----------------------------------------------------------------------------------------
-- Columns and patterns
-----------------------------------------------------------------------------------------

variable {limits : Limits} (table : Table) (projection : Projection) (criteria : Criteria)

/-- The first unknown column is the same where each column is looked at once. -/
theorem unknown?_namedColumns
    : unknown? table (namedColumns projection criteria)
      = unknown? table (mentions projection criteria) := by
  simp only [unknown?, namedColumns, mentions, Criteria.columns, List.find?_append,
    find?_eraseDups]

theorem mem_namedColumns_iff {column : String}
    : column ∈ namedColumns projection criteria ↔ column ∈ mentions projection criteria := by
  simp only [namedColumns, mentions, Criteria.columns, List.mem_append, List.mem_eraseDups]

theorem unknown?_eq_none_iff {names : List String}
    : unknown? table names = none ↔ ∀ name ∈ names, name ∈ table.columns := by
  simp [unknown?, List.find?_eq_none]

theorem invalid?_eq_some_iff {clauses : List Clause} {pattern reason : String}
    : invalid? limits clauses = some (pattern, reason)
      ↔ ∃ clause,
          IsFirst (¬ ·.Compiles limits) clause clauses
          ∧ clause.pattern = pattern
          ∧ clause.refusal? limits = some reason := by
  simp only [invalid?, List.findSome?_eq_some_iff, Option.map_eq_some_iff, Prod.mk.injEq,
    Option.map_eq_none_iff, IsFirst, Clause.Compiles]
  constructor
  · rintro ⟨earlier, clause, later, rfl, ⟨_, refused, rfl, rfl⟩, compile⟩
    exact ⟨clause, ⟨earlier, later, rfl, by simp [refused], by simpa using compile⟩, rfl, refused⟩
  · rintro ⟨clause, ⟨earlier, later, rfl, -, compile⟩, rfl, refused⟩
    exact ⟨earlier, clause, later, rfl, ⟨_, refused, rfl, rfl⟩, by simpa using compile⟩

-----------------------------------------------------------------------------------------
-- Selections
-----------------------------------------------------------------------------------------

variable (window : PageWindow)

/-- The error of a selection, by the columns that it names as often as it does. -/
theorem select_eq_error_iff {e : SelectError}
    : select limits table projection criteria window = .error e
      ↔ ((unknown? table (mentions projection criteria)).map .unknownColumn).or
          ((invalid? limits criteria.clauses).map .ofRefused)
        = some e := by
  rw [← Outcome.error?_eq_some_iff, error?_select, unknown?_namedColumns]

theorem select_eq_unknownColumn_iff {column : String}
    : select limits table projection criteria window = .error (.unknownColumn column)
      ↔ IsFirst (· ∉ table.columns) column (mentions projection criteria) := by
  rw [select_eq_error_iff, ← find?_eq_some_iff_isFirst, ← unknown?]
  cases unknown? table (mentions projection criteria) <;> simp [SelectError.ofRefused]

theorem select_eq_invalidPattern_iff {pattern reason : String}
    : select limits table projection criteria window = .error (.invalidPattern pattern reason)
      ↔ (∀ column ∈ mentions projection criteria, column ∈ table.columns)
        ∧ ∃ clause,
            IsFirst (¬ ·.Compiles limits) clause criteria.clauses
            ∧ clause.pattern = pattern
            ∧ clause.refusal? limits = some reason := by
  rw [select_eq_error_iff, ← invalid?_eq_some_iff, ← unknown?_eq_none_iff]
  cases unknown? table (mentions projection criteria) <;> simp [SelectError.ofRefused]

theorem select_isOk_iff
    : (∃ result, select limits table projection criteria window = .ok result)
      ↔ (∀ column ∈ mentions projection criteria, column ∈ table.columns)
        ∧ ∀ clause ∈ criteria.clauses, clause.Compiles limits := by
  simp only [select_eq_ok_iff, mem_namedColumns_iff]
  constructor
  · rintro ⟨result, known, compiles, -⟩
    exact ⟨known, compiles⟩
  · rintro ⟨known, compiles⟩
    exact ⟨_, known, compiles, rfl⟩

/-- The result of a selection has the columns that it was asked for, and so has each of its rows
where columns were listed.
-/
theorem columns_of_select {result : Table}
    (selected : select limits table projection criteria window = .ok result)
    : result.columns = projection.columns table
      ∧ ∀ columns, projection = .only columns → ∀ row ∈ result.rows, row.columns = columns := by
  obtain ⟨-, -, rfl⟩ := select_eq_ok_iff.mp selected
  refine ⟨?_, ?_⟩
  · cases projection <;> rfl
  · rintro columns rfl row member
    obtain ⟨source, -, rfl⟩ := List.mem_map.mp member
    exact Row.columns_project source columns

/-- A selection is refused for the first column that the table lacks, of those that its clauses,
its sort keys and its list of columns name. If there is none, it is refused for the first
pattern that the engine refuses, with the reason of the engine, and if there is none either,
it succeeds and has the columns that it was asked for. Neither the rows of the table nor the
window make a difference to the error.
-/
theorem select_refuses_first
    : (∀ column,
        select limits table projection criteria window = .error (.unknownColumn column)
        ↔ IsFirst (· ∉ table.columns) column (mentions projection criteria))
      ∧ (∀ pattern reason,
          select limits table projection criteria window
            = .error (.invalidPattern pattern reason)
          ↔ (∀ column ∈ mentions projection criteria, column ∈ table.columns)
            ∧ ∃ clause,
                IsFirst (¬ ·.Compiles limits) clause criteria.clauses
                ∧ clause.pattern = pattern
                ∧ clause.refusal? limits = some reason)
      ∧ ((∃ result, select limits table projection criteria window = .ok result)
        ↔ (∀ column ∈ mentions projection criteria, column ∈ table.columns)
          ∧ ∀ clause ∈ criteria.clauses, clause.Compiles limits)
      ∧ (∀ result,
          select limits table projection criteria window = .ok result
          → result.columns = projection.columns table
            ∧ ∀ columns, projection = .only columns
              → ∀ row ∈ result.rows, row.columns = columns)
      ∧ ∀ rows window',
          Outcome.error? (select limits { table with rows } projection criteria window')
          = Outcome.error? (select limits table projection criteria window) := by
  refine ⟨?_, ?_, ?_, ?_, ?_⟩
  · intro column
    exact select_eq_unknownColumn_iff table projection criteria window
  · intro pattern reason
    exact select_eq_invalidPattern_iff table projection criteria window
  · exact select_isOk_iff table projection criteria window
  · intro result selected
    exact columns_of_select table projection criteria window selected
  · intro rows window'
    rw [error?_select, error?_select]
    rfl

/-- An engine refuses long expressions. The second pattern is the first one of those that are too
long for it, and the columns are all known.
-/
example
    : let limits : Limits :=
        { refusal? := fun text => if 11 < text.length then some "too long" else none }
      select limits { columns := ["name", "age"], rows := [] } (.only ["name"])
        {
          clauses := [⟨"name", "A%", false⟩, ⟨"age", "4_____", true⟩, ⟨"age", "%%%%%%", false⟩]
          sortKeys := [⟨"age", .descending⟩]
        }
        .unbounded
      = .error (.invalidPattern "4_____" "too long") := by
  rfl

end MailMerge.Select
