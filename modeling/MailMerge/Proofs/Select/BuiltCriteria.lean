import MailMerge.Proofs.MergedPairs
import MailMerge.Select.Criteria

/-! Criteria as they are built from patterns, flags and columns that may repeat themselves and
contradict each other. A column keeps the place where it came first and the pattern with which
it came last, and of its flags the last one counts.
-/

namespace MailMerge.Select

/-- The last flag that a column is given is set. -/
def LastSet (flags : List (String × String)) (column : String) : Prop :=
  ∃ value, (Pairs.values flags column).getLast? = some value ∧ value ≠ "" ∧ value ≠ "0"

-----------------------------------------------------------------------------------------
-- Flags
-----------------------------------------------------------------------------------------

/-- What is held of flags is what is left of them when they are merged, each as set or not. -/
theorem flagged_eq (flags : List (String × String))
    : flagged flags
      = ((Pairs.merge (flags.map fun flag => (flag.1, isFlagSet flag.2))).filter Prod.snd).map
          Prod.fst := by
  rw [flagged, Pairs.merge, List.foldl_map]

theorem values_map_isFlagSet (flags : List (String × String)) (column : String)
    : Pairs.values (flags.map fun flag => (flag.1, isFlagSet flag.2)) column
      = (Pairs.values flags column).map isFlagSet := by
  simp only [Pairs.values, List.filter_map, List.map_map]
  rfl

/-- A column is flagged if it is held as set. -/
theorem mem_flagged_iff {flags : List (String × String)} {column : String}
    : column ∈ flagged flags
      ↔ (Pairs.merge (flags.map fun flag => (flag.1, isFlagSet flag.2))).lookup column
        = some true := by
  have once := Pairs.nodup_names_merge (flags.map fun flag => (flag.1, isFlagSet flag.2))
  simp only [flagged_eq, List.mem_map, List.mem_filter]
  constructor
  · rintro ⟨⟨_, isSet⟩, ⟨member, rfl⟩, rfl⟩
    exact Pairs.lookup_eq_some_of_mem once member
  · intro found
    obtain ⟨front, back, hkept, -⟩ := List.lookup_eq_some_iff.mp found
    exact ⟨(column, true), ⟨by simp [hkept], rfl⟩, rfl⟩

/-- Flags answer as those that are left of them when they are merged. -/
theorem flagged_eq_lookup_merge (flags : List (String × String)) (column : String)
    : (flagged flags).contains column = ((Pairs.merge flags).lookup column).any isFlagSet := by
  rw [Bool.eq_iff_iff, List.contains_iff_mem, mem_flagged_iff, Pairs.lookup_merge,
    values_map_isFlagSet, List.getLast?_map, ← Pairs.lookup_merge, Option.map_eq_some_iff,
    Option.any_eq_true]

theorem flagged_iff {flags : List (String × String)} {column : String}
    : (flagged flags).contains column = true ↔ LastSet flags column := by
  rw [flagged_eq_lookup_merge, Pairs.lookup_merge, Option.any_eq_true]
  simp only [isFlagSet, Bool.and_eq_true, decide_eq_true_eq, LastSet]

/-- Flags with the same values for a column answer alike, whatever else is among them. -/
theorem flagged_congr {flags flags' : List (String × String)} {column : String}
    (same : Pairs.values flags column = Pairs.values flags' column)
    : (flagged flags).contains column = (flagged flags').contains column := by
  rw [Bool.eq_iff_iff, flagged_iff, flagged_iff, LastSet, LastSet, same]

theorem Direction.ofReversed_eq_descending_iff {reversed : Bool}
    : ofReversed reversed = descending ↔ reversed = true := by
  cases reversed <;> decide

-----------------------------------------------------------------------------------------
-- Criteria
-----------------------------------------------------------------------------------------

namespace Criteria

variable (patterns negations : List (String × String)) (sortColumns : List String)
  (reversals : List (String × String))

/-- The clauses without their signs are the merged patterns. -/
theorem map_clauses_build
    : (build patterns negations sortColumns reversals).clauses.map
        (fun clause => (clause.column, clause.pattern))
      = Pairs.merge patterns := by
  rw [build, List.map_map]
  exact List.map_id _

theorem negated_of_mem_build {clause : Clause}
    (member : clause ∈ (build patterns negations sortColumns reversals).clauses)
    : clause.negated = (flagged negations).contains clause.column := by
  obtain ⟨pair, -, rfl⟩ := List.mem_map.mp member
  rfl

/-- The sort keys without their directions are the columns to sort by. -/
theorem map_sortKeys_build
    : (build patterns negations sortColumns reversals).sortKeys.map SortKey.column
      = sortColumns := by
  rw [build, List.map_map]
  exact List.map_id _

theorem direction_of_mem_build {key : SortKey}
    (member : key ∈ (build patterns negations sortColumns reversals).sortKeys)
    : key.direction = .ofReversed ((flagged reversals).contains key.column) := by
  obtain ⟨column, -, rfl⟩ := List.mem_map.mp member
  rfl

/-- Only the flags of columns that are matched or sorted by make a difference. -/
theorem build_congr {negations' reversals' : List (String × String)}
    (sameNegations : ∀ column ∈ patterns.map Prod.fst,
      Pairs.values negations' column = Pairs.values negations column)
    (sameReversals : ∀ column ∈ sortColumns,
      Pairs.values reversals' column = Pairs.values reversals column)
    : build patterns negations' sortColumns reversals'
      = build patterns negations sortColumns reversals := by
  have hclauses (column pattern : String) (member : (column, pattern) ∈ Pairs.merge patterns)
      : (flagged negations').contains column = (flagged negations).contains column := by
    have given := (Pairs.mem_names_merge_iff patterns column).mp (List.mem_map_of_mem member)
    exact flagged_congr (sameNegations column given)
  have hsortKeys : ∀ column ∈ sortColumns,
      (flagged reversals').contains column = (flagged reversals).contains column :=
    fun column member => flagged_congr (sameReversals column member)
  unfold build
  congr 1
  · refine List.map_congr_left fun ⟨column, pattern⟩ member => ?_
    simp only [hclauses column pattern member]
  · refine List.map_congr_left fun column member => ?_
    rw [hsortKeys column member]

end Criteria

/-- Built criteria have a clause for each column with a pattern, at the place where the column
came first and with the pattern with which it came last, negated if the last flag of the
column that negates is set. They have a sort key for each column to sort by, as often as it
comes and in that order, descending if the last flag of the column that reverses is set.
Other flags do not matter, nor does how the flags of different columns are mixed.
-/
theorem build_normalizes (patterns negations : List (String × String))
    (sortColumns : List String) (reversals : List (String × String))
    : let criteria := Criteria.build patterns negations sortColumns reversals
      Pairs.Merged patterns
          (criteria.clauses.map fun clause => (clause.column, clause.pattern))
      ∧ (∀ clause ∈ criteria.clauses,
          clause.negated = true ↔ LastSet negations clause.column)
      ∧ criteria.sortKeys.map SortKey.column = sortColumns
      ∧ (∀ key ∈ criteria.sortKeys,
          key.direction = .descending ↔ LastSet reversals key.column)
      ∧ ∀ negations' reversals',
          (∀ column ∈ patterns.map Prod.fst,
            Pairs.values negations' column = Pairs.values negations column)
          → (∀ column ∈ sortColumns,
              Pairs.values reversals' column = Pairs.values reversals column)
          → Criteria.build patterns negations' sortColumns reversals' = criteria := by
  intro criteria
  refine ⟨?_, ?_, ?_, ?_, ?_⟩
  · rw [Criteria.map_clauses_build]
    exact Pairs.merged_merge patterns
  · intro clause member
    rw [Criteria.negated_of_mem_build patterns negations sortColumns reversals member,
      flagged_iff]
  · exact Criteria.map_sortKeys_build patterns negations sortColumns reversals
  · intro key member
    rw [Criteria.direction_of_mem_build patterns negations sortColumns reversals member,
      Direction.ofReversed_eq_descending_iff, flagged_iff]
  · intro negations' reversals' sameNegations sameReversals
    exact Criteria.build_congr patterns negations sortColumns reversals sameNegations
      sameReversals

/-- One column has two patterns, and one that has none is flagged. -/
example
    : Criteria.build [("name", "A%"), ("city", "U%"), ("name", "B%")]
        [("city", "0"), ("age", "1"), ("name", "0"), ("name", "yes")] ["age", "name", "age"]
        [("age", "1"), ("name", "")]
      = {
          clauses := [⟨"name", "B%", true⟩, ⟨"city", "U%", false⟩]
          sortKeys := [⟨"age", .descending⟩, ⟨"name", .ascending⟩, ⟨"age", .descending⟩]
        } := by
  decide +kernel

end MailMerge.Select
