import MailMerge.Pairs
import MailMerge.Select.Cell
import MailMerge.Select.Pattern

/-! Selection criteria: what rows must look like and how they are ordered, built from
columns, patterns and flags as a user gives them.
-/

namespace MailMerge.Select

/-- A column must match a pattern, or must not if the clause is negated. -/
structure Clause where
  column : String
  pattern : String
  negated : Bool
  deriving DecidableEq, Repr

/-- All clauses must hold; the first sort key decides first. -/
structure Criteria where
  clauses : List Clause
  sortKeys : List SortKey
  deriving DecidableEq, Repr

/-- A flag counts as set when its value is neither empty nor a zero. -/
def isFlagSet (value : String) : Bool :=
  value ≠ "" && value ≠ "0"

/-- The columns whose last flag is set. -/
def flagged (flags : List (String × String)) : List String :=
  let held :=
    flags.foldl (fun held flag => Pairs.assign flag.1 (isFlagSet flag.2) held) []
  (held.filter Prod.snd).map Prod.fst

namespace Criteria

def empty : Criteria where
  clauses := []
  sortKeys := []

/-- Builds criteria from patterns by column, flags that negate them, columns to sort by,
and flags that reverse those.
-/
def build (patterns negations : List (String × String)) (sortColumns : List String)
    (reversals : List (String × String)) : Criteria where
  clauses :=
    (Pairs.merge patterns).map fun (column, pattern) =>
      { column, pattern, negated := (flagged negations).contains column }
  sortKeys :=
    sortColumns.map fun column =>
      { column, direction := .ofReversed ((flagged reversals).contains column) }

def and (criteria : Criteria) (clause : Clause) : Criteria :=
  { criteria with clauses := criteria.clauses ++ [clause] }

def orderBy (criteria : Criteria) (key : SortKey) : Criteria :=
  { criteria with sortKeys := criteria.sortKeys ++ [key] }

def isEmpty (criteria : Criteria) : Bool :=
  criteria.clauses.isEmpty && criteria.sortKeys.isEmpty

/-- Every column that the criteria name, in order and once. -/
def columns (criteria : Criteria) : List String :=
  (criteria.clauses.map Clause.column ++ criteria.sortKeys.map SortKey.column).eraseDups

end Criteria

end MailMerge.Select
