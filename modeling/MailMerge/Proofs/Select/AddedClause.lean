import MailMerge.Proofs.Select.StableSelection

/-! One more clause leaves out rows of a selection and moves none of those that stay. A clause
and its negation share the rows of the selection out between them.
-/

namespace MailMerge.Select

/-- The clause that holds of the other rows. -/
def Clause.negate (clause : Clause) : Clause :=
  { clause with negated := !clause.negated }

-----------------------------------------------------------------------------------------
-- Clauses
-----------------------------------------------------------------------------------------

/-- A clause holds of a row, or else its negation does; a column that the row lacks makes no
difference.
-/
theorem Clause.holds_negate (clause : Clause) (row : Row)
    : clause.negate.holds row = !clause.holds row := by
  simp only [holds, negate]
  cases (Pattern.read clause.pattern).accepts (row.text clause.column) <;>
    cases clause.negated <;> rfl

theorem Criteria.holds_and (criteria : Criteria) (clause : Clause) (row : Row)
    : (criteria.and clause).holds row = (criteria.holds row && clause.holds row) := by
  simp only [Criteria.holds, Criteria.and, List.all_append, List.all_cons, List.all_nil,
    Bool.and_true]

-----------------------------------------------------------------------------------------
-- Leaving rows out
-----------------------------------------------------------------------------------------

/-- An arrangement stays one when rows are left out of it and of its source. -/
theorem Arrangement.filter {keys : List SortKey} {source order : List (Row × Nat)}
    (h : Arrangement keys source order) (keep : Row × Nat → Bool)
    : Arrangement keys (source.filter keep) (order.filter keep) where
  complete := h.complete.filter keep
  sorted := h.sorted.filter keep
  stable := h.stable.filter keep

/-- Rows can be left out before sorting or after it. -/
theorem filter_sortRows (keys : List SortKey) (keep : Row → Bool) (rows : List Row)
    : (sortRows keys rows).filter keep = sortRows keys (rows.filter keep) := by
  obtain ⟨order, horder, hrows⟩ := arranges_zipIdx keys rows
  have hafter : Arranges keys (rows.zipIdx.filter (keep ∘ Prod.fst))
      ((sortRows keys rows).filter keep) := by
    refine ⟨order.filter (keep ∘ Prod.fst), horder.filter _, ?_⟩
    rw [← hrows, List.filter_map]
  have hbefore := arranges_sortRows keys (rows.zipIdx.filter (keep ∘ Prod.fst))
    ((ascending_zipIdx rows).filter _)
  rw [← List.filter_map, List.zipIdx_map_fst] at hbefore
  exact hafter.unique hbefore

-----------------------------------------------------------------------------------------
-- Selections
-----------------------------------------------------------------------------------------

variable {limits : Limits}

/-- A selection with one more clause keeps the rows that satisfy the clause. -/
theorem select_and {table full : Table} {criteria : Criteria} {window : PageWindow}
    (unbounded : window.isUnbounded)
    (selected : select limits table .all criteria window = .ok full)
    {clause : Clause} (known : clause.column ∈ table.columns) (compiles : clause.Compiles limits)
    : select limits table .all (criteria.and clause) window
      = .ok { full with rows := full.rows.filter clause.holds } := by
  obtain ⟨⟨hclauses, hkeys⟩, hcompiles, rfl⟩ := (select_all_eq_ok_iff unbounded).mp selected
  have hboth : (criteria.and clause).holds
      = fun row => clause.holds row && criteria.holds row := by
    funext row
    rw [Criteria.holds_and, Bool.and_comm]
  refine (select_all_eq_ok_iff unbounded).mpr ⟨⟨?_, hkeys⟩, ?_, ?_⟩
  · exact List.forall_mem_append.mpr ⟨hclauses, List.forall_mem_singleton.mpr known⟩
  · exact List.forall_mem_append.mpr ⟨hcompiles, List.forall_mem_singleton.mpr compiles⟩
  · rw [hboth, ← List.filter_filter, filter_sortRows]
    rfl

/-- A selection of every column on one page can be narrowed by any clause that can be run on the
table. The rows that satisfy the clause stay, the others stay if the clause is negated, and
both are in the order in which the selection had them.
-/
theorem select_and_splits {table full : Table} {criteria : Criteria} {window : PageWindow}
    (unbounded : window.isUnbounded)
    (selected : select limits table .all criteria window = .ok full)
    {clause : Clause} (known : clause.column ∈ table.columns) (compiles : clause.Compiles limits)
    : select limits table .all (criteria.and clause) window
        = .ok { full with rows := full.rows.filter fun row => clause.holds row }
      ∧ select limits table .all (criteria.and clause.negate) window
        = .ok { full with rows := full.rows.filter fun row => !clause.holds row } := by
  have hnegated : clause.negate.holds = fun row => !clause.holds row :=
    funext clause.holds_negate
  refine ⟨select_and unbounded selected known compiles, ?_⟩
  rw [← hnegated]
  exact select_and unbounded selected known compiles

/-- The selection is sorted by names, two of its rows are the same, and one row lacks the column
of the clause.
-/
theorem select_and_splits_lacking
    : let columns := ["name", "age", "city"]
      let ada := Row.ofValues columns ["Ada", "9", "Ulm"]
      let bob := Row.ofValues ["name", "city", "pet"] ["Bob", "Ulm", "cat"]
      let cy := Row.ofValues columns ["Cy", "10", "Ulm"]
      let di := Row.ofValues columns ["Di", "9.5", "Rom"]
      let ed := Row.ofValues columns ["Ed", "90", "Aue"]
      let table : Table := { columns, rows := [ada, bob, cy, di, ed, ada] }
      let criteria : Criteria :=
        { clauses := [⟨"city", "R%", true⟩], sortKeys := [⟨"name", .descending⟩] }
      let clause : Clause := ⟨"age", "9%", false⟩
      PageWindow.unbounded.isUnbounded
      ∧ select .lenient table .all criteria .unbounded
        = .ok { table with rows := [ed, cy, bob, ada, ada] }
      ∧ clause.column ∈ table.columns
      ∧ clause.Compiles .lenient
      ∧ select .lenient table .all (criteria.and clause) .unbounded
        = .ok { table with rows := [ed, ada, ada] }
      ∧ select .lenient table .all (criteria.and clause.negate) .unbounded
        = .ok { table with rows := [cy, bob] } := by
  intro columns ada bob cy di ed table criteria clause
  have hunbounded : PageWindow.unbounded.isUnbounded := by decide
  have hknown : clause.column ∈ table.columns := by decide
  have hcompiles : clause.Compiles .lenient := rfl
  have hselect : select .lenient table .all criteria .unbounded
      = .ok { table with rows := [ed, cy, bob, ada, ada] } := by
    have hmatching : table.rows.filter criteria.holds = [ada, bob, cy, ed, ada] := by
      decide +kernel
    have harrangement
        : Arrangement criteria.sortKeys [ada, bob, cy, ed, ada].zipIdx
            [(ed, 3), (cy, 2), (bob, 1), (ada, 0), (ada, 4)] := by
      constructor <;> decide +kernel
    refine (select_all_eq_ok_iff hunbounded).mpr ⟨by decide, fun _ _ => rfl, ?_⟩
    rw [hmatching, sortRows_eq_of_arrangement criteria.sortKeys harrangement]
    rfl
  obtain ⟨hkept, hothers⟩ := select_and_splits hunbounded hselect hknown hcompiles
  have hholds : [ed, cy, bob, ada, ada].filter (fun row => clause.holds row)
      = [ed, ada, ada] := by
    decide +kernel
  have hfails : [ed, cy, bob, ada, ada].filter (fun row => !clause.holds row)
      = [cy, bob] := by
    decide +kernel
  rw [hholds] at hkept
  rw [hfails] at hothers
  exact ⟨hunbounded, hselect, hknown, hcompiles, hkept, hothers⟩

end MailMerge.Select
