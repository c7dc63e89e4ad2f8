import MailMerge.Proofs.Select.StableSelection

/-! Sorting by several keys is sorting by one after the other, the last key first. Each sort
is stable, so rows that tie by its key keep the order that the later keys have put them in.
-/

namespace MailMerge.Select

-----------------------------------------------------------------------------------------
-- One more key
-----------------------------------------------------------------------------------------

/-- The later keys decide where the first one does not. -/
theorem compareRows_cons_eq_then (key : SortKey) (keys : List SortKey) (left right : Row)
    : compareRows (key :: keys) left right
      = (compareRows [key] left right).then (compareRows keys left right) := by
  simp only [compareRows, Ordering.then_eq]

/-- Sorting an arrangement by one more key arranges the rows by that key and then by the old
ones: where the new key ties, the arrangement is left as it was.
-/
theorem Arrangement.cons {keys : List SortKey} {source order : List (Row × Nat)}
    (h : Arrangement keys source order) (key : SortKey)
    : Arrangement (key :: keys) source (order.mergeSort (placedLE [key])) := by
  have hsorted := sorted_mergeSort [key] order
  have hties := stable_mergeSort [key] order (h.sorted.and h.stable)
  refine ⟨(List.mergeSort_perm order _).trans h.complete, ?_, ?_⟩
  · refine (hsorted.and hties).imp ?_
    rintro left right ⟨hbehind, htie⟩
    rw [compareRows_cons_eq_then]
    cases hkey : compareRows [key] left.1 right.1 with
    | lt => simp
    | eq => exact (htie hkey).1
    | gt => exact absurd hkey hbehind
  · refine hties.imp ?_
    intro left right htie heq
    rw [compareRows_cons_eq_then, Ordering.then_eq_eq] at heq
    exact (htie heq.1).2 heq.2

/-- The first of several keys can be sorted by last. -/
theorem sortRows_cons (key : SortKey) (keys : List SortKey) (rows : List Row)
    : sortRows (key :: keys) rows = sortRows [key] (sortRows keys rows) := by
  obtain ⟨order, horder, hrows⟩ := arranges_zipIdx keys rows
  calc
    sortRows (key :: keys) rows
        = (order.mergeSort (placedLE [key])).map Prod.fst :=
      sortRows_eq_of_arrangement (key :: keys) (horder.cons key)
    _ = sortRows [key] (order.map Prod.fst) := List.map_mergeSort fun _ _ _ _ => rfl
    _ = sortRows [key] (sortRows keys rows) := by rw [hrows]

-----------------------------------------------------------------------------------------
-- Selections
-----------------------------------------------------------------------------------------

/-- Selects by each key alone, the last key first, every time from what was selected before. -/
def selectInTurn (limits : Limits) (window : PageWindow) (table : Table)
    : List SortKey → Except SelectError Table
  | [] => .ok table
  | key :: keys => do
      let sorted ← selectInTurn limits window table keys
      select limits sorted .all { clauses := [], sortKeys := [key] } window

/-- Selecting by each key alone sorts by all of them, by induction on the keys. -/
theorem selectInTurn_eq_ok {limits : Limits} {window : PageWindow}
    (unbounded : window.isUnbounded) (table : Table) (keys : List SortKey)
    (known : ∀ key ∈ keys, key.column ∈ table.columns)
    : selectInTurn limits window table keys
      = .ok { table with rows := sortRows keys table.rows } := by
  induction keys with
  | nil => rw [selectInTurn, sortRows_nil]
  | cons key keys ih =>
      obtain ⟨hkey, hkeys⟩ := List.forall_mem_cons.mp known
      have hall : (Criteria.mk [] [key]).holds = fun _ => true := rfl
      rw [selectInTurn, ih hkeys, Outcome.bind_eq_ok_iff]
      refine ⟨_, rfl, (select_all_eq_ok_iff unbounded).mpr ⟨?_, by simp, ?_⟩⟩
      · exact ⟨by simp, by simpa using hkey⟩
      · rw [hall, List.filter_eq_self.mpr fun _ _ => rfl, ← sortRows_cons]

/-- Selecting every column on one page with several sort keys succeeds, and so does selecting
with the clauses alone and then by each key alone, the last key first. Both return the same
rows in the same order.
-/
theorem select_eq_selectInTurn (limits : Limits) (table : Table) (clauses : List Clause)
    (keys : List SortKey) {window : PageWindow} (unbounded : window.isUnbounded)
    (clausesKnown : ∀ clause ∈ clauses, clause.column ∈ table.columns)
    (keysKnown : ∀ key ∈ keys, key.column ∈ table.columns)
    (compiles : ∀ clause ∈ clauses, clause.Compiles limits)
    : ∃ chosen sorted,
        select limits table .all { clauses, sortKeys := [] } window = .ok chosen
        ∧ select limits table .all { clauses, sortKeys := keys } window = .ok sorted
        ∧ selectInTurn limits window chosen keys = .ok sorted := by
  let matching := table.rows.filter (Criteria.mk clauses keys).holds
  refine ⟨{ table with rows := matching }, { table with rows := sortRows keys matching },
    ?_, ?_, selectInTurn_eq_ok unbounded _ keys keysKnown⟩
  · refine (select_all_eq_ok_iff unbounded).mpr ⟨⟨clausesKnown, by simp⟩, compiles, ?_⟩
    rw [sortRows_nil]
    rfl
  · exact (select_all_eq_ok_iff unbounded).mpr ⟨⟨clausesKnown, keysKnown⟩, compiles, rfl⟩

/-- Keys in both directions, one column twice, a row without an age, and two rows that tie by
every key.
-/
theorem select_eq_selectInTurn_mixed
    : let columns := ["name", "age", "city"]
      let ada := Row.ofValues columns ["Ada", "9", "Ulm"]
      let bob := Row.ofValues ["name", "city", "pet"] ["Bob", "Ulm", "cat"]
      let cy := Row.ofValues columns ["Cy", "10", "Ulm"]
      let di := Row.ofValues columns ["Di", "9", "Aue"]
      let ed := Row.ofValues columns ["Ed", "9.0", "Ulm"]
      let fay := Row.ofValues columns ["Fay", "30", "Rom"]
      let table : Table := { columns, rows := [ada, bob, cy, di, ed, fay] }
      let clauses : List Clause := [⟨"city", "R%", true⟩]
      let keys : List SortKey :=
        [⟨"city", .descending⟩, ⟨"age", .ascending⟩, ⟨"city", .ascending⟩]
      let chosen : Table := { table with rows := [ada, bob, cy, di, ed] }
      let sorted : Table := { table with rows := [ada, ed, cy, bob, di] }
      PageWindow.unbounded.isUnbounded
      ∧ (∀ clause ∈ clauses, clause.column ∈ table.columns)
      ∧ (∀ key ∈ keys, key.column ∈ table.columns)
      ∧ (∀ clause ∈ clauses, clause.Compiles .lenient)
      ∧ select .lenient table .all { clauses, sortKeys := [] } .unbounded = .ok chosen
      ∧ select .lenient table .all { clauses, sortKeys := keys } .unbounded = .ok sorted
      ∧ selectInTurn .lenient .unbounded chosen keys = .ok sorted := by
  intro columns ada bob cy di ed fay table clauses keys chosen sorted
  have hunbounded : PageWindow.unbounded.isUnbounded := by decide
  have hclauses : ∀ clause ∈ clauses, clause.column ∈ table.columns := by decide
  have hkeys : ∀ key ∈ keys, key.column ∈ table.columns := by decide
  have hcompiles : ∀ clause ∈ clauses, clause.Compiles .lenient := fun _ _ => rfl
  have hmatching : table.rows.filter (Criteria.mk clauses []).holds = [ada, bob, cy, di, ed] := by
    decide +kernel
  have hmatching' : table.rows.filter (Criteria.mk clauses keys).holds = [ada, bob, cy, di, ed] :=
    hmatching
  have hchosen
      : select .lenient table .all { clauses, sortKeys := [] } .unbounded = .ok chosen := by
    refine (select_all_eq_ok_iff hunbounded).mpr ⟨⟨hclauses, by simp⟩, hcompiles, ?_⟩
    rw [hmatching, sortRows_nil]
  have hsorted
      : select .lenient table .all { clauses, sortKeys := keys } .unbounded = .ok sorted := by
    have harrangement
        : Arrangement keys [ada, bob, cy, di, ed].zipIdx
            [(ada, 0), (ed, 4), (cy, 2), (bob, 1), (di, 3)] := by
      constructor <;> decide +kernel
    refine (select_all_eq_ok_iff hunbounded).mpr ⟨⟨hclauses, hkeys⟩, hcompiles, ?_⟩
    rw [hmatching', sortRows_eq_of_arrangement keys harrangement]
    rfl
  obtain ⟨first, last, hfirst, hlast, hturn⟩ :=
    select_eq_selectInTurn .lenient table clauses keys hunbounded hclauses hkeys hcompiles
  obtain rfl : chosen = first := Except.ok.inj (hchosen.symm.trans hfirst)
  obtain rfl : sorted = last := Except.ok.inj (hsorted.symm.trans hlast)
  exact ⟨hunbounded, hclauses, hkeys, hcompiles, hchosen, hsorted, hturn⟩

end MailMerge.Select
