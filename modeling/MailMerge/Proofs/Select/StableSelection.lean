import MailMerge.Proofs.Select.RowOrder
import MailMerge.Proofs.Select.Selection

/-! A selection returns the one stable arrangement of the rows that satisfy its criteria.
Rows carry their places in the table, so that equal rows are told apart and the order of
rows that tie can be stated.
-/

namespace MailMerge.Select

/-- An order of placed rows is an arrangement of them if no row stands behind one that the
keys put after it, and rows that tie stand in the order of their places.
-/
structure Arrangement (keys : List SortKey) (source order : List (Row × Nat)) : Prop where
  /-- Each placed row of the source is there, and nothing else is. -/
  complete : order.Perm source
  sorted : order.Pairwise fun left right => compareRows keys left.1 right.1 ≠ .gt
  stable
    : order.Pairwise fun left right =>
        compareRows keys left.1 right.1 = .eq → left.2 < right.2

/-- The rows are an arrangement of the placed rows, read without their places. -/
def Arranges (keys : List SortKey) (source : List (Row × Nat)) (rows : List Row) : Prop :=
  ∃ order, Arrangement keys source order ∧ order.map Prod.fst = rows

/-- The rows of a table that satisfy the criteria, each with its place in the table. -/
def Criteria.matches (criteria : Criteria) (table : Table) : List (Row × Nat) :=
  table.rows.zipIdx.filter fun placed => criteria.holds placed.1

-----------------------------------------------------------------------------------------
-- Arrangements are unique
-----------------------------------------------------------------------------------------

/-- At most one order of placed rows is an arrangement of them: two rows that could stand
either way round would tie, and each would have the earlier place.
-/
theorem Arrangement.unique {keys : List SortKey} {source first second : List (Row × Nat)}
    (left : Arrangement keys source first) (right : Arrangement keys source second)
    : first = second := by
  refine List.Perm.eq_of_pairwise ?_ (left.sorted.and left.stable)
    (right.sorted.and right.stable) (left.complete.trans right.complete.symm)
  rintro a b - - ⟨hab, htie⟩ ⟨hba, htie'⟩
  have hswap : compareRows keys a.1 b.1 = (compareRows keys b.1 a.1).swap :=
    Std.OrientedCmp.eq_swap
  have heq : compareRows keys a.1 b.1 = .eq := by
    cases h : compareRows keys b.1 a.1 <;> simp_all
  have hplace := htie heq
  have hplace' := htie' (Std.OrientedCmp.eq_symm heq)
  omega

theorem Arranges.unique {keys : List SortKey} {source : List (Row × Nat)}
    {first second : List Row} (left : Arranges keys source first)
    (right : Arranges keys source second)
    : first = second := by
  obtain ⟨order, horder, rfl⟩ := left
  obtain ⟨order', horder', rfl⟩ := right
  rw [horder.unique horder']

-----------------------------------------------------------------------------------------
-- Sorting arranges
-----------------------------------------------------------------------------------------

section

variable (keys : List SortKey)

/-- The order of placed rows by their rows alone. -/
def placedLE (left right : Row × Nat) : Bool :=
  (compareRows keys left.1 right.1).isLE

theorem placedLE_trans (first second third : Row × Nat) (left : placedLE keys first second)
    (right : placedLE keys second third)
    : placedLE keys first third :=
  Std.TransCmp.isLE_trans left right

theorem placedLE_total (left right : Row × Nat)
    : placedLE keys left right || placedLE keys right left :=
  compareRows_isLE_total keys left.1 right.1

/-- Rows that tie stay in the order in which they came, whatever else that order was: sorting
puts the first row in front of every later one that it ties with. By induction on the rows.
-/
theorem stable_mergeSort {relation : Row × Nat → Row × Nat → Prop} (source : List (Row × Nat))
    (ordered : source.Pairwise relation)
    : (source.mergeSort (placedLE keys)).Pairwise fun left right =>
        compareRows keys left.1 right.1 = .eq → relation left right := by
  induction source with
  | nil => simp
  | cons first rest ih =>
      obtain ⟨hfirst, hrest⟩ := List.pairwise_cons.1 ordered
      obtain ⟨front, back, hsort, htail, hfront⟩ :=
        List.mergeSort_cons (placedLE_trans keys) (placedLE_total keys) first rest
      have hih := ih hrest
      rw [htail, List.pairwise_append] at hih
      obtain ⟨hf, hb, hfb⟩ := hih
      have hback (other : Row × Nat) (member : other ∈ back) : relation first other := by
        have hmem : other ∈ rest.mergeSort (placedLE keys) := by
          rw [htail]
          exact List.mem_append_right front member
        exact hfirst other (List.mem_mergeSort.1 hmem)
      -- A row that sorts in front of the first one is strictly smaller, so it does not tie.
      have hstrict (other : Row × Nat) (member : other ∈ front)
          : compareRows keys other.1 first.1 ≠ .eq := by
        intro htie
        have hle := hfront other member
        rw [placedLE, Std.OrientedCmp.eq_symm htie] at hle
        cases hle
      rw [hsort, List.pairwise_append]
      refine ⟨hf, List.pairwise_cons.2 ⟨fun other member _ => hback other member, hb⟩, ?_⟩
      intro other member later hlater
      rcases List.mem_cons.1 hlater with rfl | hlater
      · exact fun htie => absurd htie (hstrict other member)
      · exact hfb other member later hlater

/-- No row is sorted behind one that the keys put after it. -/
theorem sorted_mergeSort (source : List (Row × Nat))
    : (source.mergeSort (placedLE keys)).Pairwise fun left right =>
        compareRows keys left.1 right.1 ≠ .gt :=
  (List.pairwise_mergeSort (placedLE_trans keys) (placedLE_total keys) source).imp
    Ordering.ne_gt_iff_isLE.mpr

/-- Sorting arranges rows whose places ascend. -/
theorem arranges_sortRows (source : List (Row × Nat))
    (ascending : source.Pairwise fun left right => left.2 < right.2)
    : Arranges keys source (sortRows keys (source.map Prod.fst)) := by
  refine ⟨source.mergeSort (placedLE keys), ?_, List.map_mergeSort fun _ _ _ _ => rfl⟩
  exact ⟨List.mergeSort_perm source _, sorted_mergeSort keys source,
    stable_mergeSort keys source ascending⟩

/-- The places of rows ascend. -/
theorem ascending_zipIdx (rows : List Row)
    : rows.zipIdx.Pairwise fun left right => left.2 < right.2 := by
  refine List.pairwise_map.1 ?_
  rw [List.zipIdx_map_snd]
  exact List.pairwise_lt_range'

theorem arranges_zipIdx (rows : List Row)
    : Arranges keys rows.zipIdx (sortRows keys rows) := by
  have harranges := arranges_sortRows keys rows.zipIdx (ascending_zipIdx rows)
  rwa [List.zipIdx_map_fst] at harranges

/-- An arrangement of the rows with their places is what sorting makes of them. -/
theorem sortRows_eq_of_arrangement {rows : List Row} {order : List (Row × Nat)}
    (h : Arrangement keys rows.zipIdx order)
    : sortRows keys rows = order.map Prod.fst :=
  (arranges_zipIdx keys rows).unique ⟨order, h, rfl⟩

end

-----------------------------------------------------------------------------------------
-- Selections
-----------------------------------------------------------------------------------------

/-- Places in a table ascend, and leaving rows out does not change that. -/
theorem Criteria.matches_ascending (criteria : Criteria) (table : Table)
    : (criteria.matches table).Pairwise fun left right => left.2 < right.2 :=
  (ascending_zipIdx table.rows).filter _

theorem Criteria.map_fst_matches (criteria : Criteria) (table : Table)
    : (criteria.matches table).map Prod.fst = table.rows.filter criteria.holds := by
  calc
    (criteria.matches table).map Prod.fst
        = (table.rows.zipIdx.map Prod.fst).filter criteria.holds := by
      rw [List.filter_map]
      rfl
    _ = table.rows.filter criteria.holds := by rw [List.zipIdx_map_fst]

/-- Selecting every column on one page succeeds whenever the table has the columns of the
criteria and their patterns compile. The rows returned are the only arrangement of the rows
that satisfy the criteria, and without sort keys these rows stay in the order of the table.
-/
theorem select_arranges_uniquely (limits : Limits) (table : Table) (criteria : Criteria)
    (window : PageWindow) (known : ∀ column ∈ criteria.columns, column ∈ table.columns)
    (compiles : ∀ clause ∈ criteria.clauses, clause.Compiles limits)
    (unbounded : window.isUnbounded)
    : ∃ rows, select limits table .all criteria window = .ok { table with rows }
        ∧ Arranges criteria.sortKeys (criteria.matches table) rows
        ∧ (∀ other, Arranges criteria.sortKeys (criteria.matches table) other → other = rows)
        ∧ (criteria.sortKeys = [] → rows = table.rows.filter criteria.holds) := by
  have harranges :=
    arranges_sortRows criteria.sortKeys (criteria.matches table)
      (criteria.matches_ascending table)
  rw [criteria.map_fst_matches] at harranges
  refine ⟨_, ?_, harranges, fun other h => h.unique harranges, ?_⟩
  · rw [select_eq_ok_iff]
    refine ⟨?_, compiles, ?_⟩
    · simpa [namedColumns, Projection.requested] using known
    · simp [Projection.shown, PageWindow.apply, unbounded]
  · intro hkeys
    rw [hkeys, sortRows_nil]

/-- A descending and an ascending key, a row without an age, and two rows that tie: the one
order that arranges the rows is the one selected.
-/
theorem select_arranges_uniquely_mixed
    : let columns := ["name", "age", "city"]
      let ada := Row.ofValues columns ["Ada", "9", "Ulm"]
      let bob := Row.ofValues ["name", "city", "pet"] ["Bob", "Ulm", "cat"]
      let cy := Row.ofValues columns ["Cy", "10", "Ulm"]
      let di := Row.ofValues columns ["Di", "9", "Aue"]
      let ed := Row.ofValues columns ["Ed", "9.0", "Ulm"]
      let fay := Row.ofValues columns ["Fay", "30", "Rom"]
      let table : Table := { columns, rows := [ada, bob, cy, di, ed, fay] }
      let criteria : Criteria :=
        {
          clauses := [⟨"city", "R%", true⟩]
          sortKeys := [⟨"age", .descending⟩, ⟨"city", .ascending⟩]
        }
      (∀ column ∈ criteria.columns, column ∈ table.columns)
      ∧ (∀ clause ∈ criteria.clauses, clause.Compiles .lenient)
      ∧ PageWindow.unbounded.isUnbounded
      ∧ select .lenient table .all criteria .unbounded
          = .ok { table with rows := [bob, cy, di, ada, ed] } := by
  intro columns ada bob cy di ed fay table criteria
  have hknown : ∀ column ∈ criteria.columns, column ∈ table.columns := by decide +kernel
  have hcompiles : ∀ clause ∈ criteria.clauses, clause.Compiles .lenient := fun _ _ => rfl
  have hunbounded : PageWindow.unbounded.isUnbounded := by decide
  have harrangement
      : Arrangement criteria.sortKeys (criteria.matches table)
          [(bob, 1), (cy, 2), (di, 3), (ada, 0), (ed, 4)] := by
    constructor <;> decide +kernel
  obtain ⟨rows, hselect, -, hunique, -⟩ :=
    select_arranges_uniquely .lenient table criteria .unbounded hknown hcompiles hunbounded
  rw [hselect, ← hunique [bob, cy, di, ada, ed] ⟨_, harrangement, rfl⟩]
  exact ⟨hknown, hcompiles, hunbounded, rfl⟩

end MailMerge.Select
