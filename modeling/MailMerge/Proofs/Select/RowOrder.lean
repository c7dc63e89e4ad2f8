import MailMerge.Select.Query

/-! Cells and rows are in a total preorder. A cell stands in one of three classes, and
within its class it is compared as a number or as text; keys carry the order of cells over
to rows one after the other. So sorting has an order to sort by, whatever the keys are.
-/

namespace MailMerge.Select

open Std

/-- A comparison puts all that it compares into one order, in which different things may tie. -/
structure TotalPreorder {α : Type} (order : α → α → Ordering) : Prop where
  /-- Comparing the other way round gives the reverse. -/
  swap (a b : α) : order a b = (order b a).swap
  notGreater_trans (a b c : α) (left : order a b ≠ .gt) (right : order b c ≠ .gt)
    : order a c ≠ .gt
  equal_trans (a b c : α) (left : order a b = .eq) (right : order b c = .eq)
    : order a c = .eq
  total (a b : α) : order a b ≠ .gt ∨ order b a ≠ .gt

theorem TotalPreorder.of_transCmp {α : Type} (order : α → α → Ordering) [TransCmp order]
    : TotalPreorder order where
  swap _ _ := OrientedCmp.eq_swap
  notGreater_trans a b c left right := by
    have hle : (order a c).isLE :=
      TransCmp.isLE_trans (Ordering.ne_gt_iff_isLE.mp left) (Ordering.ne_gt_iff_isLE.mp right)
    exact Ordering.ne_gt_iff_isLE.mpr hle
  equal_trans _ _ _ left right := TransCmp.eq_trans left right
  total a b := by
    rw [(OrientedCmp.eq_swap : order b a = _)]
    cases order a b <;> simp

-----------------------------------------------------------------------------------------
-- Cells
-----------------------------------------------------------------------------------------

/-- The class of a cell: numbers come first, then other text, and empty cells come last. -/
def cellClass (cell : String) : Nat :=
  if cell = "" then 2 else if (numberRank? cell).isSome then 0 else 1

/-- The rank of a cell of the first class, and nothing for other cells. -/
def cellNumber (cell : String) : Int :=
  if cell = "" then 0 else (numberRank? cell).getD 0

/-- The text of a cell of the second class, and nothing for other cells. -/
def cellWording (cell : String) : String :=
  if (numberRank? cell).isSome then "" else cell

/-- Comparing cells is comparing their classes, then their numbers, then their texts. -/
theorem compareCells_eq_lex
    : compareCells
      = compareLex (compareOn cellClass)
          (compareLex (compareOn cellNumber) (compareOn cellWording)) := by
  funext left right
  by_cases hl : left = "" <;> by_cases hr : right = ""
  case pos =>
    simp [compareCells, compareLex, compareOn, cellClass, cellNumber, cellWording, hl, hr]
  all_goals
    -- What is left depends on which of the two cells are numbers.
    cases hx : numberRank? left <;> cases hy : numberRank? right <;>
      simp_all [compareCells, compareLex, compareOn, cellClass, cellNumber, cellWording] <;> rfl

instance : TransCmp compareCells := by
  rw [compareCells_eq_lex]
  infer_instance

-----------------------------------------------------------------------------------------
-- Keys and rows
-----------------------------------------------------------------------------------------

/-- A descending key compares the two cells the other way round. -/
theorem SortKey.compare_descending (column left right : String)
    : SortKey.compare ⟨column, .descending⟩ left right = compareCells right left :=
  OrientedCmp.eq_swap.symm

instance (key : SortKey) : TransCmp key.compare := by
  obtain ⟨column, _ | _⟩ := key
  · exact inferInstanceAs (TransCmp compareCells)
  · have turned : SortKey.compare ⟨column, .descending⟩
        = fun left right => compareCells right left := by
      funext left right
      exact SortKey.compare_descending column left right
    rw [turned]
    infer_instance

/-- The order by one key compares rows by what they hold in its column. -/
def SortKey.compareRows (key : SortKey) (left right : Row) : Ordering :=
  key.compare (left.text key.column) (right.text key.column)

instance (key : SortKey) : TransCmp key.compareRows where
  eq_swap {left right} := by
    unfold SortKey.compareRows
    exact OrientedCmp.eq_swap
  isLE_trans {first second third} hl hr := by
    unfold SortKey.compareRows at hl hr ⊢
    exact TransCmp.isLE_trans hl hr

theorem compareRows_cons (key : SortKey) (keys : List SortKey)
    : compareRows (key :: keys) = compareLex key.compareRows (compareRows keys) :=
  rfl

/-- Every list of keys puts rows in a total preorder, by induction on the keys. -/
instance compareRows_trans (keys : List SortKey) : TransCmp (compareRows keys) := by
  induction keys with
  | nil => exact { eq_swap := rfl, isLE_trans := fun _ _ => rfl }
  | cons key keys ih =>
      rw [compareRows_cons]
      infer_instance

theorem compareRows_isLE_total (keys : List SortKey) (left right : Row)
    : (compareRows keys left right).isLE || (compareRows keys right left).isLE := by
  rw [(OrientedCmp.eq_swap : compareRows keys right left = _)]
  cases compareRows keys left right <;> rfl

/-- Rows without a key to tell them apart stay where they are. -/
theorem sortRows_nil (rows : List Row) : sortRows [] rows = rows :=
  List.mergeSort_of_pairwise (List.pairwise_of_forall fun _ _ => rfl)

-----------------------------------------------------------------------------------------
-- The order of cells and of rows
-----------------------------------------------------------------------------------------

/-- A cell holds a number if it is a finite one once the white space around it is gone. -/
def HoldsNumber (cell : String) : Prop :=
  (numberRank? cell).isSome

instance : DecidablePred HoldsNumber :=
  fun cell => inferInstanceAs (Decidable ((numberRank? cell).isSome = true))

theorem HoldsNumber.ne_empty {cell : String} (h : HoldsNumber cell) : cell ≠ "" := by
  rintro rfl
  cases h

theorem compareCells_number_text {number text : String} (holds : HoldsNumber number)
    (filled : text ≠ "") (other : ¬ HoldsNumber text)
    : compareCells number text = .lt := by
  obtain ⟨rank, hrank⟩ := Option.isSome_iff_exists.mp holds
  have hnone : numberRank? text = none := Option.not_isSome_iff_eq_none.mp other
  simp [compareCells, holds.ne_empty, filled, hrank, hnone]

theorem compareCells_empty {cell : String} (filled : cell ≠ "")
    : compareCells cell "" = .lt := by
  simp [compareCells, filled]

/-- Comparing puts all cells into one order, numbers before other text and empty cells behind
both, and it puts all rows into one order by whatever keys, each of them with a direction of
its own and for a column that rows may lack.
-/
theorem totalPreorder_cells_rows
    : TotalPreorder compareCells
      ∧ (∀ number text : String,
          HoldsNumber number → text ≠ "" → ¬ HoldsNumber text
          → compareCells number text = .lt)
      ∧ (∀ cell : String, cell ≠ "" → compareCells cell "" = .lt)
      ∧ ∀ keys : List SortKey, TotalPreorder (compareRows keys) := by
  refine ⟨.of_transCmp compareCells, ?_, ?_, ?_⟩
  · intro number text holds filled other
    exact compareCells_number_text holds filled other
  · intro cell filled
    exact compareCells_empty filled
  · intro keys
    exact .of_transCmp (compareRows keys)

/-- Three spellings of one number tie, and text that only starts with a number is not one. A
descending key puts the row without an age first, and rows of one age are told apart by name.
-/
theorem totalPreorder_cells_rows_spellings
    : let keys : List SortKey := [⟨"age", .descending⟩, ⟨"name", .ascending⟩]
      let ada := Row.ofValues ["name", "age"] ["Ada", "1"]
      let bob : Row := { cells := [("pet", "cat"), ("age", " 1.0"), ("name", "Bob")] }
      let cy := Row.ofValues ["name"] ["Cy"]
      (compareCells "1" " 1.0" = .eq
        ∧ compareCells " 1.0" "1e0" = .eq
        ∧ compareCells "1" "1e0" = .eq)
      ∧ (HoldsNumber "-2e3" ∧ ¬ HoldsNumber "1a" ∧ compareCells "-2e3" "1a" = .lt)
      ∧ compareCells "1a" "" = .lt
      ∧ (compareRows keys cy ada ≠ .gt
        ∧ compareRows keys ada bob ≠ .gt
        ∧ compareRows keys cy bob ≠ .gt) := by
  intro keys ada bob cy
  obtain ⟨hcells, hnumbers, hempty, hrows⟩ := totalPreorder_cells_rows
  have hspelling : compareCells "1" " 1.0" = .eq := by decide +kernel
  have hspelling' : compareCells " 1.0" "1e0" = .eq := by decide +kernel
  have hnumber : HoldsNumber "-2e3" := by decide +kernel
  have htext : ¬ HoldsNumber "1a" := by decide +kernel
  have hfilled : "1a" ≠ "" := by decide
  have hlacking : compareRows keys cy ada ≠ .gt := by decide +kernel
  have hnames : compareRows keys ada bob ≠ .gt := by decide +kernel
  exact ⟨⟨hspelling, hspelling', hcells.equal_trans _ _ _ hspelling hspelling'⟩,
    ⟨hnumber, htext, hnumbers _ _ hnumber hfilled htext⟩,
    hempty _ hfilled,
    hlacking, hnames, (hrows keys).notGreater_trans _ _ _ hlacking hnames⟩

end MailMerge.Select
