import MailMerge.Proofs.Select.StableSelection

/-! A walk over the pages of a selection starts at the first one and goes on as long as the
page at hand is full. It comes to an end, and its pages together are the selection that has
every row on one page.
-/

namespace MailMerge.Select

/-- No list holds more rows than this. -/
def maxRows : Nat := 0x7FFFFFFFFFFFFFFF

/-- `Walk fetch window pages` says that a walk from the window comes to an end and goes over
the pages, each of them fetched anew.
-/
inductive Walk (fetch : PageWindow → Except SelectError Table)
    : PageWindow → List Table → Prop
  | last {window page} (fetched : fetch window = .ok page)
    (partly : window.hasNext page.rows.length = false)
    : Walk fetch window [page]
  | more {window page pages} (fetched : fetch window = .ok page)
    (full : window.hasNext page.rows.length = true) (rest : Walk fetch window.next pages)
    : Walk fetch window (page :: pages)

/-- The pages of a limit hold the rows of a table in order, with its columns. There is one more
than the rows fill, which holds what is left over, if anything.
-/
structure Pages (limit : Nat) (table : Table) (pages : List Table) : Prop where
  count : pages.length = table.rows.length / limit + 1
  limited : ∀ page ∈ pages, page.rows.length ≤ limit
  columns : ∀ page ∈ pages, page.columns = table.columns
  joined : pages.flatMap Table.rows = table.rows

/-- A walk has no choices, by induction on one of two walks. -/
theorem Walk.unique {fetch : PageWindow → Except SelectError Table} {window : PageWindow}
    {first second : List Table} (left : Walk fetch window first)
    (right : Walk fetch window second)
    : first = second := by
  induction left generalizing second with
  | last fetched partly =>
      cases right with
      | last fetched' =>
          cases fetched.symm.trans fetched'
          rfl
      | more fetched' full =>
          cases fetched.symm.trans fetched'
          cases partly.symm.trans full
  | more fetched full _ ih =>
      cases right with
      | last fetched' partly =>
          cases fetched.symm.trans fetched'
          cases partly.symm.trans full
      | more fetched' _ rest =>
          cases fetched.symm.trans fetched'
          rw [ih rest]

-----------------------------------------------------------------------------------------
-- Windows
-----------------------------------------------------------------------------------------

namespace PageWindow

theorem apply_map {α β : Type} (window : PageWindow) (f : α → β) (items : List α)
    : window.apply (items.map f) = (window.apply items).map f := by
  unfold apply
  split
  · rfl
  · rw [← List.map_drop, ← List.map_take]

@[simp]
theorem apply_unbounded {α : Type} (items : List α) : unbounded.apply items = items :=
  rfl

/-- A window stands at the page that so many full pages are before. -/
structure StandsAt (window : PageWindow) (limit index : Nat) : Prop where
  limit : window.limit.toNat = limit
  page : window.page.toNat = index + 1

theorem page_of (limit page : UInt64) : (of limit page).page.toNat = max page.toNat 1 := by
  have hmax : (of limit page).page = if page ≤ 1 then 1 else page := rfl
  rw [hmax]
  split
  · rename_i hle
    have hle : page.toNat ≤ 1 := UInt64.le_iff_toNat_le.mp hle
    rw [Nat.max_eq_right hle]
    rfl
  · rename_i hle
    have hlt : ¬ page.toNat ≤ 1 := fun h => hle (UInt64.le_iff_toNat_le.mpr h)
    omega

namespace StandsAt

theorem first (limit : UInt64) : (of limit 1).StandsAt limit.toNat 0 :=
  ⟨rfl, rfl⟩

variable {window : PageWindow} {limit index : Nat}

theorem isUnbounded (stands : window.StandsAt limit index) (positive : 0 < limit)
    : window.isUnbounded = false := by
  have hlimit : window.limit ≠ 0 := by
    intro h
    have hzero := stands.limit
    rw [h] at hzero
    exact Nat.ne_of_lt positive hzero
  simpa [PageWindow.isUnbounded] using hlimit

/-- A window cuts its page out of the rows where the rows before it can be counted. -/
theorem apply_eq {α : Type} (stands : window.StandsAt limit index) (positive : 0 < limit)
    (counted : index * limit ≤ maxCount) (items : List α)
    : window.apply items = (items.drop (index * limit)).take limit := by
  have hoffset : window.offset = index * limit := by
    rw [offset, stands.isUnbounded positive, stands.page, stands.limit, Nat.add_sub_cancel,
      clampCount, Nat.min_eq_left counted]
    rfl
  rw [apply, stands.isUnbounded positive, hoffset, stands.limit]
  rfl

/-- A window goes on behind a full page. -/
theorem hasNext_eq (stands : window.StandsAt limit index) (positive : 0 < limit)
    (returned : Nat)
    : window.hasNext returned = decide (returned = limit) := by
  rw [hasNext, stands.isUnbounded positive, stands.limit]
  rfl

/-- Pages are counted on as long as they can be counted. -/
theorem next (stands : window.StandsAt limit index) (counted : index + 1 < maxCount)
    : window.next.StandsAt limit (index + 1) where
  limit := stands.limit
  page := by
    have hsize : index + 1 + 1 < UInt64.size := Nat.succ_lt_succ counted
    rw [PageWindow.next, page_of, stands.page, clampCount,
      Nat.min_eq_left counted, UInt64.toNat_ofNat_of_lt' hsize]
    omega

end StandsAt

end PageWindow

-----------------------------------------------------------------------------------------
-- Pages
-----------------------------------------------------------------------------------------

/-- Rows that do not fill a page are the last page. -/
theorem Pages.last {limit : Nat} {table : Table} (partly : table.rows.length < limit)
    : Pages limit table [table] where
  count := by simp [Nat.div_eq_of_lt partly]
  limited := by simpa using Nat.le_of_lt partly
  columns := by simp
  joined := by simp

/-- A full page in front of pages is one page more. -/
theorem Pages.cons {limit : Nat} {rest : Table} {pages : List Table}
    (h : Pages limit rest pages) (page : Table) (positive : 0 < limit)
    (full : page.rows.length = limit) (columns : page.columns = rest.columns)
    : Pages limit { rest with rows := page.rows ++ rest.rows } (page :: pages) where
  count := by
    rw [List.length_cons, h.count, List.length_append, full, Nat.add_div_left _ positive]
  limited := List.forall_mem_cons.mpr ⟨Nat.le_of_eq full, h.limited⟩
  columns := List.forall_mem_cons.mpr ⟨columns, h.columns⟩
  joined := by rw [List.flatMap_cons, h.joined]

/-- From a window on, a walk goes over the pages of the rows that are not before it. -/
def WalksFrom (fetch : PageWindow → Except SelectError Table) (table : Table)
    (limit index : Nat) (window : PageWindow) : Prop :=
  ∃ pages,
    Walk fetch window pages
    ∧ Pages limit { table with rows := table.rows.drop (index * limit) } pages

section

variable {fetch : PageWindow → Except SelectError Table} {table : Table}
  (fetches : ∀ window, fetch window = .ok { table with rows := window.apply table.rows })
  {limit index : Nat} (positive : 0 < limit) {window : PageWindow}
  (stands : window.StandsAt limit index) (counted : index * limit ≤ maxCount)
include fetches positive stands counted

/-- A walk ends where the rows that are left do not fill a page. -/
theorem walksFrom_last (partly : (table.rows.drop (index * limit)).length < limit)
    : WalksFrom fetch table limit index window := by
  have fetched := fetches window
  rw [stands.apply_eq positive counted, List.take_of_length_le (Nat.le_of_lt partly)] at fetched
  refine ⟨_, .last fetched ?_, .last partly⟩
  rw [stands.hasNext_eq positive]
  exact decide_eq_false (Nat.ne_of_lt partly)

/-- A walk goes on where the rows that are left fill a page. -/
theorem walksFrom_more (full : limit ≤ (table.rows.drop (index * limit)).length)
    (rest : WalksFrom fetch table limit (index + 1) window.next)
    : WalksFrom fetch table limit index window := by
  obtain ⟨pages, walk, hpages⟩ := rest
  have fetched := fetches window
  rw [stands.apply_eq positive counted] at fetched
  have hlength : ((table.rows.drop (index * limit)).take limit).length = limit := by
    rw [List.length_take, Nat.min_eq_left full]
  refine ⟨_, .more fetched ?_ walk, ?_⟩
  · rw [stands.hasNext_eq positive]
    exact decide_eq_true hlength
  · rw [Nat.succ_mul, ← List.drop_drop] at hpages
    have h := hpages.cons { table with rows := _ } positive hlength rfl
    rw [List.take_append_drop] at h
    exact h

end

/-- A walk comes to an end, by induction on the number of rows that are left. Neither the pages
nor the rows before them outgrow what can be counted.
-/
theorem walksFrom {fetch : PageWindow → Except SelectError Table} {table : Table}
    (fetches : ∀ window, fetch window = .ok { table with rows := window.apply table.rows })
    (size : table.rows.length ≤ maxRows) {limit index : Nat} (positive : 0 < limit)
    {window : PageWindow} (stands : window.StandsAt limit index)
    (within : index * limit ≤ table.rows.length)
    : WalksFrom fetch table limit index window := by
  generalize hleft : table.rows.length - index * limit = left
  induction left using Nat.strongRecOn generalizing window index with
  | _ left ih =>
      have hcounts : maxRows + 1 < maxCount := by decide
      have hindex : index ≤ index * limit := Nat.le_mul_of_pos_right index positive
      have hdrop := List.length_drop (i := index * limit) (l := table.rows)
      by_cases full : limit ≤ (table.rows.drop (index * limit)).length
      · have hnext : (index + 1) * limit = index * limit + limit := Nat.succ_mul index limit
        refine walksFrom_more fetches positive stands (by omega) full ?_
        exact ih _ (by omega) (stands.next (by omega)) (by omega) rfl
      · exact walksFrom_last fetches positive stands (by omega) (Nat.lt_of_not_le full)

-----------------------------------------------------------------------------------------
-- Selections
-----------------------------------------------------------------------------------------

@[simp]
theorem Projection.length_rows_shown (table : Table) (rows : List Row)
    (projection : Projection)
    : (projection.shown table rows).rows.length = rows.length := by
  cases projection with
  | all => rfl
  | only columns => exact List.length_map _

/-- Cutting a page and showing columns can change places. -/
theorem Projection.apply_rows_shown (table : Table) (rows : List Row) (window : PageWindow)
    (projection : Projection)
    : { projection.shown table rows with
          rows := window.apply (projection.shown table rows).rows }
      = projection.shown table (window.apply rows) := by
  cases projection with
  | all => rfl
  | only columns => simp only [shown, PageWindow.apply_map]

variable {limits : Limits}

/-- Selecting a page is cutting it out of the selection of every row. -/
theorem select_page {table full : Table} {projection : Projection} {criteria : Criteria}
    (selected : select limits table projection criteria .unbounded = .ok full) (window : PageWindow)
    : select limits table projection criteria window
      = .ok { full with rows := window.apply full.rows } := by
  obtain ⟨known, compiles, rfl⟩ := select_eq_ok_iff.mp selected
  refine select_eq_ok_iff.mpr ⟨known, compiles, ?_⟩
  rw [projection.apply_rows_shown]
  rfl

/-- A selection has no more rows than the table. -/
theorem length_rows_le_of_select {table full : Table} {projection : Projection}
    {criteria : Criteria} (selected : select limits table projection criteria .unbounded = .ok full)
    : full.rows.length ≤ table.rows.length := by
  obtain ⟨-, -, rfl⟩ := select_eq_ok_iff.mp selected
  calc
    _ = (table.rows.filter criteria.holds).length := by
      rw [Projection.length_rows_shown, PageWindow.apply_unbounded, sortRows,
        List.length_mergeSort]
    _ ≤ table.rows.length := List.length_filter_le criteria.holds table.rows

/-- Walking the pages of a selection from the first one comes to an end, and it has no other
end. The pages are those of the selection that has every row on one page: one more than
there are full pages, none with more rows than the limit, and together all of its rows in
order.
-/
theorem walk_pages {table full : Table} {projection : Projection} {criteria : Criteria}
    {limit : UInt64}
    (selected : select limits table projection criteria .unbounded = .ok full)
    (size : table.rows.length ≤ maxRows) (limited : limit ≠ 0)
    : ∃ pages,
        Walk (select limits table projection criteria) (.of limit 1) pages
        ∧ Pages limit.toNat full pages
        ∧ ∀ other, Walk (select limits table projection criteria) (.of limit 1) other
          → other = pages := by
  have hsize := Nat.le_trans (length_rows_le_of_select selected) size
  have positive : 0 < limit.toNat :=
    Nat.pos_of_ne_zero fun h => limited (UInt64.toNat_inj.mp h)
  obtain ⟨pages, walk, hpages⟩ :=
    walksFrom (select_page selected) hsize positive (.first limit) (by simp)
  rw [Nat.zero_mul, List.drop_zero] at hpages
  exact ⟨pages, walk, hpages, fun other h => h.unique walk⟩

/-- Two pages are full, so a third one is fetched that holds nothing. Two rows are the same,
one row is left out, and the rows are sorted by a column that is not shown.
-/
theorem walk_pages_even
    : let columns := ["name", "age", "city"]
      let table :=
        Table.ofRecords columns
          [["Ada", "9", "Ulm"], ["Bob", "30", "Rom"], ["Cy", "10", "Ulm"],
            ["Ada", "9", "Ulm"], ["Di", "", "Aue"]]
      let criteria : Criteria :=
        { clauses := [⟨"city", "R%", true⟩], sortKeys := [⟨"age", .descending⟩] }
      let page (names : List String) := Table.ofRecords ["name"] (names.map ([·]))
      let pages := [page ["Di", "Cy"], page ["Ada", "Ada"], page []]
      select .lenient table (.only ["name"]) criteria .unbounded
          = .ok (page ["Di", "Cy", "Ada", "Ada"])
      ∧ table.rows.length ≤ maxRows
      ∧ (2 : UInt64) ≠ 0
      ∧ Walk (select .lenient table (.only ["name"]) criteria) (.of 2 1) pages
      ∧ Pages 2 (page ["Di", "Cy", "Ada", "Ada"]) pages := by
  intro columns table criteria page pages
  have hsize : table.rows.length ≤ maxRows := by decide
  have hlimited : (2 : UInt64) ≠ 0 := by decide
  have hselect : select .lenient table (.only ["name"]) criteria .unbounded
      = .ok (page ["Di", "Cy", "Ada", "Ada"]) := by
    let ada := Row.ofValues columns ["Ada", "9", "Ulm"]
    let cy := Row.ofValues columns ["Cy", "10", "Ulm"]
    let di := Row.ofValues columns ["Di", "", "Aue"]
    have hfilter : table.rows.filter criteria.holds = [ada, cy, ada, di] := by
      decide +kernel
    have harrangement
        : Arrangement criteria.sortKeys [ada, cy, ada, di].zipIdx
            [(di, 3), (cy, 1), (ada, 0), (ada, 2)] := by
      constructor <;> decide +kernel
    refine select_eq_ok_iff.mpr ⟨by decide +kernel, fun _ _ => rfl, ?_⟩
    rw [hfilter, sortRows_eq_of_arrangement criteria.sortKeys harrangement]
    rfl
  have hwalk : Walk (select .lenient table (.only ["name"]) criteria) (.of 2 1) pages := by
    refine .more (select_page hselect _) (by decide) ?_
    refine .more (select_page hselect _) (by decide) ?_
    exact .last (select_page hselect _) (by decide)
  obtain ⟨found, -, hpages, hunique⟩ := walk_pages hselect hsize hlimited
  rw [← hunique pages hwalk] at hpages
  exact ⟨hselect, hsize, hlimited, hwalk, hpages⟩

end MailMerge.Select
