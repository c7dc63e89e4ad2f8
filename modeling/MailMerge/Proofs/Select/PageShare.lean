import Mathlib.Logic.ExistsUnique
import MailMerge.Proofs.Select.PageWalk

/-! Which items of a list a page shows. The number of items before a page stops at the largest
count, but a list that can be counted ends there at the latest, so no page shows other items
than those whose place is on it by unbounded arithmetic. Each place is on just one page.
-/

namespace MailMerge.Select

namespace PageWindow

/-- A place in a list is on a page, with nothing cut off at the largest count. Page zero is read
as page one.
-/
def OnPage (limit page : UInt64) (place : Nat) : Prop :=
  (max page.toNat 1 - 1) * limit.toNat ≤ place ∧ place < max page.toNat 1 * limit.toNat

instance (limit page : UInt64) : DecidablePred (OnPage limit page) :=
  fun _ => inferInstanceAs (Decidable (_ ∧ _))

-----------------------------------------------------------------------------------------
-- Places
-----------------------------------------------------------------------------------------

/-- The items from one place up to another are cut out of a list by dropping and taking, by
induction on the items.
-/
theorem filter_zipIdx_between {α : Type} (low high start : Nat) (items : List α)
    : (items.zipIdx start).filter (fun entry => low ≤ entry.2 ∧ entry.2 < high)
      = ((items.zipIdx start).drop (low - start)).take (high - max low start) := by
  induction items generalizing start with
  | nil => simp
  | cons item items ih =>
      rw [List.zipIdx_cons]
      by_cases before : start < low
      · have hdrop : low - start = low - (start + 1) + 1 := by omega
        have hmax : max low start = max low (start + 1) := by omega
        rw [List.filter_cons_of_neg (by simp; omega), ih, hdrop, List.drop_succ_cons, hmax]
      · have hdrop : low - start = 0 := by omega
        have hdrop' : low - (start + 1) = 0 := by omega
        have ih := ih (start + 1)
        rw [hdrop', List.drop_zero] at ih
        rw [hdrop, List.drop_zero]
        by_cases within : start < high
        · have htake : high - max low start = high - max low (start + 1) + 1 := by omega
          rw [List.filter_cons_of_pos (by simp; omega), ih, htake, List.take_succ_cons]
        · have htake : high - max low start = 0 := by omega
          have htake' : high - max low (start + 1) = 0 := by omega
          rw [List.filter_cons_of_neg (by simp; omega), ih, htake, htake', List.take_zero,
            List.take_zero]

theorem toNat_pos {limit : UInt64} (limited : limit ≠ 0) : 0 < limit.toNat :=
  Nat.pos_of_ne_zero fun h => limited (UInt64.toNat_inj.mp h)

/-- A place is on the page that is numbered by the full pages before it. -/
theorem onPage_iff {limit : UInt64} (limited : limit ≠ 0) (page : UInt64) (place : Nat)
    : OnPage limit page place ↔ place / limit.toNat + 1 = max page.toNat 1 := by
  have positive := toNat_pos limited
  obtain ⟨number, hnumber⟩ : ∃ number, max page.toNat 1 = number + 1 :=
    ⟨max page.toNat 1 - 1, by omega⟩
  rw [OnPage, hnumber, Nat.add_sub_cancel, Nat.add_right_cancel_iff,
    ← Nat.le_div_iff_mul_le positive, ← Nat.div_lt_iff_lt_mul positive]
  omega

-----------------------------------------------------------------------------------------
-- Windows
-----------------------------------------------------------------------------------------

theorem standsAt_of (limit page : UInt64)
    : (of limit page).StandsAt limit.toNat (max page.toNat 1 - 1) where
  limit := rfl
  page := by
    rw [page_of]
    omega

theorem offset_le_maxCount (window : PageWindow) : window.offset ≤ maxCount := by
  unfold offset
  split
  · exact Nat.zero_le maxCount
  · exact Nat.min_le_right _ _

/-- A window cuts its page out of any list that can be counted. Where the items before the page
cannot be, there are none on it.
-/
theorem StandsAt.apply_eq_of_length_le {α : Type} {window : PageWindow} {limit index : Nat}
    (stands : window.StandsAt limit index) (positive : 0 < limit) {items : List α}
    (size : items.length ≤ maxCount)
    : window.apply items = (items.drop (index * limit)).take limit := by
  by_cases counted : index * limit ≤ maxCount
  · exact stands.apply_eq positive counted items
  · have hoffset : window.offset = maxCount := by
      rw [offset, stands.isUnbounded positive, stands.page, stands.limit, Nat.add_sub_cancel,
        clampCount, Nat.min_eq_right (by omega)]
      rfl
    rw [apply, stands.isUnbounded positive, hoffset, stands.limit,
      List.drop_of_length_le size, List.drop_of_length_le (by omega)]
    rfl

/-- A window shows the items whose places are on its page. -/
theorem apply_zipIdx {α : Type} {limit : UInt64} (limited : limit ≠ 0) (page : UInt64)
    {items : List α} (size : items.length ≤ maxCount)
    : (of limit page).apply items.zipIdx
      = items.zipIdx.filter fun entry => OnPage limit page entry.2 := by
  have positive := toNat_pos limited
  have hhigh : max page.toNat 1 * limit.toNat
      = (max page.toNat 1 - 1) * limit.toNat + limit.toNat := by
    rw [← Nat.succ_mul]
    congr
    omega
  have hbetween := filter_zipIdx_between ((max page.toNat 1 - 1) * limit.toNat)
    (max page.toNat 1 * limit.toNat) 0 items
  rw [Nat.sub_zero, Nat.max_zero, hhigh, Nat.add_sub_cancel_left, ← hhigh] at hbetween
  rw [(standsAt_of limit page).apply_eq_of_length_le positive (by simpa using size), ← hbetween]
  rfl

theorem mem_apply_zipIdx_iff {α : Type} {limit : UInt64} (limited : limit ≠ 0) (page : UInt64)
    {items : List α} (size : items.length ≤ maxCount) {entry : α × Nat}
    : entry ∈ (of limit page).apply items.zipIdx
      ↔ entry ∈ items.zipIdx ∧ entry.2 / limit.toNat + 1 = max page.toNat 1 := by
  rw [apply_zipIdx limited page size, List.mem_filter, decide_eq_true_iff, onPage_iff limited]

/-- Where a place can be counted, so can the number of the page that it is on. -/
theorem exists_page_number (limit : UInt64) {place : Nat} (counted : place < maxCount)
    : ∃ number : UInt64, 1 ≤ number ∧ place / limit.toNat + 1 = number.toNat := by
  have hdiv : place / limit.toNat ≤ place := Nat.div_le_self place limit.toNat
  have hsize : place / limit.toNat + 1 < UInt64.size :=
    Nat.succ_lt_succ (Nat.lt_of_le_of_lt hdiv counted)
  have hnumber := UInt64.toNat_ofNat_of_lt' hsize
  refine ⟨.ofNat (place / limit.toNat + 1), ?_, hnumber.symm⟩
  rw [UInt64.le_iff_toNat_le, hnumber]
  exact Nat.succ_le_succ (Nat.zero_le _)

section

variable {α : Type} {limit : UInt64} (limited : limit ≠ 0) {items : List α}
  (size : items.length ≤ maxCount)
include limited size

/-- No place is on two pages. -/
theorem page_eq_of_mem {page other : UInt64} {entry : α × Nat}
    (first : entry ∈ (of limit page).apply items.zipIdx)
    (second : entry ∈ (of limit other).apply items.zipIdx)
    : (of limit page).page = (of limit other).page := by
  obtain ⟨-, hfirst⟩ := (mem_apply_zipIdx_iff limited page size).mp first
  obtain ⟨-, hsecond⟩ := (mem_apply_zipIdx_iff limited other size).mp second
  rw [← UInt64.toNat_inj, page_of, page_of, ← hfirst, hsecond]

/-- A place in the list is on the page of its number. -/
theorem place_mem_apply_iff {place : Nat} (inside : place < items.length) {number : UInt64}
    (numbered : 1 ≤ number)
    : place ∈ ((of limit number).apply items.zipIdx).map Prod.snd
      ↔ place / limit.toNat + 1 = number.toNat := by
  have hmax : max number.toNat 1 = number.toNat :=
    Nat.max_eq_left (UInt64.le_iff_toNat_le.mp numbered)
  simp only [List.mem_map, mem_apply_zipIdx_iff limited number size, hmax]
  constructor
  · rintro ⟨entry, ⟨-, h⟩, rfl⟩
    exact h
  · intro h
    exact ⟨(items[place], place), ⟨List.mk_mem_zipIdx_iff_getElem?.mpr (by simp), h⟩, rfl⟩

end

end PageWindow

open PageWindow

/-- A window of any limit at any page counts within 64 bits. Without a limit it shows every item.
With one it shows the items, in order, whose places are on the page by unbounded arithmetic,
two pages share no place, and each place in the list is on just one page.
-/
theorem apply_shows_places (limit page : UInt64) {α : Type} (items : List α)
    (size : items.length ≤ maxCount)
    : let window := PageWindow.of limit page
      (1 ≤ window.page ∧ window.offset ≤ maxCount)
      ∧ (limit = 0 → window.apply items = items)
      ∧ (limit ≠ 0
        → window.apply items
          = (items.zipIdx.filter fun entry => OnPage limit page entry.2).map Prod.fst)
      ∧ (limit ≠ 0
        → ∀ other entry,
            entry ∈ window.apply items.zipIdx
            → entry ∈ (PageWindow.of limit other).apply items.zipIdx
            → window.page = (PageWindow.of limit other).page)
      ∧ (limit ≠ 0
        → ∀ place < items.length,
            ∃! number : UInt64,
              1 ≤ number
              ∧ place ∈ ((PageWindow.of limit number).apply items.zipIdx).map Prod.snd) := by
  intro window
  refine ⟨⟨?_, window.offset_le_maxCount⟩, ?_, ?_, ?_, ?_⟩
  · rw [UInt64.le_iff_toNat_le, page_of]
    exact Nat.le_max_right page.toNat 1
  · rintro rfl
    rfl
  · intro limited
    rw [← apply_zipIdx limited page size, ← apply_map, List.zipIdx_map_fst]
  · intro limited other entry first second
    exact page_eq_of_mem limited size first second
  · intro limited place inside
    obtain ⟨number, numbered, hnumber⟩ :=
      exists_page_number limit (Nat.lt_of_lt_of_le inside size)
    refine ⟨number, ⟨numbered, ?_⟩, ?_⟩
    · exact (place_mem_apply_iff limited size inside numbered).mpr hnumber
    · rintro other ⟨numbered', member⟩
      have hother := (place_mem_apply_iff limited size inside numbered').mp member
      exact UInt64.toNat_inj.mp (hother.symm.trans hnumber)

/-- More items are before the page than can be counted, and none are on it. -/
theorem apply_shows_places_cut_off
    : let limit : UInt64 := 0x8000000000000000
      let window := PageWindow.of limit 3
      let names := ["Ada", "Bob"]
      names.length ≤ maxCount
      ∧ limit ≠ 0
      ∧ window.offset < 2 * limit.toNat
      ∧ window.apply names = []
      ∧ ∃! number : UInt64,
          1 ≤ number ∧ 1 ∈ ((PageWindow.of limit number).apply names.zipIdx).map Prod.snd := by
  intro limit window names
  have size : names.length ≤ maxCount := by decide
  have limited : limit ≠ 0 := by decide
  obtain ⟨-, -, shows, -, numbered⟩ := apply_shows_places limit 3 names size
  have nothing
      : (names.zipIdx.filter fun entry => OnPage limit 3 entry.2).map Prod.fst = [] := by
    decide +kernel
  exact ⟨size, limited, by decide +kernel, (shows limited).trans nothing,
    numbered limited 1 (by decide)⟩

end MailMerge.Select
