/-! Page windows over a list of results. Pages count from one, and a limit of zero puts
every result on one page. Counts are 64 bits wide and stop at the largest one.
-/

namespace MailMerge.Select

/-- The largest count. -/
def maxCount : Nat := 0xFFFFFFFFFFFFFFFF

/-- A count never passes the largest one. -/
def clampCount (n : Nat) : Nat :=
  min n maxCount

structure PageWindow where
  limit : UInt64
  page : UInt64
  deriving DecidableEq, Repr

namespace PageWindow

/-- A window of `limit` results at a page; page zero is read as page one. -/
def of (limit page : UInt64) : PageWindow where
  limit
  page := max page 1

def unbounded : PageWindow := .of 0 1

def isUnbounded (window : PageWindow) : Bool :=
  window.limit = 0

/-- The number of results before the page. -/
def offset (window : PageWindow) : Nat :=
  if window.isUnbounded then 0
  else clampCount ((window.page.toNat - 1) * window.limit.toNat)

/-- Cuts the page out of the full list of results. -/
def apply {α : Type} (window : PageWindow) (items : List α) : List α :=
  if window.isUnbounded then items
  else (items.drop window.offset).take window.limit.toNat

/-- A further page may exist only if this one is full. -/
def hasNext (window : PageWindow) (returned : Nat) : Bool :=
  !window.isUnbounded && returned = window.limit.toNat

def next (window : PageWindow) : PageWindow :=
  .of window.limit (.ofNat (clampCount (window.page.toNat + 1)))

end PageWindow

end MailMerge.Select
