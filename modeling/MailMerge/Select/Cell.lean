import MailMerge.Decimal.Binary64
import MailMerge.Table.Row
import MailMerge.Text.Blank

/-! The order of cells and of rows. Numbers come before other text, and empty cells come
last; a sort key with the descending direction turns the order of its column around.
-/

namespace MailMerge.Select

/-- The place of a cell among the numbers, if the cell is a finite number once the white
space around it is gone.
-/
def numberRank? (cell : String) : Option Int :=
  (Decimal.Literal.read? (Text.trim cell).toList).bind Decimal.Literal.rank?

def compareCells (left right : String) : Ordering :=
  match decide (left = ""), decide (right = "") with
  | true, true => .eq
  | true, false => .gt
  | false, true => .lt
  | false, false =>
      match numberRank? left, numberRank? right with
      | some x, some y => compare x y
      | some _, none => .lt
      | none, some _ => .gt
      | none, none => compare left right

inductive Direction where
  | ascending
  | descending
  deriving DecidableEq, Repr

namespace Direction

def ofReversed (reversed : Bool) : Direction :=
  if reversed then descending else ascending

def apply : Direction → Ordering → Ordering
  | ascending, order => order
  | descending, order => order.swap

def text : Direction → String
  | ascending => "asc"
  | descending => "desc"

end Direction

/-- One column to sort by. -/
structure SortKey where
  column : String
  direction : Direction
  deriving DecidableEq, Repr

def SortKey.compare (key : SortKey) (left right : String) : Ordering :=
  key.direction.apply (compareCells left right)

/-- Compares rows by the first key that tells them apart; a column that a row lacks counts
as empty.
-/
def compareRows : List SortKey → Row → Row → Ordering
  | [], _, _ => .eq
  | key :: keys, left, right =>
      (key.compare (left.text key.column) (right.text key.column)).then
        (compareRows keys left right)

end MailMerge.Select
