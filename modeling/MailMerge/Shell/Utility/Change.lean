import MailMerge.Shell.Utility.Lines

/-! How one list of lines is changed into another one: the lines that are kept are as many as
possible, and a change among equal lines stands as late as possible.
-/

namespace MailMerge.Shell.Change

/-- A run of lines of one text that a run of lines of another one takes the place of. -/
structure Hunk where
  start : Nat
  stop : Nat
  newStart : Nat
  newStop : Nat
  deriving DecidableEq, Repr

/-- Lines of the first text go. -/
def Hunk.removes (hunk : Hunk) : Bool := hunk.start < hunk.stop

/-- Lines of the second text come. -/
def Hunk.adds (hunk : Hunk) : Bool := hunk.newStart < hunk.newStop

/-- For each place in two texts how many lines can be kept from there on; the places of the
second text within those of the first.
-/
def keptCounts (left right : Array (List Char)) : Array (Array Nat) :=
  let last := Array.replicate (right.size + 1) 0
  let rows :=
    (List.range left.size).reverse.foldl
      (fun rows i =>
        let below := rows.headD last
        let row :=
          (List.range right.size).reverse.foldl
            (fun row j =>
              let kept :=
                if left[i]? = right[j]? then below.getD (j + 1) 0 + 1
                else max (below.getD j 0) (row.headD 0)
              kept :: row)
            [0]
        row.toArray :: rows)
      [last]
  rows.toArray

/-- Whether the lines of two texts are changed; the number bounds how many lines there are. -/
def changedFrom (left right : Array (List Char)) (counts : Array (Array Nat))
    : Nat → Nat → Nat → List Bool × List Bool
  | 0, _, _ => ([], [])
  | fuel + 1, i, j =>
      let count (i j : Nat) : Nat := (counts.getD i #[]).getD j 0
      if i < left.size ∧ j < right.size ∧ left[i]? = right[j]? then
        let (xs, ys) := changedFrom left right counts fuel (i + 1) (j + 1)
        (false :: xs, false :: ys)
      else if i < left.size ∧ (j = right.size ∨ count i (j + 1) ≤ count (i + 1) j) then
        let (xs, ys) := changedFrom left right counts fuel (i + 1) j
        (true :: xs, ys)
      else if j < right.size then
        let (xs, ys) := changedFrom left right counts fuel i (j + 1)
        (xs, true :: ys)
      else ([], [])

/-- The size of the run of changed lines from a place on. -/
def runFrom (changed : Array Bool) (place : Nat) : Nat :=
  ((changed.toList.drop place).takeWhile id).length

/-- The size of the run of changed lines in front of a place. -/
def runBefore (changed : Array Bool) (place : Nat) : Nat :=
  ((changed.toList.take place).reverse.takeWhile id).length

/-- A run of changed lines, and the place in the other text that belongs to its end. -/
structure Slider where
  changed : Array Bool
  start : Nat
  stop : Nat
  other : Nat
  /-- The last end at which a change of the other text stands beside the run. -/
  beside : Option Nat

/-- Moves a run back as long as the line in front of it is equal to its last one. -/
def Slider.moveBack (lines : Array (List Char)) (others : Array Bool) : Nat → Slider → Slider
  | 0, slider => slider
  | fuel + 1, slider =>
      if 0 < slider.start ∧ lines[slider.start - 1]? = lines[slider.stop - 1]? then
        let changed :=
          (slider.changed.setIfInBounds (slider.start - 1) true).setIfInBounds
            (slider.stop - 1) false
        let start := slider.start - 1 - runBefore changed (slider.start - 1)
        let other := slider.other - 1 - runBefore others slider.other
        moveBack lines others fuel
          { slider with changed, start, stop := slider.stop - 1, other }
      else slider

/-- Moves a run on as long as the line behind it is equal to its first one. -/
def Slider.moveOn (lines : Array (List Char)) (others : Array Bool) : Nat → Slider → Slider
  | 0, slider => slider
  | fuel + 1, slider =>
      if slider.stop < lines.size ∧ lines[slider.start]? = lines[slider.stop]? then
        let changed :=
          (slider.changed.setIfInBounds slider.start false).setIfInBounds slider.stop true
        let stop := slider.stop + 1 + runFrom changed (slider.stop + 1)
        let run := runFrom others (slider.other + 1)
        let beside := if run = 0 then slider.beside else some stop
        moveOn lines others fuel
          { changed, start := slider.start + 1, stop, other := slider.other + 1 + run, beside }
      else slider

/-- Moves a run back to a change of the other text that it can stand beside. -/
def Slider.settle (others : Array Bool) : Nat → Slider → Slider
  | 0, slider => slider
  | fuel + 1, slider =>
      if slider.beside.any (· < slider.stop) then
        let changed :=
          (slider.changed.setIfInBounds (slider.start - 1) true).setIfInBounds
            (slider.stop - 1) false
        let other := slider.other - 1 - runBefore others slider.other
        settle others fuel
          { slider with changed, start := slider.start - 1, stop := slider.stop - 1, other }
      else slider

/-- Moves a run back and on until it grows no more. -/
def Slider.slide (lines : Array (List Char)) (others : Array Bool) : Nat → Slider → Slider
  | 0, slider => slider
  | fuel + 1, slider =>
      let size := slider.stop - slider.start
      let back := slider.moveBack lines others lines.size
      let isBeside : Bool := 0 < back.other && others.getD (back.other - 1) false
      let slid := { back with beside := if isBeside then some back.stop else none }
      let slid := slid.moveOn lines others lines.size
      if slid.stop - slid.start = size then slid.settle others lines.size
      else slide lines others fuel slid

/-- Moves all runs of changed lines of a text from a place on, to where they are to stand. -/
def slideAll (lines : Array (List Char)) (others : Array Bool)
    : Nat → Nat → Nat → Array Bool → Array Bool
  | 0, _, _, changed => changed
  | fuel + 1, place, other, changed =>
      if lines.size ≤ place then changed
      else if changed.getD place false then
        let stop := place + runFrom changed place
        let other := other + runFrom others other
        let slid :=
          Slider.slide lines others (lines.size + 1)
            { changed, start := place, stop, other, beside := none }
        slideAll lines others fuel slid.stop slid.other slid.changed
      else
        let run := runFrom others other
        slideAll lines others fuel (place + 1) (other + run + 1) changed

/-- The runs of changed lines, with the lines in between. -/
def hunksFrom (left right : Array Bool) : Nat → Nat → Nat → List Hunk
  | 0, _, _ => []
  | fuel + 1, i, j =>
      let (x, y) := (runFrom left i, runFrom right j)
      if 0 < x ∨ 0 < y then
        { start := i, stop := i + x, newStart := j, newStop := j + y }
          :: hunksFrom left right fuel (i + x) (j + y)
      else if i < left.size ∧ j < right.size then hunksFrom left right fuel (i + 1) (j + 1)
      else []

/-- The changes that make one list of lines into another one. -/
def hunks (left right : List (List Char)) : List Hunk :=
  let head := ((left.zip right).takeWhile fun (x, y) => x = y).length
  let (xs, ys) := (left.drop head, right.drop head)
  let tail := ((xs.reverse.zip ys.reverse).takeWhile fun (x, y) => x = y).length
  let (xs, ys) := ((xs.take (xs.length - tail)).toArray, (ys.take (ys.length - tail)).toArray)
  let size := left.length + right.length + 2
  let (old, new) := changedFrom xs ys (keptCounts xs ys) size 0 0
  let around (changed : List Bool) : Array Bool :=
    (List.replicate head false ++ changed ++ List.replicate tail false).toArray
  let (old, new) := (around old, around new)
  let old := slideAll left.toArray new size 0 0 old
  let new := slideAll right.toArray old size 0 0 new
  hunksFrom old new size 0 0

end MailMerge.Shell.Change
