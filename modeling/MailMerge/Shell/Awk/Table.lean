import MailMerge.Shell.Awk.Value

/-! Tables of values by keys. The order in which keys are listed is that of the rows they
are kept in, and within a row what was asked for last comes first.
-/

namespace MailMerge.Shell.Awk

/-- A row holds the entries whose keys have the same hash. An entry that has only been
asked for by a whole number is kept by that number, until keys are asked for by their texts.
-/
structure Table where
  rows : Array (List (List Char × Value))
  numbered : Array (List (Int × Value))
  size : Nat

namespace Table

/-- How many rows a table has at first. -/
def firstRows : Nat := 64

/-- How many entries a row holds on average at most. -/
def rowSize : Nat := 12

def empty : Table where
  rows := Array.replicate firstRows []
  numbered := Array.replicate firstRows []
  size := 0

/-- The hash of a key: each byte is mixed in and multiplied by a prime. -/
def hash (key : List Char) : Nat :=
  (key.foldl (fun (sum : UInt32) c => (sum ^^^ c.toNat.toUInt32) * 16777619) 2166136261).toNat

def rowOf (table : Table) (key : List Char) : Nat :=
  hash key % table.rows.size

def numberRowOf (table : Table) (number : Int) : Nat :=
  (number % (table.numbered.size : Int)).toNat

/-- Twice as many rows, if there are too many entries. -/
def widen (table : Table) : Table :=
  if table.size ≤ table.rows.size * rowSize then table
  else
    let bare : Table :=
      { rows := Array.replicate (2 * table.rows.size) []
        numbered := Array.replicate (2 * table.rows.size) []
        size := table.size }
    let filled := table.rows.toList.flatten.reverse.foldl
      (fun (found : Table) entry =>
        { found with rows := found.rows.modify (found.rowOf entry.1) (entry :: ·) })
      bare
    table.numbered.toList.flatten.reverse.foldl
      (fun (found : Table) entry =>
        { found with numbered := found.numbered.modify (found.numberRowOf entry.1) (entry :: ·) })
      filled

/-- Keeps all entries by the texts of their keys. -/
def spelled (table : Table) : Table :=
  let entries := table.numbered.toList.flatten
  if entries.isEmpty then table
  else
    let table := { table with numbered := Array.replicate table.numbered.size [] }
    entries.foldl
      (fun (found : Table) (number, value) =>
        let key := (toString number).toList
        { found with rows := found.rows.modify (found.rowOf key) ((key, value) :: ·) })
      table

def find? (table : Table) (key : List Char) : Option Value :=
  (table.rows.getD (table.rowOf key) []).lookup key

/-- Puts a value in front of its row. -/
def put (table : Table) (key : List Char) (value : Value) : Table :=
  let table := table.spelled
  let row := table.rows.getD (table.rowOf key) []
  let others := row.filter (·.1 ≠ key)
  let size := if others.length = row.length then table.size + 1 else table.size
  widen
    { table with rows := table.rows.setIfInBounds (table.rowOf key) ((key, value) :: others), size }

def findNumber? (table : Table) (number : Int) : Option Value :=
  (table.numbered.getD (table.numberRowOf number) []).lookup number

def putNumber (table : Table) (number : Int) (value : Value) : Table :=
  let key := (toString number).toList
  if (table.find? key).isSome then table.put key value
  else
    let place := table.numberRowOf number
    let row := table.numbered.getD place []
    let others := row.filter (·.1 ≠ number)
    let size := if others.length = row.length then table.size + 1 else table.size
    widen
      { table with numbered := table.numbered.setIfInBounds place ((number, value) :: others), size }

def remove (table : Table) (key : List Char) : Table :=
  let table := table.spelled
  let row := table.rows.getD (table.rowOf key) []
  let others := row.filter (·.1 ≠ key)
  if others.length = row.length then table
  else
    { table with
      rows := table.rows.setIfInBounds (table.rowOf key) others, size := table.size - 1 }

def keys (table : Table) : List (List Char) :=
  table.rows.toList.flatten.map Prod.fst

/-- The table of a series of values, by their numbers from one on. -/
def ofSeries (values : List Value) : Table :=
  (values.foldl (fun (table, number) value => (table.putNumber number value, number + 1))
    (empty, (1 : Int))).1

end Table

/-- The key that a value stands for: a whole number, or a text. -/
inductive Key where
  | number (number : Int)
  | text (text : List Char)

def Key.ofValue (format : List Char) (value : Value) : Key :=
  match value with
  | .number x =>
      if x == x.floor && x.abs < 9223372036854775808.0 then .number (wholePart x)
      else .text (numberText format x)
  | value => .text (value.toText format)

def Table.get? (table : Table) : Key → Option Value
  | .number number =>
      match table.findNumber? number with
      | some value => some value
      | none => table.find? (toString number).toList
  | .text text => table.spelled.find? text

def Table.set (table : Table) (key : Key) (value : Value) : Table :=
  match key with
  | .number number => table.putNumber number value
  | .text text => table.put text value

def Table.drop (table : Table) : Key → Table
  | .number number => table.remove (toString number).toList
  | .text text => table.remove text

end MailMerge.Shell.Awk
