import MailMerge.Proofs.Files.ShownDirectories
import MailMerge.Proofs.Outcome
import MailMerge.Source.Connection

/-! The file of a table in a directory: how it is called, where it lies and what loading it
comes to. The name of a table leads to no other place than the directory itself.
-/

namespace MailMerge

open Files (View NamesEntry joinPath)

-----------------------------------------------------------------------------------------
-- Names of tables
-----------------------------------------------------------------------------------------

/-- What can be the name of a table. -/
structure NamesTable (table : String) : Prop where
  isFilled : table ≠ ""
  noLeadingPoint : table.toList.head? ≠ some '.'
  marks : ∀ c ∈ table.toList,
    'A' ≤ c ∧ c ≤ 'Z' ∨ 'a' ≤ c ∧ c ≤ 'z' ∨ '0' ≤ c ∧ c ≤ '9' ∨ c = '_' ∨ c = '-' ∨ c = '.'

theorem isTableChar_iff {c : Char}
    : isTableChar c = true
      ↔ 'A' ≤ c ∧ c ≤ 'Z' ∨ 'a' ≤ c ∧ c ≤ 'z' ∨ '0' ≤ c ∧ c ≤ '9'
        ∨ c = '_' ∨ c = '-' ∨ c = '.' := by
  have split : isTableChar c
      = (c.isUpper || c.isLower || c.isDigit || decide (c = '_') || decide (c = '-')
        || decide (c = '.')) :=
    rfl
  have range : ∀ low high : Char,
      (decide (low.val ≤ c.val) && decide (c.val ≤ high.val)) = true ↔ low ≤ c ∧ c ≤ high := by
    intro low high
    rw [Bool.and_eq_true, decide_eq_true_iff, decide_eq_true_iff]
    rfl
  have upper : c.isUpper = true ↔ 'A' ≤ c ∧ c ≤ 'Z' := decide_eq_true_iff
  have lower : c.isLower = true ↔ 'a' ≤ c ∧ c ≤ 'z' := range 'a' 'z'
  have digit : c.isDigit = true ↔ '0' ≤ c ∧ c ≤ '9' := range '0' '9'
  rw [split]
  simp only [Bool.or_eq_true, decide_eq_true_eq, upper, lower, digit, or_assoc]

theorem isTableName_iff {table : String} : isTableName table = true ↔ NamesTable table := by
  rw [isTableName, Bool.and_eq_true, List.all_eq_true]
  simp only [isTableChar_iff]
  constructor
  · rintro ⟨starts, marks⟩
    refine ⟨?_, ?_, marks⟩
    · rintro rfl
      simp at starts
    · intro point
      simp [point] at starts
  · intro named
    refine ⟨?_, named.marks⟩
    cases head : table.toList.head? with
    | none => exact absurd (by simpa using head) named.isFilled
    | some c =>
        have noPoint : c ≠ '.' := by
          rintro rfl
          exact named.noLeadingPoint head
        simpa using noPoint

theorem tableFileName_eq (table : String) : tableFileName table = table ++ ".csv" := by
  rw [tableFileName, String.append_assoc]
  rfl

theorem getLast?_tableFileName (table : String)
    : (tableFileName table).toList.getLast? = some 'v' := by
  simp [tableFileName_eq]

namespace NamesTable

variable {table : String}

theorem isTableChar_of_mem (named : NamesTable table) {c : Char}
    (mem : c ∈ (tableFileName table).toList)
    : isTableChar c = true := by
  rw [tableFileName_eq, String.toList_append] at mem
  rcases List.mem_append.mp mem with mem | mem
  · exact isTableChar_iff.mpr (named.marks c mem)
  · have marks : ".csv".toList.all isTableChar = true := by decide +kernel
    exact List.all_eq_true.mp marks c mem

/-- The file of a table can be an entry of a directory. -/
theorem namesEntry (named : NamesTable table) : NamesEntry (tableFileName table) where
  noSlash mem := absurd (named.isTableChar_of_mem mem) (by decide)
  noZero mem := absurd (named.isTableChar_of_mem mem) (by decide)
  isFilled same := absurd (same ▸ getLast?_tableFileName table) (by decide)
  notHere same := absurd (same ▸ getLast?_tableFileName table) (by decide)
  notAbove same := absurd (same ▸ getLast?_tableFileName table) (by decide)

theorem ascii (named : NamesTable table) : ∀ c ∈ table.toList, c.toNat < 128 := by
  intro c mem
  rcases named.marks c mem with ⟨-, most⟩ | ⟨-, most⟩ | ⟨-, most⟩ | rfl | rfl | rfl
  · exact Nat.lt_of_le_of_lt most (by decide)
  · exact Nat.lt_of_le_of_lt most (by decide)
  · exact Nat.lt_of_le_of_lt most (by decide)
  all_goals decide

end NamesTable

theorem tablePath?_eq_some_iff {path table file : String}
    : tablePath? path table = some file
      ↔ NamesTable table ∧ joinPath path (tableFileName table) = file := by
  rw [tablePath?, Option.ite_none_right_eq_some, isTableName_iff, Option.some.injEq]

-----------------------------------------------------------------------------------------
-- Files of tables
-----------------------------------------------------------------------------------------

/-- A directory in which the file of a table is seen. -/
structure SeesTable (files : View) (path table : String) : Prop where
  named : NamesTable table
  file : files.stat (joinPath path (tableFileName table)) = .ok .file

section

variable {platform : Platform} {files : View} {path table : String}

theorem loadTable_of_sees (sees : SeesTable files path table)
    : loadTable platform files path table
      = (readTable platform files (joinPath path (tableFileName table))).mapError
          (.unreadable table) := by
  rw [loadTable, tablePath?_eq_some_iff.mpr ⟨sees.named, rfl⟩]
  exact if_pos (View.isFile_iff.mpr sees.file)

theorem loadTable_of_not_sees (unseen : ¬ SeesTable files path table)
    : loadTable platform files path table = .error (.unknownTable table) := by
  unfold loadTable
  cases place : tablePath? path table with
  | none => rfl
  | some file =>
      obtain ⟨named, rfl⟩ := tablePath?_eq_some_iff.mp place
      exact if_neg fun isFile => unseen ⟨named, View.isFile_iff.mp isFile⟩

/-- A table is unknown if its file is not seen, and for no other reason. -/
theorem loadTable_eq_unknownTable_iff {other : String}
    : loadTable platform files path table = .error (.unknownTable other)
      ↔ ¬ SeesTable files path table ∧ table = other := by
  by_cases sees : SeesTable files path table
  · rw [loadTable_of_sees sees]
    cases readTable platform files (joinPath path (tableFileName table)) <;> simp [sees]
  · rw [loadTable_of_not_sees sees]
    simp [sees]

/-- What is loaded is the table of the records that the file of the table holds. -/
theorem loadTable_eq_ok_iff {rows : Table}
    : loadTable platform files path table = .ok rows
      ↔ SeesTable files path table
        ∧ ∃ content recorded,
            files.read (joinPath path (tableFileName table)) = .ok content
            ∧ platform.records content = .ok recorded
            ∧ Csv.tableOf recorded = rows := by
  by_cases sees : SeesTable files path table
  · rw [loadTable_of_sees sees, Outcome.mapError_eq_ok_iff, readTable]
    cases files.read (joinPath path (tableFileName table)) with
    | error e => simp
    | ok content => simp [sees, Outcome.map_eq_ok_iff]
  · rw [loadTable_of_not_sees sees]
    simp [sees]

/-- A file that is seen, of a table that may be named so, is what it is seen to be in a directory
that is shown.
-/
theorem Files.View.Shows.seesTable_iff {entries : List (String × Files.Kind)}
    (shows : files.Shows path entries)
    : SeesTable files path table
      ↔ NamesTable table ∧ (table ++ ".csv", .file) ∈ entries := by
  constructor
  · intro sees
    have found := (shows.found _ _ sees.named.namesEntry).mp sees.file
    exact ⟨sees.named, tableFileName_eq table ▸ found⟩
  · rintro ⟨named, inDirectory⟩
    have listed := (tableFileName_eq table).symm ▸ inDirectory
    exact ⟨named, (shows.found _ _ named.namesEntry).mpr listed⟩

end

theorem Connection.answer_load_directory (platform : Platform) (path : String)
    (kept : List (String × Table)) (files : View) (table : String)
    : ((Connection.directory path kept).load platform files table).answer
      = (kept.lookup table).elim (loadTable platform files path table) .ok := by
  simp only [Connection.load]
  cases kept.lookup table with
  | some rows => rfl
  | none => cases loadTable platform files path table <;> rfl

end MailMerge
