import MailMerge.Proofs.Source.TableFiles
import MailMerge.Standard

/-! Tables in a directory as the records of their files. A table is loaded if its file is seen and
can be read as records, and it is then made of the records that the file holds.
-/

namespace MailMerge

open Files (View Tree joinPath)

/-- A directory in which the file of a table can be read and holds records, the first of which
names the columns.
-/
structure HoldsRecords (platform : Platform) (files : View) (path table : String)
    (recorded : List (List String)) : Prop where
  directory : files.stat path = .ok .directory
  named : NamesTable table
  file : files.stat (joinPath path (table ++ ".csv")) = .ok .file
  readable
    : ∃ content,
        files.read (joinPath path (table ++ ".csv")) = .ok content
        ∧ platform.records content = .ok recorded

theorem Csv.tableOf_eq (recorded : List (List String))
    : Csv.tableOf recorded = Table.ofRecords (recorded.headD []) recorded.tail := by
  cases recorded <;> rfl

section

variable {platform : Platform} {files : View} {path name : String} {table : Table}

/-- No file holds two lists of records. -/
theorem HoldsRecords.unique {first second : List (List String)}
    (left : HoldsRecords platform files path name first)
    (right : HoldsRecords platform files path name second)
    : first = second := by
  obtain ⟨content, read, records⟩ := left.readable
  obtain ⟨content', read', records'⟩ := right.readable
  cases read.symm.trans read'
  exact Except.ok.inj (records.symm.trans records')

theorem HoldsRecords.loadTable_eq {recorded : List (List String)}
    (holds : HoldsRecords platform files path name recorded)
    : loadTable platform files path name = .ok (Csv.tableOf recorded) := by
  obtain ⟨-, named, file, content, read, records⟩ := holds
  rw [← tableFileName_eq] at file read
  exact loadTable_eq_ok_iff.mpr ⟨⟨named, file⟩, content, recorded, read, records, rfl⟩

theorem connect_directory_eq_ok_iff {connection : Connection}
    : (Source.directory path).connect files = .ok connection
      ↔ files.stat path = .ok .directory ∧ .directory path [] = connection := by
  rw [Source.connect]
  split <;> simp_all

/-- What a new connection to a directory loads are the tables of the records that it holds. -/
theorem load_directory_eq_ok_iff
    : (∃ connection,
        (Source.directory path).connect files = .ok connection
        ∧ (connection.load platform files name).answer = .ok table)
      ↔ ∃ recorded,
          HoldsRecords platform files path name recorded
          ∧ Csv.tableOf recorded = table := by
  constructor
  · rintro ⟨connection, connected, loaded⟩
    obtain ⟨directory, rfl⟩ := connect_directory_eq_ok_iff.mp connected
    rw [Connection.answer_load_directory] at loaded
    obtain ⟨⟨named, file⟩, content, recorded, read, records, made⟩ :=
      loadTable_eq_ok_iff.mp loaded
    rw [tableFileName_eq] at file read
    exact ⟨recorded, ⟨directory, named, file, content, read, records⟩, made⟩
  · rintro ⟨recorded, holds, rfl⟩
    refine ⟨_, connect_directory_eq_ok_iff.mpr ⟨holds.directory, rfl⟩, ?_⟩
    rw [Connection.answer_load_directory]
    exact holds.loadTable_eq

end

-----------------------------------------------------------------------------------------
-- A single table
-----------------------------------------------------------------------------------------

section

variable {content : Bytes}

/-- A directory with nothing but the file of one table. -/
theorem holds_plant
    : (Tree.empty.plant "d/t.csv" content).Holds "d" [("t.csv", .file content)] := by
  have route : Tree.routeOf "d/t.csv" = ["d", "t.csv"] := by decide +kernel
  have directory : (Tree.empty.plant "d/t.csv" content).find? ["d"] = some .directory := by
    rw [Tree.plant, route]
    rfl
  have listed
      : (Tree.empty.plant "d/t.csv" content).children ["d"] = [("t.csv", .file content)] := by
    rw [Tree.plant, route]
    rfl
  refine Tree.holds_singleton (by decide +kernel) (by decide +kernel)
    (Tree.placedOnce_empty.plant _ _) directory listed (by simp) ?_ ?_
  · simp only [List.mem_singleton, forall_eq]
    decide +kernel
  · simp only [List.mem_singleton, forall_eq]
    decide +kernel

/-- A directory without anything. -/
theorem holds_plantDirectory : (Tree.empty.plantDirectory "d").Holds "d" [] := by
  have route : Tree.routeOf "d" = ["d"] := by decide +kernel
  refine Tree.holds_singleton (by decide +kernel) (by decide +kernel)
    (Tree.placedOnce_empty.plantDirectory _) ?_ ?_ (by simp) (by simp) (by simp)
  · rw [Tree.plantDirectory, route]
    rfl
  · rw [Tree.plantDirectory, route]
    rfl

theorem joinPath_plant_ne_rootPath (name : String) : joinPath "d" name ≠ Tree.rootPath :=
  Tree.joinPath_ne_rootPath (by decide) (by decide) name

theorem shows_plant
    : (Tree.empty.plant "d/t.csv" content).view.Shows "d" [("t.csv", .file)] := by
  refine holds_plant.shows (fun name _ => joinPath_plant_ne_rootPath name) ?_
  simp only [List.mem_singleton, forall_eq]
  decide +kernel

/-- It holds the records of the file. -/
theorem holdsRecords_plant {recorded : List (List String)}
    (records : Csv.records content = .ok recorded)
    : HoldsRecords (.standard .quiet) (Tree.empty.plant "d/t.csv" content).view "d" "t"
        recorded where
  directory := shows_plant.directory
  named := isTableName_iff.mp (by decide +kernel)
  file := (shows_plant.found _ _ (by decide +kernel)).mpr List.mem_cons_self
  readable := by
    refine ⟨content, ?_, records⟩
    exact holds_plant.read_joinPath (joinPath_plant_ne_rootPath _) (by decide +kernel)
      List.mem_cons_self

end

end MailMerge
