import Mathlib.Data.List.TakeWhile
import MailMerge.Proofs.Source.TableFiles
import MailMerge.Standard

/-! The tables that a directory is said to have. They are listed by the names of its entries, cut
at their last points, and a table is loaded by way of its own name, with the extension put
behind it; both come to the same tables.
-/

namespace MailMerge

open Files (View Tree Entry Kind NamesEntry joinPath kinds)

-----------------------------------------------------------------------------------------
-- Order
-----------------------------------------------------------------------------------------

/-- Texts of small characters stand in the order of their bytes. -/
theorem flatMap_utf8EncodeChar_lt {left right : List Char}
    (leftAscii : ∀ c ∈ left, c.toNat < 128) (rightAscii : ∀ c ∈ right, c.toNat < 128)
    (before : left < right)
    : left.flatMap String.utf8EncodeChar < right.flatMap String.utf8EncodeChar := by
  have byte : ∀ c : Char, c.toNat < 128 → String.utf8EncodeChar c = [UInt8.ofNat c.toNat] := by
    intro c small
    exact if_pos (Nat.le_of_lt_succ small)
  induction left generalizing right with
  | nil =>
      cases right with
      | nil => exact absurd before (List.lt_irrefl _)
      | cons d ds =>
          rw [List.flatMap_cons, byte d (rightAscii d List.mem_cons_self)]
          exact List.nil_lt_cons _ _
  | cons c cs ih =>
      cases right with
      | nil => exact absurd before (List.not_lt_nil _)
      | cons d ds =>
          have cSmall := leftAscii c List.mem_cons_self
          have dSmall := rightAscii d List.mem_cons_self
          rw [List.flatMap_cons, List.flatMap_cons, byte c cSmall, byte d dSmall,
            List.singleton_append, List.singleton_append, List.cons_lt_cons_iff]
          rcases List.cons_lt_cons_iff.mp before with less | ⟨rfl, behind⟩
          · left
            have less : c.toNat < d.toNat := UInt32.lt_iff_toNat_lt.mp less
            rw [UInt8.lt_iff_toNat_lt, UInt8.toNat_ofNat', UInt8.toNat_ofNat']
            omega
          · right
            refine ⟨rfl, ih ?_ ?_ behind⟩
            · exact fun d mem => leftAscii d (List.mem_cons_of_mem _ mem)
            · exact fun d mem => rightAscii d (List.mem_cons_of_mem _ mem)

theorem pairwise_sortNames {names : List String} (once : names.Nodup)
    : (sortNames names).Pairwise fun left right => left < right := by
  have sorted : (sortNames names).Pairwise
      fun left right => decide (left ≤ right) = true := by
    refine List.pairwise_mergeSort ?_ ?_ names
    · intro a b c ab bc
      exact decide_eq_true (String.le_trans (of_decide_eq_true ab) (of_decide_eq_true bc))
    · intro a b
      simpa using String.le_total a b
  have apart : (sortNames names).Nodup := (List.mergeSort_perm names _).nodup_iff.mpr once
  refine (sorted.and apart).imp ?_
  rintro left right ⟨most, differ⟩
  exact String.not_le.mp fun least =>
    differ (String.le_antisymm (of_decide_eq_true most) least)

-----------------------------------------------------------------------------------------
-- File names
-----------------------------------------------------------------------------------------

section

variable {name front extension : String}

/-- A name that is cut is its two parts with a point between them. -/
theorem eq_of_cutName? (cut : cutName? name = some (front, extension))
    : name = front ++ "." ++ extension := by
  have whole :=
    List.takeWhile_append_dropWhile (p := (decide <| · ≠ '.')) (l := name.toList.reverse)
  have point := List.head?_dropWhile_not (decide <| · ≠ '.') name.toList.reverse
  unfold cutName? at cut
  cases behind : name.toList.reverse.dropWhile (decide <| · ≠ '.') with
  | nil =>
      simp only [behind] at cut
      cases cut
  | cons first rest =>
      rw [behind] at whole point
      obtain rfl : first = '.' := by simpa using point
      cases rest with
      | nil =>
          simp only [behind] at cut
          cases cut
      | cons c before =>
          simp only [behind, Option.ite_none_left_eq_some, Option.some.injEq,
            Prod.mk.injEq] at cut
          obtain ⟨-, rfl, rfl⟩ := cut
          generalize name.toList.reverse.takeWhile (decide <| · ≠ '.') = last at whole ⊢
          rw [← String.toList_inj, ← List.reverse_inj, ← whole]
          simp

/-- Two parts with a point between them are cut there if the second has no point of its own and
the first is not empty.
-/
theorem cutName?_append (isFilled : front ≠ "") (noPoint : '.' ∉ extension.toList)
    (notAbove : front ++ "." ++ extension ≠ "..")
    : cutName? (front ++ "." ++ extension) = some (front, extension) := by
  have reversed : (front ++ "." ++ extension).toList.reverse
      = extension.toList.reverse ++ '.' :: front.toList.reverse := by
    simp
  have plain : ∀ c ∈ extension.toList.reverse, decide (c ≠ '.') = true := by
    intro c mem
    refine decide_eq_true ?_
    rintro rfl
    exact noPoint (List.mem_reverse.mp mem)
  have filled : front.toList.reverse ≠ [] := by simpa using isFilled
  obtain ⟨c, before, split⟩ := List.exists_cons_of_ne_nil filled
  unfold cutName?
  simp only [reversed, List.dropWhile_append_of_pos plain, List.takeWhile_append_of_pos plain,
    List.dropWhile_cons, List.takeWhile_cons]
  obtain rfl : front = String.ofList (c :: before).reverse := by
    rw [← split, List.reverse_reverse, String.ofList_toList]
  simp only [split, notAbove, if_false]
  simp

/-- The name of a table file is cut before its extension, however many points the name of the
table has.
-/
theorem cutName?_tableFileName {table : String} (isFilled : table ≠ "")
    : cutName? (tableFileName table) = some (table, tableExtension) := by
  refine cutName?_append isFilled (by decide) ?_
  intro (same : tableFileName table = "..")
  exact absurd (same ▸ getLast?_tableFileName table) (by decide)

end

-----------------------------------------------------------------------------------------
-- Listed tables
-----------------------------------------------------------------------------------------

section

variable {files : View} {path table : String}

/-- An entry is listed as the table whose file it is by its name, if it is seen to be a file. -/
theorem tableNameOf?_eq_some_iff {name : String}
    : tableNameOf? files path name = some table
      ↔ name = tableFileName table ∧ SeesTable files path table := by
  unfold tableNameOf? extension? stem
  constructor
  · intro listed
    simp only [Option.ite_none_left_eq_some, not_or, Bool.not_eq_true, Bool.not_eq_false',
      Option.map_eq_some_iff, not_not] at listed
    obtain ⟨⟨isFile, ⟨front, _⟩, cut, rfl⟩, file, place, rfl⟩ := listed
    obtain rfl := eq_of_cutName? cut
    rw [cut] at place ⊢
    obtain ⟨named, -⟩ := tablePath?_eq_some_iff.mp place
    exact ⟨rfl, named, View.isFile_iff.mp isFile⟩
  · rintro ⟨rfl, named, file⟩
    have place := tablePath?_eq_some_iff.mpr ⟨named, (rfl : joinPath path _ = _)⟩
    simp [cutName?_tableFileName named.isFilled, View.isFile_iff.mpr file, place]

/-- Whatever is seen of a directory, a table is listed if its file is among the names that are
listed and it is not unknown.
-/
theorem mem_tableNames_iff {names : List String}
    : table ∈ sortNames (names.filterMap (tableNameOf? files path))
      ↔ tableFileName table ∈ names ∧ SeesTable files path table := by
  rw [sortNames, List.mem_mergeSort, List.mem_filterMap]
  constructor
  · rintro ⟨name, listed, isTable⟩
    obtain ⟨rfl, sees⟩ := tableNameOf?_eq_some_iff.mp isTable
    exact ⟨listed, sees⟩
  · rintro ⟨listed, sees⟩
    exact ⟨_, listed, tableNameOf?_eq_some_iff.mpr ⟨rfl, sees⟩⟩

/-- Names that are listed once give tables that are listed once, in the order of their bytes. -/
theorem pairwise_tableNames {names : List String} (once : names.Nodup)
    : (sortNames (names.filterMap (tableNameOf? files path))).Pairwise
        fun left right => Text.toBytes left < Text.toBytes right := by
  -- Two entries of one directory differ in their names, so the tables in them do.
  have tablesOnce : (names.filterMap (tableNameOf? files path)).Nodup := by
    refine List.Pairwise.filterMap _ ?_ once
    intro left right apart leftTable isLeft rightTable isRight same
    obtain ⟨leftName, -⟩ := tableNameOf?_eq_some_iff.mp isLeft
    obtain ⟨rightName, -⟩ := tableNameOf?_eq_some_iff.mp isRight
    exact apart (leftName.trans (same ▸ rightName.symm))
  -- The order by characters is that by bytes, as all listed names consist of small characters.
  refine (pairwise_sortNames tablesOnce).imp_of_mem ?_
  intro left right leftMem rightMem before
  obtain ⟨-, leftSees⟩ := mem_tableNames_iff.mp leftMem
  obtain ⟨-, rightSees⟩ := mem_tableNames_iff.mp rightMem
  exact flatMap_utf8EncodeChar_lt leftSees.named.ascii rightSees.named.ascii before

end

-----------------------------------------------------------------------------------------
-- Loaded tables
-----------------------------------------------------------------------------------------

section

variable {platform : Platform} {files : View} {path table : String}
  {entries : List (String × Kind)}

theorem Files.View.Shows.connect_eq (shows : files.Shows path entries)
    : (Source.directory path).connect files = .ok (.directory path []) := by
  simp only [Source.connect, shows.directory]

/-- The columns of a table are unknown if its file is not seen. -/
theorem columns_known_iff
    : (∀ other,
        ((Connection.directory path []).columns platform files table).answer
          ≠ .error (.unknownTable other))
      ↔ SeesTable files path table := by
  simp only [Connection.columns, ne_eq, Outcome.map_eq_error_iff,
    Connection.answer_load_directory, List.lookup_nil, Option.elim_none,
    loadTable_eq_unknownTable_iff]
  constructor
  · intro known
    exact not_not.mp fun unseen => known table ⟨unseen, rfl⟩
  · rintro sees other ⟨unseen, -⟩
    exact unseen sees

/-- The path of a table is that of an entry of its directory, whatever the table is called. -/
theorem exists_entry_of_tablePath? {file : String} (place : tablePath? path table = some file)
    : ∃ name, NamesEntry name ∧ joinPath path name = file := by
  obtain ⟨named, joined⟩ := tablePath?_eq_some_iff.mp place
  exact ⟨_, named.namesEntry, joined⟩

theorem load_congr {others : View} (kept : List (String × Table))
    (same : loadTable platform others path table = loadTable platform files path table)
    : (Connection.directory path kept).load platform others table
      = (Connection.directory path kept).load platform files table := by
  simp only [Connection.load, same]

/-- Two sights of a directory with the same entries load the same where the files in it read the
same.
-/
theorem Files.View.Shows.load_eq {others : View} (shows : files.Shows path entries)
    (shows' : others.Shows path entries)
    (same
      : ∀ name,
          (name, .file) ∈ entries
          → others.read (joinPath path name) = files.read (joinPath path name))
    (kept : List (String × Table)) (table : String)
    : (Connection.directory path kept).load platform others table
      = (Connection.directory path kept).load platform files table := by
  refine load_congr kept ?_
  by_cases sees : SeesTable files path table
  · have inDirectory := (shows.found _ _ sees.named.namesEntry).mp sees.file
    have sees' := shows'.seesTable_iff.mpr (shows.seesTable_iff.mp sees)
    simp only [loadTable_of_sees sees, loadTable_of_sees sees', readTable, same _ inDirectory]
  · have unseen : ¬ SeesTable others path table :=
      fun sees' => sees (shows.seesTable_iff.mpr (shows'.seesTable_iff.mp sees'))
    rw [loadTable_of_not_sees sees, loadTable_of_not_sees unseen]

end

-----------------------------------------------------------------------------------------
-- Listing and loading
-----------------------------------------------------------------------------------------

/-- A connection to a directory lists the tables that it can load, in the order of the bytes
of their names and each once: those that have a file of their name and the extension right in
the directory. Whatever a table is called, its path is that of an entry of the directory, and
what is loaded depends on nothing but the files there.
-/
theorem tables_eq_table_files (platform : Platform) {files : View} {path : String}
    {entries : List (String × Kind)} (shows : files.Shows path entries)
    : ∃ connection names,
        (Source.directory path).connect files = .ok connection
        ∧ connection.tables files = .ok names
        ∧ names.Pairwise (fun left right => Text.toBytes left < Text.toBytes right)
        ∧ (∀ table,
            (table ∈ names
              ↔ ∀ other,
                  (connection.columns platform files table).answer
                    ≠ .error (.unknownTable other))
            ∧ (table ∈ names ↔ NamesTable table ∧ (table ++ ".csv", .file) ∈ entries))
        ∧ (∀ table file,
            tablePath? path table = some file
            → ∃ name, NamesEntry name ∧ joinPath path name = file)
        ∧ ∀ others : View,
            others.Shows path entries
            → (∀ name,
                (name, .file) ∈ entries
                → others.read (joinPath path name) = files.read (joinPath path name))
            → ∀ table,
                connection.load platform others table
                = connection.load platform files table := by
  have listed (table : String)
      : table ∈ sortNames ((entries.map Prod.fst).filterMap (tableNameOf? files path))
        ↔ SeesTable files path table := by
    rw [mem_tableNames_iff]
    refine and_iff_right_of_imp fun sees => ?_
    exact List.mem_map_of_mem ((shows.found _ _ sees.named.namesEntry).mp sees.file)
  refine
    ⟨.directory path [],
      sortNames ((entries.map Prod.fst).filterMap (tableNameOf? files path)),
      shows.connect_eq, ?_, pairwise_tableNames shows.once, ?_, ?_, ?_⟩
  · simp only [Connection.tables, shows.listed]
  · intro table
    exact ⟨(listed table).trans columns_known_iff.symm,
      (listed table).trans shows.seesTable_iff⟩
  · exact fun table file place => exists_entry_of_tablePath? place
  · exact fun others shows' same table => shows.load_eq shows' same [] table

/-- Two tables, a hidden file, one with another extension and a directory with the name of a table
file lie in `d`, and one more table beside it.
-/
def shelf : Tree :=
  Tree.empty
    |>.plant "d/people.csv" (Text.toBytes "name\nAda\n")
    |>.plant "d/a.b.csv" (Text.toBytes "x\n1\n")
    |>.plant "d/.hidden.csv" (Text.toBytes "x\n")
    |>.plant "d/notes.csv.txt" (Text.toBytes "x\n")
    |>.plant "d/sub.csv/inner.csv" (Text.toBytes "x\n")
    |>.plant "e.csv" (Text.toBytes "x\n")

def shelved : List (String × Entry) :=
  [
    ("people.csv", .file (Text.toBytes "name\nAda\n")),
    ("a.b.csv", .file (Text.toBytes "x\n1\n")),
    (".hidden.csv", .file (Text.toBytes "x\n")),
    ("notes.csv.txt", .file (Text.toBytes "x\n")),
    ("sub.csv", .directory)
  ]

theorem shows_shelf : shelf.view.Shows "d" (kinds shelved) := by
  have once : shelf.PlacedOnce :=
    Tree.placedOnce_empty.plant _ _ |>.plant _ _ |>.plant _ _ |>.plant _ _ |>.plant _ _
      |>.plant _ _
  have holds : shelf.Holds "d" shelved := by
    refine Tree.holds_singleton (by decide +kernel) (by decide +kernel) once
      (by decide +kernel) (by decide +kernel) ?_ (by decide +kernel) (by decide +kernel)
    simp [shelved]
  refine holds.shows ?_ (by decide +kernel)
  exact fun name _ => Tree.joinPath_ne_rootPath (by decide) (by decide) name

theorem tables_eq_table_files_shelf
    : let platform := Platform.standard .quiet
      let files := platform.view shelf
      files.Shows "d" (kinds shelved)
      ∧ ∃ connection names,
          (Source.directory "d").connect files = .ok connection
          ∧ connection.tables files = .ok names
          ∧ "people" ∈ names
          ∧ "a.b" ∈ names
          ∧ ".hidden" ∉ names
          ∧ "notes.csv" ∉ names
          ∧ "sub" ∉ names
          ∧ ¬ ∀ other,
              (connection.columns platform files "../e").answer
                ≠ .error (.unknownTable other) := by
  obtain ⟨connection, names, connected, listed, -, tables, -⟩ :=
    tables_eq_table_files (Platform.standard .quiet) shows_shelf
  refine ⟨shows_shelf, connection, names, connected, listed, ?_, ?_, ?_, ?_, ?_, ?_⟩
  · exact (tables "people").2.mpr ⟨isTableName_iff.mp (by decide +kernel), by decide +kernel⟩
  · exact (tables "a.b").2.mpr ⟨isTableName_iff.mp (by decide +kernel), by decide +kernel⟩
  · intro mem
    exact absurd ((tables ".hidden").2.mp mem).1.noLeadingPoint (by decide)
  · intro mem
    exact absurd ((tables "notes.csv").2.mp mem).2 (by decide +kernel)
  · intro mem
    exact absurd ((tables "sub").2.mp mem).2 (by decide +kernel)
  · intro known
    have mem := (tables "../e").1.mpr known
    exact absurd (((tables "../e").2.mp mem).1.marks '/' (by decide)) (by decide)

end MailMerge
