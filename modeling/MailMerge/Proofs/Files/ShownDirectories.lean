import MailMerge.Files.View
import MailMerge.Proofs.Files.DirectoryEntries

/-! Directories as a program gets to see them. A directory is shown with its entries if it can be
listed, and if the path to each name in it leads to what is listed under that name and to
nothing else. A tree shows the directories that it holds, as long as no path to an entry of
theirs is too long.
-/

namespace MailMerge.Files

/-- A directory that is seen with just these entries. What the files among them hold, and whether
they can be read, is another matter.
-/
structure View.Shows (files : View) (path : String) (entries : List (String × Kind))
    : Prop where
  directory : files.stat path = .ok .directory
  listed : files.list path = .ok (entries.map Prod.fst)
  once : (entries.map Prod.fst).Nodup
  named : ∀ entry ∈ entries, NamesEntry entry.1
  found
    : ∀ name kind,
        NamesEntry name
        → (files.stat (joinPath path name) = .ok kind ↔ (name, kind) ∈ entries)

theorem View.isFile_iff {files : View} {path : String}
    : files.isFile path = true ↔ files.stat path = .ok .file := by
  unfold isFile
  split <;> simp_all

/-- The entries of a directory by their kinds. -/
def kinds (entries : List (String × Entry)) : List (String × Kind) :=
  entries.map fun entry => (entry.1, entry.2.kind)

theorem map_fst_kinds (entries : List (String × Entry))
    : (kinds entries).map Prod.fst = entries.map Prod.fst := by
  rw [kinds, List.map_map]
  rfl

/-- A tree shows a directory that it holds, with the kinds of its entries. -/
theorem Tree.Holds.shows {tree : Tree} {path : String} {entries : List (String × Entry)}
    (holds : tree.Holds path entries)
    (apart : ∀ name, NamesEntry name → joinPath path name ≠ rootPath)
    (reachable : ∀ entry ∈ entries, (joinPath path entry.1).utf8ByteSize ≤ maxPathBytes)
    : tree.view.Shows path (kinds entries) where
  directory := by
    obtain ⟨here, resolved, directory, -⟩ := list_eq_ok_iff.mp holds.listed
    simp only [Tree.view, Tree.stat, resolved, entryAt, directory]
    rfl
  listed := by
    simp only [Tree.view, holds.listed, map_fst_kinds]
    rfl
  once := by
    obtain ⟨here, -, -, rfl⟩ := list_eq_ok_iff.mp holds.listed
    rw [map_fst_kinds]
    exact List.pairwise_map.mpr (holds.placedOnce.nodup_children here)
  named := by
    intro entry member
    obtain ⟨entry, listed, rfl⟩ := List.mem_map.mp member
    exact holds.named entry listed
  found := by
    intro name kind named
    have stats (entry : Entry)
        : tree.stat (joinPath path name) = .ok entry ↔ (name, entry) ∈ entries := by
      rw [holds.stat_joinPath_eq_ok_iff named (apart name named)]
      exact and_iff_right_of_imp fun listed => reachable _ listed
    simp only [Tree.view, kinds, List.mem_map, Prod.exists, Prod.mk.injEq]
    constructor
    · intro seen
      cases stat : tree.stat (joinPath path name) with
      | error e => rw [stat] at seen; cases seen
      | ok entry =>
          rw [stat] at seen
          exact ⟨name, entry, (stats entry).mp stat, rfl, Except.ok.inj seen⟩
    · rintro ⟨_, entry, listed, rfl, rfl⟩
      rw [(stats entry).mpr listed]
      rfl

/-- A tree gives the content of a file in a directory that it holds. -/
theorem Tree.Holds.read_joinPath {tree : Tree} {path name : String} {content : Bytes}
    {entries : List (String × Entry)} (holds : tree.Holds path entries)
    (apart : joinPath path name ≠ rootPath)
    (reachable : (joinPath path name).utf8ByteSize ≤ maxPathBytes)
    (listed : (name, .file content) ∈ entries)
    : tree.view.read (joinPath path name) = .ok content := by
  have named : NamesEntry name := holds.named _ listed
  have stat := (holds.stat_joinPath_eq_ok_iff named apart).mpr ⟨reachable, listed⟩
  change tree.read _ = _
  rw [read, stat]

end MailMerge.Files
