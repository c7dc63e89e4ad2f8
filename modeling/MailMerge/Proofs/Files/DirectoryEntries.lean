import Mathlib.Data.List.Nodup
import MailMerge.Files.Change
import MailMerge.Proofs.Files.DirectoryPaths

/-! What a directory holds: the entries that are listed are those that paths lead to, as long
as each route of the tree leads to one node. Trees keep to that as files and directories are
put into them and removed.
-/

namespace MailMerge.Files.Tree

-----------------------------------------------------------------------------------------
-- Listings
-----------------------------------------------------------------------------------------

/-- A tree in which no route leads to two nodes. -/
def PlacedOnce (tree : Tree) : Prop :=
  (tree.places.map Prod.fst).Nodup

section Listings

variable {tree : Tree} {here route : Route} {name : String} {entry : Entry}

theorem list_eq_ok_iff {path : String} {listed : List (String × Entry)}
    : tree.list path = .ok listed
      ↔ ∃ here,
          tree.resolve path = .ok here
          ∧ tree.find? here = some .directory
          ∧ tree.children here = listed := by
  rw [list]
  cases tree.resolve path with
  | error e => simp
  | ok here =>
      simp only [Except.ok.injEq, exists_eq_left']
      cases tree.find? here with
      | none => simp
      | some entry => cases entry <;> simp

theorem PlacedOnce.mem_places_iff (once : tree.PlacedOnce) {i : Nat}
    : (route, i) ∈ tree.places ↔ tree.places.lookup route = some i := by
  rw [List.lookup_eq_some_iff]
  constructor
  · intro mem
    obtain ⟨front, back, split⟩ := List.append_of_mem mem
    refine ⟨front, back, split, ?_⟩
    intro place before
    rw [PlacedOnce, split, List.map_append, List.map_cons] at once
    have apart := List.disjoint_of_nodup_append once (List.mem_map_of_mem before)
    simpa using fun same : route = place.1 => apart (by simp [same])
  · rintro ⟨front, back, split, -⟩
    rw [split]
    exact List.mem_append_right _ List.mem_cons_self

theorem PlacedOnce.mem_entries_iff (once : tree.PlacedOnce)
    : (route, entry) ∈ tree.entries ↔ (tree.nodeAt? route).map Inode.entry = some entry := by
  simp [entries, nodeAt?, once.mem_places_iff, List.mem_filterMap, Option.bind_eq_some_iff]

theorem find?_concat (tree : Tree) (here : Route) (name : String)
    : tree.find? (here ++ [name]) = (tree.nodeAt? (here ++ [name])).map Inode.entry :=
  if_neg (by simp)

/-- What an entry of the tree is listed as below a directory. -/
theorem mem_children_iff_entries
    : (name, entry) ∈ tree.children here
      ↔ (here ++ [name], entry) ∈ tree.entries ∧ name ≠ "/" := by
  simp only [children, List.mem_filterMap, Prod.exists, Option.bind_eq_some_iff,
    Option.ite_none_right_eq_some, Option.some.injEq, Prod.mk.injEq]
  constructor
  · rintro ⟨place, _, mem, last, -, ⟨rfl, noRoot⟩, rfl, rfl⟩
    exact ⟨mem, noRoot⟩
  · rintro ⟨mem, noRoot⟩
    exact ⟨_, _, mem, name, by simp, ⟨rfl, noRoot⟩, rfl, rfl⟩

/-- What is listed below a directory is what the routes below it lead to. -/
theorem PlacedOnce.mem_children_iff (once : tree.PlacedOnce) (noRoot : name ≠ "/")
    : (name, entry) ∈ tree.children here ↔ tree.find? (here ++ [name]) = some entry := by
  rw [mem_children_iff_entries, once.mem_entries_iff, find?_concat]
  exact and_iff_left noRoot

/-- No two entries of a directory are listed under one name. -/
theorem PlacedOnce.nodup_children (once : tree.PlacedOnce) (here : Route)
    : (tree.children here).Pairwise fun left right => left.1 ≠ right.1 := by
  have entriesOnce : tree.entries.Pairwise fun left right => left.1 ≠ right.1 := by
    refine List.Pairwise.filterMap _ ?_ (List.pairwise_map.mp once)
    rintro ⟨left, i⟩ ⟨right, j⟩ apart _ isLeft _ isRight
    obtain ⟨_, -, rfl⟩ := Option.map_eq_some_iff.mp isLeft
    obtain ⟨_, -, rfl⟩ := Option.map_eq_some_iff.mp isRight
    exact apart
  refine List.Pairwise.filterMap _ ?_ entriesOnce
  rintro ⟨left, _⟩ ⟨right, _⟩ apart _ isLeft _ isRight same
  simp only [Option.bind_eq_some_iff, Option.ite_none_right_eq_some, Option.some.injEq]
    at isLeft isRight
  obtain ⟨_, -, ⟨rfl, -⟩, rfl⟩ := isLeft
  obtain ⟨_, -, ⟨rfl, -⟩, rfl⟩ := isRight
  exact apart (congrArg (fun name => here ++ [name]) same)

theorem placedOnce_empty : empty.PlacedOnce :=
  List.nodup_nil

theorem places_touch (tree : Tree) (route : Route) : (tree.touch route).places = tree.places := by
  unfold touch setNodeAt
  cases tree.places.lookup route <;> rfl

theorem PlacedOnce.put (once : tree.PlacedOnce) (route : Route) (entry : Entry)
    : (tree.put route entry).PlacedOnce := by
  unfold Tree.put
  cases vacant : tree.places.lookup route with
  | some i => exact once
  | none =>
      have fresh : ∀ i, (route, i) ∉ tree.places := by
        intro i mem
        simpa using List.lookup_eq_none_iff.mp vacant _ mem
      rw [PlacedOnce, places_touch, List.map_append]
      refine List.Nodup.append once (List.nodup_singleton route) ?_
      simpa using fresh

theorem PlacedOnce.makeDirectories (once : tree.PlacedOnce) (route : Route)
    : (tree.makeDirectories route).PlacedOnce := by
  refine List.foldlRecOn (motive := PlacedOnce) _ _ once ?_
  intro tree once depth _
  by_cases there : (tree.find? (route.take depth)).isSome = true
  · rwa [if_pos there]
  · rw [if_neg there]
    exact once.put _ _

theorem PlacedOnce.plant (once : tree.PlacedOnce) (path : String) (content : Bytes)
    : (tree.plant path content).PlacedOnce :=
  (once.makeDirectories _).put _ _

theorem PlacedOnce.plantDirectory (once : tree.PlacedOnce) (path : String)
    : (tree.plantDirectory path).PlacedOnce :=
  once.makeDirectories _

theorem PlacedOnce.write (once : tree.PlacedOnce) {path : String} {content : Bytes}
    {changed : Tree} (written : tree.write path content = .ok changed)
    : changed.PlacedOnce := by
  unfold Tree.write at written
  cases resolved : tree.resolve path with
  | error e => rw [resolved] at written; cases written
  | ok route =>
      simp only [resolved] at written
      split at written
      · cases written
      · obtain rfl := Except.ok.inj written
        exact once.put _ _

theorem PlacedOnce.remove (once : tree.PlacedOnce) {path : String} {changed : Tree}
    (removed : tree.remove path = .ok changed)
    : changed.PlacedOnce := by
  unfold Tree.remove at removed
  cases resolved : tree.resolveName path with
  | error e => rw [resolved] at removed; cases removed
  | ok route =>
      simp only [resolved] at removed
      split at removed
      · cases removed
      · obtain rfl := Except.ok.inj removed
        rw [PlacedOnce, prune, places_touch]
        exact List.Nodup.sublist (List.filter_sublist.map Prod.fst) once

end Listings

/-- A directory holds some files and directories and nothing else, each under a name of its
own that is not too long.
-/
structure Holds (tree : Tree) (path : String) (entries : List (String × Entry)) : Prop where
  listed : tree.list path = .ok entries
  placedOnce : tree.PlacedOnce
  noLinks : ∀ name target, (name, .link target) ∉ entries
  named : ∀ entry ∈ entries, NamesEntry entry.1
  short : ∀ entry ∈ entries, entry.1.utf8ByteSize ≤ maxNameBytes

/-- The path to an entry that a directory holds leads to just this entry. -/
theorem Holds.stat_joinPath_eq_ok_iff {tree : Tree} {path name : String}
    {entries : List (String × Entry)} {entry : Entry} (holds : tree.Holds path entries)
    (named : NamesEntry name) (apart : joinPath path name ≠ rootPath)
    : tree.stat (joinPath path name) = .ok entry
      ↔ (joinPath path name).utf8ByteSize ≤ maxPathBytes ∧ (name, entry) ∈ entries := by
  obtain ⟨here, resolved, directory, rfl⟩ := list_eq_ok_iff.mp holds.listed
  have noRoot : name ≠ "/" := by
    rintro rfl
    exact named.noSlash (by decide)
  have listed : ∀ entry,
      (name, entry) ∈ tree.children here ↔ tree.find? (here ++ [name]) = some entry :=
    fun _ => holds.placedOnce.mem_children_iff noRoot
  have noLink : ∀ target, tree.find? (here ++ [name]) ≠ some (.link target) :=
    fun target found => holds.noLinks name target ((listed _).mpr found)
  rw [Tree.stat_joinPath_eq_ok_iff resolved directory named apart noLink, ← listed]
  constructor
  · rintro ⟨reachable, -, inDirectory⟩
    exact ⟨reachable, inDirectory⟩
  · rintro ⟨reachable, inDirectory⟩
    exact ⟨reachable, holds.short _ inDirectory, inDirectory⟩

/-- The name of an entry of the root leads to the entry. -/
theorem resolve_singleton {tree : Tree} {name : String} (named : NamesEntry name)
    (short : name.utf8ByteSize ≤ maxNameBytes)
    (plain : ∀ target, tree.find? [name] ≠ some (.link target))
    : tree.resolve name = .ok [name] := by
  have relative : name.toList.head? ≠ some '/' :=
    fun slash => named.noSlash (List.mem_of_mem_head? slash)
  have single : namesOf name = [name] := by
    rw [namesOf, List.splitOn_eq_singleton named.noSlash, List.map_singleton,
      String.ofList_toList]
  have within : maxNameBytes ≤ maxPathBytes := by decide
  refine resolve_eq_ok_iff.mpr ⟨named.noZero, named.isFilled, Nat.le_trans short within, ?_⟩
  rw [start_of_relative [] relative, single, walk_singleton (find?_root tree) named plain,
    if_neg (Nat.not_lt.mpr short)]
  rfl

/-- A directory in the root holds what is listed below it. -/
theorem holds_singleton {tree : Tree} {name : String} {entries : List (String × Entry)}
    (named : NamesEntry name) (short : name.utf8ByteSize ≤ maxNameBytes)
    (placedOnce : tree.PlacedOnce) (directory : tree.find? [name] = some .directory)
    (listed : tree.children [name] = entries)
    (noLinks : ∀ name target, (name, .link target) ∉ entries)
    (names : ∀ entry ∈ entries, NamesEntry entry.1)
    (shorts : ∀ entry ∈ entries, entry.1.utf8ByteSize ≤ maxNameBytes)
    : tree.Holds name entries where
  listed := by
    have plain : ∀ target, tree.find? [name] ≠ some (.link target) := by simp [directory]
    exact list_eq_ok_iff.mpr ⟨_, resolve_singleton named short plain, directory, listed⟩
  placedOnce := placedOnce
  noLinks := noLinks
  named := names
  short := shorts

end MailMerge.Files.Tree
