import Mathlib.Data.List.Basic
import MailMerge.Files.Tree

/-! The paths to the entries of a directory. The path that is made of the path of a directory
and a name in it leads to the entry of that name and nowhere else, unless the name or the
whole path is too long to be followed.
-/

namespace MailMerge.Files

/-- What can be the name of an entry. -/
structure NamesEntry (name : String) : Prop where
  noSlash : '/' ∉ name.toList
  noZero : '\x00' ∉ name.toList
  isFilled : name ≠ ""
  notHere : name ≠ "."
  notAbove : name ≠ ".."

instance (name : String) : Decidable (NamesEntry name) :=
  decidable_of_iff
    ('/' ∉ name.toList ∧ '\x00' ∉ name.toList ∧ name ≠ "" ∧ name ≠ "." ∧ name ≠ "..")
    ⟨fun ⟨noSlash, noZero, isFilled, notHere, notAbove⟩ =>
        ⟨noSlash, noZero, isFilled, notHere, notAbove⟩,
      fun ⟨noSlash, noZero, isFilled, notHere, notAbove⟩ =>
        ⟨noSlash, noZero, isFilled, notHere, notAbove⟩⟩

namespace Tree

-----------------------------------------------------------------------------------------
-- Paths
-----------------------------------------------------------------------------------------

theorem namesOf_slash (front name : String) (noSlash : '/' ∉ name.toList)
    : namesOf (front ++ "/" ++ name) = namesOf front ++ [name] := by
  have split : (front ++ "/" ++ name).toList = front.toList ++ '/' :: name.toList := by simp
  rw [namesOf, split, List.splitOn_append_cons_self, List.splitOn_eq_singleton noSlash,
    List.map_append, List.map_singleton, String.ofList_toList]
  rfl

theorem startsWith_slash_iff (front pattern : String)
    : (front ++ "/").startsWith (pattern ++ "/") = true
      ↔ front = pattern ∨ front.startsWith (pattern ++ "/") = true := by
  have slash : "/".toList = ['/'] := rfl
  rw [String.startsWith_string_iff, String.startsWith_string_iff, String.toList_append,
    String.toList_append, slash, List.prefix_concat_iff, List.append_left_inj,
    String.toList_inj]
  exact or_congr_left eq_comm

/-- What a path starts with up to a slash stands in front of its last name. -/
theorem startsWith_slash_name (front pattern name : String) (noSlash : '/' ∉ name.toList)
    : (front ++ "/" ++ name).startsWith (pattern ++ "/")
      = (front ++ "/").startsWith (pattern ++ "/") := by
  rw [Bool.eq_iff_iff, String.startsWith_string_iff, String.startsWith_string_iff,
    String.toList_append (s := front ++ "/")]
  constructor
  · intro starts
    rcases List.prefix_or_prefix_of_prefix starts (List.prefix_append _ _) with inside | beyond
    · exact inside
    -- Beyond the slash the pattern would have its own slash in the name.
    · obtain ⟨more, ends⟩ := beyond
      rw [← ends, List.prefix_append_right_inj] at starts
      obtain rfl | ⟨most, last, rfl⟩ := List.eq_nil_or_concat' more
      · exact ⟨[], by rw [← ends, List.append_nil, List.append_nil]⟩
      · rw [String.toList_append (s := pattern), ← List.append_assoc] at ends
        obtain rfl : last = '/' := List.singleton_inj.mp (List.append_inj' ends rfl).2
        exact absurd (starts.subset (List.mem_append_right _ List.mem_cons_self)) noSlash
  · exact fun starts => starts.trans (List.prefix_append _ _)

/-- Where the entries of a directory are looked for: the place where a path to one of them
starts, and the names in front of the last, given what stands in front of its last slash.
-/
def approach (here : Route) (front : String) : Route × List String :=
  if (front ++ "/").startsWith (rootPath ++ "/") then
    ([], namesOf (front.drop rootPath.length).toString)
  else (if (front ++ "/").startsWith "/" then ["/"] else here, namesOf front)

theorem start_slash (here : Route) {front name : String} (noSlash : '/' ∉ name.toList)
    (apart : front ++ "/" ++ name ≠ rootPath)
    : start here (front ++ "/" ++ name)
      = ((approach here front).1, (approach here front).2 ++ [name]) := by
  have absolute := startsWith_slash_name front "" name noSlash
  rw [String.empty_append] at absolute
  rw [start, if_neg apart, startsWith_slash_name front rootPath name noSlash, absolute,
    namesOf_slash front name noSlash, approach]
  by_cases below : (front ++ "/").startsWith (rootPath ++ "/") = true
  · rw [if_pos below, if_pos below]
    have within : rootPath.length ≤ front.toList.length := by
      have := (String.startsWith_string_iff.mp below).length_le
      simpa [String.length_toList] using this
    have dropped : ((front ++ "/" ++ name).drop rootPath.length).toString
        = (front.drop rootPath.length).toString ++ "/" ++ name := by
      rw [← String.toList_inj]
      simp [String.toList_copy_drop, List.drop_append_of_le_length, within]
    rw [dropped, namesOf_slash _ _ noSlash]
  · rw [if_neg below, if_neg below]

/-- The path of a directory itself starts as the paths to its entries do, or is the root. -/
theorem start_eq_approach (here : Route) {front : String} (isFilled : front ≠ "")
    (apart : front ≠ rootPath)
    : start here front = approach here front := by
  have below := startsWith_slash_iff front rootPath
  have absolute := startsWith_slash_iff front ""
  rw [String.empty_append] at absolute
  rw [start, if_neg apart, approach]
  simp only [below, absolute, apart, isFilled, false_or]

theorem start_of_relative (here : Route) {path : String}
    (relative : path.toList.head? ≠ some '/')
    : start here path = (here, namesOf path) := by
  have apart : ∀ pattern : String, pattern.toList.head? = some '/'
      → ¬path.startsWith pattern = true := by
    intro pattern slash starts
    obtain ⟨rest, split⟩ := String.startsWith_string_iff.mp starts
    rw [← split, List.head?_append, slash] at relative
    exact relative rfl
  have noRoot : path ≠ rootPath := by
    rintro rfl
    exact relative rfl
  have notBelow := apart (rootPath ++ "/") (by decide +kernel)
  rw [start, if_neg noRoot, if_neg notBelow, if_neg (apart "/" rfl)]

/-- What stands in front of the names in the paths of the entries of a directory. -/
theorem exists_front {path : String} (isFilled : path ≠ "")
    : ∃ front,
        (path = front ++ "/" ∨ path = front)
        ∧ ∀ name, joinPath path name = front ++ "/" ++ name := by
  by_cases ends : path.endsWith "/" = true
  · have split := ends
    rw [← String.endsWith_toSlice, String.Slice.endsWith_string_iff] at split
    obtain ⟨front, split⟩ := split
    have whole : path = String.ofList front ++ "/" := by
      rw [← String.toList_inj]
      simpa using split.symm
    refine ⟨String.ofList front, Or.inl whole, ?_⟩
    intro name
    rw [joinPath, if_pos (Or.inr ends), ← whole]
  · refine ⟨path, Or.inr rfl, ?_⟩
    intro name
    rw [joinPath, if_neg (not_or.mpr ⟨isFilled, ends⟩)]

-----------------------------------------------------------------------------------------
-- Walks
-----------------------------------------------------------------------------------------

theorem find?_root (tree : Tree) : tree.find? [] = some .directory :=
  if_pos rfl

section Walk

variable {tree : Tree} {hops : Nat} {here next mid : Route} {name : String}
  {names : List String}

theorem walk_cons_of_plain (followed : tree.follow here name = .ok next)
    (plain : ∀ target, tree.find? next ≠ some (.link target))
    : tree.walk true hops here (name :: names) = tree.walk true hops next names := by
  rw [walk, followed]
  cases found : tree.find? next with
  | none => simp only
  | some entry =>
      cases entry with
      | link target => exact absurd found (plain target)
      | file content => simp only
      | directory => simp only

theorem walk_cons_of_stay (directory : tree.find? here = some .directory)
    (stays : name = "" ∨ name = ".")
    : tree.walk true hops here (name :: names) = tree.walk true hops here names := by
  have followed : tree.follow here name = .ok here := by
    simp only [follow, directory, if_pos stays]
  exact walk_cons_of_plain followed (by simp [directory])

/-- A walk fails, or comes to a place from where it goes on along any more names, with the
links that it has not yet followed. By induction on the walk: a link puts its own names in
front of the others, and those stay behind.
-/
theorem walk_append (tree : Tree) (hops : Nat) (here : Route) (names : List String)
    : (∃ e, ∀ more, tree.walk true hops here (names ++ more) = .error e)
      ∨ ∃ left mid, ∀ more,
          tree.walk true hops here (names ++ more) = tree.walk true left mid more := by
  induction hops, here, names using walk.induct tree true with
  | case1 hops here => exact Or.inr ⟨hops, here, fun more => rfl⟩
  | case2 hops here name names e failed =>
      exact Or.inl ⟨e, fun more => by simp only [List.cons_append, walk, failed]⟩
  | case3 hops here name names next followed target link last => simp at last
  | case4 here name names next followed target link onward =>
      exact Or.inl ⟨.linkLoop, fun more => by simp [walk, followed, link]⟩
  | case5 here name names next followed target link onward hops place way starts ih =>
      have step : ∀ more, tree.walk true (hops + 1) here (name :: names ++ more)
          = tree.walk true hops place (way ++ names ++ more) := by
        intro more
        simp [walk, followed, link, starts]
      simpa only [Nat.succ_eq_add_one, step] using ih
  | case6 hops here name names next followed plain ih =>
      simpa only [List.cons_append, walk_cons_of_plain followed plain] using ih

theorem eq_of_walk_stay (walked : tree.walk true hops here [""] = .ok mid)
    : mid = here := by
  cases found : tree.find? here with
  | none => simp [walk, follow, found] at walked
  | some entry =>
      cases entry with
      | directory =>
          rw [walk_cons_of_stay found (Or.inl rfl), walk] at walked
          exact (Except.ok.inj walked).symm
      | file content => simp [walk, follow, found] at walked
      | link target => simp [walk, follow, found] at walked

theorem walk_singleton (directory : tree.find? here = some .directory)
    (named : NamesEntry name)
    (plain : ∀ target, tree.find? (here ++ [name]) ≠ some (.link target))
    : tree.walk true hops here [name]
      = if maxNameBytes < name.utf8ByteSize then .error .nameTooLong
        else .ok (here ++ [name]) := by
  have moves : ¬(name = "" ∨ name = ".") := not_or.mpr ⟨named.isFilled, named.notHere⟩
  have followed : tree.follow here name
      = if maxNameBytes < name.utf8ByteSize then .error .nameTooLong
        else .ok (here ++ [name]) := by
    simp only [follow, directory, if_neg moves, if_neg named.notAbove]
  by_cases long : maxNameBytes < name.utf8ByteSize
  · rw [if_pos long] at followed ⊢
    simp only [walk, followed]
  · rw [if_neg long] at followed ⊢
    rw [walk_cons_of_plain followed plain, walk]

end Walk

-----------------------------------------------------------------------------------------
-- Paths to entries
-----------------------------------------------------------------------------------------

section Entries

variable {tree : Tree} {here : Route} {path name : String}

theorem resolve_eq_walk (noZero : '\x00' ∉ path.toList) (isFilled : path ≠ "")
    : tree.resolve path
      = if maxPathBytes < path.utf8ByteSize then .error .nameTooLong
        else tree.walk true maxHops (start [] path).1 (start [] path).2 := by
  rw [resolve, resolveWith, if_neg (by simpa using noZero), if_neg isFilled]

theorem resolve_eq_ok_iff
    : tree.resolve path = .ok here
      ↔ '\x00' ∉ path.toList
        ∧ path ≠ ""
        ∧ path.utf8ByteSize ≤ maxPathBytes
        ∧ tree.walk true maxHops (start [] path).1 (start [] path).2 = .ok here := by
  by_cases zero : '\x00' ∈ path.toList
  · simp [resolve, resolveWith, zero]
  by_cases empty : path = ""
  · simp [resolve, resolveWith, empty]
  rw [resolve_eq_walk zero empty, ← Nat.not_lt]
  by_cases long : maxPathBytes < path.utf8ByteSize <;> simp [zero, empty, long]

/-- The path of a directory goes the way to its entries, with a slash behind it or not. -/
theorem walk_approach {front : String} (shape : path = front ++ "/" ∨ path = front)
    (isFilled : path ≠ "")
    (walked : tree.walk true maxHops (start [] path).1 (start [] path).2 = .ok here)
    : ∃ ending,
        (ending = [] ∨ ending = [""])
        ∧ tree.walk true maxHops (approach [] front).1 ((approach [] front).2 ++ ending)
          = .ok here := by
  rcases shape with rfl | rfl
  · have apart : front ++ "/" ++ "" ≠ rootPath := by
      intro same
      have last := congrArg (fun path => path.toList.getLast?) same
      simp [rootPath] at last
    have noSlash : '/' ∉ "".toList := by simp
    have starts := start_slash [] noSlash apart
    rw [String.append_empty] at starts
    rw [starts] at walked
    exact ⟨[""], Or.inr rfl, walked⟩
  · refine ⟨[], Or.inl rfl, ?_⟩
    rw [List.append_nil]
    by_cases root : path = rootPath
    · have starts : start [] rootPath = ([], []) := if_pos rfl
      have approaches : approach [] rootPath = ([], [""]) := by decide +kernel
      rw [root, starts] at walked
      rwa [root, approaches, walk_cons_of_stay (find?_root tree) (Or.inl rfl)]
    · rwa [← start_eq_approach [] isFilled root]

/-- The paths to the entries of a directory start alike and come by the directory. -/
theorem exists_walk_of_resolve (resolved : tree.resolve path = .ok here)
    : ∃ left, ∀ name,
        '/' ∉ name.toList
        → joinPath path name ≠ rootPath
        → tree.walk true maxHops (start [] (joinPath path name)).1
            (start [] (joinPath path name)).2
          = tree.walk true left here [name] := by
  obtain ⟨-, isFilled, -, walked⟩ := resolve_eq_ok_iff.mp resolved
  obtain ⟨front, shape, joined⟩ := exists_front isFilled
  obtain ⟨ending, trailing, reached⟩ := walk_approach shape isFilled walked
  rcases walk_append tree maxHops (approach [] front).1 (approach [] front).2 with
    ⟨e, fails⟩ | ⟨left, mid, goesOn⟩
  · rw [fails] at reached
    cases reached
  · obtain rfl : mid = here := by
      rw [goesOn] at reached
      rcases trailing with rfl | rfl
      · rw [walk] at reached
        exact Except.ok.inj reached
      · exact (eq_of_walk_stay reached).symm
    refine ⟨left, ?_⟩
    intro name noSlash apart
    rw [joined] at apart ⊢
    rw [start_slash [] noSlash apart, goesOn]

theorem exists_joinPath_eq (path name : String)
    : ∃ mark,
        (mark = "" ∨ mark = "/") ∧ joinPath path name = path ++ mark ++ name := by
  rw [joinPath]
  by_cases ends : path = "" ∨ path.endsWith "/" = true
  · exact ⟨"", Or.inl rfl, by rw [if_pos ends, String.append_empty]⟩
  · exact ⟨"/", Or.inr rfl, if_neg ends⟩

/-- A path that starts in the working directory does not join to the path of the root. -/
theorem joinPath_ne_rootPath {path : String} (isFilled : path ≠ "")
    (relative : path.toList.head? ≠ some '/') (name : String)
    : joinPath path name ≠ rootPath := by
  intro same
  obtain ⟨mark, -, joined⟩ := exists_joinPath_eq path name
  have filled : path.toList ≠ [] := by simpa using isFilled
  have first := congrArg (fun path => path.toList.head?) (joined.symm.trans same)
  simp only [String.toList_append, List.append_assoc, List.head?_append_of_ne_nil _ filled]
    at first
  exact relative first

theorem resolve_joinPath (resolved : tree.resolve path = .ok here)
    (directory : tree.find? here = some .directory) (named : NamesEntry name)
    (apart : joinPath path name ≠ rootPath)
    (plain : ∀ target, tree.find? (here ++ [name]) ≠ some (.link target))
    : tree.resolve (joinPath path name)
      = if maxPathBytes < (joinPath path name).utf8ByteSize then .error .nameTooLong
        else if maxNameBytes < name.utf8ByteSize then .error .nameTooLong
        else .ok (here ++ [name]) := by
  obtain ⟨noZero, isFilled, -, -⟩ := resolve_eq_ok_iff.mp resolved
  obtain ⟨left, comesBy⟩ := exists_walk_of_resolve resolved
  have joinedNoZero : '\x00' ∉ (joinPath path name).toList := by
    obtain ⟨mark, rfl | rfl, joined⟩ := exists_joinPath_eq path name <;>
      simp [joined, noZero, named.noZero]
  have joinedFilled : joinPath path name ≠ "" := by
    obtain ⟨mark, -, joined⟩ := exists_joinPath_eq path name
    simp [joined, isFilled]
  rw [resolve_eq_walk joinedNoZero joinedFilled, comesBy name named.noSlash apart,
    walk_singleton directory named plain]

/-- The path of an entry is found to lead to what stands there, unless it is too long. -/
theorem stat_joinPath_eq_ok_iff (resolved : tree.resolve path = .ok here)
    (directory : tree.find? here = some .directory) (named : NamesEntry name)
    (apart : joinPath path name ≠ rootPath)
    (plain : ∀ target, tree.find? (here ++ [name]) ≠ some (.link target)) {entry : Entry}
    : tree.stat (joinPath path name) = .ok entry
      ↔ (joinPath path name).utf8ByteSize ≤ maxPathBytes
        ∧ name.utf8ByteSize ≤ maxNameBytes
        ∧ tree.find? (here ++ [name]) = some entry := by
  rw [stat, resolve_joinPath resolved directory named apart plain, ← Nat.not_lt,
    ← Nat.not_lt]
  by_cases long : maxPathBytes < (joinPath path name).utf8ByteSize
  · simp [entryAt, long]
  by_cases longName : maxNameBytes < name.utf8ByteSize
  · simp [entryAt, longName]
  rw [if_neg long, if_neg longName]
  simp only [entryAt, long, longName, not_false_eq_true, true_and]
  cases tree.find? (here ++ [name]) <;> simp

end Entries

end Tree

end MailMerge.Files
