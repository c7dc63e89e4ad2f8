import Mathlib.Data.List.Basic
import Mathlib.Data.List.Induction
import MailMerge.Pairs

/-! Pairs in which a name comes more than once. Merged, they have each name once, at the place
where it came first and with the value with which it came last.
-/

namespace MailMerge.Pairs

variable {α : Type}

/-- The values that a name comes with, in order. -/
def values (pairs : List (String × α)) (name : String) : List α :=
  (pairs.filter (·.1 = name)).map Prod.snd

/-- The kept pairs are the given ones with each name once. The names are in the order in which
they come first, in which no name comes before itself, and the value of a name is the last
one that it comes with.
-/
structure Merged (given kept : List (String × α)) : Prop where
  complete : ∀ name, name ∈ kept.map Prod.fst ↔ name ∈ given.map Prod.fst
  ordered
    : (kept.map Prod.fst).Pairwise fun earlier later =>
        (given.map Prod.fst).idxOf earlier < (given.map Prod.fst).idxOf later
  last : ∀ pair ∈ kept, (values given pair.1).getLast? = some pair.2

-----------------------------------------------------------------------------------------
-- Values
-----------------------------------------------------------------------------------------

theorem values_append (front back : List (String × α)) (name : String)
    : values (front ++ back) name = values front name ++ values back name := by
  simp [values]

/-- Looking a name up finds the first of its values, by induction on the pairs. -/
theorem head?_values (pairs : List (String × α)) (name : String)
    : (values pairs name).head? = pairs.lookup name := by
  induction pairs with
  | nil => rfl
  | cons pair pairs ih =>
      obtain ⟨other, value⟩ := pair
      by_cases same : other = name
      · simp [values, same]
      · have apart : (name == other) = false := by simpa using Ne.symm same
        rw [List.lookup_cons, apart, ← ih]
        simp [values, same]

-----------------------------------------------------------------------------------------
-- Giving a name its value
-----------------------------------------------------------------------------------------

/-- The other names answer as before, by induction on the pairs. -/
theorem lookup_assign_of_ne {name other : String} (apart : other ≠ name) (value : α)
    (pairs : List (String × α))
    : (assign name value pairs).lookup other = pairs.lookup other := by
  have hother : (other == name) = false := by simpa using apart
  induction pairs with
  | nil => simp [assign, List.lookup_cons, hother]
  | cons pair pairs ih =>
      rw [assign]
      split
      · rename_i same
        rw [List.lookup_cons, List.lookup_cons, hother, same, hother]
      · rw [List.lookup_cons, List.lookup_cons, ih]

/-- A name that is not there yet comes last, by induction on the pairs. -/
theorem map_fst_assign (name : String) (value : α) (pairs : List (String × α))
    : (assign name value pairs).map Prod.fst
      = if name ∈ pairs.map Prod.fst then pairs.map Prod.fst
        else pairs.map Prod.fst ++ [name] := by
  induction pairs with
  | nil => simp [assign]
  | cons pair pairs ih =>
      by_cases same : pair.1 = name
      · simp [assign, same]
      · rw [assign, if_neg same, List.map_cons, ih, List.map_cons]
        have hmem : name ∈ pair.1 :: pairs.map Prod.fst ↔ name ∈ pairs.map Prod.fst := by
          simp [Ne.symm same]
        simp only [hmem]
        split <;> rfl

-----------------------------------------------------------------------------------------
-- Merging
-----------------------------------------------------------------------------------------

theorem merge_concat (pairs : List (String × α)) (pair : String × α)
    : merge (pairs ++ [pair]) = assign pair.1 pair.2 (merge pairs) := by
  simp [merge]

/-- In merged pairs a name answers with its last value, by induction on the pairs from the end. -/
theorem lookup_merge (pairs : List (String × α)) (name : String)
    : (merge pairs).lookup name = (values pairs name).getLast? := by
  induction pairs using List.reverseRecOn with
  | nil => rfl
  | append_singleton pairs pair ih =>
      rw [merge_concat, values_append]
      by_cases same : pair.1 = name
      · rw [same, lookup_assign]
        simp [values, same]
      · rw [lookup_assign_of_ne (Ne.symm same), ih]
        simp [values, same]

/-- Merging keeps the names, by induction on the pairs from the end. -/
theorem mem_names_merge_iff (pairs : List (String × α)) (name : String)
    : name ∈ (merge pairs).map Prod.fst ↔ name ∈ pairs.map Prod.fst := by
  induction pairs using List.reverseRecOn with
  | nil => rfl
  | append_singleton pairs pair ih =>
      rw [merge_concat, map_fst_assign, List.map_append, List.mem_append, ← ih, List.map_singleton,
        List.mem_singleton]
      split
      · rename_i known
        constructor
        · exact .inl
        · rintro (member | rfl)
          · exact member
          · exact known
      · rw [List.mem_append, List.mem_singleton]

/-- Merging keeps the names in the order in which they come first, by induction on the pairs from
the end. A name that is new at the end comes after all others.
-/
theorem pairwise_names_merge (pairs : List (String × α))
    : ((merge pairs).map Prod.fst).Pairwise fun earlier later =>
        (pairs.map Prod.fst).idxOf earlier < (pairs.map Prod.fst).idxOf later := by
  induction pairs using List.reverseRecOn with
  | nil => exact .nil
  | append_singleton pairs pair ih =>
      have hplace (name : String) (member : name ∈ (merge pairs).map Prod.fst)
          : ((pairs ++ [pair]).map Prod.fst).idxOf name = (pairs.map Prod.fst).idxOf name := by
        rw [List.map_append,
          List.idxOf_append_of_mem ((mem_names_merge_iff pairs name).mp member)]
      have hkept : ((merge pairs).map Prod.fst).Pairwise fun earlier later =>
          ((pairs ++ [pair]).map Prod.fst).idxOf earlier
            < ((pairs ++ [pair]).map Prod.fst).idxOf later := by
        refine ih.imp_of_mem fun first second before => ?_
        rwa [hplace _ first, hplace _ second]
      rw [merge_concat, map_fst_assign]
      split
      · exact hkept
      · rename_i new
        rw [mem_names_merge_iff] at new
        refine List.pairwise_append.mpr ⟨hkept, List.pairwise_singleton _ _, ?_⟩
        intro name member last hlast
        rw [List.mem_singleton.mp hlast, hplace name member, List.map_append,
          List.idxOf_append_of_notMem new]
        have inside := List.idxOf_lt_length_iff.mpr ((mem_names_merge_iff pairs name).mp member)
        exact Nat.lt_add_right _ inside

/-- Where no name comes twice, every pair is the one that its name finds. -/
theorem lookup_eq_some_of_mem {pairs : List (String × α)} (once : (pairs.map Prod.fst).Nodup)
    {pair : String × α} (member : pair ∈ pairs)
    : pairs.lookup pair.1 = some pair.2 := by
  obtain ⟨front, back, rfl⟩ := List.append_of_mem member
  refine List.lookup_eq_some_iff.mpr ⟨front, back, rfl, fun other hother => ?_⟩
  rw [List.map_append, List.nodup_append] at once
  have apart := once.2.2 other.1 (List.mem_map_of_mem hother) pair.1 (by simp)
  simpa using Ne.symm apart

theorem nodup_names_merge (pairs : List (String × α))
    : ((merge pairs).map Prod.fst).Nodup := by
  refine (pairwise_names_merge pairs).imp fun before => ?_
  rintro rfl
  exact Nat.lt_irrefl _ before

theorem merged_merge (pairs : List (String × α)) : Merged pairs (merge pairs) where
  complete := mem_names_merge_iff pairs
  ordered := pairwise_names_merge pairs
  last pair member := by
    rw [← lookup_merge, lookup_eq_some_of_mem (nodup_names_merge pairs) member]

end MailMerge.Pairs
