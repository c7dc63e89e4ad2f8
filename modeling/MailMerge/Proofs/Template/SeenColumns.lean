import MailMerge.Proofs.MergedPairs
import MailMerge.Proofs.Outcome
import MailMerge.Run.Report

/-! What a template sees of a row: the texts of the columns that it names, and nothing else.
Whether a column is missing or empty, which other columns there are, and in what the values are
kept, all of this leaves the rendered text as it is.
-/

namespace MailMerge

-----------------------------------------------------------------------------------------
-- The columns that a template names
-----------------------------------------------------------------------------------------

namespace Segment

mutual
/-- The columns that a segment names, as values or as conditions, in its branches too. -/
def columns : Segment → List String
  | literal _ => []
  | value column => [column]
  | conditional column shown otherwise =>
      column :: (columnsAll shown ++ columnsOtherwise otherwise)

def columnsAll : List Segment → List String
  | [] => []
  | segment :: rest => segment.columns ++ columnsAll rest

def columnsOtherwise : Option (List Segment) → List String
  | none => []
  | some segments => columnsAll segments
end

end Segment

/-- The columns that a template names, at any depth. -/
def Template.columns (template : Template) : List String :=
  Segment.columnsAll template.segments

-----------------------------------------------------------------------------------------
-- Rows that agree on them
-----------------------------------------------------------------------------------------

/-- A value is there when the text of its column is not empty. -/
theorem hasValue_eq (fields : Fields) (column : String)
    : hasValue (fields column) = decide (fields.text column ≠ "") := by
  cases h : fields column <;> simp [hasValue, Fields.text, h]

namespace Segment

variable {left right : Fields}

mutual
/-- A segment shows the same for rows that agree on the columns it names, by recursion over the
segments in it.
-/
theorem render_congr (segment : Segment)
    (same : ∀ column ∈ segment.columns, left.text column = right.text column)
    : segment.render left = segment.render right := by
  cases segment with
  | literal text => rfl
  | value column => exact same column (by simp [columns])
  | conditional column shown otherwise =>
      have hcolumn : left.text column = right.text column := same column (by simp [columns])
      have hshown : renderAll left shown = renderAll right shown :=
        renderAll_congr shown fun other member => same other (by simp [columns, member])
      have hotherwise : renderOtherwise left otherwise = renderOtherwise right otherwise :=
        renderOtherwise_congr otherwise fun other member => same other (by simp [columns, member])
      simp only [render, hasValue_eq, hcolumn, hshown, hotherwise]

theorem renderAll_congr (segments : List Segment)
    (same : ∀ column ∈ columnsAll segments, left.text column = right.text column)
    : renderAll left segments = renderAll right segments := by
  cases segments with
  | nil => rfl
  | cons segment rest =>
      have hsegment : segment.render left = segment.render right :=
        render_congr segment fun column member => same column (by simp [columnsAll, member])
      have hrest : renderAll left rest = renderAll right rest :=
        renderAll_congr rest fun column member => same column (by simp [columnsAll, member])
      rw [renderAll, renderAll, hsegment, hrest]

theorem renderOtherwise_congr (otherwise : Option (List Segment))
    (same : ∀ column ∈ columnsOtherwise otherwise, left.text column = right.text column)
    : renderOtherwise left otherwise = renderOtherwise right otherwise := by
  cases otherwise with
  | none => rfl
  | some segments => exact renderAll_congr segments same
end

end Segment

-----------------------------------------------------------------------------------------
-- Rows made from pairs
-----------------------------------------------------------------------------------------

/-- Names and values taken apart and put together again, by induction on the pairs. -/
theorem Row.named_map_fst_snd (pairs : List (String × String))
    : named (pairs.map Prod.fst) (pairs.map Prod.snd) = pairs := by
  induction pairs with
  | nil => rfl
  | cons pair pairs ih => rw [List.map_cons, List.map_cons, named, ih]

namespace Fields

def ofHashMap (map : Std.HashMap String String) : Fields :=
  fun column => map[column]?

def ofTreeMap (map : Std.TreeMap String String) : Fields :=
  fun column => map[column]?

/-- A name is looked up by a search from the end. -/
theorem ofLastPairs_apply (pairs : List (String × String)) (column : String)
    : ofLastPairs pairs column
      = pairs.findSomeRev? fun pair => if pair.1 = column then some pair.2 else none := by
  rw [ofLastPairs, List.lookup_eq_findSome?, List.findSomeRev?_eq_findSome?_reverse]
  simp only [beq_iff_eq, @eq_comm _ column]

/-- In a map made of pairs, the last pair with a name answers. -/
theorem ofHashMap_ofList (pairs : List (String × String))
    : ofHashMap (.ofList pairs) = ofLastPairs pairs := by
  funext column
  rw [ofLastPairs_apply, ofHashMap, Std.HashMap.ofList_eq_insertMany_empty,
    Std.HashMap.getElem?_insertMany_list]
  simp

theorem ofTreeMap_ofList (pairs : List (String × String))
    : ofTreeMap (.ofList pairs) = ofLastPairs pairs := by
  funext column
  rw [ofLastPairs_apply, ofTreeMap, Std.TreeMap.ofList_eq_insertMany_empty,
    Std.TreeMap.getElem?_insertMany_list]
  simp

/-- Where no name comes twice, its first pair is its last one. -/
theorem ofLastPairs_eq_ofPairs {pairs : List (String × String)}
    (once : (pairs.map Prod.fst).Nodup)
    : ofLastPairs pairs = ofPairs pairs := by
  funext column
  rw [ofLastPairs, ofPairs]
  cases h : pairs.lookup column with
  | none =>
      rw [List.lookup_eq_none_iff] at h ⊢
      simpa using h
  | some value =>
      obtain ⟨front, back, rfl, -⟩ := List.lookup_eq_some_iff.mp h
      have once' : ((front ++ (column, value) :: back).reverse.map Prod.fst).Nodup := by
        rw [List.map_reverse]
        exact (List.reverse_perm _).nodup_iff.mpr once
      have member : (column, value) ∈ (front ++ (column, value) :: back).reverse := by simp
      exact Pairs.lookup_eq_some_of_mem once' member

/-- The ways in which pairs are made into a row: left as they are, turned into cells, parted
into columns and values, or put into a map.
-/
inductive MadeOf (pairs : List (String × String)) : Fields → Prop
  | pairs : MadeOf pairs (ofPairs pairs)
  | lastPairs : MadeOf pairs (ofLastPairs pairs)
  | cells : MadeOf pairs (Row.fields { cells := pairs })
  | values : MadeOf pairs (Row.ofValues (pairs.map Prod.fst) (pairs.map Prod.snd)).fields
  | hashMap : MadeOf pairs (ofHashMap (.ofList pairs))
  | treeMap : MadeOf pairs (ofTreeMap (.ofList pairs))

/-- Where no name comes twice, all rows made of the pairs answer alike. -/
theorem MadeOf.eq_ofPairs {pairs : List (String × String)} {fields : Fields}
    (made : MadeOf pairs fields) (once : (pairs.map Prod.fst).Nodup)
    : fields = ofPairs pairs := by
  cases made with
  | pairs => rfl
  | lastPairs => exact ofLastPairs_eq_ofPairs once
  | cells => rfl
  | values =>
      rw [Row.ofValues, Row.named_map_fst_snd]
      rfl
  | hashMap => rw [ofHashMap_ofList, ofLastPairs_eq_ofPairs once]
  | treeMap => rw [ofTreeMap_ofList, ofLastPairs_eq_ofPairs once]

end Fields

namespace Template

/-- A template renders alike for two rows in which the columns that it names have the same
texts, where a missing column has the empty text. So it renders pairs in which no name comes
twice alike in all that can be made of them.
-/
theorem render_sees_columns (template : Template)
    : (∀ left right : Fields,
        (∀ column ∈ template.columns, left.text column = right.text column)
        → template.render left = template.render right)
      ∧ ∀ (pairs : List (String × String)) (left right : Fields),
          (pairs.map Prod.fst).Nodup
          → Fields.MadeOf pairs left
          → Fields.MadeOf pairs right
          → template.render left = template.render right := by
  refine ⟨fun left right same => Segment.renderAll_congr template.segments same, ?_⟩
  intro pairs left right once madeLeft madeRight
  rw [madeLeft.eq_ofPairs once, madeRight.eq_ofPairs once]

/-- A condition on an empty and on a missing column, a name that comes twice in a row, and a
column that the template does not name.
-/
theorem render_sees_columns_nested
    : let template : Template :=
        {
          source := "\x7b?vip \x7b$name\x7d!!\x7b?city in [$city]\x7d\x7d."
          segments :=
            [
              .conditional "vip" [.value "name"]
                (some [.conditional "city" [.literal "in ", .value "city"] none]),
              .literal "."
            ]
        }
      let left := Fields.ofHashMap (.ofList [("city", "Ulm"), ("age", "36"), ("vip", "")])
      let right := Row.fields { cells := [("name", ""), ("city", "Ulm"), ("city", "Rom")] }
      let pairs := [("vip", "1"), ("name", "\x7b$city\x7d")]
      compile template.source = .ok template
      ∧ (∀ column ∈ template.columns, left.text column = right.text column)
      ∧ template.render left = template.render right
      ∧ template.render right = "in Ulm."
      ∧ (pairs.map Prod.fst).Nodup
      ∧ template.render (.ofTreeMap (.ofList pairs)) = template.render (.ofPairs pairs)
      ∧ template.render (.ofPairs pairs) = "\x7b$city\x7d." := by
  intro template left right pairs
  have hcompile : compile template.source = .ok template :=
    Outcome.eq_ok_of_toOption (by decide +kernel)
  have hleft : left = Fields.ofLastPairs [("city", "Ulm"), ("age", "36"), ("vip", "")] :=
    Fields.ofHashMap_ofList _
  have same : ∀ column ∈ template.columns, left.text column = right.text column := by
    rw [hleft]
    decide
  have once : (pairs.map Prod.fst).Nodup := by decide
  obtain ⟨hsame, hmade⟩ := render_sees_columns template
  exact ⟨hcompile, same, hsame left right same, by decide +kernel, once,
    hmade pairs _ _ once .treeMap .pairs, by decide +kernel⟩

end Template

end MailMerge
