import MailMerge.Template.Compile

/-! Templates that join columns: what they show is the texts of the columns with the delimiter
between them, whatever the columns are called and whatever the delimiter is.
-/

namespace MailMerge.Template

open Segment

/-- Joined columns show their texts with the delimiter between them, by the recursion of the
joining.
-/
theorem renderAll_joinSegments (fields : Fields) (delimiter : String) (columns : List String)
    : renderAll fields (joinSegments delimiter columns)
      = delimiter.intercalate (columns.map fields.text) := by
  fun_induction joinSegments delimiter columns with
  | case1 => simp [renderAll, String.intercalate_nil]
  | case2 column => simp [renderAll, Segment.render]
  | case3 column rest nonempty ih =>
      have hdelimiter
          : renderAll fields (if delimiter = "" then [] else [.literal delimiter])
            = delimiter := by
        split
        · rename_i h
          rw [h]
          rfl
        · simp [renderAll, Segment.render]
      rw [renderAll, renderAll_append, ih, hdelimiter, List.map_cons,
        String.intercalate_cons_of_ne_nil (by simpa using nonempty), Segment.render,
        String.append_assoc]

/-- What joined columns show depends on the texts of these columns only. -/
theorem render_ofColumns_congr {left right : Fields} {columns : List String}
    (same : ∀ column ∈ columns, left.text column = right.text column) (delimiter : String)
    : (ofColumns columns delimiter).render left = (ofColumns columns delimiter).render right := by
  unfold render ofColumns
  rw [renderAll_joinSegments, renderAll_joinSegments, List.map_congr_left same]

/-- The segments of joined columns are their values with the delimiter, as one literal, between
each two of them, by the recursion of the joining.
-/
theorem joinSegments_eq (delimiter : String) (columns : List String)
    : joinSegments delimiter columns
      = if delimiter = "" then columns.map .value
        else (columns.map .value).intersperse (.literal delimiter) := by
  fun_induction joinSegments delimiter columns with
  | case1 => simp
  | case2 column => simp
  | case3 column rest nonempty ih =>
      rw [ih]
      obtain ⟨next, rest, rfl⟩ := List.exists_cons_of_ne_nil nonempty
      split <;> simp

/-- A template that joins columns consists of their values and of the delimiter, each taken as it
stands. So it shows the texts of the columns in order, a missing column with the empty text,
with the delimiter between each two of them.
-/
theorem ofColumns_shows_join (columns : List String) (delimiter : String)
    : (ofColumns columns delimiter).segments
        = (if delimiter = "" then columns.map .value
          else (columns.map .value).intersperse (.literal delimiter))
      ∧ ∀ fields : Fields,
          (ofColumns columns delimiter).render fields
          = delimiter.intercalate (columns.map fields.text) := by
  constructor
  · exact joinSegments_eq delimiter columns
  · intro fields
    exact renderAll_joinSegments fields delimiter columns

/-- A delimiter, a column and a value that would be markup, and a column that comes twice. -/
example
    : (ofColumns ["\x7b$a\x7d", "b", "c", "b"] "!!").render
        (.ofPairs [("b", "\x7b?a \x7d"), ("\x7b$a\x7d", "!!")])
      = "!!!!\x7b?a \x7d!!!!\x7b?a \x7d" := by
  decide +kernel

end MailMerge.Template
