/-! Compiled templates as segments: rendering against a row, and equality of templates.
A missing column and an empty one are the same to every segment.
-/

namespace MailMerge

/-- One rendering instruction of a compiled template. A conditional shows its first branch
when the column has a value, and otherwise its second branch if it has one.
-/
inductive Segment where
  | literal (text : String)
  | value (column : String)
  | conditional (column : String) (shown : List Segment) (otherwise : Option (List Segment))

/-- What a row answers when asked for a column by name. -/
abbrev Fields := String → Option String

namespace Fields

/-- The first pair with the name answers. -/
def ofPairs (pairs : List (String × String)) : Fields :=
  fun column => pairs.lookup column

/-- The last pair with the name answers. -/
def ofLastPairs (pairs : List (String × String)) : Fields :=
  fun column => pairs.reverse.lookup column

/-- The text of a column; a missing column has the empty text. -/
def text (fields : Fields) (column : String) : String :=
  (fields column).getD ""

end Fields

/-- A looked-up value counts as present when it is there and not empty. -/
def hasValue (value : Option String) : Bool :=
  value.any (· ≠ "")

namespace Segment

mutual
/-- The text of one segment for a row. -/
def render (fields : Fields) : Segment → String
  | literal text => text
  | value column => fields.text column
  | conditional column shown otherwise =>
      if hasValue (fields column) then renderAll fields shown
      else renderOtherwise fields otherwise

/-- The text of a list of segments, one after the other. -/
def renderAll (fields : Fields) : List Segment → String
  | [] => ""
  | segment :: rest => segment.render fields ++ renderAll fields rest

/-- The text of a second branch, empty when there is none. -/
def renderOtherwise (fields : Fields) : Option (List Segment) → String
  | none => ""
  | some segments => renderAll fields segments
end

/-- Rendering goes segment by segment, by induction on the first list. -/
@[simp]
theorem renderAll_append (fields : Fields) (front back : List Segment)
    : renderAll fields (front ++ back) = renderAll fields front ++ renderAll fields back := by
  induction front with
  | nil => simp [renderAll]
  | cons segment rest ih => simp [renderAll, ih, String.append_assoc]

mutual
def decEq : (left right : Segment) → Decidable (left = right)
  | literal text, literal text' =>
      if h : text = text' then isTrue (by rw [h]) else isFalse (by simpa using h)
  | value column, value column' =>
      if h : column = column' then isTrue (by rw [h]) else isFalse (by simpa using h)
  | conditional column shown otherwise, conditional column' shown' otherwise' =>
      match decEqAll shown shown', decEqOtherwise otherwise otherwise' with
      | isTrue hs, isTrue ho =>
          if h : column = column' then isTrue (by rw [h, hs, ho])
          else isFalse (by simp [h])
      | isFalse hs, _ => isFalse (by simp [hs])
      | _, isFalse ho => isFalse (by simp [ho])
  | literal _, value _ => isFalse (by simp)
  | literal _, conditional .. => isFalse (by simp)
  | value _, literal _ => isFalse (by simp)
  | value _, conditional .. => isFalse (by simp)
  | conditional .., literal _ => isFalse (by simp)
  | conditional .., value _ => isFalse (by simp)

def decEqAll : (left right : List Segment) → Decidable (left = right)
  | [], [] => isTrue rfl
  | left :: lefts, right :: rights =>
      match decEq left right, decEqAll lefts rights with
      | isTrue h, isTrue hs => isTrue (by rw [h, hs])
      | isFalse h, _ => isFalse (by simp [h])
      | _, isFalse hs => isFalse (by simp [hs])
  | [], _ :: _ => isFalse (by simp)
  | _ :: _, [] => isFalse (by simp)

def decEqOtherwise : (left right : Option (List Segment)) → Decidable (left = right)
  | none, none => isTrue rfl
  | some lefts, some rights =>
      match decEqAll lefts rights with
      | isTrue h => isTrue (by rw [h])
      | isFalse h => isFalse (by simp [h])
  | none, some _ => isFalse (by simp)
  | some _, none => isFalse (by simp)
end

instance : DecidableEq Segment := decEq

end Segment

end MailMerge
