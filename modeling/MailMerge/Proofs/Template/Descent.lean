import MailMerge.Proofs.Template.Item

/-! A reader of template text that goes through it once, from left to right, and descends
into a conditional where it meets one. It never looks for the end of a conditional: the
items of a branch are read until one of them ends the branch.
-/

namespace MailMerge.Template.Descent

open MailMerge.Text

/-- What ends the items of a branch. -/
inductive Stop where
  | separator
  | brace
  deriving DecidableEq, Repr

def Stop.text : Stop → List Char
  | separator => ['!', '!']
  | brace => ['}']

/-- The items of a branch, read from the front of a text of a given size, what ended them,
and the text behind that.
-/
structure Branch (size : Nat) where
  segments : List Segment
  stop : Stop
  rest : List Char
  shorter : rest.length < size

/-- Puts what was read earlier in front of a branch. -/
def Branch.push {small size : Nat} (branch : Branch small)
    (add : List Segment → List Segment) (smaller : small < size)
    : Branch size where
  segments := add branch.segments
  stop := branch.stop
  rest := branch.rest
  shorter := Nat.lt_trans branch.shorter smaller

section

variable {small size : Nat} (branch : Branch small) (add : List Segment → List Segment)
    (smaller : small < size)

@[simp]
theorem Branch.segments_push
    : (branch.push add smaller).segments = add branch.segments :=
  rfl

@[simp]
theorem Branch.stop_push : (branch.push add smaller).stop = branch.stop :=
  rfl

@[simp]
theorem Branch.rest_push : (branch.push add smaller).rest = branch.rest :=
  rfl

end

/-- The branches of a conditional, read from the front of a text of a given size, and the
text behind its closing brace.
-/
structure Conditional (size : Nat) where
  shown : List Segment
  otherwise : Option (List Segment)
  rest : List Char
  shorter : rest.length < size

def Conditional.segment {size : Nat} (inner : Conditional size) (name : List Char)
    : Segment :=
  .conditional (String.ofList name) inner.shown inner.otherwise

mutual
/-- Reads the items of a branch; none if the text ends before the branch does. -/
def branch? (divided : Bool) : (cs : List Char) → Option (Branch cs.length)
  | [] => none
  | c :: cs =>
      match Item.read (.branch divided) c cs with
      | .text => (branch? divided cs).map (·.push (Segment.consChar c) (by simp))
      | .value name rest shorter =>
          (branch? divided rest).map (·.push (.value (String.ofList name) :: ·) shorter)
      | .opening name rest shorter =>
          match conditional? rest with
          | none => none
          | some inner =>
              (branch? divided inner.rest).map
                (·.push (inner.segment name :: ·) (Nat.lt_trans inner.shorter shorter))
      | .separator rest shorter => some { segments := [], stop := .separator, rest, shorter }
      | .close rest shorter => some { segments := [], stop := .brace, rest, shorter }
termination_by cs => (cs.length, 0)
decreasing_by
  · exact .left _ _ (by simp)
  · exact .left _ _ shorter
  · exact .left _ _ shorter
  · exact .left _ _ (Nat.lt_trans inner.shorter shorter)

/-- Reads a conditional behind its opening: its first branch, and its second one if a
separator ended the first.
-/
def conditional? (cs : List Char) : Option (Conditional cs.length) :=
  match branch? false cs with
  | none => none
  | some ⟨shown, .brace, rest, shorter⟩ => some { shown, otherwise := none, rest, shorter }
  | some ⟨shown, .separator, middle, shorter⟩ =>
      match branch? true middle with
      | none => none
      | some second =>
          some
            {
              shown
              otherwise := some second.segments
              rest := second.rest
              shorter := Nat.lt_trans second.shorter shorter
            }
termination_by (cs.length, 1)
decreasing_by
  · exact .right _ (by decide)
  · exact .left _ _ shorter
end

/-- Reads the items at the top of a text of `size` bytes, of which `cs` is still to come.
A conditional that the text ends in is reported where the outermost one opens.
-/
def items (size : Nat) : List Char → Except MarkupError (List Segment)
  | [] => .ok []
  | c :: cs =>
      match Item.read .top c cs with
      | .text | .close .. => (items size cs).map (Segment.consChar c)
      | .value name rest _ => (items size rest).map (.value (String.ofList name) :: ·)
      | .opening name rest _ =>
          match conditional? rest with
          | none => .error (.unclosed (String.ofList name) (size - width (c :: cs)))
          | some inner => (items size inner.rest).map (inner.segment name :: ·)
      | .separator .. => .error (.strayElse (size - width (c :: cs)))
termination_by cs => cs.length
decreasing_by
  · simp
  · assumption
  · exact Nat.lt_trans inner.shorter (by assumption)

/-- Reads a whole template. -/
def read (raw : String) : Except MarkupError Template :=
  (items (width raw.toList) raw.toList).map fun segments => { source := raw, segments }

end MailMerge.Template.Descent
