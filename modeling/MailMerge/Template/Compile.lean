import MailMerge.Template.Markup
import MailMerge.Template.Segment

/-! Compilation of template text to segments. The reading of a conditional finds the extent
of its body first and then compiles the text of each branch by itself.
-/

namespace MailMerge.Template

open MailMerge.Text

/-- Where a run of template text stands. A separator is an error at the top, and square
brackets hold a reference inside a branch.
-/
inductive Scope where
  | top
  | branch
  deriving DecidableEq, Repr

/-- Why a text is no template, with the byte offset at which the fault starts. -/
inductive MarkupError where
  | unclosed (column : String) (offset : Nat)
  | strayElse (offset : Nat)
  deriving DecidableEq, Repr

def MarkupError.offset : MarkupError → Nat
  | unclosed _ offset => offset
  | strayElse offset => offset

def MarkupError.message : MarkupError → String
  | unclosed column offset =>
      s!"conditional on '{column}' opened at offset {offset} is never closed"
  | strayElse offset =>
      s!"else separator '!!' at offset {offset} is outside any conditional"

/-- What stands at the head of a text. -/
inductive Mark where
  /-- The first character is text. -/
  | text
  /-- A reference to a column. -/
  | value (name rest : List Char)
  /-- A conditional, with the width of its opening. -/
  | conditional (name : List Char) (start : Nat) (body : Body)
  /-- A conditional without an end. -/
  | unclosed (name : List Char)
  /-- A separator outside of every conditional. -/
  | strayElse

/-- The text left behind a mark. -/
def Mark.Leaves (mark : Mark) (size : Nat) : Prop :=
  match mark with
  | value _ rest => rest.length < size
  | conditional _ _ body =>
      body.shown.length < size
      ∧ (∀ text ∈ body.otherwise, text.length < size)
      ∧ body.rest.length < size
  | _ => True

/-- Reads a conditional behind its opening brace. -/
def Mark.conditional? (cs : List Char) : Option Mark :=
  (opening? cs).map fun (name, after) =>
    match Body.cut? 0 false (after.drop (leadWidth after)) with
    | some body => conditional name (2 + name.length + leadWidth after) body
    | none => unclosed name

/-- Reads the mark at the head of the text `c :: cs`. -/
def Mark.read (scope : Scope) (c : Char) (cs : List Char) : Mark :=
  if c = '{' then
    match reference? '}' cs with
    | some (name, rest) => value name rest
    | none => (conditional? cs).getD text
  else if c = '[' ∧ scope = .branch then
    match reference? ']' cs with
    | some (name, rest) => value name rest
    | none => text
  else if c = '!' ∧ scope = .top ∧ cs.head? = some '!' then
    strayElse
  else
    text

/-- Every piece of text behind a mark is shorter than the text that the mark heads. -/
theorem Mark.read_leaves (scope : Scope) (c : Char) (cs : List Char)
    : (Mark.read scope c cs).Leaves (c :: cs).length := by
  have hvalue {closing : Char} {name rest : List Char}
      (h : reference? closing cs = some (name, rest))
      : (value name rest).Leaves (c :: cs).length := by
    simp only [Leaves, eq_of_reference? h, List.length_cons, List.length_append]
    omega
  simp only [Mark.read]
  split
  · split
    · rename_i h
      exact hvalue h
    · cases h : opening? cs with
      | none => simp [conditional?, h, Leaves]
      | some opened =>
          obtain ⟨name, after⟩ := opened
          simp only [conditional?, h, Option.map_some, Option.getD_some]
          split
          · rename_i body hbody
            have hcut := congrArg List.length (Body.text_append_rest_of_cut? hbody)
            have hopen := congrArg List.length (eq_of_opening? h).1
            simp only [Body.text, List.length_append, List.length_drop, List.length_cons,
              List.length_nil] at hcut hopen
            refine ⟨?_, ?_, ?_⟩
            · simp; omega
            · intro text htext
              simp only [Option.mem_def] at htext
              simp only [htext, Option.elim_some, List.length_append, List.length_cons,
                List.length_nil] at hcut
              simp; omega
            · simp; omega
          · simp [Leaves]
  · split
    · split
      · rename_i h
        exact hvalue h
      · simp [Leaves]
    · split <;> simp [Leaves]

end MailMerge.Template

namespace MailMerge.Segment

/-- Puts a character in front of segments, joining it with literal text that stands there. -/
def consChar (c : Char) : List Segment → List Segment
  | literal text :: rest => literal (String.singleton c ++ text) :: rest
  | segments => literal (String.singleton c) :: segments

end MailMerge.Segment

namespace MailMerge.Template

open MailMerge.Text

/-- Compiles the text that starts at a byte offset of the whole template, from left to
right; the first fault ends the compilation.
-/
def compileText (scope : Scope) (offset : Nat)
    : List Char → Except MarkupError (List Segment)
  | [] => .ok []
  | c :: cs =>
      match h : Mark.read scope c cs with
      | .text => (compileText scope (offset + c.utf8Size) cs).map (Segment.consChar c)
      | .value name rest =>
          (compileText scope (offset + name.length + 3) rest).map
            (.value (String.ofList name) :: ·)
      | .conditional name lead body => do
          let start := offset + lead
          let shown ← compileText .branch start body.shown
          let otherwise ←
            match _hb : body.otherwise with
            | none => pure none
            | some text =>
                some <$> compileText .branch (start + width body.shown + 2) text
          let rest ← compileText scope (start + width body.text) body.rest
          pure (.conditional (String.ofList name) shown otherwise :: rest)
      | .unclosed name => .error (.unclosed (String.ofList name) offset)
      | .strayElse => .error (.strayElse offset)
termination_by cs => cs.length
decreasing_by
  · simp
  all_goals
    have hleaves := h ▸ Mark.read_leaves scope c cs
    simp only [Mark.Leaves] at hleaves
  · exact hleaves
  · exact hleaves.1
  · exact hleaves.2.2
  · exact hleaves.2.1 _ (by assumption)

end MailMerge.Template

namespace MailMerge

/-- A template: its text, and the segments that render it. -/
structure Template where
  source : String
  segments : List Segment
  deriving DecidableEq

namespace Template

def compile (source : String) : Except MarkupError Template :=
  (compileText .top 0 source.toList).map fun segments => { source, segments }

/-- A template that shows a text and reads none of it as markup. -/
def ofLiteral (text : String) : Template where
  source := text
  segments := if text = "" then [] else [.literal text]

/-- Stands between the columns of a joining template when nothing else is asked for. -/
def defaultDelimiter : String := " "

/-- The segments that show columns one after the other with a delimiter between them. -/
def joinSegments (delimiter : String) : List String → List Segment
  | [] => []
  | [column] => [.value column]
  | column :: rest =>
      .value column
        :: ((if delimiter = "" then [] else [.literal delimiter])
          ++ joinSegments delimiter rest)

/-- The markup that refers to a column. -/
def reference (column : String) : String :=
  "\x7b$" ++ column ++ "\x7d"

/-- A template that shows columns in order with a delimiter between them. Neither the
delimiter nor a name is read as markup, so the text need not compile to the segments.
-/
def ofColumns (columns : List String) (delimiter : String) : Template where
  source := delimiter.intercalate (columns.map reference)
  segments := joinSegments delimiter columns

def render (template : Template) (fields : Fields) : String :=
  Segment.renderAll fields template.segments

end Template

end MailMerge
