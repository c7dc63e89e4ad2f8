/-! LIKE patterns: `%` takes any run of characters, `_` takes one, and a backslash takes
the character behind it as it stands. A pattern always covers the whole value. It is
compiled as a regular expression, so an engine for those decides how large it may be.
-/

namespace MailMerge.Select

/-- One step of a pattern. -/
inductive Wildcard where
  /-- Any run of characters, also none. -/
  | run
  /-- Any one character. -/
  | one
  /-- One character as it stands. -/
  | exactly (c : Char)
  deriving DecidableEq, Repr

/-- Reads the steps of a pattern; a backslash at the end stands for itself. -/
def Wildcard.ofChars : List Char → List Wildcard
  | [] => []
  | ['\\'] => [exactly '\\']
  | '\\' :: c :: cs => exactly c :: ofChars cs
  | c :: cs =>
      (if c = '%' then run else if c = '_' then one else exactly c) :: ofChars cs

/-- Whether a step that takes one character takes this one. -/
def Wildcard.takes (c : Char) : Wildcard → Bool
  | run => false
  | one => true
  | exactly c' => c == c'

namespace Expression

/-- The characters that stand for themselves only behind a backslash. -/
def metacharacters : List Char :=
  ['\\', '.', '+', '*', '?', '(', ')', '|', '[', ']', '{', '}', '^', '$', '#', '&', '-', '~']

def escape (c : Char) : List Char :=
  if c ∈ metacharacters then ['\\', c] else [c]

end Expression

/-- What an engine for regular expressions says against an expression that it refuses. -/
structure Limits where
  refusal? : String → Option String

/-- A pattern with the text it was read from. -/
structure Pattern where
  text : String
  steps : List Wildcard
  deriving DecidableEq, Repr

namespace Pattern

/-- Writes an expression for what the text of a pattern takes. -/
def translate : List Char → List Char
  | [] => []
  | ['\\'] => Expression.escape '\\'
  | '\\' :: c :: cs => Expression.escape c ++ translate cs
  | c :: cs =>
      (if c = '%' then ['.', '*'] else if c = '_' then ['.'] else Expression.escape c)
        ++ translate cs

/-- The expression of a pattern, which only the whole of a value can match. -/
def expression (text : String) : String :=
  "(?s)^" ++ String.ofList (translate text.toList) ++ "$"

def read (text : String) : Pattern where
  text
  steps := Wildcard.ofChars text.toList

/-- Compiles a pattern, unless the engine refuses its expression. -/
def compile (limits : Limits) (text : String) : Except String Pattern :=
  match limits.refusal? (expression text) with
  | some reason => .error reason
  | none => .ok (read text)

/-- For each tail of a list, from the longest, whether it or a shorter one is marked. -/
def anyLater : List Bool → List Bool
  | [] => []
  | mark :: marks =>
      let later := anyLater marks
      (mark || later.headD false) :: later

/-- Marks the tails of a value whose first character a step takes, if the tail behind that
character is marked.
-/
def afterOne (step : Wildcard) : List Char → List Bool → List Bool
  | c :: cs, _ :: marks =>
      (step.takes c && marks.headD false) :: afterOne step cs marks
  | _, _ => [false]

/-- Marks each tail of a value, from the longest, that the steps cover. -/
def coveredTails (value : List Char) : List Wildcard → List Bool
  | [] => value.map (fun _ => false) ++ [true]
  | .run :: steps => anyLater (coveredTails value steps)
  | step :: steps => afterOne step value (coveredTails value steps)

/-- Whether the steps cover the whole value. Steps before the first run take the value
character by character; from there on all tails are tried together.
-/
def covers : List Wildcard → List Char → Bool
  | [], value => value.isEmpty
  | .run :: steps, value => (coveredTails value (.run :: steps)).headD false
  | _ :: _, [] => false
  | step :: steps, c :: cs => step.takes c && covers steps cs

def accepts (pattern : Pattern) (value : String) : Bool :=
  covers pattern.steps value.toList

end Pattern

end MailMerge.Select
