/-! The command language: words with their expansions, redirections, and commands. -/

namespace MailMerge.Shell

/-- What the name of a parameter is followed by: what to do where it has no value. -/
inductive Fallback where
  /-- Stands for another word. -/
  | use
  /-- Is given another value. -/
  | assign
  /-- Ends the script with a message. -/
  | complain
  /-- Stands for another word where the parameter has a value, else for nothing. -/
  | instead
  deriving DecidableEq, Repr

/-- How a redirection opens its target. -/
inductive Opening where
  | read
  | write
  | overwrite
  | append
  | readWrite
  | copy
  deriving DecidableEq, Repr

mutual
/-- A piece of a word. Expansions that are not quoted are split into fields. -/
inductive Part where
  | text (text : String) (isQuoted : Bool)
  | parameter (name : String) (form : Form) (isQuoted : Bool)
  | output (script : Option Command) (isQuoted : Bool)
  | arithmetic (expression : List Part) (isQuoted : Bool)

/-- How the value of a parameter is used. -/
inductive Form where
  | value
  | length
  | fallback (kind : Fallback) (isForEmpty : Bool) (word : List Part)
  | strip (isPrefix isLongest : Bool) (pattern : List Part)
  | malformed

inductive Redirect where
  | file (channel : Nat) (opening : Opening) (target : List Part)
  /-- The text of a document that stands in the script, by its number. -/
  | document (channel : Nat) (number : Nat)

inductive Command where
  | simple (line : Nat) (settings : List (String × List Part)) (words : List (List Part))
      (redirects : List Redirect)
  | pipeline (stages : List Command)
  | negated (body : Command)
  | both (first second : Command)
  | either (first second : Command)
  | sequence (first second : Command)
  | background (body : Command)
  | redirected (line : Nat) (body : Command) (redirects : List Redirect)
  | subshell (body : Command)
  | choose (test accepted : Command) (refused : Option Command)
  /-- Repeats the body as long as the test ends as wanted. -/
  | loop (wanted : Bool) (test body : Command)
  | forEach (line : Nat) (name : String) (items : List (List Part)) (body : Command)
  | select (line : Nat) (word : List Part)
      (cases : List (List (List Part) × Option Command))
  | define (name : String) (body : Command)
end

abbrev Word := List Part

def Redirect.channel : Redirect → Nat
  | .file channel _ _ => channel
  | .document channel _ => channel

instance : Inhabited Command := ⟨.simple 0 [] [] []⟩

/-! ### Names and signs -/

def isNameStart (c : Char) : Bool :=
  c.isAlpha || c = '_'

def isNameChar (c : Char) : Bool :=
  c.isAlphanum || c = '_'

def isName (text : String) : Bool :=
  text.toList.head?.any isNameStart && text.toList.all isNameChar

/-- Characters that are parameters by themselves. -/
def isSpecialParameter (c : Char) : Bool :=
  "@*#?-$!0".toList.contains c

/-- Characters that end a word unless they are quoted. -/
def endsWord (c : Char) : Bool :=
  " \t\n;&|()<>".toList.contains c

def keywords : List String :=
  [
    "!", "case", "do", "done", "elif", "else", "esac", "fi", "for", "if", "in", "then",
    "until", "while", "\x7b", "\x7d"
  ]

end MailMerge.Shell
