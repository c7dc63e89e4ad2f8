/-! Programs made of rules: what is to be done with the lines of a text that a pattern
holds for.
-/

namespace MailMerge.Shell.Awk

/-- Operators between two values. -/
inductive Operator where
  | add
  | subtract
  | multiply
  | divide
  | remainder
  | power
  | append
  | less
  | atMost
  | equal
  | unequal
  | more
  | atLeast
  deriving DecidableEq, Repr

/-- Where a line is taken from. -/
inductive Feed where
  | input
  | file
  | command
  deriving DecidableEq, Repr

inductive Expr where
  | number (value : Float)
  | text (value : List Char)
  | pattern (text : List Char)
  | name (name : String)
  | field (index : Expr)
  | entry (table : String) (keys : List Expr)
  | isKey (table : String) (keys : List Expr)
  | group (body : Expr)
  | plus (body : Expr)
  | minus (body : Expr)
  | not (body : Expr)
  | binary (operator : Operator) (left right : Expr)
  | both (left right : Expr)
  | either (left right : Expr)
  | fits (isNegated : Bool) (text pattern : Expr)
  | choice (test yes no : Expr)
  | assign (target value : Expr)
  | update (operator : Operator) (target value : Expr)
  /-- Counts a target up or down; the value is the one before or after. -/
  | step (isBefore isUp : Bool) (target : Expr)
  | call (name : String) (arguments : List Expr)
  | builtin (name : String) (arguments : List Expr)
  | line (feed : Feed) (origin target : Option Expr)

/-- Where output goes, if not to the channel for it. -/
inductive Direction where
  | replace
  | append
  | command
  deriving DecidableEq, Repr

inductive Statement where
  | expr (value : Expr)
  | print (values : List Expr) (target : Option (Direction × Expr))
  | printFormat (values : List Expr) (target : Option (Direction × Expr))
  | block (body : List Statement)
  | branch (test : Expr) (yes : Statement) (no : Option Statement)
  | whileDo (test : Expr) (body : Statement)
  | doWhile (body : Statement) (test : Expr)
  | loop (start : Option Statement) (test : Option Expr) (step : Option Statement)
      (body : Statement)
  | each (name table : String) (body : Statement)
  | next
  | nextFile
  | leaveLoop
  | nextRound
  | exit (status : Option Expr)
  | giveBack (value : Option Expr)
  | delete (table : String) (keys : List Expr)

/-- When a rule applies. -/
inductive Condition where
  | first
  | last
  | always
  | holds (test : Expr)
  /-- From a line that one test holds for to one that another holds for. -/
  | between (number : Nat) (opening closing : Expr)

structure Rule where
  condition : Condition
  action : List Statement

structure Function where
  parameters : List String
  body : List Statement

structure Program where
  rules : List Rule
  functions : List (String × Function)

/-- What is wrong with a program, and in which line. -/
structure Fault where
  line : Nat
  message : String
  /-- Whether the line stands without the word for it. -/
  isBare : Bool

end MailMerge.Shell.Awk
