import MailMerge.Pairs
import MailMerge.Shell.Syntax

/-! Arithmetic on whole numbers of 64 bits, with variables that may be set on the way. -/

namespace MailMerge.Shell.Arithmetic

inductive Token where
  | number (value : Int)
  | name (text : String)
  | sign (text : String)
  deriving DecidableEq, Repr

/-- A number within the 64 bits of a word, by leaving out what is above them. -/
def wrap (value : Int) : Int :=
  Int.bmod value 0x10000000000000000

/-- A number within 64 bits, by stopping at the nearest end. -/
def clamp (value : Int) : Int :=
  max (-0x8000000000000000) (min 0x7FFFFFFFFFFFFFFF value)

/-! ### Numbers -/

def digitOf? (base : Nat) (c : Char) : Option Nat :=
  let value :=
    if c.isDigit then c.toNat - '0'.toNat
    else if 'a' ≤ c ∧ c ≤ 'z' then c.toNat - 'a'.toNat + 10
    else if 'A' ≤ c ∧ c ≤ 'Z' then c.toNat - 'A'.toNat + 10
    else base
  if value < base then some value else none

/-- The digits at the head of a text, as a number, and the text behind them. -/
def takeDigits (base : Nat) (cs : List Char) : Nat × List Char :=
  let digits := cs.takeWhile fun c => (digitOf? base c).isSome
  (digits.foldl (fun value c => value * base + (digitOf? base c).getD 0) 0,
    cs.drop digits.length)

/-- The number at the head of a text: a leading zero makes it octal, and an `x` behind
the zero hexadecimal.
-/
def takeNumber (cs : List Char) : Nat × List Char :=
  match cs with
  | '0' :: x :: c :: rest =>
      if (x = 'x' ∨ x = 'X') ∧ (digitOf? 16 c).isSome = true then takeDigits 16 (c :: rest)
      else takeDigits 8 cs
  | '0' :: _ => takeDigits 8 cs
  | _ => takeDigits 10 cs

/-- The number that a whole text spells, with white space around it; an empty text is zero
where that is allowed.
-/
def numberOf? (decimal : Bool) (text : String) : Option Int :=
  let isSpace (c : Char) : Bool := c = ' ' || ('\t' ≤ c && c ≤ '\r')
  let cs := text.toList.dropWhile isSpace
  let (isNegative, body) :=
    match cs with
    | '-' :: cs => (true, cs)
    | '+' :: cs => (false, cs)
    | cs => (false, cs)
  let (value, rest) := if decimal then takeDigits 10 body else takeNumber body
  if body.head?.any Char.isDigit then
    if rest.all isSpace then some (clamp (if isNegative then -value else value)) else none
  else if text.toList.all isSpace ∧ !decimal then some 0
  else none

/-! ### Tokens -/

/-- The signs, longer ones first. -/
def signs : List String :=
  [
    "<<=", ">>=", "==", "!=", "<=", ">=", "&&", "||", "<<", ">>", "+=", "-=", "*=", "/=",
    "%=", "&=", "^=", "|=", "+", "-", "*", "/", "%", "<", ">", "=", "!", "~", "&", "^", "|",
    "?", ":", "(", ")"
  ]

/-- Cuts an expression into tokens. What is no token is a sign that nothing accepts. -/
def tokens : Nat → List Char → List Token
  | 0, _ => []
  | _ + 1, [] => []
  | fuel + 1, c :: cs =>
      if c = ' ' ∨ c = '\t' ∨ c = '\n' then tokens fuel cs
      else if c.isDigit then
        let (value, rest) := takeNumber (c :: cs)
        .number (clamp value) :: tokens fuel rest
      else if isNameStart c then
        .name (String.ofList (c :: cs.takeWhile isNameChar))
          :: tokens fuel (cs.dropWhile isNameChar)
      else
        match signs.find? fun sign => sign.toList.isPrefixOf (c :: cs) with
        | some sign => .sign sign :: tokens fuel ((c :: cs).drop sign.length)
        | none => [.sign "bad"]

/-! ### Evaluation -/

/-- The tokens ahead, and the variables that have been set. -/
structure Progress where
  rest : List Token
  written : List (String × Int)

/-- What is wrong with an expression, or with the value of a variable in it. -/
inductive Problem where
  | expression (message : String)
  | unreadable (message : String)
  /-- A quotient that no number of the machine can hold. -/
  | overflow
  deriving DecidableEq, Repr

def Problem.message (text : String) : Problem → String
  | expression message => s!"arithmetic expression: {message}: \"{text}\""
  | unreadable message => message
  | overflow => "Floating point exception"

/-- How an expression looks at variables. -/
structure Scope where
  read : String → Except Problem Int

abbrev Eval := ReaderT Scope (StateT Progress (Except Problem))

/-- Operators between two numbers by how closely they bind; a smaller number is closer. -/
def binary : List (String × Nat) :=
  [
    ("*", 0), ("/", 0), ("%", 0), ("+", 1), ("-", 1), ("<<", 2), (">>", 2), ("<", 3),
    ("<=", 3), (">", 3), (">=", 3), ("==", 4), ("!=", 4), ("&", 5), ("^", 6), ("|", 7)
  ]

/-- The bits of a number in a word. -/
def bits (value : Int) : UInt64 :=
  (value % 0x10000000000000000).toNat.toUInt64

def ofBits (word : UInt64) : Int :=
  wrap word.toNat

def truth (holds : Bool) : Int :=
  if holds then 1 else 0

/-- Refuses divisions without a result. -/
def checkDivision (left right : Int) : Except Problem Unit :=
  if right = 0 then .error (.expression "division by zero")
  else if right = -1 ∧ left = -0x8000000000000000 then .error .overflow
  else .ok ()

def apply (sign : String) (left right : Int) : Except Problem Int :=
  match sign with
  | "*" => .ok (wrap (left * right))
  | "/" => (checkDivision left right).map fun _ => Int.tdiv left right
  | "%" => (checkDivision left right).map fun _ => Int.tmod left right
  | "+" => .ok (wrap (left + right))
  | "-" => .ok (wrap (left - right))
  | "<<" => .ok (ofBits (bits left <<< bits right))
  | ">>" => .ok (left / Int.ofNat (Nat.pow 2 (bits right % 64).toNat))
  | "<" => .ok (truth (left < right))
  | "<=" => .ok (truth (left ≤ right))
  | ">" => .ok (truth (right < left))
  | ">=" => .ok (truth (right ≤ left))
  | "==" => .ok (truth (left = right))
  | "!=" => .ok (truth (left ≠ right))
  | "&" => .ok (ofBits (bits left &&& bits right))
  | "^" => .ok (ofBits (bits left ^^^ bits right))
  | _ => .ok (ofBits (bits left ||| bits right))

def fail {α : Type} (message : String) : Eval α :=
  fun _ _ => .error (.expression message)

def lift {α : Type} (result : Except Problem α) : Eval α :=
  fun _ progress => result.map ((·, progress))

def peek : Eval (Option Token) :=
  return (← get).rest.head?

def skip : Eval Unit :=
  modify fun progress => { progress with rest := progress.rest.tail }

def takeSign (sign : String) : Eval Bool := do
  if (← peek) = some (.sign sign) then
    skip
    return true
  else return false

/-- The value of a variable. -/
def valueOf (name : String) : Eval Int := do
  match (← get).written.lookup name with
  | some value => return value
  | none => lift ((← read).read name)

def write (name : String) (value : Int) : Eval Unit :=
  modify fun progress => { progress with written := Pairs.assign name value progress.written }

/-- The operator of a setting, without its equality sign. -/
def setting? : Option Token → Option String
  | some (.sign sign) =>
      if ["=", "*=", "/=", "%=", "+=", "-=", "<<=", ">>=", "&=", "^=", "|="].contains sign then
        some (sign.dropEnd 1).toString
      else none
  | _ => none

def binary? : Option Token → Option (String × Nat)
  | some (.sign sign) => (binary.lookup sign).map ((sign, ·))
  | _ => none

mutual
/-- A setting, or a condition. What is not wanted is read but not evaluated. -/
def assignment (isWanted : Bool) : Nat → Eval Int
  | 0 => fail "expecting primary"
  | fuel + 1 => do
      match (← get).rest with
      | .name name :: behind =>
          match setting? behind.head? with
          | none => condition isWanted fuel
          | some sign => do
              skip; skip
              let value ← assignment isWanted fuel
              if !isWanted then return value
              let value ←
                if sign = "" then pure value
                else lift (apply sign (← valueOf name) value)
              write name value
              return value
      | _ => condition isWanted fuel
termination_by structural fuel => fuel

def condition (isWanted : Bool) : Nat → Eval Int
  | 0 => fail "expecting primary"
  | fuel + 1 => do
      let test ← disjunction isWanted fuel
      if ← takeSign "?" then
        let accepted ← assignment (isWanted && test ≠ 0) fuel
        if !(← takeSign ":") then fail "expecting ':'"
        let refused ← condition (isWanted && test = 0) fuel
        return if test ≠ 0 then accepted else refused
      else return test
termination_by structural fuel => fuel

def disjunction (isWanted : Bool) : Nat → Eval Int
  | 0 => fail "expecting primary"
  | fuel + 1 => do
      let left ← conjunction isWanted fuel
      if ← takeSign "||" then
        let right ← disjunction (isWanted && left = 0) fuel
        return truth (left ≠ 0 || right ≠ 0)
      else return left
termination_by structural fuel => fuel

def conjunction (isWanted : Bool) : Nat → Eval Int
  | 0 => fail "expecting primary"
  | fuel + 1 => do
      let left ← operand isWanted 8 fuel
      if ← takeSign "&&" then
        let right ← conjunction (isWanted && left ≠ 0) fuel
        return truth (left ≠ 0 && right ≠ 0)
      else return left
termination_by structural fuel => fuel

/-- Operands joined by operators that bind closer than a bound. -/
def operand (isWanted : Bool) (bound : Nat) : Nat → Eval Int
  | 0 => fail "expecting primary"
  | fuel + 1 => do operandsFrom isWanted bound (← primary isWanted fuel) fuel
termination_by structural fuel => fuel

def operandsFrom (isWanted : Bool) (bound : Nat) (left : Int) : Nat → Eval Int
  | 0 => fail "expecting primary"
  | fuel + 1 => do
      match binary? (← peek) with
      | none => return left
      | some (sign, rank) =>
          if bound ≤ rank then return left
          else do
            skip
            let right ← operand isWanted rank fuel
            let value ← if isWanted then lift (apply sign left right) else pure right
            operandsFrom isWanted bound value fuel
termination_by structural fuel => fuel

def primary (isWanted : Bool) : Nat → Eval Int
  | 0 => fail "expecting primary"
  | fuel + 1 => do
      let token ← peek
      skip
      match token with
      | some (.number value) => return value
      | some (.name name) => if isWanted then valueOf name else return 0
      | some (.sign "(") => do
          let value ← assignment isWanted fuel
          if !(← takeSign ")") then fail "expecting ')'"
          return value
      | some (.sign "+") => primary isWanted fuel
      | some (.sign "-") => return wrap (-(← primary isWanted fuel))
      | some (.sign "!") => return truth ((← primary isWanted fuel) = 0)
      | some (.sign "~") => return -(← primary isWanted fuel) - 1
      | _ => fail "expecting primary"
termination_by structural fuel => fuel
end

/-- The value of an expression and the variables that it sets. -/
def evaluate (read : String → Except Problem Int) (text : String)
    : Except Problem (Int × List (String × Int)) := do
  let found := tokens (text.length + 1) text.toList
  let whole : Eval Int := do
    let value ← assignment true (8 * found.length + 16)
    if (← peek).isSome then fail "expecting EOF"
    return value
  let (value, progress) ← (whole.run { read }).run { rest := found, written := [] }
  return (value, progress.written)

end MailMerge.Shell.Arithmetic
