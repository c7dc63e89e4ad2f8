import MailMerge.Shell.Awk.Token
import MailMerge.Shell.Expression

/-! Patterns of programs. A backslash has a meaning everywhere in them. -/

namespace MailMerge.Shell.Awk

namespace Pattern

/-- A set of single characters. -/
def one (ranges : List (Char × Char)) (isNegated : Bool) : Node :=
  .chars { isNegated, ranges, ignoresCase := false }

/-- The character that stands behind a backslash, and the text behind it. -/
def takeEscape (c : Char) (cs : List Char) : Char × List Char :=
  match textEscapes.lookup c with
  | some byte => (byte, cs)
  | none =>
      let digits := octalDigits 3 (c :: cs)
      if digits ≠ [] then (octalByte digits, (c :: cs).drop digits.length) else (c, cs)

/-- One member of a set, and the text behind it. -/
def takeMember : List Char → Option (Char × List Char)
  | [] => none
  | '\\' :: c :: cs => some (takeEscape c cs)
  | c :: cs => some (c, cs)

/-- Reads the members of a set up to the closing bracket. -/
def members : Nat → Bool → List Char → Option (List (Char × Char) × List Char)
  | 0, _, _ => none
  | _ + 1, _, [] => none
  | fuel + 1, _, '[' :: ':' :: cs =>
      match Expression.cutName ':' cs with
      | some (name, rest) =>
          match Expression.classes.lookup (String.ofList name) with
          | some ranges =>
              (members fuel false rest).map fun (found, rest) => (ranges ++ found, rest)
          | none => single fuel '[' (':' :: cs)
      | none => single fuel '[' (':' :: cs)
  | fuel + 1, isFirst, ']' :: cs => if isFirst then single fuel ']' cs else some ([], cs)
  | fuel + 1, _, cs =>
      match takeMember cs with
      | some (c, rest) => single fuel c rest
      | none => none
where
  /-- A member of its own, or the lower end of a range. -/
  single (fuel : Nat) (low : Char) (cs : List Char) : Option (List (Char × Char) × List Char) :=
    match cs with
    | '-' :: ']' :: _ =>
        (members fuel false cs).map fun (found, rest) => ((low, low) :: found, rest)
    | '-' :: cs =>
        match takeMember cs with
        | some (high, rest) =>
            (members fuel false rest).map fun (found, rest) => ((low, high) :: found, rest)
        | none => none
    | cs => (members fuel false cs).map fun (found, rest) => ((low, low) :: found, rest)

/-- The bounds of a repetition between braces, and the text behind them. -/
def bounds? (cs : List Char) : Option (Nat × Option Nat × List Char) :=
  let least := cs.takeWhile Char.isDigit
  let rest := cs.drop least.length
  if least = [] then none
  else
    match rest with
    | '\x7d' :: rest => some (Decimal.ofDigits least, some (Decimal.ofDigits least), rest)
    | ',' :: rest =>
        let most := rest.takeWhile Char.isDigit
        match rest.drop most.length with
        | '\x7d' :: rest =>
            some (Decimal.ofDigits least,
              if most = [] then none else some (Decimal.ofDigits most), rest)
        | _ => none
    | _ => none

/-- Reads the repetitions behind a part. -/
def repetitions : Nat → Node → List Char → Node × List Char
  | 0, body, cs => (body, cs)
  | fuel + 1, body, '*' :: cs => repetitions fuel (.repeated body 0 none) cs
  | fuel + 1, body, '+' :: cs => repetitions fuel (.repeated body 1 none) cs
  | fuel + 1, body, '?' :: cs => repetitions fuel (.repeated body 0 (some 1)) cs
  | fuel + 1, body, '\x7b' :: cs =>
      match bounds? cs with
      | some (least, most, rest) => repetitions fuel (.repeated body least most) rest
      | none => (body, '\x7b' :: cs)
  | _ + 1, body, cs => (body, cs)

mutual
/-- Branches up to the end or a closing parenthesis. -/
def branches (isInner : Bool) : Nat → List Char → Except String (Node × List Char)
  | 0, _ => .error "syntax error ^* or ^+"
  | fuel + 1, cs => do
      let (first, rest) ← branch isInner true fuel cs
      match rest with
      | '|' :: rest => do
          let (others, rest) ← branches isInner fuel rest
          return (.either first others, rest)
      | rest => return (first, rest)
termination_by structural fuel => fuel

/-- Parts one after the other. -/
def branch (isInner isFirst : Bool) : Nat → List Char → Except String (Node × List Char)
  | 0, _ => .error "syntax error ^* or ^+"
  | _ + 1, [] => .ok (.nothing, [])
  | fuel + 1, c :: cs => do
      if c = '|' ∨ (c = ')' ∧ isInner) then return (.nothing, c :: cs)
      else if isFirst ∧ (c = '*' ∨ c = '+' ∨ c = '?') then throw "missing operand"
      else
        let (body, rest) ← part c fuel cs
        let (body, rest) := repetitions (rest.length + 1) body rest
        let (others, rest) ← branch isInner false fuel rest
        return (.both body others, rest)
termination_by structural fuel => fuel

def part (c : Char) : Nat → List Char → Except String (Node × List Char)
  | 0, _ => .error "syntax error ^* or ^+"
  | fuel + 1, cs => do
      if c = '(' then
        let (body, rest) ← branches true fuel cs
        match rest with
        | ')' :: rest => return (body, rest)
        | _ => throw "missing ')'"
      else if c = '[' then
        let (isNegated, cs) :=
          match cs with
          | '^' :: cs => (true, cs)
          | cs => (false, cs)
        match members (cs.length + 1) true cs with
        | some (ranges, rest) => return (one ranges isNegated, rest)
        | none => throw "bad class -- [], [^] or ["
      else if c = '.' then return (one [] true, cs)
      else if c = '^' then return (.edge .start, cs)
      else if c = '$' then return (.edge .finish, cs)
      else if c = '\\' then
        match cs with
        | d :: cs =>
            let (byte, rest) := takeEscape d cs
            return (one [(byte, byte)] false, rest)
        | [] => return (one [('\\', '\\')] false, [])
      else return (one [(c, c)] false, cs)
termination_by structural fuel => fuel
end

/-- Reads a pattern, or says what is wrong with it. -/
def read? (text : List Char) : Except String Expression := do
  let (node, _) ← branches false (4 * text.length + 8) text
  return { node, groups := 0, ignoresCase := false, warnings := [] }

/-- Where a pattern first matches behind a number of bytes: how many bytes stand in front of
the match, and how many belong to it.
-/
def find? (expression : Expression) (skipped : Nat) (text : List Char)
    : Option (Nat × Nat) :=
  let before := if skipped = 0 then none else some 'x'
  (expression.find? before (text.drop skipped)).map fun found =>
    (skipped + found.before.length, found.text.length)

/-- The first match that is not empty. -/
def findFilled? (expression : Expression) (text : List Char) : Nat → Nat → Option (Nat × Nat)
  | 0, _ => none
  | fuel + 1, skipped =>
      match find? expression skipped text with
      | some (place, 0) =>
          if place < text.length then findFilled? expression text fuel (place + 1) else none
      | found => found

/-- The pieces of a text between matches that are not empty. -/
def split (expression : Expression) : Nat → List Char → List (List Char)
  | 0, text => [text]
  | fuel + 1, text =>
      match findFilled? expression text (text.length + 1) 0 with
      | some (place, size) => text.take place :: split expression fuel (text.drop (place + size))
      | none => [text]

end Pattern

end MailMerge.Shell.Awk
