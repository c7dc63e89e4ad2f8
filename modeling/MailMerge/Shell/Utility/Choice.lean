import MailMerge.Shell.Utility.Lines

/-! Lines in any order. The order in which they stand is as good as any other.
-/

namespace MailMerge.Shell.Utility

open Work

/-- Reads the ends of a range. -/
def rangeOf? (text : String) : Option (Nat × Nat) := do
  let [first, last] := text.splitOn "-" | none
  let low ← natOf? first
  let high ← natOf? last
  if low ≤ high + 1 then return (low, high) else none

def chooseLines (words : List String) : Work Nat := do
  let name := "shuf"
  let switches :=
    Switches.of "erz" "ino\x01"
      [
        ("echo", 'e'), ("input-range", 'i'), ("head-count", 'n'), ("output", 'o'),
        ("random-source", '\x01'), ("repeat", 'r'), ("zero-terminated", 'z')
      ]
  let arguments ← arguments switches 1 name words
  let ranges := arguments.values 'i'
  match ranges with
  | _ :: _ :: _ => fail 1 name "multiple -i options specified"
  | _ => pure ()
  let range ←
    match ranges with
    | text :: _ =>
        match rangeOf? text with
        | some range => pure (some range)
        | none => fail 1 name s!"invalid input range: {marked text}"
    | [] => pure none
  let counts ← (arguments.values 'n').mapM fun text =>
    match natOf? text with
    | some count => return count
    | none => fail 1 name s!"invalid line count: {marked text}"
  match (arguments.values 'o').eraseDups with
  | _ :: _ :: _ => fail 1 name "multiple output files specified"
  | _ => pure ()
  if arguments.has 'e' ∧ range.isSome then misuse 1 name "cannot combine -e and -i options"
  let extra? :=
    if arguments.has 'e' then none
    else if range.isSome then arguments.operands.head?
    else (arguments.operands.drop 1).head?
  match extra? with
  | some extra => misuse 1 name s!"extra operand {quoted extra}"
  | none => pure ()
  let mark := lineMark arguments
  let items ←
    match range with
    | some (low, high) =>
        pure ((List.range (high + 1 - low)).map fun i => (toString (low + i)).toList)
    | none =>
        if arguments.has 'e' then pure (arguments.operands.map String.toList)
        else
          let path := arguments.operands.headD "-"
          match ← content path with
          | .ok text => pure (splitAt mark text)
          | .error e => fail 1 name (plainProblem path e)
  match arguments.value? '\x01' with
  | some path =>
      match ← content path with
      | .ok _ => pure ()
      | .error e => fail 1 name (plainProblem path e)
  | none => pure ()
  let most := counts.min?
  let repeats := arguments.has 'r'
  if repeats ∧ items = [] ∧ most ≠ some 0 then fail 1 name "no lines to repeat"
  let shown :=
    match most, repeats with
    | some most, true => (List.range most).map fun i => items.getD (i % items.length) []
    | none, true =>
        (List.range (0x20000 / (items.length + 1) + 1)).flatMap fun _ => items
    | some most, false => items.take most
    | none, false => items
  let text := joinAt mark shown
  match arguments.value? 'o' with
  | none => say text
  | some path =>
      match ← change (·.write · (ofOctets text)) path with
      | .ok () => pure ()
      | .error e => fail 1 name (plainProblem path e)
  if repeats ∧ most.isNone then throw .forever
  return 0

end MailMerge.Shell.Utility
