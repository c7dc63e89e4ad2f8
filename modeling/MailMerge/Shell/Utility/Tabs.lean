import MailMerge.Shell.Utility.Order

/-! Tabs and the blanks that take as much room: turning the ones into the others.
-/

namespace MailMerge.Shell.Utility

open Work

/-- Where tabs end: at places of their own, and behind the last one in steps. -/
structure TabStops where
  places : List Nat
  /-- The steps behind the last place, if there are any. -/
  step : Option Nat
  /-- Whether the steps are counted from the last place. -/
  isRelative : Bool

def TabStops.every (step : Nat) : TabStops where
  places := []
  step := some step
  isRelative := false

/-- Where a tab ends that starts in a column, if there is a stop behind it. -/
def TabStops.next? (stops : TabStops) (column : Nat) : Option Nat :=
  match stops.places.find? (column < ·), stops.step with
  | some place, _ => some place
  | none, some step =>
      let base := if stops.isRelative then stops.places.getLastD 0 else 0
      some (base + ((column - base) / step + 1) * step)
  | none, none => none

/-- The largest tab stop. -/
def maxTabStop : Nat := 18446744073709551615

/-- Reads a list of tab stops. -/
def readTabStops (name : String) (texts : List String) : Work TabStops := do
  let pieces := texts.flatMap fun text => text.toList.splitOnP fun c => c = ',' || isBlankChar c
  let mut places : List Nat := []
  let mut behind? : Option (Char × Nat) := none
  for piece in pieces.filter (· ≠ []) do
    let sign := piece.headD ' '
    let isStep : Bool := sign = '/' || sign = '+'
    let digits := if isStep then piece.tail else piece
    let number := digits.takeWhile Char.isDigit
    let behind := digits.drop number.length
    if behind ≠ [] then
      let bad := marked (String.ofList behind)
      fail 1 name s!"tab size contains invalid character(s): {bad}"
    let place := (natOf? (String.ofList number)).getD 0
    if maxTabStop < place then
      let bad := marked (String.ofList number)
      fail 1 name s!"tab stop is too large {bad}"
    if isStep then behind? := some (sign, place) else places := places ++ [place]
  if places.contains 0 then fail 1 name "tab size cannot be 0"
  if (places.zip places.tail).any fun (x, y) => y ≤ x then
    fail 1 name "tab sizes must be ascending"
  match behind?, places with
  | some (sign, step), _ =>
      return {
        places
        step := if step = 0 then none else some step
        isRelative := sign = '+'
      }
  | none, [] => return .every 8
  | none, [only] => return .every only
  | none, _ => return { places, step := none, isRelative := false }

/-- A line with its tabs turned into blanks: all of them, or those in front of the text. -/
def expandLine (stops : TabStops) (onlyFirst : Bool) (line : List Char) : List Char :=
  let (shown, _, _) :=
    line.foldl
      (fun ((shown, column, converts) : List (List Char) × Nat × Bool) c =>
        let goesOn := converts && (!onlyFirst || isBlankChar c)
        if !converts then ([c] :: shown, column, goesOn)
        else if c = '\t' then
          let next := (stops.next? column).getD (column + 1)
          (List.replicate (next - column) ' ' :: shown, next, goesOn)
        else if c = '\x08' then ([c] :: shown, column - 1, goesOn)
        else ([c] :: shown, column + 1, goesOn))
      ([], 0, true)
  shown.reverse.flatten

/-- What is known while blanks are turned into tabs. -/
structure Shrinking where
  shown : List (List Char)
  column : Nat
  /-- Blanks that may yet become a tab. -/
  pending : List Char
  wasBlank : Bool
  /-- Whether the first of the pending blanks ends at a stop. -/
  hasEdge : Bool
  converts : Bool

/-- Puts out the pending blanks and a character behind them. -/
def Shrinking.put (state : Shrinking) (goesOn isBlank : Bool) (c : Char) : Shrinking :=
  let pending :=
    if 1 < state.pending.length ∧ state.hasEdge then '\t' :: state.pending.tail
    else state.pending
  { state with
    shown := [c] :: pending :: state.shown
    pending := []
    wasBlank := isBlank
    hasEdge := if state.pending = [] then state.hasEdge else false
    converts := goesOn && state.converts }

/-- Takes one character of a line into account. -/
def Shrinking.step (stops : TabStops) (onlyFirst : Bool) (state : Shrinking) (c : Char)
    : Shrinking :=
  let isBlank := isBlankChar c
  let goesOn := !onlyFirst || isBlank
  if !state.converts then state.put goesOn isBlank c
  else if isBlank then
    match stops.next? state.column with
    | none => { state with converts := false }.put goesOn isBlank c
    | some next =>
        let keep (state : Shrinking) : List Char := state.pending.take (if state.hasEdge then 1 else 0)
        if c = '\t' then
          let pending :=
            if state.pending = [] then [] else '\t' :: state.pending.tail
          let state := { state with column := next, pending }
          { state with pending := keep state }.put goesOn isBlank c
        else
          let column := state.column + 1
          if state.wasBlank && column = next then
            let pending := '\t' :: state.pending.tail
            let state := { state with column, pending }
            { state with pending := keep state }.put goesOn isBlank '\t'
          else
            { state with
              column
              pending := state.pending ++ [c]
              wasBlank := true
              hasEdge := state.hasEdge || column = next }
  else if c = '\x08' then { state with column := state.column - 1 }.put goesOn isBlank c
  else { state with column := state.column + 1 }.put goesOn isBlank c

/-- A line with blanks turned into tabs: all of them, or those in front of the text. -/
def shrinkLine (stops : TabStops) (onlyFirst : Bool) (line : List Char) : List Char :=
  let state :=
    line.foldl (Shrinking.step stops onlyFirst)
      {
        shown := []
        column := 0
        pending := []
        wasBlank := true
        hasEdge := false
        converts := true
      }
  let pending :=
    if 1 < state.pending.length ∧ state.hasEdge then '\t' :: state.pending.tail
    else state.pending
  (pending :: state.shown).reverse.flatten

/-- Words with stops behind a dash written as a list of them. -/
def spellStops (words : List String) : List String :=
  words.flatMap fun word =>
    match word.toList with
    | '-' :: c :: cs => if c.isDigit then ["-\x01", "-t", String.ofList (c :: cs)] else [word]
    | _ => [word]

/-- Shows the lines of files with a change made to each. -/
def showTurned (name : String) (arguments : Arguments)
    (turn : TabStops → List Char → List Char) : Work Nat := do
  let stops ← readTabStops name (arguments.values 't')
  let (text, isFine) ← readAll name plainProblem arguments.operands
  say ((fullLines text).flatMap (turn stops))
  return statusOf isFine

def expandTabs (words : List String) : Work Nat := do
  let name := "expand"
  let switches := Switches.of "i\x01" "t" [("initial", 'i'), ("tabs", 't')]
  let arguments ← arguments switches 1 name (spellStops words)
  showTurned name arguments fun stops => expandLine stops (arguments.has 'i')

def shrinkBlanks (words : List String) : Work Nat := do
  let name := "unexpand"
  let switches :=
    Switches.of "af\x01" "t" [("all", 'a'), ("first-only", 'f'), ("tabs", 't')]
  let arguments ← arguments switches 1 name (spellStops words)
  let isWhole := arguments.has 'a' || (arguments.has 't' && !arguments.has '\x01')
  showTurned name arguments fun stops => shrinkLine stops (!isWhole || arguments.has 'f')

end MailMerge.Shell.Utility
