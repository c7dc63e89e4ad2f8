import MailMerge.Shell.Expression

/-! Expressions whose ways to match are tried one after the other, so that the first one
that fits is taken and not the longest one. A part may look ahead or behind, may be tried
with as little as possible, and may stand for a group again.
-/

namespace MailMerge.Shell

/-- Where the search goes on if what stands behind a cut does not match. -/
inductive Cut where
  | nextStart
  | here
  | nowhere
  deriving DecidableEq, Repr

/-- How a part of such an expression matches. -/
inductive FirstFit where
  | nothing
  | never
  | chars (set : CharSet)
  | edge (edge : Edge)
  /-- In front of the line end that closes the text, or at the end. -/
  | nearFinish
  | both (first second : FirstFit)
  | either (first second : FirstFit)
  /-- A body again and again, as often as possible or as seldom. -/
  | repeated (body : FirstFit) (least : Nat) (most : Option Nat) (isLazy : Bool)
  | group (number : Nat) (body : FirstFit)
  /-- What a group has matched. -/
  | again (number : Nat) (ignoresCase : Bool)
  /-- The first way through the body, and no other one. -/
  | settled (body : FirstFit)
  | look (isBehind isNegated : Bool) (body : FirstFit)
  /-- From here on counts as the match. -/
  | keep
  /-- The body of a group, or the whole for the number zero. -/
  | call (number : Nat)
  /-- One of two ways, by whether a condition holds. -/
  | whether (condition yes no : FirstFit)
  /-- Whether a group has matched. -/
  | known (number : Nat)
  /-- The match ends here. -/
  | accept
  /-- No other way may be tried from here on. -/
  | cut (cut : Cut)
  deriving Repr, Inhabited

namespace FirstFit

/-- A place in a text, with what lies in front of it, the last character first. -/
structure Place where
  rest : List Char
  size : Nat
  passed : List Char
  groups : List (Nat × List Char)
  /-- What is left of the text where the match is said to start. -/
  start : Option Nat

def Place.step? (place : Place) (set : CharSet) : Option Place :=
  match place.rest with
  | c :: rest =>
      if set.accepts c then
        some { place with rest, size := place.size - 1, passed := c :: place.passed }
      else none
  | [] => none

/-- Goes on over some characters. -/
def Place.skip (place : Place) (count : Nat) : Place :=
  { place with
    rest := place.rest.drop count
    size := place.size - count
    passed := (place.rest.take count).reverse ++ place.passed }

/-- Goes back over some characters. -/
def Place.back (place : Place) (count : Nat) : Place :=
  { place with
    rest := (place.passed.take count).reverse ++ place.rest
    size := place.size + count
    passed := place.passed.drop count }

def Place.isEdge (place : Place) (edge : Edge) : Bool :=
  let spot : Expression.Spot :=
    { rest := place.rest, size := place.size, before := place.passed.head?, groups := [] }
  spot.isEdge edge

/-- The parts of a part that are groups, by their numbers. -/
def bodies : FirstFit → List (Nat × FirstFit)
  | both first second => first.bodies ++ second.bodies
  | either first second => first.bodies ++ second.bodies
  | repeated body .. => body.bodies
  | group number body => (number, .group number body) :: body.bodies
  | settled body => body.bodies
  | look _ _ body => body.bodies
  | whether condition yes no => condition.bodies ++ yes.bodies ++ no.bodies
  | _ => []

/-- How many parts there are. -/
def weight : FirstFit → Nat
  | both first second => first.weight + second.weight + 1
  | either first second => first.weight + second.weight + 1
  | repeated body .. => body.weight + 1
  | group _ body => body.weight + 1
  | settled body => body.weight + 1
  | look _ _ body => body.weight + 1
  | whether condition yes no => condition.weight + yes.weight + no.weight + 1
  | _ => 1

/-- How many characters a part takes, if that is always the same number. -/
def width? : FirstFit → Option Nat
  | chars _ => some 1
  | both first second => do return (← first.width?) + (← second.width?)
  | either first second => do
      let width ← first.width?
      if width = (← second.width?) then some width else none
  | repeated body least most _ => do
      if most = some least then return least * (← body.width?) else none
  | group _ body => body.width?
  | settled body => body.width?
  | again .. => none
  | call _ => none
  | whether _ yes no => do
      let width ← yes.width?
      if width = (← no.width?) then some width else none
  | _ => some 0

/-- Whether each way of a part takes a number of characters that is known. -/
def isMeasured : FirstFit → Bool
  | either first second => first.isMeasured && second.isMeasured
  | part => part.width?.isSome

/-- What trying comes to. -/
inductive Outcome where
  | found (place : Place)
  | failed
  /-- Nothing else may be tried from this start. -/
  | stopped (cut : Cut) (place : Place)

/-- Tries another way if the first one has failed. -/
def Outcome.orElse (first : Outcome) (second : Unit → Outcome) : Outcome :=
  match first with
  | failed => second ()
  | other => other

def Outcome.place? : Outcome → Option Place
  | found place => some place
  | _ => none

/-- Takes the group that a part has matched. -/
def noteGroup (number : Nat) (place after : Place) : Place :=
  let text := place.rest.take (place.size - after.size)
  { after with groups := (number, text) :: after.groups.filter (·.1 ≠ number) }

/-- Matches a part at a place and goes on from where the match ends. -/
def run (named : Nat → Option FirstFit)
    : Nat → FirstFit → Place → (Place → Outcome) → Outcome
  | 0, _, _, _ => .failed
  | fuel + 1, part, place, next =>
      let goOnIf (holds : Bool) : Outcome := if holds then next place else .failed
      match part with
      | nothing => next place
      | never => .failed
      | accept => .found place
      | chars set =>
          match place.step? set with
          | some after => next after
          | none => .failed
      | edge side => goOnIf (place.isEdge side)
      | nearFinish => goOnIf (place.rest = [] || place.rest = [newline])
      | known number => goOnIf (place.groups.lookup number).isSome
      | cut kind =>
          match next place with
          | .failed => .stopped kind place
          | other => other
      | both first second =>
          run named fuel first place fun after => run named fuel second after next
      | either first second =>
          (run named fuel first place next).orElse fun _ => run named fuel second place next
      | repeated body least most isLazy =>
          if most = some 0 then next place
          else
            let further (_ : Unit) : Outcome :=
              run named fuel body place fun after =>
                if after.size = place.size ∧ least = 0 then next after
                else
                  run named fuel (.repeated body (least - 1) (most.map (· - 1)) isLazy) after
                    next
            if 0 < least then further ()
            else if isLazy then (next place).orElse further
            else (further ()).orElse fun _ => next place
      | group number body =>
          run named fuel body place fun after => next (noteGroup number place after)
      | again number ignoresCase =>
          match place.groups.lookup number with
          | none => .failed
          | some text =>
              let here := place.rest.take text.length
              let isSame : Bool :=
                if ignoresCase then here.map Char.toLower = text.map Char.toLower
                else here = text
              if isSame then next (place.skip text.length) else .failed
      | settled body =>
          match run named fuel body place .found with
          | .found after => next after
          | other => other
      | look isBehind isNegated body =>
          let starts := if isBehind then List.range (place.passed.length + 1) else [0]
          let seen :=
            starts.findSome? fun count =>
              let tried :=
                run named fuel body (place.back count) fun after =>
                  if !isBehind || after.size = place.size then .found after else .failed
              tried.place?
          match seen, isNegated with
          | some after, false => next { place with groups := after.groups }
          | none, true => next place
          | _, _ => .failed
      | keep => next { place with start := some place.size }
      | call number =>
          match named number with
          | none => .failed
          | some body =>
              run named fuel body place fun after => next { after with groups := place.groups }
      | whether condition yes no =>
          match run named fuel condition place .found with
          | .found _ => run named fuel yes place next
          | _ => run named fuel no place next
termination_by structural fuel => fuel

/-- How deep the parts of a match may stand within each other. -/
def depthFor (part : FirstFit) (size : Nat) : Nat :=
  (size + 2) * (part.weight + 2) + 2000

/-- How many characters to go on by, if the search goes on. -/
def stride? (place : Place) : Outcome → Option Nat
  | .stopped .nowhere _ => none
  | .stopped .here after => some (max 1 (place.size - after.size))
  | _ => some 1

/-- Finds the first match from a place on, with what stands in front of it. -/
def findFrom (part : FirstFit) (named : Nat → Option FirstFit) (depth : Nat)
    : Nat → Place → List Char → Option Expression.Match
  | 0, _, _ => none
  | fuel + 1, place, skipped =>
      match run named depth part place .found with
      | .found after =>
          let left := place.size - after.start.getD place.size
          let taken := place.rest.take (place.size - after.size)
          some
            {
              before := skipped.reverse ++ taken.take left
              text := taken.drop left
              after := after.rest
              groups := after.groups
            }
      | other =>
          match stride? place other with
          | none => none
          | some stride =>
              if place.rest = [] then none
              else
                let next := { place.skip stride with groups := [] }
                findFrom part named depth fuel next
                  ((place.rest.take stride).reverse ++ skipped)

/-- Finds the first match in a text behind what has been passed, the last character of
which comes first.
-/
def find? (part : FirstFit) (passed text : List Char) : Option Expression.Match :=
  let bodies := (0, part) :: part.bodies
  part.findFrom (fun number => bodies.lookup number) (part.depthFor text.length)
    (text.length + 1) { rest := text, size := text.length, passed, groups := [], start := none }
    []

end FirstFit

end MailMerge.Shell
