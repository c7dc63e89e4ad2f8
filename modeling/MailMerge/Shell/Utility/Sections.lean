import MailMerge.Shell.Expression
import MailMerge.Shell.Utility.Split

/-! Splitting a text into sections, at the lines of some numbers and at those that patterns
match.
-/

namespace MailMerge.Shell.Utility

open Work

namespace Sections

/-- Where a section ends. -/
inductive Border where
  | line (number : Nat)
  /-- A line that matches, and how far from it; the section may be left out. -/
  | pattern (expression : Expression) (offset : Int) (isIgnored : Bool)

/-- How often a border is looked for again. -/
inductive Repetition where
  | times (count : Nat)
  | forever
  deriving DecidableEq, Repr

/-- A border with its words. -/
structure Control where
  text : String
  border : Border
  repetition : Repetition

/-! ### Reading -/

def name : String := "csplit"

/-- Reads a signed number. -/
def intOf? (text : String) : Option Int :=
  if text.startsWith "-" then (natOf? (text.drop 1).toString).map fun n => -(n : Int)
  else if text.startsWith "+" then (natOf? (text.drop 1).toString).map Int.ofNat
  else (natOf? text).map Int.ofNat

/-- Reads a pattern between two marks, with an offset behind. -/
def readPattern (text : String) : Work Border := do
  let cs := text.toList
  let mark := cs.headD '/'
  let behind := (cs.tail.reverse.takeWhile (· ≠ mark)).reverse
  if !cs.tail.contains mark then
    fail 1 name s!"{text}: closing delimiter '{mark}' missing"
  let inside := cs.tail.take (cs.length - 2 - behind.length)
  let dialect : Expression.Dialect :=
    { isExtended := false, ignoresCase := false, isLenient := true, isMultiline := false }
  match Expression.read? dialect inside with
  | .error problem =>
      fail 1 name s!"{marked text}: invalid regular expression: {problem}"
  | .ok expression =>
      match if behind = [] then some 0 else intOf? (String.ofList behind) with
      | some offset => return .pattern expression offset (mark = '%')
      | none => fail 1 name s!"{marked text}: integer expected after delimiter"

/-- Reads how often a border is looked for again. -/
def readRepetition (text : String) : Work Repetition := do
  if !text.endsWith "\x7d" then fail 1 name s!"{marked text}: '\x7d' is required in repeat count"
  let inside := ((text.drop 1).dropEnd 1).toString
  if inside = "*" then return .forever
  match natOf? inside with
  | some count => return .times count
  | none =>
      let shown := "\x7b" ++ inside
      fail 1 name
        (marked shown ++ "\x7d: integer required between '\x7b' and '\x7d'")

/-- Words, each with the repetition behind it. -/
def paired : List String → List (String × Option String)
  | [] => []
  | [text] => [(text, none)]
  | text :: next :: words =>
      if next.startsWith "\x7b" then (text, some next) :: paired words
      else (text, none) :: paired (next :: words)

/-- Reads the words that tell the borders; the number of the last line border is known. -/
def readControls : Nat → List (String × Option String) → Work (List Control)
  | _, [] => return []
  | last, (text, repetition) :: words => do
      let (border, last) ←
        if text.startsWith "/" ∨ text.startsWith "%" then pure (← readPattern text, last)
        else
          match natOf? text with
          | none => fail 1 name s!"{marked text}: invalid pattern"
          | some 0 => fail 1 name s!"{text}: line number must be greater than zero"
          | some number => do
              if number < last then
                fail 1 name
                  s!"line number {marked text} is smaller than preceding line number, {last}"
              if number = last then
                warn name
                  s!"warning: line number {marked text} is the same as preceding line number"
              pure (Border.line number, number)
      let repetition ←
        match repetition with
        | none => pure (.times 0)
        | some text => readRepetition text
      return { text, border, repetition } :: (← readControls last words)

/-! ### Splitting -/

/-- How far the text has been split. -/
structure Progress where
  lines : Array (List Char)
  /-- How many lines have been used up. -/
  used : Nat
  /-- The number of the line that was looked at last. -/
  seen : Nat
  /-- The sections, the last one first. -/
  sections : List (List Char)

/-- How splitting ends early. -/
inductive Ending where
  | done (progress : Progress)
  | fault (problem : String) (progress : Progress)

/-- Uses up the lines in front of one. -/
def Progress.cutAt (progress : Progress) (line : Nat) (isIgnored : Bool) : Progress :=
  let section? := (progress.lines.extract progress.used (line - 1)).toList.flatten
  { progress with
    used := max progress.used (line - 1)
    seen := max progress.seen (line - 1)
    sections := if isIgnored then progress.sections else section? :: progress.sections }

/-- Uses up all lines. -/
def Progress.finish (progress : Progress) (isIgnored : Bool) : Progress :=
  progress.cutAt (progress.lines.size + 1) isIgnored

/-- Drops the line at a border. -/
def Progress.skip (progress : Progress) : Progress :=
  if progress.used < progress.lines.size then
    { progress with used := progress.used + 1, seen := max progress.seen (progress.used + 1) }
  else progress

def repeatText (repetition : Nat) : String :=
  if repetition = 0 then "" else s!" on repetition {repetition}"

/-- The number of the first line behind another one that matches. -/
def matchBehind? (expression : Expression) (progress : Progress) : Option Nat :=
  (List.range (progress.lines.size - progress.seen)).findSome? fun i =>
    let number := progress.seen + i + 1
    let line := progress.lines.getD (number - 1) []
    let text := if line.getLast? = some newline then line.dropLast else line
    if expression.occursIn text then some number else none

/-- Goes on to a border. -/
def Control.next (control : Control) (dropsMatch : Bool) (repetition : Nat)
    (progress : Progress) : Except Ending Progress :=
  let shown := marked control.text
  let outOfRange := shown ++ ": line number out of range"
  match control.border with
  | .line required =>
      let number := required * (repetition + 1)
      let count := progress.lines.size
      let problem := outOfRange ++ repeatText repetition
      if (dropsMatch ∧ count ≤ progress.used) ∨ count + 1 < number then
        .error (.fault problem (progress.finish false))
      else
        let after := progress.cutAt number false
        let after := if dropsMatch then after.skip else after
        if !dropsMatch ∧ count ≤ after.used then .error (.fault problem after) else .ok after
  | .pattern expression offset isIgnored =>
      match matchBehind? expression progress with
      | none =>
          let after := progress.finish isIgnored
          if control.repetition = .forever then
            .error (.done (if isIgnored then { after with sections := [] :: after.sections } else after))
          else .error (.fault (shown ++ ": match not found" ++ repeatText repetition) after)
      | some number =>
          let border := (number : Int) + offset
          if border < progress.used + 1 then
            .error (.fault outOfRange { progress with sections := [] :: progress.sections })
          else if (progress.lines.size : Int) + 1 < border then
            .error (.fault outOfRange (progress.finish isIgnored))
          else
            let after := { progress.cutAt border.toNat isIgnored with
              seen := if 0 < offset then border.toNat else max number (border.toNat - 1) }
            .ok (if dropsMatch then after.skip else after)

/-- Goes on to a border again and again. -/
def Control.all (control : Control) (dropsMatch : Bool)
    : Nat → Nat → Progress → Except Ending Progress
  | 0, _, progress => .ok progress
  | fuel + 1, repetition, progress =>
      let isLast : Bool :=
        match control.repetition with
        | .times count => count < repetition
        | .forever => false
      if isLast then .ok progress
      else do
        let after ← control.next dropsMatch repetition progress
        control.all dropsMatch fuel (repetition + 1) after

/-- Splits a text at borders. -/
def split (controls : List Control) (dropsMatch : Bool) (text : List Char) : Ending :=
  let lines := (fullLines text).toArray
  let start : Progress := { lines, used := 0, seen := 0, sections := [] }
  let result :=
    controls.foldlM
      (fun progress control => control.all dropsMatch (lines.size + 2) 0 progress) start
  match result with
  | .ok progress => .done (progress.finish false)
  | .error ending => ending

/-! ### Names -/

/-- How a number is set within a name. -/
structure Numbering where
  before : List Char
  behind : List Char
  base : Nat
  width : Nat
  isLeft : Bool
  hasZeros : Bool
  isMarked : Bool
  isUpper : Bool

def Numbering.text (numbering : Numbering) (number : Nat) : String :=
  let digits := Nat.toDigits numbering.base number
  let mark :=
    if !numbering.isMarked ∨ number = 0 then []
    else if numbering.base = 16 then ['0', 'x']
    else if numbering.base = 8 then ['0']
    else []
  let digits := if numbering.isUpper then (mark ++ digits).map Char.toUpper else mark ++ digits
  let digits :=
    if numbering.isLeft then padRight numbering.width digits
    else if numbering.hasZeros then
      List.replicate (numbering.width - digits.length) '0' ++ digits
    else padLeft numbering.width digits
  String.ofList (numbering.before ++ digits ++ numbering.behind)

/-- Text up to a directive; two signs stand for one. -/
def plainText : List Char → List Char × List Char
  | '%' :: '%' :: cs =>
      let (text, rest) := plainText cs
      ('%' :: text, rest)
  | '%' :: cs => ([], '%' :: cs)
  | c :: cs =>
      let (text, rest) := plainText cs
      (c :: text, rest)
  | [] => ([], [])

def readNumbering (format : String) : Work Numbering := do
  let (before, rest) := plainText format.toList
  if rest = [] then fail 1 name "missing % conversion specification in suffix"
  let rest := rest.tail
  let flags := rest.takeWhile "-0'#".toList.contains
  let rest := rest.drop flags.length
  let width := rest.takeWhile Char.isDigit
  let rest := rest.drop width.length
  match rest with
  | [] => fail 1 name "missing conversion specifier in suffix"
  | letter :: rest => do
      let base ←
        match letter with
        | 'd' | 'i' | 'u' => pure 10
        | 'o' => pure 8
        | 'x' | 'X' => pure 16
        | _ => fail 1 name s!"invalid conversion specifier in suffix: {letter}"
      let (behind, more) := plainText rest
      if more ≠ [] then fail 1 name "too many % conversion specifications in suffix"
      return {
        before, behind, base
        width := (natOf? (String.ofList width)).getD 0
        isLeft := flags.contains '-'
        hasZeros := flags.contains '0'
        isMarked := flags.contains '#'
        isUpper := letter = 'X'
      }

/-- The parts that are written: empty ones may be left out. -/
def shownSections (dropsEmpty : Bool) (sections : List (List Char)) : List (List Char) :=
  if dropsEmpty then sections.filter (· ≠ []) else sections

end Sections

open Sections in
/-- Splits a text into files at the borders that its words tell. -/
def splitSections (words : List String) : Work Nat := do
  let name := "csplit"
  let switches :=
    Switches.of "kqsz\x01" "bfn"
      [
        ("suffix-format", 'b'), ("prefix", 'f'), ("keep-files", 'k'),
        ("suppress-matched", '\x01'), ("digits", 'n'), ("quiet", 's'), ("silent", 's'),
        ("elide-empty-files", 'z')
      ]
  let arguments ← arguments switches 1 name words
  let front := (arguments.value? 'f').getD "xx"
  let digits ←
    match arguments.value? 'n' with
    | none => pure 2
    | some text =>
        match natOf? text with
        | some digits => pure digits
        | none => fail 1 name s!"invalid number: {marked text}"
  let numbering ←
    match arguments.value? 'b' with
    | some format => Sections.readNumbering format
    | none => Sections.readNumbering s!"%0{digits}d"
  match arguments.operands with
  | [] => misuse 1 name "missing operand"
  | [path] => misuse 1 name s!"missing operand after {marked path}"
  | path :: words => do
      let text ←
        match ← content path with
        | .ok text => pure (some text)
        | .error .isDirectory => pure none
        | .error e => fail 1 name s!"cannot open {quoted path} for reading: {e.reason}"
      let controls ← Sections.readControls 0 (Sections.paired words)
      let text ←
        match text with
        | some text => pure text
        | none => do
            sayLine "0"
            fail 1 name "read error: Is a directory"
      let ending := Sections.split controls (arguments.has '\x01') text
      let (problem, progress) :=
        match ending with
        | .done progress => (none, progress)
        | .fault problem progress => (some problem, progress)
      let problem :=
        if text = [] ∧ (controls.head?.any fun control => control.border matches .line _) = true then
          some "input disappeared"
        else problem
      let sections := Sections.shownSections (arguments.has 'z') progress.sections.reverse
      let sections := if problem = some "input disappeared" then [] else sections
      let isQuiet := arguments.has 's' || arguments.has 'q'
      let isKept := problem.isNone || arguments.has 'k'
      problem.forM (warn name)
      for (part, i) in sections.zipIdx do
        let target := front ++ numbering.text i
        match ← change (·.write · (ofOctets part)) target with
        | .ok () => pure ()
        | .error e => fail 1 name (plainProblem target e)
        if !isKept then let _ ← change Files.Tree.remove target
        if !isQuiet then sayLine (toString part.length)
      return if problem.isNone then 0 else 1

end MailMerge.Shell.Utility
