import MailMerge.Shell.Arithmetic
import MailMerge.Shell.Process
import MailMerge.Shell.Switches

/-! What words come to: parameters, the output of commands and arithmetic are put in place,
the result is cut into fields, and patterns of paths are resolved.
-/

namespace MailMerge.Shell.Run

/-! ### Parameters -/

/-- The separator that joins the arguments to one text. -/
def joiner : Run String := do
  match ← valueOf? "IFS" with
  | none => return " "
  | some separators => return String.ofList (separators.toList.take 1)

def joinedArguments : Run String := do
  return (← joiner).intercalate (← process).arguments

/-- The value of a parameter, if it has one. -/
def parameter? (name : String) : Run (Option String) := do
  let process ← process
  match name with
  | "@" | "*" => do
      let joined ← joinedArguments
      return if process.arguments.isEmpty then none else some joined
  | "#" => return some (toString process.arguments.length)
  | "?" => return some (toString process.status)
  | "-" => return some (String.ofList process.options.reverse)
  | "$" => return some (toString process.shellNumber)
  | "!" => return process.lastJob.map toString
  | name =>
      match natOf? name with
      | none => valueOf? name
      | some 0 => return some process.name
      | some number => return process.arguments[number - 1]?

/-- Complains about a parameter without a value where that is an error. -/
def requireValue (name : String) (value? : Option String) : Run Unit := do
  if value?.isNone ∧ name ≠ "@" ∧ name ≠ "*" ∧ (← hasOption 'u') then
    fail s!"{name}: parameter not set"

/-! ### Parts of words -/

/-- The bits of a text that is put in place. -/
def bitsOf (isQuoted : Bool) (text : String) : List Bit :=
  if isQuoted then Bit.quoted text.toList else Bit.value text.toList

/-- The bits of the arguments, each of which comes to fields of its own. -/
def argumentBits (isQuoted : Bool) (arguments : List String) : List Bit :=
  ([Bit.gap].intercalate (arguments.map (bitsOf isQuoted)))

/-- The bits of a word that stands for a value outside quotes: they may part fields. -/
def loosen (bits : List Bit) : List Bit :=
  bits.map fun bit =>
    match bit with
    | .char c false _ => .char c false true
    | bit => bit

/-- The output of a command without the line feeds at its end. -/
def outputText (runner : Runner) (script : Option Command) : Run String := do
  match script with
  | none => do
      setProcess fun process => { process with outputStatus := 0 }
      return ""
  | some command => do
      let (text, ending) ←
        capture runner (runner.command { isTested := false, isLast := true } command)
      takeEnding runner ending
      setProcess fun process => { process with outputStatus := ending.number }
      let kept := (text.reverse.dropWhile (· = newline)).reverse
      return String.ofList (kept.filter (· ≠ '\x00'))

/-- The value of an arithmetic expression. -/
def arithmetic (text : String) : Run String := do
  let process ← process
  let isStrict := process.options.contains 'u'
  let read (name : String) : Except Arithmetic.Problem Int :=
    match (process.bindings.lookup name).bind Variable.value with
    | some value =>
        match Arithmetic.numberOf? false value with
        | some number => .ok number
        | none => .error (.unreadable s!"Illegal number: {value}")
    | none =>
        if isStrict then .error (.unreadable s!"{name}: parameter not set") else .ok 0
  match Arithmetic.evaluate read text with
  | .error .overflow => throw (.killed 8)
  | .error problem => fail (problem.message text)
  | .ok (value, written) => do
      for (name, number) in written do assign name (toString number) false
      return toString value

/-- The path of the home directory in place of a tilde at the head of a text, and the rest
of the text.
-/
def resolveTilde (text : String) (isWhole : Bool) : Run (Option (String × String)) := do
  let cs := text.toList
  let name := cs.takeWhile (· ≠ '/')
  let rest := cs.drop name.length
  if cs.head? ≠ some '~' ∨ (rest = [] ∧ !isWhole) then return none
  else
    match String.ofList name.tail with
    | "" => return (← valueOf? "HOME").map (·, String.ofList rest)
    | "root" => return some ("/root", String.ofList rest)
    | _ => return none

/-- The bits of a text of the script at the head of a word. -/
def headBits (text : String) (isWhole : Bool) : Run (List Bit) := do
  match ← resolveTilde text isWhole with
  | some (home, rest) => return Bit.quoted home.toList ++ Bit.literal rest.toList
  | none => return Bit.literal text.toList

/-- The bits of a text in a setting, where tildes also stand behind colons. -/
def settingBits (text : String) (isWhole : Bool) : Run (List Bit) := do
  let pieces := text.splitOn ":"
  let bits ← (List.zip pieces (List.range pieces.length)).mapM fun (piece, index) =>
    headBits piece (isWhole || index + 1 < pieces.length)
  return [Bit.char ':' false false].intercalate bits

/-- How a word is expanded. -/
inductive Purpose where
  /-- To fields, of which there may be several. -/
  | fields
  /-- To one text. -/
  | text
  /-- To the value of a setting. -/
  | setting
  deriving DecidableEq, Repr

/-- The bits of a parameter and its use. -/
def parameterBits (runner : Runner) (purpose : Purpose) (name : String) (form : Form)
    (isQuoted : Bool) : Run (List Bit) := do
  let expand (word : Word) : Run (List Bit) := do
    let bits ← runner.expand (purpose = .fields) word
    return if isQuoted then .mark :: bits else loosen bits
  let value? ← parameter? name
  match form with
  | .malformed => fail "Bad substitution"
  | .value => do
      requireValue name value?
      let arguments := (← process).arguments
      if purpose = .fields ∧ (name = "@" ∨ (name = "*" ∧ !isQuoted)) then
        return argumentBits isQuoted arguments
      else return bitsOf isQuoted (value?.getD "")
  | .length => do
      requireValue name value?
      return bitsOf isQuoted (toString (value?.getD "").length)
  | .strip isPrefix isLongest pattern => do
      requireValue name value?
      let bits ← runner.expand false pattern
      let pieces := Wildcard.read (Bit.glyphs bits)
      return bitsOf isQuoted
        (String.ofList (Wildcard.strip isPrefix isLongest pieces (value?.getD "").toList))
  | .fallback kind isForEmpty word => do
      let isMissing : Bool := value?.isNone || (isForEmpty && value? = some "")
      let shown : Run (List Bit) := do
        if purpose = .fields ∧ (name = "@" ∨ (name = "*" ∧ !isQuoted)) then
          return argumentBits isQuoted (← process).arguments
        else return bitsOf isQuoted (value?.getD "")
      match kind, isMissing with
      | .instead, true => return if isQuoted then [.mark] else []
      | .instead, false | .use, true => expand word
      | _, false => shown
      | .assign, true => do
          let text := Bit.text (← runner.expand false word)
          if !isName name then fail s!"{name}: bad variable name"
          assign name text false
          return bitsOf isQuoted text
      | .complain, true => do
          let text := Bit.text (← runner.expand false word)
          let usual := if isForEmpty then "parameter not set or null" else "parameter not set"
          fail s!"{name}: {if word.isEmpty then usual else text}"

/-- The bits of a part of a word. -/
def partBits (runner : Runner) (purpose : Purpose) (isHead isWhole : Bool)
    : Part → Run (List Bit)
  | .text text true => return Bit.quoted text.toList
  | .text text false =>
      match purpose, isHead with
      | .setting, true => settingBits text isWhole
      | .setting, false => do
          let (before, behind) := (text.toList.takeWhile (· ≠ ':'), text.toList.dropWhile (· ≠ ':'))
          match behind with
          | _ :: rest =>
              return Bit.literal (before ++ [':']) ++ (← settingBits (String.ofList rest) isWhole)
          | [] => return Bit.literal text.toList
      | _, true => headBits text isWhole
      | _, false => return Bit.literal text.toList
  | .parameter name form isQuoted => parameterBits runner purpose name form isQuoted
  | .output script isQuoted => return bitsOf isQuoted (← outputText runner script)
  | .arithmetic expression isQuoted => do
      let text := Bit.text (← runner.expand false expression)
      return bitsOf isQuoted (← arithmetic text)

/-- The bits of a word. -/
def wordBits (runner : Runner) (purpose : Purpose) (word : Word) : Run (List Bit) :=
  go true word
where
  go (isHead : Bool) : Word → Run (List Bit)
    | [] => return []
    | part :: parts => do
        let bits ← partBits runner purpose isHead parts.isEmpty part
        return bits ++ (← go false parts)

/-! ### Words -/

/-- The text of a word that is not cut into fields. -/
def wordText (runner : Runner) (word : Word) : Run String :=
  return Bit.text (← wordBits runner .text word)

/-- The text of a word that is the value of a setting. -/
def settingText (runner : Runner) (word : Word) : Run String :=
  return Bit.text (← wordBits runner .setting word)

/-- The pattern that a word is. -/
def wordPattern (runner : Runner) (word : Word) : Run (List Wildcard.Piece) :=
  return Wildcard.read (Bit.glyphs (← wordBits runner .text word))

/-- What a field comes to: the paths of a pattern, or its text. -/
def fieldTexts (field : List Wildcard.Glyph) : Run (List String) := do
  let plain := String.ofList (field.map Prod.fst)
  if !Wildcard.isPattern field ∨ (← hasOption 'f') then return [plain]
  else
    let directory := (← process).directory
    let locate (path : String) : String := unspell (placeOf directory path)
    match Wildcard.paths (← world).files locate field with
    | [] => return [plain]
    | paths => return paths

/-- The fields of a word. -/
def wordFields (runner : Runner) (word : Word) : Run (List String) := do
  let fields := partFields (← separators) (← wordBits runner .fields word)
  return (← fields.mapM fieldTexts).flatten

/-- The fields of some words. -/
def wordsFields (runner : Runner) (words : List Word) : Run (List String) :=
  return (← words.mapM (wordFields runner)).flatten

end MailMerge.Shell.Run
