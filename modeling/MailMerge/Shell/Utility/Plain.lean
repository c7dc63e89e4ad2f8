import MailMerge.Shell.Condition
import MailMerge.Shell.Format
import MailMerge.Shell.Switches

/-! Small utilities that show words, numbers and settings, or only have a status. -/

namespace MailMerge.Shell.Utility

open Work

/-! ### Words -/

/-- The number that some digits spell in a base. -/
def numberIn (base : Nat) (digits : List Char) : Nat :=
  digits.foldl (fun value c => value * base + (Arithmetic.digitOf? base c).getD 0) 0

def isHexDigit (c : Char) : Bool :=
  (Arithmetic.digitOf? 16 c).isSome

/-- Resolves hexadecimal escapes, and those of characters by their numbers, to octal ones
that every format knows.
-/
def resolveHex : Nat → List Char → List Char
  | 0, cs => cs
  | _ + 1, [] => []
  | fuel + 1, '\\' :: 'x' :: cs =>
      let digits := (cs.take 2).takeWhile isHexDigit
      if digits.isEmpty then '\\' :: 'x' :: resolveHex fuel cs
      else
        let octal := Nat.toDigits 8 (numberIn 16 digits)
        ('\\' :: List.replicate (3 - octal.length) '0') ++ octal
          ++ resolveHex fuel (cs.drop digits.length)
  | fuel + 1, '\\' :: 'u' :: cs =>
      let digits := (cs.take 4).takeWhile isHexDigit
      if digits.isEmpty then '\\' :: 'u' :: resolveHex fuel cs
      else
        (spell (String.singleton (Char.ofNat (numberIn 16 digits)))).toList
          ++ resolveHex fuel (cs.drop digits.length)
  | fuel + 1, '\\' :: c :: cs => '\\' :: c :: resolveHex fuel cs
  | fuel + 1, c :: cs => c :: resolveHex fuel cs

/-- The letters in front of the words to show, and those words. -/
def echoLetters : List String → List Char × List String
  | word :: words =>
      match word.toList with
      | '-' :: c :: cs =>
          if (c :: cs).all "neE".toList.contains then
            let (letters, rest) := echoLetters words
            (c :: cs ++ letters, rest)
          else ([], word :: words)
      | _ => ([], word :: words)
  | [] => ([], [])

def showWords (words : List String) : Work Nat := do
  let (letters, words) := echoLetters words
  let text := (" ".intercalate words).toList
  let isEscaped : Bool := (letters.filter (· ≠ 'n')).getLast? = some 'e'
  let (text, hasEnded) :=
    if isEscaped then unescape true (resolveHex (text.length + 1) text) else (text, false)
  say (text ++ if letters.contains 'n' || hasEnded then [] else [newline])
  return 0

/-- The words of a warning about a number. -/
def numberWarning (warning : String) : String :=
  let change (ending reason : String) : Option String :=
    if warning.endsWith ending then
      some (marked (warning.dropEnd ending.length).toString ++ ": " ++ reason)
    else none
  (change ": expected numeric value" "expected a numeric value"
    <|> change ": not completely converted" "value not completely converted"
    <|> change ": Numerical result out of range" "Numerical result out of range").getD warning

def showFormat (words : List String) : Work Nat := do
  let name := "printf"
  let words := if words.head? = some "--" then words.tail else words
  match words with
  | [] => misuse 1 name "missing operand"
  | format :: rest => do
      let resolved := String.ofList (resolveHex (format.length + 1) format.toList)
      let filling := fillFormat resolved rest
      say filling.shown.reverse
      for warning in filling.warnings do warn name (numberWarning warning)
      match filling.problem with
      | some problem => do
          let sign :=
            if problem.endsWith ": invalid directive" then (problem.dropEnd 19).toString else "%"
          fail 1 name s!"{sign}: invalid conversion specification"
      | none => do
          match filling.words, filling.hasEnded with
          | word :: _, false =>
              warn name s!"warning: ignoring excess arguments, starting with {marked word}"
          | _, _ => pure ()
          return if filling.warnings.isEmpty then 0 else 1

def repeatWords (words : List String) : Work Nat := do
  match (words.head?.bind (·.toList.head?)), words with
  | some '-', first :: _ =>
      if first ≠ "-" ∧ first ≠ "--" then
        misuse 1 "yes" s!"invalid option -- '{String.ofList (first.toList.tail.take 1)}'"
  | _, _ => pure ()
  let words := if words.head? = some "--" then words.tail else words
  let line := (if words.isEmpty then "y" else " ".intercalate words).toList ++ [newline]
  say (List.replicate (0x80000 / line.length + 1) line).flatten
  throw .forever

/-! ### Conditions -/

def stationView : Work Condition.View := do
  let station ← get
  return {
    files := station.files
    locate := fun path => unspell (placeOf station.directory path)
  }

/-- What is wrong with a condition, in the words of the utility. -/
def conditionProblem (words : List String) (problem : String) : String :=
  let last := marked (words.getLast?.getD "")
  if problem.startsWith "Illegal number: " then
    s!"invalid integer {marked (problem.drop 16).toString}"
  else if problem.endsWith "unexpected operator" then
    match words with
    | [_, middle, _] => s!"{marked middle}: binary operator expected"
    | [first, _] =>
        if first.startsWith "-" then s!"{marked first}: unary operator expected"
        else s!"missing argument after {last}"
    | _ => s!"extra argument {marked (problem.dropEnd 21).toString}"
  else s!"missing argument after {last}"

def showCondition (name : String) (words : List String) : Work Nat := do
  let isBracket : Bool := name = "["
  if isBracket ∧ words.getLast? ≠ some "]" then fail 2 name ("missing " ++ marked "]")
  let words := if isBracket then words.dropLast else words
  match Condition.holds (← stationView) words with
  | .ok holds => return if holds then 0 else 1
  | .error problem => fail 2 name (conditionProblem words problem)

def succeed (_ : List String) : Work Nat :=
  return 0

def refuse (_ : List String) : Work Nat :=
  return 1

/-! ### Settings -/

def showPlace (words : List String) : Work Nat := do
  let switches := Switches.of "LP" "" [("logical", 'L'), ("physical", 'P')]
  let arguments ← arguments switches 1 "pwd" words
  let { directory, files, environment, .. } ← get
  let shown (path : String) : String :=
    if path.startsWith "/" then path
    else if path = "" then Files.Tree.rootPath
    else Files.Tree.rootPath ++ "/" ++ path
  let place := unspell (if directory = "" then "." else directory)
  let physical := (files.resolve place).toOption.elim directory fun route =>
    spell (Files.Tree.pathOf route)
  let isLogical : Bool := arguments.has 'L' && environment.lookup "PWD" = some (shown directory)
  sayLine (shown (if isLogical then directory else physical))
  return 0

def showEnvironment (words : List String) : Work Nat := do
  let arguments ← arguments (Switches.of "0" "" [("null", '0')]) 2 "printenv" words
  let ending := if arguments.has '0' then ['\x00'] else [newline]
  let environment := (← get).environment
  if arguments.operands.isEmpty then
    for (name, value) in environment do say ((name ++ "=" ++ value).toList ++ ending)
    return 0
  let mut isFine := true
  for name in arguments.operands do
    match environment.lookup name with
    | some value => say (value.toList ++ ending)
    | none => isFine := false
  return if isFine then 0 else 1

def showSystem (words : List String) : Work Nat := do
  let arguments ← arguments (Switches.of "asnrvmpio" "" [("all", 'a')]) 1 "uname" words
  if arguments.has 'm' ∨ arguments.has 'p' ∨ arguments.has 'i' then sayLine "x86_64"
  else if arguments.has 'o' then sayLine "GNU/Linux"
  else sayLine "Linux"
  return 0

def showUser (words : List String) : Work Nat := do
  let _ ← arguments (Switches.of "" "" []) 1 "whoami" words
  sayLine "root"
  return 0

def showIdentity (words : List String) : Work Nat := do
  let arguments ← arguments (Switches.of "ugGnr" "" []) 1 "id" words
  let isName := arguments.has 'n'
  if ['u', 'g', 'G'].any arguments.has then sayLine (if isName then "root" else "0")
  else sayLine "uid=0(root) gid=0(root) groups=0(root)"
  return 0

def showMachine (_ : List String) : Work Nat := do
  sayLine "x86_64"
  return 0

def showTerminal (_ : List String) : Work Nat := do
  sayLine "not a tty"
  return 1

end MailMerge.Shell.Utility
