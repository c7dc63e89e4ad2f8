import MailMerge.Shell.Condition
import MailMerge.Shell.Expansion
import MailMerge.Shell.Format

/-! The commands that belong to the shell itself and run no other commands. Each hands back
its status.
-/

namespace MailMerge.Shell.Builtin

open Run

/-- Reads the option letters in front of the operands of a command; letters in the second
text take a value.
-/
def takeOptions (alone valued : String) (words : List String)
    : Run (List (Char × String) × List String) :=
  go (words.length + 1) words
where
  letters : Nat → List Char → List String → Run (List (Char × String) × List String)
    | 0, _, rest => return ([], rest)
    | _, [], rest => return ([], rest)
    | fuel + 1, c :: cs, rest => do
        if valued.toList.contains c then
          match cs, rest with
          | [], [] => fail s!"No arg for -{c} option"
          | [], value :: rest => return ([(c, value)], rest)
          | cs, rest => return ([(c, String.ofList cs)], rest)
        else if alone.toList.contains c then
          let (found, rest) ← letters fuel cs rest
          return ((c, "") :: found, rest)
        else fail s!"Illegal option -{c}"
  go : Nat → List String → Run (List (Char × String) × List String)
    | 0, words => return ([], words)
    | _, [] => return ([], [])
    | fuel + 1, word :: words =>
        match word.toList with
        | ['-', '-'] => return ([], words)
        | '-' :: c :: cs => do
            let (found, rest) ← letters (word.length + 1) (c :: cs) words
            let (more, rest) ← go fuel rest
            return (found ++ more, rest)
        | _ => return ([], word :: words)

/-- The greatest number that a word may be. -/
def maxNumber : Nat := 0x7FFFFFFF

def numberOf (word : String) : Run Nat :=
  match (natOf? word).filter (· ≤ maxNumber) with
  | some number => return number
  | none => fail s!"Illegal number: {word}"

/-- Writes a text, or complains that it cannot be written. -/
def write (name : String) (text : List Char) : Run Nat := do
  match ← emit 1 text with
  | none => return 0
  | some _ => do
      warn s!"{name}: I/O error"
      return 1

/-! ### Text -/

def echo (words : List String) : Run Nat :=
  write "echo" (Shell.echo words)

def printf (words : List String) : Run Nat := do
  let (_, words) ← takeOptions "" "" words
  match words with
  | [] => fail "usage: printf format [arg ...]"
  | format :: words => do
      let filling := fillFormat format words
      let status ← write "printf" filling.shown.reverse
      for warning in filling.warnings do warn warning
      match filling.problem with
      | some problem => fail problem
      | none => return if filling.warnings.isEmpty then status else 1

/-- How conditions look at files. -/
def view : Run Condition.View := do
  let world ← world
  let directory := (← process).directory
  return { files := world.files, locate := fun path => unspell (placeOf directory path) }

def condition (words : List String) : Run Nat := do
  match Condition.holds (← view) words with
  | .ok holds => return if holds then 0 else 1
  | .error problem => fail problem

def bracket (words : List String) : Run Nat := do
  if words.getLast? ≠ some "]" then fail "missing ]"
  condition words.dropLast

/-! ### Places -/

/-- A path from the very top without the names that lead nowhere new. -/
def plainPath (path : String) : String :=
  let names := (path.splitOn "/").foldl
    (fun names name =>
      if name = "" ∨ name = "." then names
      else if name = ".." then names.tail
      else name :: names)
    []
  "/" ++ "/".intercalate names.reverse

/-- A path from the very top as the shell keeps it: below the root, from there. -/
def keptPath (path : String) : String :=
  let root := Files.Tree.rootPath
  if path = root then ""
  else if path.startsWith (root ++ "/") then (path.drop (root.length + 1)).toString
  else path

/-- The path of a directory with no links on it. -/
def physicalPath (directory : String) : Run String := do
  let path := if directory = "" then "." else directory
  match (← world).files.resolve (unspell path) with
  | .ok route => return spell (shownPath (Files.Tree.pathOf route))
  | .error _ => return shownPath directory

/-- Moves to a directory, unless it is none. Links on the way stay in its path, unless that
is to be free of them.
-/
def enter (isPhysical : Bool) (path : String) : Run Bool := do
  let before := shownPath (← process).directory
  let whole :=
    if path.startsWith "/" then path else Files.joinPath before path
  let whole ←
    if isPhysical then physicalPath (keptPath whole) else pure (plainPath whole)
  if (← world).files.stat (unspell whole) matches .ok .directory then
    let directory := keptPath whole
    setProcess fun process => { process with directory }
    assign "OLDPWD" before true
    assign "PWD" whole true
    return true
  else return false

/-- Whether a path starts at the top or at a directory that it names by points. -/
def isRooted (path : String) : Bool :=
  path.startsWith "/" || [".", ".."].contains ((path.splitOn "/").headD "")

/-- Finds a directory below those where directories are looked for. Tells whether the place
is to be shown.
-/
def findDirectory (path : String) : Run (String × Bool) := do
  if isRooted path then return (path, false)
  let places := ((← valueOf? "CDPATH").getD "").splitOn ":"
  for place in places do
    let candidate := if place = "" then path else Files.joinPath place path
    if (← entryAt? candidate) = some .directory then return (candidate, place ≠ "")
  return (path, false)

def changeDirectory (words : List String) : Run Nat := do
  let (options, words) ← takeOptions "LP" "" words
  let isPhysical : Bool := (options.filter fun c => c.1 = 'L' || c.1 = 'P').getLast?.any (·.1 = 'P')
  let isBack : Bool := words.head? = some "-"
  let path ←
    match words with
    | "-" :: _ => pure ((← valueOf? "OLDPWD").getD "")
    | path :: _ => pure path
    | [] => pure ((← valueOf? "HOME").getD "")
  let (found, isShown) ← findDirectory (if path = "" then "." else path)
  if !(← enter isPhysical found) then fail s!"can't cd to {path}"
  if isBack ∨ isShown then say (shownPath (← process).directory ++ "\n")
  return 0

def showDirectory (words : List String) : Run Nat := do
  let (options, _) ← takeOptions "LP" "" words
  let directory := (← process).directory
  let isPhysical : Bool := (options.filter fun c => c.1 = 'L' || c.1 = 'P').getLast?.any (·.1 = 'P')
  let path ← if isPhysical then physicalPath directory else pure (shownPath directory)
  write "pwd" (path ++ "\n").toList

def mask (words : List String) : Run Nat := do
  let (options, words) ← takeOptions "S" "" words
  let shown (mask : Nat) : String :=
    String.ofList (padLeft 4 (Nat.toDigits 8 mask)) |>.replace " " "0"
  match words with
  | [] => do
      let mask := (← process).mask
      if options.isEmpty then say (shown mask ++ "\n")
      else
        let letters (bits : Nat) : String :=
          (if bits / 4 % 2 = 0 then "r" else "") ++ (if bits / 2 % 2 = 0 then "w" else "")
            ++ (if bits % 2 = 0 then "x" else "")
        say s!"u={letters (mask / 64 % 8)},g={letters (mask / 8 % 8)},o={letters (mask % 8)}\n"
      return 0
  | word :: _ => do
      let digits := word.toList
      if digits.all fun c => '0' ≤ c && c ≤ '7' then
        let mask := digits.foldl (fun value c => value * 8 + (c.toNat - '0'.toNat)) 0 % 512
        setProcess fun process => { process with mask }
      else if digits.all Char.isDigit then fail s!"Illegal number: {word}"
      return 0

/-! ### Variables -/

/-- A value in single quotes, as the shell would read it. -/
def quotedValue (text : String) : String :=
  let inside := text.toList.flatMap fun c =>
    if c = '\x27' then "\x27\x22\x27\x22\x27".toList else [c]
  "\x27" ++ String.ofList inside ++ "\x27"

/-- Lists variables with their values, each behind a word. -/
def listVariables (lead : String) (test : Variable → Bool) : Run Unit := do
  let found := (← process).bindings.filter fun entry => test entry.2
  for (name, entry) in found.mergeSort fun x y => x.1 ≤ y.1 do
    match entry.value with
    | some value => say s!"{lead}{name}={quotedValue value}\n"
    | none => if lead ≠ "" then say s!"{lead}{name}\n"

/-- The name and the value of a word that may be a setting. -/
def splitSetting (word : String) : String × Option String :=
  let name := word.toList.takeWhile (· ≠ '=')
  (String.ofList name, (word.toList.drop name.length).tail?.map String.ofList)

/-- Marks variables, which may be given values on the way. -/
def markVariables (lead : String) (test : Variable → Bool) (mark : Variable → Variable)
    (words : List String) : Run Nat := do
  let (options, words) ← takeOptions "p" "" words
  if words.isEmpty ∨ !options.isEmpty then
    listVariables lead test
    return 0
  for word in words do
    let (name, value?) := splitSetting word
    if !isName name then fail s!"{name}: bad variable name"
    match value? with
    | some value => assign name value false
    | none => pure ()
    let found := (← variableAt name).getD
      { value := none, isExported := false, isReadonly := false }
    putVariable name (some (mark found))
  return 0

def exportNames (words : List String) : Run Nat :=
  markVariables "export " Variable.isExported (fun found => { found with isExported := true })
    words

def protectNames (words : List String) : Run Nat :=
  markVariables "readonly " Variable.isReadonly
    (fun found => { found with isReadonly := true }) words

def localNames (words : List String) : Run Nat := do
  if (← process).calls = 0 then fail "not in a function"
  let (_, words) ← takeOptions "" "" words
  for word in words do
    if word ≠ "-" then
      let (name, value?) := splitSetting word
      if !isName name then fail s!"{name}: bad variable name"
      keep name
      match value? with
      | some value => assign name value false
      | none => pure ()
  return 0

def unsetNames (words : List String) : Run Nat := do
  let (options, words) ← takeOptions "vf" "" words
  let isFunction : Bool := options.getLast?.any (·.1 = 'f')
  for name in words do
    if isFunction then
      setProcess fun process =>
        { process with functions := process.functions.filter (·.1 ≠ name) }
    else
      if !isName name then fail s!"{name}: bad variable name"
      match ← variableAt name with
      | some found => do
          if found.isReadonly then fail s!"{name}: is read only"
          putVariable name none
      | none => pure ()
  return 0

/-! ### Options and arguments -/

/-- The names of options, with the letters of those that have one. -/
def optionNames : List (String × Option Char) :=
  [
    ("errexit", some 'e'), ("noglob", some 'f'), ("ignoreeof", some 'I'),
    ("interactive", some 'i'), ("monitor", some 'm'), ("noexec", some 'n'),
    ("stdin", some 's'), ("xtrace", some 'x'), ("verbose", some 'v'), ("vi", some 'V'),
    ("emacs", some 'E'), ("noclobber", some 'C'), ("allexport", some 'a'),
    ("notify", some 'b'), ("nounset", some 'u'), ("privileged", some 'p'),
    ("nolog", none), ("debug", none)
  ]

def isOption (letter : Char) : Bool :=
  optionNames.any (·.2 = some letter)

/-- The letters of options in the order in which they are shown. -/
def optionLetters : List Char :=
  optionNames.filterMap Prod.snd

def setOption (letter : Char) (isOn : Bool) : Run Unit :=
  setProcess fun process =>
    { process with
      options := optionLetters.filter fun c =>
        if c = letter then isOn else process.options.contains c }

/-- Shows the options, as a table or as commands that set them. -/
def listOptions (asTable : Bool) : Run Unit := do
  if asTable then say "Current option settings\n"
  let options := (← process).options
  for (name, letter) in optionNames do
    let isOn := letter.any options.contains
    if asTable then
      let label := String.ofList (padRight 16 name.toList)
      let state := if isOn then "on" else "off"
      say s!"{label}{state}\n"
    else
      let sign := if isOn then "-" else "+"
      say s!"set {sign}o {name}\n"

/-- Sets options by letters; one of them takes a name from the words. -/
def setLetters (isOn : Bool) : List Char → List String → Run (List String)
  | [], words => return words
  | 'o' :: letters, words => do
      match words with
      | [] => do
          listOptions isOn
          setLetters isOn letters []
      | name :: rest => do
          match optionNames.find? (·.1 = name) with
          | none => fail s!"Illegal option -o {name}"
          | some (_, letter) => if let some letter := letter then setOption letter isOn
          setLetters isOn letters rest
  | letter :: letters, words => do
      if !isOption letter then fail s!"Illegal option -{letter}"
      setOption letter isOn
      setLetters isOn letters words

/-- Reads options; the words left are the new arguments, if there are to be any. -/
def readSettings : Nat → List String → Run (Option (List String))
  | 0, words => return some words
  | _, [] => return none
  | fuel + 1, word :: words =>
      match word.toList with
      | ['-'] => do
          setOption 'x' false
          setOption 'v' false
          return if words.isEmpty then none else some words
      | ['-', '-'] => return some words
      | '-' :: letters => do readSettings fuel (← setLetters true letters words)
      | '+' :: letters => do readSettings fuel (← setLetters false letters words)
      | _ => return some (word :: words)

def set (words : List String) : Run Nat := do
  if words.isEmpty then listVariables "" (fun _ => true)
  else
    match ← readSettings (words.length + 1) words with
    | some arguments =>
        setProcess fun process => { process with arguments, optionPlace := 0 }
    | none => pure ()
  return 0

def shift (words : List String) : Run Nat := do
  let count ←
    match words with
    | [] => pure 1
    | word :: _ => numberOf word
  let arguments := (← process).arguments
  if arguments.length < count then fail "can't shift that many"
  setProcess fun process => { process with arguments := arguments.drop count }
  return 0

/-- Where the reading of options has come to. -/
structure OptionStep where
  index : Nat
  place : Nat
  name : Char
  value : Option String
  isOver : Bool
  message : Option String

/-- Reads the next option among some words. -/
def nextOption (letters : List Char) (words : List String) (index place : Nat) : OptionStep :=
  let isQuiet : Bool := letters.head? = some ':'
  let current := (words[index - 2]?.getD "").toList
  let inside := if index ≤ 1 ∨ place = 0 then [] else current.drop place
  let finished (index : Nat) : OptionStep :=
    { index, place := 0, name := '?', value := none, isOver := true, message := none }
  let step (index : Nat) (cs : List Char) : OptionStep :=
    match cs with
    | [] => finished index
    | c :: rest =>
        let word := words[index - 2]?.getD ""
        let place := if rest = [] then 0 else word.length - rest.length
        let result (index place : Nat) (name : Char) (value message : Option String) : OptionStep :=
          { index, place, name, value, isOver := false, message }
        let behind := letters.dropWhile (· ≠ c)
        if c = ':' ∨ behind = [] then
          result index place '?' (if isQuiet then some (String.singleton c) else none)
            (if isQuiet then none else some s!"Illegal option -{c}")
        else if behind.tail.head? = some ':' then
          match rest, words[index - 1]? with
          | [], none =>
              result index 0 (if isQuiet then ':' else '?')
                (if isQuiet then some (String.singleton c) else none)
                (if isQuiet then none else some s!"No arg for -{c} option")
          | [], some value => result (index + 1) 0 c (some value) none
          | rest, _ => result index 0 c (some (String.ofList rest)) none
        else result index place c (some "") none
  if inside ≠ [] then step index inside
  else
    match words[index - 1]? with
    | none => finished index
    | some word =>
        match word.toList with
        | ['-', '-'] => finished (index + 1)
        | '-' :: c :: cs => step (index + 1) (c :: cs)
        | _ => finished index

def getOptions (words : List String) : Run Nat := do
  match words with
  | letters :: name :: rest => do
      let process ← process
      let among := if rest.isEmpty then process.arguments else rest
      let index := (((← valueOf? "OPTIND").bind natOf?).getD 1)
      let step := nextOption letters.toList among (max index 1) process.optionPlace
      if let some message := step.message then report message
      match step.value, step.isOver with
      | some value, _ => assign "OPTARG" value false
      | none, false => putVariable "OPTARG" none
      | none, true => pure ()
      assign "OPTIND" (toString step.index) false
      setProcess fun process => { process with optionPlace := step.place }
      if !isName name then fail s!"{name}: bad variable name"
      assign name (String.singleton step.name) false
      return if step.isOver then 1 else 0
  | _ => fail "Usage: getopts optstring var [arg]"

/-! ### Reading -/

/-- The marks of a line in which a backslash takes the meaning off the character behind it,
and whether the line goes on behind a backslash at its end.
-/
def unescapeLine : List Char → List Mark × Bool
  | [] => ([], false)
  | ['\\'] => ([], true)
  | '\\' :: c :: cs =>
      let (marks, goesOn) := unescapeLine cs
      ((c, true) :: marks, goesOn)
  | c :: cs =>
      let (marks, goesOn) := unescapeLine cs
      ((c, false) :: marks, goesOn)

/-- Takes lines as long as they go on. Tells the marks and whether a line has ended. -/
def takeMarks (isRaw : Bool) : Nat → Run (Option (List Mark × Bool))
  | 0 => return none
  | fuel + 1 => do
      match ← takeLine 0 with
      | none => return none
      | some (line, isWhole) => do
          let line := line.filter (· ≠ '\x00')
          if isRaw then return some (line.map (·, false), isWhole)
          let (marks, goesOn) := unescapeLine line
          if goesOn ∧ isWhole then
            match ← takeMarks isRaw fuel with
            | some (more, isWhole) => return some (marks ++ more, isWhole)
            | none => return some (marks, false)
          else return some (marks, isWhole)

def readLine (words : List String) : Run Nat := do
  let (options, names) ← takeOptions "r" "p" words
  if names.isEmpty then fail "arg count"
  let isRaw := options.any (·.1 = 'r')
  match ← takeMarks isRaw 100000 with
  | none => return 1
  | some (marks, isWhole) => do
      let texts := shareLine (← separators) names.length marks
      for (name, index) in names.zip (List.range names.length) do
        if !isName name then fail s!"{name}: bad variable name"
        assign name (texts[index]?.getD "") false
      return if isWhole then 0 else 1

/-! ### Traps and signals -/

def trap (words : List String) : Run Nat := do
  let (_, words) ← takeOptions "" "" words
  let signalOf? (word : String) : Option Nat :=
    if word.map Char.toUpper = "EXIT" then some 0 else Signal.named? word
  let put (action : String) : List String → Run Nat
    | names => do
        for name in names do
          match signalOf? name with
          | none => do
              report s!"trap: {name}: bad trap"
              return 1
          | some signal =>
              setProcess fun process =>
                { process with
                  traps :=
                    if action = "-" then process.traps.filter (·.1 ≠ signal)
                    else Pairs.assign signal action process.traps }
        return 0
  match words with
  | [] => do
      let traps := (← process).traps
      for (signal, action) in traps.mergeSort fun x y => x.1 ≤ y.1 do
        let name := if signal = 0 then "EXIT" else Signal.label signal
        say s!"trap -- {quotedValue action} {name}\n"
      return 0
  | [name] => put "-" [name]
  | action :: names => put action names

/-- Sends a signal to a process. Tells whether there is one. -/
def send (runner : Runner) (number signal : Nat) : Run Bool := do
  let process ← process
  let world ← world
  if number = process.number then
    if process.traps.any (·.1 = signal) ∧ signal ≠ Signal.kill then
      setWorld fun world => { world with signals := world.signals ++ [(number, signal)] }
    else takeSignal runner signal
    return true
  else if world.waiting.contains number then
    if signal ≠ 0 then
      setWorld fun world => { world with signals := world.signals ++ [(number, signal)] }
    return true
  else
    match world.jobs.find? (·.process.number = number) with
    | none => return false
    | some job => do
        settleJobs runner world.clock
        match (← Run.world).jobs.find? (·.process.number = number) with
        | some { ending := some _, isKnown, .. } => return isKnown
        | _ => do
            if !Signal.isHarmless signal ∧ signal ≠ 19 ∧ job.stopped.isNone then
              putJob { job with stopped := some (world.clock, signal) }
            return true

def killUsage : String :=
  "Usage: kill [-s sigspec | -signum | -sigspec] [pid | job]... or\nkill -l [exitstatus]"

/-- What the words of a call for a signal ask for: a list, or a signal and its targets. -/
def readKill (words : List String) : Run (Bool × Option Nat × List String) := do
  match words with
  | [] => fail killUsage
  | first :: rest =>
      if first.startsWith "-" then
        match Signal.named? (first.drop 1).toString with
        | some signal => return (false, some signal, rest)
        | none => do
            let (options, operands) ← takeOptions "l" "s" words
            let mut isList := false
            let mut signal : Option Nat := none
            for (letter, value) in options do
              if letter = 'l' then isList := true
              else
                match Signal.named? value with
                | some found => signal := some found
                | none => fail s!"invalid signal number or name: {value}"
            return (isList, signal, operands)
      else return (false, none, words)

def kill (runner : Runner) (words : List String) : Run Nat := do
  let (isList, signal?, targets) ← readKill words
  if isList then
    if signal?.isSome then fail killUsage
    match targets with
    | [] => do
        say "0\n"
        for number in (List.range (Signal.last + 1)).drop 1 do say (Signal.label number ++ "\n")
        return 0
    | word :: _ => do
        let number ← numberOf word
        let number := if 128 < number then number - 128 else number
        if number = 0 ∨ Signal.last < number then
          fail s!"invalid signal number or exit status: {word}"
        say (Signal.label number ++ "\n")
        return 0
  if targets.isEmpty then fail killUsage
  let mut status := 0
  for target in targets do
    if target.startsWith "%" then fail s!"No such job: {target}"
    let digits := if target.startsWith "-" then (target.drop 1).toString else target
    let own := (← process).shellNumber
    let number ← numberOf digits
    let number := if number = 0 then own else number
    if !(← send runner number (signal?.getD Signal.terminate)) then
      warn "No such process\n"
      status := 1
  return status

def wait (runner : Runner) (words : List String) : Run Nat := do
  let (_, words) ← takeOptions "" "" words
  let own := (← process).number
  let mine (job : Job) : Bool := job.process.parentNumber = own
  if words.isEmpty then
    for job in (← world).jobs.filter mine do
      let _ ← awaitJob runner job.process.number
    return 0
  let mut status := 0
  for word in words do
    if word.startsWith "%" then fail s!"No such job: {word}"
    let number ← numberOf word
    match (← world).jobs.find? fun job => mine job && job.process.number = number with
    | none => status := 127
    | some job => do
        let wasOver := !job.isKnown
        match ← awaitJob runner number with
        | some ending => do
            if !wasOver then reportEnding ending
            status := ending.number
            for job in (← world).jobs.filter (·.process.number = number) do
              putJob { job with isKnown := false }
        | none => status := 127
  return status

/-! ### Names -/

def setAliases (words : List String) : Run Nat := do
  if words.isEmpty then
    let aliases := (← process).aliases
    for (name, value) in aliases do say s!"{name}={quotedValue value}\n"
    return 0
  let mut status := 0
  for word in words do
    match splitSetting word with
    | (name, some value) =>
        setProcess fun process =>
          { process with aliases := Pairs.assign name value process.aliases }
    | (name, none) =>
        match (← process).aliases.lookup name with
        | some value => say s!"{name}={quotedValue value}\n"
        | none => do
            report s!"alias: {name} not found"
            status := 1
  return status

def unsetAliases (words : List String) : Run Nat := do
  let (options, words) ← takeOptions "a" "" words
  if !options.isEmpty then setProcess fun process => { process with aliases := [] }
  let mut status := 0
  for name in words do
    if ((← process).aliases.lookup name).isNone then
      report s!"unalias: {name} not found"
      status := 1
    setProcess fun process =>
      { process with aliases := process.aliases.filter (·.1 ≠ name) }
  return status

/-! ### The table of commands -/

def ofStatus (status : Nat) : List String → Run Nat :=
  fun _ => return status

/-- Commands by their names. -/
def plainTable : List (String × (List String → Run Nat)) :=
  [
    (":", ofStatus 0), ("true", ofStatus 0), ("false", ofStatus 1), ("echo", echo),
    ("printf", printf), ("test", condition), ("[", bracket), ("cd", changeDirectory),
    ("chdir", changeDirectory), ("pwd", showDirectory), ("umask", mask),
    ("export", exportNames), ("readonly", protectNames), ("local", localNames),
    ("unset", unsetNames), ("set", set), ("shift", shift), ("getopts", getOptions),
    ("read", readLine), ("trap", trap), ("alias", setAliases), ("unalias", unsetAliases),
    ("hash", ofStatus 0), ("jobs", ofStatus 0), ("bg", fun _ => fail "No current job"),
    ("fg", fun _ => fail "No current job"),
    ("times", fun _ => do say "0m0.00s 0m0.00s\n0m0.00s 0m0.00s\n"; return 0),
    ("ulimit", fun _ => do say "unlimited\n"; return 0)
  ]

/-- Commands about other processes by their names. -/
def processTable : List (String × (Runner → List String → Run Nat)) :=
  [("kill", kill), ("wait", wait)]

/-- Commands that run other commands, or change what runs next. -/
def ruling : List String :=
  [".", "break", "command", "continue", "eval", "exec", "exit", "return", "type"]

def names : List String :=
  plainTable.map Prod.fst ++ processTable.map Prod.fst ++ ruling

/-- Commands whose failure ends a script. -/
def special : List String :=
  [
    ".", ":", "break", "continue", "eval", "exec", "exit", "export", "local", "readonly",
    "return", "set", "shift", "times", "trap", "unset"
  ]

/-- Commands whose words may be settings. -/
def settling : List String :=
  ["alias", "export", "local", "readonly"]

/-- Runs one of the commands that run no others. -/
def run? (runner : Runner) (name : String) : Option (List String → Run Nat) :=
  match plainTable.lookup name with
  | some action => some action
  | none => (processTable.lookup name).map (· runner)

end MailMerge.Shell.Builtin
