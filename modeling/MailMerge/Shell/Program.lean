import MailMerge.Decimal.Reading
import MailMerge.Shell.Lookup
import MailMerge.Shell.Redirection

/-! Programs that run other commands, take time, or change what may be run. -/

namespace MailMerge.Shell.Run

open MailMerge.Pipe (ExitStatus)

/-! ### Messages -/

/-- Reports a problem under the name of a program. -/
def complain (name problem : String) : Run Unit :=
  report s!"{name}: {problem}"

/-- Reports a problem with the call of a program. -/
def refuse (status : Nat) (name problem : String) : Run Unit := do
  complain name (problem ++ Work.advice name)
  setStatus status

/-- Reads the words of a call, or refuses them. -/
def withSwitches (switches : Switches) (status : Nat) (name : String) (words : List String)
    (action : Arguments → Run Unit) : Run Unit :=
  match switches.read words with
  | .ok arguments => action arguments
  | .error problem => refuse status name problem

/-- Runs a command within a program. What the program says about one that is not there
comes of its words.
-/
def runWithin (runner : Runner) (name : String) (message : String → String)
    (words : List String) : Run Unit := do
  let command := words.headD ""
  match ← findProgram command with
  | .error fault => do
      complain name s!"{message command}: {fault.systemReason}"
      setStatus fault.status
  | .ok _ => runner.words { isTested := false, isLast := true } words

/-! ### Settings of the environment -/

def clearVariables : Run Unit :=
  setProcess fun process =>
    { process with bindings := process.bindings.filter fun entry => !entry.2.isExported }

def exportVariable (name value : String) : Run Unit :=
  putVariable name (some { value := some value, isExported := true, isReadonly := false })

def runEnv (runner : Runner) (words : List String) : Run Unit := do
  let switches : Switches :=
    { Switches.of "i0v" "uCS"
      [
        ("ignore-environment", 'i'), ("null", '0'), ("unset", 'u'), ("chdir", 'C'),
        ("split-string", 'S')
      ] with
      permutes := false }
  withSwitches switches 125 "env" words fun arguments => do
    let isBare : Bool := arguments.operands.head? = some "-"
    let operands := if isBare then arguments.operands.tail else arguments.operands
    if isBare ∨ arguments.has 'i' then clearVariables
    for name in arguments.values 'u' do putVariable name none
    if (← variableAt "PATH").isNone then
      putVariable "PATH"
        (some { value := some "/bin:/usr/bin", isExported := false, isReadonly := false })
    for path in arguments.values 'C' do
      if !(← Builtin.enter true path) then
        complain "env" s!"cannot change directory to {marked path}: No such file or directory"
        setStatus 125
        throw (.exited 125)
    let settings := operands.takeWhile (·.toList.contains '=')
    for setting in settings do
      let (name, value?) := Builtin.splitSetting setting
      exportVariable name (value?.getD "")
    let split := (arguments.values 'S').flatMap fun text =>
      (text.splitOn " ").filter (· ≠ "")
    match split ++ operands.drop settings.length with
    | [] => do
        let ending := if arguments.has '0' then "\x00" else "\n"
        for (name, value) in ← environment do say s!"{name}={value}{ending}"
        setStatus 0
    | words => runWithin runner "env" marked words

/-! ### Time -/

/-- The nanoseconds of a span such as `3`, `0.5` or `2m`; none in it if it has no end. -/
def spanOf? (text : String) : Option (Option Nat) :=
  let cs := text.toList
  let unit :=
    match cs.getLast? with
    | some 's' => some 1
    | some 'm' => some 60
    | some 'h' => some 3600
    | some 'd' => some 86400
    | _ => none
  let number := if unit.isSome then cs.dropLast else cs
  if ["inf", "infinity"].contains ((String.ofList number).map Char.toLower) then some none
  else
    (Decimal.Literal.read? number).bind fun literal =>
      if literal.negative then none
      else
        let exponent := literal.exponent + 9
        let seconds := literal.digits * unit.getD 1
        some (some (seconds * Nat.pow 10 exponent.toNat / Nat.pow 10 (-exponent).toNat))

def runSleep (runner : Runner) (words : List String) : Run Unit := do
  let name := "sleep"
  withSwitches (Switches.of "" "" []) 1 name words fun arguments => do
    if arguments.operands.isEmpty then refuse 1 name "missing operand"
    else
      let spans := arguments.operands.map fun word => (word, spanOf? word)
      let wrong := spans.filter (·.2.isNone)
      match wrong.reverse with
      | (last, _) :: others => do
          for (word, _) in others.reverse do
            complain name s!"invalid time interval {marked word}"
          refuse 1 name s!"invalid time interval {marked last}"
      | [] => do
          setStatus 0
          match spans.mapM (·.2.bind id) with
          | some spans => sleep runner (spans.foldl (· + ·) 0)
          | none => awaitEnd .endless

/-- Runs a command that is stopped when a span has passed. Tells how it ended, none if it
was stopped.
-/
def runFor (runner : Runner) (span : Nat) (action : Run Unit) : Run (Option ExitStatus) := do
  let before ← world
  let limit := before.clock + span
  if before.deadline.any (· ≤ limit) then return some (← inChild runner action)
  setWorld fun world => { world with deadline := some limit }
  let restore : Run Unit := setWorld fun world => { world with deadline := before.deadline }
  let ending? ← tryCatch (do return Except.ok (← inChild runner action))
    (fun halt => return Except.error halt)
  restore
  match ending? with
  | .ok ending => return some ending
  | .error .late => do
      waitUntil limit
      return none
  | .error halt => throw halt

def runTimeout (runner : Runner) (words : List String) : Run Unit := do
  let name := "timeout"
  let switches : Switches :=
    { Switches.of "vpf" "sk"
      [
        ("verbose", 'v'), ("preserve-status", 'p'), ("foreground", 'f'), ("signal", 's'),
        ("kill-after", 'k')
      ] with
      permutes := false }
  withSwitches switches 125 name words fun arguments => do
    let signalName := (arguments.value? 's').getD "TERM"
    let bareName :=
      if signalName.startsWith "SIG" then (signalName.drop 3).toString else signalName
    match arguments.operands, Signal.named? bareName with
    | [], _ | [_], _ => do
        report ("Try 'timeout --help' for more information.")
        setStatus 125
    | _, none => refuse 125 name s!"{marked signalName}: invalid signal"
    | word :: words, some signal => do
        match spanOf? word with
        | none => refuse 125 name s!"invalid time interval {marked word}"
        | some span => do
            let run := runWithin runner name (s!"failed to run command {marked ·}") words
            let ending ←
              match span with
              | some 0 | none => pure (some (← inChild runner run))
              | some span => runFor runner span run
            match ending with
            | some ending => setStatus ending.number
            | none => do
                if arguments.has 'v' then
                  let label := Signal.label signal
                  let command := marked (words.headD "")
                  complain name s!"sending signal {label} to command {command}"
                if arguments.has 'p' then setStatus (128 + signal)
                else if signal = Signal.kill then throw (.killed Signal.kill)
                else setStatus 124

/-! ### Commands around others -/

def runNohup (runner : Runner) (words : List String) : Run Unit := do
  let name := "nohup"
  let switches := { Switches.of "" "" [] with permutes := false }
  withSwitches switches 125 name words fun arguments => do
    if arguments.operands.isEmpty then refuse 125 name "missing operand"
    else runWithin runner name (s!"failed to run command '{·}'") arguments.operands

def runNice (runner : Runner) (words : List String) : Run Unit := do
  let name := "nice"
  let isCount (word : String) : Bool :=
    word.startsWith "-" && (natOf? (word.drop 1).toString).isSome
  let words :=
    match words with
    | word :: rest => if isCount word then "-n" :: (word.drop 1).toString :: rest else words
    | [] => []
  let switches := { Switches.of "" "n" [("adjustment", 'n')] with permutes := false }
  withSwitches switches 125 name words fun arguments => do
    let value := (arguments.value? 'n').getD "10"
    let digits := if value.startsWith "-" then (value.drop 1).toString else value
    if (natOf? digits).isNone then
      complain name s!"invalid adjustment {marked value}"
      setStatus 125
    else if arguments.operands.isEmpty then
      say "0\n"
      setStatus 0
    else runWithin runner name marked arguments.operands

/-- Runs the command behind the switches of a program. -/
def runBehind (runner : Runner) (name : String) (switches : Switches) (words : List String)
    : Run Unit :=
  withSwitches { switches with permutes := false } 125 name words fun arguments =>
    if arguments.operands.isEmpty then refuse 125 name "missing operand"
    else runWithin runner name (s!"failed to run command {marked ·}") arguments.operands

/-! ### Commands built from input -/

/-- The words of a text in which quotes and backslashes take the meaning off blanks. The
second component tells of each word whether it ends a line.
-/
def quotedWords : Nat → Option (List Char) → List Char
    → Except String (List (List Char × Bool))
  | 0, _, _ => .ok []
  | _ + 1, current, [] => .ok (current.toList.map fun word => (word.reverse, true))
  | fuel + 1, current, c :: cs =>
      let word := current.getD []
      if c = newline then
        match current with
        | some word => (quotedWords fuel none cs).map ((word.reverse, true) :: ·)
        | none => quotedWords fuel none cs
      else if isSpace c then
        match current with
        | some word => (quotedWords fuel none cs).map ((word.reverse, false) :: ·)
        | none => quotedWords fuel none cs
      else if c = '\\' then
        match cs with
        | d :: cs => quotedWords fuel (some (d :: word)) cs
        | [] => quotedWords fuel current []
      else if c = '\x22' ∨ c = '\x27' then
        let inside := cs.takeWhile fun d => d ≠ c && d ≠ newline
        match cs.drop inside.length with
        | d :: rest =>
            if d = c then quotedWords fuel (some (inside.reverse ++ word)) rest
            else .error (if c = '\x22' then "double" else "single")
        | [] => .error (if c = '\x22' then "double" else "single")
      else quotedWords fuel (some (c :: word)) cs

/-- The items of a text that some character ends. -/
def itemsBy (ending : Char) (text : List Char) : List (List Char) :=
  let pieces := text.splitOn ending
  if pieces.getLast? = some [] then pieces.dropLast else pieces

/-- Groups of so many items. -/
def groupsOf (size : Nat) : Nat → List String → List (List String)
  | 0, _ => []
  | _ + 1, [] => []
  | fuel + 1, items => items.take size :: groupsOf size fuel (items.drop size)

/-- Groups of the words of so many lines. -/
def linesOf (size : Nat) (words : List (String × Bool)) : List (List String) :=
  let (done, current, _) := words.foldl
    (fun (done, current, count) (word, isLast) =>
      let current := word :: current
      if isLast then
        if count + 1 = size then (current.reverse :: done, [], 0) else (done, current, count + 1)
      else (done, current, count))
    (([] : List (List String)), ([] : List String), 0)
  (if current.isEmpty then done else current.reverse :: done).reverse

/-- What becomes of the commands that are built: the worst status so far. -/
def worseStatus (before : Nat) (ending : ExitStatus) : Nat :=
  match ending with
  | .code 0 => before
  | .code number => if number = 126 || number = 127 then number else 123
  | .signal _ => 125

/-- Runs commands one after the other until one asks for an end. -/
def runEach (runner : Runner) (shows : Bool) : Nat → List (List String) → Run Unit
  | status, [] => setStatus status
  | status, words :: rest => do
      if shows then report (" ".intercalate words)
      let input ← newOutlet .nothing
      let command := words.headD ""
      let ending ← inChild runner do
        connect 0 input
        runWithin runner "xargs" id words
      match ending with
      | .code 255 => do
          complain "xargs" s!"{command}: exited with status 255; aborting"
          setStatus 124
      | .signal number => do
          complain "xargs" s!"{command}: terminated by signal {number}"
          setStatus 125
      | .code 126 => setStatus 126
      | .code 127 => setStatus 127
      | ending => runEach runner shows (worseStatus status ending) rest

def runXargs (runner : Runner) (words : List String) : Run Unit := do
  let name := "xargs"
  let switches : Switches :=
    {
      letters :=
        "0rtxpo".toList.map (·, .alone) ++ "nIdLPsEa".toList.map (·, .value)
          ++ "ile".toList.map (·, .optional)
      names :=
        [
          ("null", '0'), ("no-run-if-empty", 'r'), ("verbose", 't'), ("max-args", 'n'),
          ("replace", 'i'), ("delimiter", 'd'), ("max-lines", 'l'), ("max-procs", 'P'),
          ("arg-file", 'a'), ("exit", 'x'), ("max-chars", 's'), ("eof", 'e')
        ]
      permutes := false
    }
  withSwitches switches 1 name words fun arguments => do
    let command := if arguments.operands.isEmpty then ["echo"] else arguments.operands
    for letter in ['n', 'L'] do
      match arguments.value? letter with
      | none => pure ()
      | some value =>
          match natOf? value with
          | some 0 => do
              refuse 1 name s!"value {value} for -{letter} option should be >= 1"
              throw (.exited 1)
          | some _ => pure ()
          | none => do
              refuse 1 name s!"invalid number \"{value}\" for -{letter} option"
              throw (.exited 1)
    let (input, _, _) ← readable 0
    let text ←
      match arguments.value? 'a' with
      | some path => do
          match (← world).files.read (← locate path) with
          | .ok bytes => pure (toOctets bytes)
          | .error _ => pure []
      | none => do
          let work : Work Nat := do let _ ← Work.takeInput; return 0
          utility name work
          pure input
    let marker? : Option String :=
      match arguments.value? 'I', arguments.has 'i' with
      | some marker, _ => some marker
      | none, true =>
          let marker := (arguments.value? 'i').getD ""
          some (if marker = "" then "\x7b\x7d" else marker)
      | none, false => none
    let ending? : Option Char :=
      if arguments.has '0' then some '\x00'
      else
        (arguments.value? 'd').map fun text =>
          match (unescape false text.toList).1 with
          | c :: _ => c
          | [] => '\x00'
    let items : Except String (List (String × Bool)) :=
      match ending? with
      | some ending => .ok ((itemsBy ending text).map fun item => (String.ofList item, true))
      | none =>
          if marker?.isSome then
            let lines := (splitLines text).map (·.dropWhile isSpace)
            .ok ((lines.filter (· ≠ [])).map fun line => (String.ofList line, true))
          else
            (quotedWords (text.length + 1) none text).map fun words =>
              words.map fun (word, isLast) => (String.ofList word, isLast)
    match items with
    | .error kind => do
        complain name
          s!"unmatched {kind} quote; by default quotes are special to xargs unless you use the -0 option"
        setStatus 1
    | .ok items => do
        let items :=
          match arguments.value? 'E' with
          | some last => items.takeWhile (·.1 ≠ last)
          | none => items
        let words := items.map Prod.fst
        let commands : List (List String) :=
          match marker?, arguments.value? 'L' <|> arguments.value? 'l',
              (arguments.value? 'n').bind natOf? with
          | some marker, _, _ =>
              words.map fun word => command.map (·.replace marker word)
          | none, some count, _ =>
              (linesOf (max 1 ((natOf? count).getD 1)) items).map (command ++ ·)
          | none, none, some count =>
              (groupsOf count (words.length + 1) words).map (command ++ ·)
          | none, none, none => if words.isEmpty then [] else [command ++ words]
        let commands :=
          if commands.isEmpty ∧ marker?.isNone ∧ !arguments.has 'r' then [command] else commands
        runEach runner (arguments.has 't') 0 commands

/-! ### Places of programs -/

def runWhich (words : List String) : Run Unit := do
  let words := words.filter (!·.startsWith "-")
  let mut isFine := !words.isEmpty
  for word in words do
    match ← findProgram word with
    | .ok program => say (Program.path program ++ "\n")
    | .error _ => isFine := false
  setStatus (if isFine then 0 else 1)

end MailMerge.Shell.Run
