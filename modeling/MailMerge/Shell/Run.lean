import MailMerge.Shell.Awk.Command
import MailMerge.Shell.Find.Command
import MailMerge.Shell.Program
import MailMerge.Shell.Script

/-! Running scripts: simple commands and the commands that are built from others. -/

namespace MailMerge.Shell.Run

/-! ### Scripts -/

/-- Runs the commands of a text line by line, as far as it can be read. -/
def runLines (runner : Runner) (manner : Manner) : Nat → Source → Run Unit
  | 0, _ => pure ()
  | fuel + 1, source => do
      if source.isOver then return
      let { aliases, .. } ← process
      let nextDocument := (← world).nextDocument
      match ({ source with nextDocument, aliases } : Source).readLine with
      | .error fault => do
          setProcess fun process => { process with line := fault.line }
          fail s!"Syntax error: {fault.message}"
      | .ok (command?, after) => do
          setWorld fun world =>
            { world with
              documents := after.documents ++ world.documents
              nextDocument := after.nextDocument }
          match command? with
          | some command => runner.command { manner with isLast := false } command
          | none => pure ()
          runLines runner manner fuel { after with documents := [] }

def runText (runner : Runner) (manner : Manner) (text : String) : Run Unit := do
  runLines runner manner (text.length + 2) (Source.start text 0)

/-! ### Shells -/

/-- A process of a shell of its own. -/
def newShell (process : Process) : Process :=
  let inherited := process.bindings.filter fun entry => entry.2.isExported
  let usual : List (String × Variable) :=
    [
      ("IFS", " \t\n"), ("PS1", "# "), ("PS2", "> "), ("PS4", "+ "), ("OPTIND", "1"),
      ("PPID", toString process.parentNumber)
    ].map
      fun (name, value) =>
        (name, { value := some value, isExported := false, isReadonly := false })
  { process with
    shellNumber := process.number
    commandName := none
    line := 0
    bindings := usual.foldl (fun known entry => Pairs.assign entry.1 entry.2 known)
      (inherited.map fun entry => (entry.1, { entry.2 with isReadonly := false }))
    functions := []
    aliases := []
    options := []
    arguments := []
    status := 0
    loops := 0
    calls := 0
    outer := []
    lastJob := none
    optionPlace := 0 }

/-- Where a shell takes its script from. -/
inductive Origin where
  | text
  | input
  | file

/-- Reads the options of a shell; what is left are its operands. -/
def readShellOptions : Nat → Origin → List String → Run (Origin × List String)
  | 0, origin, words => return (origin, words)
  | _, origin, [] => return (origin, [])
  | fuel + 1, origin, word :: words =>
      match word.toList with
      | ['-'] | ['-', '-'] => return (origin, words)
      | sign :: c :: cs =>
          if sign ≠ '-' ∧ sign ≠ '+' then return (origin, word :: words)
          else do
            let letters := c :: cs
            let rest ← Builtin.setLetters (sign = '-')
              (letters.filter fun c => c ≠ 'c' && c ≠ 'l') words
            let origin := if letters.contains 'c' then .text
              else if letters.contains 's' then .input else origin
            readShellOptions fuel origin rest
      | _ => return (origin, word :: words)

def takeInput (channel : Nat) : Run String := do
  let (text, _, _) ← readable channel
  let work : Work Nat := do let _ ← Work.takeInput; return 0
  utility "sh" work
  return String.ofList text

/-- Runs a shell in a process of its own. -/
def runShell (runner : Runner) (name : String) (words : List String) : Run Unit := do
  setProcess fun process => { newShell process with name }
  let (origin, operands) ← readShellOptions (words.length + 1) .file words
  match origin, operands with
  | .text, [] => fail "-c requires an argument"
  | .text, text :: operands => do
      setProcess fun process =>
        { process with name := operands.headD name, arguments := operands.tail, line := 1 }
      runner.script .plain text
  | .file, path :: arguments => do
      match (← world).files.read (← locate path) with
      | .error _ => fail s!"cannot open {path}: No such file"
      | .ok bytes => do
          setProcess fun process => { process with name := path, arguments, line := 1 }
          runner.script .plain (String.ofList (toOctets bytes))
  | _, arguments => do
      setProcess fun process => { process with arguments, line := 1 }
      runner.script .plain (← takeInput 0)

/-! ### Programs -/

/-- Runs a utility under the name by which it was called. -/
def runUtility (name called : String) (work : Work Nat) : Run Unit := do
  if name = called then utility name work
  else
    let rename (piece : Channel × List Char) : Channel × List Char :=
      let lead := (name ++ ": ").toList
      if piece.1 = .err ∧ lead.isPrefixOf piece.2 then
        (piece.1, called.toList ++ piece.2.drop name.length)
      else piece
    utility called fun station =>
      let (ending, after) := work.run station
      (ending, { after with output := after.output.map rename })

/-- The program and the argument that the first line of a script asks for. -/
def interpreterOf? (text : List Char) : Option (List String) :=
  if text.take 2 = ['#', '!'] then
    let line := String.ofList ((text.drop 2).takeWhile (· ≠ newline))
    some ((line.splitOn " ").filter (· ≠ ""))
  else none

/-- Runs the file of a script. -/
def runScript (runner : Runner) (path : String) (words : List String) : Run Unit := do
  match (← world).files.read (← locate path) with
  | .error _ => setStatus 127
  | .ok bytes => do
      let text := toOctets bytes
      match interpreterOf? text with
      | none | some [] => runShell runner path (path :: words)
      | some (interpreter :: more) => runner.words .plain (interpreter :: more ++ path :: words)

/-- Runs a program in the process. -/
def runProgram (runner : Runner) (called : String) (program : Program) (words : List String)
    : Run Unit := do
  match program with
  | .script path => runScript runner path words
  | .utility name _ =>
      match name with
      | "sh" | "dash" | "bash" => runShell runner called words
      | "env" => runEnv runner words
      | "xargs" => runXargs runner words
      | "timeout" => runTimeout runner words
      | "nohup" => runNohup runner words
      | "nice" => runNice runner words
      | "setsid" => runBehind runner name (Switches.of "cfw" "" []) words
      | "stdbuf" => runBehind runner name (Switches.of "" "ioe" []) words
      | "sleep" => runSleep runner words
      | "find" => Find.run runner words
      | "which" => runWhich words
      | "awk" | "mawk" | "nawk" => Awk.run runner name words
      | "kill" => do setStatus (← Builtin.kill runner words)
      | _ =>
          match utilities.lookup name with
          | some action => runUtility name called (action words)
          | none => setStatus 127

/-- Whether a program runs in a process of its own only because it may be stopped or change
the process.
-/
def isPlain : Program → Bool
  | .utility name _ => !hosts.contains name || name = "sleep" || name = "which"
  | .script _ => false

/-- Complains about a program that cannot be run. -/
def reportMissing (name : String) (fault : ProgramFault) : Run Unit := do
  let reason := if name = "" then ProgramFault.forbidden.reason else fault.reason
  warn s!"{name}: {reason}"
  setStatus fault.status

/-- Runs a program by its words and waits for its end. -/
def runExternal (runner : Runner) (manner : Manner) (words : List String) : Run Unit := do
  let name := words.headD ""
  match ← findProgram name with
  | .error fault => reportMissing name fault
  | .ok program => do
      spend commandSpan
      if isPlain program then runProgram runner name program words.tail
      else
        let ending ← inChild runner (runProgram runner name program words.tail)
        match ending, manner.isLast && (← process).traps.isEmpty with
        | .signal signal, true => throw (.killed signal)
        | ending, _ => takeEnding runner ending

/-- Runs a program by its words in place of the process. -/
def replaceProcess (runner : Runner) (words : List String) : Run Unit := do
  let name := words.headD ""
  match ← findProgram name with
  | .error fault => do
      warn s!"{name}: {fault.reason}"
      throw (.exited fault.status)
  | .ok program => do
      setProcess fun process =>
        { process with traps := process.traps.filter (·.2 = ""), commandName := none }
      spend commandSpan
      runProgram runner name program words.tail
      throw (.exited (← process).status)

/-! ### Functions and commands of the shell -/

/-- How deep functions may call each other. -/
def maxCalls : Nat := 1000

def callFunction (runner : Runner) (manner : Manner) (body : Command)
    (arguments : List String) : Run Unit := do
  let before ← process
  if maxCalls ≤ before.calls then
    fail s!"Maximum function recursion depth ({maxCalls}) reached"
  setProcess fun process =>
    { process with arguments, calls := before.calls + 1, loops := 0, optionPlace := 0 }
  let halt ← attempt (withKept (runner.command { manner with isLast := false } body))
  setProcess fun process =>
    { process with
      arguments := before.arguments
      calls := before.calls
      loops := before.loops
      optionPlace := before.optionPlace }
  if halt ≠ some .giveBack then resume halt

/-- Runs the script in a file as a part of the one that is running. -/
def includeScript (runner : Runner) (words : List String) : Run Unit := do
  let (_, words) ← Builtin.takeOptions "" "" words
  match words with
  | [] => setStatus 0
  | path :: _ => do
      let found? ←
        if path.toList.contains '/' then pure (some path)
        else do
          let directories := ((← valueOf? "PATH").getD "").splitOn ":"
          let candidates := directories.map fun directory =>
            if directory = "" then path else Files.joinPath directory path
          candidates.findM? fun candidate => do
            return ((← entryAt? candidate) matches some (.file _))
      match found? with
      | none => fail s!"{path}: not found"
      | some found => do
          match (← world).files.read (← locate found) with
          | .error _ => fail s!"cannot open {found}: No such file"
          | .ok bytes => do
              setStatus 0
              let loops := (← process).loops
              let halt ← attempt do
                inNameOf found (runner.script .plain (String.ofList (toOctets bytes)))
              if halt = some .giveBack then setProcess fun process => { process with loops }
              else resume halt

/-- Leaves loops or goes on with them. -/
def leaveLoops (goesOn : Bool) (words : List String) : Run Unit := do
  let count ←
    match words with
    | [] => pure 1
    | word :: _ => Builtin.numberOf word
  if count = 0 then fail ("Illegal number: " ++ words.headD "")
  setStatus 0
  let loops := (← process).loops
  if 0 < loops then throw (.leave (min count loops) goesOn)

/-- Runs one of the commands that run others or change what runs next. -/
def runRuling (runner : Runner) (manner : Manner) (name : String) (words : List String)
    : Run Unit := do
  match name with
  | "." => includeScript runner words
  | "break" => leaveLoops false words
  | "continue" => leaveLoops true words
  | "eval" =>
      if words.all (· = "") then setStatus 0
      else runner.script { manner with isLast := false } (" ".intercalate words)
  | "exec" =>
      if words.isEmpty then setStatus 0 else replaceProcess runner words
  | "exit" => do
      match words with
      | [] => throw (.exited ((← process).statusBefore.getD (← process).status))
      | word :: _ => throw (.exited ((← Builtin.numberOf word) % 256))
  | "return" => do
      match words with
      | [] => pure ()
      | word :: _ => setStatus (← Builtin.numberOf word)
      throw .giveBack
  | _ => explainNames false words

/-- Runs a command that belongs to the shell. A failure ends the script if the command is
special.
-/
def runBuiltin (runner : Runner) (manner : Manner) (isSpecial : Bool) (name : String)
    (words : List String) : Run Unit := do
  let halt ← attempt do
    inNameOf name do
      match Builtin.run? runner name with
      | some action => setStatus (← action words)
      | none => runRuling runner manner name words
  match halt, isSpecial with
  | some .failed, false => setStatus 2
  | halt, _ => resume halt

/-! ### Simple commands -/

/-- The words of a command behind the ones that only say how it is looked up: whether it is
to be explained and in brief, and the words.
-/
def readCommand : Nat → List String → Run (Option Bool × List String)
  | 0, words => return (none, words)
  | fuel + 1, words => do
      let (options, operands) ← Builtin.takeOptions "pvV" "" words
      match options.getLast? with
      | some ('v', _) => return (some true, operands)
      | some ('V', _) => return (some false, operands)
      | _ =>
          match operands with
          | "command" :: rest => readCommand fuel rest
          | operands => return (none, operands)

/-- Makes settings for good. -/
def makeSettings (runner : Runner) (settings : List (String × Word)) (exports : Bool)
    : Run (List String) := do
  settings.mapM fun (name, word) => do
    let value ← settingText runner word
    assign name value exports
    return s!"{name}={value}"

/-- Makes settings for a command alone. -/
def lendSettings (runner : Runner) (settings : List (String × Word)) : Run (List String) := do
  settings.mapM fun (name, word) => do
    let value ← settingText runner word
    keep name
    assign name value true
    return s!"{name}={value}"

/-- The fields of the words of a command. Words that are settings are not cut if the command
takes settings.
-/
def commandFields (runner : Runner) : List String → List Word → Run (List String)
  | fields, [] => return fields
  | fields, word :: words => do
      let name := (fields.find? (· ≠ "command")).getD ""
      let settles := Builtin.settling.contains name
      match if settles then setting? word else none with
      | some (name, value) => do
          let text ← settingText runner value
          commandFields runner (fields ++ [s!"{name}={text}"]) words
      | none => do
          let more ← wordFields runner word
          commandFields runner (fields ++ more) words

/-- Shows a command before it runs, if that is asked for. -/
def trace (outlet? : Option Nat) (texts : List String) : Run Unit := do
  if (← hasOption 'x') ∧ !texts.isEmpty then
    let lead := (← valueOf? "PS4").getD ""
    match outlet? with
    | some outlet =>
        let _ ← emitTo outlet (lead ++ " ".intercalate texts ++ "\n").toList
    | none => pure ()

/-- Runs a command by its fields, with settings that are made for it. Those are made for good
if the command is special to the shell, else for it alone.
-/
def runFields (runner : Runner) (manner : Manner) (settings : List (String × Word))
    (outlet? : Option Nat) (usesFunctions : Bool) (shown : List String) (fields : List String)
    : Run Unit := do
  let name := fields.headD ""
  let words := fields.tail
  let lend (action : Run Unit) : Run Unit :=
    if settings.isEmpty then do
      trace outlet? shown
      action
    else
      withKept do
        trace outlet? ((← lendSettings runner settings) ++ shown)
        action
  match ← findCommand name usesFunctions with
  | .ok .builtin =>
      if Builtin.special.contains name ∧ usesFunctions then
        trace outlet? ((← makeSettings runner settings (name = "exec")) ++ shown)
        runBuiltin runner manner true name words
      else lend (runBuiltin runner manner false name words)
  | .ok (.function body) => lend (callFunction runner manner body words)
  | .ok _ => lend (runExternal runner manner fields)
  | .error fault => lend (reportMissing name fault)

/-- Runs a simple command. -/
def runSimple (runner : Runner) (manner : Manner) (line : Nat)
    (settings : List (String × Word)) (words : List Word) (redirects : List Redirect)
    : Run Unit := do
  setProcess fun process => { process with line, outputStatus := 0 }
  let fields ← commandFields runner [] words
  let outlet? := (← process).channels.lookup 2
  let name := fields.headD ""
  let isSpecial : Bool := Builtin.special.contains name
  let replaces : Bool := name = "exec"
  let body (isMade : Bool) : Run Unit := do
    if !isMade then
      if isSpecial then throw .failed
    else if fields.isEmpty then
      trace outlet? (← makeSettings runner settings false)
      setStatus (← process).outputStatus
    else if name = "command" ∧ (← process).functions.lookup "command" = none then
      let before ← process
      setProcess fun process => { process with commandName := some name }
      let found? ← tryCatch (do return some (← readCommand 100 fields.tail))
        (fun halt => if halt = .failed then return none else throw halt)
      setProcess fun process => { process with commandName := before.commandName }
      match found? with
      | none => setStatus 2
      | some (some isBrief, names) => do
          trace outlet? fields
          explainNames isBrief (names.take 1)
      | some (none, []) => setStatus 0
      | some (none, rest) => runFields runner manner settings outlet? false fields rest
    else runFields runner manner settings outlet? true fields fields
  withRedirects runner redirects body (return replaces)

/-! ### Commands made of others -/

/-- Ends the process where the option asks for that after a failure. -/
def checkFailure (manner : Manner) : Run Unit := do
  let process ← process
  if process.status ≠ 0 ∧ !manner.isTested ∧ process.options.contains 'e' then
    throw (.exited process.status)

/-- Runs a command in a process of its own and takes over its status. -/
def runSubshell (runner : Runner) (manner : Manner) (action : Run Unit) : Run Unit := do
  let ending ← inChild runner action
  match ending, manner.isLast && (← process).traps.isEmpty with
  | .signal signal, true => throw (.killed signal)
  | ending, _ => takeEnding runner ending
  checkFailure manner

/-- How a round of a loop ended. -/
inductive Round where
  | done
  | again
  | left

/-- Runs a part of a loop, and catches what leaves it. -/
def runRound (action : Run Unit) : Run Round := do
  match ← attempt action with
  | none => return .done
  | some (.leave 1 true) => return .again
  | some (.leave 1 false) => return .left
  | some (.leave count goesOn) => do
      setProcess fun process => { process with loops := process.loops - 1 }
      throw (.leave (count - 1) goesOn)
  | some halt => throw halt

/-- Runs an action within a loop. -/
def inLoop (action : Run Unit) : Run Unit := do
  setProcess fun process => { process with loops := process.loops + 1 }
  action
  setProcess fun process => { process with loops := process.loops - 1 }

/-- Repeats a command as long as a test ends as wanted. The status is that of the last
round.
-/
def repeatRounds (test body : Run Round) (wanted : Bool) : Nat → Nat → Run Unit
  | 0, _ => throw .late
  | rounds + 1, status => do
      match ← test with
      | .left => setStatus status
      | .again => repeatRounds test body wanted rounds status
      | .done =>
          if ((← process).status = 0) ≠ wanted then setStatus status
          else
            match ← body with
            | .left => setStatus 0
            | _ => do repeatRounds test body wanted rounds (← process).status

/-- The most rounds of a loop. -/
def maxRounds : Nat := 10000000

/-- Runs a command for each of some values of a variable. -/
def runForEach (runner : Runner) (manner : Manner) (name : String) (body : Command)
    : List String → Run Unit
  | [] => pure ()
  | value :: values => do
      step
      assign name value false
      match ← runRound (runner.command manner body) with
      | .left => setStatus 0
      | _ => runForEach runner manner name body values

/-- Runs the first case whose patterns match a text. -/
def runCases (runner : Runner) (manner : Manner) (text : List Char)
    : List (List Word × Option Command) → Run Unit
  | [] => setStatus 0
  | (patterns, body) :: cases => do
      let isFit ← patterns.anyM fun pattern => do
        return Wildcard.accepts (← wordPattern runner pattern) text
      if !isFit then runCases runner manner text cases
      else
        match body with
        | some body => runner.command manner body
        | none => setStatus 0

def runCommand (runner : Runner) (manner : Manner) (command : Command) : Run Unit := do
  step
  takeSignals runner
  if ← hasOption 'n' then return
  let tested : Manner := { isTested := true, isLast := false }
  let inside : Manner := { manner with isLast := false }
  match command with
  | .simple line settings words redirects => do
      runSimple runner manner line settings words redirects
      takeSignals runner
      checkFailure manner
  | .pipeline stages => do
      runPipe runner manner stages
      checkFailure manner
  | .negated body => do
      runner.command tested body
      setStatus (if (← process).status = 0 then 1 else 0)
  | .both first second => do
      runner.command tested first
      if (← process).status = 0 then runner.command manner second
  | .either first second => do
      runner.command tested first
      if (← process).status ≠ 0 then runner.command manner second
  | .sequence first second => do
      runner.command inside first
      runner.command manner second
  | .background body => startJob body
  | .redirected line (.subshell body) redirects => do
      setProcess fun process => { process with line }
      runSubshell runner manner do
        if ← redirectAll runner redirects then
          runner.command { manner with isLast := true } body
        else throw (.exited 2)
  | .redirected line body redirects => do
      setProcess fun process => { process with line }
      withRedirects runner redirects
        (fun isMade => if isMade then runner.command inside body else pure ())
        (return false)
  | .subshell body =>
      runSubshell runner manner (runner.command { manner with isLast := true } body)
  | .choose test accepted refused => do
      runner.command tested test
      if (← process).status = 0 then runner.command manner accepted
      else
        match refused with
        | some refused => runner.command manner refused
        | none => setStatus 0
  | .loop wanted test body =>
      inLoop do
        repeatRounds (runRound (runner.command tested test))
          (runRound (runner.command inside body)) wanted maxRounds 0
  | .forEach line name items body => do
      setProcess fun process => { process with line }
      let values ← wordsFields runner items
      setStatus 0
      inLoop (runForEach runner inside name body values)
  | .select line word cases => do
      setProcess fun process => { process with line }
      let text ← wordText runner word
      runCases runner manner text.toList cases
  | .define name body => do
      setProcess fun process =>
        { process with functions := Pairs.assign name body process.functions }
      setStatus 0

/-! ### The whole -/

/-- Runs what is given to it, with commands within commands down to some depth. -/
def runner : Nat → Runner
  | 0 =>
      {
        command := fun _ _ => throw .late
        script := fun _ _ => throw .late
        words := fun _ _ => throw .late
        expand := fun _ _ => throw .late
      }
  | depth + 1 =>
      {
        command := runCommand (runner depth)
        script := runText (runner depth)
        words := runExternal (runner depth)
        expand := fun toFields word =>
          wordBits (runner depth) (if toFields then .fields else .text) word
      }

/-- How deep commands may stand within commands. -/
def maxDepth : Nat := 1000000

end MailMerge.Shell.Run
