import MailMerge.Shell.Awk.Evaluation
import MailMerge.Shell.Awk.Reading

/-! Running a program of rules as a command: the words it is called with, its rules for the
lines of the input, and its end.
-/

namespace MailMerge.Shell.Awk

/-- What the words of a call ask for. -/
structure Call where
  separator : Option String
  settings : List String
  files : List String
  operands : List String

/-- What the words of a call come to. -/
inductive Request where
  | run (call : Call)
  | version
  | usage
  | wrong (problem : String)
  /-- Nothing is to be done. -/
  | idle (notice : String)

/-- Reads the words of a call. -/
def readWords : Nat → Call → List String → Request
  | 0, call, words => .run { call with operands := words }
  | _ + 1, call, [] => .run call
  | fuel + 1, call, word :: words =>
      let valued (letter : Char) (rest : List Char) (take : String → Call) : Request :=
        match rest, words with
        | [], [] => .wrong s!"option -{String.singleton letter} lacks argument"
        | [], value :: words => readWords fuel (take value) words
        | rest, words => readWords fuel (take (String.ofList rest)) words
      match word.toList with
      | ['-', '-'] => .run { call with operands := words }
      | ['-'] => .run { call with operands := word :: words }
      | '-' :: '-' :: rest =>
          if rest = "version".toList then .version
          else if rest = "help".toList ∨ rest = "usage".toList then .usage
          else .wrong s!"not an option: {word}"
      | '-' :: 'F' :: rest => valued 'F' rest fun value => { call with separator := some value }
      | '-' :: 'v' :: rest =>
          valued 'v' rest fun value => { call with settings := call.settings ++ [value] }
      | '-' :: 'f' :: rest =>
          valued 'f' rest fun value => { call with files := call.files ++ [value] }
      | '-' :: 'W' :: rest =>
          let value := if rest = [] then (words.headD "").toList else rest
          if value.head? = some 'v' then .version
          else if value.head? = some 'h' ∨ value.head? = some 'u' then .usage
          else .idle s!"vacuous option: -W \"{String.ofList value}\""
      | '-' :: _ => .wrong s!"not an option: {word}"
      | _ => .run { call with operands := word :: words }

def versionText : String :=
  "mawk 1.3.4 20240123\n"

def usageText : String :=
  "\n".intercalate
    [
      "Usage: mawk [Options] [Program] [file ...]", "", "Program:",
      "    The -f option value is the name of a file containing program text.",
      "    If no -f option is given, a \"--\" ends option processing; the following",
      "    parameters are the program text.", "", "Options:",
      "    -f program-file  Program  text is read from file instead of from the",
      "                     command-line.  Multiple -f options are accepted.",
      "    -F value         sets the field separator, FS, to value.",
      "    -v var=value     assigns value to program variable var.",
      "    --               unambiguous end of options.", "",
      "    Implementation-specific options are prefixed with \"-W\".  They can be",
      "    abbreviated:", "",
      "    -W version       show version information and exit.",
      "    -W compat        pre-POSIX 2001.",
      "    -W dump          show assembler-like listing of program and exit.",
      "    -W help          show this message and exit.",
      "    -W interactive   set unbuffered output, line-buffered input.",
      "    -W exec file     use file as program as well as last option.",
      "    -W posix         stricter POSIX checking.",
      "    -W random=number set initial random seed.",
      "    -W sprintf=number adjust size of sprintf buffer.",
      "    -W usage         show this message and exit.", ""
    ]

/-! ### Rules -/

namespace Step

/-- How deep the parts of a program may stand in each other. -/
def maxDepth : Nat := 1000000

/-- Runs an action unless it is left; tells what it was left for. -/
def attempt (action : Step Unit) : Step (Option Escape) :=
  tryCatch (do action; return none) fun escape => return some escape

def runEdge (condition : Condition → Bool) : Step Unit := do
  for rule in (← read).program.rules do
    if condition rule.condition then execAll maxDepth rule.action

/-- Whether a rule applies to the line. A range of lines goes on until its end is found. -/
def applies (condition : Condition) : Step Bool := do
  match condition with
  | .first | .last => return false
  | .always => return true
  | .holds test => return (← eval maxDepth test).isTrue
  | .between number opening closing => do
      let isActive : Bool := (← get).active.contains number
      let starts ← if isActive then pure true else pure (← eval maxDepth opening).isTrue
      if !starts then return false
      let others := (← get).active.filter (· ≠ number)
      let ends := (← eval maxDepth closing).isTrue
      modify fun memory => { memory with active := if ends then others else number :: others }
      return true

/-- Runs the rules for a line. Tells whether the input goes on. -/
def runLine (text : List Char) : Step Bool := do
  lift Run.step
  setLine text
  let escape? ← attempt do
    for rule in (← read).program.rules do
      if ← applies rule.condition then execAll maxDepth rule.action
  match escape? with
  | none | some .next => return true
  | some .nextFile => do
      modify fun memory => { memory with source? := none }
      return true
  | some escape => throw escape

/-- Runs the rules for all lines. -/
def runLines : Step Unit :=
  repeatWhile
    (do
      match ← nextLine maxInputs with
      | some text => runLine text
      | none => return false)
    maxRounds

def isFirst : Condition → Bool
  | .first => true
  | _ => false

def isLast : Condition → Bool
  | .last => true
  | _ => false

/-- Runs a program from its beginning to its end. -/
def runProgram : Step Unit := do
  let rules := (← read).program.rules
  let ending? ← attempt do
    runEdge isFirst
    if rules.any (!isFirst ·.condition) then runLines
  match ending? with
  | none | some .exit => do
      let _ ← attempt (runEdge isLast)
  | _ => pure ()
  closeAll

end Step

/-! ### Calls -/

/-- What a program starts with. -/
def firstMemory (name : String) (operands : List String) (environment : List (String × String))
    : Memory :=
  let texts : List (String × String) :=
    [
      ("FS", " "), ("OFS", " "), ("ORS", "\n"), ("RS", "\n"), ("SUBSEP", "\x1c"),
      ("CONVFMT", "%.6g"), ("OFMT", "%.6g"), ("FILENAME", "")
    ]
  let numbers : List (String × Int) :=
    [("NR", 0), ("FNR", 0), ("RSTART", 0), ("RLENGTH", -1), ("ARGC", operands.length + 1)]
  let words := (name :: operands).zipIdx.foldl
    (fun (table : Table) (word, place) =>
      table.putNumber place (if place = 0 then .text word.toList else .ofInput word.toList))
    Table.empty
  let settings := environment.foldl
    (fun (table : Table) (name, value) => table.put name.toList (.ofInput value.toList))
    Table.empty
  let cells :=
    texts.map (fun entry => (entry.1, Cell.value (.text entry.2.toList)))
      ++ numbers.map (fun entry => (entry.1, Cell.value (.number (Float.ofInt entry.2))))
      ++ [("ARGV", Cell.table 0), ("ENVIRON", Cell.table 1)]
  {
    globals := Std.HashMap.ofList cells
    locals := []
    calls := 0
    tables := #[words, settings]
    line? := some []
    fields? := none
    active := []
    source? := none
    position := 1
    hasInput := false
    feeders := []
    writers := [{ path := "/dev/stdout".toList, sink := .standard }]
    pending := []
    pendingSize := 0
    patterns := {}
    status := 0
    seed := 0
    draw := 0
  }

/-- Runs a program on the operands of a call. -/
def runOn (runner : Runner) (name : String) (program : Program) (call : Call)
    (operands : List String) : Run Unit := do
  let setting : Setting := { runner, name, program }
  let memory := firstMemory name operands (← Run.environment)
  let steps : Step Unit := do
    let settled ← Step.attempt do
      match call.separator with
      | some text => Step.setValue "FS" (.text (resolveEscapes (text.length + 1) text.toList))
      | none => pure ()
      for word in call.settings do
        match Step.settingOf? word.toList with
        | some (name, text) => Step.settle name text
        | none => Step.fail s!"improper assignment: -v {word}"
      modify fun memory => { memory with fields? := none }
    if settled.isNone then Step.runProgram
  let (_, after) ← ((steps.run setting).run).run memory
  Run.setStatus after.status

/-- The line in which the text of a file goes wrong, and what is wrong. -/
def report (name : String) (file? : Option String) (fault : Fault) : Run Unit := do
  let file := (file?.map (· ++ ": ")).getD ""
  let line := if fault.isBare then s!"{fault.line}" else s!"line {fault.line}"
  Run.complain name s!"{file}{line}: {fault.message}"
  Run.setStatus 2

/-- Runs the command under the name that it was called by. -/
def run (runner : Runner) (name : String) (words : List String) : Run Unit := do
  let bare : Call := { separator := none, settings := [], files := [], operands := [] }
  match readWords (words.length + 1) bare words with
  | .version => do
      Run.say versionText
      Run.setStatus 0
  | .usage => do
      Run.say usageText
      Run.setStatus 0
  | .wrong problem => do
      Run.complain name problem
      Run.setStatus 2
  | .idle notice => do
      Run.complain name notice
      Run.setStatus 0
  | .run call => do
      match call.files, call.operands with
      | [], [] => do
          if words.isEmpty then
            let _ ← Run.emit 2 usageText.toList
          Run.setStatus 0
      | [], text :: operands =>
          match readProgram text.toList with
          | .error fault => report name none fault
          | .ok program => runOn runner name program call operands
      | files, operands => do
          let texts ← files.mapM fun path => do
            if path = "/dev/null" then return .ok []
            else return (← Run.world).files.read (← Run.locate path)
          match (files.zip texts).find? fun (_, found) => !(found matches .ok _) with
          | some (path, .error e) => do
              Run.complain name s!"cannot open \"{path}\" ({e.reason})"
              Run.setStatus 2
          | _ => do
              let text := texts.flatMap fun found =>
                match found with
                | .ok bytes => toOctets bytes
                | .error _ => []
              match readProgram text with
              | .error fault => report name files.getLast? fault
              | .ok program => runOn runner name program call operands

end MailMerge.Shell.Awk
