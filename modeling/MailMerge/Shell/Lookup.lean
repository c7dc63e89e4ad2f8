import MailMerge.Shell.Builtin
import MailMerge.Shell.Utility.Blocks
import MailMerge.Shell.Utility.Choice
import MailMerge.Shell.Utility.Columns
import MailMerge.Shell.Utility.Comparison
import MailMerge.Shell.Utility.Dates
import MailMerge.Shell.Utility.Digest
import MailMerge.Shell.Utility.Dump
import MailMerge.Shell.Utility.Edit
import MailMerge.Shell.Utility.Encoding
import MailMerge.Shell.Utility.Exchange
import MailMerge.Shell.Utility.Factor
import MailMerge.Shell.Utility.Figures
import MailMerge.Shell.Utility.Lines
import MailMerge.Shell.Utility.Order
import MailMerge.Shell.Utility.Paragraph
import MailMerge.Shell.Utility.Plain
import MailMerge.Shell.Utility.Quantity
import MailMerge.Shell.Utility.Relation
import MailMerge.Shell.Utility.Search
import MailMerge.Shell.Utility.Sections
import MailMerge.Shell.Utility.Tabs
import MailMerge.Shell.Utility.Transfer

/-! Where the commands of a script are found: among its functions, in the shell itself, or
on the path of programs.
-/

namespace MailMerge.Shell

/-- Utilities by their names. -/
def utilities : List (String × (List String → Work Nat)) :=
  [
    ("cat", Utility.showContent), ("head", Utility.showFirst), ("tail", Utility.showLast),
    ("tac", Utility.showReversed), ("rev", Utility.reverseLines),
    ("nl", Utility.numberContent), ("fold", Utility.foldContent),
    ("paste", Utility.pasteContent), ("tee", Utility.spread), ("sort", Utility.sortLines),
    ("uniq", Utility.showRuns), ("comm", Utility.showShared), ("cut", Utility.cutLines),
    ("tr", Utility.exchange), ("grep", Utility.search),
    ("egrep", fun words => Utility.search ("-E" :: words)),
    ("fgrep", fun words => Utility.search ("-F" :: words)), ("wc", Utility.countContent),
    ("seq", Utility.showSeries), ("expr", Utility.showValue), ("sed", Utility.edit),
    ("mkdir", Utility.makeDirectories), ("rmdir", Utility.removeDirectories),
    ("rm", Utility.remove), ("touch", Utility.touch), ("cp", Utility.copy),
    ("mv", Utility.move), ("ls", Utility.listEntries), ("basename", Utility.showBaseNames),
    ("dirname", Utility.showDirectoryNames), ("ln", Utility.link),
    ("cmp", Utility.compareFiles), ("diff", Utility.showChanges), ("chmod", Utility.setModes),
    ("truncate", Utility.setSizes), ("mktemp", Utility.makeFresh), ("stat", Utility.showDetails),
    ("readlink", Utility.readLinks), ("realpath", Utility.showRealPaths),
    ("link", Utility.linkPlainly), ("unlink", Utility.unlink), ("od", Utility.dumpBytes),
    ("base64", Utility.encodeWith "base64" (some .base64)),
    ("base32", Utility.encodeWith "base32" (some .base32)),
    ("basenc", Utility.encodeWith "basenc" none),
    ("md5sum", Utility.digestNamed "md5sum"), ("sha1sum", Utility.digestNamed "sha1sum"),
    ("sha224sum", Utility.digestNamed "sha224sum"),
    ("sha256sum", Utility.digestNamed "sha256sum"),
    ("sha384sum", Utility.digestNamed "sha384sum"),
    ("sha512sum", Utility.digestNamed "sha512sum"), ("cksum", Utility.showChecksums),
    ("sum", Utility.showSums), ("date", Utility.showDate), ("join", Utility.joinLinesOf),
    ("tsort", Utility.orderNames), ("factor", Utility.showFactors),
    ("numfmt", Utility.showQuantities), ("expand", Utility.expandTabs),
    ("unexpand", Utility.shrinkBlanks), ("fmt", Utility.fillParagraphs),
    ("split", Utility.splitText), ("csplit", Utility.splitSections),
    ("dd", Utility.copyBlocks), ("shuf", Utility.chooseLines),
    ("echo", Utility.showWords),
    ("printf", Utility.showFormat), ("yes", Utility.repeatWords),
    ("test", Utility.showCondition "test"), ("[", Utility.showCondition "["),
    ("true", Utility.succeed), ("false", Utility.refuse), ("pwd", Utility.showPlace),
    ("printenv", Utility.showEnvironment), ("uname", Utility.showSystem),
    ("whoami", Utility.showUser), ("id", Utility.showIdentity),
    ("arch", Utility.showMachine), ("tty", Utility.showTerminal),
    ("sync", Utility.succeed)
  ]

/-- Programs that run other commands, or take time. -/
def hosts : List String :=
  [
    "sh", "dash", "bash", "env", "xargs", "timeout", "nohup", "nice", "sleep", "setsid",
    "stdbuf", "which", "kill", "awk", "mawk", "nawk", "find"
  ]

def isUtility (name : String) : Bool :=
  hosts.contains name || utilities.any (·.1 = name)

/-- The directories of the utilities. -/
def systemDirectories : List String :=
  ["/usr/bin", "/bin"]

/-- A program that is not part of the shell. -/
inductive Program where
  | utility (name path : String)
  | script (path : String)
  deriving DecidableEq, Repr

/-- Why there is no program of a name. -/
inductive ProgramFault where
  | missing
  | forbidden
  deriving DecidableEq, Repr

def ProgramFault.status : ProgramFault → Nat
  | missing => 127
  | forbidden => 126

/-- The reason as the shell tells it, and as programs tell it. -/
def ProgramFault.reason : ProgramFault → String
  | missing => "not found"
  | forbidden => "Permission denied"

def ProgramFault.systemReason : ProgramFault → String
  | missing => "No such file or directory"
  | forbidden => "Permission denied"

namespace Run

/-- Splits a path before its last name. -/
def splitPath (path : String) : String × String :=
  let name := path.toList.reverse.takeWhile (· ≠ '/') |>.reverse
  ((path.dropEnd (name.length + 1)).toString, String.ofList name)

/-- The program at a path. -/
def programAt (path : String) : Run (Except ProgramFault Program) := do
  let (directory, name) := splitPath path
  if systemDirectories.contains directory ∧ isUtility name then
    return .ok (.utility name path)
  match ← entryAt? path with
  | some (.file _) => do
      if (← Builtin.view).hasMode 0o111 path then return .ok (.script path)
      else return .error .forbidden
  | some _ => return .error .forbidden
  | none =>
      if path = "/" ∨ systemDirectories.contains path then return .error .forbidden
      else return .error .missing

/-- The program that a name stands for. -/
def findProgram (name : String) : Run (Except ProgramFault Program) := do
  if name.toList.contains '/' then programAt name
  else if name = "" then return .error .missing
  else
    let directories := ((← valueOf? "PATH").getD "").splitOn ":"
    for directory in directories do
      let path := if directory = "" then name else Files.joinPath directory name
      match ← programAt (if directory = "" then "./" ++ name else path) with
      | .ok program => return .ok program
      | .error _ => pure ()
    return .error .missing

/-- Where a command is found. -/
inductive Found where
  | keyword
  | alias (value : String)
  | function (body : Command)
  | builtin
  | program (program : Program)

/-- Finds what runs under a name, if anything does. -/
def findCommand (name : String) (usesFunctions : Bool) : Run (Except ProgramFault Found) := do
  let process ← process
  if Builtin.special.contains name then return .ok .builtin
  match if usesFunctions then process.functions.lookup name else none with
  | some body => return .ok (.function body)
  | none =>
      if Builtin.names.contains name then return .ok .builtin
      else return (← findProgram name).map .program

/-- Finds what a name means in a script. -/
def explain (name : String) : Run (Except ProgramFault Found) := do
  if keywords.contains name then return .ok .keyword
  match (← process).aliases.lookup name with
  | some value => return .ok (.alias value)
  | none => findCommand name true

def Program.path : Program → String
  | .utility _ path => path
  | .script path => path

/-- Tells what some names mean; briefly, in the form in which they would be run. -/
def explainNames (isBrief : Bool) (names : List String) : Run Unit := do
  setStatus 0
  for name in names do
    match ← explain name with
    | .ok .keyword => say (if isBrief then name ++ "\n" else s!"{name} is a shell keyword\n")
    | .ok (.alias value) =>
        say <|
          if isBrief then s!"alias {name}={Builtin.quotedValue value}\n"
          else s!"{name} is an alias for {value}\n"
    | .ok (.function _) =>
        say (if isBrief then name ++ "\n" else s!"{name} is a shell function\n")
    | .ok .builtin =>
        let kind := if Builtin.special.contains name then "special shell builtin" else "shell builtin"
        say (if isBrief then name ++ "\n" else s!"{name} is a {kind}\n")
    | .ok (.program program) =>
        let path := Program.path program
        say (if isBrief then path ++ "\n" else s!"{name} is {path}\n")
    | .error _ => do
        if !isBrief then say s!"{name}: not found\n"
        setStatus 127

end Run

end MailMerge.Shell
