import MailMerge.CommandLine.Manual
import MailMerge.Options.Document
import MailMerge.Viewer.Page

/-! How a run of a program ends, and what it prints and answers to its caller then. -/

namespace MailMerge.CommandLine

/-- What ends a run that cannot be completed. -/
inductive Failure where
  | config (path : String) (cause : OptionsFileError)
  | usage (cause : UsageError)
  | mail (table : String) (cause : RunError)
  | view (cause : ViewError)

inductive Ending where
  | refused (cause : ArgumentError)
  | manual
  | failed (cause : Failure)
  | mailed (printed : String) (summary : MailSummary)
  | viewed (page : String)

def advice : String := "For more information, try '--help'."

/-- A problem with the usage of a program, with its usage line. -/
def usageText (program : Program) (problem : String) : String :=
  "error: " ++ problem ++ "\n\n" ++ program.usage ++ "\n\n" ++ advice ++ "\n"

/-- A message with the causes behind it. -/
def chainText (messages : List String) : String :=
  "error: " ++ ": ".intercalate messages ++ "\n"

def argumentProblem : ArgumentError → String
  | .help | .version => ""
  | .unknown => "unexpected argument found"
  | .missingValue => "a value is required"
  | .badValue => "invalid value"
  | .needlessValue => "unexpected value"
  | .repeated => "an argument cannot be used multiple times"

def Failure.text (program : Program) : Failure → String
  | config path cause => chainText (cause.message path :: cause.causes)
  | usage cause => usageText program cause.message
  | mail table cause =>
      chainText (s!"mail run on table '{table}' failed" :: cause.message :: cause.causes)
  | view (.usage cause) => chainText [cause.message]
  | view cause => chainText (cause.message :: cause.causes)

namespace Ending

/-- The exit status: zero for an answer, one for a run that could not be completed, two
for a run that could not deliver every letter.
-/
def exitCode : Ending → Nat
  | refused .help | refused .version => 0
  | refused _ => 1
  | manual => 0
  | failed _ => 1
  | mailed _ summary => summary.exitCode
  | viewed _ => 0

/-- What goes to the standard output. -/
def output (program : Program) : Ending → String
  | refused .help => program.help
  | refused .version => program.version
  | refused _ => ""
  | manual => program.help ++ "\n" ++ CommandLine.manual
  | failed _ => ""
  | mailed printed _ => printed
  | viewed page => page

/-- What goes to the error output. -/
def errors (program : Program) : Ending → String
  | refused .help | refused .version => ""
  | refused cause => usageText program (argumentProblem cause)
  | manual => ""
  | failed cause => cause.text program
  | mailed _ summary => summary.text ++ "\n"
  | viewed _ => ""

end Ending

end MailMerge.CommandLine
