import MailMerge.Options.Arguments

/-! The two programs, one that mails and one that shows tables, and what they say about
themselves.
-/

namespace MailMerge.CommandLine

inductive Program where
  | mail
  | view
  deriving DecidableEq, Repr

namespace Program

def name : Program → String
  | mail => "tablemail"
  | view => "tableview"

def purpose : Program → String
  | mail => "Render rows of a table through a template and mail them"
  | view => "List tables, show a table's search form, or render a search"

def command : Program → Command
  | mail => .mail
  | view => .view

def release : String := "0.3.0"

def version (program : Program) : String :=
  program.name ++ " " ++ release ++ "\n"

def usage (program : Program) : String :=
  "Usage: " ++ program.name ++ " [OPTIONS]"

def help (program : Program) : String :=
  let lines :=
    program.command.settings.map (fun declared =>
        "  --" ++ declared.names.headD "" ++ " <VALUE>\n")
      ++ program.command.switches.map (fun declared =>
        "  --" ++ declared.names.headD "" ++ "\n")
  program.purpose ++ "\n\n" ++ program.usage ++ "\n\nOptions:\n" ++ String.join lines

end Program

/-- The chapters of the manual behind the list of options. -/
def manual : String :=
  "\n".intercalate
    [
      "TEMPLATES",
      "    \x7b$name\x7d                 the row's value for column `name`",
      "    \x7b?name text\x7d            `text` when `name` is non-empty",
      "    \x7b?name text!!other\x7d     `text` when `name` is non-empty, otherwise `other`",
      "    [$name]                 inside a conditional: the value of `name`",
      "",
      "    A conditional's name may be followed by one space, which is not output.",
      "    Any other `\x7b` is printed as is. \"0\" counts as non-empty.",
      "",
      "SELECTION",
      "    --where col=pattern keeps rows whose value matches the LIKE pattern:",
      "    `%` matches any run of characters, `_` exactly one, `\\` escapes.",
      "    Matching is case-sensitive. --not_where col=1 inverts that column's",
      "    test; it has no effect without a --where for the same column.",
      "    --sort_by compares numbers numerically and sorts empty values last.",
      "",
      "EXIT STATUS",
      "    0   every message was sent",
      "    1   usage error, bad config, or the run could not complete",
      "    2   the run completed but some messages failed",
      ""
    ]

end MailMerge.CommandLine
