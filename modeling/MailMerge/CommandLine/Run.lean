import MailMerge.CommandLine.Ending

/-! Runs of the programs on a tree of files: arguments are read, laid over an options file
if one is named, and the job that they describe is done.
-/

namespace MailMerge.CommandLine

/-- What a program takes from outside: the platform of its runs, and the readers of arguments and of
options files.
-/
structure Environment where
  platform : Platform
  parser : ArgumentParser
  yaml : Yaml.Library

/-- A finished run: its ending, the events that the options ask to see, and the files. -/
structure Run where
  ending : Ending
  log : List Event
  files : Files.Tree

/-- A run that ends before it does anything. -/
def Run.ofEnding (ending : Ending) (files : Files.Tree) : Run where
  ending
  log := []
  files

/-- The text of a file. -/
def readText (files : Files.View) (path : String) : Except OptionsFileError String :=
  match files.read path with
  | .error cause => .error (.unreadable cause.message)
  | .ok bytes =>
      (Text.ofBytes? bytes).elim
        (.error (.unreadable "stream did not contain valid UTF-8")) .ok

/-- Whether options ask to see an event. -/
def shows (options : Options) (event : Event) : Bool :=
  match event.level with
  | .warn => true
  | .info => options.verbose || options.debug
  | .debug => options.debug

namespace Environment

variable (environment : Environment)

/-- The options of a command line over those of the options file that it names. -/
def loadOptions (config : Option String) (given : Options) (files : Files.Tree)
    : Except Failure Options :=
  match config with
  | none => .ok given
  | some path =>
      match
        readText (environment.platform.view files) path >>= Options.ofText environment.yaml
      with
      | .ok options => .ok (given.overlay options)
      | .error cause => .error (.config path cause)

/-- Mails a job from a database, by the mailer that is set. -/
def mailRun (options : Options) (database : String) (job : MailJob) (files : Files.Tree)
    : Run :=
  let desk := Desk.start environment.platform (.directory database) files
  let setting := options.mailerSetting
  let (result, desk, printed, files) :=
    if Mail.isPrintSetting setting then
      let (result, desk, outlet) := desk.mail job (Mail.printing options.sender) .empty
      (result, desk, outlet.text, files)
    else
      let mailer :=
        Mail.commanding environment.platform.host setting options.mailLimit options.sender
      let (result, desk, files) := desk.mail job mailer files
      (result, desk, "", files)
  let ending :=
    match result with
    | .ok summary => Ending.mailed printed summary
    | .error cause => .failed (.mail job.selection.table cause)
  { ending, log := desk.log.filter (shows options), files }

/-- Shows a page of a database. -/
def viewRun (options : Options) (database : String) (isSearch : Bool) (files : Files.Tree)
    : Run :=
  let desk := Desk.start environment.platform (.directory database) files
  let (result, desk) := desk.view options (Route.choose options.table isSearch)
  let ending :=
    match result with
    | .ok page => Ending.viewed page
    | .error cause => .failed (.view cause)
  { ending, log := desk.log.filter (shows options), files }

/-- Runs the mail program. -/
def mail (arguments : List String) (files : Files.Tree) : Run :=
  match MailCli.parse environment.parser arguments with
  | .error cause => .ofEnding (.refused cause) files
  | .ok cli =>
      if cli.manual then .ofEnding .manual files
      else
        match environment.loadOptions cli.config cli.options files with
        | .error cause => .ofEnding (.failed cause) files
        | .ok options =>
            match options.mailJob with
            | .error cause => .ofEnding (.failed (.usage cause)) files
            | .ok (database, job) => environment.mailRun options database job files

/-- Runs the viewer. -/
def view (arguments : List String) (files : Files.Tree) : Run :=
  match ViewCli.parse environment.parser arguments with
  | .error cause => .ofEnding (.refused cause) files
  | .ok cli =>
      match environment.loadOptions cli.config cli.options files with
      | .error cause => .ofEnding (.failed cause) files
      | .ok options =>
          match options.requireDatabase with
          | .error cause => .ofEnding (.failed (.usage cause)) files
          | .ok database => environment.viewRun options database cli.search files

def run (program : Program) : List String → Files.Tree → Run :=
  match program with
  | .mail => environment.mail
  | .view => environment.view

end Environment

end MailMerge.CommandLine
