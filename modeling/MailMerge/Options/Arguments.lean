import MailMerge.Options.Basic

/-! Command-line arguments. A program declares its options; a parser matches arguments with
them; what it has matched is taken over into the arguments of the program, and from there
into options.
-/

namespace MailMerge

open Select

/-- An option that takes a value. -/
inductive Setting where
  | database
  | table
  | address
  | addressColumn
  | pattern
  | negation
  | sortBy
  | reversal
  | shown
  | limit
  | page
  | rowTemplate
  | subject
  | mailer
  | sender
  | fieldSeparator
  | rowSeparator
  | mailSeconds
  | config
  deriving DecidableEq, Repr

/-- An option without a value. -/
inductive Switch where
  | dryRun
  | verbose
  | debug
  | manual
  | search
  deriving DecidableEq, Repr

/-- Why arguments are not taken; asking for help or the version ends the reading too. -/
inductive ArgumentError where
  | help
  | version
  | unknown
  | missingValue
  | badValue
  | needlessValue
  | repeated
  deriving DecidableEq, Repr

/-! ### Values -/

/-- Reads `COLUMN=VALUE`; a column alone stands for the value `1`. -/
def readPair (text : String) : Except String (String × String) :=
  let cs := text.toList
  let name := cs.takeWhile (· ≠ '=')
  let value :=
    match cs.drop name.length with
    | [] => "1"
    | _ :: value => String.ofList value
  let column := Text.trim (String.ofList name)
  if column = "" then .error s!"expected COLUMN=VALUE, got '{text}'" else .ok (column, value)

/-- Reads a count: digits with an optional plus sign, at most the largest count. -/
def readCount? (text : String) : Option UInt64 :=
  let digits :=
    match text.toList with
    | '+' :: cs => cs
    | cs => cs
  if digits = [] ∨ digits.any (!·.isDigit) then none
  else
    let value := Decimal.ofDigits digits
    if value ≤ maxCount then some value.toUInt64 else none

/-- How the values of an option are read. -/
inductive ValueKind where
  | text
  /-- A text that is not empty. -/
  | path
  | count
  | pair
  deriving DecidableEq, Repr

abbrev ValueKind.Value : ValueKind → Type
  | text => String
  | path => String
  | count => UInt64
  | pair => String × String

instance (kind : ValueKind) : DecidableEq kind.Value :=
  match kind with
  | .text | .path => inferInstanceAs (DecidableEq String)
  | .count => inferInstanceAs (DecidableEq UInt64)
  | .pair => inferInstanceAs (DecidableEq (String × String))

def ValueKind.read : (kind : ValueKind) → String → Except ArgumentError kind.Value
  | text, raw => .ok raw
  | path, raw => if raw = "" then .error .missingValue else .ok raw
  | count, raw => (readCount? raw).elim (.error .badValue) .ok
  | pair, raw => (readPair raw).mapError fun _ => .badValue

namespace Setting

abbrev kind : Setting → ValueKind
  | database | config => .path
  | limit | page | mailSeconds => .count
  | pattern | negation | reversal => .pair
  | _ => .text

/-- Whether a setting holds a list, and so may be given more than once. -/
def repeats : Setting → Bool
  | address | pattern | negation | sortBy | reversal | shown => true
  | _ => false

abbrev Value (setting : Setting) : Type :=
  setting.kind.Value

end Setting

/-! ### Declarations -/

/-- The names of an option that takes values; the first is its own. -/
structure SettingDeclaration where
  setting : Setting
  names : List String

/-- The names of an option without a value, and its letter if it has one. -/
structure SwitchDeclaration where
  switch : Switch
  names : List String
  letter : Option Char

/-- The options of a program. -/
structure Command where
  settings : List SettingDeclaration
  switches : List SwitchDeclaration

namespace Command

/-- The options that select rows and show them. -/
def select : List SettingDeclaration :=
  [
    ⟨.pattern, ["where"]⟩,
    ⟨.negation, ["not_where", "not-where"]⟩,
    ⟨.sortBy, ["sort_by", "sort-by"]⟩,
    ⟨.reversal, ["sort_reversed", "sort-reversed"]⟩,
    ⟨.shown, ["show"]⟩,
    ⟨.limit, ["limit"]⟩,
    ⟨.page, ["page"]⟩,
    ⟨.rowTemplate, ["row_template", "row-template"]⟩,
    ⟨.fieldSeparator, ["field_separator", "field-separator"]⟩,
    ⟨.rowSeparator, ["row_separator", "row-separator"]⟩
  ]

/-- The switches of the log. -/
def log : List SwitchDeclaration :=
  [⟨.verbose, ["verbose"], some 'v'⟩, ⟨.debug, ["debug"], none⟩]

/-- The options of the mail program. -/
def mail : Command where
  settings :=
    [
      ⟨.database, ["database"]⟩,
      ⟨.table, ["table"]⟩,
      ⟨.address, ["email_address", "email-address"]⟩,
      ⟨.addressColumn, ["email_col", "email-col"]⟩,
      ⟨.subject, ["subject"]⟩,
      ⟨.mailer, ["mailer"]⟩,
      ⟨.mailSeconds, ["mail_timeout", "mail-timeout"]⟩,
      ⟨.sender, ["from"]⟩,
      ⟨.config, ["config"]⟩
    ] ++ select
  switches :=
    [⟨.dryRun, ["dry_run", "dry-run"], none⟩, ⟨.manual, ["manpage"], none⟩] ++ log

/-- The options of the viewer. -/
def view : Command where
  settings :=
    [⟨.database, ["database"]⟩, ⟨.table, ["table"]⟩, ⟨.config, ["config"]⟩] ++ select
  switches := [⟨.search, ["search"], none⟩] ++ log

end Command

/-! ### Matches -/

/-- One option as it is given: a setting with a value, or a switch. -/
inductive Given where
  | set (setting : Setting) (value : setting.Value)
  | on (switch : Switch)
  deriving DecidableEq

namespace Given

/-- The value that is given for a setting. -/
def value? (asked : Setting) : Given → Option asked.Value
  | set setting value => if same : setting = asked then some (same ▸ value) else none
  | on _ => none

def switch? : Given → Option Switch
  | set .. => none
  | on switch => some switch

/-- The values that are given for a setting, from left to right. -/
def values (asked : Setting) (given : List Given) : List asked.Value :=
  given.filterMap (value? asked)

def switches (given : List Given) : List Switch :=
  given.filterMap switch?

end Given

/-- What was matched in arguments: the values of each setting from left to right, and the switches
that were given.
-/
structure Matches where
  values : (setting : Setting) → List setting.Value
  isOn : Switch → Bool

/-- Matches arguments with the options of a program. -/
abbrev ArgumentParser := Command → List String → Except ArgumentError Matches

/-- The arguments that select rows and show them. -/
structure SelectArgs where
  patterns : List (String × String)
  negations : List (String × String)
  sortBy : List String
  reversals : List (String × String)
  shown : List String
  limit : Option UInt64
  page : Option UInt64
  rowTemplate : Option String
  fieldSeparator : Option String
  rowSeparator : Option String
  deriving DecidableEq, Repr

structure LogArgs where
  verbose : Bool
  debug : Bool
  deriving DecidableEq, Repr

/-- The arguments of the mail program. -/
structure MailCli where
  database : Option String
  table : Option String
  addresses : List String
  addressColumn : Option String
  subject : Option String
  mailer : Option String
  dryRun : Bool
  mailSeconds : Option UInt64
  sender : Option String
  config : Option String
  manual : Bool
  select : SelectArgs
  log : LogArgs
  deriving DecidableEq, Repr

/-- The arguments of the viewer. -/
structure ViewCli where
  database : Option String
  table : Option String
  search : Bool
  config : Option String
  select : SelectArgs
  log : LogArgs
  deriving DecidableEq, Repr

def SelectArgs.ofMatches (matched : Matches) : SelectArgs where
  patterns := matched.values .pattern
  negations := matched.values .negation
  sortBy := matched.values .sortBy
  reversals := matched.values .reversal
  shown := matched.values .shown
  limit := (matched.values .limit).head?
  page := (matched.values .page).head?
  rowTemplate := (matched.values .rowTemplate).head?
  fieldSeparator := (matched.values .fieldSeparator).head?
  rowSeparator := (matched.values .rowSeparator).head?

def LogArgs.ofMatches (matched : Matches) : LogArgs where
  verbose := matched.isOn .verbose
  debug := matched.isOn .debug

/-- Takes the selection of the arguments over into options. -/
def SelectArgs.apply (args : SelectArgs) (options : Options) : Options :=
  { options with
    patterns := args.patterns
    negations := args.negations
    sortBy := args.sortBy
    reversals := args.reversals
    shown := args.shown
    limit := args.limit
    page := args.page
    rowTemplate := args.rowTemplate
    fieldSeparator := args.fieldSeparator
    rowSeparator := args.rowSeparator }

namespace MailCli

def ofMatches (matched : Matches) : MailCli where
  database := (matched.values .database).head?
  table := (matched.values .table).head?
  addresses := matched.values .address
  addressColumn := (matched.values .addressColumn).head?
  subject := (matched.values .subject).head?
  mailer := (matched.values .mailer).head?
  dryRun := matched.isOn .dryRun
  mailSeconds := (matched.values .mailSeconds).head?
  sender := (matched.values .sender).head?
  config := (matched.values .config).head?
  manual := matched.isOn .manual
  select := .ofMatches matched
  log := .ofMatches matched

def parse (parser : ArgumentParser) (arguments : List String)
    : Except ArgumentError MailCli :=
  (parser .mail arguments).map ofMatches

/-- The options that are given on the command line, apart from any options file. -/
def options (cli : MailCli) : Options :=
  cli.select.apply
    { Options.empty with
      database := cli.database
      table := cli.table
      addresses := cli.addresses
      addressColumn := cli.addressColumn
      subject := cli.subject
      mailer := cli.mailer
      sender := cli.sender
      mailSeconds := cli.mailSeconds
      dryRun := cli.dryRun
      verbose := cli.log.verbose
      debug := cli.log.debug }

end MailCli

namespace ViewCli

def ofMatches (matched : Matches) : ViewCli where
  database := (matched.values .database).head?
  table := (matched.values .table).head?
  search := matched.isOn .search
  config := (matched.values .config).head?
  select := .ofMatches matched
  log := .ofMatches matched

def parse (parser : ArgumentParser) (arguments : List String)
    : Except ArgumentError ViewCli :=
  (parser .view arguments).map ofMatches

/-- The options that are given on the command line, apart from any options file. -/
def options (cli : ViewCli) : Options :=
  cli.select.apply
    { Options.empty with
      database := cli.database
      table := cli.table
      verbose := cli.log.verbose
      debug := cli.log.debug }

end ViewCli

end MailMerge
