import MailMerge.Run.Mail

/-! Run options: what a command line and an options file may set, how one set of options
is laid over another, and the jobs that options describe.
-/

namespace MailMerge

open Select

structure Options where
  database : Option String
  table : Option String
  addresses : List String
  addressColumn : Option String
  patterns : List (String × String)
  negations : List (String × String)
  sortBy : List String
  reversals : List (String × String)
  shown : List String
  limit : Option UInt64
  page : Option UInt64
  rowTemplate : Option String
  subject : Option String
  mailer : Option String
  sender : Option String
  fieldSeparator : Option String
  rowSeparator : Option String
  mailSeconds : Option UInt64
  dryRun : Bool
  verbose : Bool
  debug : Bool
  deriving DecidableEq, Repr

/-- A problem with the options themselves. -/
inductive UsageError where
  | missingDatabase
  | missingTable
  | missingRecipients
  | conflictingRecipients
  deriving DecidableEq, Repr

def UsageError.message : UsageError → String
  | missingDatabase => "--database is required"
  | missingTable => "--table is required"
  | missingRecipients => "one of --email_address or --email_col is required"
  | conflictingRecipients => "--email_address and --email_col cannot be used together"

namespace Options

def empty : Options where
  database := none
  table := none
  addresses := []
  addressColumn := none
  patterns := []
  negations := []
  sortBy := []
  reversals := []
  shown := []
  limit := none
  page := none
  rowTemplate := none
  subject := none
  mailer := none
  sender := none
  fieldSeparator := none
  rowSeparator := none
  mailSeconds := none
  dryRun := false
  verbose := false
  debug := false

/-- A list that says something hides the one below it. -/
def pickList {α : Type} (upper lower : List α) : List α :=
  if upper.isEmpty then lower else upper

/-- Whether the options name recipients of any kind. -/
def namesRecipients (options : Options) : Bool :=
  !options.addresses.isEmpty || options.addressColumn.isSome

/-- Options over others: what is set above wins. Recipients are taken from one of the two
as a whole.
-/
def overlay (upper lower : Options) : Options where
  database := upper.database <|> lower.database
  table := upper.table <|> lower.table
  addresses := if upper.namesRecipients then upper.addresses else lower.addresses
  addressColumn := if upper.namesRecipients then upper.addressColumn else lower.addressColumn
  patterns := pickList upper.patterns lower.patterns
  negations := pickList upper.negations lower.negations
  sortBy := pickList upper.sortBy lower.sortBy
  reversals := pickList upper.reversals lower.reversals
  shown := pickList upper.shown lower.shown
  limit := upper.limit <|> lower.limit
  page := upper.page <|> lower.page
  rowTemplate := upper.rowTemplate <|> lower.rowTemplate
  subject := upper.subject <|> lower.subject
  mailer := upper.mailer <|> lower.mailer
  sender := upper.sender <|> lower.sender
  fieldSeparator := upper.fieldSeparator <|> lower.fieldSeparator
  rowSeparator := upper.rowSeparator <|> lower.rowSeparator
  mailSeconds := upper.mailSeconds <|> lower.mailSeconds
  dryRun := upper.dryRun || lower.dryRun
  verbose := upper.verbose || lower.verbose
  debug := upper.debug || lower.debug

def criteria (options : Options) : Criteria :=
  .build options.patterns options.negations options.sortBy options.reversals

def window (options : Options) : PageWindow :=
  .of (options.limit.getD 0) (options.page.getD 1)

def rowSeparatorText (options : Options) : String :=
  options.rowSeparator.getD defaultRowSeparator

/-- The mailer in effect; a dry run prints. -/
def mailerSetting (options : Options) : String :=
  if options.dryRun then Mail.printSetting else options.mailer.getD Mail.defaultCommand

def nanosecondsPerSecond : Nat := 1000000000

/-- How long a mailer command may run for each message, in nanoseconds. -/
def mailLimit (options : Options) : Nat :=
  options.mailSeconds.elim Pipe.defaultLimit fun seconds =>
    seconds.toNat * nanosecondsPerSecond

def requireDatabase (options : Options) : Except UsageError String :=
  options.database.elim (.error .missingDatabase) .ok

def selection (options : Options) : Except UsageError Selection :=
  match options.table with
  | none => .error .missingTable
  | some table =>
      .ok
        {
          table
          shown := options.shown
          criteria := options.criteria
          window := options.window
          rowTemplate := options.rowTemplate
          fieldSeparator := options.fieldSeparator.getD Template.defaultDelimiter
        }

/-- Exactly one kind of recipients must be named. -/
def recipients (options : Options) : Except UsageError Recipients :=
  match options.addresses, options.addressColumn with
  | _ :: _, some _ => .error .conflictingRecipients
  | address :: addresses, none => .ok (.broadcast (address :: addresses))
  | [], some column => .ok (.column column)
  | [], none => .error .missingRecipients

/-- The database and the mail job that options describe. -/
def mailJob (options : Options) : Except UsageError (String × MailJob) := do
  let database ← options.requireDatabase
  let selection ← options.selection
  let recipients ← options.recipients
  pure (database, { selection, recipients, subject := options.subject })

end Options

end MailMerge
