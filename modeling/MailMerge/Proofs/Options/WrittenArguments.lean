import MailMerge.Proofs.Options.DocumentedParsers

/-! Options written as arguments. Each entry of options is one argument, a name with its value
behind an equals sign or a name alone. A parser that takes declared options hands all of it over
in every order that keeps the entries of each list in theirs, and the options come out of what it
hands over as they went in.
-/

namespace MailMerge

-----------------------------------------------------------------------------------------
-- Arguments
-----------------------------------------------------------------------------------------

def Setting.name : Setting → String
  | .database => "database"
  | .table => "table"
  | .address => "email_address"
  | .addressColumn => "email_col"
  | .pattern => "where"
  | .negation => "not_where"
  | .sortBy => "sort_by"
  | .reversal => "sort_reversed"
  | .shown => "show"
  | .limit => "limit"
  | .page => "page"
  | .rowTemplate => "row_template"
  | .subject => "subject"
  | .mailer => "mailer"
  | .sender => "from"
  | .fieldSeparator => "field_separator"
  | .rowSeparator => "row_separator"
  | .mailSeconds => "mail_timeout"
  | .config => "config"

def Switch.name : Switch → String
  | .dryRun => "dry_run"
  | .verbose => "verbose"
  | .debug => "debug"
  | .manual => "manpage"
  | .search => "search"

/-- A name as it is, and with dashes for underscores. -/
def spellings (name : String) : List String :=
  [name, String.ofList (name.toList.map fun c => if c = '_' then '-' else c)]

/-- The arguments that an entry may be written as. -/
def Given.arguments : Given → List String
  | .set setting value =>
      (spellings setting.name).map fun name => "--" ++ name ++ "=" ++ setting.kind.write value
  | .on switch => (spellings switch.name).map fun name => "--" ++ name

/-- `Written entries arguments` says that the arguments are the entries, one for one. -/
def Written (entries : List Given) (arguments : List String) : Prop :=
  List.Forall₂ (fun entry argument => argument ∈ entry.arguments) entries arguments

-----------------------------------------------------------------------------------------
-- Declared options
-----------------------------------------------------------------------------------------

/-- Each spelling of a setting is a name that the mail program declares for it. -/
theorem declares_setting
    : ∀ setting ∈ Setting.all, ∀ spelling ∈ spellings setting.name,
        ∃ declared ∈ Command.mail.settings,
          declared.setting = setting ∧ spelling ∈ declared.names := by
  decide +kernel

/-- Each spelling of a switch is declared for it, apart from the one of the viewer. -/
theorem declares_switch
    : ∀ switch ∈ Switch.all, switch ≠ .search → ∀ spelling ∈ spellings switch.name,
        ∃ declared ∈ Command.mail.switches,
          declared.switch = switch ∧ spelling ∈ declared.names := by
  decide +kernel

/-- An entry that the mail program can be given. -/
def Given.Readable : Given → Prop
  | .set setting value => setting.kind.Writable value
  | .on switch => switch ≠ .search

theorem Given.Readable.gives {entry : Given} (readable : entry.Readable) {argument : String}
    (written : argument ∈ entry.arguments)
    : Command.mail.Gives argument entry := by
  cases entry with
  | set setting value =>
      obtain ⟨spelling, hspelling, rfl⟩ := List.mem_map.mp written
      obtain ⟨declared, isDeclared, rfl, named⟩ :=
        declares_setting setting setting.mem_all spelling hspelling
      exact .set isDeclared named (ValueKind.read_write readable)
  | on switch =>
      obtain ⟨spelling, hspelling, rfl⟩ := List.mem_map.mp written
      obtain ⟨declared, isDeclared, rfl, named⟩ :=
        declares_switch switch switch.mem_all readable spelling hspelling
      exact .on isDeclared named

/-- Written entries are given by their arguments, by induction on them. -/
theorem Written.gives {entries : List Given} {arguments : List String}
    (written : Written entries arguments) (readable : ∀ entry ∈ entries, entry.Readable)
    : List.Forall₂ Command.mail.Gives arguments entries := by
  induction written with
  | nil => exact .nil
  | @cons entry argument entries arguments first _ ih =>
      obtain ⟨readable, rest⟩ := List.forall_mem_cons.mp readable
      exact .cons (readable.gives first) (ih rest)

-----------------------------------------------------------------------------------------
-- Options handed over
-----------------------------------------------------------------------------------------

namespace Options

variable {options : Options} {entries : List Given}

theorem Carries.unrepeated (carries : options.Carries entries)
    : Given.Unrepeated entries where
  settings setting single := by
    rw [carries.values_eq]
    refine options.length_values_le fun list => ?_
    rw [Setting.repeats_iff.mpr list] at single
    cases single
  switches := carries.nodup_switches

theorem Writable.readable (writable : options.Writable) (carries : options.Carries entries)
    : ∀ entry ∈ entries, entry.Readable := by
  intro entry member
  cases entry with
  | set setting value =>
      have given := Given.mem_values_of_mem member
      rw [carries.values_eq] at given
      exact writable.of_mem_values given
  | on switch =>
      rintro rfl
      have given : .search ∈ Given.switches entries := List.mem_filterMap.mpr ⟨_, member, rfl⟩
      cases (carries.mem_switches_iff .search).mp given

end Options

/-- What is matched for options is taken over into the arguments of the mail program and from
there into the options, each field into its own.
-/
theorem MailCli.options_ofMatches {matched : Matches} {options : Options}
    (values : ∀ setting, matched.values setting = options.values setting)
    (switches : ∀ switch, matched.isOn switch = options.turnsOn switch)
    : (ofMatches matched).options = options
      ∧ (ofMatches matched).config = none
      ∧ (ofMatches matched).manual = false := by
  refine ⟨?_, ?_, switches .manual⟩
  · simp only [MailCli.options, ofMatches, SelectArgs.apply, SelectArgs.ofMatches,
      LogArgs.ofMatches, values, switches, Options.values, Options.turnsOn,
      Option.head?_toList]
  · simp only [ofMatches, values, Options.values]
    rfl

/-- Options written as arguments are handed over as they are, in every order of the arguments
that keeps the values of each list in theirs, by any parser that takes declared options. No
options file is named with them, and the manual is not asked for.
-/
theorem parse_of_written {parser : ArgumentParser} (documented : parser.Documented .mail)
    {options : Options} {entries : List Given} {arguments : List String}
    (writable : options.Writable) (carries : options.Carries entries)
    (written : Written entries arguments)
    : ∃ cli,
        MailCli.parse parser arguments = .ok cli
        ∧ cli.options = options
        ∧ cli.config = none
        ∧ cli.manual = false := by
  obtain ⟨matched, parsed, values, switches⟩ :=
    documented arguments entries (written.gives (writable.readable carries)) carries.unrepeated
  refine ⟨.ofMatches matched, ?_, ?_⟩
  · rw [MailCli.parse, parsed]
    rfl
  · refine MailCli.options_ofMatches ?_ ?_
    · exact fun setting => (values setting).trans (carries.values_eq setting)
    · intro switch
      rw [Bool.eq_iff_iff, switches, carries.mem_switches_iff]

/-- Options of which the texts are empty, start with dashes or hold equals signs and blanks.
Lists stand apart, and either spelling is used.
-/
theorem parse_of_written_interleaved
    : let options : Options :=
        {
          Options.empty with
          database := some "my tables"
          addresses := ["a=b", "", "--page=2"]
          patterns := [("name", "x=y z"), ("city town", "")]
          negations := [("name", "-1")]
          reversals := [("name", "1")]
          limit := some 18446744073709551615
          subject := some ""
          sender := some "-x"
          dryRun := true
          debug := true
        }
      let entries : List Given :=
        [
          .set .address "a=b", .set .pattern ("name", "x=y z"), .on .dryRun, .set .subject "",
          .set .address "", .set .reversal ("name", "1"),
          .set .limit (18446744073709551615 : UInt64), .set .pattern ("city town", ""), .set .address "--page=2",
          .set .negation ("name", "-1"), .set .sender "-x", .on .debug,
          .set .database "my tables"
        ]
      let arguments :=
        [
          "--email_address=a=b", "--where=name=x=y z", "--dry-run", "--subject=",
          "--email-address=", "--sort-reversed=name=1", "--limit=18446744073709551615",
          "--where=city town=", "--email_address=--page=2", "--not_where=name=-1",
          "--from=-x", "--debug", "--database=my tables"
        ]
      ArgumentParser.Documented ArgumentReader.read .mail
      ∧ options.Writable
      ∧ options.Carries entries
      ∧ Written entries arguments
      ∧ ∃ cli,
          MailCli.parse ArgumentReader.read arguments = .ok cli
          ∧ cli.options = options
          ∧ cli.config = none
          ∧ cli.manual = false := by
  intro options entries arguments
  have documented : ArgumentParser.Documented ArgumentReader.read .mail :=
    ArgumentReader.documented_read ArgumentReader.tellsApart_mail
  have writable : options.Writable := ⟨by decide, by decide +kernel⟩
  have carries : options.Carries entries := by
    refine ⟨by decide +kernel, fun setting _ => ?_⟩
    cases setting <;> rfl
  have written : Written entries arguments := by
    unfold Written
    decide +kernel
  exact ⟨documented, writable, carries, written,
    parse_of_written documented writable carries written⟩

end MailMerge
