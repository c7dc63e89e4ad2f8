import MailMerge.Options.Basic
import MailMerge.Yaml.Value

/-! Options files. A file holds options under the names they have on the command line. Its
column maps are kept as they were read until the whole file is known to be well formed.
-/

namespace MailMerge

open Yaml (Value)

/-- An options file as it was read: the options, of which the column maps are still empty,
and what stands for those maps.
-/
structure OptionsDocument where
  options : Options
  patterns : Option Value
  negations : Option Value
  reversals : Option Value

/-- The keys of an options file. -/
inductive OptionKey where
  | database
  | table
  | addresses
  | addressColumn
  | patterns
  | negations
  | sortBy
  | reversals
  | shown
  | limit
  | page
  | rowTemplate
  | subject
  | mailer
  | sender
  | fieldSeparator
  | rowSeparator
  | mailSeconds
  | dryRun
  | verbose
  | debug
  deriving DecidableEq, Repr

/-- What is wrong with an options file. -/
inductive OptionsFileError where
  | unreadable (reason : String)
  | malformed (reason : String)
  | notMap (key : String)
  deriving DecidableEq, Repr

namespace OptionKey

/-- The keys and their names. -/
def names : List (String × OptionKey) :=
  [
    ("database", database),
    ("table", table),
    ("email_address", addresses),
    ("email_col", addressColumn),
    ("where", patterns),
    ("not_where", negations),
    ("sort_by", sortBy),
    ("sort_reversed", reversals),
    ("show", shown),
    ("limit", limit),
    ("page", page),
    ("row_template", rowTemplate),
    ("subject", subject),
    ("mailer", mailer),
    ("from", sender),
    ("field_separator", fieldSeparator),
    ("row_separator", rowSeparator),
    ("mail_timeout", mailSeconds),
    ("dry_run", dryRun),
    ("verbose", verbose),
    ("debug", debug)
  ]

end OptionKey

/-! ### Values of options -/

/-- The text of an option; null leaves it unset. -/
def Yaml.Value.optionText? : Value → Option (Option String)
  | .null => some none
  | value =>
      match value.untag with
      | .text content => some (some content)
      | _ => none

def Yaml.Value.content? : Value → Option String
  | .text content => some content
  | _ => none

/-- The texts of an option that may be a text or a list of texts. -/
def Yaml.Value.optionTexts? : Value → Option (List String)
  | .null => some []
  | .text content => some [content]
  | .list items => items.mapM Value.content?
  | _ => none

def Yaml.Value.optionCount? : Value → Option (Option UInt64)
  | .null => some none
  | value =>
      match value.untag with
      | .number (.integer count) =>
          if 0 ≤ count ∧ count ≤ Select.maxCount then some (some count.toNat.toUInt64)
          else none
      | _ => none

def Yaml.Value.flag? (value : Value) : Option Bool :=
  match value.untag with
  | .bool isSet => some isSet
  | _ => none

/-- The value itself, unless it is null. -/
def Yaml.Value.present? : Value → Option Value
  | .null => none
  | value => some value

/-- The text that a scalar stands for as the key or the value of a column map. -/
def Yaml.Value.scalarText? (numberText : Yaml.Number → String) : Value → Option String
  | .text content => some content
  | .number value => some (numberText value)
  | .bool value => some (if value then "1" else "0")
  | .null => some ""
  | _ => none

namespace OptionsDocument

def empty : OptionsDocument where
  options := .empty
  patterns := none
  negations := none
  reversals := none

def setOptions (document : OptionsDocument) (options : Options) : OptionsDocument :=
  { document with options }

/-- Puts a value under a key; none if it is of a wrong kind. -/
def put (document : OptionsDocument) (key : OptionKey) (value : Value)
    : Option OptionsDocument :=
  let options := document.options
  match key with
  | .database =>
      value.optionText?.map fun database => document.setOptions { options with database }
  | .table => value.optionText?.map fun table => document.setOptions { options with table }
  | .addresses =>
      value.optionTexts?.map fun addresses => document.setOptions { options with addresses }
  | .addressColumn =>
      value.optionText?.map fun addressColumn =>
        document.setOptions { options with addressColumn }
  | .patterns => some { document with patterns := value.present? }
  | .negations => some { document with negations := value.present? }
  | .sortBy =>
      value.optionTexts?.map fun sortBy => document.setOptions { options with sortBy }
  | .reversals => some { document with reversals := value.present? }
  | .shown => value.optionTexts?.map fun shown => document.setOptions { options with shown }
  | .limit => value.optionCount?.map fun limit => document.setOptions { options with limit }
  | .page => value.optionCount?.map fun page => document.setOptions { options with page }
  | .rowTemplate =>
      value.optionText?.map fun rowTemplate =>
        document.setOptions { options with rowTemplate }
  | .subject =>
      value.optionText?.map fun subject => document.setOptions { options with subject }
  | .mailer =>
      value.optionText?.map fun mailer => document.setOptions { options with mailer }
  | .sender =>
      value.optionText?.map fun sender => document.setOptions { options with sender }
  | .fieldSeparator =>
      value.optionText?.map fun fieldSeparator =>
        document.setOptions { options with fieldSeparator }
  | .rowSeparator =>
      value.optionText?.map fun rowSeparator =>
        document.setOptions { options with rowSeparator }
  | .mailSeconds =>
      value.optionCount?.map fun mailSeconds =>
        document.setOptions { options with mailSeconds }
  | .dryRun => value.flag?.map fun dryRun => document.setOptions { options with dryRun }
  | .verbose => value.flag?.map fun verbose => document.setOptions { options with verbose }
  | .debug => value.flag?.map fun debug => document.setOptions { options with debug }

/-- Fills a document from keys and values, each key at most once. -/
def ofPairs (pairs : List (OptionKey × Value)) : Option OptionsDocument :=
  if (pairs.map (·.1)).Nodup then
    pairs.foldlM (fun document (key, value) => document.put key value) .empty
  else none

/-- The key that a value names. -/
def key? (value : Value) : Option OptionKey :=
  value.untag.content?.bind fun name => OptionKey.names.lookup name

/-- Reads the value of an options file. -/
def ofValue? (value : Value) : Option OptionsDocument :=
  match value.untag with
  | .null => some .empty
  | .map entries =>
      (entries.mapM fun (entry : Value × Value) =>
        (key? entry.1).map fun key => (key, entry.2)).bind ofPairs
  | _ => none

/-! ### Column maps -/

section

variable (numberText : Yaml.Number → String)

/-- An entry of a column map: its column has a name. -/
def readEntry? (entry : Value × Value) : Option (String × String) :=
  match entry.1.scalarText? numberText, entry.2.scalarText? numberText with
  | some column, some text => if column = "" then none else some (column, text)
  | _, _ => none

/-- Reads a column map in the order of the file. -/
def readColumns? : Option Value → Option (List (String × String))
  | none => some []
  | some .null => some []
  | some (.map entries) => entries.mapM ( readEntry? numberText)
  | some _ => none

def readColumns (key : String) (value : Option Value)
    : Except OptionsFileError (List (String × String)) :=
  (readColumns? numberText value).elim (.error (.notMap key)) .ok

/-- The options of a document, unless one of its column maps is none. -/
def toOptions (document : OptionsDocument) : Except OptionsFileError Options := do
  let patterns ← readColumns numberText "where" document.patterns
  let negations ← readColumns numberText "not_where" document.negations
  let reversals ← readColumns numberText "sort_reversed" document.reversals
  pure { document.options with patterns, negations, reversals }

end

end OptionsDocument

/-- Reads the options in the text of an options file. -/
def Options.ofText (library : Yaml.Library) (text : String)
    : Except OptionsFileError Options :=
  if Text.trim text = "" then OptionsDocument.empty.toOptions library.numberText
  else
    match library.read text with
    | .error reason => .error (.malformed reason)
    | .ok value =>
        match OptionsDocument.ofValue? value with
        | some document => document.toOptions library.numberText
        | none => .error (.malformed "not a map of options")

namespace OptionsFileError

/-- The causes that a message is followed by where all of them are told. -/
def causes : OptionsFileError → List String
  | unreadable reason => [reason]
  | malformed reason => [reason]
  | notMap _ => []

def message (path : String) (error : OptionsFileError) : String :=
  match error with
  | unreadable reason => s!"cannot read config file '{path}': {reason}"
  | malformed reason => s!"invalid config file '{path}': {reason}"
  | notMap key => s!"invalid config file '{path}': '{key}' must map column names to values"

end OptionsFileError

end MailMerge
