import MailMerge.Proofs.Options.WrittenValues

/-! The entries that set given options, apart from how they are spelled, and the orders in which
they may stand.
-/

namespace MailMerge

/-- Settings that hold a list, and so may be given more than once. -/
def Setting.IsList : Setting → Prop
  | .address | .pattern | .negation | .sortBy | .reversal | .shown => True
  | _ => False

theorem Setting.repeats_iff {setting : Setting} : setting.repeats = true ↔ setting.IsList := by
  cases setting <;> simp [repeats, IsList]

def Setting.all : List Setting :=
  [
    .database, .table, .address, .addressColumn, .pattern, .negation, .sortBy, .reversal,
    .shown, .limit, .page, .rowTemplate, .subject, .mailer, .sender, .fieldSeparator,
    .rowSeparator, .mailSeconds, .config
  ]

def Switch.all : List Switch :=
  [.dryRun, .verbose, .debug, .manual, .search]

theorem Setting.mem_all (setting : Setting) : setting ∈ all := by
  cases setting <;> decide

theorem Switch.mem_all (switch : Switch) : switch ∈ all := by
  cases switch <;> decide

-----------------------------------------------------------------------------------------
-- What is given
-----------------------------------------------------------------------------------------

namespace Given

section

variable (asked setting : Setting) (value : setting.Value) (switch : Switch)
  (front back : List Given)

@[simp]
theorem values_append
    : values asked (front ++ back) = values asked front ++ values asked back :=
  List.filterMap_append

@[simp]
theorem switches_append : switches (front ++ back) = switches front ++ switches back :=
  List.filterMap_append

@[simp]
theorem values_set_self : values setting [.set setting value] = [value] := by
  simp [values, value?]

@[simp]
theorem switches_on : switches [.on switch] = [switch] :=
  rfl

/-- The values of entries for one setting. -/
theorem values_map_set (texts : List setting.Value)
    : values setting (texts.map (.set setting)) = texts := by
  simp [values, value?, Function.comp_def]

theorem values_map_set_of_ne {asked} (apart : setting ≠ asked) (texts : List setting.Value)
    : values asked (texts.map (.set setting)) = [] := by
  simp [values, value?, Function.comp_def, apart]

theorem switches_map_set (texts : List setting.Value)
    : switches (texts.map (.set setting)) = [] := by
  simp [switches, switch?]

theorem values_map_on (turned : List Switch) : values asked (turned.map .on) = [] := by
  simp [values, value?]

theorem switches_map_on (turned : List Switch) : switches (turned.map .on) = turned := by
  simp [switches, switch?, Function.comp_def]

end

/-- A value that is among the entries is one of those given for its setting. -/
theorem mem_values_of_mem {given : List Given} {setting : Setting} {value : setting.Value}
    (member : .set setting value ∈ given)
    : value ∈ values setting given :=
  List.mem_filterMap.mpr ⟨_, member, dif_pos rfl⟩

end Given

namespace Options

-----------------------------------------------------------------------------------------
-- What options are set by
-----------------------------------------------------------------------------------------

/-- The values that options have for a setting. -/
def values (options : Options) : (setting : Setting) → List setting.Value
  | .database => options.database.toList
  | .table => options.table.toList
  | .address => options.addresses
  | .addressColumn => options.addressColumn.toList
  | .pattern => options.patterns
  | .negation => options.negations
  | .sortBy => options.sortBy
  | .reversal => options.reversals
  | .shown => options.shown
  | .limit => options.limit.toList
  | .page => options.page.toList
  | .rowTemplate => options.rowTemplate.toList
  | .subject => options.subject.toList
  | .mailer => options.mailer.toList
  | .sender => options.sender.toList
  | .fieldSeparator => options.fieldSeparator.toList
  | .rowSeparator => options.rowSeparator.toList
  | .mailSeconds => options.mailSeconds.toList
  | .config => []

/-- Whether options turn a switch on. -/
def turnsOn (options : Options) : Switch → Bool
  | .dryRun => options.dryRun
  | .verbose => options.verbose
  | .debug => options.debug
  | .manual | .search => false

/-- The entries that set the options: one for each value, and one for each switch that is on.
-/
def entries (options : Options) : List Given :=
  (Setting.all.flatMap fun setting => (options.values setting).map (.set setting))
    ++ (Switch.all.filter options.turnsOn).map .on

/-- The entries have just the values of the options, whatever the setting. -/
theorem values_entries (options : Options) (asked : Setting)
    : Given.values asked options.entries = options.values asked := by
  have only (settings : List Setting) (once : settings.Nodup)
      : Given.values asked
          (settings.flatMap fun setting => (options.values setting).map (.set setting))
        = if asked ∈ settings then options.values asked else [] := by
    induction settings with
    | nil => rfl
    | cons setting settings ih =>
        obtain ⟨fresh, once⟩ := List.nodup_cons.mp once
        rw [List.flatMap_cons, Given.values_append, ih once]
        by_cases same : setting = asked
        · subst same
          rw [Given.values_map_set, if_neg fresh, List.append_nil, if_pos List.mem_cons_self]
        · simp [Given.values_map_set_of_ne _ same, Ne.symm same]
  rw [entries, Given.values_append, Given.values_map_on, List.append_nil,
    only _ (by decide), if_pos asked.mem_all]

/-- The entries turn on just the switches that the options do. -/
theorem switches_entries (options : Options)
    : Given.switches options.entries = Switch.all.filter options.turnsOn := by
  have hset (settings : List Setting)
      : Given.switches
          (settings.flatMap fun setting => (options.values setting).map (.set setting))
        = [] := by
    rw [Given.switches, List.filterMap_flatMap, List.flatMap_eq_nil_iff]
    exact fun setting _ => Given.switches_map_set _ _
  rw [entries, Given.switches_append, Given.switches_map_on, hset, List.nil_append]

/-- A setting that is no list has one value at most. -/
theorem length_values_le (options : Options) {setting : Setting} (single : ¬ setting.IsList)
    : (options.values setting).length ≤ 1 := by
  have hlength {α : Type} (value : Option α) : value.toList.length ≤ 1 := by
    cases value <;> simp
  cases setting with
  | address | pattern | negation | sortBy | reversal | shown => exact (single trivial).elim
  | config => exact Nat.zero_le 1
  | _ => exact hlength _

-----------------------------------------------------------------------------------------
-- Orders
-----------------------------------------------------------------------------------------

/-- `options.Carries entries` says that the entries are those of the options, in some order that
keeps the values of each list in theirs.
-/
structure Carries (options : Options) (entries : List Given) : Prop where
  perm : entries.Perm options.entries
  kept : ∀ setting, setting.IsList → Given.values setting entries = options.values setting

namespace Carries

variable {options : Options} {entries : List Given} (carries : options.Carries entries)
include carries

/-- The order of different settings does not matter to any one of them. -/
theorem values_eq (setting : Setting)
    : Given.values setting entries = options.values setting := by
  by_cases list : setting.IsList
  · exact carries.kept setting list
  · have hperm : (Given.values setting entries).Perm (options.values setting) :=
      options.values_entries setting ▸ carries.perm.filterMap _
    have hlength := options.length_values_le list
    match hvalues : options.values setting with
    | [] => simpa [hvalues] using hperm
    | [value] => simpa [hvalues] using hperm
    | _ :: _ :: _ => simp [hvalues] at hlength

theorem switches_perm
    : (Given.switches entries).Perm (Switch.all.filter options.turnsOn) :=
  options.switches_entries ▸ carries.perm.filterMap _

theorem mem_switches_iff (switch : Switch)
    : switch ∈ Given.switches entries ↔ options.turnsOn switch = true := by
  rw [carries.switches_perm.mem_iff, List.mem_filter]
  exact and_iff_right switch.mem_all

/-- No switch is turned on twice. -/
theorem nodup_switches : (Given.switches entries).Nodup :=
  have hall : Switch.all.Nodup := by decide
  carries.switches_perm.nodup_iff.mpr (hall.filter _)

end Carries

-----------------------------------------------------------------------------------------
-- Options that can be written
-----------------------------------------------------------------------------------------

/-- The pairs of options, of all kinds. -/
def pairs (options : Options) : List (String × String) :=
  options.patterns ++ options.negations ++ options.reversals

/-- Options that a command line can carry: a path has text, and a column in front of an equals
sign has some too, holds no such sign and has no white space at its ends.
-/
structure Writable (options : Options) : Prop where
  path : options.database ≠ some ""
  columns
    : ∀ pair ∈ options.pairs,
        pair.1 ≠ "" ∧ '=' ∉ pair.1.toList ∧ Text.trim pair.1 = pair.1

/-- All values of such options are read back from what is written. -/
theorem Writable.of_mem_values {options : Options} (writable : options.Writable)
    {setting : Setting} {value : setting.Value} (member : value ∈ options.values setting)
    : setting.kind.Writable value := by
  have column {list : List (String × String)} (part : list ⊆ options.pairs)
      {pair : String × String} (member : pair ∈ list)
      : ValueKind.pair.Writable pair :=
    have ⟨isFilled, unequal, trimmed⟩ := writable.columns pair (part member)
    ⟨isFilled, unequal, trimmed⟩
  have patterns : options.patterns ⊆ options.pairs :=
    fun _ member => List.mem_append_left _ (List.mem_append_left _ member)
  have negations : options.negations ⊆ options.pairs :=
    fun _ member => List.mem_append_left _ (List.mem_append_right _ member)
  cases setting with
  | database =>
      rintro rfl
      exact writable.path (Option.mem_toList.mp member)
  | pattern => exact column patterns member
  | negation => exact column negations member
  | reversal => exact column (fun _ => List.mem_append_right _) member
  | config => simp [values] at member
  | _ => trivial

end Options

end MailMerge
