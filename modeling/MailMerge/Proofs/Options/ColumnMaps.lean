import Mathlib.Data.List.Forall2
import MailMerge.Options.Document
import MailMerge.Proofs.Select.BuiltCriteria
import MailMerge.Proofs.Select.Refusal

/-! Column maps of options files. A map is read entry by entry, and none of its entries is lost,
not even where two keys turn out to be the same column. A map that cannot be read whole is
refused, and the error names the first map of the file's three that is.
-/

namespace MailMerge

open Select (Criteria IsFirst find?_eq_some_iff_isFirst)
open Yaml (Number Value)

-----------------------------------------------------------------------------------------
-- Scalars
-----------------------------------------------------------------------------------------

namespace Yaml.Value

/-- The text that a scalar stands for: a flag for a boolean, and nothing for null. -/
inductive StandsFor (numberText : Number → String) : Value → String → Prop
  | null : StandsFor numberText .null ""
  | set : StandsFor numberText (.bool true) "1"
  | unset : StandsFor numberText (.bool false) "0"
  | number (value : Number) : StandsFor numberText (.number value) (numberText value)
  | text (content : String) : StandsFor numberText (.text content) content

/-- Values that are no scalars. -/
inductive IsCompound : Value → Prop
  | list (items : List Value) : IsCompound (.list items)
  | map (entries : List (Value × Value)) : IsCompound (.map entries)
  | tagged (tag : String) (value : Value) : IsCompound (.tagged tag value)

theorem scalarText?_eq_some_iff {numberText : Number → String} {value : Value} {text : String}
    : value.scalarText? numberText = some text ↔ value.StandsFor numberText text := by
  constructor
  · intro h
    cases value with
    | null => cases h; exact .null
    | bool isSet => cases isSet <;> cases h <;> constructor
    | number => cases h; exact .number _
    | text => cases h; exact .text _
    | list | map | tagged => cases h
  · intro h
    cases h <;> rfl

theorem scalarText?_eq_none_iff {numberText : Number → String} {value : Value}
    : value.scalarText? numberText = none ↔ value.IsCompound := by
  constructor
  · intro h
    cases value with
    | null | bool | number | text => cases h
    | list items => exact .list items
    | map entries => exact .map entries
    | tagged tag value => exact .tagged tag value
  · intro h
    cases h <;> rfl

end Yaml.Value

namespace OptionsDocument

-----------------------------------------------------------------------------------------
-- Entries
-----------------------------------------------------------------------------------------

/-- Why an entry of a column map cannot be read. -/
inductive RefusesEntry (numberText : Number → String) : Value × Value → Prop
  | key {key value : Value} (compound : key.IsCompound)
    : RefusesEntry numberText (key, value)
  | value {key value : Value} (compound : value.IsCompound)
    : RefusesEntry numberText (key, value)
  | nameless {key value : Value} (empty : key.StandsFor numberText "")
    : RefusesEntry numberText (key, value)

/-- The column and the text that an entry of a column map stands for. -/
@[mk_iff]
structure EntryStandsFor (numberText : Number → String) (entry : Value × Value)
    (pair : String × String) : Prop where
  column : entry.1.StandsFor numberText pair.1
  text : entry.2.StandsFor numberText pair.2
  named : pair.1 ≠ ""

section

variable {numberText : Number → String}

theorem readEntry?_eq_some_iff {entry : Value × Value} {pair : String × String}
    : readEntry? numberText entry = some pair ↔ EntryStandsFor numberText entry pair := by
  obtain ⟨column, text⟩ := pair
  simp only [entryStandsFor_iff, ← Value.scalarText?_eq_some_iff, readEntry?]
  cases entry.1.scalarText? numberText <;> cases entry.2.scalarText? numberText <;> simp
  grind

theorem readEntry?_eq_none_iff {entry : Value × Value}
    : readEntry? numberText entry = none ↔ RefusesEntry numberText entry := by
  obtain ⟨key, value⟩ := entry
  constructor
  · intro h
    cases hkey : key.scalarText? numberText with
    | none => exact .key (Value.scalarText?_eq_none_iff.mp hkey)
    | some column =>
        cases hvalue : value.scalarText? numberText with
        | none => exact .value (Value.scalarText?_eq_none_iff.mp hvalue)
        | some text =>
            have empty : column = "" := by simpa [ readEntry?, hkey, hvalue] using h
            exact .nameless (Value.scalarText?_eq_some_iff.mp (empty ▸ hkey))
  · intro refuses
    cases refuses with
    | key compound => simp [ readEntry?, Value.scalarText?_eq_none_iff.mpr compound]
    | value compound => simp [ readEntry?, Value.scalarText?_eq_none_iff.mpr compound]
    | nameless empty =>
        cases hvalue : value.scalarText? numberText <;>
          simp [ readEntry?, Value.scalarText?_eq_some_iff.mpr empty, hvalue]

end

-----------------------------------------------------------------------------------------
-- Maps
-----------------------------------------------------------------------------------------

/-- What stands for a column map is none, or it has an entry that cannot be read. -/
inductive Refuses (numberText : Number → String) : Option Value → Prop
  | noMap {value : Value} (present : value ≠ .null) (other : ∀ entries, value ≠ .map entries)
    : Refuses numberText (some value)
  | entry {entries : List (Value × Value)} {entry : Value × Value} (member : entry ∈ entries)
    (refuses : RefusesEntry numberText entry)
    : Refuses numberText (some (.map entries))

/-- What stands for a column map has these pairs: nothing has none, and a map has one for each of
its entries, in their order.
-/
inductive HasPairs (numberText : Number → String)
    : Option Value → List (String × String) → Prop
  | absent : HasPairs numberText none []
  | null : HasPairs numberText (some .null) []
  | map {entries : List (Value × Value)} {pairs : List (String × String)}
    (each : List.Forall₂ (EntryStandsFor numberText) entries pairs)
    : HasPairs numberText (some (.map entries)) pairs

/-- Reading all items succeeds if each of them is read, by induction on the items. -/
theorem mapM_eq_some_iff {α β : Type} {read : α → Option β} {items : List α} {results : List β}
    : items.mapM read = some results
      ↔ List.Forall₂ (fun item result => read item = some result) items results := by
  induction items generalizing results with
  | nil => simp [eq_comm]
  | cons item items ih =>
      rw [List.forall₂_cons_left_iff, List.mapM_cons]
      simp only [← ih, Option.bind_eq_bind, Option.bind_eq_some_iff, Option.pure_def,
        Option.some.injEq]
      constructor
      · rintro ⟨result, found, rest, behind, rfl⟩
        exact ⟨result, rest, found, behind, rfl⟩
      · rintro ⟨result, rest, found, behind, rfl⟩
        exact ⟨result, found, rest, behind, rfl⟩

theorem mapM_eq_none_iff {α β : Type} {read : α → Option β} {items : List α}
    : items.mapM read = none ↔ ∃ item ∈ items, read item = none := by
  induction items with
  | nil => simp
  | cons item items ih =>
      rw [List.mapM_cons]
      cases hitem : read item with
      | none => simp [hitem]
      | some result => cases hitems : items.mapM read <;> simp_all

section

variable {numberText : Number → String}

theorem readColumns?_eq_none_iff {value : Option Value}
    : readColumns? numberText value = none ↔ Refuses numberText value := by
  cases value with
  | none => exact ⟨nofun, nofun⟩
  | some value =>
      cases value with
      | null =>
          refine ⟨nofun, ?_⟩
          rintro ⟨present, -⟩
          exact (present rfl).elim
      | map entries =>
          rw [readColumns?, mapM_eq_none_iff]
          simp only [ readEntry?_eq_none_iff]
          constructor
          · rintro ⟨entry, member, refuses⟩
            exact .entry member refuses
          · rintro (⟨-, other⟩ | ⟨member, refuses⟩)
            · exact (other entries rfl).elim
            · exact ⟨_, member, refuses⟩
      | bool | number | text | list | tagged => exact ⟨fun _ => .noMap nofun nofun, fun _ => rfl⟩

theorem readColumns?_eq_some_iff {value : Option Value} {pairs : List (String × String)}
    : readColumns? numberText value = some pairs ↔ HasPairs numberText value pairs := by
  constructor
  · intro h
    cases value with
    | none => cases h; exact .absent
    | some value =>
        cases value with
        | null => cases h; exact .null
        | map entries =>
            refine .map ((mapM_eq_some_iff.mp h).imp fun entry pair read => ?_)
            exact readEntry?_eq_some_iff.mp read
        | bool | number | text | list | tagged => cases h
  · intro has
    cases has with
    | absent | null => rfl
    | map each =>
        refine mapM_eq_some_iff.mpr (each.imp fun entry pair stands => ?_)
        exact readEntry?_eq_some_iff.mpr stands

theorem readColumns_eq_ok_iff {key : String} {value : Option Value}
    {pairs : List (String × String)}
    : readColumns numberText key value = .ok pairs
      ↔ readColumns? numberText value = some pairs := by
  rw [readColumns]
  cases readColumns? numberText value <;> simp

end

-----------------------------------------------------------------------------------------
-- Documents
-----------------------------------------------------------------------------------------

variable (numberText : Number → String) (document : OptionsDocument)

/-- The options that are column maps, each with what stands for it. -/
def columnMaps : List (String × Option Value) :=
  [
    ("where", document.patterns),
    ("not_where", document.negations),
    ("sort_reversed", document.reversals)
  ]

/-- The maps are read one after the other, and the first one that fails is told. -/
theorem error?_toOptions
    : Outcome.error? (document.toOptions numberText)
      = (document.columnMaps.find? fun option => readColumns? numberText option.2 = none).map
          fun option => .notMap option.1 := by
  rw [toOptions, readColumns, readColumns, readColumns, columnMaps]
  simp only [List.find?_cons, List.find?_nil]
  cases readColumns? numberText document.patterns with
  | none => rfl
  | some patterns =>
      cases readColumns? numberText document.negations with
      | none => rfl
      | some negations => cases readColumns? numberText document.reversals <;> rfl

theorem toOptions_fails_iff
    : (∃ e, document.toOptions numberText = .error e)
      ↔ ∃ option ∈ document.columnMaps, Refuses numberText option.2 := by
  simp only [← Outcome.error?_eq_some_iff, ← Option.isSome_iff_exists, error?_toOptions,
    Option.isSome_map, List.find?_isSome, decide_eq_true_eq, readColumns?_eq_none_iff]

theorem toOptions_eq_error_iff {e : OptionsFileError}
    : document.toOptions numberText = .error e
      ↔ ∃ option,
          IsFirst (fun option => Refuses numberText option.2) option document.columnMaps
          ∧ e = .notMap option.1 := by
  rw [← Outcome.error?_eq_some_iff, error?_toOptions, Option.map_eq_some_iff]
  simp only [find?_eq_some_iff_isFirst, readColumns?_eq_none_iff, @eq_comm _ e]

theorem toOptions_eq_ok_iff {options : Options}
    : document.toOptions numberText = .ok options
      ↔ ∃ patterns negations reversals,
          HasPairs numberText document.patterns patterns
          ∧ HasPairs numberText document.negations negations
          ∧ HasPairs numberText document.reversals reversals
          ∧ options = { document.options with patterns, negations, reversals } := by
  simp only [← readColumns?_eq_some_iff, toOptions, Outcome.bind_eq_ok_iff, readColumns_eq_ok_iff]
  constructor
  · rintro ⟨patterns, hpatterns, negations, hnegations, reversals, hreversals, h⟩
    cases h
    exact ⟨patterns, negations, reversals, hpatterns, hnegations, hreversals, rfl⟩
  · rintro ⟨patterns, negations, reversals, hpatterns, hnegations, hreversals, rfl⟩
    exact ⟨patterns, hpatterns, negations, hnegations, reversals, hreversals, rfl⟩

/-- A file's column maps are refused just when one of them is no map or has an entry whose key or
value is no scalar or whose key is empty, and then the error names the first one that is. Else
each map has a pair for each of its entries, in their order, with the texts of its key and its
value. The other options stay as they are, and the criteria have each column of the patterns
once, where it came first and with the text with which it came last.
-/
theorem toOptions_keeps_or_names
    : ((∃ e, document.toOptions numberText = .error e)
        ↔ ∃ option ∈ document.columnMaps, Refuses numberText option.2)
      ∧ (∀ e,
          document.toOptions numberText = .error e
          ↔ ∃ option,
              IsFirst (fun option => Refuses numberText option.2) option document.columnMaps
              ∧ e = .notMap option.1)
      ∧ (∀ options,
          document.toOptions numberText = .ok options
          ↔ ∃ patterns negations reversals,
              HasPairs numberText document.patterns patterns
              ∧ HasPairs numberText document.negations negations
              ∧ HasPairs numberText document.reversals reversals
              ∧ options = { document.options with patterns, negations, reversals })
      ∧ ∀ options,
          document.toOptions numberText = .ok options
          → Pairs.Merged options.patterns
              (options.criteria.clauses.map fun clause => (clause.column, clause.pattern)) := by
  refine ⟨?_, ?_, ?_, ?_⟩
  · exact toOptions_fails_iff numberText document
  · intro e
    exact toOptions_eq_error_iff numberText document
  · intro options
    exact toOptions_eq_ok_iff numberText document
  · intro options _
    rw [Options.criteria, Criteria.map_clauses_build]
    exact Pairs.merged_merge options.patterns

/-- A number and a boolean that are the same column, and two maps that cannot be read, the first
of them for a key that is null.
-/
theorem toOptions_keeps_or_names_collision
    : let columns : List (Value × Value) :=
        [
          (.number (.integer 1), .text "A%"),
          (.text "city", .null),
          (.bool true, .number (.integer 7))
        ]
      let document : OptionsDocument := { empty with patterns := some (.map columns) }
      let refused : OptionsDocument :=
        {
          document with
          negations := some (.map [(.null, .text "1")])
          reversals := some (.list [])
        }
      let options : Options :=
        { Options.empty with patterns := [("1", "A%"), ("city", ""), ("1", "7")] }
      document.toOptions Number.text = .ok options
      ∧ Pairs.Merged options.patterns
          (options.criteria.clauses.map fun clause => (clause.column, clause.pattern))
      ∧ options.criteria.clauses = [⟨"1", "7", false⟩, ⟨"city", "", false⟩]
      ∧ refused.toOptions Number.text = .error (.notMap "not_where") := by
  intro columns document refused options
  obtain ⟨-, -, accepts, merges⟩ := toOptions_keeps_or_names Number.text document
  have hpatterns : HasPairs Number.text document.patterns options.patterns := by
    refine .map (.cons ⟨.number _, .text _, by decide +kernel⟩ (.cons ?_ (.cons ?_ .nil)))
    · exact ⟨.text _, .null, by decide⟩
    · exact ⟨.set, .number _, by decide⟩
  have accepted : document.toOptions Number.text = .ok options :=
    (accepts options).mpr ⟨_, _, _, hpatterns, .absent, .absent, rfl⟩
  have hfirst
      : IsFirst (fun option => Refuses Number.text option.2) ("not_where", refused.negations)
          refused.columnMaps := by
    refine ⟨[("where", document.patterns)], [("sort_reversed", refused.reversals)], rfl, ?_, ?_⟩
    · exact .entry (List.mem_singleton.mpr rfl) (.nameless .null)
    · simp only [List.mem_singleton, forall_eq, ← readColumns?_eq_none_iff]
      decide +kernel
  refine ⟨accepted, merges options accepted, by decide +kernel, ?_⟩
  exact ((toOptions_keeps_or_names Number.text refused).2.1 _).mpr ⟨_, hfirst, rfl⟩

end OptionsDocument

end MailMerge
