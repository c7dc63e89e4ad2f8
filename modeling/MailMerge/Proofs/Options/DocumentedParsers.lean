import Mathlib.Data.List.Forall2
import Mathlib.Data.List.TakeWhile
import MailMerge.Options.ArgumentReader
import MailMerge.Proofs.Options.Entries

/-! What is known of a parser of arguments: declared options that are given by their names, with
their values behind equals signs, are matched with the values that their kinds read, as long as
no option is repeated that may not be. The reader of this library is such a parser for every
command whose names can be told apart.
-/

namespace MailMerge

-----------------------------------------------------------------------------------------
-- Documented parsers
-----------------------------------------------------------------------------------------

/-- `command.Gives argument entry` says that the argument gives an option that the command
declares, by one of its names; a setting has a value behind an equals sign.
-/
inductive Command.Gives (command : Command) : String → Given → Prop
  | set {declared : SettingDeclaration} {name raw : String} {value : declared.setting.Value}
    (isDeclared : declared ∈ command.settings) (named : name ∈ declared.names)
    (read : declared.setting.kind.read raw = .ok value)
    : Gives command ("--" ++ name ++ "=" ++ raw) (.set declared.setting value)
  | on {declared : SwitchDeclaration} {name : String} (isDeclared : declared ∈ command.switches)
    (named : name ∈ declared.names)
    : Gives command ("--" ++ name) (.on declared.switch)

/-- No setting without a list is given twice, and no switch. -/
structure Given.Unrepeated (entries : List Given) : Prop where
  settings : ∀ setting, setting.repeats = false → (values setting entries).length ≤ 1
  switches : (switches entries).Nodup

/-- A parser that takes declared options: each setting has the values that are given for it, from
left to right, and the switches are on that are given.
-/
def ArgumentParser.Documented (parser : ArgumentParser) (command : Command) : Prop :=
  ∀ arguments entries,
    List.Forall₂ command.Gives arguments entries
    → Given.Unrepeated entries
    → ∃ matched,
        parser command arguments = .ok matched
        ∧ (∀ setting, matched.values setting = Given.values setting entries)
        ∧ ∀ switch, matched.isOn switch = true ↔ switch ∈ Given.switches entries

namespace ArgumentReader

-----------------------------------------------------------------------------------------
-- One option
-----------------------------------------------------------------------------------------

/-- A command whose options have names of their own, without equals signs. -/
structure TellsApart (command : Command) : Prop where
  settings
    : ∀ declared ∈ command.settings, ∀ name ∈ declared.names,
        (meanings command).lookup name = some (.setting declared.setting)
        ∧ '=' ∉ name.toList
  switches
    : ∀ declared ∈ command.switches, ∀ name ∈ declared.names,
        (meanings command).lookup name = some (.switch declared.switch)
        ∧ '=' ∉ name.toList
        ∧ name.toList ≠ []

theorem tellsApart_mail : TellsApart .mail :=
  ⟨by decide +kernel, by decide +kernel⟩

section

variable {command : Command} {front back next : List Given} {name : String}

/-- A value is given once it is read, if the setting may have one more. -/
theorem give_eq_ok {setting : Setting} {raw : String} {value : setting.Value}
    (read : setting.kind.read raw = .ok value)
    (unrepeated : Given.Unrepeated (front ++ .set setting value :: back))
    : give front setting raw = .ok (front ++ [.set setting value]) := by
  have fresh : ¬ (!setting.repeats ∧ Given.values setting front ≠ []) := by
    rintro ⟨single, filled⟩
    have few := unrepeated.settings setting (by simpa using single)
    have first := List.length_pos_of_ne_nil filled
    rw [← List.singleton_append, Given.values_append, Given.values_append,
      Given.values_set_self, List.length_append, List.length_append, List.length_singleton]
      at few
    omega
  rw [give, if_neg fresh, read]
  rfl

theorem turnOn_eq_ok {switch : Switch}
    (unrepeated : Given.Unrepeated (front ++ .on switch :: back))
    : turnOn front switch = .ok (front ++ [.on switch]) := by
  have once := unrepeated.switches
  rw [← List.singleton_append, Given.switches_append, Given.switches_append,
    Given.switches_on] at once
  refine if_neg fun member => ?_
  exact (List.nodup_append.mp once).2.2 switch member switch (by simp) rfl

/-- A long option with a value gives the value to its setting. -/
theorem readLong_set {setting : Setting} {raw : String}
    (lookup : (meanings command).lookup name = some (.setting setting))
    (unequal : '=' ∉ name.toList) (given : give front setting raw = .ok next)
    : readLong command none front (name.toList ++ '=' :: raw.toList) = .ok (none, next) := by
  unfold readLong
  simp only [takeWhile_append_equals unequal, String.ofList_toList, lookup, List.drop_left,
    settle]
  exact congrArg (· >>= fun next => pure (none, next)) given

/-- A long option that is a switch turns it on. -/
theorem readLong_on {switch : Switch}
    (lookup : (meanings command).lookup name = some (.switch switch))
    (unequal : '=' ∉ name.toList) (turned : turnOn front switch = .ok next)
    : readLong command none front name.toList = .ok (none, next) := by
  have hname : name.toList.takeWhile (· ≠ '=') = name.toList :=
    List.takeWhile_eq_self_iff.mpr fun c hc => decide_eq_true fun h => unequal (h ▸ hc)
  unfold readLong
  simp only [hname, String.ofList_toList, lookup, List.drop_length, settle, act]
  exact congrArg (· >>= fun next => pure (none, next)) turned

/-- Two dashes with something behind them are a long option. -/
theorem readArguments_long {argument : String} {arguments : List String} {body : List Char}
    (nonempty : body ≠ []) (hargument : argument.toList = '-' :: '-' :: body)
    (hbody : readLong command none front body = .ok (none, next))
    : readArguments command none front (argument :: arguments)
      = readArguments command none next arguments := by
  obtain ⟨c, cs, rfl⟩ := List.exists_cons_of_ne_nil nonempty
  simp only [readArguments, hargument, hbody]
  rfl

/-- Reading an argument gives its entry. -/
theorem readArguments_gives (apart : TellsApart command) {argument : String} {entry : Given}
    (gives : command.Gives argument entry)
    (unrepeated : Given.Unrepeated (front ++ entry :: back)) (arguments : List String)
    : readArguments command none front (argument :: arguments)
      = readArguments command none (front ++ [entry]) arguments := by
  cases gives with
  | @set declared name raw value isDeclared named read =>
      obtain ⟨lookup, unequal⟩ := apart.settings declared isDeclared name named
      have nonempty : name.toList ++ '=' :: raw.toList ≠ [] := by simp
      exact readArguments_long nonempty (by simp)
        (readLong_set lookup unequal (give_eq_ok read unrepeated))
  | @on declared name isDeclared named =>
      obtain ⟨lookup, unequal, nonempty⟩ := apart.switches declared isDeclared name named
      exact readArguments_long nonempty (by simp)
        (readLong_on lookup unequal (turnOn_eq_ok unrepeated))

-----------------------------------------------------------------------------------------
-- All options
-----------------------------------------------------------------------------------------

/-- Arguments give their entries behind those in front, by induction on the arguments. -/
theorem readArguments_eq_ok (apart : TellsApart command) {arguments : List String}
    {entries : List Given} (gives : List.Forall₂ command.Gives arguments entries)
    (unrepeated : Given.Unrepeated (front ++ entries))
    : readArguments command none front arguments = .ok (front ++ entries) := by
  induction gives generalizing front with
  | nil => rw [List.append_nil, readArguments, settle]
  | @cons argument entry arguments entries first _ ih =>
      have hfront : front ++ entry :: entries = (front ++ [entry]) ++ entries := by simp
      rw [readArguments_gives apart first unrepeated]
      rw [hfront] at unrepeated ⊢
      exact ih unrepeated

/-- The reader is documented for commands whose names can be told apart. -/
theorem documented_read (apart : TellsApart command)
    : ArgumentParser.Documented read command := by
  intro arguments entries gives unrepeated
  have hread : readArguments command none [] arguments = .ok entries :=
    readArguments_eq_ok apart gives unrepeated
  refine ⟨matchesOf entries, ?_, fun _ => rfl, fun _ => List.contains_iff_mem⟩
  rw [read, hread]
  rfl

end

end ArgumentReader

end MailMerge
