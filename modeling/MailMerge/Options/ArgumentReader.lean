import MailMerge.Options.Arguments

/-! A parser of arguments. An option's value stands behind an equals sign or is the next
argument; a value given as its own argument is looked at only when the next option or the
end of the line settles it.
-/

namespace MailMerge.ArgumentReader

/-- What was given, setting by setting. -/
def matchesOf (given : List Given) : Matches where
  values setting := Given.values setting given
  isOn switch := (Given.switches given).contains switch

/-- What the name of an option stands for. -/
inductive Meaning where
  | setting (setting : Setting)
  | switch (switch : Switch)
  | help
  | version
  deriving DecidableEq, Repr

/-- The names of all options of a program, with those of help and version. -/
def meanings (command : Command) : List (String × Meaning) :=
  (command.settings.flatMap fun declared =>
      declared.names.map fun name => (name, .setting declared.setting))
    ++ (command.switches.flatMap fun declared =>
      declared.names.map fun name => (name, .switch declared.switch))
    ++ [("help", .help), ("version", .version)]

def letters (command : Command) : List (Char × Meaning) :=
  (command.switches.filterMap fun declared =>
      declared.letter.map fun letter => (letter, .switch declared.switch))
    ++ [('h', .help), ('V', .version)]

/-- Gives a setting one more value. -/
def give (given : List Given) (setting : Setting) (raw : String)
    : Except ArgumentError (List Given) :=
  if !setting.repeats ∧ Given.values setting given ≠ [] then .error .repeated
  else (setting.kind.read raw).map fun value => given ++ [.set setting value]

/-- Turns a switch on, once. -/
def turnOn (given : List Given) (switch : Switch) : Except ArgumentError (List Given) :=
  if switch ∈ Given.switches given then .error .repeated else .ok (given ++ [.on switch])

/-- An option that waits for its value, or has it and waits to be settled. -/
abbrev Pending := Option (Setting × Option String)

/-- Settles the option that is pending. -/
def settle (pending : Pending) (given : List Given) : Except ArgumentError (List Given) :=
  match pending with
  | none => .ok given
  | some (_, none) => .error .missingValue
  | some (setting, some raw) => give given setting raw

/-- Acts on an option without a value. -/
def act (meaning : Meaning) (given : List Given) : Except ArgumentError (List Given) :=
  match meaning with
  | .switch switch => turnOn given switch
  | .help => .error .help
  | .version => .error .version
  | .setting _ => .error .missingValue

/-- Reads the letters of a joined argument. -/
def readLetters (command : Command) (pending : Pending) (given : List Given)
    : List Char → Except ArgumentError (List Given)
  | [] => settle pending given
  | c :: cs =>
      match (letters command).lookup c with
      | none => .error .unknown
      | some meaning => do
          let given ← settle pending given
          let given ← act meaning given
          readLetters command none given cs

/-- Reads a long option, and hands back what is pending behind it. -/
def readLong (command : Command) (pending : Pending) (given : List Given) (body : List Char)
    : Except ArgumentError (Pending × List Given) :=
  let name := body.takeWhile (· ≠ '=')
  match (meanings command).lookup (String.ofList name), body.drop name.length with
  | none, _ => .error .unknown
  | some (.setting setting), [] => do
      let given ← settle pending given
      pure (some (setting, none), given)
  | some (.setting setting), _ :: value => do
      let given ← settle pending given
      let given ← give given setting (String.ofList value)
      pure (none, given)
  | some _, _ :: _ => .error .needlessValue
  | some meaning, [] => do
      let given ← settle pending given
      let given ← act meaning given
      pure (none, given)

/-- Reads arguments from left to right. Behind a double dash nothing may follow, since no
argument stands by itself.
-/
def readArguments (command : Command) (pending : Pending) (given : List Given)
    : List String → Except ArgumentError (List Given)
  | [] => settle pending given
  | argument :: arguments =>
      match argument.toList with
      | ['-', '-'] => if arguments.isEmpty then settle pending given else .error .unknown
      | '-' :: '-' :: body => do
          let (pending, given) ← readLong command pending given body
          readArguments command pending given arguments
      | '-' :: c :: cs => do
          let given ← readLetters command pending given (c :: cs)
          readArguments command none given arguments
      | _ =>
          match pending with
          | some (setting, none) =>
              readArguments command (some (setting, some argument)) given arguments
          | _ => .error .unknown

def read : ArgumentParser :=
  fun command arguments => (readArguments command none [] arguments).map matchesOf

end MailMerge.ArgumentReader
