import MailMerge.Shell.Utility.Lines

/-! Copying in blocks: parts of a text by their places, with conversions on the way.
-/

namespace MailMerge.Shell.Utility

open Work

namespace Blocks

def name : String := "dd"

/-- The letters behind a number that multiply it. -/
def scales : List (String × Nat) :=
  ("c", 1) :: ("w", 2) :: ("B", 1) :: units

/-- Reads a product of numbers with units; a mark tells that it counts bytes. -/
def readNumber? (text : String) : Option Nat := do
  let factors ← (text.splitOn "x").mapM fun factor => do
    let digits := factor.toList.takeWhile Char.isDigit
    let unit := String.ofList (factor.toList.drop digits.length)
    return (← natOf? (String.ofList digits)) * (← scales.lookup unit)
  return factors.foldl (· * ·) 1

def conversions : List String :=
  [
    "ascii", "ebcdic", "ibm", "block", "unblock", "lcase", "ucase", "sparse", "swab",
    "sync", "excl", "nocreat", "notrunc", "noerror", "fdatasync", "fsync"
  ]

def flags : List String :=
  [
    "append", "direct", "directory", "dsync", "sync", "fullblock", "nonblock", "noatime",
    "nocache", "noctty", "nofollow", "skip_bytes", "count_bytes", "seek_bytes"
  ]

/-- The operands that take a number. -/
def numbered : List String :=
  ["bs", "ibs", "obs", "cbs", "count", "skip", "iseek", "seek", "oseek"]

/-- The settings of a copy, by their names. -/
abbrev Settings := List (String × String)

def Settings.number? (settings : Settings) (key : String) : Option Nat :=
  (settings.lookup key).bind readNumber?

def Settings.lists (settings : Settings) (key word : String) : Bool :=
  settings.any fun setting => setting.1 = key && (setting.2.splitOn ",").contains word

/-- Reads one operand. -/
def readOperand (operand : String) : Work (String × String) := do
  let key := String.ofList (operand.toList.takeWhile (· ≠ '='))
  let value := (operand.drop (key.length + 1)).toString
  let unknown {α : Type} : Work α := misuse 1 name s!"unrecognized operand {marked operand}"
  if !operand.toList.contains '=' then unknown
  let checkWords (known : List String) (problem : String) : Work Unit := do
    match (value.splitOn ",").find? fun word => !known.contains word with
    | some word => misuse 1 name s!"{problem}: {marked word}"
    | none => pure ()
  if numbered.contains key then
    match readNumber? value with
    | none => fail 1 name s!"invalid number: {marked value}"
    | some 0 => if key.endsWith "bs" then fail 1 name s!"invalid number: {marked value}"
    | some _ => pure ()
  else if key = "conv" then checkWords conversions "invalid conversion"
  else if key = "iflag" then checkWords flags "invalid input flag"
  else if key = "oflag" then checkWords flags "invalid output flag"
  else if key = "status" then checkWords ["none", "noxfer", "progress"] "invalid status level"
  else if key ≠ "if" ∧ key ≠ "of" then unknown
  return (key, value)

/-- Swaps the bytes of each pair. -/
def swapPairs : List Char → List Char
  | x :: y :: rest => y :: x :: swapPairs rest
  | rest => rest

/-- Splits a text into blocks; the fuel bounds how many there are. -/
def blocksOf (size : Nat) : Nat → List Char → List (List Char)
  | 0, _ => []
  | _ + 1, [] => []
  | fuel + 1, text => text.take size :: blocksOf size fuel (text.drop size)

/-- Lines as records of a size, filled with blanks. -/
def asRecords (size : Nat) (text : List Char) : List Char :=
  (splitLines text).flatMap fun line => padRight size (line.take size)

/-- Records of a size as lines, without the blanks at their ends. -/
def asLines (size : Nat) (text : List Char) : List Char :=
  (blocksOf size (text.length + 1) text).flatMap fun record =>
    (record.reverse.dropWhile (· = ' ')).reverse ++ [newline]

/-- What comes of the blocks of the input. -/
def convert (settings : Settings) (size : Nat) (blocks : List (List Char)) : List Char :=
  let has (word : String) : Bool := settings.lists "conv" word
  let filler := if has "block" ∨ has "unblock" then ' ' else '\x00'
  let blocks :=
    if has "sync" then
      blocks.map fun block => block ++ List.replicate (size - block.length) filler
    else blocks
  let blocks := if has "swab" then blocks.map swapPairs else blocks
  let text := blocks.flatten
  let text := if has "ucase" then text.map Char.toUpper else text
  let text := if has "lcase" then text.map Char.toLower else text
  match settings.number? "cbs" with
  | none => text
  | some width =>
      if has "block" then asRecords width text
      else if has "unblock" then asLines width text
      else text

/-- How many blocks of a size there are, and whether one is left that is not full. -/
def recordsText (size : Nat) (blocks : List (List Char)) : String :=
  let full := blocks.countP (·.length = size)
  s!"{full}+{blocks.length - full}"

/-- What is read of a source: its text behind what is skipped, up to what is wanted. -/
def readSource (settings : Settings) (skipped : Nat) (wanted : Option Nat)
    : Work (List Char) := do
  match settings.lookup "if" with
  | none => do
      let station ← get
      let rest := station.input.drop skipped
      match station.inputFault with
      | some e => do
          let subject := quoted "standard input"
          fail 1 name s!"error reading {subject}: {e.reason}"
      | none => pure ()
      match wanted with
      | none => do
          let _ ← takeInput
          return rest
      | some wanted => do
          leaveBehind (min (skipped + wanted) station.input.length) 1
          return rest.take wanted
  | some path => do
      match ← content path with
      | .error e => fail 1 name s!"failed to open {quoted path}: {e.reason}"
      | .ok text => do
          if wanted.isSome then modify fun station => { station with isEndless := false }
          let rest := text.drop skipped
          return wanted.elim rest rest.take

/-- Writes a text to its target, from a place on. -/
def writeTarget (settings : Settings) (sought : Nat) (text : List Char) : Work Unit := do
  match settings.lookup "of" with
  | none => say text
  | some "/dev/stdout" => say text
  | some "/dev/stderr" => emit .err text
  | some "/dev/null" => pure ()
  | some path => do
      let before := ((← content path).toOption).getD []
      let keeps := settings.lists "conv" "notrunc"
      let appends := settings.lists "oflag" "append"
      let place := if appends ∧ keeps then before.length else sought
      let head := before.take place
      let head := head ++ List.replicate (place - head.length) '\x00'
      let tail := if keeps then before.drop (place + text.length) else []
      match ← change (·.write · (ofOctets (head ++ text ++ tail))) path with
      | .ok () => pure ()
      | .error e => fail 1 name s!"failed to open {quoted path}: {e.reason}"

/-- A count of bytes with its units, where it is large. -/
def sizeText (bytes : Nat) : String :=
  let scaled (base : Nat) (letters : List String) : String :=
    let power := (List.range 8).foldl (fun power i => if Nat.pow base (i + 1) ≤ bytes then i + 1 else power) 0
    let unit := letters.getD (power - 1) ""
    let scale := Nat.pow base power
    let tenths := (bytes * 10 + scale / 2) / scale
    if tenths < 100 then s!"{tenths / 10}.{tenths % 10} {unit}" else s!"{(tenths + 5) / 10} {unit}"
  let decimal := scaled 1000 ["kB", "MB", "GB", "TB", "PB", "EB", "ZB", "YB"]
  let binary := scaled 1024 ["KiB", "MiB", "GiB", "TiB", "PiB", "EiB", "ZiB", "YiB"]
  let things := if bytes = 1 then "byte" else "bytes"
  if bytes < 1000 then s!"{bytes} {things}"
  else if bytes < 1024 then s!"{bytes} {things} ({decimal})"
  else s!"{bytes} {things} ({decimal}, {binary})"

end Blocks

open Blocks in
/-- Copies blocks from a source to a target. -/
def copyBlocks (words : List String) : Work Nat := do
  let name := "dd"
  let arguments ← arguments (Switches.of "" "" []) 1 name words
  let settings : Blocks.Settings := (← arguments.operands.mapM Blocks.readOperand).reverse
  if settings.lists "conv" "lcase" ∧ settings.lists "conv" "ucase" then
    fail 1 name "cannot combine lcase and ucase"
  if settings.lists "conv" "block" ∧ settings.lists "conv" "unblock" then
    fail 1 name "cannot combine block and unblock"
  let both := settings.number? "bs"
  let inputSize := (both <|> settings.number? "ibs").getD 512
  let outputSize := (both <|> settings.number? "obs").getD 512
  let countsBytes (flag key : String) (kind : String) : Bool :=
    settings.lists kind flag || ((settings.lookup key).getD "").endsWith "B"
  let placed (keys : List String) (flag kind : String) (size : Nat) : Option Nat :=
    (keys.findSome? fun key => (settings.number? key).map (key, ·)).map fun (key, count) =>
      if countsBytes flag key kind then count else count * size
  let skipped := (placed ["skip", "iseek"] "skip_bytes" "iflag" inputSize).getD 0
  let sought := (placed ["seek", "oseek"] "seek_bytes" "oflag" outputSize).getD 0
  let wanted := placed ["count"] "count_bytes" "iflag" inputSize
  let text ← Blocks.readSource settings skipped wanted
  let blocks := Blocks.blocksOf inputSize (text.length + 1) text
  let converted := Blocks.convert settings inputSize blocks
  let written :=
    if both.isSome ∧ converted.length = text.length then blocks
    else Blocks.blocksOf outputSize (converted.length + 1) converted
  Blocks.writeTarget settings sought converted
  let status := (settings.lookup "status").getD ""
  if status ≠ "none" then
    emit .err s!"{Blocks.recordsText inputSize blocks} records in\n".toList
    emit .err s!"{Blocks.recordsText outputSize written} records out\n".toList
    if status ≠ "noxfer" then
      emit .err s!"{Blocks.sizeText converted.length} copied, 0.0001 s, 1.0 MB/s\n".toList
  return 0

end MailMerge.Shell.Utility
