import MailMerge.Decimal.Reading
import MailMerge.Shell.Utility.Lines

/-! Bytes written with few signs: each sign stands for five or six bits, and marks fill up
the last group.
-/

namespace MailMerge.Shell.Utility

open Work

/-- An alphabet whose signs stand for so many bits each, in groups of so many. -/
structure Alphabet where
  signs : List Char
  bits : Nat
  group : Nat

def Alphabet.base64 : Alphabet where
  signs := "ABCDEFGHIJKLMNOPQRSTUVWXYZabcdefghijklmnopqrstuvwxyz0123456789+/".toList
  bits := 6
  group := 4

def Alphabet.base64url : Alphabet :=
  { Alphabet.base64 with
    signs := "ABCDEFGHIJKLMNOPQRSTUVWXYZabcdefghijklmnopqrstuvwxyz0123456789-_".toList }

def Alphabet.base32 : Alphabet where
  signs := "ABCDEFGHIJKLMNOPQRSTUVWXYZ234567".toList
  bits := 5
  group := 8

def Alphabet.base16 : Alphabet where
  signs := "0123456789ABCDEF".toList
  bits := 4
  group := 2

/-- How many bytes a whole group holds. -/
def Alphabet.groupBytes (alphabet : Alphabet) : Nat :=
  alphabet.group * alphabet.bits / 8

/-- The signs of a group of bytes. -/
def Alphabet.encodeGroup (alphabet : Alphabet) (bytes : List Char) : List Char :=
  let missing := alphabet.groupBytes - bytes.length
  let value := (bytes ++ List.replicate missing '\x00').foldl
    (fun value c => value * 256 + c.toNat) 0
  let used := (bytes.length * 8 + alphabet.bits - 1) / alphabet.bits
  (List.range alphabet.group).map fun i =>
    if i < used then
      let shift := Nat.pow 2 (alphabet.bits * (alphabet.group - 1 - i))
      alphabet.signs.getD (value / shift % Nat.pow 2 alphabet.bits) '='
    else '='

/-- Groups of so many items; the number bounds how many there are. -/
def groupsIn (size : Nat) : Nat → List Char → List (List Char)
  | 0, _ | _, [] => []
  | fuel + 1, cs => cs.take size :: groupsIn size fuel (cs.drop size)

def Alphabet.encode (alphabet : Alphabet) (bytes : List Char) : List Char :=
  (groupsIn alphabet.groupBytes (bytes.length + 1) bytes).flatMap alphabet.encodeGroup

/-- The bytes of a group of signs, and whether the group is a proper one. -/
def Alphabet.decodeGroup (alphabet : Alphabet) (group : List Char) : List Char × Bool :=
  let signs := group.takeWhile fun c => alphabet.signs.contains c
  let fill := group.drop signs.length
  let value := (signs ++ List.replicate (alphabet.group - signs.length) '\x00').foldl
    (fun value c => value * Nat.pow 2 alphabet.bits + (alphabet.signs.idxOf? c).getD 0) 0
  let count := signs.length * alphabet.bits / 8
  let bytes := (List.range alphabet.groupBytes).map fun i =>
    octet (value / Nat.pow 256 (alphabet.groupBytes - 1 - i) % 256).toUInt8
  let needed := (count * 8 + alphabet.bits - 1) / alphabet.bits
  let isFine : Bool :=
    fill.all (· = '=') && group.length = alphabet.group && signs.length = needed && 0 < count
  (bytes.take count, isFine)

/-- The bytes of signs, and whether all groups are proper ones. What follows a wrong group
is left out.
-/
def Alphabet.decode (alphabet : Alphabet) (signs : List Char) : List Char × Bool :=
  let groups := groupsIn alphabet.group (signs.length + 1) signs
  let (shown, isFine) :=
    groups.foldl
      (fun (shown, isFine) group =>
        if isFine then
          let (bytes, isProper) := alphabet.decodeGroup group
          (bytes :: shown, isProper)
        else (shown, false))
      (([] : List (List Char)), true)
  (shown.reverse.flatten, isFine)

/-- Lines of so many signs; nothing is cut where none are wanted. -/
def wrapped (width : Nat) (signs : List Char) : List Char :=
  if width = 0 then signs
  else (groupsIn width (signs.length + 1) signs).flatMap (· ++ [newline])

def encodeWith (name : String) (alphabet? : Option Alphabet) (words : List String)
    : Work Nat := do
  let switches :=
    Switches.of "diD\x01\x02\x03\x04" "w"
      [
        ("decode", 'd'), ("ignore-garbage", 'i'), ("wrap", 'w'), ("base64", '\x01'),
        ("base64url", '\x02'), ("base32", '\x03'), ("base16", '\x04')
      ]
  let arguments ← arguments switches 1 name words
  let chosen? : Option Alphabet :=
    alphabet? <|>
      [
        ('\x01', Alphabet.base64), ('\x02', .base64url), ('\x03', .base32), ('\x04', .base16)
      ].findSome? fun (letter, alphabet) => if arguments.has letter then some alphabet else none
  let alphabet ←
    match chosen? with
    | some alphabet => pure alphabet
    | none => misuse 1 name "missing encoding type"
  match arguments.operands with
  | _ :: extra :: _ => misuse 1 name s!"extra operand {quoted extra}"
  | _ => pure ()
  let width ←
    match arguments.value? 'w' with
    | none => pure 76
    | some text =>
        match natOf? text with
        | some width => pure width
        | none => fail 1 name s!"invalid wrap size: {marked text}"
  let (text, isFine) ← readAll name plainProblem arguments.operands
  if !isFine then return 1
  if arguments.has 'd' then
    let known (c : Char) : Bool := alphabet.signs.contains c || c = '='
    let signs :=
      if arguments.has 'i' then text.filter known else text.filter (· ≠ newline)
    let (bytes, isProper) := alphabet.decode signs
    say bytes
    if !isProper then fail 1 name "invalid input"
    return 0
  else
    say (wrapped width (alphabet.encode text))
    return 0

end MailMerge.Shell.Utility
