/-! UTF-8: the bytes of a text, and texts read back from bytes, either strictly or with a
replacement character for what is no text.
-/

namespace MailMerge

abbrev Bytes := List UInt8

namespace Text

/-- The bytes of a text. -/
def toBytes (text : String) : Bytes :=
  text.toList.flatMap String.utf8EncodeChar

/-- The number of bytes that a first byte announces behind itself, with the bounds of the
byte behind it. Overlong forms, surrogates and numbers past the last code point are
kept out by those bounds.
-/
def announced? (first : UInt8) : Option (Nat × UInt8 × UInt8) :=
  if first < 0x80 then some (0, 0, 0)
  else if 0xC2 ≤ first ∧ first ≤ 0xDF then some (1, 0x80, 0xBF)
  else if first = 0xE0 then some (2, 0xA0, 0xBF)
  else if first = 0xED then some (2, 0x80, 0x9F)
  else if 0xE1 ≤ first ∧ first ≤ 0xEF then some (2, 0x80, 0xBF)
  else if first = 0xF0 then some (3, 0x90, 0xBF)
  else if first = 0xF4 then some (3, 0x80, 0x8F)
  else if 0xF1 ≤ first ∧ first ≤ 0xF3 then some (3, 0x80, 0xBF)
  else none

/-- The longest run of bytes, at most as many as announced, that can stand behind a first
byte.
-/
def trailing (count : Nat) (low high : UInt8) : Bytes → Bytes
  | [] => []
  | byte :: bytes =>
      match count with
      | 0 => []
      | count + 1 =>
          if low ≤ byte && byte ≤ high then byte :: trailing count 0x80 0xBF bytes else []

/-- The code point of a first byte and the bytes behind it. -/
def codePoint (first : UInt8) (behind : Bytes) : Nat :=
  let payload :=
    match behind.length with
    | 0 => first.toNat
    | 1 => first.toNat % 0x20
    | 2 => first.toNat % 0x10
    | _ => first.toNat % 0x08
  behind.foldl (fun value byte => value * 0x40 + byte.toNat % 0x40) payload

/-- The character at the head of some bytes, none if no character stands there, and the
number of bytes behind the first that belong to it.
-/
def decodeHead (first : UInt8) (bytes : Bytes) : Option Char × Nat :=
  match announced? first with
  | none => (none, 0)
  | some (count, low, high) =>
      let behind := trailing count low high bytes
      if behind.length = count then (some (Char.ofNat (codePoint first behind)), count)
      else (none, behind.length)

/-- Reads bytes character by character; none stands for bytes that are no character. -/
def decodeAll : Bytes → List (Option Char)
  | [] => []
  | first :: bytes =>
      let (char, used) := decodeHead first bytes
      char :: decodeAll (bytes.drop used)
termination_by bytes => bytes.length
decreasing_by
  simp only [List.length_drop, List.length_cons]
  omega

/-- The text that some bytes encode, if they encode one. -/
def ofBytes? (bytes : Bytes) : Option String :=
  ((decodeAll bytes).mapM id).map String.ofList

/-- The text that some bytes encode, with a replacement character for every run of bytes
that is the start of no character.
-/
def ofBytesLossy (bytes : Bytes) : String :=
  String.ofList ((decodeAll bytes).map (·.getD '\uFFFD'))

end Text

end MailMerge
