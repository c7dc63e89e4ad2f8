import MailMerge.Proofs.Template.FaultPlace
import MailMerge.Text.Utf8

/-! Texts addressed by byte positions, with a check at every step that could go wrong. A text is
cut at positions on its characters only, a byte is read inside of the text only, and numbers
neither sink below zero nor grow beyond a limit. Whatever fails a check ends in a trap.
-/

namespace MailMerge.Template

open MailMerge.Text

/-- What must not happen on the way through a text. -/
inductive Trap where
  /-- A cut from behind where it ends, or beyond the end of the text. -/
  | outside
  /-- A cut inside of a character. -/
  | insideCharacter
  /-- A byte behind the last one. -/
  | noByte
  /-- A number above the limit. -/
  | overflow
  /-- A number below zero. -/
  | underflow
  /-- A turn of a loop that does not move on. -/
  | standstill
  /-- A piece of text that is not shorter than the text that it is a piece of. -/
  | notShorter
  deriving DecidableEq, Repr

/-- What ends a checked reading early: a trap, or a fault of the text itself. -/
inductive Halt where
  | trap (cause : Trap)
  | fault (error : MarkupError)
  deriving DecidableEq, Repr

abbrev Checked := Except Halt

namespace Checked

def trap {α : Type} (cause : Trap) : Checked α :=
  .error (.trap cause)

-----------------------------------------------------------------------------------------
-- Checked steps
-----------------------------------------------------------------------------------------

/-- The sum of two numbers. -/
def sum (limit first second : Nat) : Checked Nat :=
  if first + second ≤ limit then .ok (first + second) else trap .overflow

/-- One less than a number. -/
def lowered : Nat → Checked Nat
  | 0 => trap .underflow
  | count + 1 => .ok count

/-- The position some bytes further on. -/
def advance (limit position count : Nat) : Checked { next : Nat // position < next } :=
  if moves : 0 < count then
    if position + count ≤ limit then
      .ok ⟨position + count, Nat.lt_add_of_pos_right moves⟩
    else trap .overflow
  else trap .standstill

def byte? (text : String) (position : Nat) : Option UInt8 :=
  (toBytes text)[position]?

def byte (text : String) (position : Nat) : Checked UInt8 :=
  (byte? text position).elim (trap .noByte) .ok

/-- The part of a text between two byte positions. -/
def slice (text : String) (start stop : Nat) : Checked String :=
  if start ≤ stop ∧ stop ≤ text.utf8ByteSize then
    if valid
        : String.Pos.Raw.IsValid text ⟨start⟩ ∧ String.Pos.Raw.IsValid text ⟨stop⟩ then
      .ok (text.extract ⟨⟨start⟩, valid.1⟩ ⟨⟨stop⟩, valid.2⟩)
    else trap .insideCharacter
  else trap .outside

/-- The part of a text behind a byte position. -/
def sliceFrom (text : String) (start : Nat) : Checked String :=
  slice text start text.utf8ByteSize

@[simp]
theorem ok_bind {α β : Type} (a : α) (f : α → Checked β)
    : ((Except.ok a : Checked α) >>= f) = f a :=
  rfl

theorem sum_eq {limit first second : Nat} (fits : first + second ≤ limit)
    : sum limit first second = .ok (first + second) :=
  if_pos fits

theorem advance_eq {limit position count : Nat} (moves : 0 < count)
    (fits : position + count ≤ limit)
    : advance limit position count
      = .ok ⟨position + count, Nat.lt_add_of_pos_right moves⟩ := by
  rw [advance, dif_pos moves, if_pos fits]

-----------------------------------------------------------------------------------------
-- Slices
-----------------------------------------------------------------------------------------

variable (front middle back : List Char)

/-- Positions between characters are valid. -/
theorem isValid_width (front back : List Char)
    : String.Pos.Raw.IsValid (String.ofList (front ++ back)) ⟨width front⟩ := by
  refine String.Pos.Raw.isValid_iff_exists_append.mpr
    ⟨String.ofList front, String.ofList back, String.ofList_append, ?_⟩
  exact String.Pos.Raw.ext (utf8ByteSize_ofList front).symm

/-- A text is cut between the characters that stand at two positions. -/
theorem slice_ofList
    : slice (String.ofList (front ++ (middle ++ back))) (width front)
          (width front + width middle)
      = .ok (String.ofList middle) := by
  have hstop
      : String.Pos.Raw.IsValid (String.ofList (front ++ (middle ++ back)))
          ⟨width front + width middle⟩ := by
    rw [← List.append_assoc, ← width_append]
    exact isValid_width _ _
  rw [slice, if_pos, dif_pos ⟨isValid_width _ _, hstop⟩]
  · refine congrArg _ (String.toByteArray_inj.mp ?_)
    have hsize (cs : List Char) : width cs = (String.ofList cs).toByteArray.size :=
      (utf8ByteSize_ofList cs).symm
    rw [String.toByteArray_extract]
    change (String.ofList (front ++ (middle ++ back))).toByteArray.extract (width front + 0)
        (width front + width middle)
      = (String.ofList middle).toByteArray
    rw [String.ofList_append, String.ofList_append, String.toByteArray_append,
      String.toByteArray_append, ByteArray.extract_append_size_add' (hsize front),
      ByteArray.extract_append_eq_left (hsize middle)]
  · simp only [utf8ByteSize_ofList, width_append]
    omega

theorem sliceFrom_ofList
    : sliceFrom (String.ofList (front ++ back)) (width front) = .ok (String.ofList back) := by
  have h := slice_ofList front back []
  rwa [List.append_nil, ← width_append, ← utf8ByteSize_ofList (front ++ back)] at h

theorem slice_start_ofList
    : slice (String.ofList (middle ++ back)) 0 (width middle) = .ok (String.ofList middle) := by
  have h := slice_ofList [] middle back
  rwa [List.nil_append, width_nil, Nat.zero_add] at h

/-- There is no cut between the two bytes of a letter. -/
example : Outcome.error? (slice "dé" 0 2) = some (.trap .insideCharacter) := by decide +kernel

-----------------------------------------------------------------------------------------
-- Bytes
-----------------------------------------------------------------------------------------

theorem length_flatMap_utf8EncodeChar (cs : List Char)
    : (cs.flatMap String.utf8EncodeChar).length = width cs := by
  induction cs with
  | nil => rfl
  | cons c cs ih => rw [List.flatMap_cons, List.length_append, ih, width_cons,
      String.length_utf8EncodeChar]

/-- The bytes of a character stand at its position, one behind the other. -/
theorem byte?_ofList (front back : List Char) (c : Char) {count : Nat}
    (inside : count < c.utf8Size)
    : byte? (String.ofList (front ++ c :: back)) (width front + count)
      = (String.utf8EncodeChar c)[count]? := by
  rw [byte?, toBytes, String.toList_ofList, List.flatMap_append, List.flatMap_cons,
    ← length_flatMap_utf8EncodeChar front, List.getElem?_append_right (Nat.le_add_right _ _),
    Nat.add_sub_cancel_left,
    List.getElem?_append_left (by rwa [String.length_utf8EncodeChar])]

/-- There is no byte at the end of a text. -/
theorem byte?_ofList_end (cs : List Char) : byte? (String.ofList cs) (width cs) = none := by
  rw [byte?, toBytes, String.toList_ofList, ← length_flatMap_utf8EncodeChar]
  exact List.getElem?_eq_none (Nat.le_refl _)

/-- The bytes of a large character are large. -/
theorem le_of_mem_utf8EncodeChar {c : Char} (large : 127 < c.val) {byte : UInt8}
    (member : byte ∈ String.utf8EncodeChar c)
    : 128 ≤ byte.toNat := by
  have hlarge : ¬ c.val.toNat ≤ 127 := Nat.not_le.mpr (UInt32.lt_iff_toNat_lt.mp large)
  simp only [String.utf8EncodeChar, if_neg hlarge] at member
  split at member
  · simp only [List.mem_cons, List.not_mem_nil, or_false] at member
    rcases member with rfl | rfl <;> simp <;> omega
  · split at member
    · simp only [List.mem_cons, List.not_mem_nil, or_false] at member
      rcases member with rfl | rfl | rfl <;> simp <;> omega
    · simp only [List.mem_cons, List.not_mem_nil, or_false] at member
      rcases member with rfl | rfl | rfl | rfl <;> simp <;> omega

theorem utf8EncodeChar_of_small {c : Char} (small : c.val ≤ 127)
    : String.utf8EncodeChar c = [c.toUInt8] :=
  String.utf8EncodeChar_eq_singleton (Char.utf8Size_eq_one_iff.mpr small)

theorem toNat_toUInt8 {c : Char} (small : c.val ≤ 127) : c.toUInt8.toNat = c.val.toNat := by
  have hsmall : c.val.toNat ≤ 127 := UInt32.le_iff_toNat_le.mp small
  rw [Char.toUInt8, UInt32.toNat_toUInt8]
  omega

/-- A small character is one byte, and that byte is no part of any other character. -/
theorem getElem?_utf8EncodeChar_eq_iff {a c : Char} (small : a.val ≤ 127) {count : Nat}
    : (String.utf8EncodeChar c)[count]? = some a.toUInt8 ↔ count = 0 ∧ c = a := by
  constructor
  · intro h
    by_cases hc : c.val ≤ 127
    · rw [utf8EncodeChar_of_small hc, List.getElem?_singleton] at h
      split at h
      · rename_i hcount
        have hbyte := congrArg UInt8.toNat (Option.some.inj h)
        rw [toNat_toUInt8 hc, toNat_toUInt8 small] at hbyte
        exact ⟨hcount, Char.ext (UInt32.toNat_inj.mp hbyte)⟩
      · cases h
    · have hlarge := le_of_mem_utf8EncodeChar (UInt32.not_le.mp hc) (List.mem_of_getElem? h)
      have hsmall : a.val.toNat ≤ 127 := UInt32.le_iff_toNat_le.mp small
      rw [toNat_toUInt8 small] at hlarge
      omega
  · rintro ⟨rfl, rfl⟩
    rw [utf8EncodeChar_of_small small]
    rfl

/-- A small character is found at a position by its byte. -/
theorem byte?_eq_some_iff {a : Char} (small : a.val ≤ 127) (front back : List Char)
    : byte? (String.ofList (front ++ back)) (width front) = some a.toUInt8
      ↔ back.head? = some a := by
  cases back with
  | nil => simp [byte?_ofList_end]
  | cons c back =>
      have h := byte?_ofList front back c (Char.utf8Size_pos c)
      rw [Nat.add_zero] at h
      rw [h, getElem?_utf8EncodeChar_eq_iff small]
      simp

/-- The byte behind a character of one byte. -/
theorem byte?_behind_iff {c a : Char} (hc : c.val ≤ 127) (ha : a.val ≤ 127)
    (front back : List Char)
    : byte? (String.ofList (front ++ c :: back)) (width front + 1) = some a.toUInt8
      ↔ back.head? = some a := by
  have h := byte?_eq_some_iff ha (front ++ [c]) back
  rwa [width_append, width_cons, width_nil, Char.utf8Size_eq_one_iff.mpr hc,
    List.append_assoc] at h

/-- The bytes of a character stand inside of the text. -/
theorem inside_ofList (front back : List Char) (c : Char) {count : Nat}
    (inside : count < c.utf8Size)
    : width front + count < (String.ofList (front ++ c :: back)).utf8ByteSize := by
  rw [utf8ByteSize_ofList, width_append, width_cons]
  omega

theorem starts_ofList (front back : List Char) (c : Char)
    : width front < (String.ofList (front ++ c :: back)).utf8ByteSize :=
  inside_ofList front back c (Char.utf8Size_pos c)

/-- The first byte of a character tells whether it is some small one. -/
theorem exists_byte_eq (front back : List Char) (c : Char)
    : ∃ found,
        byte (String.ofList (front ++ c :: back)) (width front) = .ok found
        ∧ ∀ a : Char, a.val ≤ 127 → (found = a.toUInt8 ↔ c = a) := by
  have hfirst : 0 < (String.utf8EncodeChar c).length := by
    rw [String.length_utf8EncodeChar]
    exact Char.utf8Size_pos c
  have hbyte := byte?_ofList front back c (Char.utf8Size_pos c)
  rw [Nat.add_zero, List.getElem?_eq_getElem hfirst] at hbyte
  refine ⟨(String.utf8EncodeChar c)[0], ?_, fun a small => ?_⟩
  · rw [byte, hbyte]
    rfl
  · rw [← Option.some_inj, ← List.getElem?_eq_getElem hfirst,
      getElem?_utf8EncodeChar_eq_iff small, eq_self, true_and]

/-- A byte of a character behind the first one is that of no small character. -/
theorem exists_byte_ne (front back : List Char) (c : Char) {count : Nat} (behind : 0 < count)
    (inside : count < c.utf8Size)
    : ∃ found,
        byte (String.ofList (front ++ c :: back)) (width front + count) = .ok found
        ∧ ∀ a : Char, a.val ≤ 127 → found ≠ a.toUInt8 := by
  have hinside : count < (String.utf8EncodeChar c).length := by
    rwa [String.length_utf8EncodeChar]
  refine ⟨(String.utf8EncodeChar c)[count], ?_, fun a small hfound => ?_⟩
  · rw [byte, byte?_ofList front back c inside, List.getElem?_eq_getElem hinside]
    rfl
  · rw [← Option.some_inj, ← List.getElem?_eq_getElem hinside,
      getElem?_utf8EncodeChar_eq_iff small] at hfound
    exact Nat.ne_of_gt behind hfound.1

/-- What stays the same at every byte of a character behind the first one is the same behind
the character, by induction on the bytes.
-/
theorem eq_behind {α : Type} {f : Nat → α} {c : Char}
    (steps : ∀ count, 0 < count → count < c.utf8Size → f count = f (count + 1))
    : f 1 = f c.utf8Size := by
  have h (extra : Nat) (inside : extra + 1 ≤ c.utf8Size) : f 1 = f (extra + 1) := by
    induction extra with
    | zero => rfl
    | succ extra ih => exact (ih (by omega)).trans (steps _ extra.succ_pos inside)
  have hlast : c.utf8Size - 1 + 1 = c.utf8Size := Nat.sub_add_cancel (Char.utf8Size_pos c)
  exact hlast ▸ h (c.utf8Size - 1) (Nat.le_of_eq hlast)

end Checked

end MailMerge.Template
