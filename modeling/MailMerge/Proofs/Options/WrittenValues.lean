import MailMerge.Options.Arguments

/-! Values of settings as they are written. Each kind of value is written in one way and read back
from it, if it is a path with text in it, or a pair whose column ends where the first equals sign
stands.
-/

namespace MailMerge

open Select

namespace ValueKind

/-- A value as it is written: a count in decimal, and a pair with an equals sign between. -/
def write : (kind : ValueKind) → kind.Value → String
  | text, raw => raw
  | path, raw => raw
  | count, number => toString number
  | pair, (column, value) => column ++ "=" ++ value

/-- A column that is read back where it stands in front of an equals sign. -/
structure IsColumn (column : String) : Prop where
  isFilled : column ≠ ""
  unequal : '=' ∉ column.toList
  trimmed : Text.trim column = column

/-- Values that are read back from what is written. -/
def Writable : (kind : ValueKind) → kind.Value → Prop
  | path, raw => raw ≠ ""
  | pair, (column, _) => IsColumn column
  | text, _ | count, _ => True

end ValueKind

/-- A name without an equals sign ends where the first one stands. -/
theorem takeWhile_append_equals {name : List Char} (unequal : '=' ∉ name) (cs : List Char)
    : (name ++ '=' :: cs).takeWhile (· ≠ '=') = name := by
  have hall : ∀ c ∈ name, decide (c ≠ '=') = true :=
    fun c hc => decide_eq_true fun h => unequal (h ▸ hc)
  rw [List.takeWhile_append_of_pos hall]
  simp

/-- A pair is read back if its column ends where the first equals sign stands. -/
theorem readPair_write {column : String} (isColumn : ValueKind.IsColumn column)
    (value : String)
    : readPair (ValueKind.pair.write (column, value)) = .ok (column, value) := by
  have htext
      : (ValueKind.pair.write (column, value)).toList = column.toList ++ '=' :: value.toList := by
    simp [ValueKind.write]
  unfold readPair
  simp only [htext, takeWhile_append_equals isColumn.unequal, List.drop_left]
  simp [isColumn.trimmed, isColumn.isFilled]

/-- Digits alone are read as the number that they stand for. -/
theorem readCount?_of_digits {text : String} (nonempty : text.toList ≠ [])
    (digits : ∀ c ∈ text.toList, c.isDigit = true)
    (small : Decimal.ofDigits text.toList ≤ maxCount)
    : readCount? text = some (Decimal.ofDigits text.toList).toUInt64 := by
  obtain ⟨c, cs, htext⟩ := List.exists_cons_of_ne_nil nonempty
  rw [htext] at digits small
  have hplus : c ≠ '+' := by
    rintro rfl
    exact absurd (digits '+' List.mem_cons_self) (by decide)
  have hall : (c :: cs).any (!·.isDigit) = false := by simpa using digits
  simp [readCount?, htext, hplus, hall, small]

/-- A count is read back from its decimal digits. -/
theorem readCount?_toString (count : UInt64) : readCount? (toString count) = some count := by
  have htext : (toString count).toList = Nat.toDigits 10 count.toNat := Nat.toList_repr
  have hvalue : Decimal.ofDigits (toString count).toList = count.toNat :=
    htext ▸ Nat.ofDigitChars_ten_toDigits
  have hdigits : ∀ c ∈ (toString count).toList, c.isDigit = true :=
    fun c hc => Nat.isDigit_of_mem_toDigits (by decide) (by decide) (htext ▸ hc)
  have hsmall : Decimal.ofDigits (toString count).toList ≤ maxCount :=
    hvalue ▸ Nat.le_of_lt_succ count.toNat_lt
  rw [readCount?_of_digits (htext ▸ Nat.toDigits_ne_nil) hdigits hsmall, hvalue,
    Nat.toUInt64_eq, UInt64.ofNat_toNat]

/-- What is written is read back, one case for each kind of value. -/
theorem ValueKind.read_write {kind : ValueKind} {value : kind.Value}
    (writable : kind.Writable value)
    : kind.read (kind.write value) = .ok value := by
  cases kind with
  | text => rfl
  | path => exact if_neg writable
  | count => rw [read, write, readCount?_toString, Option.elim_some]
  | pair =>
      obtain ⟨column, value⟩ := value
      rw [read, readPair_write writable]
      rfl

end MailMerge
