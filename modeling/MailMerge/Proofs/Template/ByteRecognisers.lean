import MailMerge.Proofs.Template.ByteReader

/-! What the recognisers that work on bytes find, compared with those that work on characters.
A name and the marks around it are written in one byte a character, and no byte of any other
character looks like one of theirs, so that the two find the same at the same place.
-/

namespace MailMerge.Template.ByteReader

open MailMerge.Text
open Checked

-----------------------------------------------------------------------------------------
-- Names
-----------------------------------------------------------------------------------------

theorem exists_ofNat_of_small {c : Char} (small : c.val ≤ 127)
    : ∃ n : Fin 128, c = Char.ofNat n :=
  ⟨⟨c.toNat, Nat.lt_succ_of_le (UInt32.le_iff_toNat_le.mp small)⟩,
    (Char.ofNat_toNat c).symm⟩

theorem isNameByte_toUInt8 {c : Char} (small : c.val ≤ 127)
    : isNameByte c.toUInt8 = isNameChar c := by
  obtain ⟨n, rfl⟩ := exists_ofNat_of_small small
  revert n
  decide

theorem isBlankByte_toUInt8 {c : Char} (small : c.val ≤ 127)
    : isBlankByte c.toUInt8 = isMarkupBlank c := by
  obtain ⟨n, rfl⟩ := exists_ofNat_of_small small
  revert n
  decide

/-- A byte of a large character is neither part of a name nor blank. -/
theorem isNameByte_and_isBlankByte_of_large {byte : UInt8} (large : 128 ≤ byte.toNat)
    : isNameByte byte = false ∧ isBlankByte byte = false := by
  obtain ⟨n, rfl⟩ : ∃ n : Fin 256, byte = UInt8.ofNat n :=
    ⟨⟨byte.toNat, byte.toNat_lt⟩, UInt8.ofNat_toNat.symm⟩
  revert n
  decide +kernel

theorem val_le_of_isMarkupBlank {c : Char} (h : isMarkupBlank c = true) : c.val ≤ 127 := by
  simp only [isMarkupBlank, Bool.or_eq_true, decide_eq_true_eq] at h
  rcases h with (((rfl | rfl) | rfl) | rfl) | rfl <;> decide

/-- A name has as many bytes as characters, by induction on the text. -/
theorem nameLength_ofList (cs : List Char)
    : nameLength (String.ofList cs) = (cs.takeWhile isNameChar).length := by
  rw [nameLength, toBytes, String.toList_ofList]
  induction cs with
  | nil => rfl
  | cons c cs ih =>
      rw [List.flatMap_cons, List.takeWhile_cons]
      by_cases small : c.val ≤ 127
      · rw [utf8EncodeChar_of_small small, List.singleton_append, List.takeWhile_cons,
          isNameByte_toUInt8 small]
        split
        · rw [List.length_cons, List.length_cons, ih]
        · rfl
      · have hname : isNameChar c = false :=
          Bool.eq_false_iff.mpr fun h => small (val_le_of_isNameChar h)
        rw [hname]
        -- The first byte of a large character ends the name.
        cases hbytes : String.utf8EncodeChar c with
        | nil => exact (String.utf8EncodeChar_ne_nil hbytes).elim
        | cons byte bytes =>
            have large : 128 ≤ byte.toNat :=
              le_of_mem_utf8EncodeChar (UInt32.not_le.mp small) (by simp [hbytes])
            rw [List.cons_append, List.takeWhile_cons,
              (isNameByte_and_isBlankByte_of_large large).1]
            rfl

/-- The byte at a position is blank where the character at it is. -/
theorem any_isBlankByte_byte? (front back : List Char)
    : (byte? (String.ofList (front ++ back)) (width front)).any isBlankByte
      = back.head?.any isMarkupBlank := by
  cases back with
  | nil =>
      rw [List.append_nil, byte?_ofList_end]
      rfl
  | cons c back =>
      have h := byte?_ofList front back c (Char.utf8Size_pos c)
      rw [Nat.add_zero] at h
      rw [h, List.head?_cons, Option.any_some]
      by_cases small : c.val ≤ 127
      · rw [utf8EncodeChar_of_small small, List.getElem?_cons_zero, Option.any_some,
          isBlankByte_toUInt8 small]
      · have hblank : isMarkupBlank c = false :=
          Bool.eq_false_iff.mpr fun h => small (val_le_of_isMarkupBlank h)
        rw [hblank, Option.any_eq_false]
        intro byte hbyte
        have large : 128 ≤ byte.toNat :=
          le_of_mem_utf8EncodeChar (UInt32.not_le.mp small) (List.mem_of_getElem? hbyte)
        simp [(isNameByte_and_isBlankByte_of_large large).2]

-----------------------------------------------------------------------------------------
-- References and openings
-----------------------------------------------------------------------------------------

/-- The width of a name with two characters of one byte in front of it. -/
theorem width_opened {opening sign : Char} (hopening : opening.val ≤ 127)
    (hsign : sign.val ≤ 127) {name : List Char} (named : ∀ c ∈ name, isNameChar c = true)
    : width (opening :: sign :: name) = 2 + name.length := by
  rw [width_cons, width_cons, width_name named, Char.utf8Size_eq_one_iff.mpr hopening,
    Char.utf8Size_eq_one_iff.mpr hsign]
  omega

section

variable {opening sign : Char} (hopening : opening.val ≤ 127) (hsign : sign.val ≤ 127)
include hopening hsign

theorem sliceFrom_opened (cs : List Char)
    : sliceFrom (String.ofList (opening :: sign :: cs)) 2 = .ok (String.ofList cs) := by
  have h := sliceFrom_ofList [opening, sign] cs
  rwa [width_opened hopening hsign (by simp)] at h

theorem slice_opened {name : List Char} (named : ∀ c ∈ name, isNameChar c = true)
    (after : List Char)
    : slice (String.ofList (opening :: sign :: (name ++ after))) 2 (2 + name.length)
      = .ok (String.ofList name) := by
  have h := slice_ofList [opening, sign] name after
  rwa [width_opened hopening hsign (by simp), width_name named] at h

end

theorem reference?_dollar (closing : Char) (cs : List Char)
    : Template.reference? closing ('$' :: cs)
      = if cs.takeWhile isNameChar ≠ []
            ∧ (cs.dropWhile isNameChar).head? = some closing then
          some (cs.takeWhile isNameChar, (cs.dropWhile isNameChar).tail)
        else none := by
  rw [Template.reference?]
  cases cs.takeWhile isNameChar with
  | nil => simp
  | cons letter name => cases cs.dropWhile isNameChar <;> simp

theorem reference?_ne_dollar (closing : Char) {cs : List Char} (h : cs.head? ≠ some '$')
    : Template.reference? closing cs = none :=
  Option.eq_none_iff_forall_ne_some.mpr fun found hfound =>
    h (by simp [eq_of_reference? hfound])

variable {limit : Nat}

theorem reference?_ofList {opening closing : Char} (hopening : opening.val ≤ 127)
    (hclosing : closing.val ≤ 127) (cs : List Char) (fits : width (opening :: cs) ≤ limit)
    : reference? limit opening closing (String.ofList (opening :: cs))
      = .ok ((Template.reference? closing cs).map fun (name, _) =>
          (.value (String.ofList name), name.length + 3)) := by
  have hfirst : byte? (String.ofList (opening :: cs)) 0 = some opening.toUInt8 :=
    (byte?_eq_some_iff hopening [] _).mpr rfl
  have hsecond
      : byte? (String.ofList (opening :: cs)) 1 = some '$'.toUInt8 ↔ cs.head? = some '$' :=
    byte?_behind_iff hopening (by decide) [] cs
  rw [reference?]
  by_cases hsign : cs.head? = some '$'
  · obtain ⟨cs, rfl⟩ := List.head?_eq_some_iff.mp hsign
    rw [if_pos ⟨hfirst, hsecond.mpr hsign⟩, sliceFrom_opened hopening (by decide), ok_bind,
      nameLength_ofList, reference?_dollar]
    have named (c : Char) (member : c ∈ cs.takeWhile isNameChar) : isNameChar c = true :=
      mem_takeWhile_name member
    have hsplit : cs.takeWhile isNameChar ++ cs.dropWhile isNameChar = cs :=
      List.takeWhile_append_dropWhile
    generalize cs.takeWhile isNameChar = name at *
    generalize cs.dropWhile isNameChar = rest at *
    subst hsplit
    have hwidth : width (opening :: '$' :: name) = 2 + name.length :=
      width_opened hopening (by decide) named
    have htext : opening :: '$' :: (name ++ rest) = (opening :: '$' :: name) ++ rest := rfl
    rw [htext, width_append, hwidth] at fits
    have hstop := byte?_eq_some_iff hclosing (opening :: '$' :: name) rest
    rw [← htext, hwidth] at hstop
    dsimp only
    by_cases hname : name = []
    · rw [if_pos (by simp [hname]), if_neg fun both => both.1 hname]
      rfl
    · rw [if_neg (by simpa using hname), sum_eq (by omega), ok_bind]
      by_cases hend : rest.head? = some closing
      · obtain ⟨rest, rfl⟩ := List.head?_eq_some_iff.mp hend
        have hsum : name.length + 3 ≤ limit := by
          rw [width_cons, Char.utf8Size_eq_one_iff.mpr hclosing] at fits
          omega
        rw [if_pos (hstop.mpr hend), if_pos ⟨hname, hend⟩,
          slice_opened hopening (by decide) named, ok_bind, sum_eq hsum]
        rfl
      · rw [if_neg fun h => hend (hstop.mp h), if_neg fun both => hend both.2]
        rfl
  · rw [if_neg fun both => hsign (hsecond.mp both.2), reference?_ne_dollar closing hsign]
    rfl

theorem opening?_ofList {c : Char} (small : c.val ≤ 127) (cs : List Char)
    : opening? (String.ofList (c :: cs))
      = .ok ((Template.opening? cs).map (·.1.length)) := by
  have hsecond
      : byte? (String.ofList (c :: cs)) 1 = some '?'.toUInt8 ↔ cs.head? = some '?' :=
    byte?_behind_iff small (by decide) [] cs
  rw [opening?]
  by_cases hsign : cs.head? = some '?'
  · obtain ⟨cs, rfl⟩ := List.head?_eq_some_iff.mp hsign
    rw [if_pos (hsecond.mpr hsign), sliceFrom_opened small (by decide), ok_bind,
      nameLength_ofList, Template.opening?]
    by_cases hname : cs.takeWhile isNameChar = []
    · rw [if_neg (by simp [hname]), if_neg fun both => both.2 hname]
      rfl
    · rw [if_pos (List.length_pos_iff.mpr hname), if_pos ⟨rfl, hname⟩]
      rfl
  · have hnone : Template.opening? cs = none :=
      Option.eq_none_iff_forall_ne_some.mpr fun found hfound =>
        hsign (by simp [(eq_of_opening? hfound).1])
    rw [if_neg fun h => hsign (hsecond.mp h), hnone]
    rfl

-----------------------------------------------------------------------------------------
-- The end of a body
-----------------------------------------------------------------------------------------

/-- What a turn of the search comes to at a character. -/
def Turn.ofChar (depth : Nat) (split : Option Nat) (position : Nat) (c : Char)
    (cs : List Char)
    : Turn :=
  if c = '{' then
    match Template.reference? '}' cs with
    | some (name, _) => goOn depth split (name.length + 3)
    | none => goOn (if (Template.opening? cs).isSome then depth + 1 else depth) split 1
  else if c = '}' then
    match depth with
    | 0 => found { close := position, split }
    | outer + 1 => goOn outer split 1
  else if c = '!' ∧ depth = 0 ∧ split.isSome = false ∧ cs.head? = some '!' then
    goOn depth (some position) 2
  else
    goOn depth split 1

variable {depth : Nat} {split : Option Nat} {front cs : List Char} {c : Char}

theorem turn_ofList (fits : width (front ++ c :: cs) ≤ limit) (hdepth : depth ≤ width front)
    : turn limit (String.ofList (front ++ c :: cs)) depth split (width front)
      = .ok (Turn.ofChar depth split (width front) c cs) := by
  obtain ⟨found, hbyte, hfound⟩ := exists_byte_eq front cs c
  have hpos := Char.utf8Size_pos c
  rw [width_append, width_cons] at fits
  rw [turn, hbyte, ok_bind, Turn.ofChar.eq_def]
  simp only [hfound '{' (by decide), hfound '}' (by decide), hfound '!' (by decide)]
  split
  · rename_i hc
    subst hc
    have hrest : width ('{' :: cs) ≤ limit := by
      rw [width_cons]
      omega
    rw [sliceFrom_ofList, ok_bind, reference?_ofList (by decide) (by decide) cs hrest,
      ok_bind]
    cases Template.reference? '}' cs with
    | some found => rfl
    | none =>
        rw [Option.map_none]
        dsimp only
        rw [opening?_ofList (by decide), ok_bind]
        cases Template.opening? cs with
        | none => rfl
        | some opened =>
            dsimp only [Option.map_some]
            rw [sum_eq (by omega)]
            rfl
  · split
    · cases depth <;> rfl
    · simp only [Option.isSome_eq_false_iff, Option.isNone_iff_eq_none, ← and_assoc]
      split
      · rename_i hmark
        obtain ⟨⟨rfl, hdepth⟩, hsplit⟩ := hmark
        have hbehind := byte?_behind_iff (c := '!') (a := '!') (by decide) (by decide) front cs
        rw [sum_eq (by omega), ok_bind]
        by_cases hhead : cs.head? = some '!'
        · rw [if_pos (hbehind.mpr hhead), if_pos ⟨⟨⟨rfl, hdepth⟩, hsplit⟩, hhead⟩]
          rfl
        · rw [if_neg fun h => hhead (hbehind.mp h), if_neg fun both => hhead both.2]
          rfl
      · rename_i hmark
        rw [if_neg fun both => hmark both.1]
        rfl

/-- Inside of a character, a turn goes on by one byte. -/
theorem turn_inside {count : Nat} (behind : 0 < count) (inside : count < c.utf8Size)
    : turn limit (String.ofList (front ++ c :: cs)) depth split (width front + count)
      = .ok (.goOn depth split 1) := by
  obtain ⟨found, hbyte, hne⟩ := exists_byte_ne front cs c behind inside
  rw [turn, hbyte, ok_bind, if_neg (hne '{' (by decide)), if_neg (hne '}' (by decide)),
    if_neg fun both => hne '!' (by decide) both.1]
  rfl

theorem boundsFrom_goOn {body : String} {position later count : Nat} {split' : Option Nat}
    (inside : position < body.utf8ByteSize)
    (h : turn limit body depth split position = .ok (.goOn later split' count))
    (hpos : 0 < count) (fits : position + count ≤ limit)
    : boundsFrom limit body depth split position
      = boundsFrom limit body later split' (position + count) := by
  rw [boundsFrom, if_pos inside, h, ok_bind]
  dsimp only
  rw [advance_eq hpos fits, ok_bind]

/-- The search passes over the bytes of a character behind its first one. -/
theorem boundsFrom_behind (fits : width (front ++ c :: cs) ≤ limit)
    : boundsFrom limit (String.ofList (front ++ c :: cs)) depth split (width front + 1)
      = boundsFrom limit (String.ofList (front ++ c :: cs)) depth split
          (width front + c.utf8Size) := by
  rw [width_append, width_cons] at fits
  exact eq_behind (c := c)
    (f := fun count =>
      boundsFrom limit (String.ofList (front ++ c :: cs)) depth split (width front + count))
    fun count hpos inside =>
      boundsFrom_goOn (inside_ofList front cs c inside) (turn_inside hpos inside) Nat.one_pos
        (by omega)

/-- The search goes on behind a mark that it takes as a whole. -/
theorem boundsFrom_mark {later : Nat} {split' : Option Nat} {mark rest : List Char}
    (hmark : mark ++ rest = c :: cs) (hpos : 0 < width mark)
    (h : Turn.ofChar depth split (width front) c cs = .goOn later split' (width mark))
    (fits : width (front ++ c :: cs) ≤ limit) (hdepth : depth ≤ width front)
    : boundsFrom limit (String.ofList (front ++ c :: cs)) depth split (width front)
      = boundsFrom limit (String.ofList (front ++ mark ++ rest)) later split'
          (width (front ++ mark)) := by
  have hturn := (turn_ofList fits hdepth).trans (congrArg _ h)
  have hnext : width front + width mark ≤ limit := by
    rw [← hmark, width_append, width_append] at fits
    omega
  rw [boundsFrom_goOn (starts_ofList front cs c) hturn hpos hnext,
    width_append, List.append_assoc, hmark]

/-- The search goes on behind a character. -/
theorem boundsFrom_char {later : Nat} {split' : Option Nat}
    (h : Turn.ofChar depth split (width front) c cs = .goOn later split' 1)
    (fits : width (front ++ c :: cs) ≤ limit) (hdepth : depth ≤ width front)
    : boundsFrom limit (String.ofList (front ++ c :: cs)) depth split (width front)
      = boundsFrom limit (String.ofList (front ++ [c] ++ cs)) later split'
          (width (front ++ [c])) := by
  have hpos := Char.utf8Size_pos c
  have hturn := (turn_ofList fits hdepth).trans (congrArg _ h)
  have hnext : width front + 1 ≤ limit := by
    rw [width_append, width_cons] at fits
    omega
  rw [boundsFrom_goOn (starts_ofList front cs c) hturn Nat.one_pos hnext,
    boundsFrom_behind fits, width_append, width_cons, width_nil, List.append_assoc]
  rfl

namespace Bounds

/-- The bounds of a body that is cut from a text at a position, behind a separator or not. -/
def ofBody (position : Nat) (split : Option Nat) (body : Body) : Bounds where
  close := position + width body.inner
  split := split.or (body.otherwise.map fun _ => position + width body.shown)

theorem ofBody_keep (position : Nat) (split : Option Nat) (text : List Char) (body : Body)
    : ofBody position split (body.keep text) = ofBody (position + width text) split body := by
  simp only [ofBody, Body.inner_keep, width_append, Nat.add_assoc]
  simp only [Body.keep, width_append]

theorem ofBody_divide (position : Nat) {body : Body} (single : body.otherwise = none)
    : ofBody position none body.divide = ofBody (position + 2) (some position) body := by
  have hmark : width ['!', '!'] = 2 := rfl
  have hclose : position + width body.divide.inner = position + 2 + width body.inner := by
    simp only [Body.inner, Body.divide, single, Option.elim_some, Option.elim_none,
      List.nil_append, List.append_nil, width_append, hmark, Nat.add_assoc]
  rw [ofBody, ofBody, hclose, single]
  rfl

theorem map_ofBody_keep (position : Nat) (split : Option Nat) (text : List Char)
    (body : Option Body)
    : (body.map (Body.keep text)).map (ofBody position split)
      = body.map (ofBody (position + width text) split) := by
  rw [Option.map_map]
  exact Option.map_congr fun body _ => ofBody_keep position split text body

end Bounds

/-- The search finds the bounds of the body that is cut from the text, by the recursion of the
cut. The depth never exceeds the number of bytes that were passed.
-/
theorem boundsFrom_ofList (cs front : List Char) (split : Option Nat)
    (fits : width (front ++ cs) ≤ limit) (hdepth : depth ≤ width front)
    : boundsFrom limit (String.ofList (front ++ cs)) depth split (width front)
      = .ok ((Body.cut? depth split.isSome cs).map (Bounds.ofBody (width front) split)) := by
  generalize hdivided : split.isSome = divided
  fun_induction Body.cut? depth divided cs generalizing front split with
  | case1 =>
      rw [boundsFrom, List.append_nil, utf8ByteSize_ofList, if_neg (Nat.lt_irrefl _)]
      rfl
  | case2 depth divided cs name rest href ih =>
      obtain ⟨named, hcs⟩ := (reference?_eq_some_iff (by decide)).mp href
      have hwidth : width ('{' :: '$' :: name ++ ['}']) = name.length + 3 := by
        simpa using width_value named []
      have hmark : '{' :: '$' :: name ++ ['}'] ++ rest = '{' :: cs := by simp [hcs]
      have hturn : Turn.ofChar depth split (width front) '{' cs
          = .goOn depth split (width ('{' :: '$' :: name ++ ['}'])) := by
        rw [hwidth, Turn.ofChar.eq_def, if_pos rfl, href]
      rw [boundsFrom_mark hmark (by omega) hturn fits hdepth, Bounds.map_ofBody_keep,
        ← width_append]
      rw [← hmark, ← List.append_assoc] at fits
      exact ih _ _ fits (by rw [width_append]; omega) hdivided
  | case3 depth divided cs href ih =>
      have hturn : Turn.ofChar depth split (width front) '{' cs
          = .goOn (if (Template.opening? cs).isSome then depth + 1 else depth) split 1 := by
        rw [Turn.ofChar.eq_def, if_pos rfl, href]
      have hlater : (if (Template.opening? cs).isSome then depth + 1 else depth)
          ≤ width (front ++ ['{']) := by
        have hbrace : '{'.utf8Size = 1 := rfl
        rw [width_append, width_cons, hbrace]
        split <;> omega
      rw [boundsFrom_char hturn fits hdepth, Bounds.map_ofBody_keep, ← width_append]
      exact ih _ _ (by simpa using fits) hlater hdivided
  | case4 divided cs hopen =>
      have hturn : Turn.ofChar 0 split (width front) '}' cs
          = .found { close := width front, split } := by
        rw [Turn.ofChar.eq_def, if_neg hopen, if_pos rfl]
      rw [boundsFrom, if_pos (starts_ofList front cs '}'), turn_ofList fits hdepth, ok_bind, hturn]
      simp [Bounds.ofBody, Body.inner, pure, Except.pure]
  | case5 divided cs outer hopen ih =>
      have hturn : Turn.ofChar (outer + 1) split (width front) '}' cs
          = .goOn outer split 1 := by
        rw [Turn.ofChar.eq_def, if_neg hopen, if_pos rfl]
      rw [boundsFrom_char hturn fits hdepth, Bounds.map_ofBody_keep, ← width_append]
      exact ih _ _ (by simpa using fits) (by rw [width_append]; omega) hdivided
  | case6 depth divided c cs hopen hclose hseparator ih =>
      have hturn : Turn.ofChar depth split (width front) c cs
          = .goOn depth (some (width front)) 2 := by
        rw [Turn.ofChar.eq_def, if_neg hopen, if_neg hclose, hdivided, if_pos hseparator]
      obtain ⟨rfl, rfl, rfl, hhead⟩ := hseparator
      obtain ⟨cs, rfl⟩ := List.head?_eq_some_iff.mp hhead
      have hmark : ['!', '!'] ++ cs = '!' :: '!' :: cs := rfl
      rw [List.tail_cons] at ih ⊢
      obtain rfl : split = none := by simpa using hdivided
      rw [boundsFrom_mark hmark (by decide) hturn fits hdepth,
        ih _ (some (width front)) (by simpa using fits) (Nat.zero_le _) rfl, Option.map_map]
      -- What is cut behind the separator has none of its own.
      refine congrArg Except.ok (Option.map_congr fun body hcut => ?_)
      have hwidth : width (front ++ ['!', '!']) = width front + 2 := width_append _ _
      rw [Function.comp, Bounds.ofBody_divide _ (Body.otherwise_of_cut? hcut), hwidth]
  | case7 depth divided c cs hopen hclose hseparator ih =>
      have hturn : Turn.ofChar depth split (width front) c cs = .goOn depth split 1 := by
        rw [Turn.ofChar.eq_def, if_neg hopen, if_neg hclose, hdivided, if_neg hseparator]
      rw [boundsFrom_char hturn fits hdepth, Bounds.map_ofBody_keep, ← width_append]
      exact ih _ _ (by simpa using fits) (by rw [width_append]; omega) hdivided

end MailMerge.Template.ByteReader
