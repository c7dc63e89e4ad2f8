import MailMerge.Template.Compile

/-! The items that template text is made of, as one reader meets them from left to right.
What an item is depends on the characters at hand and on the place where they stand, never
on how the conditionals around it end.
-/

namespace MailMerge.Template

open MailMerge.Text

/-- Where items stand: outside of every conditional, or in a branch of one. A branch is
divided when the separator of its conditional has been met before.
-/
inductive Place where
  | top
  | branch (divided : Bool)
  deriving DecidableEq, Repr

/-- The scope that text of a place is compiled in. -/
def Place.scope : Place → Scope
  | top => .top
  | branch _ => .branch

/-- A column name as markup can spell it. -/
def IsName (name : List Char) : Prop :=
  name ≠ [] ∧ ∀ c ∈ name, isNameChar c = true

/-- The pieces of text that always are markup, and so never stand in a literal of a place.
-/
inductive Markup : Place → List Char → Prop
  | value {place name} (named : IsName name)
    : Markup place ('{' :: '$' :: (name ++ ['}']))
  | opening {place c} (letter : isNameChar c = true) : Markup place ['{', '?', c]
  | bracket {divided name} (named : IsName name)
    : Markup (.branch divided) ('[' :: '$' :: (name ++ [']']))
  | close {divided} : Markup (.branch divided) ['}']
  | separator {place} (undivided : place ≠ .branch true) : Markup place ['!', '!']

/-- Text at whose head no markup of the place stands. -/
def Plain (place : Place) (cs : List Char) : Prop :=
  ∀ mark, Markup place mark → ¬ mark <+: cs

/-- `Lead blank body` says that `blank` separates a column from the body behind it: one
blank if the body starts behind a blank, and nothing otherwise.
-/
inductive Lead : List Char → List Char → Prop
  | none {body} (named : ∀ c ∈ body.head?, isNameChar c = false)
    (unblank : ∀ c ∈ body.head?, isMarkupBlank c = false)
    : Lead [] body
  | one {b body} (blank : isMarkupBlank b = true) : Lead [b] body

-----------------------------------------------------------------------------------------
-- Names
-----------------------------------------------------------------------------------------

theorem isNameChar_of_isMarkupBlank {c : Char} (h : isMarkupBlank c = true)
    : isNameChar c = false := by
  simp only [isMarkupBlank, Bool.or_eq_true, decide_eq_true_eq] at h
  rcases h with (((rfl | rfl) | rfl) | rfl) | rfl <;> decide

theorem takeWhile_name {name after : List Char} (hname : ∀ c ∈ name, isNameChar c = true)
    (hafter : ∀ c ∈ after.head?, isNameChar c = false)
    : (name ++ after).takeWhile isNameChar = name := by
  rw [List.takeWhile_append_of_pos hname]
  cases after with
  | nil => simp
  | cons c cs => simp [hafter c (by simp)]

theorem dropWhile_name {name after : List Char} (hname : ∀ c ∈ name, isNameChar c = true)
    (hafter : ∀ c ∈ after.head?, isNameChar c = false)
    : (name ++ after).dropWhile isNameChar = after := by
  rw [List.dropWhile_append_of_pos hname]
  cases after with
  | nil => simp
  | cons c cs => simp [hafter c (by simp)]

theorem mem_takeWhile_name {cs : List Char} {c : Char} (h : c ∈ cs.takeWhile isNameChar)
    : isNameChar c = true :=
  List.all_eq_true.mp List.all_takeWhile c h

theorem head?_dropWhile_name {cs : List Char} {c : Char}
    (h : c ∈ (cs.dropWhile isNameChar).head?)
    : isNameChar c = false := by
  have hnot := List.head?_dropWhile_not isNameChar cs
  rw [Option.mem_def.mp h] at hnot
  simpa using hnot

theorem val_le_of_isNameChar {c : Char} (h : isNameChar c = true) : c.val ≤ 127 := by
  have hclass
      : (((((c.isUpper || c.isLower) || c.isDigit) || decide (c = '_')) || decide (c = '-'))
          || decide (c = '.'))
        = true :=
    h
  simp only [Bool.or_eq_true, decide_eq_true_eq] at hclass
  rcases hclass with ((((upper | lower) | digit) | rfl) | rfl) | rfl
  · have range : 'A'.val ≤ c.val ∧ c.val ≤ 'Z'.val := of_decide_eq_true upper
    exact UInt32.le_trans range.2 (by decide)
  · have range : (decide ('a'.val ≤ c.val) && decide (c.val ≤ 'z'.val)) = true := lower
    exact UInt32.le_trans (of_decide_eq_true (Bool.and_eq_true_iff.mp range).2) (by decide)
  · have range : (decide ('0'.val ≤ c.val) && decide (c.val ≤ '9'.val)) = true := digit
    exact UInt32.le_trans (of_decide_eq_true (Bool.and_eq_true_iff.mp range).2) (by decide)
  · decide
  · decide
  · decide

/-- Names are written in one byte a character. -/
theorem width_name {name : List Char} (named : ∀ c ∈ name, isNameChar c = true)
    : width name = name.length := by
  induction name with
  | nil => rfl
  | cons c cs ih =>
      have hc : c.utf8Size = 1 :=
        Char.utf8Size_eq_one_iff.mpr (val_le_of_isNameChar (named c (by simp)))
      rw [width_cons, hc, ih fun d hd => named d (by simp [hd]), List.length_cons,
        Nat.add_comm]

/-- A reference is read exactly where its spelling stands. -/
theorem reference?_eq_some_iff {closing : Char} (hclosing : isNameChar closing = false)
    {cs name rest : List Char}
    : reference? closing cs = some (name, rest)
      ↔ IsName name ∧ cs = '$' :: (name ++ closing :: rest) := by
  constructor
  · intro h
    refine ⟨?_, by simpa using eq_of_reference? h⟩
    cases cs with
    | nil => simp [reference?] at h
    | cons c cs =>
        simp only [reference?] at h
        split at h
        · rename_i letter front last back hfront hback
          split at h
          · cases h
            exact ⟨by simp, fun c hc => mem_takeWhile_name (hfront ▸ hc)⟩
          · simp at h
        · simp at h
  · rintro ⟨⟨hne, hname⟩, rfl⟩
    have hafter : ∀ c ∈ (closing :: rest).head?, isNameChar c = false := by
      simpa using hclosing
    obtain ⟨letter, front, rfl⟩ := List.exists_cons_of_ne_nil hne
    simp only [reference?, takeWhile_name hname hafter, dropWhile_name hname hafter,
      and_self, if_true]

theorem reference?_brace {name : List Char} (named : IsName name) (rest : List Char)
    : reference? '}' ('$' :: (name ++ '}' :: rest)) = some (name, rest) :=
  (reference?_eq_some_iff (by decide)).mpr ⟨named, rfl⟩

theorem reference?_bracket {name : List Char} (named : IsName name) (rest : List Char)
    : reference? ']' ('$' :: (name ++ ']' :: rest)) = some (name, rest) :=
  (reference?_eq_some_iff (by decide)).mpr ⟨named, rfl⟩

/-- No reference is read where an opening stands. -/
theorem reference?_question (closing : Char) (cs : List Char)
    : reference? closing ('?' :: cs) = none :=
  Option.eq_none_iff_forall_ne_some.mpr fun found hfound => by
    simpa using eq_of_reference? hfound

/-- An opening is read exactly where its spelling stands, with the whole name. -/
theorem opening?_eq_some_iff {cs name after : List Char}
    : opening? cs = some (name, after)
      ↔ IsName name
        ∧ (∀ c ∈ after.head?, isNameChar c = false)
        ∧ cs = '?' :: (name ++ after) := by
  constructor
  · intro h
    obtain ⟨hcs, hne⟩ := eq_of_opening? h
    cases cs with
    | nil => simp [opening?] at h
    | cons c cs =>
        simp only [opening?] at h
        split at h
        · cases h
          exact ⟨⟨hne, fun c => mem_takeWhile_name⟩, fun c => head?_dropWhile_name,
            by simpa using hcs⟩
        · simp at h
  · rintro ⟨⟨hne, hname⟩, hafter, rfl⟩
    simp [opening?, takeWhile_name hname hafter, dropWhile_name hname hafter, hne]

/-- No opening is read only where none stands. -/
theorem opening?_eq_none_iff {cs : List Char}
    : opening? cs = none ↔ ∀ c, isNameChar c = true → ¬ ['?', c] <+: cs := by
  constructor
  · rintro h c hc ⟨rest, rfl⟩
    simp [opening?, hc] at h
  · intro h
    cases cs with
    | nil => rfl
    | cons q cs =>
        rw [opening?, if_neg]
        rintro ⟨rfl, hne⟩
        cases cs with
        | nil => exact hne rfl
        | cons c cs =>
            cases hc : isNameChar c
            · exact hne (by simp [hc])
            · exact h c hc (by simp)

/-- No name goes on behind a name. -/
theorem Lead.named {blank body : List Char} (lead : Lead blank body)
    : ∀ c ∈ (blank ++ body).head?, isNameChar c = false := by
  cases lead with
  | none named _ => simpa using named
  | one blank => simpa using isNameChar_of_isMarkupBlank blank

theorem opening?_lead {name blank body : List Char} (named : IsName name)
    (lead : Lead blank body)
    : opening? ('?' :: (name ++ (blank ++ body))) = some (name, blank ++ body) :=
  opening?_eq_some_iff.mpr ⟨named, lead.named, rfl⟩

/-- A lead depends on the first character behind it alone. -/
theorem Lead.congr {blank body other : List Char} (lead : Lead blank body)
    (h : body.head? = other.head?)
    : Lead blank other := by
  cases lead with
  | none named unblank => exact .none (h ▸ named) (h ▸ unblank)
  | one blank => exact .one blank

/-- A blank of markup is written in one byte. -/
theorem Lead.width_eq_length {blank body : List Char} (lead : Lead blank body)
    : width blank = blank.length := by
  cases lead with
  | none => rfl
  | @one b _ blank =>
      simp only [isMarkupBlank, Bool.or_eq_true, decide_eq_true_eq] at blank
      rcases blank with (((rfl | rfl) | rfl) | rfl) | rfl <;> decide

theorem width_value {name : List Char} (named : IsName name) (rest : List Char)
    : width ('{' :: '$' :: (name ++ '}' :: rest)) = name.length + 3 + width rest := by
  have hbrace : '{'.utf8Size = 1 := rfl
  have hdollar : '$'.utf8Size = 1 := rfl
  have hclose : '}'.utf8Size = 1 := rfl
  simp only [width_cons, width_append, width_name named.2, hbrace, hdollar, hclose]
  omega

theorem width_opening {name blank after : List Char} (named : IsName name)
    (lead : Lead blank after)
    : width ('{' :: '?' :: (name ++ (blank ++ after)))
      = 2 + name.length + blank.length + width after := by
  have hbrace : '{'.utf8Size = 1 := rfl
  have hquestion : '?'.utf8Size = 1 := rfl
  simp only [width_cons, width_append, width_name named.2, lead.width_eq_length, hbrace,
    hquestion]
  omega

/-- The width of a lead is read off the text behind the name. -/
theorem Lead.leadWidth_eq {blank body : List Char} (lead : Lead blank body)
    : leadWidth (blank ++ body) = blank.length := by
  cases lead with
  | none named unblank =>
      cases body with
      | nil => simp [leadWidth]
      | cons c cs => simp [leadWidth, unblank c (by simp)]
  | one blank => simp [leadWidth, blank]

/-- Whatever follows a name is a lead and the text behind it. -/
theorem lead_take {after : List Char} (h : ∀ c ∈ after.head?, isNameChar c = false)
    : Lead (after.take (leadWidth after)) (after.drop (leadWidth after)) := by
  unfold leadWidth
  cases after with
  | nil => exact .none (by simp) (by simp)
  | cons c cs =>
      cases hc : isMarkupBlank c
      · have lead : Lead [] (c :: cs) := .none h (by simpa using hc)
        simpa [hc] using lead
      · simpa [hc] using Lead.one hc

-----------------------------------------------------------------------------------------
-- Plain text
-----------------------------------------------------------------------------------------

/-- Text is plain exactly where none of the recognisers finds anything at its head. -/
theorem plain_cons_iff {place : Place} {c : Char} {cs : List Char}
    : Plain place (c :: cs)
      ↔ (c = '{' → reference? '}' cs = none ∧ opening? cs = none)
        ∧ (c = '[' → place ≠ .top → reference? ']' cs = none)
        ∧ (c = '}' → place = .top)
        ∧ (c = '!' → cs.head? = some '!' → place = .branch true) := by
  constructor
  · intro plain
    refine ⟨?_, ?_, ?_, ?_⟩
    · rintro rfl
      refine ⟨Option.eq_none_iff_forall_ne_some.mpr ?_, opening?_eq_none_iff.mpr ?_⟩
      · rintro ⟨name, rest⟩ h
        obtain ⟨named, rfl⟩ := (reference?_eq_some_iff (by decide)).mp h
        exact plain _ (.value named) ⟨rest, by simp⟩
      · rintro letter hletter hopen
        exact plain _ (.opening hletter) (by simpa using hopen)
    · rintro rfl hplace
      refine Option.eq_none_iff_forall_ne_some.mpr ?_
      rintro ⟨name, rest⟩ h
      obtain ⟨named, rfl⟩ := (reference?_eq_some_iff (by decide)).mp h
      cases place with
      | top => exact hplace rfl
      | branch => exact plain _ (.bracket named) ⟨rest, by simp⟩
    · rintro rfl
      cases place with
      | top => rfl
      | branch => exact (plain _ .close (by simp)).elim
    · rintro rfl hhead
      obtain ⟨tail, rfl⟩ := List.head?_eq_some_iff.mp hhead
      exact Decidable.byContradiction fun hplace => plain _ (.separator hplace) (by simp)
  · rintro ⟨hbrace, hbracket, hclose, hseparator⟩ mark markup ⟨rest, hmark⟩
    cases markup with
    | value named =>
        obtain ⟨rfl, rfl⟩ := List.cons.inj hmark
        simp [reference?_brace named] at hbrace
    | opening letter =>
        obtain ⟨rfl, rfl⟩ := List.cons.inj hmark
        exact opening?_eq_none_iff.mp (hbrace rfl).2 _ letter (by simp)
    | bracket named =>
        obtain ⟨rfl, rfl⟩ := List.cons.inj hmark
        simp [reference?_bracket named] at hbracket
    | close =>
        obtain ⟨rfl, rfl⟩ := List.cons.inj hmark
        cases hclose rfl
    | separator undivided =>
        obtain ⟨rfl, rfl⟩ := List.cons.inj hmark
        exact undivided (hseparator rfl (by simp))

/-- Text stays plain when more text behind it is cut away. -/
theorem Plain.of_append {place : Place} {cs more : List Char} (h : Plain place (cs ++ more))
    : Plain place cs :=
  fun mark markup hmark => h mark markup (hmark.trans (List.prefix_append cs more))

-----------------------------------------------------------------------------------------
-- Reading one item
-----------------------------------------------------------------------------------------

/-- What stands at the head of a text of a given size, with the text behind it. -/
inductive Item (size : Nat) where
  /-- The first character is text. -/
  | text
  /-- A reference to a column. -/
  | value (name rest : List Char) (shorter : rest.length < size)
  /-- The opening of a conditional, with the blank behind its column. -/
  | opening (name rest : List Char) (shorter : rest.length < size)
  /-- The separator of a conditional's branches. -/
  | separator (rest : List Char) (shorter : rest.length < size)
  /-- The brace that closes a conditional. -/
  | close (rest : List Char) (shorter : rest.length < size)

namespace Item

theorem length_lt_of_reference? {c closing : Char} {cs name rest : List Char}
    (h : reference? closing cs = some (name, rest))
    : rest.length < (c :: cs).length := by
  rw [eq_of_reference? h]
  simp only [List.length_cons, List.length_append]
  omega

theorem length_lt_of_opening? {c : Char} {cs name after : List Char}
    (h : opening? cs = some (name, after))
    : (after.drop (leadWidth after)).length < (c :: cs).length := by
  rw [(eq_of_opening? h).1]
  simp only [List.length_cons, List.length_append, List.length_drop]
  omega

theorem length_tail_lt (c : Char) (cs : List Char) : cs.tail.length < (c :: cs).length := by
  simp only [List.length_tail, List.length_cons]
  omega

/-- Reads the item at the head of `c :: cs`. It looks at the item and at nothing behind it.
-/
def read (place : Place) (c : Char) (cs : List Char) : Item (c :: cs).length :=
  if c = '{' then
    match hvalue : reference? '}' cs with
    | some (name, rest) => value name rest (length_lt_of_reference? hvalue)
    | none =>
        match hopen : opening? cs with
        | some (name, after) =>
            opening name (after.drop (leadWidth after)) (length_lt_of_opening? hopen)
        | none => text
  else if c = '[' ∧ place ≠ .top then
    match hvalue : reference? ']' cs with
    | some (name, rest) => value name rest (length_lt_of_reference? hvalue)
    | none => text
  else if c = '}' ∧ place ≠ .top then
    close cs (Nat.lt_add_one cs.length)
  else if c = '!' ∧ cs.head? = some '!' ∧ place ≠ .branch true then
    separator cs.tail (length_tail_lt c cs)
  else
    text

/-- An item stands at the head of a text: what the text is then made of. -/
def Heads (place : Place) (cs : List Char) {size : Nat} : Item size → Prop
  | text => Plain place cs
  | value name rest _ =>
      IsName name
      ∧ (cs = '{' :: '$' :: (name ++ '}' :: rest)
        ∨ place ≠ .top ∧ cs = '[' :: '$' :: (name ++ ']' :: rest))
  | opening name rest _ =>
      IsName name ∧ ∃ blank, Lead blank rest ∧ cs = '{' :: '?' :: (name ++ (blank ++ rest))
  | separator rest _ => place ≠ .branch true ∧ cs = '!' :: '!' :: rest
  | close rest _ => place ≠ .top ∧ cs = '}' :: rest

/-- The item that is read stands there, by the branches of the reading. -/
theorem heads_of_read {place : Place} {c : Char} {cs : List Char}
    {item : Item (c :: cs).length} (h : read place c cs = item)
    : item.Heads place (c :: cs) := by
  subst h
  unfold read
  split
  · rename_i hc
    split
    · rename_i hvalue
      obtain ⟨named, rfl⟩ := (reference?_eq_some_iff (by decide)).mp hvalue
      exact ⟨named, .inl (by simp [hc])⟩
    · rename_i hvalue
      split
      · rename_i after hopen
        obtain ⟨named, hafter, rfl⟩ := opening?_eq_some_iff.mp hopen
        exact ⟨named, _, lead_take hafter, by simp [hc]⟩
      · rename_i hopen
        exact plain_cons_iff.mpr (by simp [hc, hvalue, hopen])
  · rename_i hbrace
    split
    · rename_i hc
      split
      · rename_i hvalue
        obtain ⟨named, rfl⟩ := (reference?_eq_some_iff (by decide)).mp hvalue
        exact ⟨named, .inr ⟨hc.2, by simp [hc.1]⟩⟩
      · rename_i hvalue
        exact plain_cons_iff.mpr (by simp [hc, hvalue])
    · rename_i hbracket
      split
      · rename_i hc
        exact ⟨hc.2, by simp [hc.1]⟩
      · rename_i hclose
        split
        · rename_i hc
          obtain ⟨tail, rfl⟩ := List.head?_eq_some_iff.mp hc.2.1
          exact ⟨hc.2.2, by simp [hc.1]⟩
        · rename_i hseparator
          exact plain_cons_iff.mpr (by grind)

end Item

end MailMerge.Template
