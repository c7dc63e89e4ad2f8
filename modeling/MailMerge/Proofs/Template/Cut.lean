import MailMerge.Proofs.Template.Item

/-! The cut of a conditional's body, taken apart into the items that it passes over. Depth
is accounted for once: a cut at some depth first closes what is open and then goes on.
-/

namespace MailMerge.Template.Body

open MailMerge.Text

/-- The text of a body without the brace that closes it. -/
def inner (body : Body) : List Char :=
  body.shown ++ body.otherwise.elim [] (['!', '!'] ++ ·)

theorem text_eq_inner (body : Body) : body.text = body.inner ++ ['}'] :=
  rfl

@[simp]
theorem text_rest (body : Body) (rest : List Char)
    : Body.text { body with rest } = body.text :=
  rfl

@[simp]
theorem keep_nil (body : Body) : keep [] body = body :=
  rfl

@[simp]
theorem keep_keep (front back : List Char) (body : Body)
    : keep front (keep back body) = keep (front ++ back) body := by
  simp [keep]

@[simp]
theorem inner_keep (front : List Char) (body : Body)
    : (keep front body).inner = front ++ body.inner := by
  simp [inner, keep]

@[simp]
theorem text_keep (front : List Char) (body : Body)
    : (keep front body).text = front ++ body.text := by
  simp [text, keep]

@[simp]
theorem rest_keep (front : List Char) (body : Body) : (keep front body).rest = body.rest :=
  rfl

-----------------------------------------------------------------------------------------
-- Single steps of a cut
-----------------------------------------------------------------------------------------

/-- A separator counts for the cut at these settings. -/
def Divides (depth : Nat) (divided : Bool) : Prop :=
  depth = 0 ∧ divided = false

theorem cut?_reference {depth : Nat} {divided : Bool} {name rest : List Char}
    (named : IsName name)
    : cut? depth divided ('{' :: '$' :: (name ++ '}' :: rest))
      = (cut? depth divided rest).map (keep ('{' :: '$' :: (name ++ ['}']))) := by
  have h := reference?_brace named rest
  rw [cut?.eq_def]
  dsimp only
  rw [if_pos rfl]
  split
  · rename_i hvalue
    cases h.symm.trans hvalue
    simp
  · rename_i hvalue
    exact (Option.some_ne_none _ (h.symm.trans hvalue)).elim

theorem cut?_brace {depth : Nat} {divided : Bool} {cs : List Char}
    (h : reference? '}' cs = none)
    : cut? depth divided ('{' :: cs)
      = (cut? (if (opening? cs).isSome then depth + 1 else depth) divided cs).map
          (keep ['{']) := by
  rw [cut?.eq_def]
  dsimp only
  rw [if_pos rfl]
  split
  · rename_i hvalue
    cases h.symm.trans hvalue
  · rfl

@[simp]
theorem cut?_close_zero {divided : Bool} {cs : List Char}
    : cut? 0 divided ('}' :: cs) = some { shown := [], otherwise := none, rest := cs } := by
  rw [cut?, if_neg (by decide), if_pos rfl]

@[simp]
theorem cut?_close_succ {depth : Nat} {divided : Bool} {cs : List Char}
    : cut? (depth + 1) divided ('}' :: cs) = (cut? depth divided cs).map (keep ['}']) := by
  rw [cut?, if_neg (by decide), if_pos rfl]

@[simp]
theorem cut?_separator {cs : List Char}
    : cut? 0 false ('!' :: '!' :: cs) = (cut? 0 true cs).map divide := by
  rw [cut?, if_neg (by decide), if_neg (by decide), if_pos (by simp)]
  rfl

theorem cut?_char {depth : Nat} {divided : Bool} {c : Char} {cs : List Char}
    (hopen : c ≠ '{') (hclose : c ≠ '}')
    (hseparator : c = '!' → cs.head? = some '!' → ¬ Divides depth divided)
    : cut? depth divided (c :: cs) = (cut? depth divided cs).map (keep [c]) := by
  rw [cut?.eq_def]
  dsimp only
  rw [if_neg hopen, if_neg hclose, if_neg]
  rintro ⟨hc, hdepth, hdivided, hhead⟩
  exact hseparator hc hhead ⟨hdepth, hdivided⟩

/-- Characters that no markup starts with are passed over, by induction on them. -/
theorem cut?_chars {depth : Nat} {divided : Bool} {front cs : List Char}
    (h : ∀ c ∈ front, c ≠ '{' ∧ c ≠ '}' ∧ c ≠ '!')
    : cut? depth divided (front ++ cs) = (cut? depth divided cs).map (keep front) := by
  induction front with
  | nil => cases hcut : cut? depth divided cs <;> simp [hcut]
  | cons c front ih =>
      obtain ⟨hopen, hclose, hbang⟩ := h c (by simp)
      rw [List.cons_append, cut?_char hopen hclose (fun hc => (hbang hc).elim),
        ih (fun d hd => h d (by simp [hd])), Option.map_map]
      congr 1

theorem name_passes {c : Char} (h : isNameChar c = true)
    : c ≠ '{' ∧ c ≠ '}' ∧ c ≠ '!' := by
  refine ⟨?_, ?_, ?_⟩ <;>
  · rintro rfl
    simp [isNameChar] at h

theorem blank_passes {c : Char} (h : isMarkupBlank c = true)
    : c ≠ '{' ∧ c ≠ '}' ∧ c ≠ '!' := by
  refine ⟨?_, ?_, ?_⟩ <;>
  · rintro rfl
    simp [isMarkupBlank] at h

theorem lead_passes {blank body : List Char} (lead : Lead blank body)
    : ∀ c ∈ blank, c ≠ '{' ∧ c ≠ '}' ∧ c ≠ '!' := by
  cases lead with
  | none => simp
  | one blank => simpa using blank_passes blank

-----------------------------------------------------------------------------------------
-- Whole cuts
-----------------------------------------------------------------------------------------

/-- Goes on with a cut behind a body that was cut inside of it. -/
def resume (depth : Nat) (divided : Bool) (body : Body) : Option Body :=
  (cut? depth divided body.rest).map (keep body.text)

/-- The body with its separator read as text. -/
def joined (body : Body) : Body where
  shown := body.inner
  otherwise := none
  rest := body.rest

@[simp]
theorem resume_keep (depth : Nat) (divided : Bool) (front : List Char) (body : Body)
    : resume depth divided (keep front body)
      = (resume depth divided body).map (keep front) := by
  simp [resume, Function.comp_def]

@[simp]
theorem joined_keep (front : List Char) (body : Body)
    : (keep front body).joined = keep front body.joined := by
  simp [joined, keep, inner]

/-- A cut inside of more conditionals closes those first and then goes on outside, by the
recursion of the cut that closes them.
-/
theorem cut?_nested (outside depth : Nat) (divided : Bool) (cs : List Char)
    : cut? (outside + 1 + depth) divided cs
      = (cut? depth true cs).bind (resume outside divided) := by
  have push (front : List Char) (found : Option Body)
      : (found.map (keep front)).bind (resume outside divided)
        = (found.bind (resume outside divided)).map (keep front) := by
    cases found <;> simp
  -- Inside of more conditionals no separator counts, so the inner cut is taken as divided.
  generalize hclosed : true = closed
  fun_induction cut? depth closed cs with
  | case1 => simp [cut?]
  | case2 depth closed cs name rest hvalue ih =>
      obtain ⟨named, rfl⟩ := (reference?_eq_some_iff (by decide)).mp hvalue
      rw [cut?_reference named, ih hclosed]
      simp [push]
  | case3 depth closed cs hvalue ih =>
      rw [cut?_brace hvalue, push]
      cases hopen : (opening? cs).isSome <;>
      · rw [hopen] at ih
        exact congrArg _ (ih hclosed)
  | case4 => simp [resume, text]
  | case5 closed cs depth hbrace ih =>
      rw [Nat.succ_eq_add_one, ← Nat.add_assoc, cut?_close_succ, ih hclosed, push]
  | case6 => simp_all
  | case7 depth closed c cs hbrace hclose hseparator ih =>
      rw [cut?_char hbrace hclose (fun _ _ hdivides => by have := hdivides.1; omega),
        ih hclosed, push]

/-- Where a body ends does not depend on whether its separator is wanted, by the recursion
of the cut.
-/
theorem cut?_joined (depth : Nat) (cs : List Char)
    : cut? depth true cs = (cut? depth false cs).map joined := by
  generalize hundivided : false = divided
  fun_induction cut? depth divided cs with
  | case1 => simp [cut?]
  | case2 depth divided cs name rest hvalue ih =>
      obtain ⟨named, rfl⟩ := (reference?_eq_some_iff (by decide)).mp hvalue
      rw [cut?_reference named, ih hundivided]
      simp [Function.comp_def]
  | case3 depth divided cs hvalue ih =>
      simp only [dite_eq_ite] at ih
      rw [cut?_brace hvalue, ih hundivided]
      simp [Function.comp_def]
  | case4 => simp [joined, inner]
  | case5 divided cs depth hbrace ih =>
      rw [cut?_close_succ, ih hundivided]
      simp [Function.comp_def]
  | case6 depth divided c cs hbrace hclose hseparator ih =>
      obtain ⟨rfl, rfl, -, hhead⟩ := hseparator
      obtain ⟨tail, rfl⟩ := List.head?_eq_some_iff.mp hhead
      rw [cut?_char hbrace hclose (by simp [Divides]),
        cut?_char (by decide) (by decide) (by simp [Divides])]
      cases hcut : cut? 0 true tail with
      | none => simp [hcut]
      | some body => simp [hcut, joined, inner, divide, keep, otherwise_of_cut? hcut]
  | case7 depth divided c cs hbrace hclose hseparator ih =>
      rw [cut?_char hbrace hclose (by simp [Divides]), ih hundivided]
      simp [Function.comp_def]

-----------------------------------------------------------------------------------------
-- What lies behind a body has no part in its cut
-----------------------------------------------------------------------------------------

/-- Text that holds a character in which a mark can only end decides by itself on that mark
at its head.
-/
theorem prefix_of_prefix_append {stop : Char} {mark text more : List Char}
    (hstop : stop ∈ text) (hmark : stop ∉ mark.dropLast) (h : mark <+: text ++ more)
    : mark <+: text := by
  rcases List.prefix_or_prefix_of_prefix h (List.prefix_append text more) with h | h
  · exact h
  · obtain ⟨extra, rfl⟩ := h
    by_cases hextra : extra = []
    · simp [hextra]
    · rw [List.dropLast_append_of_ne_nil hextra] at hmark
      exact (hmark (by simp [hstop])).elim

theorem brace_not_mem_name {name : List Char} (named : IsName name) : '}' ∉ name :=
  fun h => absurd (named.2 _ h) (by decide)

theorem reference?_congr {text more other : List Char} (hbrace : '}' ∈ text)
    (h : reference? '}' (text ++ more) = none)
    : reference? '}' (text ++ other) = none := by
  refine Option.eq_none_iff_forall_ne_some.mpr ?_
  rintro ⟨name, rest⟩ hother
  obtain ⟨named, hspelled⟩ := (reference?_eq_some_iff (by decide)).mp hother
  have hmark : '$' :: (name ++ ['}']) <+: text := by
    refine prefix_of_prefix_append hbrace ?_ ⟨rest, by simpa using hspelled.symm⟩
    rw [← List.cons_append, List.dropLast_concat]
    simpa using brace_not_mem_name named
  obtain ⟨tail, rfl⟩ := hmark
  simp [reference?_brace named] at h

theorem opening?_isSome_of_append {text more other : List Char} (hbrace : '}' ∈ text)
    (h : (opening? (text ++ more)).isSome = true)
    : (opening? (text ++ other)).isSome = true := by
  by_cases hother : opening? (text ++ other) = none
  · have hmore : opening? (text ++ more) = none := by
      refine opening?_eq_none_iff.mpr fun c letter hprefix => ?_
      have hmark : ['?', c] <+: text := prefix_of_prefix_append hbrace (by simp) hprefix
      exact opening?_eq_none_iff.mp hother c letter
        (hmark.trans (List.prefix_append text other))
    simp [hmore] at h
  · exact Option.isSome_iff_ne_none.mpr hother

theorem brace_mem_text (body : Body) : '}' ∈ body.text := by
  simp [text]

theorem head?_text_append (body : Body) (more : List Char)
    : (body.text ++ more).head? = body.text.head? := by
  obtain ⟨c, cs, htext⟩ := List.exists_cons_of_ne_nil (List.ne_nil_of_mem body.brace_mem_text)
  simp [htext]

/-- A cut stays the same when other text lies behind the body, by the recursion of the cut.
-/
theorem cut?_text_append {depth : Nat} {divided : Bool} {cs : List Char} {body : Body}
    (h : cut? depth divided cs = some body) (more : List Char)
    : cut? depth divided (body.text ++ more) = some { body with rest := more } := by
  fun_induction cut? depth divided cs generalizing body with
  | case1 => simp at h
  | case2 depth divided cs name rest hvalue ih =>
      obtain ⟨found, hfound, rfl⟩ := Option.map_eq_some_iff.mp h
      obtain ⟨named, -⟩ := (reference?_eq_some_iff (by decide)).mp hvalue
      rw [text_keep, List.append_assoc]
      simp only [List.cons_append, List.append_assoc, List.nil_append]
      rw [cut?_reference named, ih hfound]
      simp [keep]
  | case3 depth divided cs hvalue ih =>
      obtain ⟨found, hfound, rfl⟩ := Option.map_eq_some_iff.mp h
      obtain rfl := text_append_rest_of_cut? hfound
      have hopen : (opening? (found.text ++ more)).isSome
          = (opening? (found.text ++ found.rest)).isSome := by
        rw [Bool.eq_iff_iff]
        exact ⟨opening?_isSome_of_append found.brace_mem_text,
          opening?_isSome_of_append found.brace_mem_text⟩
      -- The text of the rest holds a brace, and what stands at its head is decided before it.
      rw [text_keep, List.append_assoc, List.singleton_append,
        cut?_brace (reference?_congr found.brace_mem_text hvalue), hopen]
      simp only [dite_eq_ite] at ih hfound
      rw [ih hfound]
      simp [keep]
  | case4 => cases h; simp [text]
  | case5 divided cs depth hbrace ih =>
      obtain ⟨found, hfound, rfl⟩ := Option.map_eq_some_iff.mp h
      rw [text_keep, List.append_assoc, List.singleton_append, cut?_close_succ, ih hfound]
      simp [keep]
  | case6 depth divided c cs hbrace hclose hseparator ih =>
      obtain ⟨found, hfound, rfl⟩ := Option.map_eq_some_iff.mp h
      obtain ⟨rfl, rfl, rfl, hhead⟩ := hseparator
      have htext : found.divide.text = '!' :: '!' :: found.text := by
        simp [text, divide, otherwise_of_cut? hfound]
      rw [htext, List.cons_append, List.cons_append, cut?_separator, ih hfound]
      rfl
  | case7 depth divided c cs hbrace hclose hseparator ih =>
      obtain ⟨found, hfound, rfl⟩ := Option.map_eq_some_iff.mp h
      have hcs := text_append_rest_of_cut? hfound
      have hhead : (found.text ++ more).head? = cs.head? := by
        rw [← hcs, head?_text_append, head?_text_append]
      rw [text_keep, List.append_assoc, List.singleton_append,
        cut?_char hbrace hclose (by rw [hhead]; simp [Divides]; grind), ih hfound]
      simp [keep]

-----------------------------------------------------------------------------------------
-- Text that a cut passes over
-----------------------------------------------------------------------------------------

/-- A cut at the level of a body keeps `front` and goes on with `rest`. -/
def Passes (divided : Bool) (front rest : List Char) : Prop :=
  cut? 0 divided (front ++ rest) = (cut? 0 divided rest).map (keep front)

theorem Passes.nil {divided : Bool} {rest : List Char} : Passes divided [] rest := by
  cases hcut : cut? 0 divided rest <;> simp [Passes, hcut]

theorem Passes.append {divided : Bool} {front back rest : List Char}
    (hfront : Passes divided front (back ++ rest)) (hback : Passes divided back rest)
    : Passes divided (front ++ back) rest := by
  unfold Passes at *
  rw [List.append_assoc, hfront, hback]
  simp [Function.comp_def]

theorem Passes.plain {divided : Bool} {c : Char} {rest : List Char}
    (plain : Plain (.branch divided) (c :: rest))
    : Passes divided [c] rest := by
  obtain ⟨hbrace, -, hclose, hseparator⟩ := plain_cons_iff.mp plain
  by_cases hc : c = '{'
  · subst hc
    exact (cut?_brace (hbrace rfl).1).trans (by simp [(hbrace rfl).2])
  · exact cut?_char hc (fun hc => by simpa using hclose hc) (by simp [Divides]; grind)

theorem Passes.value {divided : Bool} {name rest : List Char} (named : IsName name)
    : Passes divided ('{' :: '$' :: (name ++ ['}'])) rest := by
  simpa [Passes] using cut?_reference named

theorem Passes.bracket {divided : Bool} {name rest : List Char} (named : IsName name)
    : Passes divided ('[' :: '$' :: (name ++ [']'])) rest := by
  refine cut?_chars fun c hc => ?_
  simp only [List.mem_cons, List.mem_append, List.not_mem_nil, or_false] at hc
  rcases hc with rfl | rfl | hc | rfl
  · decide
  · decide
  · exact name_passes (named.2 c hc)
  · decide

@[simp]
theorem resume_joined (depth : Nat) (divided : Bool) (body : Body)
    : resume depth divided body.joined = resume depth divided body := by
  simp [resume, joined, text_eq_inner, inner]

/-- A conditional is cut as a body of its own, and the cut goes on behind it. -/
theorem cut?_conditional {divided : Bool} {name blank after : List Char}
    (named : IsName name) (lead : Lead blank after)
    : cut? 0 divided ('{' :: '?' :: (name ++ (blank ++ after)))
      = ((cut? 0 false after).bind (resume 0 divided)).map
          (keep ('{' :: '?' :: (name ++ blank))) := by
  have hlead : ∀ c ∈ '?' :: (name ++ blank), c ≠ '{' ∧ c ≠ '}' ∧ c ≠ '!' := by
    intro c hc
    simp only [List.mem_cons, List.mem_append] at hc
    rcases hc with rfl | hc | hc
    · decide
    · exact name_passes (named.2 c hc)
    · exact lead_passes lead c hc
  have hnested : cut? 1 divided after = (cut? 0 false after).bind (resume 0 divided) := by
    rw [cut?_nested 0 0, cut?_joined]
    cases cut? 0 false after <;> simp
  rw [cut?_brace (reference?_question _ _), opening?_lead named lead, Option.isSome_some,
    if_pos rfl, ← hnested]
  have hchars := @cut?_chars 1 divided _ after hlead
  rw [List.cons_append, List.append_assoc] at hchars
  rw [hchars]
  simp [Function.comp_def]

theorem Passes.conditional {divided : Bool} {name blank after : List Char} {body : Body}
    (named : IsName name) (lead : Lead blank after) (h : cut? 0 false after = some body)
    : Passes divided ('{' :: '?' :: (name ++ (blank ++ body.text))) body.rest := by
  have hafter := text_append_rest_of_cut? h
  have hcut := @cut?_conditional divided _ _ _ named lead
  rw [h, Option.bind_some, resume, Option.map_map] at hcut
  rw [Passes]
  simp only [List.cons_append, List.append_assoc, hafter]
  rw [hcut]
  congr 1
  funext found
  simp

end MailMerge.Template.Body
