import MailMerge.Text.Blank

/-! The markup of template text: column names, references to columns, and the extent of a
conditional's body. Each recogniser hands back the pieces of its text, and the pieces
joined again are the text.
-/

namespace MailMerge.Template

open MailMerge.Text

def isNameChar (c : Char) : Bool :=
  c.isAlphanum || c = '_' || c = '-' || c = '.'

/-- A reference to a column, read after its opening bracket: a dollar sign, a name that is
not empty, and the closing bracket. Hands back the name and the text behind.
-/
def reference? (closing : Char) : List Char → Option (List Char × List Char)
  | [] => none
  | c :: cs =>
      match cs.takeWhile isNameChar, cs.dropWhile isNameChar with
      | letter :: name, last :: rest =>
          if c = '$' ∧ last = closing then some (letter :: name, rest) else none
      | _, _ => none

/-- The opening of a conditional, read after its brace: a question mark and a name that is
not empty. Hands back the name and the text behind.
-/
def opening? : List Char → Option (List Char × List Char)
  | [] => none
  | c :: cs =>
      if c = '?' ∧ cs.takeWhile isNameChar ≠ [] then
        some (cs.takeWhile isNameChar, cs.dropWhile isNameChar)
      else
        none

/-- One blank may separate a conditional's column from its body. -/
def leadWidth (cs : List Char) : Nat :=
  if cs.head?.any isMarkupBlank then 1 else 0

theorem eq_of_reference? {closing : Char} {cs name rest : List Char}
    (h : reference? closing cs = some (name, rest))
    : cs = '$' :: name ++ closing :: rest := by
  cases cs with
  | nil => simp [reference?] at h
  | cons c cs =>
      simp only [reference?] at h
      split at h
      · rename_i letter front last back hfront hback
        split at h
        · rename_i hc
          obtain ⟨rfl, rfl⟩ := hc
          simp only [Option.some.injEq, Prod.mk.injEq] at h
          obtain ⟨rfl, rfl⟩ := h
          rw [← List.takeWhile_append_dropWhile (p := isNameChar) (l := cs), hfront, hback]
          rfl
        · simp at h
      · simp at h

theorem eq_of_opening? {cs name rest : List Char} (h : opening? cs = some (name, rest))
    : cs = '?' :: name ++ rest ∧ name ≠ [] := by
  cases cs with
  | nil => simp [opening?] at h
  | cons c cs =>
      simp only [opening?] at h
      split at h
      · rename_i hc
        obtain ⟨rfl, hname⟩ := hc
        simp only [Option.some.injEq, Prod.mk.injEq] at h
        obtain ⟨rfl, rfl⟩ := h
        exact ⟨by simp, hname⟩
      · simp at h

/-- The texts of a conditional's branches and the text behind its closing brace. -/
structure Body where
  shown : List Char
  otherwise : Option (List Char)
  rest : List Char

namespace Body

/-- Puts text in front of a body's first branch. -/
def keep (text : List Char) (body : Body) : Body :=
  { body with shown := text ++ body.shown }

/-- Turns the text read so far into the second branch of a body. -/
def divide (body : Body) : Body :=
  { body with shown := [], otherwise := some body.shown }

/-- The text that a body was cut from, without what lies behind it. -/
def text (body : Body) : List Char :=
  body.shown ++ body.otherwise.elim [] (['!', '!'] ++ ·) ++ ['}']

/-- Cuts a body at the brace that closes it and at the first separator that belongs to it.
References are taken whole, and an inner conditional hides its brace and its separator;
any other opening brace is text.
-/
def cut? (depth : Nat) (divided : Bool) : List Char → Option Body
  | [] => none
  | c :: cs =>
      if c = '{' then
        match h : reference? '}' cs with
        | some (name, rest) =>
            (cut? depth divided rest).map (keep ('{' :: '$' :: name ++ ['}']))
        | none =>
            (cut? (if (opening? cs).isSome then depth + 1 else depth) divided cs).map
              (keep [c])
      else if c = '}' then
        match depth with
        | 0 => some { shown := [], otherwise := none, rest := cs }
        | outer + 1 => (cut? outer divided cs).map (keep [c])
      else if c = '!' ∧ depth = 0 ∧ divided = false ∧ cs.head? = some '!' then
        (cut? depth true cs.tail).map divide
      else
        (cut? depth divided cs).map (keep [c])
termination_by cs => cs.length
decreasing_by
  · rw [eq_of_reference? h]
    simp
    omega
  all_goals simp only [List.length_cons, List.length_tail]
  all_goals omega

/-- A body divided before has no second separator, by the recursion of the cut. -/
theorem otherwise_of_cut? {depth : Nat} {cs : List Char} {body : Body}
    (h : cut? depth true cs = some body)
    : body.otherwise = none := by
  generalize hd : true = divided at h
  fun_induction cut? depth divided cs generalizing body with
  | case1 => simp at h
  | case4 => cases h; rfl
  | case6 => simp_all
  | case2 | case3 | case5 | case7 =>
      rename_i ih
      obtain ⟨inner, hinner, rfl⟩ := Option.map_eq_some_iff.1 h
      have hnone := ih hd hinner
      exact hnone

/-- Nothing is lost in a cut: the body's text and the rest are the text that was cut. -/
theorem text_append_rest_of_cut? {depth : Nat} {divided : Bool} {cs : List Char}
    {body : Body} (h : cut? depth divided cs = some body)
    : body.text ++ body.rest = cs := by
  fun_induction cut? depth divided cs generalizing body with
  | case1 => simp at h
  | case2 =>
      rename_i href ih
      obtain ⟨inner, hinner, rfl⟩ := Option.map_eq_some_iff.1 h
      simp [eq_of_reference? href, ← ih hinner, keep, text]
  | case4 => cases h; simp [text]
  | case6 =>
      rename_i hsep ih
      obtain ⟨inner, hinner, rfl⟩ := Option.map_eq_some_iff.1 h
      obtain ⟨rfl, rfl, rfl, hhead⟩ := hsep
      obtain ⟨tail, rfl⟩ := List.head?_eq_some_iff.1 hhead
      simpa [divide, text, otherwise_of_cut? hinner] using ih hinner
  | case3 | case5 | case7 =>
      rename_i ih
      obtain ⟨inner, hinner, rfl⟩ := Option.map_eq_some_iff.1 h
      simp [← ih hinner, keep, text]

end Body

end MailMerge.Template
