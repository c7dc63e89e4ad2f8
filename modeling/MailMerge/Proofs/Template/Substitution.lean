import MailMerge.Proofs.Template.Fault

/-! Templates without conditionals are plain substitution: each reference in the text is
exchanged for the value of its column, all of them at once, and nothing else changes.
-/

namespace MailMerge.Template

open Segment

-----------------------------------------------------------------------------------------
-- Substitution
-----------------------------------------------------------------------------------------

/-- The spelling of a reference to a column. -/
def spelling (name : List Char) : List Char :=
  '{' :: '$' :: (name ++ ['}'])

/-- `Substitutes fields cs out` says that `out` is `cs` with the value of its column in the
place of every reference. A value is put into `out` as it is, and what it holds is not looked
at again; a column without a value leaves nothing.
-/
inductive Substitutes (fields : Fields) : List Char → List Char → Prop
  | nil : Substitutes fields [] []
  | reference {name cs out} (named : IsName name) (tail : Substitutes fields cs out)
    : Substitutes fields (spelling name ++ cs)
        ((fields.text (String.ofList name)).toList ++ out)
  | char {c cs out} (unreferred : ∀ name, IsName name → ¬ spelling name <+: c :: cs)
    (tail : Substitutes fields cs out)
    : Substitutes fields (c :: cs) (c :: out)

/-- A reference at the head of a text tells its name and what stands behind it. -/
theorem spelling_append_inj {name other cs more : List Char} (named : IsName name)
    (named' : IsName other) (h : spelling name ++ cs = spelling other ++ more)
    : name = other ∧ cs = more := by
  have hrest : '$' :: (name ++ '}' :: cs) = '$' :: (other ++ '}' :: more) := by
    simpa [spelling] using h
  have hfound := reference?_brace named cs
  rw [hrest, reference?_brace named'] at hfound
  simpa [eq_comm] using hfound

/-- A text has one substitution only, by induction on the first of two. -/
theorem Substitutes.unique {fields : Fields} {cs out other : List Char}
    (h : Substitutes fields cs out) (h' : Substitutes fields cs other)
    : out = other := by
  induction h generalizing other with
  | nil =>
      generalize hcs : [] = cs at h'
      cases h' with
      | nil => rfl
      | reference => cases hcs
      | char => cases hcs
  | @reference name cs out named tail ih =>
      generalize hcs : spelling name ++ cs = text at h'
      cases h' with
      | nil => cases hcs
      | reference named' tail' =>
          obtain ⟨rfl, rfl⟩ := spelling_append_inj named named' hcs
          rw [ih tail']
      | char unreferred => exact (unreferred name named ⟨cs, hcs⟩).elim
  | @char c cs out unreferred tail ih =>
      generalize hcs : c :: cs = text at h'
      cases h' with
      | nil => cases hcs
      | reference named tail' => exact (unreferred _ named ⟨_, hcs.symm⟩).elim
      | char _ tail' =>
          cases hcs
          rw [ih tail']

-----------------------------------------------------------------------------------------
-- Templates without conditionals
-----------------------------------------------------------------------------------------

/-- Text in which nothing opens a conditional. -/
def Unopened (cs : List Char) : Prop :=
  ∀ c, isNameChar c = true → ¬ ['{', '?', c] <:+: cs

theorem Unopened.of_append {front back : List Char} (h : Unopened (front ++ back))
    : Unopened back :=
  fun c letter hopen => h c letter (hopen.trans (List.suffix_append front back).isInfix)

/-- No conditional opens at the head of such a text. -/
theorem Unopened.not_opening {name cs : List Char} (named : IsName name)
    (h : Unopened ('{' :: '?' :: (name ++ cs)))
    : False := by
  obtain ⟨hne, hname⟩ := named
  obtain ⟨c, name, rfl⟩ := List.exists_cons_of_ne_nil hne
  exact h c (hname c (by simp)) ⟨[], name ++ cs, by simp⟩

/-- A character in front is shown in front, whether it joins a literal or makes one. -/
theorem toList_renderAll_consChar (fields : Fields) (c : Char) (segments : List Segment)
    : (renderAll fields (consChar c segments)).toList
      = c :: (renderAll fields segments).toList := by
  cases segments with
  | nil => simp [consChar, renderAll, Segment.render]
  | cons head rest => cases head <;> simp [consChar, renderAll, Segment.render]

/-- What text without conditionals reads as shows the substitution of the text, by induction
on the reading.
-/
theorem Reads.substitutes {cs : List Char} {segments : List Segment}
    (reads : Reads .top cs segments []) (unopened : Unopened cs) (fields : Fields)
    : Substitutes fields cs (renderAll fields segments).toList := by
  generalize hplace : Place.top = place at reads
  generalize hrest : [] = rest at reads
  induction reads with
  | nil => exact .nil
  | @text place c cs segments rest plain _ ih =>
      subst hrest
      rw [toList_renderAll_consChar]
      have hunopened : Unopened cs := @Unopened.of_append [c] cs unopened
      refine .char (fun name named => ?_) (ih hunopened hplace rfl)
      rw [List.append_nil] at plain
      exact plain _ (.value named)
  | @value place name cs segments rest named _ ih =>
      have htext : '{' :: '$' :: (name ++ '}' :: cs) = spelling name ++ cs := by
        simp [spelling]
      rw [htext] at unopened ⊢
      rw [renderAll, Segment.render, String.toList_append]
      exact .reference named (ih unopened.of_append hplace hrest)
  | bracket => cases hplace
  | single named => exact (unopened.not_opening named).elim
  | double named => exact (unopened.not_opening named).elim

/-- A text in which no conditional opens and no separator stands is a template, and what it
shows for a row is the text with the row's values in the place of its references.
-/
theorem compile_substitutes {raw : String} (undivided : ¬ ['!', '!'] <:+: raw.toList)
    (unopened : ∀ c, isNameChar c = true → ¬ ['{', '?', c] <:+: raw.toList)
    : ∃ template,
        compile raw = .ok template
        ∧ ∀ fields out,
            Substitutes fields raw.toList out ↔ out = (template.render fields).toList := by
  cases h : compile raw with
  | error e =>
      obtain ⟨front, _, behind, hraw, -, fault⟩ := compile_eq_error_iff.mp h
      rw [hraw] at undivided unopened
      cases fault with
      | @strayElse behind => exact (undivided ⟨front, behind, by simp⟩).elim
      | unclosed named =>
          have hbehind : Unopened _ := Unopened.of_append unopened
          exact (hbehind.not_opening named).elim
  | ok template =>
      obtain ⟨-, reads⟩ := compile_eq_ok_iff.mp h
      refine ⟨template, rfl, fun fields out => ⟨fun hout => ?_, ?_⟩⟩
      · exact hout.unique (reads.substitutes unopened fields)
      · rintro rfl
        exact reads.substitutes unopened fields

/-- Text full of unfinished markup, and a value that would be markup itself. -/
theorem compile_substitutes_unfinished
    : let raw := "\x7b$a b\x7d\x7b\x7b$x\x7d\x7d[$x]!\x7b? \x7b$y\x7d\x7b$"
      let shown := "\x7b$a b\x7d\x7b\x7b$y\x7d!!\x7d[$x]!\x7b? \x7b$"
      let fields := Fields.ofPairs [("x", "\x7b$y\x7d!!")]
      ¬ ['!', '!'] <:+: raw.toList
      ∧ (∀ c, isNameChar c = true → ¬ ['{', '?', c] <:+: raw.toList)
      ∧ ∃ template,
          compile raw = .ok template
          ∧ template.render fields = shown
          ∧ Substitutes fields raw.toList shown.toList := by
  intro raw shown fields
  have undivided : ¬ ['!', '!'] <:+: raw.toList := by decide +kernel
  have unopened (c : Char) (letter : isNameChar c = true) : ¬ ['{', '?', c] <:+: raw.toList := by
    have hspace : c ≠ ' ' := by
      rintro rfl
      exact absurd letter (by decide)
    simp [raw, List.infix_cons_iff, hspace]
  obtain ⟨template, htemplate, substitutes⟩ := compile_substitutes undivided unopened
  have hshown : (compile raw).toOption.map (·.render fields) = some shown := by decide +kernel
  rw [htemplate] at hshown
  have hrender : template.render fields = shown := Option.some.inj hshown
  exact ⟨undivided, unopened, template, htemplate, hrender,
    (substitutes fields shown.toList).mpr (congrArg String.toList hrender.symm)⟩

end MailMerge.Template
