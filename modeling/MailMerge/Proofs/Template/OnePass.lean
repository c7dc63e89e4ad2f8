import MailMerge.Proofs.Template.Cut
import MailMerge.Proofs.Template.Grammar

/-! Compilation, which finds the end of a conditional before it reads the branches, agrees
with the reader in one pass. Both are compared with the grammar: text that reads as some
segments is passed over by the cut around it, and compiles to these segments as a slice.
-/

namespace MailMerge.Template

open MailMerge.Text

-----------------------------------------------------------------------------------------
-- Marks
-----------------------------------------------------------------------------------------

section

variable {scope : Scope} {name blank after rest : List Char}

theorem Mark.read_of_plain {place : Place} {c : Char} {cs : List Char}
    (plain : Plain place (c :: cs))
    : Mark.read place.scope c cs = .text := by
  obtain ⟨hbrace, hbracket, -, hseparator⟩ := plain_cons_iff.mp plain
  simp only [Mark.read]
  split
  · rename_i hc
    simp [hbrace hc, Mark.conditional?]
  · split
    · rename_i hc
      have hplace : place ≠ .top := fun h => by simp [h, Place.scope] at hc
      simp [hbracket hc.1 hplace]
    · rw [if_neg]
      rintro ⟨hc, hscope, hhead⟩
      rw [hseparator hc hhead] at hscope
      simp [Place.scope] at hscope

theorem Mark.read_value (named : IsName name)
    : Mark.read scope '{' ('$' :: (name ++ '}' :: rest)) = .value name rest := by
  simp [Mark.read, reference?_brace named]

theorem Mark.read_bracket (named : IsName name)
    : Mark.read .branch '[' ('$' :: (name ++ ']' :: rest)) = .value name rest := by
  simp [Mark.read, reference?_bracket named]

theorem Mark.read_conditional {body : Body} (named : IsName name) (lead : Lead blank after)
    (h : Body.cut? 0 false after = some body)
    : Mark.read scope '{' ('?' :: (name ++ (blank ++ after)))
      = .conditional name (2 + name.length + blank.length) body := by
  simp [Mark.read, reference?_question, Mark.conditional?, opening?_lead named lead,
    lead.leadWidth_eq, h]

theorem Mark.read_unclosed (named : IsName name) (lead : Lead blank after)
    (h : Body.cut? 0 false after = none)
    : Mark.read scope '{' ('?' :: (name ++ (blank ++ after))) = .unclosed name := by
  simp [Mark.read, reference?_question, Mark.conditional?, opening?_lead named lead,
    lead.leadWidth_eq, h]

theorem Mark.read_separator : Mark.read .top '!' ('!' :: rest) = .strayElse := by
  simp [Mark.read]

end

-----------------------------------------------------------------------------------------
-- Compilation mark by mark
-----------------------------------------------------------------------------------------

section

variable {scope : Scope} {offset : Nat} {c : Char} {cs : List Char}

theorem compileText_text (h : Mark.read scope c cs = .text)
    : compileText scope offset (c :: cs)
      = (compileText scope (offset + c.utf8Size) cs).map (Segment.consChar c) := by
  rw [compileText]
  split <;> simp_all

theorem compileText_value {name rest : List Char}
    (h : Mark.read scope c cs = .value name rest)
    : compileText scope offset (c :: cs)
      = (compileText scope (offset + name.length + 3) rest).map
          (.value (String.ofList name) :: ·) := by
  rw [compileText]
  split <;> simp_all

theorem compileText_unclosed {name : List Char} (h : Mark.read scope c cs = .unclosed name)
    : compileText scope offset (c :: cs)
      = .error (.unclosed (String.ofList name) offset) := by
  rw [compileText]
  split <;> simp_all

theorem compileText_strayElse (h : Mark.read scope c cs = .strayElse)
    : compileText scope offset (c :: cs) = .error (.strayElse offset) := by
  rw [compileText]
  split <;> simp_all

/-- Text of a branch that compiles to segments wherever it stands. -/
def Slice (cs : List Char) (segments : List Segment) : Prop :=
  ∀ offset, compileText .branch offset cs = .ok segments

theorem compileText_conditional {name : List Char} {start : Nat} {body : Body}
    {shown : List Segment} {otherwise : Option (List Segment)}
    (h : Mark.read scope c cs = .conditional name start body)
    (hshown : Slice body.shown shown) (hotherwise : Option.Rel Slice body.otherwise otherwise)
    : compileText scope offset (c :: cs)
      = (compileText scope (offset + start + width body.text) body.rest).map
          (.conditional (String.ofList name) shown otherwise :: ·) := by
  obtain ⟨first, second, rest⟩ := body
  rw [compileText]
  split <;> rename_i hmark <;> cases h.symm.trans hmark
  cases hotherwise with
  | none =>
      simp only [hshown _]
      cases compileText scope (offset + start + width _) rest <;> rfl
  | some hsecond =>
      simp only [hshown _, hsecond _]
      cases compileText scope (offset + start + width _) rest <;> rfl

end

-----------------------------------------------------------------------------------------
-- Compilation follows the grammar
-----------------------------------------------------------------------------------------

/-- What the grammar grants of text that reads as segments: it compiles to them wherever it
stands, and in a branch the cut of the conditional around it passes over it.
-/
structure Compiles (place : Place) (cs : List Char) (segments : List Segment)
    (rest : List Char)
    : Prop where
  compiled : ∀ offset, compileText place.scope offset cs = .ok segments
  passed : ∀ divided, place = .branch divided → Body.Passes divided cs rest

/-- A body is cut into texts that compile to the branches of a conditional. -/
structure Body.Compiles (body : Body) (shown : List Segment)
    (otherwise : Option (List Segment))
    : Prop where
  cut : ∀ rest, Body.cut? 0 false (body.text ++ rest) = some { body with rest }
  shown : Slice body.shown shown
  otherwise : Option.Rel Slice body.otherwise otherwise

theorem Compiles.nil {place : Place} {rest : List Char} : Compiles place [] [] rest where
  compiled _ := by rw [compileText]
  passed _ _ := .nil

theorem Compiles.text {place : Place} {c : Char} {cs rest : List Char}
    {segments : List Segment} (plain : Plain place (c :: (cs ++ rest)))
    (tail : Compiles place cs segments rest)
    : Compiles place (c :: cs) (Segment.consChar c segments) rest where
  compiled offset := by
    have hplain : Plain place (c :: cs ++ rest) := plain
    rw [compileText_text (Mark.read_of_plain hplain.of_append), tail.compiled]
    rfl
  passed divided hplace := by
    subst hplace
    have hpass := Body.Passes.append (.plain plain) (tail.passed divided rfl)
    exact hpass

theorem Compiles.value {place : Place} {name cs rest : List Char}
    {segments : List Segment} (named : IsName name) (tail : Compiles place cs segments rest)
    : Compiles place ('{' :: '$' :: (name ++ '}' :: cs))
        (.value (String.ofList name) :: segments) rest where
  compiled offset := by
    rw [compileText_value (Mark.read_value named), tail.compiled]
    rfl
  passed divided hplace := by
    have hpass := Body.Passes.append (.value named) (tail.passed divided hplace)
    simpa using hpass

theorem Compiles.bracket {divided : Bool} {name cs rest : List Char}
    {segments : List Segment} (named : IsName name)
    (tail : Compiles (.branch divided) cs segments rest)
    : Compiles (.branch divided) ('[' :: '$' :: (name ++ ']' :: cs))
        (.value (String.ofList name) :: segments) rest where
  compiled offset := by
    rw [Place.scope, compileText_value (Mark.read_bracket named)]
    exact congrArg (Except.map _) (tail.compiled _)
  passed divided' hplace := by
    have hpass := Body.Passes.append (.bracket named) (tail.passed divided' hplace)
    simpa using hpass

theorem Compiles.conditional {place : Place} {name blank cs rest : List Char} {body : Body}
    {shown segments : List Segment} {otherwise : Option (List Segment)}
    (named : IsName name) (lead : Lead blank body.text)
    (inner : body.Compiles shown otherwise) (tail : Compiles place cs segments rest)
    : Compiles place ('{' :: '?' :: (name ++ (blank ++ (body.text ++ cs))))
        (.conditional (String.ofList name) shown otherwise :: segments) rest where
  compiled offset := by
    have hlead : Lead blank (body.text ++ cs) := lead.congr (body.head?_text_append cs).symm
    rw [compileText_conditional (Mark.read_conditional named hlead (inner.cut cs))
      inner.shown inner.otherwise, tail.compiled]
    rfl
  passed divided hplace := by
    have hlead : Lead blank (body.text ++ (cs ++ rest)) :=
      lead.congr (body.head?_text_append (cs ++ rest)).symm
    have hpass : Body.Passes divided _ _ := .conditional named hlead (inner.cut (cs ++ rest))
    simpa using hpass.append (tail.passed divided hplace)

theorem Body.Compiles.single {first rest : List Char} {shown : List Segment}
    (inner : Template.Compiles (.branch false) first shown ('}' :: rest)) (behind : List Char)
    : Body.Compiles { shown := first, otherwise := none, rest := behind } shown none where
  cut more := by
    have hpass := inner.passed false rfl
    rw [Passes, cut?_close_zero, Option.map_some] at hpass
    simpa [keep, text] using cut?_text_append hpass more
  shown := inner.compiled
  otherwise := .none

theorem Body.Compiles.double {first second rest : List Char}
    {shown otherwise : List Segment}
    (inner
      : Template.Compiles (.branch false) first shown
          ('!' :: '!' :: (second ++ '}' :: rest)))
    (inner' : Template.Compiles (.branch true) second otherwise ('}' :: rest))
    (behind : List Char)
    : Body.Compiles { shown := first, otherwise := some second, rest := behind } shown
        (some otherwise) where
  cut more := by
    have hpass := inner.passed false rfl
    have hpass' := inner'.passed true rfl
    rw [Passes, cut?_close_zero, Option.map_some] at hpass'
    rw [Passes, cut?_separator, hpass', Option.map_some, Option.map_some] at hpass
    simpa [keep, divide, text] using cut?_text_append hpass more
  shown := inner.compiled
  otherwise := .some inner'.compiled

/-- Text compiles to what it reads as, by induction on the reading. -/
theorem Reads.compiles {place : Place} {cs rest : List Char} {segments : List Segment}
    (reads : Reads place cs segments rest)
    : Compiles place cs segments rest := by
  induction reads with
  | nil => exact .nil
  | text plain _ ih => exact .text plain ih
  | value named _ ih => exact .value named ih
  | bracket named _ ih => exact .bracket named ih
  | @single _ _ _ first _ _ _ _ named lead _ _ ihInner ihTail =>
      have inner := Body.Compiles.single ihInner []
      have hhead : (first ++ ['}']).head? = (Body.text ⟨first, none, []⟩).head? := by
        simp [Body.text]
      have hlead := lead.congr hhead
      simpa [Body.text] using Compiles.conditional named hlead inner ihTail
  | @double _ _ _ first _ second _ _ _ _ named lead _ _ _ ihInner ihInner' ihTail =>
      have inner := Body.Compiles.double ihInner ihInner' []
      have hhead : (first ++ ['!']).head? = (Body.text ⟨first, some second, []⟩).head? := by
        cases first <;> simp [Body.text]
      have hlead := lead.congr hhead
      simpa [Body.text] using Compiles.conditional named hlead inner ihTail

theorem ReadsBody.compiles {cs rest : List Char} {shown : List Segment}
    {otherwise : Option (List Segment)} (reads : ReadsBody cs shown otherwise rest)
    : ∃ body : Body, body.text = cs ∧ body.Compiles shown otherwise := by
  cases reads with
  | single inner => exact ⟨_, by simp [Body.text], .single inner.compiles []⟩
  | double inner inner' =>
      exact ⟨_, by simp [Body.text], .double inner.compiles inner'.compiles []⟩

-----------------------------------------------------------------------------------------
-- The reader and the compiler
-----------------------------------------------------------------------------------------

namespace Descent

mutual
/-- Where the reader meets the end of the text, so does the cut, by recursion with the
reader.
-/
theorem cut?_eq_none_of_branch? {divided : Bool} (cs : List Char)
    (h : branch? divided cs = none)
    : Body.cut? 0 divided cs = none := by
  cases cs with
  | nil => rw [Body.cut?]
  | cons c cs =>
      rw [branch?] at h
      cases hitem : Item.read (.branch divided) c cs with
      | text =>
          have heads := Item.heads_of_read hitem
          simp only [hitem] at h
          have hcut := cut?_eq_none_of_branch? cs (Option.map_eq_none_iff.mp h)
          exact (Body.Passes.plain heads).trans (by simp [hcut])
      | value name rest shorter =>
          have heads := Item.heads_of_read hitem
          simp only [hitem] at h
          have hcut := cut?_eq_none_of_branch? rest (Option.map_eq_none_iff.mp h)
          obtain ⟨named, hcs | ⟨-, hcs⟩⟩ := heads
          · have hpass : Body.Passes divided _ rest := .value named
            simpa [Body.Passes, hcs, hcut] using hpass
          · have hpass : Body.Passes divided _ rest := .bracket named
            simpa [Body.Passes, hcs, hcut] using hpass
      | opening name rest shorter =>
          have heads := Item.heads_of_read hitem
          simp only [hitem] at h
          obtain ⟨named, blank, lead, hcs⟩ := heads
          rw [hcs]
          cases hinner : conditional? rest with
          | none =>
              rw [Body.cut?_conditional named lead, cut?_eq_none_of_conditional? rest hinner]
              rfl
          | some inner =>
              simp only [hinner] at h
              have hcut := cut?_eq_none_of_branch? inner.rest (Option.map_eq_none_iff.mp h)
              obtain ⟨_, hbody, readsBody⟩ := reads_of_conditional? rest hinner
              obtain ⟨body, rfl, compiles⟩ := readsBody.compiles
              rw [Body.cut?_conditional named lead, hbody, compiles.cut]
              simp [Body.resume, hcut]
      | separator rest shorter => simp [hitem] at h
      | close rest shorter => simp [hitem] at h
termination_by (cs.length, 0)
decreasing_by
  all_goals subst_vars
  · exact .left _ _ (by simp)
  · exact .left _ _ shorter
  · exact .left _ _ shorter
  · exact .left _ _ (Nat.lt_trans inner.shorter shorter)

/-- Where the reader meets the end of the text in a conditional, so does its cut, by
recursion with the reader.
-/
theorem cut?_eq_none_of_conditional? (cs : List Char) (h : conditional? cs = none)
    : Body.cut? 0 false cs = none := by
  rw [conditional?] at h
  cases hfirst : branch? false cs with
  | none => exact cut?_eq_none_of_branch? cs hfirst
  | some first =>
      -- The first branch ended in a separator; the cut passes it and fails in the second one.
      obtain ⟨-, text, htext, reads⟩ := reads_of_branch? cs hfirst
      obtain ⟨shown, stop, middle, shorter⟩ := first
      cases stop with
      | brace => simp [hfirst] at h
      | separator =>
          simp only [hfirst] at h
          cases hsecond : branch? true middle with
          | some second => simp [hsecond] at h
          | none =>
              have hcut := cut?_eq_none_of_branch? middle hsecond
              have hpass := reads.compiles.passed false rfl
              rw [Body.Passes] at hpass
              simpa [htext, Stop.text, hcut] using hpass
termination_by (cs.length, 1)
decreasing_by
  · exact .right _ (by decide)
  · exact .left _ _ shorter
end

/-- From the top, text compiles to what the reader makes of it, errors included, by the
recursion of the reader. An offset is what the text before takes of the whole.
-/
theorem compileText_eq_items {size : Nat} {cs : List Char} (hsize : width cs ≤ size)
    : compileText .top (size - width cs) cs = items size cs := by
  fun_induction items size cs with
  | case1 => rw [compileText]
  | case2 c cs hitem ih =>
      have heads := Item.heads_of_read hitem
      rw [width_cons] at hsize
      have hmark : Mark.read .top c cs = .text := Mark.read_of_plain heads
      have hoffset : size - width (c :: cs) + c.utf8Size = size - width cs := by
        rw [width_cons]
        omega
      rw [compileText_text hmark, hoffset, ih (by omega)]
  | case3 c cs rest shorter hitem =>
      have heads := Item.heads_of_read hitem
      exact (heads.1 rfl).elim
  | case4 c cs name rest shorter hitem ih =>
      have heads := Item.heads_of_read hitem
      obtain ⟨named, hcs | ⟨hplace, -⟩⟩ := heads
      · cases hcs
        have hwidth := width_value named rest
        have hoffset : size - width ('{' :: '$' :: (name ++ '}' :: rest)) + name.length + 3
            = size - width rest := by
          omega
        rw [compileText_value (Mark.read_value named), hoffset, ih (by omega)]
      · exact (hplace rfl).elim
  | case5 c cs name rest shorter hitem hinner =>
      have heads := Item.heads_of_read hitem
      obtain ⟨named, blank, lead, hcs⟩ := heads
      have hcut := cut?_eq_none_of_conditional? rest hinner
      cases hcs
      exact compileText_unclosed (Mark.read_unclosed named lead hcut)
  | case6 c cs name rest shorter hitem inner hinner ih =>
      have heads := Item.heads_of_read hitem
      obtain ⟨named, blank, lead, hcs⟩ := heads
      obtain ⟨_, hbody, readsBody⟩ := reads_of_conditional? rest hinner
      -- The body that is cut is the stretch of text that the reader went through.
      obtain ⟨body, rfl, compiles⟩ := readsBody.compiles
      rw [hbody] at lead hcs
      cases hcs
      have hwidth := width_opening named lead
      rw [width_append] at hwidth
      have hoffset : size - width ('{' :: '?' :: (name ++ (blank ++ (body.text ++ inner.rest))))
            + (2 + name.length + blank.length) + width body.text
          = size - width inner.rest := by
        omega
      rw [compileText_conditional (Mark.read_conditional named lead (compiles.cut inner.rest))
        compiles.shown compiles.otherwise]
      simp only [Body.text_rest]
      rw [hoffset, ih (by omega)]
      rfl
  | case7 c cs rest shorter hitem =>
      have heads := Item.heads_of_read hitem
      obtain ⟨-, hcs⟩ := heads
      cases hcs
      exact compileText_strayElse Mark.read_separator

end Descent

/-- A text compiles to a template just when it reads as its segments. -/
theorem compile_eq_ok_iff {raw : String} {template : Template}
    : compile raw = .ok template
      ↔ template.source = raw ∧ Reads .top raw.toList template.segments [] := by
  constructor
  · intro h
    obtain ⟨segments, hsegments, rfl⟩ := Outcome.map_eq_ok_iff.mp h
    have hitems := Descent.compileText_eq_items (Nat.le_refl (width raw.toList))
    rw [Nat.sub_self, hsegments] at hitems
    exact ⟨rfl, Descent.reads_of_items hitems.symm⟩
  · rintro ⟨rfl, reads⟩
    have hcompiled := reads.compiles.compiled 0
    rw [Place.scope] at hcompiled
    rw [compile, hcompiled]
    rfl

/-- Cutting bodies first and compiling their slices gives what one pass over the text gives:
the same segments, or the same error at the same place.
-/
theorem compile_eq_read (raw : String) : compile raw = Descent.read raw := by
  have h := Descent.compileText_eq_items (Nat.le_refl (width raw.toList))
  rw [Nat.sub_self] at h
  rw [compile, Descent.read, h]

end MailMerge.Template
