import MailMerge.Proofs.Outcome
import MailMerge.Proofs.Template.Descent

/-! The grammar of template text: which segments a stretch of text is read as, given the
place where it stands and the text behind it. The reader in one pass reads by it.
-/

namespace MailMerge.Template

/-- `Reads place cs segments rest` says that `cs`, with `rest` behind it, is read as the
segments. The text behind matters only to what counts as plain at the end of `cs`.
-/
inductive Reads : Place → List Char → List Segment → List Char → Prop
  | nil {place rest} : Reads place [] [] rest
  | text {place c cs segments rest} (plain : Plain place (c :: (cs ++ rest)))
    (tail : Reads place cs segments rest)
    : Reads place (c :: cs) (Segment.consChar c segments) rest
  | value {place name cs segments rest} (named : IsName name)
    (tail : Reads place cs segments rest)
    : Reads place ('{' :: '$' :: (name ++ '}' :: cs))
        (.value (String.ofList name) :: segments) rest
  | bracket {divided name cs segments rest} (named : IsName name)
    (tail : Reads (.branch divided) cs segments rest)
    : Reads (.branch divided) ('[' :: '$' :: (name ++ ']' :: cs))
        (.value (String.ofList name) :: segments) rest
  | single {place name blank first shown cs segments rest} (named : IsName name)
    (lead : Lead blank (first ++ ['}']))
    (inner : Reads (.branch false) first shown ('}' :: (cs ++ rest)))
    (tail : Reads place cs segments rest)
    : Reads place ('{' :: '?' :: (name ++ (blank ++ (first ++ '}' :: cs))))
        (.conditional (String.ofList name) shown none :: segments) rest
  | double {place name blank first shown second otherwise cs segments rest}
    (named : IsName name) (lead : Lead blank (first ++ ['!']))
    (inner
      : Reads (.branch false) first shown ('!' :: '!' :: (second ++ '}' :: (cs ++ rest))))
    (inner' : Reads (.branch true) second otherwise ('}' :: (cs ++ rest)))
    (tail : Reads place cs segments rest)
    : Reads place
        ('{' :: '?' :: (name ++ (blank ++ (first ++ '!' :: '!' :: (second ++ '}' :: cs)))))
        (.conditional (String.ofList name) shown (some otherwise) :: segments) rest

/-- `ReadsBody body shown otherwise rest` says that `body`, up to and with its closing
brace, is read as the branches of a conditional.
-/
inductive ReadsBody : List Char → List Segment → Option (List Segment) → List Char → Prop
  | single {first shown rest} (inner : Reads (.branch false) first shown ('}' :: rest))
    : ReadsBody (first ++ ['}']) shown none rest
  | double {first shown second otherwise rest}
    (inner : Reads (.branch false) first shown ('!' :: '!' :: (second ++ '}' :: rest)))
    (inner' : Reads (.branch true) second otherwise ('}' :: rest))
    : ReadsBody (first ++ '!' :: '!' :: (second ++ ['}'])) shown (some otherwise) rest

/-- A conditional is read where its name, its lead and its body are. -/
theorem Reads.conditional {place : Place} {name blank body cs rest : List Char}
    {shown segments : List Segment} {otherwise : Option (List Segment)}
    (named : IsName name) (lead : Lead blank (body ++ (cs ++ rest)))
    (inner : ReadsBody body shown otherwise (cs ++ rest))
    (tail : Reads place cs segments rest)
    : Reads place ('{' :: '?' :: (name ++ (blank ++ (body ++ cs))))
        (.conditional (String.ofList name) shown otherwise :: segments) rest := by
  cases inner with
  | @single first _ _ inner =>
      have hlead : Lead blank (first ++ ['}']) := lead.congr (by cases first <;> simp)
      simpa using Reads.single named hlead inner tail
  | @double first _ second _ _ inner inner' =>
      have hlead : Lead blank (first ++ ['!']) := lead.congr (by cases first <;> simp)
      simpa using Reads.double named hlead inner inner' tail

namespace Descent

mutual
/-- What a branch is read as, up to what ends it, by recursion with the reader. -/
theorem reads_of_branch? {divided : Bool} (cs : List Char) {branch : Branch cs.length}
    (h : branch? divided cs = some branch)
    : (divided = true → branch.stop = .brace)
      ∧ ∃ text,
          cs = text ++ (branch.stop.text ++ branch.rest)
          ∧ Reads (.branch divided) text branch.segments
              (branch.stop.text ++ branch.rest) := by
  cases cs with
  | nil => simp [branch?] at h
  | cons c cs =>
      rw [branch?] at h
      cases hitem : Item.read (.branch divided) c cs with
      | text =>
          have heads := Item.heads_of_read hitem
          simp only [hitem] at h
          obtain ⟨found, hfound, rfl⟩ := Option.map_eq_some_iff.mp h
          obtain ⟨hstop, text, htext, reads⟩ := reads_of_branch? cs hfound
          refine ⟨hstop, c :: text, congrArg (c :: ·) htext, .text ?_ reads⟩
          exact htext ▸ heads
      | value name rest shorter =>
          have heads := Item.heads_of_read hitem
          simp only [hitem] at h
          obtain ⟨found, hfound, rfl⟩ := Option.map_eq_some_iff.mp h
          obtain ⟨hstop, text, htext, reads⟩ := reads_of_branch? rest hfound
          obtain ⟨named, hcs | ⟨-, hcs⟩⟩ := heads
          · refine ⟨hstop, _, ?_, .value named reads⟩
            simpa [← htext] using hcs
          · refine ⟨hstop, _, ?_, .bracket named reads⟩
            simpa [← htext] using hcs
      | opening name rest shorter =>
          have heads := Item.heads_of_read hitem
          simp only [hitem] at h
          cases hinner : conditional? rest with
          | none => simp [hinner] at h
          | some inner =>
              simp only [hinner] at h
              obtain ⟨found, hfound, rfl⟩ := Option.map_eq_some_iff.mp h
              obtain ⟨body, hbody, readsBody⟩ := reads_of_conditional? rest hinner
              obtain ⟨hstop, text, htext, reads⟩ := reads_of_branch? inner.rest hfound
              obtain ⟨named, blank, lead, hcs⟩ := heads
              rw [hbody, htext] at lead hcs
              rw [htext] at readsBody
              exact ⟨hstop, _, by simpa using hcs, .conditional named lead readsBody reads⟩
      | separator rest shorter =>
          have heads := Item.heads_of_read hitem
          simp only [hitem] at h
          cases h
          exact ⟨by simpa using heads.1, [], heads.2, .nil⟩
      | close rest shorter =>
          have heads := Item.heads_of_read hitem
          simp only [hitem] at h
          cases h
          exact ⟨fun _ => rfl, [], heads.2, .nil⟩
termination_by (cs.length, 0)
decreasing_by
  all_goals subst_vars
  · exact .left _ _ (by simp)
  · exact .left _ _ shorter
  · exact .left _ _ shorter
  · exact .left _ _ (Nat.lt_trans inner.shorter shorter)

/-- What the body of a conditional is read as, by recursion with the reader. -/
theorem reads_of_conditional? (cs : List Char) {inner : Conditional cs.length}
    (h : conditional? cs = some inner)
    : ∃ body,
        cs = body ++ inner.rest
        ∧ ReadsBody body inner.shown inner.otherwise inner.rest := by
  rw [conditional?] at h
  cases hfirst : branch? false cs with
  | none => simp [hfirst] at h
  | some first =>
      obtain ⟨-, text, htext, reads⟩ := reads_of_branch? cs hfirst
      obtain ⟨shown, stop, middle, shorter⟩ := first
      cases stop with
      | brace =>
          simp only [hfirst] at h
          cases h
          exact ⟨text ++ ['}'], by simpa [Stop.text] using htext, .single reads⟩
      | separator =>
          simp only [hfirst] at h
          cases hsecond : branch? true middle with
          | none => simp [hsecond] at h
          | some second =>
              simp only [hsecond] at h
              cases h
              obtain ⟨hstop, text', htext', reads'⟩ := reads_of_branch? middle hsecond
              rw [hstop rfl] at htext' reads'
              dsimp only [Stop.text] at htext reads
              rw [htext'] at htext reads
              exact ⟨text ++ '!' :: '!' :: (text' ++ ['}']), by simpa [Stop.text] using htext,
                .double reads reads'⟩
termination_by (cs.length, 1)
decreasing_by
  · exact .right _ (by decide)
  · exact .left _ _ shorter
end

/-- What the top of a text is read as, by the recursion of the reader. -/
theorem reads_of_items {size : Nat} {cs : List Char} {segments : List Segment}
    (h : items size cs = .ok segments)
    : Reads .top cs segments [] := by
  fun_induction items size cs generalizing segments with
  | case1 => cases h; exact .nil
  | case2 c cs hitem ih =>
      have heads := Item.heads_of_read hitem
      obtain ⟨found, hfound, rfl⟩ := Outcome.map_eq_ok_iff.mp h
      exact .text ((List.append_nil cs).symm ▸ heads) (ih hfound)
  | case3 c cs rest shorter hitem =>
      have heads := Item.heads_of_read hitem
      exact (heads.1 rfl).elim
  | case4 c cs name rest shorter hitem ih =>
      have heads := Item.heads_of_read hitem
      obtain ⟨found, hfound, rfl⟩ := Outcome.map_eq_ok_iff.mp h
      obtain ⟨named, hcs | ⟨hplace, -⟩⟩ := heads
      · exact hcs ▸ .value named (ih hfound)
      · exact (hplace rfl).elim
  | case5 => cases h
  | case6 c cs name rest shorter hitem inner hinner ih =>
      have heads := Item.heads_of_read hitem
      obtain ⟨named, blank, lead, hcs⟩ := heads
      obtain ⟨body, hbody, readsBody⟩ := reads_of_conditional? rest hinner
      obtain ⟨found, hfound, rfl⟩ := Outcome.map_eq_ok_iff.mp h
      rw [hbody] at lead hcs
      rw [hcs]
      exact .conditional named (by simpa using lead) (by simpa using readsBody) (ih hfound)
  | case7 => cases h

end Descent

end MailMerge.Template
