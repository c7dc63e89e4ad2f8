import MailMerge.Proofs.Template.Fault

/-! Markup as a barrier between texts. Two texts put together need not compile to the segments
of the one and then of the other, since the end of the first may run together with the start
of the second. They do so when a reference or a conditional stands between them: its opening
brace completes nothing in front, and nothing behind its closing brace belongs to it.
-/

namespace MailMerge.Template

open Segment

-----------------------------------------------------------------------------------------
-- Segments that stand apart
-----------------------------------------------------------------------------------------

/-- Segments in front of which no text is joined: the first of them is no literal. -/
def Apart (segments : List Segment) : Prop :=
  ∀ text more, segments ≠ .literal text :: more

theorem consChar_ne_nil (c : Char) (segments : List Segment) : consChar c segments ≠ [] := by
  cases segments with
  | nil => simp [consChar]
  | cons head rest => cases head <;> simp [consChar]

/-- A character in front makes or extends a literal. -/
theorem not_apart_consChar (c : Char) (segments : List Segment)
    : ¬ Apart (consChar c segments) := by
  intro apart
  cases segments with
  | nil => exact apart _ _ rfl
  | cons head rest => cases head <;> exact apart _ _ rfl

/-- A character in front stays there when segments that stand apart follow. -/
theorem consChar_append {back : List Segment} (apart : Apart back) (c : Char)
    (front : List Segment)
    : consChar c front ++ back = consChar c (front ++ back) := by
  cases front with
  | cons head rest => cases head <;> rfl
  | nil =>
      cases back with
      | nil => rfl
      | cons head rest =>
          cases head with
          | literal text => exact (apart text rest rfl).elim
          | value | conditional => rfl

-----------------------------------------------------------------------------------------
-- Readings one after the other
-----------------------------------------------------------------------------------------

/-- Only the empty text reads as no segments. -/
theorem Reads.eq_nil {place : Place} {cs rest : List Char} (reads : Reads place cs [] rest)
    : cs = [] := by
  generalize hnone : [] = segments at reads
  cases reads with
  | nil => rfl
  | text => exact (consChar_ne_nil _ _ hnone.symm).elim
  | value | bracket | single | double => cases hnone

/-- Two texts read as the segments of the first and then those of the second, if the latter
stand apart, by induction on the first reading.
-/
theorem Reads.append {place : Place} {front back rest : List Char}
    {first second : List Segment} (hfront : Reads place front first (back ++ rest))
    (hback : Reads place back second rest) (apart : Apart second)
    : Reads place (front ++ back) (first ++ second) rest := by
  generalize hbehind : back ++ rest = behind at hfront
  induction hfront with
  | nil => exact hback
  | text plain _ ih =>
      subst hbehind
      rw [consChar_append apart]
      exact .text (by simpa using plain) (ih hback rfl)
  | value named _ ih => simpa using Reads.value named (ih hback hbehind)
  | bracket named _ ih => simpa using Reads.bracket named (ih hback hbehind)
  | single named lead inner _ _ ih =>
      subst hbehind
      simpa using Reads.single named lead (by simpa using inner) (ih hback rfl)
  | double named lead inner inner' _ _ _ ih =>
      subst hbehind
      simpa using
        Reads.double named lead (by simpa using inner) (by simpa using inner') (ih hback rfl)

/-- A reference or a conditional that is read by itself is read in front of every text. -/
theorem Reads.mark_append {place : Place} {mark behind back rest : List Char}
    {segment : Segment} {segments : List Segment} (hmark : Reads place mark [segment] behind)
    (apart : Apart [segment]) (hback : Reads place back segments rest)
    : Reads place (mark ++ back) (segment :: segments) rest := by
  generalize hsingle : [segment] = single at hmark
  cases hmark with
  | nil => cases hsingle
  | text => exact (not_apart_consChar _ _ (hsingle ▸ apart)).elim
  | value named tail =>
      cases hsingle
      cases tail.eq_nil
      simpa using Reads.value named hback
  | bracket named tail =>
      cases hsingle
      cases tail.eq_nil
      simpa using Reads.bracket named hback
  | single named lead inner tail =>
      cases hsingle
      cases tail.eq_nil
      simpa using Reads.single named lead (inner.exchange .close) hback
  | double named lead inner inner' tail =>
      cases hsingle
      cases tail.eq_nil
      simpa using
        Reads.double named lead (inner.exchange .separator) (inner'.exchange .close) hback

/-- A reference or a conditional at the top starts with a brace. -/
theorem Reads.mark_eq_cons {mark behind : List Char} {segment : Segment}
    (hmark : Reads .top mark [segment] behind) (apart : Apart [segment])
    : ∃ cs, mark = '{' :: cs := by
  generalize hsingle : [segment] = single at hmark
  generalize hplace : Place.top = place at hmark
  cases hmark with
  | nil => cases hsingle
  | text => exact (not_apart_consChar _ _ (hsingle ▸ apart)).elim
  | bracket => cases hplace
  | value | single | double => exact ⟨_, rfl⟩

-----------------------------------------------------------------------------------------
-- Templates one after the other
-----------------------------------------------------------------------------------------

/-- Texts with a reference or a conditional between them compile to their segments one after
the other, so they show what they show by themselves, one after the other.
-/
theorem compile_append_mark_append {front mark back : String} {first middle last : Template}
    {segment : Segment} (hfront : compile front = .ok first) (hmark : compile mark = .ok middle)
    (hsingle : middle.segments = [segment]) (hliteral : ∀ text, segment ≠ .literal text)
    (hback : compile back = .ok last)
    : ∃ whole,
        compile (front ++ mark ++ back) = .ok whole
        ∧ whole.segments = first.segments ++ middle.segments ++ last.segments
        ∧ ∀ fields,
            whole.render fields
              = first.render fields ++ middle.render fields ++ last.render fields := by
  obtain ⟨-, readsFront⟩ := compile_eq_ok_iff.mp hfront
  obtain ⟨-, readsMark⟩ := compile_eq_ok_iff.mp hmark
  obtain ⟨-, readsBack⟩ := compile_eq_ok_iff.mp hback
  have apart (segments : List Segment) : Apart (segment :: segments) := by
    rintro text more h
    exact hliteral text (List.cons.inj h).1
  rw [hsingle] at readsMark
  have readsBehind := readsMark.mark_append (apart []) readsBack
  obtain ⟨cs, hcs⟩ := readsMark.mark_eq_cons (apart [])
  have readsFront' : Reads .top front.toList first.segments (mark.toList ++ back.toList) := by
    rw [hcs]
    exact readsFront.exchange .opening
  rw [← List.append_nil (mark.toList ++ back.toList)] at readsFront'
  have readsWhole := readsFront'.append readsBehind (apart _)
  refine ⟨⟨front ++ mark ++ back, first.segments ++ middle.segments ++ last.segments⟩, ?_, rfl,
    fun fields => ?_⟩
  · refine compile_eq_ok_iff.mpr ⟨rfl, ?_⟩
    simpa [hsingle] using readsWhole
  · simp only [render, renderAll_append]

/-- A text that ends in unfinished markup, a conditional with an empty second branch, and a
text that starts with a closing brace and a single exclamation mark.
-/
theorem compile_append_mark_append_unfinished
    : let front := "\x7b$a\x7b?!"
      let mark := "\x7b?b [$c]!!\x7d"
      let back := "\x7d!x\x7b$d"
      let segment : Segment := .conditional "b" [.value "c"] (some [])
      compile front = .ok ⟨front, [.literal front]⟩
      ∧ compile mark = .ok ⟨mark, [segment]⟩
      ∧ compile back = .ok ⟨back, [.literal back]⟩
      ∧ ∃ whole,
          compile (front ++ mark ++ back) = .ok whole
          ∧ whole.segments = [.literal front, segment, .literal back] := by
  intro front mark back segment
  have hfront : compile front = .ok ⟨front, [.literal front]⟩ :=
    Outcome.eq_ok_of_toOption (by decide +kernel)
  have hmark : compile mark = .ok ⟨mark, [segment]⟩ :=
    Outcome.eq_ok_of_toOption (by decide +kernel)
  have hback : compile back = .ok ⟨back, [.literal back]⟩ :=
    Outcome.eq_ok_of_toOption (by decide +kernel)
  obtain ⟨whole, hwhole, hsegments, -⟩ :=
    compile_append_mark_append hfront hmark rfl (fun _ => Segment.noConfusion) hback
  exact ⟨hfront, hmark, hback, whole, hwhole, hsegments⟩

end MailMerge.Template
