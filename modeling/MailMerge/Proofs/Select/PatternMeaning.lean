import MailMerge.Select.Pattern
import Mathlib.Data.List.Forall2

/-! What a LIKE pattern means: a value is accepted if it can be cut into pieces, one for each
step of the pattern, of which each is a piece that its step takes. Marking the tails of a
value finds such a cut whenever there is one.
-/

namespace MailMerge.Select

namespace Wildcard

/-- `Reads text steps` says that the text of a pattern is read as the steps, from left to
right. A backslash takes the next character as it stands, or itself where none is left.
-/
inductive Reads : List Char → List Wildcard → Prop
  | nil : Reads [] []
  | run {cs steps} (tail : Reads cs steps) : Reads ('%' :: cs) (.run :: steps)
  | one {cs steps} (tail : Reads cs steps) : Reads ('_' :: cs) (.one :: steps)
  | escaped {c cs steps} (tail : Reads cs steps)
    : Reads ('\\' :: c :: cs) (.exactly c :: steps)
  | ending : Reads ['\\'] [.exactly '\\']
  | plain {c cs steps} (percent : c ≠ '%') (underscore : c ≠ '_') (backslash : c ≠ '\\')
    (tail : Reads cs steps)
    : Reads (c :: cs) (.exactly c :: steps)

/-- The pieces of text that a step takes. -/
inductive Takes : Wildcard → List Char → Prop
  | run (piece : List Char) : Takes .run piece
  | one (c : Char) : Takes .one [c]
  | exactly (c : Char) : Takes (.exactly c) [c]

/-- A text can be cut into consecutive pieces that the steps take, one piece for each. -/
def Cover (steps : List Wildcard) (text : List Char) : Prop :=
  ∃ pieces, List.Forall₂ Takes steps pieces ∧ pieces.flatten = text

/-- Each text has one reading, by the recursion of the reader. -/
theorem reads_iff_ofChars_eq {text : List Char} {steps : List Wildcard}
    : Reads text steps ↔ ofChars text = steps := by
  constructor
  · intro reads
    induction reads with
    | nil => rfl
    | run _ ih => rw [← ih, ofChars] <;> simp
    | one _ ih => rw [← ih, ofChars] <;> simp
    | escaped _ ih => rw [← ih, ofChars]
    | ending => rw [ofChars]
    | plain percent underscore backslash _ ih =>
        rw [← ih, ofChars, if_neg percent, if_neg underscore]
        · exact fun h _ => backslash h
        · exact fun _ _ h _ => backslash h
  · rintro rfl
    fun_induction ofChars text with
    | case1 => exact .nil
    | case2 => exact .ending
    | case3 c cs ih => exact .escaped ih
    | case4 c cs lone next ih =>
        have backslash : c ≠ '\\' := by
          intro h
          cases cs with
          | nil => exact lone h rfl
          | cons d cs => exact next d cs h rfl
        split
        · rename_i h
          exact h ▸ .run ih
        · split
          · rename_i h
            exact h ▸ .one ih
          · exact .plain ‹_› ‹_› backslash ih

-----------------------------------------------------------------------------------------
-- Cutting off the first piece
-----------------------------------------------------------------------------------------

@[simp]
theorem cover_nil_iff {text : List Char} : Cover [] text ↔ text = [] := by
  simp [Cover, eq_comm]

theorem cover_cons_iff {step : Wildcard} {steps : List Wildcard} {text : List Char}
    : Cover (step :: steps) text
      ↔ ∃ piece rest, Takes step piece ∧ Cover steps rest ∧ piece ++ rest = text := by
  constructor
  · rintro ⟨_, taken, rfl⟩
    cases taken with
    | cons head tail => exact ⟨_, _, head, ⟨_, tail, rfl⟩, rfl⟩
  · rintro ⟨piece, _, head, ⟨pieces, tail, rfl⟩, rfl⟩
    exact ⟨piece :: pieces, .cons head tail, rfl⟩

/-- A step that is no run takes one character. -/
theorem takes_iff {step : Wildcard} (single : step ≠ run) {piece : List Char}
    : Takes step piece ↔ ∃ c, step.takes c = true ∧ [c] = piece := by
  constructor
  · intro taken
    cases taken with
    | run => exact absurd rfl single
    | one c => exact ⟨c, rfl, rfl⟩
    | exactly c => exact ⟨c, by simp [takes], rfl⟩
  · rintro ⟨c, htakes, rfl⟩
    cases step with
    | run => exact absurd rfl single
    | one => exact .one c
    | exactly c' =>
        obtain rfl : c = c' := by simpa [takes] using htakes
        exact .exactly c

/-- A run takes nothing, or the first character and whatever it takes behind that. -/
theorem cover_run_cons_iff {steps : List Wildcard} {c : Char} {cs : List Char}
    : Cover (run :: steps) (c :: cs)
      ↔ Cover steps (c :: cs) ∨ Cover (run :: steps) cs := by
  simp only [cover_cons_iff]
  constructor
  · rintro ⟨piece, rest, -, tail, hcut⟩
    cases piece with
    | nil => exact .inl (by simpa [← hcut] using tail)
    | cons d piece =>
        obtain ⟨rfl, rfl⟩ := List.cons.inj hcut
        exact .inr ⟨piece, rest, .run piece, tail, rfl⟩
  · rintro (tail | ⟨piece, rest, -, tail, rfl⟩)
    · exact ⟨[], _, .run [], tail, rfl⟩
    · exact ⟨c :: piece, rest, .run _, tail, rfl⟩

theorem cover_run_nil_iff {steps : List Wildcard} : Cover (run :: steps) [] ↔ Cover steps [] := by
  simp only [cover_cons_iff, List.append_eq_nil_iff]
  constructor
  · rintro ⟨_, _, -, tail, rfl, rfl⟩
    exact tail
  · exact fun tail => ⟨[], [], .run [], tail, rfl, rfl⟩

section

variable {step : Wildcard} (single : step ≠ run) {steps : List Wildcard}
include single

theorem not_cover_nil : ¬ Cover (step :: steps) [] := by
  rw [cover_cons_iff]
  rintro ⟨piece, rest, taken, -, hcut⟩
  obtain ⟨c, -, rfl⟩ := (takes_iff single).mp taken
  simp at hcut

theorem cover_cons_cons_iff {c : Char} {cs : List Char}
    : Cover (step :: steps) (c :: cs) ↔ step.takes c = true ∧ Cover steps cs := by
  rw [cover_cons_iff]
  constructor
  · rintro ⟨piece, rest, taken, tail, hcut⟩
    obtain ⟨d, htakes, rfl⟩ := (takes_iff single).mp taken
    obtain ⟨rfl, rfl⟩ := List.cons.inj hcut
    exact ⟨htakes, tail⟩
  · rintro ⟨htakes, tail⟩
    exact ⟨[c], cs, (takes_iff single).mpr ⟨c, htakes, rfl⟩, tail, rfl⟩

end

end Wildcard

namespace Pattern

open Wildcard

-----------------------------------------------------------------------------------------
-- Marks on the tails of a value
-----------------------------------------------------------------------------------------

/-- There is one mark for each tail of a text, from the longest, and it says whether the tail
has a property.
-/
inductive Marks (property : List Char → Prop) : List Char → List Bool → Prop
  | nil {mark} (h : mark = true ↔ property []) : Marks property [] [mark]
  | cons {c cs mark marks} (h : mark = true ↔ property (c :: cs))
    (tail : Marks property cs marks)
    : Marks property (c :: cs) (mark :: marks)

/-- The first mark is that of the whole text. -/
theorem Marks.headD_iff {property : List Char → Prop} {text : List Char} {marks : List Bool}
    (h : Marks property text marks)
    : marks.headD false = true ↔ property text := by
  cases h with
  | nil h => exact h
  | cons h => exact h

/-- No steps cover the empty tail alone. -/
theorem marks_end (text : List Char)
    : Marks (Cover []) text (text.map (fun _ => false) ++ [true]) := by
  induction text with
  | nil => exact .nil (by simp)
  | cons c cs ih => exact .cons (by simp) ih

/-- A run in front marks a tail where one is marked there or later. -/
theorem Marks.anyLater {steps : List Wildcard} {text : List Char} {marks : List Bool}
    (h : Marks (Cover steps) text marks)
    : Marks (Cover (.run :: steps)) text (anyLater marks) := by
  induction h with
  | nil h => exact .nil (by simpa [cover_run_nil_iff, Pattern.anyLater] using h)
  | cons h _ ih =>
      refine .cons ?_ ih
      rw [Bool.or_eq_true, h, ih.headD_iff, cover_run_cons_iff]

/-- Another step in front marks a tail where it takes the first character and the tail behind
that is marked.
-/
theorem Marks.afterOne {step : Wildcard} (single : step ≠ .run) {steps : List Wildcard}
    {text : List Char} {marks : List Bool} (h : Marks (Cover steps) text marks)
    : Marks (Cover (step :: steps)) text (afterOne step text marks) := by
  induction h with
  | nil => exact .nil (by simp [not_cover_nil single])
  | cons _ tail ih =>
      refine .cons ?_ ih
      rw [Bool.and_eq_true, tail.headD_iff, cover_cons_cons_iff single]

/-- The tails that are marked for steps are those that the steps cover, by induction on the
steps.
-/
theorem marks_coveredTails (text : List Char) (steps : List Wildcard)
    : Marks (Cover steps) text (coveredTails text steps) := by
  induction steps with
  | nil => exact marks_end text
  | cons step steps ih =>
      cases step with
      | run => exact ih.anyLater
      | one => exact ih.afterOne (by simp)
      | exactly c => exact ih.afterOne (by simp)

/-- Steps cover a value as the search says, by the recursion of the search. -/
theorem covers_iff {steps : List Wildcard} {value : List Char}
    : covers steps value = true ↔ Cover steps value := by
  fun_induction covers steps value with
  | case1 value => simp
  | case2 => exact (marks_coveredTails ..).headD_iff
  | case3 step steps single => simp [not_cover_nil single]
  | case4 step steps c cs single ih =>
      rw [Bool.and_eq_true, ih, cover_cons_cons_iff single]

end Pattern

end MailMerge.Select
