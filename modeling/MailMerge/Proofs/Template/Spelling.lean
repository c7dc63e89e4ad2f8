import MailMerge.Proofs.Template.OnePass

/-! A compiled template is a faithful and complete reading of its text: the text spells the
segments, one after the other, and no markup is left over in a literal.
-/

namespace MailMerge.Template

/-- `Spells place segments cs` says that `cs` is written as one spelling of each segment in
order. A reference has a second spelling in a branch.
-/
inductive Spells : Place → List Segment → List Char → Prop
  | nil {place} : Spells place [] []
  | literal {place text segments cs} (tail : Spells place segments cs)
    : Spells place (.literal text :: segments) (text.toList ++ cs)
  | value {place column segments cs} (tail : Spells place segments cs)
    : Spells place (.value column :: segments) ('{' :: '$' :: (column.toList ++ '}' :: cs))
  | bracket {divided column segments cs} (tail : Spells (.branch divided) segments cs)
    : Spells (.branch divided) (.value column :: segments)
        ('[' :: '$' :: (column.toList ++ ']' :: cs))
  | single {place column blank first shown segments cs} (lead : Lead blank (first ++ ['}']))
    (inner : Spells (.branch false) shown first) (tail : Spells place segments cs)
    : Spells place (.conditional column shown none :: segments)
        ('{' :: '?' :: (column.toList ++ (blank ++ (first ++ '}' :: cs))))
  | double {place column blank first shown second otherwise segments cs}
    (lead : Lead blank (first ++ ['!'])) (inner : Spells (.branch false) shown first)
    (inner' : Spells (.branch true) otherwise second) (tail : Spells place segments cs)
    : Spells place (.conditional column shown (some otherwise) :: segments)
        ('{' :: '?'
          :: (column.toList ++ (blank ++ (first ++ '!' :: '!' :: (second ++ '}' :: cs)))))

/-- Segments of a place in which nothing is left to be read: literals have text and stand
apart, they hold no markup of the place, and columns have names that markup can spell.
-/
inductive Settled : Place → List Segment → Prop
  | nil {place} : Settled place []
  | literal {place text segments} (filled : text ≠ "")
    (clean : ∀ mark, Markup place mark → ¬ mark <:+: text.toList)
    (apart : ∀ other more, segments ≠ .literal other :: more) (tail : Settled place segments)
    : Settled place (.literal text :: segments)
  | value {place column segments} (named : IsName column.toList)
    (tail : Settled place segments)
    : Settled place (.value column :: segments)
  | conditional {place column shown otherwise segments} (named : IsName column.toList)
    (first : Settled (.branch false) shown)
    (second : ∀ branch ∈ otherwise, Settled (.branch true) branch)
    (tail : Settled place segments)
    : Settled place (.conditional column shown otherwise :: segments)

/-- A character in front joins the literal there or makes a new one, and is spelled as
itself either way.
-/
theorem Spells.consChar {place : Place} {segments : List Segment} {cs : List Char} (c : Char)
    (h : Spells place segments cs)
    : Spells place (Segment.consChar c segments) (c :: cs) := by
  have alone : Spells place (.literal (String.singleton c) :: segments) (c :: cs) := by
    have spells : Spells place (.literal (String.singleton c) :: segments) _ := .literal h
    simpa using spells
  cases h with
  | @literal _ text _ _ tail =>
      have spells : Spells place (.literal (String.singleton c ++ text) :: _) _ := .literal tail
      simpa [Segment.consChar] using spells
  | nil | value | bracket | single | double => exact alone

/-- A text that is plain at its head holds a mark only where its tail does. -/
theorem not_infix_of_plain {place : Place} {c : Char} {text rest mark : List Char}
    (plain : Plain place (c :: (text ++ rest))) (clean : ¬ mark <:+: text)
    (markup : Markup place mark)
    : ¬ mark <:+: c :: text := by
  intro h
  rcases List.infix_cons_iff.mp h with h | h
  · exact plain mark markup (h.trans ⟨rest, by simp⟩)
  · exact clean h

theorem Markup.ne_nil {place : Place} {mark : List Char} (markup : Markup place mark)
    : mark ≠ [] := by
  cases markup <;> simp

/-- Plain text in front leaves nothing to be read: a literal that starts there is a stretch
of the text, and no mark starts at its first character.
-/
theorem Settled.consChar {place : Place} {c : Char} {cs rest : List Char}
    {segments : List Segment} (plain : Plain place (c :: (cs ++ rest)))
    (spells : Spells place segments cs) (h : Settled place segments)
    : Settled place (Segment.consChar c segments) := by
  have filled {text : String} (hne : text.toList ≠ []) : text ≠ "" :=
    fun he => hne (by rw [he]; rfl)
  have alone (apart : ∀ other more, segments ≠ .literal other :: more)
      : Settled place (.literal (String.singleton c) :: segments) := by
    refine .literal (filled (by simp)) ?_ apart h
    intro mark markup
    have head : Plain place (c :: ([] ++ (cs ++ rest))) := plain
    simpa using not_infix_of_plain head (by simpa using markup.ne_nil) markup
  cases h with
  | @literal _ text segments _ clean apart tail =>
      cases spells with
      | @literal _ _ _ cs spells =>
          refine .literal (filled (by simp)) ?_ apart tail
          intro mark markup
          have head : Plain place (c :: (text.toList ++ (cs ++ rest))) := by simpa using plain
          simpa using not_infix_of_plain head (clean mark markup) markup
  | nil | value | conditional => exact alone (by simp)

/-- What text reads as is spelled by the text, by induction on the reading. -/
theorem Reads.spells {place : Place} {cs rest : List Char} {segments : List Segment}
    (reads : Reads place cs segments rest)
    : Spells place segments cs := by
  induction reads with
  | nil => exact .nil
  | text _ _ ih => exact ih.consChar _
  | @value _ name _ _ _ _ _ ih =>
      have spells : Spells _ (.value (String.ofList name) :: _) _ := .value ih
      simpa using spells
  | @bracket _ name _ _ _ _ _ ih =>
      have spells : Spells _ (.value (String.ofList name) :: _) _ := .bracket ih
      simpa using spells
  | @single _ name _ _ _ _ _ _ _ lead _ _ ihInner ihTail =>
      have spells : Spells _ (.conditional (String.ofList name) _ none :: _) _ :=
        .single lead ihInner ihTail
      simpa using spells
  | @double _ name _ _ _ _ _ _ _ _ _ lead _ _ _ ihInner ihInner' ihTail =>
      have spells : Spells _ (.conditional (String.ofList name) _ (some _) :: _) _ :=
        .double lead ihInner ihInner' ihTail
      simpa using spells

/-- What text reads as has nothing left to be read, by induction on the reading. -/
theorem Reads.settled {place : Place} {cs rest : List Char} {segments : List Segment}
    (reads : Reads place cs segments rest)
    : Settled place segments := by
  induction reads with
  | nil => exact .nil
  | text plain tail ih => exact ih.consChar plain tail.spells
  | value named _ ih => exact .value (by simpa using named) ih
  | bracket named _ ih => exact .value (by simpa using named) ih
  | single named _ _ _ ihInner ihTail =>
      exact .conditional (by simpa using named) ihInner (by simp) ihTail
  | double named _ _ _ _ ihInner ihInner' ihTail =>
      exact .conditional (by simpa using named) ihInner (by simpa using ihInner') ihTail

/-- A compiled template keeps its text, the text spells the segments, and in the segments
nothing is left to be read.
-/
theorem spells_of_compile {raw : String} {template : Template}
    (h : compile raw = .ok template)
    : template.source = raw
      ∧ Spells .top template.segments raw.toList
      ∧ Settled .top template.segments := by
  obtain ⟨hsource, reads⟩ := compile_eq_ok_iff.mp h
  exact ⟨hsource, reads.spells, reads.settled⟩

/-- A nested conditional with both spellings of a reference, stray braces and separators. -/
theorem spells_of_compile_nested
    : let raw := "Hi \x7b$n\x7d\x7b?vip [$n]\x7b?x-1!\x7d!!a!!\x7b\x7d\x7d!"
      let template : Template :=
        {
          source := raw
          segments :=
            [
              .literal "Hi ",
              .value "n",
              .conditional "vip"
                [.value "n", .conditional "x-1" [.literal "!"] none]
                (some [.literal "a!!\x7b"]),
              .literal "\x7d!"
            ]
        }
      compile raw = .ok template
      ∧ template.source = raw
      ∧ Spells .top template.segments raw.toList
      ∧ Settled .top template.segments := by
  intro raw template
  have h : compile raw = .ok template := Outcome.eq_ok_of_toOption (by decide +kernel)
  exact ⟨h, spells_of_compile h⟩

end MailMerge.Template
