import MailMerge.Proofs.Template.OnePass

/-! Segments printed as template text. What a template was compiled from may spell a reference
and the blank behind a column in other ways, but the text printed compiles to the same
segments: none of the exchanged spellings runs together with the text around it.
-/

namespace MailMerge.Segment

mutual
/-- The text of one segment, with braces for references and a space behind the column of a
conditional.
-/
def print : Segment → String
  | literal text => text
  | value column => Template.reference column
  | conditional column shown otherwise =>
      "\x7b?" ++ column ++ " " ++ printAll shown ++ printOtherwise otherwise ++ "\x7d"

/-- The text of a list of segments, one after the other. -/
def printAll : List Segment → String
  | [] => ""
  | segment :: rest => segment.print ++ printAll rest

/-- The text of a second branch with its separator, also where the branch is empty. -/
def printOtherwise : Option (List Segment) → String
  | none => ""
  | some segments => "!!" ++ printAll segments
end

@[simp]
theorem toList_printAll_nil : (printAll []).toList = [] :=
  rfl

@[simp]
theorem toList_printAll_value (column : String) (rest : List Segment)
    : (printAll (value column :: rest)).toList
      = '{' :: '$' :: (column.toList ++ '}' :: (printAll rest).toList) := by
  simp [printAll, print, Template.reference]

@[simp]
theorem toList_printAll_single (column : String) (shown rest : List Segment)
    : (printAll (conditional column shown none :: rest)).toList
      = '{' :: '?'
        :: (column.toList
          ++ ([' '] ++ ((printAll shown).toList ++ '}' :: (printAll rest).toList))) := by
  simp [printAll, print, printOtherwise]

@[simp]
theorem toList_printAll_double (column : String) (shown second rest : List Segment)
    : (printAll (conditional column shown (some second) :: rest)).toList
      = '{' :: '?'
        :: (column.toList
          ++ ([' '] ++ ((printAll shown).toList
            ++ '!' :: '!' :: ((printAll second).toList ++ '}' :: (printAll rest).toList)))) := by
  simp [printAll, print, printOtherwise]

/-- A character in front is printed in front, whether it joins a literal or makes one. -/
@[simp]
theorem toList_printAll_consChar (c : Char) (segments : List Segment)
    : (printAll (consChar c segments)).toList = c :: (printAll segments).toList := by
  unfold consChar
  split <;> simp [printAll, print]

end MailMerge.Segment

namespace MailMerge.Template

open Segment

-----------------------------------------------------------------------------------------
-- Exchanging the text behind plain text
-----------------------------------------------------------------------------------------

/-- Plain text in front of `behind` stays plain when `other` stands there instead. -/
def Spares (place : Place) (behind other : List Char) : Prop :=
  ∀ front, front ≠ [] → Plain place (front ++ behind) → Plain place (front ++ other)

/-- Markup opens with a brace or holds none. -/
theorem Markup.brace_not_mem_tail {place : Place} {mark : List Char}
    (markup : Markup place mark)
    : '{' ∉ mark.tail := by
  have hname {name : List Char} (named : IsName name) : '{' ∉ name :=
    fun h => absurd (named.2 _ h) (by decide)
  cases markup with
  | value named => simpa using hname named
  | opening letter =>
      rintro h
      simp at h
      subst h
      revert letter
      decide
  | bracket named => simpa using hname named
  | close => simp
  | separator => simp

/-- Markup closes with a brace or holds none. -/
theorem Markup.brace_not_mem_dropLast {place : Place} {mark : List Char}
    (markup : Markup place mark)
    : '}' ∉ mark.dropLast := by
  cases markup with
  | @value _ name named =>
      rw [← List.cons_append, ← List.cons_append, List.dropLast_concat]
      simpa using Body.brace_not_mem_name named
  | opening => simp
  | @bracket _ name named =>
      rw [← List.cons_append, ← List.cons_append, List.dropLast_concat]
      simpa using Body.brace_not_mem_name named
  | close => simp
  | separator => simp

/-- Exclamation marks are markup in a separator only. -/
theorem Markup.eq_separator_of_mem {place : Place} {mark : List Char}
    (markup : Markup place mark) (h : '!' ∈ mark)
    : mark = ['!', '!'] := by
  have hname {name : List Char} (named : IsName name) : '!' ∉ name :=
    fun h => absurd (named.2 _ h) (by decide)
  cases markup with
  | value named => simp [hname named] at h
  | opening letter =>
      simp at h
      subst h
      revert letter
      decide
  | bracket named => simp [hname named] at h
  | close => simp at h
  | separator => rfl

theorem Spares.refl {place : Place} {behind : List Char} : Spares place behind behind :=
  fun _ _ plain => plain

theorem Spares.cons {place : Place} {behind other : List Char} (c : Char)
    (spares : Spares place behind other)
    : Spares place (c :: behind) (c :: other) := by
  intro front nonempty plain
  simpa using spares (front ++ [c]) (by simp) (by simpa using plain)

/-- No mark of text in front goes on behind an opening brace. -/
theorem Spares.opening {place : Place} {behind other : List Char}
    : Spares place behind ('{' :: other) := by
  intro front nonempty plain mark markup hmark
  refine plain mark markup (List.IsPrefix.trans ?_ (List.prefix_append front behind))
  rcases List.prefix_or_prefix_of_prefix hmark (List.prefix_append front ('{' :: other)) with
    h | ⟨extra, rfl⟩
  · exact h
  · cases extra with
    | nil => simp
    | cons c extra =>
        have hextra := (List.prefix_append_right_inj front).mp hmark
        obtain ⟨rfl, -⟩ := List.cons_prefix_cons.mp hextra
        have hbrace := markup.brace_not_mem_tail
        rw [List.tail_append_of_ne_nil nonempty] at hbrace
        simp at hbrace

/-- No mark of text in front goes on behind a closing brace. -/
theorem Spares.close {place : Place} {behind other : List Char}
    : Spares place ('}' :: behind) ('}' :: other) := by
  intro front nonempty plain mark markup hmark
  have hwithin : mark <+: front ++ ['}'] :=
    Body.prefix_of_prefix_append (by simp) markup.brace_not_mem_dropLast
      (by simpa using hmark)
  exact plain mark markup (hwithin.trans ⟨behind, by simp⟩)

/-- No mark of text in front goes on behind a separator: it ends with the first of the two
exclamation marks at the latest.
-/
theorem Spares.separator {place : Place} {behind other : List Char}
    : Spares place ('!' :: '!' :: behind) ('!' :: '!' :: other) := by
  intro front nonempty plain mark markup hmark
  have hwithin : mark <+: front ++ ['!'] := by
    by_cases hbang : '!' ∈ mark
    · rw [markup.eq_separator_of_mem hbang] at hmark ⊢
      refine List.prefix_of_prefix_length_le hmark ⟨'!' :: other, by simp⟩ ?_
      have hlength := List.length_pos_iff.mpr nonempty
      simp only [List.length_append, List.length_cons, List.length_nil]
      omega
    · exact Body.prefix_of_prefix_append (by simp)
        (fun h => hbang ((List.dropLast_sublist mark).mem h)) (by simpa using hmark)
  exact plain mark markup (hwithin.trans ⟨'!' :: behind, by simp⟩)

-----------------------------------------------------------------------------------------
-- Reading printed segments
-----------------------------------------------------------------------------------------

/-- Segments that text reads as are read from their own print as well, with any text behind
that spares what is plain, by induction on the reading.
-/
theorem Reads.print {place : Place} {cs rest : List Char} {segments : List Segment}
    (reads : Reads place cs segments rest)
    : ∀ {other}, Spares place rest other
      → Reads place (printAll segments).toList segments other
        ∧ Spares place (cs ++ rest) ((printAll segments).toList ++ other) := by
  have lead (body : List Char) : Lead [' '] body := .one (by decide)
  induction reads with
  | nil => exact fun spares => ⟨.nil, spares⟩
  | @text place c cs segments rest plain _ ih =>
      intro other spares
      obtain ⟨reads, spares⟩ := ih spares
      have hplain : Plain place (c :: ((printAll segments).toList ++ other)) :=
        spares [c] (by simp) plain
      rw [toList_printAll_consChar]
      exact ⟨.text hplain reads, spares.cons c⟩
  | value named _ ih =>
      intro other spares
      rw [toList_printAll_value, String.toList_ofList]
      exact ⟨.value named (ih spares).1, .opening⟩
  | bracket named _ ih =>
      intro other spares
      rw [toList_printAll_value, String.toList_ofList]
      exact ⟨.value named (ih spares).1, .opening⟩
  | @single _ _ _ _ shown _ segments _ named _ _ _ ihInner ihTail =>
      intro other spares
      have inner
          : Reads (.branch false) (printAll shown).toList shown
              ('}' :: ((printAll segments).toList ++ other)) :=
        (ihInner .close).1
      rw [toList_printAll_single, String.toList_ofList]
      exact ⟨.single named (lead _) inner (ihTail spares).1, .opening⟩
  | @double _ _ _ _ shown _ otherwise _ segments _ named _ _ _ _ ihInner ihInner' ihTail =>
      intro other spares
      have inner'
          : Reads (.branch true) (printAll otherwise).toList otherwise
              ('}' :: ((printAll segments).toList ++ other)) :=
        (ihInner' .close).1
      have inner
          : Reads (.branch false) (printAll shown).toList shown
              ('!' :: '!' :: ((printAll otherwise).toList
                ++ '}' :: ((printAll segments).toList ++ other))) :=
        (ihInner .separator).1
      rw [toList_printAll_double, String.toList_ofList]
      exact ⟨.double named (lead _) inner inner' (ihTail spares).1, .opening⟩

/-- The print of a compiled template compiles to the segments of the template again, so it
shows the same for every row.
-/
theorem compile_printAll {raw : String} {template : Template}
    (h : compile raw = .ok template)
    : ∃ printed,
        compile (printAll template.segments) = .ok printed
        ∧ printed.segments = template.segments
        ∧ ∀ fields, printed.render fields = template.render fields := by
  obtain ⟨-, reads⟩ := compile_eq_ok_iff.mp h
  obtain ⟨hprinted, -⟩ := reads.print .refl
  refine ⟨{ source := printAll template.segments, segments := template.segments }, ?_, rfl, ?_⟩
  · exact compile_eq_ok_iff.mpr ⟨rfl, hprinted⟩
  · exact fun fields => rfl

/-- Fragments of markup stand in front of references, in front of an empty second branch and
at the end of one, and a tabulator stands behind a column.
-/
theorem compile_printAll_fragments
    : let raw := "\x7b\x7b?vip\t\x7b$x[$n]!\x7b?b![$c]!!\x7d!!\x7b?!!\x7d!"
      let template : Template :=
        {
          source := raw
          segments :=
            [
              .literal "\x7b",
              .conditional "vip"
                [
                  .literal "\x7b$x",
                  .value "n",
                  .literal "!",
                  .conditional "b" [.literal "!", .value "c"] (some [])
                ]
                (some [.literal "\x7b?!!"]),
              .literal "!"
            ]
        }
      let text := "\x7b\x7b?vip \x7b$x\x7b$n\x7d!\x7b?b !\x7b$c\x7d!!\x7d!!\x7b?!!\x7d!"
      compile raw = .ok template
      ∧ printAll template.segments = text
      ∧ ∃ printed,
          compile text = .ok printed
          ∧ printed.segments = template.segments
          ∧ ∀ fields, printed.render fields = template.render fields := by
  intro raw template text
  have h : compile raw = .ok template := Outcome.eq_ok_of_toOption (by decide +kernel)
  have hprint : printAll template.segments = text := by decide +kernel
  have hprinted := compile_printAll h
  rw [hprint] at hprinted
  exact ⟨h, hprint, hprinted⟩

end MailMerge.Template
