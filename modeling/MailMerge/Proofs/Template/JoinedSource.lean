import MailMerge.Proofs.Template.Barrier
import MailMerge.Proofs.Template.Spelling

/-! The text of a template that joins columns, read as a template itself. The references in it
stand apart from the delimiters between them, so that it compiles back to the template exactly
when markup can spell each column and no markup stands in the delimiter alone.
-/

namespace MailMerge.Template

open Segment

-----------------------------------------------------------------------------------------
-- Text as it stands
-----------------------------------------------------------------------------------------

/-- A character in front of text as it stands is more of that text. -/
theorem consChar_ofLiteral (c : Char) (cs : List Char)
    : consChar c (ofLiteral (String.ofList cs)).segments
      = (ofLiteral (String.ofList (c :: cs))).segments := by
  have hfilled : String.ofList (c :: cs) ≠ "" := by simp
  have hjoined : String.singleton c ++ String.ofList cs = String.ofList (c :: cs) := by
    rw [← String.toList_inj]
    simp
  cases cs with
  | nil =>
      have hempty : (ofLiteral (String.ofList [])).segments = [] := rfl
      rw [hempty, ofLiteral, if_neg hfilled]
      rfl
  | cons d cs =>
      have hfilled' : String.ofList (d :: cs) ≠ "" := by simp
      simp only [ofLiteral, if_neg hfilled, if_neg hfilled', consChar, hjoined]

/-- Text without markup in it reads as it stands, by induction on the text. -/
theorem reads_ofLiteral {cs : List Char}
    (clean : ∀ mark, Markup .top mark → ¬ mark <:+: cs)
    : Reads .top cs (ofLiteral (String.ofList cs)).segments [] := by
  induction cs with
  | nil => exact .nil
  | cons c cs ih =>
      rw [← consChar_ofLiteral]
      refine .text ?_ (ih fun mark markup h => clean mark markup (h.trans ?_))
      · intro mark markup h
        rw [List.append_nil] at h
        exact clean mark markup h.isInfix
      · exact (List.suffix_cons c cs).isInfix

/-- A text compiles to itself as it stands exactly when nothing is left to be read in it. -/
theorem compile_eq_ofLiteral_iff {text : String}
    : compile text = .ok (ofLiteral text) ↔ Settled .top (ofLiteral text).segments := by
  rw [compile_eq_ok_iff]
  constructor
  · exact fun h => h.2.settled
  · intro settled
    refine ⟨rfl, ?_⟩
    have reads := @reads_ofLiteral text.toList
    rw [String.ofList_toList] at reads
    refine reads fun mark markup => ?_
    by_cases empty : text = ""
    · simpa [empty] using markup.ne_nil
    · rw [ofLiteral, if_neg empty] at settled
      cases settled with
      | literal _ clean => exact clean mark markup

/-- Only text that is not empty is a literal. -/
theorem compile_eq_ofLiteral_cases {text : String}
    : compile text = .ok (ofLiteral text)
      ↔ text = ""
        ∨ compile text = .ok { source := text, segments := [.literal text] } := by
  by_cases empty : text = ""
  · subst empty
    simp only [true_or, iff_true]
    exact compile_eq_ok_iff.mpr ⟨rfl, .nil⟩
  · simp [ofLiteral, empty]

-----------------------------------------------------------------------------------------
-- Joined columns
-----------------------------------------------------------------------------------------

theorem joinSegments_cons_cons (delimiter first second : String) (rest : List String)
    : joinSegments delimiter (first :: second :: rest)
      = .value first
        :: ((ofLiteral delimiter).segments ++ joinSegments delimiter (second :: rest)) :=
  rfl

theorem joinSegments_cons_apart (delimiter column : String) (rest : List String)
    : Apart (joinSegments delimiter (column :: rest)) := by
  cases rest <;> exact fun _ _ => by simp [joinSegments]

theorem source_ofColumns_cons_cons (delimiter first second : String) (rest : List String)
    : (ofColumns (first :: second :: rest) delimiter).source.toList
      = '{' :: '$'
        :: (first.toList
          ++ '}'
            :: (delimiter.toList
              ++ (ofColumns (second :: rest) delimiter).source.toList)) := by
  simp [ofColumns, reference, String.intercalate_cons_of_ne_nil]

theorem exists_source_ofColumns_cons (delimiter column : String) (rest : List String)
    : ∃ cs, (ofColumns (column :: rest) delimiter).source.toList = '{' :: cs := by
  cases rest with
  | nil => simp [ofColumns, reference]
  | cons second rest => exact ⟨_, source_ofColumns_cons_cons delimiter column second rest⟩

/-- A reference reads as the column that it spells. -/
theorem reads_ofColumns_singleton {column : String} (named : IsName column.toList)
    (delimiter : String)
    : Reads .top (ofColumns [column] delimiter).source.toList [.value column] [] := by
  have reads : Reads .top _ [.value (String.ofList column.toList)] [] := .value named .nil
  simpa [ofColumns, reference] using reads

/-- Joined columns read as themselves where the delimiter reads as it stands, by induction on
the columns.
-/
theorem reads_ofColumns {columns : List String} {delimiter : String}
    (named : ∀ column ∈ columns, IsName column.toList)
    (reads : Reads .top delimiter.toList (ofLiteral delimiter).segments [])
    : Reads .top (ofColumns columns delimiter).source.toList (joinSegments delimiter columns)
        [] := by
  induction columns with
  | nil => exact .nil
  | cons first rest ih =>
      obtain ⟨namedFirst, namedRest⟩ := List.forall_mem_cons.mp named
      cases rest with
      | nil => exact reads_ofColumns_singleton namedFirst delimiter
      | cons second rest =>
          obtain ⟨cs, hsource⟩ := exists_source_ofColumns_cons delimiter second rest
          -- The delimiter in front of a reference reads as it does at the end of a text.
          have readsDelimiter
              : Reads .top delimiter.toList (ofLiteral delimiter).segments
                  ((ofColumns (second :: rest) delimiter).source.toList ++ []) := by
            rw [hsource]
            exact reads.exchange .opening
          have readsRest :=
            readsDelimiter.append (ih namedRest)
              (joinSegments_cons_apart delimiter second rest)
          have readsAll := Reads.value namedFirst readsRest
          rw [String.ofList_toList] at readsAll
          rwa [source_ofColumns_cons_cons, joinSegments_cons_cons]

/-- Nothing is left to be read in segments where it is not in more of them, by induction on
the segments in front.
-/
theorem Settled.of_append {place : Place} {front back : List Segment}
    (settled : Settled place (front ++ back))
    : Settled place front ∧ Settled place back := by
  induction front with
  | nil => exact ⟨.nil, settled⟩
  | cons head front ih =>
      rw [List.cons_append] at settled
      cases settled with
      | literal filled clean apart tail =>
          obtain ⟨hfront, hback⟩ := ih tail
          refine ⟨.literal filled clean (fun other more h => ?_) hfront, hback⟩
          exact apart other (more ++ back) (by rw [h, List.cons_append])
      | value named tail => exact ⟨.value named (ih tail).1, (ih tail).2⟩
      | conditional named first second tail =>
          exact ⟨.conditional named first second (ih tail).1, (ih tail).2⟩

/-- Where nothing is left to be read in joined columns, markup can spell each of them. -/
theorem named_of_settled {columns : List String} {delimiter : String}
    (settled : Settled .top (joinSegments delimiter columns))
    : ∀ column ∈ columns, IsName column.toList := by
  induction columns with
  | nil => simp
  | cons first rest ih =>
      cases rest with
      | nil =>
          cases settled with
          | value named => simpa using named
      | cons second rest =>
          rw [joinSegments_cons_cons] at settled
          cases settled with
          | value named behind => exact List.forall_mem_cons.mpr ⟨named, ih behind.of_append.2⟩

/-- The text of joined columns compiles back to them exactly when each column is a name that
markup can spell, and either no delimiter is put between them, or the delimiter by itself is a
template that shows it as it stands. No markup arises where delimiters and references meet, and
none that is there can make up for a column that is no name.
-/
theorem compile_source_ofColumns_iff (columns : List String) (delimiter : String)
    : let joined := ofColumns columns delimiter
      compile joined.source = .ok joined
        ↔ (∀ column ∈ columns,
            column ≠ "" ∧ ∀ c ∈ column.toList, isNameChar c = true)
          ∧ (columns.length ≤ 1
            ∨ delimiter = ""
            ∨ compile delimiter
              = .ok { source := delimiter, segments := [.literal delimiter] }) := by
  intro joined
  have hnamed
      : (∀ column ∈ columns, column ≠ "" ∧ ∀ c ∈ column.toList, isNameChar c = true)
        ↔ ∀ column ∈ columns, IsName column.toList := by
    simp [IsName]
  rw [hnamed, ← compile_eq_ofLiteral_cases, compile_eq_ok_iff]
  constructor
  · rintro ⟨-, reads⟩
    refine ⟨named_of_settled reads.settled, ?_⟩
    rcases columns with _ | ⟨first, _ | ⟨second, rest⟩⟩
    · exact .inl (by simp)
    · exact .inl (by simp)
    · right
      have settled : Settled .top (joinSegments delimiter (first :: second :: rest)) :=
        reads.settled
      rw [joinSegments_cons_cons] at settled
      cases settled with
      | value _ behind => exact compile_eq_ofLiteral_iff.mpr behind.of_append.1
  · rintro ⟨named, short | plain⟩
    · refine ⟨rfl, ?_⟩
      rcases columns with _ | ⟨column, _ | ⟨second, rest⟩⟩
      · exact .nil
      · exact reads_ofColumns_singleton (named column (by simp)) delimiter
      · simp at short
    · exact ⟨rfl, reads_ofColumns named (compile_eq_ok_iff.mp plain).2⟩

/-- A delimiter that ends in unfinished markup does not run together with the reference behind
it.
-/
example
    : let joined := ofColumns ["a", "b-2"] "!\x7d\x7b$"
      (compile joined.source).toOption = some joined := by
  decide +kernel

end MailMerge.Template
