import MailMerge.Mail.Message

/-! Folding of line breaks. A text parts into stretches without line breaks and the runs of
line breaks around them; folded, it is these stretches with a space between any two.
-/

namespace MailMerge.Mail

def IsBreaks (text : List Char) : Prop :=
  ∀ c ∈ text, isLineBreak c = true

/-- Text that can stand on one line. -/
def IsPlain (text : List Char) : Prop :=
  ∀ c ∈ text, isLineBreak c = false

/-- The stretches that a text parts into: a run of line breaks in front, which may be empty, a
stretch that is not, and what stands behind it, which starts with a line break unless there is
nothing. So neither the stretches nor the runs between them could be longer.
-/
inductive Parts : List Char → List (List Char) → Prop
  | breaks {front : List Char} (breaks : IsBreaks front) : Parts front []
  | stretch {front text rest : List Char} {others : List (List Char)}
      (breaks : IsBreaks front) (ne_nil : text ≠ []) (plain : IsPlain text)
      (stops : ∀ c ∈ rest.head?, isLineBreak c = true) (parts : Parts rest others)
      : Parts (front ++ text ++ rest) (text :: others)

-----------------------------------------------------------------------------------------
-- Stretches
-----------------------------------------------------------------------------------------

theorem stretches_append_break {c : Char} (kind : isLineBreak c = true)
    (front back : List Char)
    : stretches (front ++ c :: back) = stretches front ++ stretches back := by
  unfold stretches
  rw [List.splitOnP_append_cons front back kind, List.filter_append]

/-- Line breaks in front of a text are in none of its stretches. -/
theorem stretches_breaks_append {front : List Char} (breaks : IsBreaks front)
    (back : List Char)
    : stretches (front ++ back) = stretches back := by
  induction front with
  | nil => rfl
  | cons c front ih =>
      obtain ⟨kind, breaks⟩ := List.forall_mem_cons.mp breaks
      exact (stretches_append_break kind [] (front ++ back)).trans (ih breaks)

theorem stretches_of_plain {text : List Char} (ne_nil : text ≠ []) (plain : IsPlain text)
    : stretches text = [text] := by
  unfold stretches
  rw [List.splitOnP_eq_singleton plain]
  simp [ne_nil]

theorem stretches_plain_append {text rest : List Char} (ne_nil : text ≠ [])
    (plain : IsPlain text) (stops : ∀ c ∈ rest.head?, isLineBreak c = true)
    : stretches (text ++ rest) = text :: stretches rest := by
  have alone := stretches_of_plain ne_nil plain
  cases rest with
  | nil => rw [List.append_nil, alone]; rfl
  | cons c rest =>
      have kind : isLineBreak c = true := stops c rfl
      have behind : stretches (c :: rest) = stretches rest :=
        stretches_append_break kind [] rest
      rw [stretches_append_break kind, alone, behind, List.singleton_append]

namespace Parts

theorem stretches_eq {text : List Char} {others : List (List Char)}
    (parts : Parts text others)
    : stretches text = others := by
  induction parts with
  | breaks breaks =>
      have none := stretches_breaks_append breaks []
      rwa [List.append_nil] at none
  | stretch breaks ne_nil plain stops _ ih =>
      rw [List.append_assoc, stretches_breaks_append breaks,
        stretches_plain_append ne_nil plain stops, ih]

theorem consBreak {c : Char} {text : List Char} {others : List (List Char)}
    (kind : isLineBreak c = true) (parts : Parts text others)
    : Parts (c :: text) others := by
  cases parts with
  | breaks breaks => exact .breaks (List.forall_mem_cons.mpr ⟨kind, breaks⟩)
  | stretch breaks ne_nil plain stops parts =>
      exact .stretch (List.forall_mem_cons.mpr ⟨kind, breaks⟩) ne_nil plain stops parts

/-- A character is a stretch of its own in front of a line break or of nothing. -/
theorem consStretch {c : Char} {text : List Char} {others : List (List Char)}
    (kind : isLineBreak c = false) (stops : ∀ c ∈ text.head?, isLineBreak c = true)
    (parts : Parts text others)
    : Parts (c :: text) ([c] :: others) := by
  have plain : IsPlain [c] := by simpa [IsPlain] using kind
  have parted : Parts ([] ++ [c] ++ text) ([c] :: others) :=
    .stretch (by simp [IsBreaks]) (by simp) plain stops parts
  exact parted

/-- A character in front of a stretch belongs to it. -/
theorem consChar {c : Char} {text rest : List Char} {others : List (List Char)}
    (kind : isLineBreak c = false) (plain : IsPlain text)
    (stops : ∀ c ∈ rest.head?, isLineBreak c = true) (parts : Parts rest others)
    : Parts (c :: text ++ rest) ((c :: text) :: others) := by
  have plain : IsPlain (c :: text) := List.forall_mem_cons.mpr ⟨kind, plain⟩
  have parted : Parts ([] ++ (c :: text) ++ rest) ((c :: text) :: others) :=
    .stretch (by simp [IsBreaks]) (by simp) plain stops parts
  exact parted

/-- Every text has parts, by induction on its characters. -/
theorem of_text (text : List Char) : ∃ others, Parts text others := by
  induction text with
  | nil => exact ⟨[], .breaks (by simp [IsBreaks])⟩
  | cons c text ih =>
      obtain ⟨others, parts⟩ := ih
      cases kind : isLineBreak c with
      | true => exact ⟨others, parts.consBreak kind⟩
      | false =>
          cases parts with
          | breaks breaks =>
              have stops : ∀ c ∈ text.head?, isLineBreak c = true := fun c mem =>
                breaks c (List.mem_of_mem_head? mem)
              exact ⟨_, consStretch kind stops (.breaks breaks)⟩
          | @stretch front text rest others breaks ne_nil plain stops parts =>
              cases front with
              | nil => exact ⟨_, consChar kind plain stops parts⟩
              | cons b front =>
                  have stops' : ∀ c ∈ (b :: front ++ text ++ rest).head?, isLineBreak c = true := by
                    intro c mem
                    obtain rfl : b = c := by simpa using mem
                    exact (List.forall_mem_cons.mp breaks).1
                  exact ⟨_, consStretch kind stops' (.stretch breaks ne_nil plain stops parts)⟩

theorem isPlain {text : List Char} {others : List (List Char)} (parts : Parts text others)
    : ∀ stretch ∈ others, IsPlain stretch := by
  induction parts with
  | breaks _ => simp
  | stretch _ _ plain _ _ ih => exact List.forall_mem_cons.mpr ⟨plain, ih⟩

end Parts

theorem parts_iff {text : List Char} {others : List (List Char)}
    : Parts text others ↔ stretches text = others := by
  constructor
  · exact Parts.stretches_eq
  · rintro rfl
    obtain ⟨others, parts⟩ := Parts.of_text text
    rwa [parts.stretches_eq]

-----------------------------------------------------------------------------------------
-- Folded text
-----------------------------------------------------------------------------------------

theorem IsPlain.append {front back : List Char} (front_plain : IsPlain front)
    (back_plain : IsPlain back)
    : IsPlain (front ++ back) :=
  List.forall_mem_append.mpr ⟨front_plain, back_plain⟩

theorem isPlain_intercalate {others : List (List Char)}
    (plain : ∀ stretch ∈ others, IsPlain stretch)
    : IsPlain ([' '].intercalate others) := by
  induction others with
  | nil => simp [IsPlain]
  | cons stretch others ih =>
      obtain ⟨head, tail⟩ := List.forall_mem_cons.mp plain
      cases others with
      | nil => rwa [List.intercalate_singleton]
      | cons next others =>
          have space : IsPlain [' '] := by simp [IsPlain, isLineBreak]
          rw [List.intercalate_cons_cons]
          exact (head.append space).append (ih tail)

/-- A folded text stands on one line. -/
theorem isPlain_fold (text : String) : IsPlain (fold text).toList := by
  unfold fold
  rw [String.toList_ofList]
  exact isPlain_intercalate (parts_iff.mpr rfl).isPlain

/-- What stands on one line already is left as it is. -/
theorem fold_of_plain {text : String} (plain : IsPlain text.toList) : fold text = text := by
  unfold fold
  by_cases empty : text.toList = []
  · rw [String.toList_eq_nil_iff.mp empty]
    rfl
  · rw [stretches_of_plain empty plain, List.intercalate_singleton, String.ofList_toList]

theorem fold_fold (text : String) : fold (fold text) = fold text :=
  fold_of_plain (isPlain_fold text)

end MailMerge.Mail
