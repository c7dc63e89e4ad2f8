import MailMerge.Proofs.Mail.Layout

/-! The headers of a message with a sender. The recipient and the subject keep to their lines,
but the sender is written as it stands. So each line break in it starts another line, and what
stands behind it is read as a header of its own, or as the body where an empty line arises.
-/

namespace MailMerge.Mail

-----------------------------------------------------------------------------------------
-- Lines
-----------------------------------------------------------------------------------------

/-- The lines of a text in front of its first empty line. -/
def headerLines (text : String) : List (List Char) :=
  (text.toList.splitOn '\n').takeWhile (· ≠ [])

theorem splitOn_append_newline (front back : List Char)
    : (front ++ '\n' :: back).splitOn '\n' = front.splitOn '\n' ++ back.splitOn '\n' :=
  List.splitOnP_append_cons front back (by simp)

/-- What stands behind an empty line has no part in the lines in front of the first one. -/
theorem takeWhile_append_empty (lines more : List (List Char))
    : (lines ++ [] :: more).takeWhile (· ≠ []) = lines.takeWhile (· ≠ []) := by
  induction lines with
  | nil => simp
  | cons line lines ih => rw [List.cons_append, List.takeWhile_cons, List.takeWhile_cons, ih]

/-- The first line of a text is a part of it. -/
theorem mem_of_mem_firstLine {text line : List Char} {lines : List (List Char)}
    (parted : text.splitOn '\n' = line :: lines) {c : Char} (member : c ∈ line)
    : c ∈ text := by
  have joined : ['\n'].intercalate (text.splitOn '\n') = text := List.intercalate_splitOn '\n'
  rw [parted] at joined
  rw [← joined]
  cases lines with
  | nil => simpa using member
  | cons next lines =>
      rw [List.intercalate_cons_cons]
      simp [member]

theorem isPlain_iff {text : List Char} : IsPlain text ↔ '\n' ∉ text ∧ '\r' ∉ text := by
  constructor
  · exact fun plain => ⟨plain.newline_not_mem, plain.return_not_mem⟩
  · rintro ⟨unfed, unreturned⟩ c member
    have hfeed : c ≠ '\n' := fun h => unfed (h ▸ member)
    have hreturn : c ≠ '\r' := fun h => unreturned (h ▸ member)
    simp [isLineBreak, hfeed, hreturn]

-----------------------------------------------------------------------------------------
-- Stretches
-----------------------------------------------------------------------------------------

theorem ne_nil_of_mem_stretches {text stretch : List Char} (member : stretch ∈ stretches text)
    : stretch ≠ [] := by
  simpa using (List.mem_filter.mp member).2

theorem isBreaks_of_stretches {text : List Char} (none : stretches text = []) : IsBreaks text := by
  have parts : Parts text [] := parts_iff.mpr none
  cases parts with
  | breaks breaks => exact breaks

/-- A text that is folded to what stands in front of one of its line breaks has nothing but line
breaks behind that.
-/
theorem isBreaks_of_fold_eq {text : String} {front back : List Char} {c : Char}
    (kind : isLineBreak c = true) (parted : text.toList = front ++ c :: back)
    (folded : (fold text).toList = front)
    : IsBreaks back := by
  have plain : IsPlain front := folded ▸ isPlain_fold text
  rw [fold, String.toList_ofList, parted, stretches_append_break kind] at folded
  refine isBreaks_of_stretches ?_
  cases hback : stretches back with
  | nil => rfl
  | cons stretch others =>
      -- A stretch behind the break would be joined to the front and make the folded text longer.
      exfalso
      rw [hback] at folded
      by_cases empty : front = []
      · have ne_nil : stretch ≠ [] := ne_nil_of_mem_stretches (hback ▸ List.mem_cons_self)
        have alone : stretches [] = [] := rfl
        rw [empty, alone, List.nil_append] at folded
        cases others with
        | nil => exact ne_nil (by simpa using folded)
        | cons next others =>
            rw [List.intercalate_cons_cons] at folded
            simp [ne_nil] at folded
      · rw [stretches_of_plain empty plain, List.singleton_append, List.intercalate_cons_cons]
          at folded
        simp at folded

namespace Message

variable {message : Message} {sender : String}

def senderLine (sender : String) : String :=
  "From: " ++ sender

theorem toList_text_of_sender (given : message.sender = some sender)
    : message.text.toList
      = (senderLine sender).toList
        ++ '\n' :: (message.recipientLine.toList
          ++ '\n' :: (message.subjectLine.toList
            ++ '\n' :: ([] ++ '\n' :: (closeBody message.body).toList))) := by
  simp [text, given, senderLine, recipientLine, subjectLine]

/-- The header lines are those of the sender and the two other ones behind them, as far as no
empty line is among them.
-/
theorem headerLines_text (given : message.sender = some sender)
    (accepted : isAddress message.recipient = true)
    : headerLines message.text
      = ((senderLine sender).toList.splitOn '\n'
          ++ [message.recipientLine.toList, message.subjectLine.toList]).takeWhile (· ≠ []) := by
  have first := (isPlain_recipientLine accepted).newline_not_mem
  have second := (isPlain_subjectLine message).newline_not_mem
  rw [headerLines, toList_text_of_sender given, splitOn_append_newline, splitOn_append_newline,
    splitOn_append_newline, splitOn_append_newline, List.splitOn_eq_singleton first,
    List.splitOn_eq_singleton second, List.splitOn_nil, ← List.append_assoc, ← List.append_assoc,
    List.singleton_append, takeWhile_append_empty, List.append_assoc]
  rfl

/-- The line of a sender is the first header line. -/
theorem splitOn_senderLine {front back : List Char} (parted : sender.toList = front ++ '\n' :: back)
    (clean : '\n' ∉ front)
    : (senderLine sender).toList.splitOn '\n'
      = ("From: ".toList ++ front) :: back.splitOn '\n' := by
  rw [senderLine, String.toList_append, parted, ← List.append_assoc, splitOn_append_newline,
    List.splitOn_eq_singleton (by simpa using clean), List.singleton_append]

/-- A sender on one line is the value of the only header that it makes. -/
theorem headerLines_of_plain (given : message.sender = some sender)
    (accepted : isAddress message.recipient = true) (plain : IsPlain sender.toList)
    : headerLines message.text
      = [
          (senderLine sender).toList, message.recipientLine.toList, message.subjectLine.toList
        ] := by
  have clean : '\n' ∉ (senderLine sender).toList := by
    simpa [senderLine] using plain.newline_not_mem
  rw [headerLines_text given accepted, List.splitOn_eq_singleton clean, List.singleton_append]
  simp [senderLine, recipientLine, subjectLine]

/-- A sender whose header lines look like those of its folded text is on one line. For if it has
a line feed, the line behind that is the one of the recipient, which folding would have kept.
-/
theorem isPlain_of_headerLines (given : message.sender = some sender)
    (accepted : isAddress message.recipient = true)
    (h
      : headerLines message.text
        = [
            (senderLine (fold sender)).toList, message.recipientLine.toList,
            message.subjectLine.toList
          ])
    : IsPlain sender.toList := by
  rw [headerLines_text given accepted] at h
  by_cases fed : '\n' ∈ sender.toList
  · obtain ⟨front, back, parted, clean⟩ := List.eq_append_cons_of_mem fed
    rw [splitOn_senderLine parted clean] at h
    obtain ⟨line, lines, hlines⟩ := List.exists_cons_of_ne_nil (List.splitOn_ne_nil '\n' back)
    rw [hlines] at h
    -- An empty second line ends the headers after one line. Another one is the recipient's.
    by_cases empty : line = []
    · simp [empty] at h
    · rw [List.cons_append, List.cons_append, List.takeWhile_cons_of_pos (by simp),
        List.takeWhile_cons_of_pos (by simpa using empty), List.cons.injEq, List.cons.injEq] at h
      obtain ⟨hfirst, hline, -⟩ := h
      have folded : (fold sender).toList = front := by
        simpa [senderLine] using hfirst.symm
      have breaks : IsBreaks back := isBreaks_of_fold_eq (by decide) parted folded
      have member : 'T' ∈ back := by
        refine mem_of_mem_firstLine hlines ?_
        simp [hline, recipientLine]
      exact absurd (breaks _ member) (by decide)
  · rw [List.splitOn_eq_singleton (by simpa [senderLine] using fed)] at h
    have folded : sender.toList = (fold sender).toList := by
      simpa [senderLine, recipientLine, subjectLine] using h
    rw [folded]
    exact isPlain_fold sender

/-- The header lines of a message with a sender are the lines of its sender as it stands, and
behind them those of the recipient and the subject, up to the first empty line. So they are three
with the sender on the first of them exactly when it has no line break.
-/
theorem sender_keeps_to_line_iff (given : message.sender = some sender)
    (accepted : isAddress message.recipient = true)
    : let recipientLine := ("To: " ++ message.recipient).toList
      let subjectLine := ("Subject: " ++ fold message.subject).toList
      headerLines message.text
          = (("From: " ++ sender).toList.splitOn '\n'
              ++ [recipientLine, subjectLine]).takeWhile (· ≠ [])
        ∧ (headerLines message.text
            = [("From: " ++ fold sender).toList, recipientLine, subjectLine]
          ↔ '\n' ∉ sender.toList ∧ '\r' ∉ sender.toList) := by
  intro recipientLine subjectLine
  rw [← isPlain_iff]
  refine ⟨headerLines_text given accepted, isPlain_of_headerLines given accepted, ?_⟩
  intro plain
  rw [fold_of_plain plain]
  exact headerLines_of_plain given accepted plain

/-- A sender with a header and a body of its own. -/
theorem sender_keeps_to_line_iff_hostile
    : let sender := "me@example.com\nBcc: eve@example.com\n\nBuy this"
      let message : Message :=
        {
          sender := some sender
          recipient := "ada@example.com"
          subject := "Hi"
          body := "Hello"
        }
      message.sender = some sender
      ∧ isAddress message.recipient = true
      ∧ headerLines message.text
        = ["From: me@example.com".toList, "Bcc: eve@example.com".toList]
      ∧ headerLines message.text
        ≠ [
            ("From: " ++ fold sender).toList, "To: ada@example.com".toList,
            "Subject: Hi".toList
          ] := by
  intro sender message
  have accepted : isAddress message.recipient = true := by decide
  have folded : fold message.subject = "Hi" := by decide +kernel
  obtain ⟨hlines, hiff⟩ := @sender_keeps_to_line_iff message sender rfl accepted
  rw [folded] at hlines hiff
  exact ⟨rfl, accepted, hlines.trans (by decide +kernel),
    fun h => absurd (hiff.mp h).1 (by decide +kernel)⟩

/-- A sender with a second line in it adds a header. -/
theorem sender_adds_header
    : let message : Message :=
        {
          sender := some "me@example.com\nBcc: eve@example.com"
          recipient := "ada@example.com"
          subject := "Hi"
          body := "Hello"
        }
      isAddress message.recipient = true
      ∧ headerLines message.text
        = [
            "From: me@example.com".toList, "Bcc: eve@example.com".toList,
            "To: ada@example.com".toList, "Subject: Hi".toList
          ] := by
  decide +kernel

end Message

end MailMerge.Mail
