import MailMerge.Proofs.Mail.Folding

/-! The layout of messages without a sender. Their headers end at the first empty line, and what
stands before and behind that line gives back the recipient, the folded subject and the body,
whatever the subject and the body say.
-/

namespace MailMerge.Mail

-----------------------------------------------------------------------------------------
-- Empty lines
-----------------------------------------------------------------------------------------

/-- Cuts a text at its first empty line, into what stands before it and behind it. -/
def cutAtEmptyLine? : List Char → Option (List Char × List Char)
  | [] => none
  | c :: text =>
      if c = '\n' ∧ text.head? = some '\n' then some ([], text.tail)
      else (cutAtEmptyLine? text).map fun cut => (c :: cut.1, cut.2)

/-- No empty line stands before the one that a text is cut at. -/
theorem length_le_of_cutAtEmptyLine? {text front back : List Char}
    (cut : cutAtEmptyLine? text = some (front, back))
    : ∀ front' back', text = front' ++ '\n' :: '\n' :: back' → front.length ≤ front'.length := by
  induction text generalizing front with
  | nil => cases cut
  | cons c text ih =>
      intro front' back' parted
      by_cases here : c = '\n' ∧ text.head? = some '\n'
      · rw [cutAtEmptyLine?, if_pos here] at cut
        obtain ⟨rfl, -⟩ := Prod.mk.inj (Option.some.inj cut)
        exact Nat.zero_le _
      · rw [cutAtEmptyLine?, if_neg here] at cut
        obtain ⟨⟨later, rest⟩, found, same⟩ := Option.map_eq_some_iff.mp cut
        obtain ⟨rfl, rfl⟩ := Prod.mk.inj same
        cases front' with
        | nil =>
            obtain ⟨rfl, rfl⟩ := List.cons.inj parted
            exact absurd ⟨rfl, rfl⟩ here
        | cons d front' =>
            obtain ⟨rfl, behind⟩ := List.cons.inj parted
            exact Nat.succ_le_succ (ih found front' back' behind)

theorem ne_newline_of_plain {c : Char} (kind : isLineBreak c = false) : c ≠ '\n' := by
  rintro rfl
  cases kind

theorem IsPlain.newline_not_mem {line : List Char} (plain : IsPlain line) : '\n' ∉ line :=
  fun mem => ne_newline_of_plain (plain _ mem) rfl

theorem IsPlain.return_not_mem {line : List Char} (plain : IsPlain line) : '\r' ∉ line := by
  intro mem
  cases plain _ mem

/-- A line is before the cut if the text behind it does not start with an empty line. -/
theorem cutAtEmptyLine?_line {line rest : List Char} (plain : IsPlain line)
    (more : rest.head? ≠ some '\n')
    : cutAtEmptyLine? (line ++ '\n' :: rest)
      = (cutAtEmptyLine? rest).map fun cut => (line ++ '\n' :: cut.1, cut.2) := by
  induction line with
  | nil => simp [cutAtEmptyLine?, more]
  | cons c line ih =>
      obtain ⟨kind, plain⟩ := List.forall_mem_cons.mp plain
      rw [List.cons_append, cutAtEmptyLine?, if_neg (by simp [ne_newline_of_plain kind]),
        ih plain, Option.map_map]
      rfl

theorem cutAtEmptyLine?_lastLine {line : List Char} (plain : IsPlain line) (back : List Char)
    : cutAtEmptyLine? (line ++ '\n' :: '\n' :: back) = some (line, back) := by
  induction line with
  | nil => simp [cutAtEmptyLine?]
  | cons c line ih =>
      obtain ⟨kind, plain⟩ := List.forall_mem_cons.mp plain
      rw [List.cons_append, cutAtEmptyLine?, if_neg (by simp [ne_newline_of_plain kind]),
        ih plain]
      rfl

-----------------------------------------------------------------------------------------
-- Reading messages
-----------------------------------------------------------------------------------------

/-- What stands behind the name of a header, if a line starts with that name. -/
def headerValue? (name line : List Char) : Option String :=
  if name.isPrefixOf line then some (String.ofList (line.drop name.length)) else none

theorem headerValue?_append (name : List Char) (value : String)
    : headerValue? name (name ++ value.toList) = some value := by
  simp [headerValue?]

/-- Line breaks are control characters, and no address has any of those. -/
theorem isPlain_of_isAddress {address : String} (accepted : isAddress address = true)
    : IsPlain address.toList := by
  intro c mem
  simp only [isAddress, Bool.and_eq_true, Bool.not_eq_true', List.any_eq_false] at accepted
  have uncontrolled := accepted.2 c mem
  cases kind : isLineBreak c with
  | false => rfl
  | true =>
      exfalso
      apply uncontrolled
      simp only [isLineBreak, Bool.or_eq_true, decide_eq_true_eq] at kind
      rcases kind with rfl | rfl <;> rfl

namespace Message

def recipientLine (message : Message) : String :=
  "To: " ++ message.recipient

def subjectLine (message : Message) : String :=
  "Subject: " ++ fold message.subject

/-- Reads a message that has no sender: two headers, an empty line and a body. -/
def read? (text : String) : Option Message := do
  let (headers, body) ← cutAtEmptyLine? text.toList
  match headers.splitOn '\n' with
  | [first, second] => do
      let recipient ← headerValue? "To: ".toList first
      let subject ← headerValue? "Subject: ".toList second
      pure { sender := none, recipient, subject, body := String.ofList body }
  | _ => none

/-- A message as it arrives: its subject is on one line, and its body ends with a line feed. -/
def sent (message : Message) : Message :=
  { message with subject := fold message.subject, body := closeBody message.body }

section

variable {message : Message}

theorem isPlain_recipientLine (accepted : isAddress message.recipient = true)
    : IsPlain message.recipientLine.toList := by
  rw [recipientLine, String.toList_append]
  exact IsPlain.append (by simp [IsPlain, isLineBreak]) (isPlain_of_isAddress accepted)

theorem isPlain_subjectLine (message : Message) : IsPlain message.subjectLine.toList := by
  rw [subjectLine, String.toList_append]
  exact IsPlain.append (by simp [IsPlain, isLineBreak]) (isPlain_fold message.subject)

theorem text_of_anonymous (anonymous : message.sender = none)
    : message.text
      = message.recipientLine ++ "\n" ++ message.subjectLine ++ "\n\n"
        ++ closeBody message.body := by
  rw [← String.toList_inj]
  simp [text, anonymous, recipientLine, subjectLine]

theorem toList_text (anonymous : message.sender = none)
    : message.text.toList
      = message.recipientLine.toList
        ++ '\n' :: (message.subjectLine.toList
          ++ '\n' :: '\n' :: (closeBody message.body).toList) := by
  rw [text_of_anonymous anonymous]
  simp

/-- The headers of a message without a sender are the lines before its first empty line. -/
theorem cutAtEmptyLine?_text (anonymous : message.sender = none)
    (accepted : isAddress message.recipient = true)
    : cutAtEmptyLine? message.text.toList
      = some
          (message.recipientLine.toList ++ '\n' :: message.subjectLine.toList,
            (closeBody message.body).toList) := by
  have more : (message.subjectLine.toList
      ++ '\n' :: '\n' :: (closeBody message.body).toList).head? ≠ some '\n' := by
    simp [subjectLine]
  rw [toList_text anonymous, cutAtEmptyLine?_line (isPlain_recipientLine accepted) more,
    cutAtEmptyLine?_lastLine (isPlain_subjectLine message), Option.map_some]

theorem splitOn_headers (accepted : isAddress message.recipient = true)
    : (message.recipientLine.toList ++ '\n' :: message.subjectLine.toList).splitOn '\n'
      = [message.recipientLine.toList, message.subjectLine.toList] := by
  have first := (isPlain_recipientLine accepted).newline_not_mem
  have second := (isPlain_subjectLine message).newline_not_mem
  rw [List.splitOn_append_cons_self_of_not_mem first, List.splitOn_eq_singleton second]

theorem headerValue?_recipientLine (message : Message)
    : headerValue? "To: ".toList message.recipientLine.toList = some message.recipient := by
  rw [recipientLine, String.toList_append, headerValue?_append]

theorem headerValue?_subjectLine (message : Message)
    : headerValue? "Subject: ".toList message.subjectLine.toList
      = some (fold message.subject) := by
  rw [subjectLine, String.toList_append, headerValue?_append]

/-- Reading undoes sending, up to what sending makes of the subject and the body. -/
theorem read?_text_eq_sent (anonymous : message.sender = none)
    (accepted : isAddress message.recipient = true)
    : read? message.text = some message.sent := by
  unfold read?
  rw [cutAtEmptyLine?_text anonymous accepted]
  simp only [Option.bind_eq_bind, Option.bind_some, splitOn_headers accepted,
    headerValue?_recipientLine, headerValue?_subjectLine, String.ofList_toList, Option.pure_def,
    sent, anonymous]

end

/-- Messages without a sender are laid out as two header lines, which end at the first empty
line, and a body. The subject stands in its line with every run of line breaks between other
text replaced by one space and all others gone, and what the text reads back as is the message
up to such folding and up to a line feed at the end of its body.
-/
theorem text_decodes (message : Message) (anonymous : message.sender = none)
    (accepted : isAddress message.recipient = true)
    : let recipientLine := "To: " ++ message.recipient
      let subjectLine := "Subject: " ++ fold message.subject
      let headers := recipientLine ++ "\n" ++ subjectLine
      let body :=
        if message.body.toList.getLast? = some '\n' then message.body
        else message.body ++ "\n"
      message.text = headers ++ "\n\n" ++ body
      ∧ (∀ front back,
          message.text.toList = front ++ '\n' :: '\n' :: back
          → headers.length ≤ front.length)
      ∧ headers.toList.splitOn '\n' = [recipientLine.toList, subjectLine.toList]
      ∧ '\r' ∉ headers.toList
      ∧ read? message.text
        = some
            {
              sender := none
              recipient := message.recipient
              subject := fold message.subject
              body
            }
      ∧ (∀ other : Message,
          other.sender = none
          → isAddress other.recipient = true
          → other.text = message.text
          → other.sent = message.sent)
      ∧ '\r' ∉ (fold message.subject).toList
      ∧ '\n' ∉ (fold message.subject).toList
      ∧ (∃ stretches,
          Parts message.subject.toList stretches
          ∧ (fold message.subject).toList = [' '].intercalate stretches)
      ∧ fold (fold message.subject) = fold message.subject := by
  intro recipientLine subjectLine headers body
  have headers_eq : headers.toList
      = message.recipientLine.toList ++ '\n' :: message.subjectLine.toList := by
    simp [headers, recipientLine, subjectLine, Message.recipientLine, Message.subjectLine]
  have plain := isPlain_fold message.subject
  refine ⟨text_of_anonymous anonymous, ?_, ?_, ?_, ?_, ?_, plain.return_not_mem,
    plain.newline_not_mem, ⟨_, parts_iff.mpr rfl, String.toList_ofList⟩,
    fold_fold message.subject⟩
  · rw [← String.length_toList, headers_eq]
    exact length_le_of_cutAtEmptyLine? (cutAtEmptyLine?_text anonymous accepted)
  · rw [headers_eq]
    exact splitOn_headers accepted
  · rw [headers_eq]
    have first := (isPlain_recipientLine accepted).return_not_mem
    have second := (isPlain_subjectLine message).return_not_mem
    simp [first, second]
  · simp only [read?_text_eq_sent anonymous accepted, sent, anonymous, closeBody, body]
  · intro other otherAnonymous otherAccepted same
    have readOther := read?_text_eq_sent otherAnonymous otherAccepted
    rw [same, read?_text_eq_sent anonymous accepted] at readOther
    exact (Option.some.inj readOther).symm

/-- A subject that tries to add a header and a body that looks like headers. -/
theorem text_decodes_hostile
    : let message : Message :=
        {
          sender := none
          recipient := "ada@example.com"
          subject := "\r\nHello\r\nBcc: eve@example.com\n"
          body := "\nTo: eve@example.com\n\nHi"
        }
      isAddress message.recipient = true
      ∧ message.text
        = "To: ada@example.com\nSubject: Hello Bcc: eve@example.com\n\n"
          ++ "\nTo: eve@example.com\n\nHi\n"
      ∧ read? message.text
        = some
            {
              sender := none
              recipient := "ada@example.com"
              subject := "Hello Bcc: eve@example.com"
              body := "\nTo: eve@example.com\n\nHi\n"
            } := by
  intro message
  have accepted : isAddress message.recipient = true := by decide
  have folded : fold message.subject = "Hello Bcc: eve@example.com" := by decide +kernel
  obtain ⟨layout, -, -, -, reading, -⟩ := text_decodes message rfl accepted
  rw [folded] at layout reading
  exact ⟨accepted, layout.trans (by decide +kernel), reading.trans (by decide +kernel)⟩

end Message

end MailMerge.Mail
