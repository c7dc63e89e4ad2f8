import MailMerge.Proofs.Pipe.Hosts
import MailMerge.Proofs.Run.MailAccounting

/-! Dry runs. A run that prints its messages and a run that pipes them to a command refuse the
same addresses, and the texts that the one prints are the texts that the host of the other is
asked to start its command with.
-/

namespace MailMerge

open Mail

variable {σ τ : Type}

-----------------------------------------------------------------------------------------
-- Mailers that differ in their state
-----------------------------------------------------------------------------------------

namespace Mail

/-- A mailer does what another one does, with less in its state. -/
def Mailer.Mirrors (mailer : Mailer σ) (project : τ → σ) (other : Mailer τ) : Prop :=
  ∀ letter state,
    mailer letter (project state) = ((other letter state).1, project (other letter state).2)

theorem pipeTo_recording (host : Pipe.Host σ) (command : String) (limit : Nat) (text : String)
    (state : σ) (record : List Pipe.Invocation)
    : let handed := pipeTo host command limit text state
      pipeTo host.recording command limit text (state, record)
        = (handed.1, handed.2, record ++ [Pipe.invocation command text]) := by
  unfold pipeTo
  rw [Pipe.run_recording]
  rcases Pipe.run host command text (some limit) state with ⟨_ | output, next⟩ <;> rfl

/-- Messages are piped as they would be without a record. -/
theorem mirrors_recording (host : Pipe.Host σ) (command : String) (limit : Nat)
    (sender : Option String)
    : (commanding host command limit sender).Mirrors Prod.fst
        (commanding host.recording command limit sender) := by
  rintro letter ⟨state, record⟩
  unfold commanding handing
  split
  · rw [pipeTo_recording]
  · rfl

end Mail

namespace Post

/-- The same stage of a run with less in the state of its mailer. -/
def project (project : τ → σ) (post : Post τ) : Post σ where
  summary := post.summary
  desk := post.desk
  state := project post.state

variable {mailer : Mailer σ} {other : Mailer τ} {project : τ → σ}
  (mirrors : mailer.Mirrors project other)
include mirrors

theorem deliver_project (index : Nat) (letter : Letter) (post : Post τ)
    : (post.project project).deliver mailer index letter
      = (post.deliver other index letter).project project := by
  have hstep : mailer letter (post.project project).state = _ := mirrors letter post.state
  unfold deliver
  rw [hstep]
  dsimp only
  split <;> rfl

/-- Letters are delivered alike, by the step for one letter. -/
theorem deliverAll_project (index : Nat) (letter : String → Letter) (addresses : List String)
    (post : Post τ)
    : addresses.foldl (fun post address => post.deliver mailer index (letter address))
        (post.project project)
      = (addresses.foldl (fun post address => post.deliver other index (letter address))
          post).project project :=
  List.foldl_hom (Post.project project) fun post address =>
    deliver_project mirrors index (letter address) post

theorem deliverRow_project (recipients : Recipients) (subject body : Template) (post : Post τ)
    (indexed : Row × Nat)
    : (post.project project).deliverRow mailer recipients subject body indexed
      = (post.deliverRow other recipients subject body indexed).project project := by
  obtain ⟨row, index⟩ := indexed
  unfold deliverRow
  dsimp only
  split
  · rfl
  · exact deliverAll_project mirrors index _ _
      { post with desk := (post.desk.move .rendering).move .dispatching }

theorem deliverRows_project (recipients : Recipients) (subject body : Template)
    (rows : List (Row × Nat)) (post : Post τ)
    : rows.foldl (deliverRow mailer recipients subject body) (post.project project)
      = (rows.foldl (deliverRow other recipients subject body) post).project project :=
  List.foldl_hom (Post.project project) fun post indexed =>
    deliverRow_project mirrors recipients subject body post indexed

end Post

/-- Two runs with mailers of which one mirrors the other answer and log the same. -/
theorem Desk.mail_of_mirrors {mailer : Mailer σ} {other : Mailer τ} {project : τ → σ}
    (mirrors : mailer.Mirrors project other) (desk : Desk) (job : MailJob) (state : τ)
    : let run := desk.mail job other state
      desk.mail job mailer (project state) = (run.1, run.2.1, project run.2.2) := by
  unfold Desk.mail
  cases job.prepare with
  | error e => rfl
  | ok templates =>
      rcases desk.begin with ⟨_ | lease, begun⟩
      · rfl
      dsimp only
      rcases begun.gatherMail lease.connection job with ⟨_ | table, used, gathered⟩
      · rfl
      · have hposts :=
          Post.deliverRows_project mirrors job.recipients templates.subject
            (templates.row.getD (job.selection.defaultTemplate table)) table.rows.zipIdx
            { summary := .empty, desk := gathered, state }
        simp only [Post.project] at hposts
        simp only [hposts]

-----------------------------------------------------------------------------------------
-- Letters that are refused for their address only
-----------------------------------------------------------------------------------------

namespace Mail

/-- What comes of a letter whose text is taken if it is handed on. -/
def Letter.verdict (letter : Letter) : Except SendError Unit :=
  if isAddress letter.recipient then .ok () else .error (.invalidAddress letter.recipient)

/-- The delivery of a letter whose text is taken if it is handed on. -/
def Letter.judged (letter : Letter) : Call where
  letter
  result := letter.verdict

theorem isSent_judged (letter : Letter)
    : letter.judged.isSent = isAddress letter.recipient := by
  cases h : isAddress letter.recipient <;> simp [Letter.judged, Letter.verdict, h]

theorem failure?_judged (letter : Letter)
    : letter.judged.failure?
      = if isAddress letter.recipient then none
        else some (letter.recipient, .invalidAddress letter.recipient) := by
  cases h : isAddress letter.recipient <;> simp [Letter.judged, Letter.verdict, h]

/-- The texts that letters are handed on with: those of the letters that have an address. -/
def handedTexts (sender : Option String) (letters : List Letter) : List String :=
  (letters.filter (isAddress ·.recipient)).map fun letter => (letter.message sender).text

theorem handedTexts_cons (sender : Option String) (letter : Letter) (letters : List Letter)
    : handedTexts sender (letter :: letters)
      = (if isAddress letter.recipient then [(letter.message sender).text] else [])
        ++ handedTexts sender letters := by
  cases h : isAddress letter.recipient <;> simp [handedTexts, h]

theorem handedTexts_append (sender : Option String) (front back : List Letter)
    : handedTexts sender (front ++ back)
      = handedTexts sender front ++ handedTexts sender back := by
  simp [handedTexts]

-----------------------------------------------------------------------------------------
-- Printing
-----------------------------------------------------------------------------------------

/-- An outlet that takes all that is written to it. -/
structure Outlet.Takes (outlet : Outlet) : Prop where
  writes : outlet.writeFault = none
  flushes : outlet.flushFault = none

/-- The outlet after texts were printed to it, each with a line feed behind it. -/
def Outlet.printed (outlet : Outlet) (texts : List String) : Outlet :=
  { outlet with text := outlet.text ++ String.join (texts.map (· ++ "\n")) }

theorem Outlet.Takes.printed {outlet : Outlet} (takes : outlet.Takes) (texts : List String)
    : (outlet.printed texts).Takes :=
  ⟨takes.writes, takes.flushes⟩

@[simp]
theorem printed_printed (outlet : Outlet) (front back : List String)
    : (outlet.printed front).printed back = outlet.printed (front ++ back) := by
  simp [Outlet.printed, String.append_assoc]

/-- One letter is refused for its address, or its text is printed. -/
theorem printing_of_takes {outlet : Outlet} (takes : outlet.Takes) (sender : Option String)
    (letter : Letter)
    : printing sender letter outlet
      = ({ result := letter.verdict, note := none },
          outlet.printed (handedTexts sender [letter])) := by
  rw [handedTexts_cons]
  cases h : isAddress letter.recipient with
  | false =>
      simp [printing, handing, Letter.verdict, Receipt.refuse, Outlet.printed, handedTexts, h]
  | true =>
      simp [printing, handing, Letter.verdict, Receipt.accept, Outlet.print, Outlet.printed,
        handedTexts, h, takes.writes, takes.flushes, String.append_assoc]

/-- What is printed are the texts handed on, by induction on the letters. -/
theorem after_printing {outlet : Outlet} (takes : outlet.Takes) (sender : Option String)
    (letters : List Letter)
    : (printing sender).after letters outlet = outlet.printed (handedTexts sender letters) := by
  induction letters generalizing outlet with
  | nil => simp [Mailer.after, handedTexts, Outlet.printed]
  | cons letter letters ih =>
      rw [Mailer.after, printing_of_takes takes, ih (takes.printed _), printed_printed,
        ← handedTexts_append, List.singleton_append]

theorem calls_printing {outlet : Outlet} (takes : outlet.Takes) (sender : Option String)
    (letters : List Letter)
    : (printing sender).calls letters outlet = letters.map Letter.judged := by
  induction letters generalizing outlet with
  | nil => rfl
  | cons letter letters ih =>
      rw [Mailer.calls, printing_of_takes takes, ih (takes.printed _)]
      rfl

-----------------------------------------------------------------------------------------
-- Piping
-----------------------------------------------------------------------------------------

section

variable (host : Pipe.Host σ) (command : String) (limit : Nat) (sender : Option String)

/-- The host is asked to start the command with each text handed on, by induction on the letters.
-/
theorem after_commanding_recording (letters : List Letter) (state : σ)
    (record : List Pipe.Invocation)
    : ((commanding host.recording command limit sender).after letters (state, record)).2
      = record ++ (handedTexts sender letters).map (Pipe.invocation command) := by
  induction letters generalizing state record with
  | nil => simp [Mailer.after, handedTexts]
  | cons letter letters ih =>
      rw [Mailer.after, handedTexts_cons, List.map_append]
      cases h : isAddress letter.recipient with
      | false => simpa [commanding, handing, h] using ih state record
      | true =>
          have first
              : (commanding host.recording command limit sender letter (state, record)).2
                = ((pipeTo host command limit (letter.message sender).text state).2,
                    record ++ [Pipe.invocation command (letter.message sender).text]) := by
            rw [commanding, handing, if_pos h, pipeTo_recording]
          rw [first, ih, List.append_assoc]
          rfl

variable {host command limit} (succeeds : host.Succeeds command (some limit))
include succeeds

/-- Where the command succeeds, a letter is judged by its address. -/
theorem result_commanding (letter : Letter) (state : σ)
    : (commanding host command limit sender letter state).1.result = letter.verdict := by
  unfold commanding handing Letter.verdict
  split
  · obtain ⟨output, next, ran⟩ := succeeds.run (letter.message sender).text state
    rw [pipeTo, ran]
    rfl
  · rfl

theorem calls_commanding (letters : List Letter) (state : σ)
    : (commanding host command limit sender).calls letters state
      = letters.map Letter.judged := by
  induction letters generalizing state with
  | nil => rfl
  | cons letter letters ih =>
      rw [Mailer.calls, ih, result_commanding sender succeeds]
      rfl

end

end Mail

-----------------------------------------------------------------------------------------
-- Runs
-----------------------------------------------------------------------------------------

/-- The rows that are not skipped, each with every address that it goes to. -/
def Recipients.pairs (recipients : Recipients) (rows : List Row) : List (Row × String) :=
  (rows.filter (!recipients.skips ·)).flatMap fun row =>
    (recipients.destinations row).map fun address => (row, address)

/-- The letter of a row to an address. -/
def letterFor (subject body : Template) (pair : Row × String) : Letter where
  recipient := pair.2
  subject := subject.render pair.1.fields
  body := body.render pair.1.fields

theorem letters_eq_map_pairs (recipients : Recipients) (subject body : Template)
    (rows : List Row)
    : recipients.letters subject body rows
      = (recipients.pairs rows).map (letterFor subject body) := by
  simp only [Recipients.letters, Recipients.pairs, List.map_flatMap, List.map_map]
  rfl

/-- The texts that the letters of rows are handed on with. -/
theorem handedTexts_letters (sender : Option String) (recipients : Recipients)
    (subject body : Template) (rows : List Row)
    : handedTexts sender (recipients.letters subject body rows)
      = ((recipients.pairs rows).filter (isAddress ·.2)).map fun pair =>
          ((letterFor subject body pair).message sender).text := by
  simp only [handedTexts, letters_eq_map_pairs, List.filter_map, List.map_map]
  rfl

/-- What a run comes to that refuses letters for their address only. -/
def MailSummary.ofPairs (recipients : Recipients) (rows : List Row) : MailSummary where
  sent := ((recipients.pairs rows).filter (isAddress ·.2)).length
  skipped := rows.countP recipients.skips
  failed :=
    ((recipients.pairs rows).filter (!isAddress ·.2)).map fun (_, address) =>
      (address, .invalidAddress address)

attribute [ext] MailSummary

/-- A run that has all it goes by counts the calls for its letters and the rows that it skips. -/
theorem Desk.Serves.mail_eq {desk : Desk} {job : MailJob} {templates : MailTemplates}
    {table : Table} (serves : desk.Serves job templates table) (mailer : Mailer σ) (state : σ)
    : let body := templates.row.getD (job.selection.defaultTemplate table)
      let letters := job.recipients.letters templates.subject body table.rows
      let calls := mailer.calls letters state
      let summary : MailSummary :=
        {
          sent := calls.countP Call.isSent
          skipped := table.rows.countP job.recipients.skips
          failed := calls.filterMap Call.failure?
        }
      ∃ ended, desk.mail job mailer state = (.ok summary, ended, mailer.after letters state) := by
  intro body letters calls summary
  obtain ⟨begun, hruns⟩ := serves.mail
  obtain ⟨ended, hrun⟩ := hruns σ mailer state
  have accounts :=
    @Post.accounts_deliverRows σ mailer job.recipients templates.subject body
      table.rows.zipIdx { summary := .empty, desk := begun, state }
  simp only [List.zipIdx_map_fst] at accounts
  have hsummary
      : (table.rows.zipIdx.foldl
          (Post.deliverRow mailer job.recipients templates.subject body)
          { summary := .empty, desk := begun, state }).summary
        = summary := by
    refine MailSummary.ext ?_ ?_ ?_
    · exact accounts.sent.trans (Nat.zero_add _)
    · exact accounts.skipped.trans (Nat.zero_add _)
    · exact accounts.failed
  exact ⟨ended, by rw [hrun, hsummary, accounts.state]⟩

/-- A run on a host that keeps a record is the run on the host itself, with a record of what its
letters made the host start.
-/
theorem Desk.Serves.mail_recording {desk : Desk} {job : MailJob} {templates : MailTemplates}
    {table : Table} (serves : desk.Serves job templates table) (host : Pipe.Host σ)
    (command : String) (limit : Nat) (sender : Option String) (state : σ)
    : let body := templates.row.getD (job.selection.defaultTemplate table)
      let letters := job.recipients.letters templates.subject body table.rows
      let run := desk.mail job (commanding host command limit sender) state
      desk.mail job (commanding host.recording command limit sender) (state, [])
        = (run.1, run.2.1, run.2.2,
            (handedTexts sender letters).map (Pipe.invocation command)) := by
  intro body letters run
  have hmirrored :=
    desk.mail_of_mirrors (mirrors_recording host command limit sender) job (state, [])
  obtain ⟨ended, hrecorded⟩ :=
    serves.mail_eq (commanding host.recording command limit sender) (state, [])
  have hrecord := after_commanding_recording host command limit sender letters state []
  rw [List.nil_append] at hrecord
  simp only [run, hmirrored]
  rw [← hrecord, hrecorded]

theorem countP_isSent_judged (subject body : Template) (pairs : List (Row × String))
    : ((pairs.map (letterFor subject body)).map Letter.judged).countP Call.isSent
      = (pairs.filter (isAddress ·.2)).length := by
  rw [List.map_map, List.countP_map, List.countP_eq_length_filter]
  simp only [Function.comp_def, isSent_judged, letterFor]

/-- The failures of judged letters are those of the pairs without an address, by induction on
the pairs.
-/
theorem filterMap_failure?_judged (subject body : Template) (pairs : List (Row × String))
    : ((pairs.map (letterFor subject body)).map Letter.judged).filterMap Call.failure?
      = (pairs.filter (!isAddress ·.2)).map fun (_, address) =>
          (address, .invalidAddress address) := by
  induction pairs with
  | nil => rfl
  | cons pair pairs ih =>
      rw [List.map_cons, List.map_cons, List.filterMap_cons, failure?_judged, ih]
      cases h : isAddress pair.2 <;> simp [letterFor, h]

/-- A run whose calls are judged by the addresses counts the pairs by them. -/
theorem Desk.Serves.mail_of_judged {desk : Desk} {job : MailJob} {templates : MailTemplates}
    {table : Table} (serves : desk.Serves job templates table) {mailer : Mailer σ} {state : σ}
    : let body := templates.row.getD (job.selection.defaultTemplate table)
      let letters := job.recipients.letters templates.subject body table.rows
      mailer.calls letters state = letters.map Letter.judged
      → ∃ ended,
          desk.mail job mailer state
            = (.ok (.ofPairs job.recipients table.rows), ended, mailer.after letters state) := by
  intro body letters judged
  obtain ⟨ended, hrun⟩ := serves.mail_eq mailer state
  simp only [letters, letters_eq_map_pairs] at judged
  rw [letters_eq_map_pairs, judged, countP_isSent_judged, filterMap_failure?_judged] at hrun
  rw [← letters_eq_map_pairs] at hrun
  exact ⟨ended, hrun⟩

/-- A desk fetches one table at most for a selection. -/
theorem Desk.Fetches.unique {desk : Desk} {selection : Selection} {table other : Table}
    (fetches : desk.Fetches selection table) (fetches' : desk.Fetches selection other)
    : table = other := by
  obtain ⟨connection, hconnect, hanswer⟩ := fetches
  obtain ⟨connection', hconnect', hanswer'⟩ := fetches'
  obtain rfl : connection = connection' := Except.ok.inj (hconnect.symm.trans hconnect')
  exact Except.ok.inj (hanswer.symm.trans hanswer')

/-- A run that pipes its messages to a command which always succeeds, and a run of the same job
that prints them to an outlet which takes all of them. One after the other, the host is asked to
start the command with the texts of the messages for the pairs of row and address whose address
is one; these texts are printed, each with a line feed behind it. Both runs come to the same
summary, in which the other pairs have failed for their address. For these nothing is started and
nothing is printed.
-/
theorem preview_of_mail {desk : Desk} {job : MailJob} {host : Pipe.Host σ} {command : String}
    {limit : Nat} (succeeds : host.Succeeds command (some limit)) {state : σ} {outlet : Outlet}
    (writes : outlet.writeFault = none) (flushes : outlet.flushFault = none)
    {summary : MailSummary} (sender : Option String)
    (h : (desk.mail job (commanding host command limit sender) state).1 = .ok summary)
    : ∃ templates table,
        job.prepare = .ok templates
        ∧ desk.Fetches job.selection table
        ∧ let body := templates.row.getD (job.selection.defaultTemplate table)
          let pairs := job.recipients.pairs table.rows
          let texts :=
            (pairs.filter (isAddress ·.2)).map fun pair =>
              ((letterFor templates.subject body pair).message sender).text
          let commanded := desk.mail job (commanding host command limit sender) state
          let printed := desk.mail job (printing sender) outlet
          desk.mail job (commanding host.recording command limit sender) (state, [])
            = (commanded.1, commanded.2.1, commanded.2.2,
                texts.map fun text =>
                  {
                    program := "sh"
                    arguments := ["-c", command]
                    input := Text.toBytes text
                  })
          ∧ printed.2.2
            = { outlet with text := outlet.text ++ String.join (texts.map (· ++ "\n")) }
          ∧ printed.1 = .ok summary
          ∧ summary
            = {
                sent := (pairs.filter (isAddress ·.2)).length
                skipped := table.rows.countP job.recipients.skips
                failed :=
                  (pairs.filter (!isAddress ·.2)).map fun (_, address) =>
                    (address, .invalidAddress address)
              } := by
  obtain ⟨templates, table, serves⟩ := Desk.serves_of_mail h
  refine ⟨templates, table, serves.prepared, serves.fetched, ?_⟩
  intro body pairs texts commanded printed
  have takes : outlet.Takes := ⟨writes, flushes⟩
  have htexts
      : handedTexts sender (job.recipients.letters templates.subject body table.rows) = texts :=
    handedTexts_letters sender job.recipients templates.subject body table.rows
  -- The calls of both mailers are those judged by the addresses, and so are both summaries.
  obtain ⟨endedCommand, hcommanded⟩ :=
    serves.mail_of_judged (calls_commanding sender succeeds _ state)
  obtain ⟨endedPrint, hprinted⟩ :=
    serves.mail_of_judged (calls_printing takes sender _)
  have hsummary : summary = .ofPairs job.recipients table.rows := by
    rw [hcommanded] at h
    exact (Except.ok.inj h).symm
  refine ⟨?_, ?_, ?_, hsummary⟩
  · rw [← htexts]
    exact serves.mail_recording host command limit sender state
  · simp only [printed, hprinted]
    rw [after_printing takes, htexts]
    rfl
  · simp only [printed, hprinted, hsummary]

/-- A row without an address, a row with one that is refused, and a command on a host where all of
them succeed.
-/
theorem preview_of_mail_refusing
    : let table :=
        Table.ofRecords ["name", "email"]
          [["Ada", "a@x"], ["Bob", ""], ["Cy", "c c@x"], ["Di", "d@x"]]
      let desk := Desk.start (.standard .quiet) (.memory [("people", table)] true) .empty
      let job : MailJob :=
        {
          selection :=
            {
              table := "people"
              shown := ["name"]
              criteria := .empty
              window := .unbounded
              rowTemplate := none
              fieldSeparator := " "
            }
          recipients := .column "email"
          subject := some "Hi \x7b$name\x7d"
        }
      let host : Pipe.Host Unit := .quiet
      let command := "sendmail -t"
      let limit := 10000000000
      let mailer := commanding host command limit (some "me@x")
      let outlet : Outlet := { text := "begin\n", writeFault := none, flushFault := none }
      let summary : MailSummary :=
        { sent := 2, skipped := 1, failed := [("c c@x", .invalidAddress "c c@x")] }
      let ada := "From: me@x\nTo: a@x\nSubject: Hi Ada\n\nAda\n"
      let di := "From: me@x\nTo: d@x\nSubject: Hi Di\n\nDi\n"
      host.Succeeds command (some limit)
      ∧ (desk.mail job mailer ()).1 = .ok summary
      ∧ (desk.mail job (commanding host.recording command limit (some "me@x")) ((), [])).2.2.2
        = [
            { program := "sh", arguments := ["-c", "sendmail -t"], input := Text.toBytes ada },
            { program := "sh", arguments := ["-c", "sendmail -t"], input := Text.toBytes di }
          ]
      ∧ (desk.mail job (printing (some "me@x")) outlet).1 = .ok summary
      ∧ (desk.mail job (printing (some "me@x")) outlet).2.2.text
        = "begin\n" ++ ada ++ "\n" ++ di ++ "\n" := by
  intro table desk job host command limit mailer outlet summary ada di
  let templates : MailTemplates :=
    {
      row := none
      subject :=
        {
          source := "Hi \x7b$name\x7d"
          segments := [.literal "Hi ", .value "name"]
        }
    }
  have hselect : Select.select .standard table .all .empty .unbounded = .ok table := by
    refine Select.select_eq_ok_iff.2 ⟨?_, ?_, ?_⟩
    · decide
    · decide
    · exact congrArg (Table.mk table.columns) (Select.sortRows_nil table.rows)
  have hcompile : Template.compile "Hi \x7b$name\x7d" = .ok templates.subject :=
    Outcome.eq_ok_of_toOption (by decide +kernel)
  have hprepare : job.prepare = .ok templates := by
    simp only [MailJob.prepare, MailJob.compileSubject, job, hcompile]
    rfl
  have hfetches : desk.Fetches job.selection table := by
    refine ⟨.memory [("people", table)], rfl, ?_⟩
    exact congrArg (Except.mapError (QueryError.ofSelect "people")) hselect
  have serves : desk.Serves job templates table := ⟨hprepare, hfetches, rfl, rfl⟩
  have succeeds : host.Succeeds command (some limit) := fun _ _ =>
    ⟨_, _, rfl, rfl, rfl, by decide +kernel⟩
  have h : (desk.mail job mailer ()).1 = .ok summary := by
    obtain ⟨ended, hrun⟩ := serves.mail_eq mailer ()
    rw [hrun]
    exact congrArg Except.ok (by decide +kernel)
  have writes : outlet.writeFault = none := rfl
  obtain ⟨found, fetched, hfound, hfetched, hrecorded, hprinted, hresult, -⟩ :=
    preview_of_mail succeeds writes rfl (some "me@x") h
  obtain rfl : templates = found := Except.ok.inj (hprepare.symm.trans hfound)
  obtain rfl : table = fetched := hfetches.unique hfetched
  refine ⟨succeeds, h, (congrArg (·.2.2.2) hrecorded).trans (by decide +kernel), hresult, ?_⟩
  exact (congrArg Outlet.text hprinted).trans (by decide +kernel)

end MailMerge
