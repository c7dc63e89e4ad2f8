import MailMerge.Proofs.Outcome
import MailMerge.Proofs.Run.Guards
import MailMerge.Proofs.Select.RowOrder
import MailMerge.Proofs.Select.Selection
import MailMerge.Run.Mail
import MailMerge.Standard

/-! The account of a mail run: which letters its mailer is asked to deliver, and how the
summary counts what came of them. The mailer is any function of its own state, so it may
fail at any letters it likes; the letters that it gets do not depend on it.
-/

namespace MailMerge

open Mail

-----------------------------------------------------------------------------------------
-- Calls of a mailer
-----------------------------------------------------------------------------------------

namespace Mail

variable {σ : Type}

/-- One delivery that a mailer was asked for, and what came of it. -/
structure Call where
  letter : Letter
  result : Except SendError Unit

def Call.isSent (call : Call) : Bool :=
  call.result.isOk

/-- The recipient of a letter that was not delivered, and the reason. -/
def Call.failure? (call : Call) : Option (String × SendError) :=
  match call.result with
  | .ok () => none
  | .error error => some (call.letter.recipient, error)

section

variable (letter : Letter) (error : SendError)

@[simp]
theorem Call.isSent_ok : Call.isSent { letter, result := .ok () } = true :=
  rfl

@[simp]
theorem Call.isSent_error : Call.isSent { letter, result := .error error } = false :=
  rfl

@[simp]
theorem Call.failure?_ok : Call.failure? { letter, result := .ok () } = none :=
  rfl

@[simp]
theorem Call.failure?_error
    : Call.failure? { letter, result := .error error } = some (letter.recipient, error) :=
  rfl

end

/-- The calls of a mailer that is handed letters one after the other. -/
def Mailer.calls (mailer : Mailer σ) : List Letter → σ → List Call
  | [], _ => []
  | letter :: letters, state =>
      { letter, result := (mailer letter state).1.result }
        :: mailer.calls letters (mailer letter state).2

/-- The state that a mailer is left in by letters. -/
def Mailer.after (mailer : Mailer σ) : List Letter → σ → σ
  | [], state => state
  | letter :: letters, state => mailer.after letters (mailer letter state).2

/-- A mailer that writes down the calls that it gets, and is the same otherwise. -/
def Mailer.recording (mailer : Mailer σ) : Mailer (σ × List Call) :=
  fun letter (state, record) =>
    let (receipt, next) := mailer letter state
    (receipt, next, record ++ [{ letter, result := receipt.result }])

variable (mailer : Mailer σ)

theorem calls_append (front back : List Letter) (state : σ)
    : mailer.calls (front ++ back) state
      = mailer.calls front state ++ mailer.calls back (mailer.after front state) := by
  induction front generalizing state with
  | nil => rfl
  | cons letter front ih => simp [Mailer.calls, Mailer.after, ih]

theorem after_append (front back : List Letter) (state : σ)
    : mailer.after (front ++ back) state = mailer.after back (mailer.after front state) := by
  induction front generalizing state with
  | nil => rfl
  | cons letter front ih => simp [Mailer.after, ih]

@[simp]
theorem map_letter_calls (letters : List Letter) (state : σ)
    : (mailer.calls letters state).map Call.letter = letters := by
  induction letters generalizing state with
  | nil => rfl
  | cons letter letters ih => simp [Mailer.calls, ih]

@[simp]
theorem length_calls (letters : List Letter) (state : σ)
    : (mailer.calls letters state).length = letters.length := by
  rw [← List.length_map Call.letter, map_letter_calls]

/-- The record is the list of the calls, by induction on the letters. -/
theorem after_recording (letters : List Letter) (state : σ) (record : List Call)
    : mailer.recording.after letters (state, record)
      = (mailer.after letters state, record ++ mailer.calls letters state) := by
  induction letters generalizing state record with
  | nil => simp [Mailer.after, Mailer.calls]
  | cons letter letters ih => simp [Mailer.after, Mailer.calls, Mailer.recording, ih]

/-- A call either delivers its letter or is a failure, by induction on the calls. -/
theorem countP_isSent_add_failures (calls : List Call)
    : calls.countP Call.isSent + (calls.filterMap Call.failure?).length = calls.length := by
  induction calls with
  | nil => rfl
  | cons call calls ih =>
      obtain ⟨letter, result⟩ := call
      rcases result with _ | ⟨⟨⟩⟩
      · simp only [List.countP_cons, Call.isSent_error, List.filterMap_cons,
          Call.failure?_error, List.length_cons]
        simp only [Bool.false_eq_true, if_false]
        omega
      · simp only [List.countP_cons, Call.isSent_ok, List.filterMap_cons, Call.failure?_ok,
          List.length_cons, if_true]
        omega

end Mail

-----------------------------------------------------------------------------------------
-- Letters of a run
-----------------------------------------------------------------------------------------

/-- The addresses that the mail of a row goes to when the row is not skipped. -/
def Recipients.destinations (recipients : Recipients) (row : Row) : List String :=
  match recipients with
  | broadcast addresses => addresses
  | column name => [row.text name]

/-- A row is skipped if it lacks its recipient or has an empty one. -/
def Recipients.skips (recipients : Recipients) (row : Row) : Bool :=
  match recipients with
  | broadcast _ => false
  | column name => row.text name = ""

/-- The letters of a row, rendered on that row, one for each of its addresses. -/
def Recipients.rowLetters (recipients : Recipients) (subject body : Template) (row : Row)
    : List Letter :=
  (recipients.destinations row).map fun recipient =>
    { recipient, subject := subject.render row.fields, body := body.render row.fields }

/-- The letters of all rows that are not skipped, in the order of the rows. -/
def Recipients.letters (recipients : Recipients) (subject body : Template) (rows : List Row)
    : List Letter :=
  (rows.filter (!recipients.skips ·)).flatMap (recipients.rowLetters subject body)

theorem Recipients.letters_cons (recipients : Recipients) (subject body : Template)
    (row : Row) (rows : List Row)
    : recipients.letters subject body (row :: rows)
      = recipients.letters subject body [row] ++ recipients.letters subject body rows := by
  cases h : recipients.skips row <;> simp [letters, h]

theorem addresses?_eq (recipients : Recipients) (row : Row)
    : recipients.addresses? row
      = if recipients.skips row then none else some (recipients.destinations row) := by
  cases recipients with
  | broadcast addresses => rfl
  | column name =>
      cases h : row.get? name with
      | none => simp [Recipients.addresses?, Recipients.skips, Row.text, h]
      | some address =>
          simp [Recipients.addresses?, Recipients.skips, Recipients.destinations, Row.text, h]

/-- With fixed addresses, no row is skipped. -/
theorem Recipients.letters_broadcast (addresses : List String) (subject body : Template)
    (rows : List Row)
    : (broadcast addresses).letters subject body rows
      = rows.flatMap ((broadcast addresses).rowLetters subject body) := by
  rw [letters, List.filter_eq_self.mpr (by simp [skips])]

theorem length_letters_broadcast (addresses : List String) (subject body : Template)
    (rows : List Row)
    : (Recipients.letters (.broadcast addresses) subject body rows).length
      = rows.length * addresses.length := by
  rw [Recipients.letters_broadcast, List.length_flatMap]
  simp [Recipients.rowLetters, Recipients.destinations, List.map_const']

theorem length_letters_column (name : String) (subject body : Template) (rows : List Row)
    : (Recipients.letters (.column name) subject body rows).length
        + rows.countP (Recipients.column name).skips
      = rows.length := by
  have hone (row : Row)
      : ((Recipients.column name).rowLetters subject body row).length = 1 := by
    simp [Recipients.rowLetters, Recipients.destinations]
  rw [Recipients.letters, List.length_flatMap]
  simp only [hone, List.map_const', List.sum_replicate_nat, Nat.mul_one]
  rw [← List.countP_eq_length_filter, Nat.add_comm,
    List.length_eq_countP_add_countP (Recipients.column name).skips]
  simp

-----------------------------------------------------------------------------------------
-- The account of a post
-----------------------------------------------------------------------------------------

/-- What lies between two stages of a run: some letters were handed to the mailer, all of
them are counted, and some rows were skipped.
-/
structure Post.Accounts {σ : Type} (mailer : Mailer σ) (letters : List Letter)
    (skipped : Nat) (before after : Post σ)
    : Prop where
  state : after.state = mailer.after letters before.state
  sent
    : after.summary.sent
      = before.summary.sent + (mailer.calls letters before.state).countP Call.isSent
  skipped : after.summary.skipped = before.summary.skipped + skipped
  failed
    : after.summary.failed
      = before.summary.failed ++ (mailer.calls letters before.state).filterMap Call.failure?

namespace Post

variable {σ : Type} {mailer : Mailer σ}

theorem Accounts.refl (post : Post σ) : post.Accounts mailer [] 0 post where
  state := rfl
  sent := rfl
  skipped := rfl
  failed := by simp [Mailer.calls]

/-- Stages follow each other: letters are handed over one after the other, and counts add up.
-/
theorem Accounts.trans {front back : List Letter} {early late : Nat}
    {before middle after : Post σ} (hfront : before.Accounts mailer front early middle)
    (hback : middle.Accounts mailer back late after)
    : before.Accounts mailer (front ++ back) (early + late) after where
  state := by rw [hback.state, hfront.state, after_append]
  sent := by
    rw [hback.sent, hfront.sent, hfront.state, calls_append, List.countP_append,
      Nat.add_assoc]
  skipped := by rw [hback.skipped, hfront.skipped, Nat.add_assoc]
  failed := by
    rw [hback.failed, hfront.failed, hfront.state, calls_append, List.filterMap_append,
      List.append_assoc]

/-- One delivery is one call, counted by what came of it. -/
theorem accounts_deliver (index : Nat) (letter : Letter) (post : Post σ)
    : post.Accounts mailer [letter] 0 (post.deliver mailer index letter) := by
  unfold deliver
  rcases hresult : (mailer letter post.state).1.result with error | ⟨⟨⟩⟩
  · refine ⟨?_, ?_, ?_, ?_⟩ <;> simp [hresult, Mailer.after, Mailer.calls]
  · refine ⟨?_, ?_, ?_, ?_⟩ <;> simp [hresult, Mailer.after, Mailer.calls]

/-- Deliveries of one row are its letters in the order of its addresses, by induction on
these.
-/
theorem accounts_deliverAll (index : Nat) (letter : String → Letter)
    (addresses : List String) (post : Post σ)
    : post.Accounts mailer (addresses.map letter) 0
        (addresses.foldl (fun post recipient => post.deliver mailer index (letter recipient))
          post) := by
  induction addresses generalizing post with
  | nil => exact .refl post
  | cons recipient addresses ih =>
      exact (accounts_deliver index (letter recipient) post).trans (ih _)

variable (recipients : Recipients) (subject body : Template)

/-- A row hands over its letters or is skipped. -/
theorem accounts_deliverRow (post : Post σ) (row : Row) (index : Nat)
    : post.Accounts mailer (recipients.letters subject body [row])
        ([row].countP recipients.skips)
        (post.deliverRow mailer recipients subject body (row, index)) := by
  cases hskips : recipients.skips row with
  | true =>
      simp only [deliverRow, addresses?_eq, hskips, if_true]
      refine ⟨?_, ?_, ?_, ?_⟩ <;>
        simp [Recipients.letters, hskips, Mailer.after, Mailer.calls]
  | false =>
      have hletters : recipients.letters subject body [row]
          = recipients.rowLetters subject body row := by
        simp [Recipients.letters, hskips]
      have hcount : [row].countP recipients.skips = 0 := by simp [hskips]
      simp only [deliverRow, addresses?_eq, hskips, Bool.false_eq_true, if_false, hletters,
        hcount]
      -- The steps of the desk have no part in the account.
      let letter (recipient : String) : Letter :=
        { recipient, subject := subject.render row.fields, body := body.render row.fields }
      have h :=
        @accounts_deliverAll σ mailer index letter (recipients.destinations row)
          { post with desk := (post.desk.move .rendering).move .dispatching }
      exact ⟨h.state, h.sent, h.skipped, h.failed⟩

/-- All rows together hand over all letters of a run, by induction on the rows. -/
theorem accounts_deliverRows (rows : List (Row × Nat)) (post : Post σ)
    : post.Accounts mailer (recipients.letters subject body (rows.map Prod.fst))
        ((rows.map Prod.fst).countP recipients.skips)
        (rows.foldl (deliverRow mailer recipients subject body) post) := by
  induction rows generalizing post with
  | nil => exact .refl post
  | cons indexed rows ih =>
      obtain ⟨row, index⟩ := indexed
      have h := (accounts_deliverRow recipients subject body post row index).trans (ih _)
      rw [List.map_cons, Recipients.letters_cons, List.countP_cons, Nat.add_comm]
      simpa using h

end Post

-----------------------------------------------------------------------------------------
-- The account of a run
-----------------------------------------------------------------------------------------

namespace Desk

/-- The table of rows that a mail run at the desk fetches for a selection. -/
def Fetches (desk : Desk) (selection : Selection) (table : Table) : Prop :=
  ∃ connection,
    desk.source.connect desk.seen = .ok connection
    ∧ (connection.fetch desk.platform desk.seen selection.table .all selection.criteria
        selection.window).answer
      = .ok table

/-- What a mail run goes by: the templates it compiles and the rows it fetches, in a table
that has every column shown and every column of addresses.
-/
structure Serves (desk : Desk) (job : MailJob) (templates : MailTemplates) (table : Table)
    : Prop where
  prepared : job.prepare = .ok templates
  fetched : desk.Fetches job.selection table
  shown : requireColumns job.selection.table table job.selection.shown = .ok ()
  addressed : requireColumns job.selection.table table job.recipients.columns = .ok ()

/-- A desk whose last run is forgotten. -/
def reset (desk : Desk) : Desk :=
  { desk with phase := .idle }

theorem begin_eq (desk : Desk)
    : desk.begin
      = match desk.source.connect desk.seen with
        | .error e => (.error e, desk.reset.move .aborted)
        | .ok connection =>
            (.ok (.ofConnection connection),
              ({ desk.reset with opened := desk.opened + 1 }.note connection.opening).move
                .connected) := by
  have same : desk.reset.source.connect desk.reset.seen = desk.source.connect desk.seen := rfl
  unfold Desk.begin
  rw [show ({ desk with phase := .idle } : Desk) = desk.reset from rfl, openConnection, same]
  cases desk.source.connect desk.seen <;> rfl

theorem platform_begin (desk : Desk) : desk.begin.2.platform = desk.platform := by
  rw [begin_eq]
  cases desk.source.connect desk.seen <;> rfl

theorem seen_begin (desk : Desk) : desk.begin.2.seen = desk.seen := by
  rw [begin_eq]
  cases desk.source.connect desk.seen <;> rfl

/-- A run starts with a guard of a connection to the source. -/
theorem begin_eq_ok_iff {desk : Desk} {lease : Lease}
    : desk.begin.1 = .ok lease
      ↔ desk.source.connect desk.seen = .ok lease.connection := by
  rw [begin_eq]
  cases desk.source.connect desk.seen with
  | error e => simp
  | ok connection =>
      simp only [Except.ok.injEq]
      constructor
      · rintro rfl
        rfl
      · rintro rfl
        exact lease.ofConnection_connection

theorem gather_eq_ok_iff {desk : Desk} {connection : Connection} {selection : Selection}
    {projection : Select.Projection} {table : Table}
    : (desk.gather connection selection projection).1 = .ok table
      ↔ (connection.fetch desk.platform desk.seen selection.table projection
            selection.criteria selection.window).answer
          = .ok table
        ∧ requireColumns selection.table table selection.shown = .ok () := by
  have hplatform : (desk.move .fetching).platform = desk.platform := rfl
  have hseen : (desk.move .fetching).seen = desk.seen := rfl
  unfold gather
  simp only [hplatform, hseen]
  cases (connection.fetch desk.platform desk.seen selection.table projection
    selection.criteria selection.window).answer with
  | error e => simp
  | ok fetched =>
      simp only [Outcome.map_eq_ok_iff, Except.ok.injEq]
      constructor
      · rintro ⟨⟨⟩, hshown, rfl⟩
        exact ⟨rfl, hshown⟩
      · rintro ⟨rfl, hshown⟩
        exact ⟨(), hshown, rfl⟩

theorem gatherMail_eq_ok_iff {desk : Desk} {connection : Connection} {job : MailJob}
    {table : Table}
    : (desk.gatherMail connection job).1 = .ok table
      ↔ (desk.gather connection job.selection .all).1 = .ok table
        ∧ requireColumns job.selection.table table job.recipients.columns = .ok () := by
  unfold gatherMail
  rcases desk.gather connection job.selection .all with ⟨_ | fetched, used, gathered⟩
  · simp
  · simp only [Outcome.map_eq_ok_iff, Except.ok.injEq]
    constructor
    · rintro ⟨⟨⟩, haddressed, rfl⟩
      exact ⟨rfl, haddressed⟩
    · rintro ⟨rfl, haddressed⟩
      exact ⟨(), haddressed, rfl⟩

/-- A run that ends well had all that it goes by. -/
theorem serves_of_mail {σ : Type} {desk : Desk} {job : MailJob} {mailer : Mailer σ}
    {state : σ} {summary : MailSummary} (h : (desk.mail job mailer state).1 = .ok summary)
    : ∃ templates table, desk.Serves job templates table := by
  unfold mail at h
  cases hprepare : job.prepare with
  | error e => simp [hprepare] at h
  | ok templates =>
      rcases hbegin : desk.begin with ⟨_ | lease, begun⟩
      · simp [hprepare, hbegin] at h
      rcases hgather : begun.gatherMail lease.connection job with ⟨_ | table, used, gathered⟩
      · simp [hprepare, hbegin, hgather] at h
      have hconnect := begin_eq_ok_iff.mp (congrArg Prod.fst hbegin)
      obtain ⟨hfetched, haddressed⟩ := gatherMail_eq_ok_iff.mp (congrArg Prod.fst hgather)
      obtain ⟨hanswer, hshown⟩ := gather_eq_ok_iff.mp hfetched
      have hplatform := desk.platform_begin
      have hseen := desk.seen_begin
      rw [hbegin] at hplatform hseen
      rw [hplatform, hseen] at hanswer
      have fetched : desk.Fetches job.selection table := ⟨_, hconnect, hanswer⟩
      exact ⟨templates, table, hprepare, fetched, hshown, haddressed⟩

/-- A run that has all it goes by hands the rows to any mailer alike, and ends well. -/
theorem Serves.mail {desk : Desk} {job : MailJob} {templates : MailTemplates} {table : Table}
    (serves : desk.Serves job templates table)
    : ∃ begun, ∀ (τ : Type) (other : Mailer τ) (start : τ),
        let body := templates.row.getD (job.selection.defaultTemplate table)
        let post :=
          table.rows.zipIdx.foldl
            (Post.deliverRow other job.recipients templates.subject body)
            { summary := .empty, desk := begun, state := start }
        ∃ ended, desk.mail job other start = (.ok post.summary, ended, post.state) := by
  obtain ⟨hprepare, ⟨connection, hconnect, hanswer⟩, hshown, haddressed⟩ := serves
  have hbegin : desk.begin.1 = .ok (.ofConnection connection) := begin_eq_ok_iff.mpr hconnect
  have hplatform := desk.platform_begin
  have hseen := desk.seen_begin
  rcases hbegun : desk.begin with ⟨opened, begun⟩
  rw [hbegun] at hbegin hplatform hseen
  rw [← hplatform, ← hseen] at hanswer
  have hfetched := gather_eq_ok_iff.mpr ⟨hanswer, hshown⟩
  have hgather := gatherMail_eq_ok_iff.mpr ⟨hfetched, haddressed⟩
  rcases hgathered : begun.gatherMail connection job with ⟨fetched, used, gathered⟩
  rw [hgathered] at hgather
  cases hbegin
  cases hgather
  refine ⟨gathered, ?_⟩
  intro τ other start body post
  simp only [Desk.mail, hprepare, hbegun, Lease.connection_ofConnection, hgathered]
  exact ⟨_, rfl⟩

end Desk

/-- What the summary of a run says of the calls that its mailer got and of the rows that it
went through.
-/
structure MailSummary.Accounts (summary : MailSummary) (recipients : Recipients)
    (rows : List Row) (calls : List Call)
    : Prop where
  sent : summary.sent = calls.countP Call.isSent
  failed : summary.failed = calls.filterMap Call.failure?
  skipped : summary.skipped = rows.countP recipients.skips
  broadcast
    : ∀ addresses,
        recipients = .broadcast addresses
        → summary.skipped = 0
          ∧ summary.sent + summary.failed.length = rows.length * addresses.length
  column
    : ∀ name,
        recipients = .column name
        → summary.sent + summary.failed.length + summary.skipped = rows.length

/-- Counts that are right call by call add up to the rows and their addresses. -/
theorem MailSummary.accounts_of_counts {σ : Type} {summary : MailSummary}
    {recipients : Recipients} {subject body : Template} {rows : List Row}
    {mailer : Mailer σ} {state : σ}
    (sent
      : summary.sent
        = (mailer.calls (recipients.letters subject body rows) state).countP Call.isSent)
    (failed
      : summary.failed
        = (mailer.calls (recipients.letters subject body rows) state).filterMap Call.failure?)
    (skipped : summary.skipped = rows.countP recipients.skips)
    : summary.Accounts recipients rows
        (mailer.calls (recipients.letters subject body rows) state) := by
  have hcalls : summary.sent + summary.failed.length
      = (recipients.letters subject body rows).length := by
    rw [sent, failed, countP_isSent_add_failures, length_calls]
  refine ⟨sent, failed, skipped, ?_, ?_⟩
  · rintro addresses rfl
    rw [skipped, hcalls, length_letters_broadcast]
    simp [Recipients.skips]
  · rintro name rfl
    rw [skipped, hcalls, length_letters_column]

/-- A mail run that ends well calls its mailer once for each letter of the rows that it does
not skip, in order, and accounts for all of them. The letters are the same for any mailer,
whatever it refuses.
-/
theorem account_of_mail {σ : Type} {desk : Desk} {job : MailJob} {mailer : Mailer σ}
    {state : σ} {summary : MailSummary} (h : (desk.mail job mailer state).1 = .ok summary)
    : ∃ templates table,
        job.prepare = .ok templates
        ∧ desk.Fetches job.selection table
        ∧ let body := templates.row.getD (job.selection.defaultTemplate table)
          let letters := job.recipients.letters templates.subject body table.rows
          (∀ (τ : Type) (other : Mailer τ) (start : τ),
            (desk.mail job other.recording (start, [])).2.2
              = (other.after letters start, other.calls letters start))
          ∧ (desk.mail job mailer state).2.2 = mailer.after letters state
          ∧ summary.Accounts job.recipients table.rows (mailer.calls letters state) := by
  obtain ⟨templates, table, serves⟩ := Desk.serves_of_mail h
  obtain ⟨begun, hruns⟩ := serves.mail
  refine ⟨templates, table, serves.prepared, serves.fetched, ?_⟩
  intro body letters
  -- The account holds of every mailer, so also of one that keeps a record of its calls.
  have accounts {τ : Type} (other : Mailer τ) (start : τ) :=
    @Post.accounts_deliverRows τ other job.recipients templates.subject body
      table.rows.zipIdx { summary := .empty, desk := begun, state := start }
  simp only [List.zipIdx_map_fst] at accounts
  refine ⟨?_, ?_, ?_⟩
  · intro τ other start
    obtain ⟨ended, hrun⟩ := hruns (τ × List Call) other.recording (start, [])
    rw [hrun, (accounts other.recording (start, [])).state, after_recording]
    rfl
  · obtain ⟨ended, hrun⟩ := hruns σ mailer state
    rw [hrun, (accounts mailer state).state]
  · obtain ⟨ended, hrun⟩ := hruns σ mailer state
    rw [hrun] at h
    cases h
    have post := accounts mailer state
    exact MailSummary.accounts_of_counts (post.sent.trans (Nat.zero_add _)) post.failed
      (post.skipped.trans (Nat.zero_add _))

/-- A mailer that refuses every other letter, rows with and without an address. -/
theorem account_of_mail_refusing
    : let table :=
        Table.ofRecords ["name", "email"]
          [["Ada", "a@x"], ["Bob", ""], ["Cy", "c@x"], ["Di", "d@x"]]
      let desk := Desk.start (.standard .quiet) (.memory [("people", table)] true) .empty
      let job : MailJob :=
        {
          selection :=
            {
              table := "people"
              shown := ["name"]
              criteria := .empty
              window := .unbounded
              rowTemplate := none
              fieldSeparator := " "
            }
          recipients := .column "email"
          subject := none
        }
      let mailer : Mailer Nat := fun letter count =>
        (if count % 2 = 0 then .refuse (.invalidAddress letter.recipient) else .accept,
          count + 1)
      let summary : MailSummary :=
        {
          sent := 1
          skipped := 1
          failed := [("a@x", .invalidAddress "a@x"), ("d@x", .invalidAddress "d@x")]
        }
      (desk.mail job mailer 0).1 = .ok summary
      ∧ ∃ fetched letters,
          desk.Fetches job.selection fetched
          ∧ (desk.mail job mailer.recording (0, [])).2.2
            = (mailer.after letters 0, mailer.calls letters 0)
          ∧ summary.Accounts job.recipients fetched.rows (mailer.calls letters 0) := by
  intro table desk job mailer summary
  have hselect : Select.select .standard table .all .empty .unbounded = .ok table := by
    refine Select.select_eq_ok_iff.2 ⟨?_, ?_, ?_⟩
    · decide
    · decide
    · exact congrArg (Table.mk table.columns) (Select.sortRows_nil table.rows)
  have serves : desk.Serves job { row := none, subject := .ofLiteral "people" } table := by
    refine ⟨rfl, ⟨.memory [("people", table)], rfl, ?_⟩, rfl, rfl⟩
    exact congrArg (Except.mapError (QueryError.ofSelect "people")) hselect
  have h : (desk.mail job mailer 0).1 = .ok summary := by
    obtain ⟨begun, hruns⟩ := serves.mail
    obtain ⟨ended, hrun⟩ := hruns Nat mailer 0
    rw [hrun]
    with_unfolding_all rfl
  obtain ⟨templates, fetched, -, hfetches, hrecord, -, accounts⟩ := account_of_mail h
  exact ⟨h, fetched, _, hfetches, hrecord Nat mailer 0, accounts⟩

end MailMerge
