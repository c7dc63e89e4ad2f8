import MailMerge.Proofs.Run.Course

/-! What can be wrong with a mail run, and in which order it is looked for. A run fails when
something is wrong, tells of the first such thing, and then has not sent any mail.
-/

namespace MailMerge

open Select Mail

/-- What can be wrong with a mail run. -/
inductive MailFault where
  | noRecipients
  | rowTemplate
  | subject
  | unreachable
  | unknownTable
  | criteriaColumn
  | pattern
  | shownColumn
  | recipientColumn
  deriving DecidableEq, Repr

namespace MailFault

/-- The order in which a run looks for faults. -/
def inOrder : List MailFault :=
  [
    noRecipients, rowTemplate, subject, unreachable, unknownTable, criteriaColumn, pattern,
    shownColumn, recipientColumn
  ]

theorem mem_inOrder (fault : MailFault) : fault ∈ inOrder := by
  cases fault <;> decide

/-- The first answer to a list of questions is that to the first question, if it has one. -/
theorem findSome?_cons_or {α β : Type} (f : α → Option β) (first : α) (rest : List α)
    : (first :: rest).findSome? f = (f first).or (rest.findSome? f) := by
  cases h : f first <;> simp [h]

/-- The error about the first of some names that is no column of the table of a job. A table
that is not there has no such fault.
-/
def unknownColumn? (tables : List (String × Table)) (job : MailJob) (names : List String)
    : Option RunError :=
  (tables.lookup job.selection.table).bind fun table =>
    (unknown? table names).map fun column =>
      .query (.unknownColumn job.selection.table column)

/-- The error that a fault is told by, if a job has it with the tables of a source in memory. -/
def error? (limits : Limits) (tables : List (String × Table)) (isReachable : Bool)
    (job : MailJob)
    : MailFault → Option RunError
  | noRecipients => if job.recipients = .broadcast [] then some .noRecipients else none
  | rowTemplate => Template.refusal? job.selection.rowTemplate
  | subject => Template.refusal? job.subject
  | unreachable => if isReachable then none else some (.connect (.notFound "memory"))
  | unknownTable =>
      if (tables.lookup job.selection.table).isSome then none
      else some (.query (.unknownTable job.selection.table))
  | criteriaColumn => unknownColumn? tables job job.selection.criteria.columns
  | pattern =>
      (invalid? limits job.selection.criteria.clauses).map fun (refused, reason) =>
        .query (.invalidPattern refused reason)
  | shownColumn => unknownColumn? tables job job.selection.shown
  | recipientColumn => unknownColumn? tables job job.recipients.columns

end MailFault

-----------------------------------------------------------------------------------------
-- Fetching
-----------------------------------------------------------------------------------------

theorem error?_requireColumns (name : String) (fetched : Table) (names : List String)
    : Outcome.error? (requireColumns name fetched names)
      = (unknown? fetched names).map (.unknownColumn name) := by
  unfold requireColumns unknown?
  cases names.find? (· ∉ fetched.columns) <;> rfl

/-- Selecting all columns keeps them. -/
theorem columns_of_select_all {limits : Limits} {table result : Table} {criteria : Criteria}
    {window : PageWindow} (h : select limits table .all criteria window = .ok result)
    : result.columns = table.columns := by
  obtain ⟨-, -, rfl⟩ := select_eq_ok_iff.mp h
  rfl

namespace Desk

variable (desk : Desk)

/-- What a fetch answers: the rows of the selection, if they have all columns to show. -/
theorem fst_gather (connection : Connection) (selection : Selection) (projection : Projection)
    : (desk.gather connection selection projection).1
      = (do
          let fetched ←
            (connection.fetch desk.platform desk.seen selection.table projection
              selection.criteria selection.window).answer
          (requireColumns selection.table fetched selection.shown).map fun _ => fetched) := by
  have hplatform : (desk.move .fetching).platform = desk.platform := rfl
  have hseen : (desk.move .fetching).seen = desk.seen := rfl
  unfold gather
  simp only [hplatform, hseen]
  cases (connection.fetch desk.platform desk.seen selection.table projection
    selection.criteria selection.window).answer <;> rfl

theorem fst_gatherMail (connection : Connection) (job : MailJob)
    : (desk.gatherMail connection job).1
      = (do
          let fetched ← (desk.gather connection job.selection .all).1
          (requireColumns job.selection.table fetched job.recipients.columns).map
            fun _ => fetched) := by
  unfold gatherMail
  rcases desk.gather connection job.selection .all with ⟨_ | fetched, used, gathered⟩ <;> rfl

variable {job : MailJob} {tables : List (String × Table)} {table : Table}

/-- A table that is there is fetched from with all its columns, or its selection is refused. -/
theorem error?_fetch_memory (platform : Platform) (files : Files.View) {selection : Selection}
    (found : tables.lookup selection.table = some table)
    : let fetched :=
        (Connection.memory tables).fetch platform files selection.table .all selection.criteria
          selection.window
      Outcome.error? fetched.answer
        = ((unknown? table selection.criteria.columns).map (.unknownColumn selection.table)).or
            ((invalid? platform.limits selection.criteria.clauses).map fun (refused, reason) =>
              .invalidPattern refused reason)
      ∧ ∀ result, fetched.answer = .ok result → result.columns = table.columns := by
  intro fetched
  have hanswer : fetched.answer
      = (select platform.limits table .all selection.criteria selection.window).mapError
          (QueryError.ofSelect selection.table) := by
    simp only [fetched, Connection.fetch, Connection.load, found]
    rfl
  rw [hanswer]
  refine ⟨?_, ?_⟩
  · rw [Outcome.error?_mapError, error?_select, Option.map_or, Option.map_map, Option.map_map,
      namedColumns, Projection.requested_all, List.append_nil]
    rfl
  · intro result h
    exact columns_of_select_all (Outcome.mapError_eq_ok_iff.mp h)

/-- What is wrong with the fetch of a mail run from a table in memory. -/
theorem error?_gatherMail_memory (found : tables.lookup job.selection.table = some table)
    : let unknownColumn := QueryError.unknownColumn job.selection.table
      Outcome.error? (desk.gatherMail (.memory tables) job).1
      = ((unknown? table job.selection.criteria.columns).map unknownColumn).or
          (((invalid? desk.platform.limits job.selection.criteria.clauses).map
              fun (refused, reason) => .invalidPattern refused reason).or
            (((unknown? table job.selection.shown).map unknownColumn).or
              ((unknown? table job.recipients.columns).map unknownColumn))) := by
  intro unknownColumn
  obtain ⟨hfetch, hcolumns⟩ := error?_fetch_memory desk.platform desk.seen found
  -- Columns are looked for in the rows fetched, which have those of the table.
  have hgather : Outcome.error? (desk.gather (.memory tables) job.selection .all).1
      = (((unknown? table job.selection.criteria.columns).map unknownColumn).or
          ((invalid? desk.platform.limits job.selection.criteria.clauses).map
            fun (refused, reason) => .invalidPattern refused reason)).or
          ((unknown? table job.selection.shown).map unknownColumn) := by
    rw [fst_gather, ← hfetch]
    refine Outcome.error?_bind_eq fun fetched h => ?_
    rw [Outcome.error?_map, error?_requireColumns, unknown?, hcolumns fetched h]
    rfl
  rw [fst_gatherMail, ← Option.or_assoc, ← Option.or_assoc, ← hgather]
  refine Outcome.error?_bind_eq fun fetched h => ?_
  obtain ⟨hanswer, -⟩ := gather_eq_ok_iff.mp h
  rw [Outcome.error?_map, error?_requireColumns, unknown?, hcolumns fetched hanswer]
  rfl

theorem error?_gatherMail_memory_none (missing : tables.lookup job.selection.table = none)
    : Outcome.error? (desk.gatherMail (.memory tables) job).1
      = some (.unknownTable job.selection.table) := by
  rw [fst_gatherMail, fst_gather]
  simp only [Connection.fetch, Connection.load, missing]
  rfl

-----------------------------------------------------------------------------------------
-- Runs
-----------------------------------------------------------------------------------------

/-- The error of a mail run does not depend on its mailer. -/
theorem error?_mail {σ : Type} (mailer : Mailer σ) (state : σ)
    : Outcome.error? (desk.mail job mailer state).1
      = (Outcome.error? job.prepare).or
          (Outcome.error?
            (do
              let lease ← desk.begin.1.mapError RunError.connect
              (desk.begin.2.gatherMail lease.connection job).1.mapError RunError.query)) := by
  unfold mail
  cases job.prepare with
  | error e => rfl
  | ok templates =>
      rcases desk.begin with ⟨_ | lease, begun⟩
      · rfl
      · dsimp only [Outcome.mapError_ok, bind, Except.bind]
        rcases begun.gatherMail lease.connection job with ⟨_ | table, used, gathered⟩ <;> rfl

/-- A run that fails leaves its mailer alone. -/
theorem state_of_mail_error {σ : Type} {mailer : Mailer σ} {state : σ} {e : RunError}
    (h : (desk.mail job mailer state).1 = .error e)
    : (desk.mail job mailer state).2.2 = state := by
  unfold mail at h ⊢
  cases hprepare : job.prepare with
  | error e => rfl
  | ok templates =>
      rcases hbegin : desk.begin with ⟨_ | lease, begun⟩
      · rfl
      · rcases hgather : begun.gatherMail lease.connection job with ⟨_ | table, used, gathered⟩
        · simp only [hgather]
        · simp [hprepare, hbegin, hgather] at h

section

variable {isReachable : Bool} (hsource : desk.source = .memory tables isReachable)
include hsource

/-- What is wrong with a run once it is prepared, with a source in memory. -/
theorem error?_connected_memory
    : Outcome.error?
        (do
          let lease ← desk.begin.1.mapError RunError.connect
          (desk.begin.2.gatherMail lease.connection job).1.mapError RunError.query)
      = [
          MailFault.unreachable, .unknownTable, .criteriaColumn, .pattern, .shownColumn,
          .recipientColumn
        ].findSome? (·.error? desk.platform.limits tables isReachable job) := by
  rw [fst_begin, hsource]
  cases isReachable with
  | false => rfl
  | true =>
      show Outcome.error? ((desk.begin.2.gatherMail (.memory tables) job).1.mapError _) = _
      rw [Outcome.error?_mapError]
      cases found : tables.lookup job.selection.table with
      | none =>
          rw [error?_gatherMail_memory_none _ found]
          simp [MailFault.error?, found]
      | some table =>
          rw [error?_gatherMail_memory _ found, platform_begin]
          simp only [MailFault.findSome?_cons_or, List.findSome?_nil, MailFault.error?,
            MailFault.unknownColumn?, found, Option.map_or, Option.map_map, Option.or_none]
          rfl

/-- The error of a mail run is that of the first fault, if there is one. -/
theorem error?_mail_memory {σ : Type} (mailer : Mailer σ) (state : σ)
    : Outcome.error? (desk.mail job mailer state).1
      = MailFault.inOrder.findSome? (·.error? desk.platform.limits tables isReachable job) := by
  rw [error?_mail, error?_connected_memory desk hsource, error?_prepare]
  simp only [MailFault.inOrder, MailFault.findSome?_cons_or, Option.or_assoc]
  rfl

end

end Desk

/-- With a source in memory, a mail run fails when there is a fault, with the error of the first
fault in order. A run that fails leaves the state of its mailer as it was, has called it for no
letter, and has given back each connection that it opened.
-/
theorem mail_error_of_first_fault {σ : Type} {desk : Desk} {tables : List (String × Table)}
    {isReachable : Bool} (hsource : desk.source = .memory tables isReachable) (job : MailJob)
    (mailer : Mailer σ) (state : σ)
    : let run := desk.mail job mailer state
      (∀ e,
        run.1 = .error e
        ↔ ∃ earlier fault later,
            MailFault.inOrder = earlier ++ fault :: later
            ∧ fault.error? desk.platform.limits tables isReachable job = some e
            ∧ ∀ other ∈ earlier, other.error? desk.platform.limits tables isReachable job = none)
      ∧ ((∃ e, run.1 = .error e)
        ↔ ∃ fault : MailFault, (fault.error? desk.platform.limits tables isReachable job).isSome)
      ∧ ∀ e,
          run.1 = .error e
          → run.2.2 = state
            ∧ (desk.mail job mailer.recording (state, [])).2.2 = (state, [])
            ∧ ∃ count,
                run.2.1.opened = desk.opened + count
                ∧ run.2.1.released = desk.released + count := by
  intro run
  have herror : Outcome.error? run.1
      = MailFault.inOrder.findSome? (·.error? desk.platform.limits tables isReachable job) :=
    desk.error?_mail_memory hsource mailer state
  have hfails (e : RunError) : run.1 = .error e
      ↔ MailFault.inOrder.findSome? (·.error? desk.platform.limits tables isReachable job)
        = some e := by
    rw [← Outcome.error?_eq_some_iff, ← herror]
  refine ⟨?_, ?_, ?_⟩
  · intro e
    rw [hfails, List.findSome?_eq_some_iff]
  · simp only [hfails, ← Option.isSome_iff_exists, List.findSome?_isSome_iff,
      MailFault.mem_inOrder, true_and]
  · intro e h
    have hrecorded : (desk.mail job mailer.recording (state, [])).1 = .error e := by
      rw [← Outcome.error?_eq_some_iff] at h ⊢
      rwa [desk.error?_mail_memory hsource, ← herror]
    obtain ⟨phases, count, -, completes⟩ := (Run.mail job mailer state).completes desk
    exact ⟨desk.state_of_mail_error h, desk.state_of_mail_error hrecorded, count,
      completes.opened, completes.released⟩

/-- No table has the column of the clause, the column shown or the column of addresses, and the
run tells of the clause.
-/
theorem mail_error_of_first_fault_clause
    : let tables := [("people", Table.ofRecords ["name", "email"] [["Ada", "a@x"]])]
      let desk := Desk.start (.standard .quiet) (.memory tables true) .empty
      let job : MailJob :=
        {
          selection :=
            {
              table := "people"
              shown := ["age"]
              criteria := { clauses := [⟨"city", "U%", false⟩], sortKeys := [] }
              window := .unbounded
              rowTemplate := none
              fieldSeparator := " "
            }
          recipients := .column "address"
          subject := some "News for $name"
        }
      let mailer : Mailer Nat := fun _ count => (.accept, count + 1)
      desk.source = .memory tables true
      ∧ (desk.mail job mailer 0).1 = .error (.query (.unknownColumn "people" "city"))
      ∧ MailFault.shownColumn.error? desk.platform.limits tables true job
        = some (.query (.unknownColumn "people" "age"))
      ∧ MailFault.recipientColumn.error? desk.platform.limits tables true job
        = some (.query (.unknownColumn "people" "address"))
      ∧ (desk.mail job mailer 0).2.2 = 0
      ∧ (desk.mail job mailer.recording (0, [])).2.2 = (0, []) := by
  intro tables desk job mailer
  have hsource : desk.source = .memory tables true := rfl
  obtain ⟨hfirst, -, hfailed⟩ := mail_error_of_first_fault hsource job mailer 0
  have h : (desk.mail job mailer 0).1 = .error (.query (.unknownColumn "people" "city")) :=
    (hfirst _).mpr
      ⟨[.noRecipients, .rowTemplate, .subject, .unreachable, .unknownTable], .criteriaColumn,
        [.pattern, .shownColumn, .recipientColumn], rfl, by decide +kernel, by decide +kernel⟩
  obtain ⟨hstate, hcalls, -⟩ := hfailed _ h
  exact ⟨hsource, h, by decide +kernel, by decide +kernel, hstate, hcalls⟩

end MailMerge
