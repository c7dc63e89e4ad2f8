import MailMerge.Proofs.Run.Advance
import MailMerge.Proofs.Run.ReportedMail

/-! The course of a run: the phases that it moves through, and the connections that it opens and
gives back. Every way that a run can end is one of four courses, and each of them leaves the
desk in a phase between runs.
-/

namespace MailMerge

open Select Mail

-----------------------------------------------------------------------------------------
-- What a run needs before it connects
-----------------------------------------------------------------------------------------

/-- The error of a template text, if there is a text and it is no template. -/
def Template.refusal? (source : Option String) : Option RunError :=
  source.bind fun text => (Outcome.error? (compile text)).map .template

theorem error?_compileRowTemplate (selection : Selection)
    : Outcome.error? selection.compileRowTemplate
      = Template.refusal? selection.rowTemplate := by
  unfold Selection.compileRowTemplate Template.refusal?
  cases selection.rowTemplate with
  | none => rfl
  | some text => cases h : Template.compile text <;> simp [h, Outcome.error?]

theorem error?_compileSubject (job : MailJob)
    : Outcome.error? job.compileSubject = Template.refusal? job.subject := by
  unfold MailJob.compileSubject Template.refusal?
  cases job.subject with
  | none => rfl
  | some text => cases h : Template.compile text <;> simp [h, Outcome.error?]

/-- What is wrong with a mail job before it connects: recipients are looked at first, and then
the templates of rows and of the subject.
-/
theorem error?_prepare (job : MailJob)
    : Outcome.error? job.prepare
      = (if job.recipients = .broadcast [] then some RunError.noRecipients else none).or
          ((Template.refusal? job.selection.rowTemplate).or
            (Template.refusal? job.subject)) := by
  unfold MailJob.prepare
  split
  · rfl
  · rw [Option.none_or, ← error?_compileRowTemplate, ← error?_compileSubject]
    cases job.selection.compileRowTemplate with
    | error e => rfl
    | ok row => cases job.compileSubject <;> rfl

/-- There is a template text, and it is no template. -/
def Template.Broken (source : Option String) : Prop :=
  ∃ text ∈ source, ∃ fault, compile text = .error fault

theorem Template.broken_iff_isSome_refusal? {source : Option String}
    : Broken source ↔ (refusal? source).isSome := by
  cases source with
  | none => simp [Broken, refusal?]
  | some text => cases h : compile text <;> simp [Broken, refusal?, Outcome.error?, h]

-----------------------------------------------------------------------------------------
-- Runs
-----------------------------------------------------------------------------------------

/-- A run at a desk: a report, or mail with some mailer and the state that it starts from. -/
inductive Run : Type 1
  | report (selection : Selection) (separator : String)
  | mail {σ : Type} (job : MailJob) (mailer : Mailer σ) (state : σ)

namespace Run

def selection : Run → Selection
  | report selection _ => selection
  | mail job _ _ => job.selection

/-- The desk that a run leaves behind. -/
def after (desk : Desk) : Run → Desk
  | report selection separator => (desk.report selection separator).2
  | mail job mailer state => (desk.mail job mailer state).2.1

/-- Whether a run ends well, and its error otherwise. -/
def outcome (desk : Desk) : Run → Except RunError Unit
  | report selection separator => (desk.report selection separator).1.map fun _ => ()
  | mail job mailer state => (desk.mail job mailer state).1.map fun _ => ()

/-- The phases that a run goes through for the rows that it fetched. -/
def work (rows : List Row) : Run → List Phase
  | report .. => rows.map fun _ => .rendering
  | mail job _ _ => job.recipients.phases rows

/-- A run that does not even connect: one of its templates is broken, or it has no one to send
to.
-/
def Hindered : Run → Prop
  | report selection _ => Template.Broken selection.rowTemplate
  | mail job _ _ =>
      job.recipients = .broadcast []
      ∨ Template.Broken job.selection.rowTemplate
      ∨ Template.Broken job.subject

theorem hindered_report_iff {selection : Selection} {separator : String}
    : (report selection separator).Hindered
      ↔ (Outcome.error? selection.compileRowTemplate).isSome := by
  rw [error?_compileRowTemplate, ← Template.broken_iff_isSome_refusal?]
  rfl

theorem hindered_mail_iff {σ : Type} {job : MailJob} {mailer : Mailer σ} {state : σ}
    : (mail job mailer state).Hindered ↔ (Outcome.error? job.prepare).isSome := by
  simp only [Hindered, error?_prepare, Template.broken_iff_isSome_refusal?, Option.isSome_or,
    Bool.or_eq_true]
  by_cases h : job.recipients = .broadcast [] <;> simp [h]

/-- The ways that a run can take from a desk: the phases that it moves through, and the number
of connections that it opens. Of these cases just one holds.
-/
inductive Course (run : Run) (desk : Desk) : List Phase → Nat → Prop
  | hindered {e} (hindered : run.Hindered) (fails : run.outcome desk = .error e)
    : Course run desk [] 0
  | aborted {e} (ready : ¬ run.Hindered)
    (unreachable : desk.source.connect desk.seen = .error e)
    (fails : run.outcome desk = .error (.connect e))
    : Course run desk [.aborted] 0
  | failed {connection e} (ready : ¬ run.Hindered)
    (connected : desk.source.connect desk.seen = .ok connection)
    (fails : run.outcome desk = .error (.query e))
    : Course run desk [.connected, .fetching, .disconnected] 1
  | ended {connection table} (ready : ¬ run.Hindered)
    (connected : desk.source.connect desk.seen = .ok connection)
    (fetched : desk.Fetches run.selection table) (ends : run.outcome desk = .ok ())
    : Course run desk (.connected :: .fetching :: (run.work table.rows ++ [.disconnected])) 1

end Run

namespace Desk

/-- What lies between a desk and the desk that a whole run leaves behind: moves that start from
idle, and connections of which each was opened and given back. Without a move, the phase stays.
-/
structure Completes (before after : Desk) (phases : List Phase) (connections : Nat)
    : Prop where
  platform : after.platform = before.platform
  source : after.source = before.source
  files : after.files = before.files
  moves : after.moves = before.moves ++ Phase.path .idle phases
  phase : after.phase = phases.getLastD before.phase
  opened : after.opened = before.opened + connections
  released : after.released = before.released + connections

theorem Completes.refl (desk : Desk) : desk.Completes desk [] 0 where
  platform := rfl
  source := rfl
  files := rfl
  moves := (List.append_nil _).symm
  phase := rfl
  opened := rfl
  released := rfl

theorem Advances.completes {desk after : Desk} {target : Phase} {targets : List Phase} {n : Nat}
    (h : desk.reset.Advances after (target :: targets) n n)
    : desk.Completes after (target :: targets) n where
  platform := h.platform
  source := h.source
  files := h.files
  moves := h.moves
  phase := h.phase.trans (by simp only [List.getLastD_cons])
  opened := h.opened
  released := h.released

variable {desk begun : Desk} {lease : Lease}

theorem connect_of_begin_error {e : ConnectError} (h : desk.begin = (.error e, begun))
    : desk.source.connect desk.seen = .error e :=
  Outcome.map_eq_error_iff.mp (desk.fst_begin.symm.trans (congrArg Prod.fst h))

theorem connect_of_begin (h : desk.begin = (.ok lease, begun))
    : desk.source.connect desk.seen = .ok lease.connection :=
  begin_eq_ok_iff.mp (congrArg Prod.fst h)

section

variable {selection : Selection} {table : Table} {rest : Connection × Desk}
  (hbegin : desk.begin = (.ok lease, begun))
include hbegin

/-- What is gathered after the beginning is fetched as the desk stood before. -/
theorem fetch_of_gather {projection : Projection}
    (h : begun.gather lease.connection selection projection = (.ok table, rest))
    : (lease.connection.fetch desk.platform desk.seen selection.table projection
        selection.criteria selection.window).answer
      = .ok table := by
  have hplatform := desk.platform_begin
  have hseen := desk.seen_begin
  rw [hbegin] at hplatform hseen
  obtain ⟨hanswer, -⟩ := gather_eq_ok_iff.mp (congrArg Prod.fst h)
  rwa [hplatform, hseen] at hanswer

/-- A report has as many rows as the selection has with all its columns. -/
theorem fetches_of_gather {rowTemplate : Option Template}
    (h
      : begun.gather lease.connection selection (selection.projection rowTemplate)
        = (.ok table, rest))
    : ∃ full, desk.Fetches selection full ∧ full.rows.length = table.rows.length := by
  have hconnect := connect_of_begin hbegin
  have hanswer := fetch_of_gather hbegin h
  cases rowTemplate with
  | some template => exact ⟨table, ⟨_, hconnect, hanswer⟩, rfl⟩
  | none =>
      obtain ⟨full, hfull, -, rfl⟩ := fetch_ofList_eq_ok_iff.mp hanswer
      refine ⟨full, ⟨_, hconnect, hfull⟩, ?_⟩
      cases Projection.ofList selection.shown <;> simp [Projection.shown]

theorem fetches_of_gatherMail {job : MailJob}
    (h : begun.gatherMail lease.connection job = (.ok table, rest))
    : desk.Fetches job.selection table := by
  obtain ⟨hgather, -⟩ := gatherMail_eq_ok_iff.mp (congrArg Prod.fst h)
  rcases hgathered : begun.gather lease.connection job.selection .all with ⟨result, rest⟩
  rw [hgathered] at hgather
  obtain rfl : result = .ok table := hgather
  exact ⟨_, connect_of_begin hbegin, fetch_of_gather hbegin hgathered⟩

end

/-- A guard that is finished with was in use from the beginning of the run. -/
theorem Advances.finish {after : Desk} {phases : List Phase} (used : Lease)
    (hbegin : desk.begin = (.ok lease, begun)) (h : begun.Advances after phases 0 0)
    : desk.Completes (after.finish used.guard) (.connected :: (phases ++ [.disconnected])) 1 :=
  (((advances_of_begin_ok hbegin).trans h).trans (after.advances_finish used)).completes

/-- A report takes one of the courses, by cases on the steps that may fail. -/
theorem completes_report (desk : Desk) (selection : Selection) (separator : String)
    : ∃ phases connections,
        (Run.report selection separator).Course desk phases connections
        ∧ desk.Completes (desk.report selection separator).2 phases connections := by
  rcases hreport : desk.report selection separator with ⟨result, after⟩
  have houtcome : (Run.report selection separator).outcome desk = result.map fun _ => () :=
    congrArg (·.1.map fun _ => ()) hreport
  unfold report at hreport
  cases hcompile : selection.compileRowTemplate with
  | error e =>
      simp only [hcompile, Prod.mk.injEq] at hreport
      obtain ⟨rfl, rfl⟩ := hreport
      have hindered : (Run.report selection separator).Hindered :=
        Run.hindered_report_iff.mpr (by rw [hcompile]; rfl)
      exact ⟨[], 0, .hindered hindered houtcome, .refl desk⟩
  | ok rowTemplate =>
      have ready : ¬ (Run.report selection separator).Hindered := by
        simp [Run.hindered_report_iff, hcompile, Outcome.error?]
      rcases hbegin : desk.begin with ⟨e | lease, begun⟩
      · simp only [hcompile, hbegin, Prod.mk.injEq] at hreport
        obtain ⟨rfl, rfl⟩ := hreport
        exact ⟨[.aborted], 0, .aborted ready (connect_of_begin_error hbegin) houtcome,
          (advances_of_begin_error hbegin).completes⟩
      have hconnect := connect_of_begin hbegin
      have fetching :=
        begun.advances_gather lease.connection selection (selection.projection rowTemplate)
      rcases hgather : begun.gather lease.connection selection (selection.projection rowTemplate)
        with ⟨e | table, used, gathered⟩
      · simp only [hcompile, hbegin, hgather, Prod.mk.injEq] at hreport fetching
        obtain ⟨rfl, rfl⟩ := hreport
        exact ⟨_, 1, .failed ready hconnect houtcome, fetching.finish (lease.put used) hbegin⟩
      · simp only [hcompile, hbegin, hgather, Prod.mk.injEq] at hreport fetching
        obtain ⟨rfl, rfl⟩ := hreport
        obtain ⟨full, hfetched, hlength⟩ := fetches_of_gather hbegin hgather
        refine ⟨_, 1, .ended ready hconnect hfetched houtcome, ?_⟩
        have hwork : (Run.report selection separator).work full.rows
            = table.rows.map fun _ => .rendering := by
          simp only [Run.work, List.map_const', hlength]
        rw [hwork]
        have rendered := fetching.trans (gathered.advances_rendering table.rows)
        exact rendered.finish (lease.put used) hbegin

/-- Mail takes one of the courses, by cases on the steps that may fail. -/
theorem completes_mail {σ : Type} (desk : Desk) (job : MailJob) (mailer : Mailer σ) (state : σ)
    : ∃ phases connections,
        (Run.mail job mailer state).Course desk phases connections
        ∧ desk.Completes (desk.mail job mailer state).2.1 phases connections := by
  rcases hmail : desk.mail job mailer state with ⟨result, after, last⟩
  have houtcome : (Run.mail job mailer state).outcome desk = result.map fun _ => () :=
    congrArg (·.1.map fun _ => ()) hmail
  unfold mail at hmail
  cases hprepare : job.prepare with
  | error e =>
      simp only [hprepare, Prod.mk.injEq] at hmail
      obtain ⟨rfl, rfl, -⟩ := hmail
      have hindered : (Run.mail job mailer state).Hindered :=
        Run.hindered_mail_iff.mpr (by rw [hprepare]; rfl)
      exact ⟨[], 0, .hindered hindered houtcome, .refl desk⟩
  | ok templates =>
      have ready : ¬ (Run.mail job mailer state).Hindered := by
        simp [Run.hindered_mail_iff, hprepare, Outcome.error?]
      rcases hbegin : desk.begin with ⟨e | lease, begun⟩
      · simp only [hprepare, hbegin, Prod.mk.injEq] at hmail
        obtain ⟨rfl, rfl, -⟩ := hmail
        exact ⟨[.aborted], 0, .aborted ready (connect_of_begin_error hbegin) houtcome,
          (advances_of_begin_error hbegin).completes⟩
      have hconnect := connect_of_begin hbegin
      have fetching := begun.advances_gatherMail lease.connection job
      rcases hgather : begun.gatherMail lease.connection job with ⟨e | table, used, gathered⟩
      · simp only [hprepare, hbegin, hgather, Prod.mk.injEq] at hmail fetching
        obtain ⟨rfl, rfl, -⟩ := hmail
        exact ⟨_, 1, .failed ready hconnect houtcome, fetching.finish (lease.put used) hbegin⟩
      · simp only [hprepare, hbegin, hgather, Prod.mk.injEq] at hmail fetching
        obtain ⟨rfl, rfl, -⟩ := hmail
        have hfetched := fetches_of_gatherMail hbegin hgather
        refine ⟨_, 1, .ended ready hconnect hfetched houtcome, ?_⟩
        let body := templates.row.getD (job.selection.defaultTemplate table)
        have posting :=
          @Post.advances_deliverRows σ mailer job.recipients templates.subject body
            table.rows.zipIdx { summary := .empty, desk := gathered, state }
        rw [List.zipIdx_map_fst] at posting
        exact
          (fetching.trans (posting.note (by simp [Event.Quiet, Event.move?]))).finish
            (lease.put used) hbegin

end Desk

/-- Every run takes one of the courses, and gives back the connections that it opens. -/
theorem Run.completes (run : Run) (desk : Desk)
    : ∃ phases connections,
        run.Course desk phases connections
        ∧ desk.Completes (run.after desk) phases connections := by
  cases run with
  | report selection separator => exact desk.completes_report selection separator
  | mail job mailer state => exact desk.completes_mail job mailer state

-----------------------------------------------------------------------------------------
-- Runs that follow each other
-----------------------------------------------------------------------------------------

/-- The phases that a desk may be in between runs. -/
def Phase.atRest : List Phase :=
  [.idle, .aborted, .disconnected]

namespace Run

/-- The desk that some runs leave behind, each with the files that it finds. -/
def afterAll (desk : Desk) : List (Files.Tree × Run) → Desk
  | [] => desk
  | (files, run) :: runs => afterAll (run.after { desk with files }) runs

namespace Course

variable {run : Run} {desk : Desk} {phases : List Phase} {connections : Nat}

/-- A course ends at rest if it begins there. -/
theorem atRest (course : run.Course desk phases connections) (h : desk.phase ∈ Phase.atRest)
    : phases.getLastD desk.phase ∈ Phase.atRest := by
  cases course with
  | hindered => exact h
  | aborted => simp [Phase.atRest]
  | failed => simp [Phase.atRest]
  | ended => simp [Phase.atRest, List.getLastD_eq_getLast?, List.getLast?_cons]

theorem eq_nil_iff (course : run.Course desk phases connections)
    : phases = [] ↔ run.Hindered := by
  cases course with
  | hindered hindered => simp [hindered]
  | aborted ready => simp [ready]
  | failed ready => simp [ready]
  | ended ready => simp [ready]

theorem eq_aborted_iff (course : run.Course desk phases connections)
    : phases = [.aborted]
      ↔ ¬ run.Hindered ∧ ∃ e, desk.source.connect desk.seen = .error e := by
  cases course with
  | hindered hindered => simp [hindered]
  | aborted ready unreachable => simp [ready, unreachable]
  | failed ready connected => simp [connected]
  | ended ready connected => simp [connected]

end Course

/-- Runs leave a desk at rest, by induction on the runs. -/
theorem atRest_afterAll {desk : Desk} (runs : List (Files.Tree × Run))
    (h : desk.phase ∈ Phase.atRest) : (afterAll desk runs).phase ∈ Phase.atRest := by
  induction runs generalizing desk with
  | nil => exact h
  | cons first runs ih =>
      obtain ⟨files, run⟩ := first
      obtain ⟨phases, connections, course, completes⟩ := run.completes { desk with files }
      refine ih ?_
      rw [completes.phase]
      exact course.atRest h

/-- Runs neither change the platform of a desk nor its source, by induction on the runs. -/
theorem same_afterAll (desk : Desk) (runs : List (Files.Tree × Run))
    : (afterAll desk runs).platform = desk.platform
      ∧ (afterAll desk runs).source = desk.source := by
  induction runs generalizing desk with
  | nil => exact ⟨rfl, rfl⟩
  | cons first runs ih =>
      obtain ⟨files, run⟩ := first
      obtain ⟨_, _, -, completes⟩ := run.completes { desk with files }
      obtain ⟨platform, source⟩ := ih (run.after { desk with files })
      exact ⟨platform.trans completes.platform, source.trans completes.source⟩

/-- After any runs, a desk is at rest, and the next run takes one of the courses: the phases
that it moves through tell whether it was hindered or could not connect, and its moves follow
each other from idle on. A hindered run leaves the phase as it was.
-/
theorem course_of_next_run (platform : Platform) (source : Source)
    (earlier : List (Files.Tree × Run)) (files : Files.Tree) (run : Run)
    : let desk := { afterAll (.start platform source .empty) earlier with files }
      desk.phase ∈ Phase.atRest
      ∧ ∃ phases connections,
          run.Course desk phases connections
          ∧ (run.after desk).moves = desk.moves ++ Phase.path .idle phases
          ∧ (run.after desk).phase = phases.getLastD desk.phase
          ∧ (phases = [] ↔ run.Hindered)
          ∧ (phases = [.aborted]
            ↔ ¬ run.Hindered ∧ ∃ e, source.connect (platform.view files) = .error e) := by
  intro desk
  obtain ⟨hplatform, hsource⟩ := same_afterAll (.start platform source .empty) earlier
  have hconnect : desk.source.connect desk.seen = source.connect (platform.view files) := by
    change Source.connect (afterAll _ earlier).source ((afterAll _ earlier).platform.view files)
      = _
    rw [hplatform, hsource]
    rfl
  have atRest : desk.phase ∈ Phase.atRest :=
    atRest_afterAll earlier (List.mem_cons_self ..)
  obtain ⟨phases, connections, course, completes⟩ := run.completes desk
  have haborted := course.eq_aborted_iff
  rw [hconnect] at haborted
  exact ⟨atRest, phases, connections, course, completes.moves, completes.phase,
    course.eq_nil_iff, haborted⟩

end Run

end MailMerge
