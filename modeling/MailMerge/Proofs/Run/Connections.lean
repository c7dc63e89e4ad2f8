import MailMerge.Proofs.Run.Course
import MailMerge.Session

/-! Connections at a desk: whatever a session does and whatever comes of it, each connection
that was opened has been given back, but for the one that the session holds.
-/

namespace MailMerge

open Mail Select

/-- A source in memory that no connection reaches. -/
def Source.isOutOfReach : Source → Bool
  | memory _ isReachable => !isReachable
  | directory _ => false

theorem Source.isOutOfReach_of_connect {source : Source} {files : Files.View}
    {connection : Connection} (h : source.connect files = .ok connection)
    : source.isOutOfReach = false := by
  match source, h with
  | memory _ true, _ => rfl
  | directory _, _ => rfl

-----------------------------------------------------------------------------------------
-- Desks
-----------------------------------------------------------------------------------------

namespace Desk

/-- What lies between two stages of a desk at which the same connections are open: each one
opened on the way was given back on the way, and there was none if the source is out of reach.
-/
structure Settles (before after : Desk) : Prop where
  reach : after.source.isOutOfReach = before.source.isOutOfReach
  connections
    : ∃ count,
        after.opened = before.opened + count
        ∧ after.released = before.released + count
        ∧ (before.source.isOutOfReach = true → count = 0)

theorem Settles.refl (desk : Desk) : desk.Settles desk where
  reach := rfl
  connections := ⟨0, rfl, rfl, fun _ => rfl⟩

/-- Reports and mail open one connection or none, and give it back. -/
theorem settles_run (desk : Desk) (run : Run) : desk.Settles (run.after desk) := by
  obtain ⟨phases, connections, course, completes⟩ := run.completes desk
  refine ⟨congrArg _ completes.source, connections, completes.opened, completes.released, ?_⟩
  intro outOfReach
  cases course with
  | hindered => rfl
  | aborted => rfl
  | failed _ connected =>
      rw [Source.isOutOfReach_of_connect connected] at outOfReach
      cases outOfReach
  | ended _ connected =>
      rw [Source.isOutOfReach_of_connect connected] at outOfReach
      cases outOfReach

theorem connect_of_openConnection {desk opened : Desk} {lease : Lease}
    (h : desk.openConnection = (.ok lease, opened))
    : ∃ connection, desk.source.connect desk.seen = .ok connection := by
  have connected := desk.fst_openConnection
  rw [h] at connected
  obtain ⟨connection, hconnect, -⟩ := Outcome.map_eq_ok_iff.mp connected.symm
  exact ⟨connection, hconnect⟩

/-- One connection that is opened and given back on the way leaves the same connections open. -/
theorem Settles.of_advances {desk opened after : Desk} {lease : Lease} {phases : List Phase}
    (h : desk.openConnection = (.ok lease, opened)) (used : opened.Advances after phases 0 1)
    : desk.Settles after := by
  have whole := (advances_of_openConnection h).trans used
  obtain ⟨connection, hconnect⟩ := connect_of_openConnection h
  have reached := Source.isOutOfReach_of_connect hconnect
  exact ⟨congrArg _ whole.source, 1, whole.opened, whole.released, by simp [reached]⟩

/-- A question opens a connection. Its guard is closed behind an answer and goes out of scope
behind an error, and gives the connection back once either way.
-/
theorem settles_ask {α : Type} (desk : Desk) {question : Connection → Files.View → Reply α}
    (quiet : ∀ connection files, Event.Quiet (question connection files).events)
    : desk.Settles (desk.ask question).2 := by
  unfold ask
  rcases hopened : desk.openConnection with ⟨e | lease, opened⟩
  · rw [eq_of_openConnection_error hopened]
    exact .refl desk
  · have asked := opened.advances_note (quiet lease.connection opened.seen)
    dsimp only
    cases (question lease.connection opened.seen).answer with
    | error e => exact .of_advances hopened (asked.trans (advances_drop _ (lease.put _)))
    | ok value => exact .of_advances hopened (asked.trans (advances_close _ (lease.put _)))

theorem settles_view (desk : Desk) (options : Options) (route : Route)
    : desk.Settles (desk.view options route).2 := by
  unfold view
  cases route with
  | tables => exact desk.settles_ask fun _ _ => by simp [Event.Quiet]
  | searchForm table =>
      exact desk.settles_ask fun connection files => quiet_load _ connection files table
  | report table =>
      cases options.selection with
      | error e => exact .refl desk
      | ok selection =>
          -- The report runs at a desk of its own phase, with the counts of this one.
          have reported :=
            desk.reset.settles_run
              (.report { selection with table } options.rowSeparatorText)
          exact ⟨reported.reach, reported.connections⟩

end Desk

-----------------------------------------------------------------------------------------
-- Sessions
-----------------------------------------------------------------------------------------

/-- What can be done at the desk of a session: a step of it, or a run with any mailer. -/
inductive Operation : Type 1
  | step (step : Step)
  | run (run : Run)

namespace Session

def perform (session : Session) : Operation → Session
  | .step step => (session.step step).2
  | .run run => { session with desk := run.after session.desk }

/-- The session that some operations leave behind. -/
def performAll (session : Session) (operations : List Operation) : Session :=
  operations.foldl perform session

/-- The books of a session are right: all connections that were opened were given back but for
the one held, and there were none if the source is out of reach.
-/
structure Balanced (session : Session) (isOutOfReach : Bool) : Prop where
  reach : session.desk.source.isOutOfReach = isOutOfReach
  balance : session.desk.opened = session.desk.released + session.held.toList.length
  unopened : isOutOfReach = true → session.desk.opened = 0

theorem balanced_start (platform : Platform) (source : Source) (files : Files.Tree)
    : (start platform source files).Balanced source.isOutOfReach where
  reach := rfl
  balance := rfl
  unopened _ := rfl

namespace Balanced

variable {session : Session} {isOutOfReach : Bool} (balanced : session.Balanced isOutOfReach)
include balanced

/-- Whatever gives back all that it opens leaves the books right. -/
theorem settle {after : Desk} (settles : session.desk.Settles after)
    : Balanced { session with desk := after } isOutOfReach := by
  obtain ⟨reach, balance, unopened⟩ := balanced
  obtain ⟨count, opened, released, uncounted⟩ := settles.connections
  refine ⟨settles.reach.trans reach, ?_, ?_⟩
  · show after.opened = after.released + session.held.toList.length
    omega
  · intro h
    show after.opened = 0
    rw [opened, unopened h, uncounted (reach.trans h)]

/-- A guard that goes out of scope gives its connection back once. -/
theorem drop : (session.hold none).Balanced isOutOfReach := by
  obtain ⟨desk, _ | lease⟩ := session
  · exact balanced
  · have dropped := desk.advances_drop lease
    obtain ⟨reach, balance, unopened⟩ := balanced
    refine ⟨(congrArg _ dropped.source).trans reach, ?_, ?_⟩
    · exact dropped.opened.trans (balance.trans dropped.released.symm)
    · exact fun h => dropped.opened.trans (unopened h)

/-- A guard that is closed does so as well, and is not held any longer. -/
theorem close {lease : Lease} (held : session.held = some lease)
    : Balanced { desk := session.desk.close lease.guard, held := none } isOutOfReach := by
  have dropped := balanced.drop
  rw [hold, held] at dropped
  rwa [Desk.close_eq_drop]

/-- The new connection is opened before the one held is given back. -/
theorem openConnection : (session.step .openConnection).2.Balanced isOutOfReach := by
  simp only [step]
  rcases hopened : session.desk.openConnection with ⟨e | lease, opened⟩
  · rw [Desk.eq_of_openConnection_error hopened]
    exact balanced
  · have opening := Desk.advances_of_openConnection hopened
    obtain ⟨connection, hconnect⟩ := Desk.connect_of_openConnection hopened
    obtain ⟨reach, balance, unopened⟩ := balanced
    have hreach : isOutOfReach = false :=
      reach.symm.trans (Source.isOutOfReach_of_connect hconnect)
    have hopen := opening.opened
    have hreleased := opening.released
    unfold hold
    dsimp only
    cases held : session.held with
    | none =>
        rw [held] at balance
        refine ⟨(congrArg _ opening.source).trans reach, ?_, by simp [hreach]⟩
        show opened.opened = opened.released + 1
        simp only [Option.toList_none, List.length_nil] at balance
        omega
    | some used =>
        have dropped := opened.advances_drop used
        rw [held] at balance
        refine ⟨(congrArg _ (dropped.source.trans opening.source)).trans reach, ?_,
          by simp [hreach]⟩
        show (opened.drop used.guard).opened = (opened.drop used.guard).released + 1
        rw [dropped.opened, dropped.released]
        simp only [Option.toList_some, List.length_singleton] at balance
        omega

/-- A question to the held connection opens nothing and gives nothing back. -/
theorem ask {α : Type} (question : Connection → Files.View → Reply α) (answer : α → Outcome)
    : (session.ask question answer).2.Balanced isOutOfReach := by
  obtain ⟨desk, _ | connection⟩ := session
  · exact balanced
  · obtain ⟨reach, balance, unopened⟩ := balanced
    unfold Session.ask
    dsimp only
    split <;> exact ⟨reach, balance, unopened⟩

theorem mail (job : MailJob) (delivery : Delivery)
    : (session.mail job delivery).2.Balanced isOutOfReach := by
  cases delivery with
  | print sender outlet =>
      have sent := session.desk.settles_run (.mail job (printing sender) outlet)
      unfold Session.mail
      dsimp only
      split <;> exact balanced.settle sent
  | command command limit sender =>
      have sent :=
        session.desk.settles_run
          (.mail job (commanding session.desk.platform.host command limit sender)
            session.desk.files)
      obtain ⟨reach, balance, unopened⟩ := balanced.settle sent
      unfold Session.mail
      dsimp only
      split <;> exact ⟨reach, balance, unopened⟩

theorem changeFiles (change : Files.Tree → Except Files.FileError Files.Tree)
    : (session.changeFiles change).2.Balanced isOutOfReach := by
  unfold Session.changeFiles
  split
  · exact ⟨balanced.reach, balanced.balance, balanced.unopened⟩
  · exact balanced

/-- Every step of a session leaves its books right, one case for each step. -/
theorem step (next : Step) : (session.step next).2.Balanced isOutOfReach := by
  cases next with
  | openConnection => exact balanced.openConnection
  | close =>
      simp only [Session.step]
      split
      · exact balanced
      · rename_i lease held
        exact balanced.close held
  | drop => exact balanced.drop
  | fetch table projection criteria window => exact balanced.ask _ _
  | tables => exact balanced.ask _ _
  | columns table => exact balanced.ask _ _
  | report selection separator =>
      have reported := balanced.settle (session.desk.settles_run (.report selection separator))
      simp only [Session.step]
      rcases hreport : session.desk.report selection separator with ⟨e | page, desk⟩ <;>
      · simp only [Run.after, hreport] at reported
        exact reported
  | mail job delivery => exact balanced.mail job delivery
  | view options route =>
      have viewed := balanced.settle (session.desk.settles_view options route)
      simp only [Session.step]
      rcases hview : session.desk.view options route with ⟨e | text, desk⟩ <;>
      · rw [hview] at viewed
        exact viewed
  | put table rows =>
      obtain ⟨reach, balance, unopened⟩ := balanced
      simp only [Session.step]
      split
      · rename_i hsource
        rw [hsource] at reach
        exact ⟨reach, balance, unopened⟩
      · exact ⟨reach, balance, unopened⟩
  | write path content => exact balanced.changeFiles _
  | remove path => exact balanced.changeFiles _

theorem perform (operation : Operation)
    : (session.perform operation).Balanced isOutOfReach := by
  cases operation with
  | step next => exact balanced.step next
  | run run => exact balanced.settle (session.desk.settles_run run)

/-- The books stay right, by induction on the operations. -/
theorem performAll (operations : List Operation)
    : (session.performAll operations).Balanced isOutOfReach := by
  induction operations generalizing session with
  | nil => exact balanced
  | cons operation operations ih => exact ih (balanced.perform operation)

end Balanced

/-- After any operations, whatever came of them, the connections opened are those given back and
the one held, if one is held. A source out of reach never had any.
-/
theorem opened_eq_released_add_held (platform : Platform) (source : Source)
    (files : Files.Tree) (operations : List Operation)
    : let session := (start platform source files).performAll operations
      session.desk.opened
        = session.desk.released + (if session.held.isSome then 1 else 0)
      ∧ ∀ tables,
          source = .memory tables false
          → session.desk.opened = 0 ∧ session.desk.released = 0 := by
  intro session
  have balanced := (balanced_start platform source files).performAll operations
  have hbalance : session.desk.opened = session.desk.released + session.held.toList.length :=
    balanced.balance
  have hheld : session.held.toList.length = if session.held.isSome then 1 else 0 := by
    cases session.held <;> rfl
  refine ⟨hheld ▸ hbalance, ?_⟩
  rintro tables rfl
  have hopened : session.desk.opened = 0 := balanced.unopened rfl
  refine ⟨hopened, ?_⟩
  omega

/-- A connection is replaced, a report asks for a table that is not there, mail has no one to go
to, and a page is viewed, before the connection is closed and a new one is held. None of this
opens anything where the source is out of reach.
-/
theorem opened_eq_released_add_held_replaced
    : let tables := [("people", Table.ofRecords ["name"] [["Ada"], ["Bob"]])]
      let selection : Selection :=
        {
          table := "orders"
          shown := []
          criteria := .empty
          window := .unbounded
          rowTemplate := none
          fieldSeparator := " "
        }
      let job : MailJob := { selection, recipients := .broadcast [], subject := none }
      let operations : List Operation :=
        [
          .step .openConnection,
          .step .openConnection,
          .step (.report selection "\n"),
          .run (.mail job (printing none) .empty),
          .step (.view .empty (.searchForm "people")),
          .step .close,
          .step .close,
          .step .openConnection
        ]
      let platform := Platform.standard .quiet
      let session := (start platform (.memory tables true) .empty).performAll operations
      let unreached := (start platform (.memory tables false) .empty).performAll operations
      session.desk.opened = 5
      ∧ session.desk.released = 4
      ∧ session.held.isSome = true
      ∧ unreached.desk.opened = 0
      ∧ unreached.desk.released = 0 := by
  intro tables selection job operations platform session unreached
  obtain ⟨-, unopened⟩ :=
    opened_eq_released_add_held platform (.memory tables false) .empty operations
  exact ⟨by decide +kernel, by decide +kernel, by decide +kernel, unopened tables rfl⟩

end Session

end MailMerge
