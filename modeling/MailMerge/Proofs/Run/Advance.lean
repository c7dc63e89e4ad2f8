import MailMerge.Proofs.Run.MailAccounting

/-! Stretches of a run: the phases that the desk moves through between two stages, and the
connections that are opened and given back on the way. Stretches follow each other, and a run
is put together from those of its operations.
-/

namespace MailMerge

open Select Mail

-----------------------------------------------------------------------------------------
-- Moves between phases
-----------------------------------------------------------------------------------------

/-- The moves through some phases; each move starts where the one before it ended. -/
def Phase.path (origin : Phase) : List Phase → List (Phase × Phase)
  | [] => []
  | target :: targets => (origin, target) :: target.path targets

theorem Phase.path_append (origin : Phase) (front back : List Phase)
    : origin.path (front ++ back) = origin.path front ++ (front.getLastD origin).path back := by
  induction front generalizing origin with
  | nil => rfl
  | cons target front ih => simp only [List.cons_append, path, ih, List.getLastD_cons]

/-- The move that an event tells of, if it tells of one. -/
def Event.move? : Event → Option (Phase × Phase)
  | moved origin target => some (origin, target)
  | _ => none

/-- Events that tell of no move. -/
def Event.Quiet (events : List Event) : Prop :=
  ∀ event ∈ events, event.move? = none

namespace Desk

/-- The moves that the log of a desk tells of. -/
def moves (desk : Desk) : List (Phase × Phase) :=
  desk.log.filterMap Event.move?

-----------------------------------------------------------------------------------------
-- Stretches of a run
-----------------------------------------------------------------------------------------

/-- What lies between two stages of a desk: it moved through some phases, and some connections
were opened and some were given back. The platform, the source and the files are the same.
-/
structure Advances (before after : Desk) (phases : List Phase) (opened released : Nat)
    : Prop where
  platform : after.platform = before.platform
  source : after.source = before.source
  files : after.files = before.files
  moves : after.moves = before.moves ++ before.phase.path phases
  phase : after.phase = phases.getLastD before.phase
  opened : after.opened = before.opened + opened
  released : after.released = before.released + released

namespace Advances

theorem refl (desk : Desk) : desk.Advances desk [] 0 0 where
  platform := rfl
  source := rfl
  files := rfl
  moves := (List.append_nil _).symm
  phase := rfl
  opened := rfl
  released := rfl

/-- Stretches follow each other: the moves go on where they ended, and connections add up. -/
theorem trans {before middle after : Desk} {front back : List Phase} {o o' r r' : Nat}
    (first : before.Advances middle front o r) (second : middle.Advances after back o' r')
    : before.Advances after (front ++ back) (o + o') (r + r') where
  platform := second.platform.trans first.platform
  source := second.source.trans first.source
  files := second.files.trans first.files
  moves := by
    rw [second.moves, first.moves, first.phase, Phase.path_append, List.append_assoc]
  phase := by
    rw [second.phase, first.phase]
    simp only [List.getLastD_eq_getLast?, List.getLast?_append, Option.getD_or]
  opened := by rw [second.opened, first.opened, Nat.add_assoc]
  released := by rw [second.released, first.released, Nat.add_assoc]

end Advances

variable (desk : Desk)

theorem advances_note {events : List Event} (quiet : Event.Quiet events)
    : desk.Advances (desk.note events) [] 0 0 where
  platform := rfl
  source := rfl
  files := rfl
  moves := by
    have hmoves : events.filterMap Event.move? = [] := List.filterMap_eq_nil_iff.mpr quiet
    simp only [moves, note, List.filterMap_append, hmoves]
    rfl
  phase := rfl
  opened := rfl
  released := rfl

variable {desk} in
/-- Events that tell of no move may be noted at the end of a stretch. -/
theorem Advances.note {after : Desk} {phases : List Phase} {o r : Nat} {events : List Event}
    (h : desk.Advances after phases o r) (quiet : Event.Quiet events)
    : desk.Advances (after.note events) phases o r := by
  have noted := h.trans (after.advances_note quiet)
  rwa [List.append_nil] at noted

theorem advances_move (target : Phase) : desk.Advances (desk.move target) [target] 0 0 where
  platform := rfl
  source := rfl
  files := rfl
  moves := by
    simp only [moves, move, List.filterMap_append]
    rfl
  phase := rfl
  opened := rfl
  released := rfl

-----------------------------------------------------------------------------------------
-- Connections
-----------------------------------------------------------------------------------------

theorem quiet_opening (connection : Connection) : Event.Quiet connection.opening := by
  cases connection <;> simp [Event.Quiet, Connection.opening, Event.move?]

theorem quiet_closing (connection : Connection) : Event.Quiet connection.closing := by
  cases connection <;> simp [Event.Quiet, Connection.closing, Event.move?]

/-- Loading a table tells of the table only. -/
theorem quiet_load (platform : Platform) (connection : Connection) (files : Files.View)
    (table : String)
    : Event.Quiet (connection.load platform files table).events := by
  unfold Connection.load
  split
  · split <;> simp [Event.Quiet]
  · split
    · simp [Event.Quiet]
    · split <;> simp [Event.Quiet, Event.move?]

/-- What a desk hands out is a guard of a connection to its source. -/
theorem fst_openConnection
    : desk.openConnection.1 = (desk.source.connect desk.seen).map Lease.ofConnection := by
  unfold openConnection
  cases desk.source.connect desk.seen <;> rfl

theorem fst_begin : desk.begin.1 = (desk.source.connect desk.seen).map Lease.ofConnection := by
  rw [begin_eq]
  cases desk.source.connect desk.seen <;> rfl

section

variable {desk} {after : Desk} {lease : Lease} {e : ConnectError}

/-- Opening fails without a trace. -/
theorem eq_of_openConnection_error (h : desk.openConnection = (.error e, after))
    : after = desk := by
  unfold openConnection at h
  cases hconnect : desk.source.connect desk.seen with
  | error => simp_all
  | ok => simp [hconnect] at h

theorem advances_of_openConnection (h : desk.openConnection = (.ok lease, after))
    : desk.Advances after [] 1 0 := by
  unfold openConnection at h
  cases hconnect : desk.source.connect desk.seen with
  | error => simp [hconnect] at h
  | ok opened =>
      simp only [hconnect, Prod.mk.injEq, Except.ok.injEq] at h
      obtain ⟨rfl, rfl⟩ := h
      have noted :=
        advances_note { desk with opened := desk.opened + 1 } (quiet_opening opened)
      exact ⟨noted.platform, noted.source, noted.files, noted.moves, noted.phase, rfl, rfl⟩

/-- A run that cannot connect goes from idle to aborted, whatever phase the last run ended in.
-/
theorem advances_of_begin_error (h : desk.begin = (.error e, after))
    : desk.reset.Advances after [.aborted] 0 0 := by
  unfold Desk.begin at h
  rcases hopened : ({ desk with phase := .idle } : Desk).openConnection with ⟨_ | _, opened⟩
  · rw [hopened] at h
    cases h
    rw [eq_of_openConnection_error hopened]
    exact advances_move _ .aborted
  · rw [hopened] at h
    cases h

theorem advances_of_begin_ok (h : desk.begin = (.ok lease, after))
    : desk.reset.Advances after [.connected] 1 0 := by
  unfold Desk.begin at h
  rcases hopened : ({ desk with phase := .idle } : Desk).openConnection with ⟨_ | _, opened⟩
  · rw [hopened] at h
    cases h
  · rw [hopened] at h
    cases h
    exact (advances_of_openConnection hopened).trans (advances_move _ .connected)

end

variable (lease : Lease) (connection : Connection)

theorem advances_disconnect : desk.Advances (desk.disconnect connection) [] 0 1 := by
  have noted :=
    advances_note { desk with released := desk.released + 1 } (quiet_closing connection)
  exact ⟨noted.platform, noted.source, noted.files, noted.moves, noted.phase, rfl, rfl⟩

/-- A guard that goes out of scope gives its connection back once. -/
theorem advances_drop : desk.Advances (desk.drop lease.guard) [] 0 1 := by
  rw [drop_lease]
  exact (desk.advances_disconnect _).note (by simp [Event.Quiet, Event.move?])

/-- A guard that is closed gives its connection back once, although it is released twice. -/
theorem advances_close : desk.Advances (desk.close lease.guard) [] 0 1 := by
  rw [close_eq_drop]
  exact desk.advances_drop lease

theorem advances_finish : desk.Advances (desk.finish lease.guard) [.disconnected] 0 1 :=
  (desk.advances_close lease).trans (advances_move _ .disconnected)

/-- Fetching is one phase, whatever it answers. -/
theorem advances_gather (selection : Selection) (projection : Projection)
    : desk.Advances (desk.gather connection selection projection).2.2 [.fetching] 0 0 := by
  have fetching :=
    (desk.advances_move .fetching).note
      (quiet_load desk.platform connection desk.seen selection.table)
  unfold gather
  dsimp only
  split
  · exact fetching
  · exact fetching.note (by simp [Event.Quiet, Event.move?])

theorem advances_gatherMail (job : MailJob)
    : desk.Advances (desk.gatherMail connection job).2.2 [.fetching] 0 0 := by
  have gathered := desk.advances_gather connection job.selection .all
  unfold gatherMail
  rcases hgather : desk.gather connection job.selection .all with ⟨_ | table, used, fetched⟩ <;>
  · rw [hgather] at gathered
    exact gathered

-----------------------------------------------------------------------------------------
-- Rows
-----------------------------------------------------------------------------------------

/-- A report renders row by row, by induction on the rows. -/
theorem advances_rendering (rows : List Row)
    : desk.Advances (rows.foldl (fun desk _ => desk.move .rendering) desk)
        (rows.map fun _ => .rendering) 0 0 := by
  induction rows generalizing desk with
  | nil => exact .refl desk
  | cons row rows ih => exact (desk.advances_move .rendering).trans (ih _)

end Desk

/-- The phases of the mail for some rows: each row that is not skipped is rendered and then
dispatched.
-/
def Recipients.phases (recipients : Recipients) (rows : List Row) : List Phase :=
  (rows.filter (!recipients.skips ·)).flatMap fun _ => [.rendering, .dispatching]

theorem Recipients.phases_cons (recipients : Recipients) (row : Row) (rows : List Row)
    : recipients.phases (row :: rows) = recipients.phases [row] ++ recipients.phases rows := by
  cases h : recipients.skips row <;> simp [phases, h]

namespace Post

variable {σ : Type} {mailer : Mailer σ}

theorem advances_deliver (index : Nat) (letter : Letter) (post : Post σ)
    : post.desk.Advances (post.deliver mailer index letter).desk [] 0 0 := by
  have noted (receipt : Receipt)
      : post.desk.Advances
          (post.desk.note (receipt.note.toList.map (Event.noted letter.recipient))) [] 0 0 := by
    obtain ⟨result, note⟩ := receipt
    refine Desk.advances_note _ ?_
    cases note <;> simp [Event.Quiet, Event.move?]
  unfold deliver
  rcases hresult : (mailer letter post.state).1.result with error | ⟨⟨⟩⟩
  · simp only [hresult]
    exact (noted _).note (by simp [Event.Quiet, Event.move?])
  · simp only [hresult]
    exact (noted _).note (by simp [Event.Quiet, Event.move?])

theorem advances_deliverAll (index : Nat) (letter : String → Letter) (addresses : List String)
    (post : Post σ)
    : post.desk.Advances
        (addresses.foldl (fun post recipient => post.deliver mailer index (letter recipient))
          post).desk [] 0 0 := by
  induction addresses generalizing post with
  | nil => exact .refl post.desk
  | cons recipient addresses ih =>
      exact (advances_deliver index (letter recipient) post).trans (ih _)

variable (recipients : Recipients) (subject body : Template)

/-- A row is rendered and dispatched once, however many addresses it goes to. -/
theorem advances_deliverRow (post : Post σ) (row : Row) (index : Nat)
    : post.desk.Advances (post.deliverRow mailer recipients subject body (row, index)).desk
        (recipients.phases [row]) 0 0 := by
  cases hskips : recipients.skips row with
  | true =>
      have quiet : Event.Quiet (recipients.columns.map (Event.skipped index)) := by
        simp [Event.Quiet, Event.move?]
      have hphases : recipients.phases [row] = [] := by simp [Recipients.phases, hskips]
      rw [hphases]
      simp only [deliverRow, addresses?_eq, hskips, if_true]
      exact Desk.advances_note _ quiet
  | false =>
      have hphases : recipients.phases [row] = [.rendering, .dispatching] := by
        simp [Recipients.phases, hskips]
      rw [hphases]
      simp only [deliverRow, addresses?_eq, hskips, Bool.false_eq_true, if_false]
      let letter (recipient : String) : Letter :=
        { recipient, subject := subject.render row.fields, body := body.render row.fields }
      have moved :=
        (post.desk.advances_move .rendering).trans (Desk.advances_move _ .dispatching)
      exact moved.trans
        (advances_deliverAll index letter (recipients.destinations row) { post with desk := _ })

/-- The rows of a run go through their phases one after the other, by induction on the rows. -/
theorem advances_deliverRows (rows : List (Row × Nat)) (post : Post σ)
    : post.desk.Advances (rows.foldl (deliverRow mailer recipients subject body) post).desk
        (recipients.phases (rows.map Prod.fst)) 0 0 := by
  induction rows generalizing post with
  | nil => exact .refl post.desk
  | cons indexed rows ih =>
      obtain ⟨row, index⟩ := indexed
      rw [List.map_cons, Recipients.phases_cons]
      exact (advances_deliverRow recipients subject body post row index).trans (ih _)

end Post

end MailMerge
