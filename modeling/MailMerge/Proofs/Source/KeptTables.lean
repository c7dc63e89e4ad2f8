import MailMerge.Proofs.Outcome
import MailMerge.Proofs.Source.RecordedTables

/-! Tables that a connection to a directory keeps. A question about a table that was read before
is answered as from memory, by the table as it was first read and whatever has become of its
file; any other question is answered from the file as it stands.
-/

namespace MailMerge

open Select
open Files (Tree View)

-----------------------------------------------------------------------------------------
-- Questions
-----------------------------------------------------------------------------------------

/-- A question about one table. -/
inductive Question where
  | fetch (table : String) (projection : Projection) (criteria : Criteria)
      (window : PageWindow)
  | columns (table : String)

inductive Answer where
  | rows (table : Table)
  | columns (names : List String)

/-- A question that is asked while the files stand in a certain way. -/
structure TableCall where
  files : View
  question : Question

namespace Question

def table : Question → String
  | fetch table .. => table
  | columns table => table

/-- The answer to a question, given the table that it is about. -/
def answeredBy (platform : Platform) (question : Question) (rows : Table)
    : Except QueryError Answer :=
  match question with
  | fetch table projection criteria window =>
      ((select platform.limits rows projection criteria window).mapError
        (QueryError.ofSelect table)).map .rows
  | columns _ => .ok (.columns rows.columns)

end Question

def TableCall.table (call : TableCall) : String :=
  call.question.table

namespace Connection

/-- Asks a question about a table. -/
def reply (platform : Platform) (connection : Connection) (call : TableCall)
    : Reply Answer :=
  match call.question with
  | .fetch table projection criteria window =>
      let reply := connection.fetch platform call.files table projection criteria window
      { reply with answer := reply.answer.map .rows }
  | .columns table =>
      let reply := connection.columns platform call.files table
      { reply with answer := reply.answer.map .columns }

/-- The connection that some calls leave behind. -/
def after (platform : Platform) (connection : Connection) (calls : List TableCall)
    : Connection :=
  calls.foldl (fun connection call => (connection.reply platform call).connection) connection

theorem answer_reply (platform : Platform) (connection : Connection) (call : TableCall)
    : (connection.reply platform call).answer
      = (connection.load platform call.files call.table).answer
          >>= call.question.answeredBy platform := by
  obtain ⟨files, question⟩ := call
  cases question with
  | fetch table projection criteria window =>
      cases loaded : (connection.load platform files table).answer <;>
        simp [reply, fetch, TableCall.table, Question.table, loaded, Question.answeredBy,
          Except.map, Except.bind, bind]
  | columns table =>
      cases loaded : (connection.load platform files table).answer <;>
        simp [reply, columns, TableCall.table, Question.table, loaded, Question.answeredBy,
          Except.map, Except.bind, bind]

theorem connection_reply (platform : Platform) (connection : Connection) (call : TableCall)
    : (connection.reply platform call).connection
      = (connection.load platform call.files call.table).connection := by
  obtain ⟨files, question⟩ := call
  cases question <;> rfl

theorem answer_load_memory (platform : Platform) (tables : List (String × Table))
    (files : View) (table : String)
    : ((memory tables).load platform files table).answer
      = (tables.lookup table).elim (.error (.unknownTable table)) .ok := by
  simp only [load]
  cases tables.lookup table <;> rfl

/-- Loading a table puts it in front of those kept if its file was read just now. -/
theorem connection_load_directory (platform : Platform) (path : String)
    (kept : List (String × Table)) (files : View) (table : String)
    : ∃ kept',
        ((directory path kept).load platform files table).connection
          = .directory path kept'
        ∧ ∀ other,
            kept'.lookup other
              = (kept.lookup other).or
                  (if table = other then (loadTable platform files path table).toOption
                  else none) := by
  simp only [load]
  cases found : kept.lookup table with
  | some rows =>
      refine ⟨kept, rfl, ?_⟩
      intro other
      by_cases same : table = other
      · rw [← same, found, Option.some_or]
      · rw [if_neg same, Option.or_none]
  | none =>
      cases loaded : loadTable platform files path table with
      | error e => exact ⟨kept, rfl, by simp [Except.toOption]⟩
      | ok rows =>
          refine ⟨(table, rows) :: kept, rfl, ?_⟩
          intro other
          by_cases same : table = other
          · rw [if_pos same, ← same, found, List.lookup_cons_self]
            rfl
          · have apart : (other == table) = false := by simp [Ne.symm same]
            rw [if_neg same, Option.or_none, List.lookup_cons, apart]

end Connection

-----------------------------------------------------------------------------------------
-- Histories
-----------------------------------------------------------------------------------------

namespace TableCall

/-- The table that a call finds in its file in a directory, if it is about that table. -/
def read? (platform : Platform) (path table : String) (call : TableCall) : Option Table :=
  if call.table = table then (loadTable platform call.files path table).toOption else none

end TableCall

/-- What the first call about a table read that could read its file at all. -/
def firstRead? (platform : Platform) (path : String) (history : List TableCall)
    (table : String)
    : Option Table :=
  history.findSome? (TableCall.read? platform path table)

theorem firstRead?_append (platform : Platform) (path : String) (front back : List TableCall)
    (table : String)
    : firstRead? platform path (front ++ back) table
      = (firstRead? platform path front table).or (firstRead? platform path back table) :=
  List.findSome?_append

theorem firstRead?_cons (platform : Platform) (path : String) (call : TableCall)
    (calls : List TableCall) (table : String)
    : firstRead? platform path (call :: calls) table
      = (call.read? platform path table).or (firstRead? platform path calls table) := by
  unfold firstRead?
  rw [List.findSome?_cons]
  cases call.read? platform path table <;> rfl

/-- Calls about other tables read nothing of a table. -/
theorem firstRead?_of_apart {platform : Platform} {path table : String}
    {calls : List TableCall} (apart : ∀ call ∈ calls, call.table ≠ table)
    : firstRead? platform path calls table = none :=
  List.findSome?_eq_none_iff.mpr fun call mem => if_neg (apart call mem)

/-- A connection to a directory that holds each table as it was first read. -/
def Connection.Keeps (platform : Platform) (path : String) (history : List TableCall)
    (connection : Connection)
    : Prop :=
  ∃ kept,
    connection = .directory path kept
    ∧ ∀ table, kept.lookup table = firstRead? platform path history table

namespace Connection.Keeps

variable {platform : Platform} {path : String} {history : List TableCall}
  {connection : Connection}

theorem reply (keeps : Keeps platform path history connection) (call : TableCall)
    : Keeps platform path (history ++ [call]) (connection.reply platform call).connection := by
  obtain ⟨kept, rfl, holds⟩ := keeps
  obtain ⟨kept', loaded, holds'⟩ :=
    connection_load_directory platform path kept call.files call.table
  refine ⟨kept', (connection_reply platform _ call).trans loaded, ?_⟩
  intro table
  rw [holds', holds, firstRead?_append, firstRead?_cons, TableCall.read?]
  by_cases same : call.table = table
  · rw [if_pos same, if_pos same, same]
    exact congrArg _ (Option.or_none).symm
  · rw [if_neg same, if_neg same]
    rfl

/-- Each call adds to what is kept what it read first, by induction on the calls. -/
theorem after (keeps : Keeps platform path history connection) (calls : List TableCall)
    : Keeps platform path (history ++ calls) (connection.after platform calls) := by
  induction calls generalizing history connection with
  | nil => rwa [List.append_nil]
  | cons call calls ih =>
      have next := ih (keeps.reply call)
      rwa [List.append_assoc, List.singleton_append] at next

theorem answer_load (keeps : Keeps platform path history connection) (files : View)
    (table : String)
    : (connection.load platform files table).answer
      = (firstRead? platform path history table).elim
          (loadTable platform files path table) .ok := by
  obtain ⟨kept, rfl, holds⟩ := keeps
  rw [answer_load_directory, holds]

/-- A call loads its table if that was read before or can be read now. -/
theorem answer_load_eq_ok_iff (keeps : Keeps platform path history connection) {call : TableCall}
    {rows : Table}
    : (connection.load platform call.files call.table).answer = .ok rows
      ↔ firstRead? platform path (history ++ [call]) call.table = some rows := by
  rw [keeps.answer_load, firstRead?_append, firstRead?_cons, TableCall.read?, if_pos rfl]
  cases firstRead? platform path history call.table with
  | some read => simp
  | none =>
      cases loadTable platform call.files path call.table <;>
        simp [Except.toOption, firstRead?]

/-- Connections after histories in which the same was read answer alike. -/
theorem answer_congr {other : List TableCall} {connection' : Connection}
    (keeps : Keeps platform path history connection)
    (keeps' : Keeps platform path other connection') (call : TableCall)
    (same : firstRead? platform path history call.table = firstRead? platform path other call.table)
    : (connection.reply platform call).answer = (connection'.reply platform call).answer := by
  rw [answer_reply, answer_reply, keeps.answer_load, keeps'.answer_load, same]

end Connection.Keeps

theorem Connection.keeps_after (platform : Platform) (path : String)
    (history : List TableCall)
    : Keeps platform path history ((directory path []).after platform history) := by
  have fresh : Keeps platform path [] (directory path []) := ⟨[], rfl, fun _ => rfl⟩
  exact fresh.after history

-----------------------------------------------------------------------------------------
-- Calls that load nothing
-----------------------------------------------------------------------------------------

/-- Whether an error says that a table could not be loaded. -/
def QueryError.isLoadError : QueryError → Bool
  | unknownTable _ | unreadable .. => true
  | _ => false

/-- No question fails for a table that is there as if there were none. -/
theorem Question.isLoadError_of_answeredBy {platform : Platform} {question : Question}
    {rows : Table} {e : QueryError} (failed : question.answeredBy platform rows = .error e)
    : e.isLoadError = false := by
  cases question with
  | columns table => cases failed
  | fetch table projection criteria window =>
      simp only [answeredBy, Outcome.map_eq_error_iff] at failed
      cases selected : select platform.limits rows projection criteria window with
      | ok page => rw [selected] at failed; cases failed
      | error cause =>
          rw [selected] at failed
          obtain rfl := Except.error.inj failed
          cases cause <;> rfl

namespace Connection.Keeps

variable {platform : Platform} {path : String} {history : List TableCall}
  {connection : Connection}

/-- A call that could not load its table has found nothing to read, and nothing was read of
that table before.
-/
theorem unread_of_isLoadError (keeps : Keeps platform path history connection) {call : TableCall}
    {e : QueryError} (failed : (connection.reply platform call).answer = .error e)
    (loadError : e.isLoadError = true)
    : firstRead? platform path history call.table = none
      ∧ ∀ table, call.read? platform path table = none := by
  have unread : firstRead? platform path (history ++ [call]) call.table = none := by
    cases read : firstRead? platform path (history ++ [call]) call.table with
    | none => rfl
    | some rows =>
        rw [answer_reply, keeps.answer_load_eq_ok_iff.mpr read] at failed
        have answered := Question.isLoadError_of_answeredBy failed
        rw [loadError] at answered
        cases answered
  rw [firstRead?_append, firstRead?_cons, Option.or_eq_none_iff, Option.or_eq_none_iff]
    at unread
  refine ⟨unread.1, ?_⟩
  intro table
  by_cases same : call.table = table
  · exact same ▸ unread.2.1
  · exact if_neg same

end Connection.Keeps

/-- After any calls, a question about a table that one of them could read is answered as from
memory, from what the first of them read. Any other question is answered from the file of its
table as that stands. A call that could not load its table makes no difference to any later
answer, so the next one about that table reads the file again.
-/
theorem reply_after_eq_memory (platform : Platform) (path : String) (history : List TableCall)
    : let connection := (Connection.directory path []).after platform history
      (∀ call rows tables,
        firstRead? platform path history call.table = some rows
        → tables.lookup call.table = some rows
        → (connection.reply platform call).answer
          = ((Connection.memory tables).reply platform call).answer)
      ∧ (∀ call,
          firstRead? platform path history call.table = none
          → (connection.reply platform call).answer
            = (loadTable platform call.files path call.table
                >>= call.question.answeredBy platform))
      ∧ ∀ failed e,
          (connection.reply platform failed).answer = .error e
          → e.isLoadError = true
          → firstRead? platform path history failed.table = none
            ∧ (∀ later next,
                ((connection.after platform (failed :: later)).reply platform next).answer
                  = ((connection.after platform later).reply platform next).answer)
            ∧ ∀ later next,
                (∀ call ∈ later, call.table ≠ failed.table)
                → next.table = failed.table
                → ((connection.after platform (failed :: later)).reply platform next).answer
                  = (loadTable platform next.files path next.table
                      >>= next.question.answeredBy platform) := by
  intro connection
  have keeps : Connection.Keeps platform path history connection :=
    Connection.keeps_after platform path history
  refine ⟨?_, ?_, ?_⟩
  · intro call rows tables read held
    rw [Connection.answer_reply, Connection.answer_reply, keeps.answer_load, read,
      Connection.answer_load_memory, held]
    rfl
  · intro call unread
    rw [Connection.answer_reply, keeps.answer_load, unread]
    rfl
  · intro failed e hfailed loadError
    obtain ⟨unread, nothing⟩ := keeps.unread_of_isLoadError hfailed loadError
    have firstRead?_failed : ∀ later table,
        firstRead? platform path (history ++ failed :: later) table
          = firstRead? platform path (history ++ later) table := by
      intro later table
      rw [firstRead?_append, firstRead?_cons, nothing, Option.none_or, firstRead?_append]
    refine ⟨unread, ?_, ?_⟩
    · intro later next
      exact (keeps.after (failed :: later)).answer_congr (keeps.after later) next
        (firstRead?_failed later next.table)
    · intro later next apart same
      have unreadNext
          : firstRead? platform path (history ++ failed :: later) next.table = none := by
        rw [firstRead?_failed, firstRead?_append, same, unread, firstRead?_of_apart apart]
        rfl
      rw [Connection.answer_reply, (keeps.after (failed :: later)).answer_load, unreadNext]
      rfl

theorem reply_after_eq_memory_changed
    : let platform := Platform.standard .quiet
      let file (content : String) := (Tree.empty.plant "d/t.csv" (Text.toBytes content)).view
      let missing : TableCall := {
        files := (Tree.empty.plantDirectory "d").view
        question := .columns "t"
      }
      let first : TableCall := { files := file "a\n1\n", question := .columns "t" }
      let changed : TableCall := { files := file "b\n2\n", question := .columns "t" }
      let rows := Table.ofRecords ["a"] [["1"]]
      let fresh := Connection.directory "d" []
      (fresh.reply platform missing).answer = .error (.unknownTable "t")
      ∧ ((fresh.after platform [missing, first]).reply platform changed).answer
        = ((Connection.memory [("t", rows)]).reply platform changed).answer
      ∧ ((fresh.after platform [missing]).reply platform first).answer
        = .ok (.columns ["a"]) := by
  intro platform file missing first changed rows fresh
  have bare : missing.files.Shows "d" [] :=
    holds_plantDirectory.shows (fun name _ => joinPath_plant_ne_rootPath name) (by simp)
  have absent : loadTable platform missing.files "d" "t" = .error (.unknownTable "t") :=
    loadTable_of_not_sees fun sees => by simpa using (bare.seesTable_iff.mp sees).2
  have records : Csv.records (Text.toBytes "a\n1\n") = .ok [["a"], ["1"]] := by
    decide +kernel
  have present : loadTable platform first.files "d" "t" = .ok rows :=
    (holdsRecords_plant records).loadTable_eq
  have read : firstRead? platform "d" [missing, first] "t" = some rows := by
    have unread : missing.read? platform "d" "t" = none :=
      (if_pos rfl).trans (by rw [absent]; rfl)
    have readFirst : first.read? platform "d" "t" = some rows :=
      (if_pos rfl).trans (by rw [present]; rfl)
    rw [firstRead?_cons, firstRead?_cons, unread, readFirst]
    rfl
  have failed : (fresh.reply platform missing).answer = .error (.unknownTable "t") := by
    rw [Connection.answer_reply, Connection.answer_load_directory, List.lookup_nil,
      Option.elim_none]
    rw [show loadTable platform missing.files "d" missing.table = _ from absent]
    rfl
  refine ⟨failed, ?_, ?_⟩
  · exact (reply_after_eq_memory platform "d" [missing, first]).1 changed rows [("t", rows)]
      read rfl
  · obtain ⟨-, -, afresh⟩ := (reply_after_eq_memory platform "d" []).2.2 missing _ failed rfl
    refine (afresh [] first (by simp) rfl).trans ?_
    exact congrArg (· >>= first.question.answeredBy platform) present

end MailMerge
