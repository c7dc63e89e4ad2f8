import MailMerge.Platform
import MailMerge.Run.Event
import MailMerge.Select.Query

/-! Sources of tables and the connections to them. A source in memory hands its tables to
the connection as they stand; a directory holds one file for each table, and a connection
keeps a table that it has read.
-/

namespace MailMerge

open Select

/-- Why a source cannot be reached. -/
inductive ConnectError where
  | notFound (path : String)
  | unusable (path : String) (cause : Files.FileError)
  deriving DecidableEq, Repr

namespace ConnectError

def message : ConnectError → String
  | notFound path => s!"database '{path}' does not exist or is not a directory"
  | unusable path cause => s!"cannot open database '{path}': " ++ cause.message

/-- The causes that a message is followed by where all of them are told. -/
def causes : ConnectError → List String
  | notFound _ => []
  | unusable _ cause => [cause.message]

end ConnectError

/-- Why a connection cannot answer. -/
inductive QueryError where
  | unknownTable (table : String)
  | unknownColumn (table column : String)
  | invalidPattern (pattern reason : String)
  | unreadable (table : String) (cause : Csv.ReadError)
  | unlisted (cause : Files.FileError)
  deriving DecidableEq, Repr

namespace QueryError

def ofSelect (table : String) : SelectError → QueryError
  | .unknownColumn column => unknownColumn table column
  | .invalidPattern pattern reason => invalidPattern pattern reason

def message : QueryError → String
  | unknownTable table => s!"unknown table '{table}'"
  | unknownColumn table column => s!"unknown column '{column}' in table '{table}'"
  | invalidPattern pattern reason => s!"invalid pattern '{pattern}': " ++ reason
  | unreadable table cause => s!"cannot read table '{table}': " ++ cause.message
  | unlisted cause => "cannot list tables: " ++ cause.message

/-- The causes that a message is followed by where all of them are told. -/
def causes : QueryError → List String
  | invalidPattern _ reason => [reason]
  | unreadable _ cause => cause.message :: cause.causes
  | unlisted cause => [cause.message]
  | _ => []

end QueryError

inductive Source where
  | memory (tables : List (String × Table)) (isReachable : Bool)
  | directory (path : String)

/-- An open connection. A source in memory lends its tables; a directory is read table by
table.
-/
inductive Connection where
  | memory (tables : List (String × Table))
  | directory (path : String) (kept : List (String × Table))

namespace Source

def connect (source : Source) (files : Files.View) : Except ConnectError Connection :=
  match source with
  | memory tables true => .ok (.memory tables)
  | memory _ false => .error (.notFound "memory")
  | directory path =>
      match files.stat path with
      | .ok .directory => .ok (.directory path [])
      | .ok _ | .error .notFound => .error (.notFound path)
      | .error cause => .error (.unusable path cause)

end Source

def isTableChar (c : Char) : Bool :=
  c.isAlphanum || c = '_' || c = '-' || c = '.'

/-- A table may be named by letters, digits and a few marks, but not with a leading point,
so that no name leads out of its directory.
-/
def isTableName (name : String) : Bool :=
  name.toList.head?.any (· ≠ '.') && name.toList.all isTableChar

def tableExtension : String := "csv"

/-- The name of the file that a table is kept in. -/
def tableFileName (table : String) : String :=
  table ++ "." ++ tableExtension

/-- The path of the file of a table in a directory, for a name that tables may have. -/
def tablePath? (directory table : String) : Option String :=
  if isTableName table then some (Files.joinPath directory (tableFileName table)) else none

/-- The table of some records; the first of them names the columns. -/
def Csv.tableOf : List (List String) → Table
  | [] => Table.ofRecords [] []
  | columns :: rows => Table.ofRecords columns rows

/-- Reads a file of records. -/
def readTable (platform : Platform) (files : Files.View) (path : String)
    : Except Csv.ReadError Table :=
  match files.read path with
  | .error cause => .error (.ofFile cause)
  | .ok content => (platform.records content).map Csv.tableOf

/-- Reads the table with a name from its file in a directory. -/
def loadTable (platform : Platform) (files : Files.View) (directory table : String)
    : Except QueryError Table :=
  match tablePath? directory table with
  | none => .error (.unknownTable table)
  | some path =>
      if files.isFile path then (readTable platform files path).mapError (.unreadable table)
      else .error (.unknownTable table)

/-- The parts of a file name before and behind its last point. A name without a point, or with
none but one that it starts with, is not cut.
-/
def cutName? (name : String) : Option (String × String) :=
  let reversed := name.toList.reverse
  match reversed.dropWhile (· ≠ '.') with
  | _ :: c :: before =>
      if name = ".." then none
      else
        some (String.ofList (c :: before).reverse,
          String.ofList (reversed.takeWhile (· ≠ '.')).reverse)
  | _ => none

def extension? (name : String) : Option String :=
  (cutName? name).map Prod.snd

/-- A file name without its extension. -/
def stem (name : String) : String :=
  (cutName? name).elim name Prod.fst

/-- The name of the table that an entry of a directory holds, if it holds one. -/
def tableNameOf? (files : Files.View) (directory name : String) : Option String :=
  if !files.isFile (Files.joinPath directory name) ∨ extension? name ≠ some tableExtension then
    none
  else (tablePath? directory (stem name)).map fun _ => stem name

def sortNames (names : List String) : List String :=
  names.mergeSort fun left right => decide (left ≤ right)

/-- What a connection answers: the answer, the connection as it goes on, and what it logs. -/
structure Reply (α : Type) where
  answer : Except QueryError α
  connection : Connection
  events : List Event

namespace Connection

/-- The table with a name, read from its file unless it was read before. -/
def load (platform : Platform) (connection : Connection) (files : Files.View)
    (table : String) : Reply Table :=
  match connection with
  | memory tables =>
      match tables.lookup table with
      | some rows => { answer := .ok rows, connection, events := [] }
      | none => { answer := .error (.unknownTable table), connection, events := [] }
  | directory path kept =>
      match kept.lookup table with
      | some rows => { answer := .ok rows, connection, events := [] }
      | none =>
          match loadTable platform files path table with
          | .error e => { answer := .error e, connection, events := [] }
          | .ok rows =>
              {
                answer := .ok rows
                connection := .directory path ((table, rows) :: kept)
                events := [.loaded table rows.rows.length]
              }

/-- One page of the rows of a table. -/
def fetch (platform : Platform) (connection : Connection) (files : Files.View)
    (table : String) (projection : Projection) (criteria : Criteria) (window : PageWindow)
    : Reply Table :=
  let reply := connection.load platform files table
  { reply with
    answer :=
      reply.answer.bind fun rows =>
        (select platform.limits rows projection criteria window).mapError
          (QueryError.ofSelect table) }

/-- The columns of a table, in its order. -/
def columns (platform : Platform) (connection : Connection) (files : Files.View)
    (table : String) : Reply (List String) :=
  let reply := connection.load platform files table
  {
    answer := reply.answer.map Table.columns
    connection := reply.connection
    events := reply.events
  }

/-- The names of all tables, sorted. -/
def tables (connection : Connection) (files : Files.View) : Except QueryError (List String) :=
  match connection with
  | memory tables => .ok (sortNames (tables.map Prod.fst))
  | directory path _ =>
      match files.list path with
      | .error cause => .error (.unlisted cause)
      | .ok names => .ok (sortNames (names.filterMap (tableNameOf? files path)))

def opening : Connection → List Event
  | memory _ => []
  | directory path _ => [.opened path]

/-- What a connection logs when it is closed. -/
def closing : Connection → List Event
  | memory _ => []
  | directory path _ => [.closed path]

end Connection

end MailMerge
