import MailMerge.Source.Connection

/-! The desk that runs work at: the source and the files, the phase of the last run, the
connections opened and disconnected so far, and the log. A connection is owned by a guard,
which disconnects it when it is closed or goes out of scope.
-/

namespace MailMerge

structure Desk where
  platform : Platform
  source : Source
  files : Files.Tree
  phase : Phase
  opened : Nat
  released : Nat
  log : List Event

/-- Owns a connection until it has disconnected it. -/
structure Guard where
  connection : Option Connection

/-- A guard that still owns its connection, so that the connection can be used. -/
structure Lease where
  guard : Guard
  owns : guard.connection.isSome

namespace Lease

def ofConnection (connection : Connection) : Lease where
  guard := { connection := some connection }
  owns := rfl

def connection (lease : Lease) : Connection :=
  lease.guard.connection.get lease.owns

/-- The guard owns the connection as it goes on. -/
def put (lease : Lease) (connection : Connection) : Lease where
  guard := { lease.guard with connection := some connection }
  owns := rfl

end Lease

namespace Desk

def start (platform : Platform) (source : Source) (files : Files.Tree) : Desk where
  platform
  source
  files
  phase := .idle
  opened := 0
  released := 0
  log := []

/-- What is seen of the files. -/
def seen (desk : Desk) : Files.View :=
  desk.platform.view desk.files

def note (desk : Desk) (events : List Event) : Desk :=
  { desk with log := desk.log ++ events }

def move (desk : Desk) (target : Phase) : Desk :=
  { desk with log := desk.log ++ [.moved desk.phase target], phase := target }

/-- Opens a connection, counts it, and hands it to a guard. -/
def openConnection (desk : Desk) : Except ConnectError Lease × Desk :=
  match desk.source.connect desk.seen with
  | .error e => (.error e, desk)
  | .ok connection =>
      (.ok (.ofConnection connection),
        { desk with opened := desk.opened + 1 }.note connection.opening)

/-- Disconnects a connection and counts that. -/
def disconnect (desk : Desk) (connection : Connection) : Desk :=
  { desk with released := desk.released + 1 }.note connection.closing

/-- Takes the connection of a guard, if it has not been taken before, and disconnects it. -/
def release (desk : Desk) (guard : Guard) : Guard × Desk :=
  match guard.connection with
  | none => (guard, desk)
  | some connection => ({ connection := none }, (desk.disconnect connection).note [.released])

/-- A guard that goes out of scope is released. -/
def drop (desk : Desk) (guard : Guard) : Desk :=
  (desk.release guard).2

/-- Releases a guard, which goes out of scope then. -/
def close (desk : Desk) (guard : Guard) : Desk :=
  let (guard, desk) := desk.release guard
  desk.drop guard

/-- Starts a run: the phase is idle again, and then connected or aborted. -/
def begin (desk : Desk) : Except ConnectError Lease × Desk :=
  match { desk with phase := .idle }.openConnection with
  | (.error e, desk) => (.error e, desk.move .aborted)
  | (.ok lease, desk) => (.ok lease, desk.move .connected)

/-- Ends a run that was connected. -/
def finish (desk : Desk) (guard : Guard) : Desk :=
  (desk.close guard).move .disconnected

end Desk

end MailMerge
