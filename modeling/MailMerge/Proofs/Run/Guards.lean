import MailMerge.Run.Desk

/-! Guards of connections. A guard disconnects its connection when it is first released and has
no part in anything from then on, so one that was closed may still go out of scope, and it
makes no difference how often a guard is released.
-/

namespace MailMerge

namespace Lease

@[simp]
theorem connection_ofConnection (connection : Connection)
    : (ofConnection connection).connection = connection :=
  rfl

theorem guard_connection (lease : Lease)
    : lease.guard.connection = some lease.connection := by
  simp [connection]

/-- A guard that owns a connection is what it owns. -/
theorem ofConnection_connection (lease : Lease) : ofConnection lease.connection = lease := by
  obtain ⟨⟨_ | connection⟩, owns⟩ := lease
  · cases owns
  · rfl

end Lease

namespace Desk

variable (desk : Desk) (guard : Guard) (lease : Lease)

theorem release_of_empty (empty : guard.connection = none)
    : desk.release guard = (guard, desk) := by
  rw [release, empty]

/-- A guard that owns a connection disconnects it and is empty then. -/
theorem release_lease
    : desk.release lease.guard
      = ({ connection := none }, (desk.disconnect lease.connection).note [.released]) := by
  rw [release, lease.guard_connection]

theorem connection_release : (desk.release guard).1.connection = none := by
  unfold release
  cases owned : guard.connection with
  | none => exact owned
  | some connection => rfl

/-- A guard that was released has nothing left to disconnect, so no second release counts. -/
theorem release_release
    : (desk.release guard).2.release (desk.release guard).1 = desk.release guard :=
  release_of_empty _ _ (desk.connection_release guard)

/-- A guard that is closed goes out of scope after that, which adds nothing. -/
theorem close_eq_drop : desk.close guard = desk.drop guard :=
  congrArg Prod.snd (desk.release_release guard)

theorem drop_lease
    : desk.drop lease.guard = (desk.disconnect lease.connection).note [.released] :=
  congrArg Prod.snd (desk.release_lease lease)

end Desk

end MailMerge
