/-! Inversion of computations that may fail: a composed one succeeds just when its parts do,
and fails with the error of the first part that fails.
-/

namespace MailMerge.Outcome

variable {ε α β : Type}

theorem map_eq_ok_iff {f : α → β} {outcome : Except ε α} {b : β}
    : outcome.map f = .ok b ↔ ∃ a, outcome = .ok a ∧ f a = b := by
  cases outcome <;> simp [Except.map]

theorem map_eq_error_iff {f : α → β} {outcome : Except ε α} {e : ε}
    : outcome.map f = .error e ↔ outcome = .error e := by
  cases outcome <;> simp [Except.map]

theorem map_map {γ : Type} (f : α → β) (g : β → γ) (outcome : Except ε α)
    : (outcome.map f).map g = outcome.map (g ∘ f) := by
  cases outcome <;> rfl

theorem bind_eq_ok_iff {f : α → Except ε β} {outcome : Except ε α} {b : β}
    : (outcome >>= f) = .ok b ↔ ∃ a, outcome = .ok a ∧ f a = .ok b := by
  cases outcome <;> simp [bind, Except.bind]

section

variable {ε' : Type} {f : ε → ε'}

@[simp]
theorem mapError_ok (a : α) : (Except.ok a : Except ε α).mapError f = .ok a :=
  rfl

@[simp]
theorem mapError_error (e : ε) : (Except.error e : Except ε α).mapError f = .error (f e) :=
  rfl

theorem mapError_eq_ok_iff {outcome : Except ε α} {a : α}
    : outcome.mapError f = .ok a ↔ outcome = .ok a := by
  cases outcome <;> simp

end

theorem eq_ok_of_toOption {outcome : Except ε α} {a : α} (h : outcome.toOption = some a)
    : outcome = .ok a := by
  cases outcome with
  | error => cases h
  | ok => cases h; rfl

/-- The error of a computation, if it fails. -/
def error? : Except ε α → Option ε
  | .error e => some e
  | .ok _ => none

theorem error?_eq_some_iff {outcome : Except ε α} {e : ε}
    : error? outcome = some e ↔ outcome = .error e := by
  cases outcome <;> simp [error?]

theorem eq_error_of_error? {outcome : Except ε α} {e : ε} (h : error? outcome = some e)
    : outcome = .error e :=
  error?_eq_some_iff.mp h

@[simp]
theorem error?_map (f : α → β) (outcome : Except ε α)
    : error? (outcome.map f) = error? outcome := by
  cases outcome <;> rfl

/-- Two computations are the same if they fail with the same error, or not at all, and what
comes of the first one comes of the second one.
-/
theorem eq_of_error?_eq {first second : Except ε α} (errors : error? first = error? second)
    (results : ∀ a, first = .ok a → second = .ok a)
    : first = second := by
  cases first with
  | error e => exact (eq_error_of_error? errors.symm).symm
  | ok a => exact (results a rfl).symm

/-- The first part that fails decides on the error. -/
theorem error?_bind (f : α → Except ε β) (outcome : Except ε α)
    : error? (outcome >>= f)
      = (error? outcome).or (outcome.toOption.bind fun a => error? (f a)) := by
  cases outcome <;> rfl

/-- A second part whose error does not depend on what the first part hands over. -/
theorem error?_bind_eq {f : α → Except ε β} {outcome : Except ε α} {later : Option ε}
    (h : ∀ a, outcome = .ok a → error? (f a) = later)
    : error? (outcome >>= f) = (error? outcome).or later := by
  cases outcome with
  | error e => rfl
  | ok a => exact h a rfl

@[simp]
theorem error?_mapError {ε' : Type} (f : ε → ε') (outcome : Except ε α)
    : error? (outcome.mapError f) = (error? outcome).map f := by
  cases outcome <;> rfl

end MailMerge.Outcome
