import MailMerge.Pipe.Command

/-! Hosts and the commands that they are asked to start. A command gives an answer if it was
started, took its input, ended well and printed a text; a host that keeps a record of what it was
asked to start answers like the host itself.
-/

namespace MailMerge.Pipe

variable {σ : Type}

/-- A command that took what it was given, ended by itself with the code zero, and printed a text.
-/
structure Child.Succeeds (child : Child) : Prop where
  fed : child.feeding.check = .ok ()
  ended : child.ending = .ok (some (.code 0))
  printed : (Text.ofBytes? child.output).isSome

/-- A host that starts a command whatever it is to be given, and on which it always succeeds. -/
def Host.Succeeds (host : Host σ) (command : String) (limit : Option Nat) : Prop :=
  ∀ text state,
    ∃ child next, host (invocation command text) limit state = (.ok child, next) ∧ child.Succeeds

/-- A host that writes down what it is asked to start. -/
def Host.recording (host : Host σ) : Host (σ × List Invocation) :=
  fun invocation limit (state, record) =>
    let (child, next) := host invocation limit state
    (child, next, record ++ [invocation])

theorem Child.answer_eq_ok_iff {child : Child} {command output : String} {limit : Option Nat}
    : child.answer command limit = .ok output
      ↔ child.feeding.check = .ok ()
        ∧ child.ending = .ok (some (.code 0))
        ∧ Text.ofBytes? child.output = some output := by
  unfold answer
  cases child.ending with
  | error reason => simp
  | ok ending =>
      cases ending with
      | none => cases child.stopping <;> simp
      | some status =>
          cases child.feeding.check with
          | error e => simp
          | ok fed =>
              by_cases ended : status = .code 0
              · cases printed : Text.ofBytes? child.output <;> simp [ended]
              · simp [ended]

/-- A command that succeeds has an answer. -/
theorem Child.Succeeds.answer {child : Child} (succeeds : child.Succeeds) (command : String)
    (limit : Option Nat)
    : ∃ output, child.answer command limit = .ok output := by
  obtain ⟨output, printed⟩ := Option.isSome_iff_exists.mp succeeds.printed
  exact ⟨output, answer_eq_ok_iff.mpr ⟨succeeds.fed, succeeds.ended, printed⟩⟩

theorem Host.Succeeds.run {host : Host σ} {command : String} {limit : Option Nat}
    (succeeds : host.Succeeds command limit) (text : String) (state : σ)
    : ∃ output next, run host command text limit state = (.ok output, next) := by
  obtain ⟨child, next, started, well⟩ := succeeds text state
  obtain ⟨output, answered⟩ := well.answer command limit
  refine ⟨output, next, ?_⟩
  rw [Pipe.run, started]
  simp only [answered]

/-- Each run asks the host to start one command, and writes this down. -/
theorem run_recording (host : Host σ) (command text : String) (limit : Option Nat) (state : σ)
    (record : List Invocation)
    : run host.recording command text limit (state, record)
      = ((run host command text limit state).1, (run host command text limit state).2,
          record ++ [invocation command text]) := by
  rcases started : host (invocation command text) limit state with ⟨_ | child, next⟩ <;>
    simp only [run, Host.recording, started]

end MailMerge.Pipe
