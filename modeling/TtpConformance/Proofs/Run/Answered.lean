import TtpConformance.Proofs.Run.Step

/-!
# Steps with given answers

A step that asks no question twice sees no more of a node than one answer to each
question.  With these answers given, what the step comes to is a value, and the value of
a sequence is put together from those of its parts.

## Main definitions

* `World.answering` — surroundings that answer a command always in the same way.
* `Step.resultWith` — what a step comes to in them.

## Main statements

* `Step.resultWith_bind` — the result of a sequence.
* `Step.resultWith_checked_eq_ok_iff` — a command that has to succeed.
-/

namespace TtpConformance

/-- Surroundings in which a command is always answered in the same way, nothing else is
ever in the way, and locks are nobody's concern. -/
def World.answering (answer : Host → Command → Execution) : World Unit
  | .command host command, s => (answer host command, s)
  | .together jobs, s => (jobs.zipIdx.map fun ((host, command), i) => (i, answer host command), s)
  | .pause _, s => ((), s)
  | .acquire owner, s => (.ok ⟨owner, owner⟩, s)
  | .release _, s => (.ok (), s)

theorem except_bind_eq_ok_iff {ε α β : Type} {x : Except ε α} {f : α → Except ε β} {b : β} :
    x.bind f = .ok b ↔ ∃ a, x = .ok a ∧ f a = .ok b := by
  cases x <;> simp [Except.bind]

namespace Step

variable {α β : Type} {answer : Host → Command → Execution}

/-- What a step comes to if commands are answered like this. -/
def resultWith (answer : Host → Command → Execution) (step : Step α) : Except RunError α :=
  (step.run.runIn (World.answering answer) ()).1

@[simp] theorem resultWith_pure (a : α) : resultWith answer (pure a) = .ok a := rfl

@[simp] theorem resultWith_throw (e : RunError) :
    resultWith answer (throw e : Step α) = .error e := rfl

@[simp] theorem resultWith_ofExcept (result : Except RunError α) :
    resultWith answer (ofExcept result) = result := rfl

theorem resultWith_bind (x : Step α) (f : α → Step β) :
    resultWith answer (x >>= f) = (resultWith answer x).bind fun a => resultWith answer (f a) := by
  unfold resultWith
  rw [ExceptT.run_bind, Program.runIn_bind]
  cases (x.run.runIn (World.answering answer) ()).1 <;> rfl

/-- A sequence comes to something if its parts do. -/
theorem resultWith_bind_eq_ok_iff {x : Step α} {f : α → Step β} {b : β} :
    resultWith answer (x >>= f) = .ok b ↔
      ∃ a, resultWith answer x = .ok a ∧ resultWith answer (f a) = .ok b := by
  rw [resultWith_bind, except_bind_eq_ok_iff]

/-- What comes after a part that has come to something. -/
theorem resultWith_bind_of_ok {x : Step α} {a : α} (h : resultWith answer x = .ok a)
    (f : α → Step β) : resultWith answer (x >>= f) = resultWith answer (f a) := by
  rw [resultWith_bind, h]
  rfl

/-- A part that is left out without its condition gives nothing that the rest could miss. -/
theorem resultWith_onlyIf {c : Prop} [Decidable c] {x : Step Unit} {f : Unit → Step β} :
    resultWith answer (if c then x >>= f else f ()) =
      (if c then resultWith answer x else .ok ()).bind fun u => resultWith answer (f u) := by
  split
  · rw [resultWith_bind]
  · rfl

theorem resultWith_mapError_eq_ok_iff {f : RunError → RunError} {x : Step α} {a : α} :
    resultWith answer (mapError f x) = .ok a ↔ resultWith answer x = .ok a := by
  unfold resultWith mapError
  rw [ExceptT.run_mk, Program.runIn_bind]
  cases (x.run.runIn (World.answering answer) ()).1 <;> simp

/-- A command that has to succeed gives what it has written, if it does. -/
theorem resultWith_checked_eq_ok_iff {host : Host} {command : Command} {text : String} :
    resultWith answer (checked host command) = .ok text ↔
      Execution.text? (answer host command) = some text := by
  have hexecute : resultWith answer (execute host command) =
      (answer host command).mapError RunError.io := by
    unfold execute
    rw [resultWith_bind_of_ok (a := answer host command) rfl]
    cases answer host command <;> rfl
  unfold checked
  rw [resultWith_bind_eq_ok_iff, hexecute]
  cases answer host command with
  | error reason =>
      constructor
      · rintro ⟨_, houtput, -⟩
        cases houtput
      · nofun
  | ok output =>
      have houtput : ∀ a, (Except.ok output : Execution).mapError RunError.io = .ok a ↔
          output = a := fun a => ⟨Except.ok.inj, congrArg Except.ok⟩
      simp only [houtput, exists_eq_left', Execution.text?]
      split <;> simp

end Step

end TtpConformance
