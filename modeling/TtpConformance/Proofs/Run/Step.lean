import TtpConformance.Proofs.Run.Trace
import TtpConformance.Run.Poll

/-!
# What steps ask for

One bound for each way of using commands: which requests it makes, and that its error is
one that a command can lead to.  The bounds are open at both ends.  `P` is anything that
holds of the requests in question, and `E` anything that holds of such errors, so the
same lemma serves every statement about what a run may ask for.

## Main definitions

* `RunError.OfCommand` — the errors that a command can lead to.
* `Execution.text?` — what a command that has succeeded has written.
* `Step.Reads` — one command whose output is read.

## Main statements

* `Step.execute_yields_iff`, `Step.reads_checked`, `Step.Reads.bind` — the trace of a
  command.
* `Step.conforms_checked`, `Step.conforms_test` — commands by use.
* `Step.conforms_pollFrom` — polling asks for what its pauses and probes ask for.
-/

namespace TtpConformance

/-- The errors that a command can lead to: it does not start, it fails, or it gives
something that cannot be read. -/
def RunError.OfCommand : RunError → Prop
  | .io _ | .command .. | .parse _ => True
  | _ => False

/-- What a command that has succeeded has written. -/
def Execution.text? (reply : Execution) : Option String :=
  match reply with
  | .ok output => if output.succeeded then some output.stdout else none
  | .error _ => none

namespace Step

variable {P : Request → Prop} {E : RunError → Prop} {host : Host} {command : Command}

/-- Executing a command is that one command, and only its not starting is an error. -/
theorem execute_yields_iff {events : List Event} {result : Except RunError Output} :
    (Step.execute host command).run.Yields events result ↔
      ∃ reply : Execution, events = [⟨.command host command, reply⟩] ∧
        result = reply.mapError RunError.io := by
  constructor
  · rintro ⟨reply, rest, rfl, h⟩
    refine ⟨reply, ?_⟩
    cases reply <;> exact ⟨congrArg _ h.1, h.2⟩
  · rintro ⟨reply, rfl, rfl⟩
    refine ⟨reply, [], rfl, ?_⟩
    cases reply <;> exact ⟨rfl, rfl⟩

/-- The step is one command that has to succeed, and its result is read off what that has
written. -/
def Reads {α : Type} (host : Host) (command : Command) (read : String → Except RunError α)
    (step : Step α) : Prop :=
  ∀ events result, step.run.Yields events result →
    ∃ reply : Execution, events = [⟨.command host command, reply⟩] ∧
      ((∃ text, Execution.text? reply = some text ∧ result = read text) ∨
        (Execution.text? reply = none ∧ ∃ e : RunError, result = .error e ∧ e.OfCommand))

theorem reads_checked : Reads host command .ok (checked host command) := by
  intro events result h
  rcases yields_run_bind_iff.mp h with
    ⟨e, hexecute, rfl⟩ | ⟨first, output, second, rfl, hexecute, hrest⟩
  · obtain ⟨reply, rfl, hreply⟩ := execute_yields_iff.mp hexecute
    cases reply with
    | ok output => cases hreply
    | error reason =>
        cases hreply
        exact ⟨.error reason, rfl, .inr ⟨rfl, .io reason, rfl, trivial⟩⟩
  · obtain ⟨reply, rfl, hreply⟩ := execute_yields_iff.mp hexecute
    cases reply with
    | error reason => cases hreply
    | ok output =>
        cases hreply
        split at hrest <;> rename_i hsucceeded <;> obtain ⟨rfl, rfl⟩ := hrest
        · exact ⟨.ok output, rfl, .inl ⟨output.stdout, if_pos hsucceeded, rfl⟩⟩
        · exact ⟨.ok output, rfl, .inr ⟨if_neg hsucceeded, _, rfl, trivial⟩⟩

section Reads

variable {α β : Type} {shown : String → α} {step : Step α}

/-- What has been read can be read further. -/
theorem Reads.bind (h : Reads host command (fun text => .ok (shown text)) step)
    (f : α → Except RunError β) :
    Reads host command (fun text => f (shown text)) (step >>= fun a => ofExcept (f a)) := by
  intro events result hyields
  rcases yields_run_bind_iff.mp hyields with
    ⟨e, hfail, rfl⟩ | ⟨first, a, second, rfl, hok, rfl, rfl⟩
  · obtain ⟨reply, rfl, ⟨text, -, heq⟩ | ⟨hnone, _, heq, he⟩⟩ := h _ _ hfail <;> cases heq
    exact ⟨reply, rfl, .inr ⟨hnone, e, rfl, he⟩⟩
  · obtain ⟨reply, rfl, ⟨text, htext, heq⟩ | ⟨-, _, heq, -⟩⟩ := h _ _ hok <;> cases heq
    exact ⟨reply, rfl, .inl ⟨text, htext, rfl⟩⟩

theorem Reads.discard (h : Reads host command (fun text => .ok (shown text)) step) :
    Reads host command (fun _ => .ok ()) (discard step) := by
  rw [discard_eq_map, map_eq_pure_bind]
  exact h.bind fun _ => .ok ()

end Reads

theorem conforms_request {r : Request} (h : P r) : Conforms P E (Step.request r) :=
  Conforms.lift (Program.ensures_request h)

theorem conforms_pause {length : Duration} (h : P (.pause length)) :
    Conforms P E (Step.pause length) :=
  conforms_request h

theorem conforms_ofExcept {α : Type} {result : Except RunError α}
    (h : ∀ e, result = .error e → E e) : Conforms P E (Step.ofExcept result) :=
  fun _ he => h _ he

theorem conforms_mapError {α : Type} {E' : RunError → Prop} {f : RunError → RunError}
    {step : Step α} (h : Conforms P E' step) (hf : ∀ e, E' e → E (f e)) :
    Conforms P E (Step.mapError f step) := by
  refine Program.Ensures.bind h fun result hresult => ?_
  cases result with
  | ok a => exact Conforms.pure a
  | error e => exact Conforms.throw (hf e (hresult e rfl))

variable (hP : P (.command host command)) (hE : ∀ e : RunError, e.OfCommand → E e)

include hP hE

theorem conforms_execute : Conforms P E (Step.execute host command) := by
  refine (conforms_request hP).bind fun execution => ?_
  cases execution with
  | ok output => exact Conforms.pure output
  | error reason => exact Conforms.throw (hE _ trivial)

theorem conforms_checked : Conforms P E (Step.checked host command) := by
  refine (conforms_execute hP hE).bind fun output => ?_
  split
  · exact Conforms.pure _
  · exact Conforms.throw (hE _ trivial)

theorem conforms_test : Conforms P E (Step.test host command) :=
  (conforms_execute hP hE).bind fun output => Conforms.pure output.succeeded

omit hP

theorem conforms_fileText {path : String} (h : P (.command host (.readFile path))) :
    Conforms P E (Step.fileText host path) :=
  conforms_checked h hE

theorem conforms_writeFile {path value : String}
    (h : P (.command host (.writeFile path value))) :
    Conforms P E (Step.writeFile host path value) :=
  (conforms_checked h hE).discard

theorem conforms_copyFile {source destination : String}
    (h : P (.command host (.copyFile source destination))) :
    Conforms P E (Step.copyFile host source destination) :=
  (conforms_checked h hE).discard

omit hE

/-- Polling asks for nothing but what one pause and one probe ask for. -/
theorem conforms_pollFrom {α : Type} {pause : Step Unit} {probe : Step (Option α)}
    (hpause : Conforms P E pause) (hprobe : Conforms P E probe) (remaining attempts : Nat) :
    Conforms P E (RetryPolicy.pollFrom pause probe remaining attempts) := by
  induction remaining generalizing attempts with
  | zero => exact Conforms.pure _
  | succ remaining ih =>
      refine hprobe.bind fun value? => ?_
      cases value? with
      | some value => exact Conforms.pure _
      | none => exact hpause.bind fun _ => ih (attempts + 1)

end Step

end TtpConformance
