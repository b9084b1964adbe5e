import TtpConformance.RunError
import TtpConformance.Settings.Basic

/-!
# Polling

A node takes its time to publish what another one needs, so some values are probed for: up to a
fixed number of attempts, with the same pause after each attempt that gave nothing. An error of a
probe ends the polling at once.

## Main definitions

* `Polled` — how polling ended.
* `RetryPolicy.poll` — polling, in any monad that can pause and probe.
* `RetryPolicy.pollScript` — polling of results that are known in advance, with what it did.
-/

namespace TtpConformance

/-- How polling ended. -/
inductive Polled (α : Type) where
  /-- A probe gave a value; `attempts` counts it too. -/
  | ready (value : α) (attempts : Nat)
  /-- Every attempt was used and gave nothing. -/
  | exhausted (attempts : Nat)
  deriving DecidableEq, Repr

namespace RetryPolicy

variable {m : Type → Type} [Monad m] {α : Type}

/-- Polls `remaining` times, after `attempts` that gave nothing. -/
def pollFrom (pause : m Unit) (probe : m (Option α)) : (remaining attempts : Nat) → m (Polled α)
  | 0, attempts => pure (.exhausted attempts)
  | remaining + 1, attempts => do
    match ← probe with
    | some value => pure (.ready value (attempts + 1))
    | none =>
      pause
      pollFrom pause probe remaining (attempts + 1)

/-- Probes until there is a value or the attempts are used up. -/
def poll (policy : RetryPolicy) (pause : Duration → m Unit) (probe : m (Option α)) :
    m (Polled α) :=
  pollFrom (pause policy.interval) probe policy.maxAttempts.toNat 0

end RetryPolicy

/-- What a probe gives: nothing yet, a value, or an error. -/
abbrev ProbeResult (α : Type) := Except RunError (Option α)

/-- What polling has done so far, and the probe results that are left. -/
structure PollRecord (α : Type) where
  results : List (ProbeResult α)
  probes : Nat := 0
  /-- The pauses, newest first. -/
  pauses : List Duration := []

namespace RetryPolicy

variable {α : Type}

/-- Polling with probe results that are known in advance; after them, nothing is ever ready. -/
def pollScript (policy : RetryPolicy) (results : List (ProbeResult α)) :
    Except RunError (Polled α) × PollRecord α :=
  let pause (d : Duration) : ExceptT RunError (StateM (PollRecord α)) Unit :=
    modify fun r => { r with pauses := d :: r.pauses }
  let probe : ExceptT RunError (StateM (PollRecord α)) (Option α) := do
    let record ← get
    set { record with results := record.results.tail, probes := record.probes + 1 }
    match record.results.head? with
    | none => pure none
    | some (.ok value?) => pure value?
    | some (.error e) => throw e
  StateT.run (ExceptT.run (policy.poll pause probe)) { results }

end RetryPolicy

end TtpConformance
