import Mathlib.Data.ENat.Lattice
import TtpConformance.Run.Poll

/-!
# Polling by what the probes give

Polling counts its attempts up and its budget down, and it has three ways to end.  All of
it is settled by one number: how many probes come before the first one that gives a value
or an error.  Each of them is followed by one pause and leads to the same loop, with one
attempt more behind it and one less ahead; the loop then ends at once.

A probe may look at anything and change anything, so polling is first followed through the
states of whatever it is run in.  For a sequence of results that is fixed in advance this
state is a list of the moves that were made.

## Main definitions

* `PollMove`, `RetryPolicy.pollSequence` — polling on a sequence of results, with its moves.
* `CountsMisses` — the number of results in front that are not ready.
* `RetryPolicy.pollWord` — polling with an attempt counter of thirty-two bits.

## Main statements

* `RetryPolicy.run_pollFrom_of_misses` — the loop after a number of misses.
* `RetryPolicy.pollWord_eq` — the counter does not overflow.
* `RetryPolicy.poll_exact` — what polling comes to and what it does.
-/

namespace TtpConformance

variable {α σ : Type}

/-! ## The loop, state by state -/

section Sequencing

variable {β : Type} {x : ExceptT RunError (StateM σ) α} {f : α → ExceptT RunError (StateM σ) β}
  {s t : σ}

theorem run_bind_of_ok {a : α} (h : x.run.run s = (.ok a, t)) :
    (x >>= f).run.run s = (f a).run.run t := by
  rw [ExceptT.run_bind, StateT.run_bind, h]
  rfl

theorem run_bind_of_error {e : RunError} (h : x.run.run s = (.error e, t)) :
    (x >>= f).run.run s = (.error e, t) := by
  rw [ExceptT.run_bind, StateT.run_bind, h]
  rfl

end Sequencing

namespace RetryPolicy

section States

variable {pause : ExceptT RunError (StateM σ) Unit}
  {probe : ExceptT RunError (StateM σ) (Option α)} {s t : σ} {remaining attempts : Nat}

/-- A probe that gives nothing, and the pause after it, lead from one state to another. -/
def Misses (pause : ExceptT RunError (StateM σ) Unit)
    (probe : ExceptT RunError (StateM σ) (Option α)) (s t : σ) : Prop :=
  ∃ between, probe.run.run s = (.ok none, between) ∧ pause.run.run between = (.ok (), t)

theorem run_pollFrom_of_miss (h : Misses pause probe s t) :
    (pollFrom pause probe (remaining + 1) attempts).run.run s =
      (pollFrom pause probe remaining (attempts + 1)).run.run t := by
  obtain ⟨between, hprobe, hpause⟩ := h
  rw [pollFrom, run_bind_of_ok hprobe]
  exact run_bind_of_ok hpause

/-- After a number of misses, the loop is where it would be with as many attempts behind it
and as many less ahead. -/
theorem run_pollFrom_of_misses (states : Nat → σ) {j : Nat}
    (h : ∀ k < j, Misses pause probe (states k) (states (k + 1))) (remaining attempts : Nat) :
    (pollFrom pause probe (j + remaining) attempts).run.run (states 0) =
      (pollFrom pause probe remaining (attempts + j)).run.run (states j) := by
  induction j generalizing remaining with
  | zero => rw [Nat.zero_add, Nat.add_zero]
  | succ j ih =>
      have hfront := ih (fun k hk => h k (Nat.lt_succ_of_lt hk)) (remaining + 1)
      rw [Nat.succ_add_eq_add_succ, hfront, run_pollFrom_of_miss (h j (Nat.lt_succ_self j)),
        Nat.add_assoc]

theorem run_pollFrom_of_ready {value : α} (h : probe.run.run s = (.ok (some value), t)) :
    (pollFrom pause probe (remaining + 1) attempts).run.run s =
      (.ok (.ready value (attempts + 1)), t) := by
  rw [pollFrom, run_bind_of_ok h]
  rfl

theorem run_pollFrom_of_error {e : RunError} (h : probe.run.run s = (.error e, t)) :
    (pollFrom pause probe (remaining + 1) attempts).run.run s = (.error e, t) := by
  rw [pollFrom, run_bind_of_error h]

end States

/-! ## The attempt counter -/

section Counter

variable {m : Type → Type} [Monad m]

/-- The loop with an attempt counter of thirty-two bits, which gives up where the counter
would overflow. -/
def pollWordFrom (pause : m Unit) (probe : m (Option α)) :
    (remaining : Nat) → (attempts : UInt32) → m (Option (Polled α))
  | 0, attempts => pure (some (.exhausted attempts.toNat))
  | remaining + 1, attempts =>
    if attempts.toNat + 1 < UInt32.size then do
      match ← probe with
      | some value => pure (some (.ready value (attempts + 1).toNat))
      | none =>
        pause
        pollWordFrom pause probe remaining (attempts + 1)
    else pure none

/-- Polling with an attempt counter of thirty-two bits. -/
def pollWord (policy : RetryPolicy) (pause : Duration → m Unit) (probe : m (Option α)) :
    m (Option (Polled α)) :=
  pollWordFrom (pause policy.interval) probe policy.maxAttempts.toNat 0

variable [LawfulMonad m]

/-- The attempts behind and those ahead are the budget together, so the counter has room. -/
theorem pollWordFrom_eq (pause : m Unit) (probe : m (Option α)) {remaining : Nat}
    {attempts : UInt32} (h : attempts.toNat + remaining < UInt32.size) :
    pollWordFrom pause probe remaining attempts =
      some <$> pollFrom pause probe remaining attempts.toNat := by
  induction remaining generalizing attempts with
  | zero => simp [pollWordFrom, pollFrom]
  | succ remaining ih =>
      have hroom : attempts.toNat + 1 < UInt32.size := by omega
      have hnext : (attempts + 1).toNat = attempts.toNat + 1 := by
        rw [UInt32.toNat_add]
        exact Nat.mod_eq_of_lt hroom
      rw [pollWordFrom, if_pos hroom, pollFrom, map_bind]
      refine congrArg _ (funext fun value? => ?_)
      cases value? with
      | some value => simp [hnext]
      | none => rw [ih (by omega), hnext, map_bind]

theorem pollWord_eq (policy : RetryPolicy) (pause : Duration → m Unit) (probe : m (Option α)) :
    policy.pollWord pause probe = some <$> policy.poll pause probe :=
  pollWordFrom_eq _ probe (by simpa using policy.maxAttempts.toNat_lt_size)

end Counter

end RetryPolicy

/-! ## A sequence of results -/

/-- One thing that polling does. -/
inductive PollMove where
  /-- The probe is called. -/
  | probe
  /-- A pause is asked for. -/
  | pause (length : Duration)
  deriving DecidableEq

/-- Steps that make moves. The moves made so far are the state, oldest first, which an error does
not undo. -/
abbrev PollLog := ExceptT RunError (StateM (List PollMove))

namespace PollMove

/-- The pause that is asked for. -/
def pause? : PollMove → Option Duration
  | probe => none
  | pause length => some length

/-- A number of probes with a pause after each. -/
def waits (length : Duration) (n : Nat) : List PollMove :=
  (List.replicate n [probe, pause length]).flatten

theorem waits_succ (length : Duration) (n : Nat) :
    waits length (n + 1) = waits length n ++ [probe, pause length] := by
  rw [waits, List.replicate_succ', List.flatten_concat, waits]

theorem count_probe_waits (length : Duration) (n : Nat) : (waits length n).count probe = n := by
  induction n with
  | zero => rfl
  | succ n ih =>
      rw [waits_succ, List.count_append, ih]
      rfl

theorem pauses_waits (length : Duration) (n : Nat) :
    (waits length n).filterMap pause? = List.replicate n length := by
  induction n with
  | zero => rfl
  | succ n ih =>
      rw [waits_succ, List.filterMap_append, ih, List.replicate_succ']
      rfl

end PollMove

namespace PollLog

open PollMove (waits)

/-- A pause that is asked for. -/
def pause (length : Duration) : PollLog Unit :=
  ExceptT.mk (modifyGet fun moves => (.ok (), moves ++ [.pause length]))

/-- A probe, which gives the result whose turn it is. -/
def probe (results : Nat → ProbeResult α) : PollLog (Option α) :=
  ExceptT.mk (modifyGet fun moves => (results (moves.count .probe), moves ++ [.probe]))

/-- The probe after `n` waits gives the result behind the first `n`. -/
theorem run_probe_waits (results : Nat → ProbeResult α) (length : Duration) (n : Nat) :
    (probe results).run.run (waits length n) = (results n, waits length n ++ [.probe]) := by
  show (results ((waits length n).count .probe), _) = _
  rw [PollMove.count_probe_waits]

theorem misses_waits {results : Nat → ProbeResult α} {n : Nat} (h : results n = .ok none)
    (length : Duration) :
    RetryPolicy.Misses (pause length) (probe results) (waits length n)
      (waits length (n + 1)) := by
  refine ⟨waits length n ++ [.probe], ?_, ?_⟩
  · rw [run_probe_waits, h]
  · rw [PollMove.waits_succ]
    show (_, (waits length n ++ [.probe]) ++ [.pause length]) = _
    rw [List.append_assoc]
    rfl

end PollLog

/-- How many results are not ready before the first one that is a value or an error, if there is
one. -/
def CountsMisses (results : Nat → ProbeResult α) (misses : ℕ∞) : Prop :=
  ∀ k : ℕ, k < misses ↔ ∀ i ≤ k, results i = .ok none

theorem exists_countsMisses (results : Nat → ProbeResult α) :
    ∃ misses, CountsMisses results misses := by
  by_cases h : ∃ k, results k ≠ .ok none
  · classical
    refine ⟨Nat.find h, fun k => ?_⟩
    rw [Nat.cast_lt, Nat.lt_find_iff]
    simp
  · refine ⟨⊤, fun k => ?_⟩
    simp only [ENat.natCast_lt_top, true_iff]
    exact fun i _ => by_contra fun hi => h ⟨i, hi⟩

namespace RetryPolicy

open PollMove (waits)

/-- Polling on a sequence of probe results: what it comes to, and its moves, oldest first. -/
def pollSequence (policy : RetryPolicy) (results : Nat → ProbeResult α) :
    Except RunError (Polled α) × List PollMove :=
  StateT.run (ExceptT.run (policy.poll PollLog.pause (PollLog.probe results))) []

variable {policy : RetryPolicy} {results : Nat → ProbeResult α} {j : Nat}

/-- After a number of misses within the budget. -/
theorem pollSequence_of_misses (h : ∀ k < j, results k = .ok none) {remaining : Nat}
    (hbudget : policy.maxAttempts.toNat = j + remaining) :
    policy.pollSequence results =
      (pollFrom (PollLog.pause policy.interval) (PollLog.probe results) remaining j).run.run
        (waits policy.interval j) := by
  have hmisses := fun k hk => PollLog.misses_waits (h k hk) policy.interval
  have hloop := run_pollFrom_of_misses (waits policy.interval) hmisses remaining 0
  rw [← hbudget, Nat.zero_add] at hloop
  exact hloop

theorem pollSequence_exhausted (h : ∀ k < policy.maxAttempts.toNat, results k = .ok none) :
    policy.pollSequence results =
      (.ok (.exhausted policy.maxAttempts.toNat),
        waits policy.interval policy.maxAttempts.toNat) :=
  pollSequence_of_misses h (Nat.add_zero _).symm

/-- After misses that leave some of the budget, there is another probe. -/
theorem exists_pollSequence_eq (h : ∀ k < j, results k = .ok none)
    (hj : j < policy.maxAttempts.toNat) :
    ∃ remaining, policy.pollSequence results =
      (pollFrom (PollLog.pause policy.interval) (PollLog.probe results) (remaining + 1) j).run.run
        (waits policy.interval j) := by
  obtain ⟨remaining, hbudget⟩ := Nat.exists_eq_add_of_lt hj
  exact ⟨remaining, pollSequence_of_misses h (hbudget.trans (Nat.add_assoc j remaining 1))⟩

theorem pollSequence_ready {value : α} (h : ∀ k < j, results k = .ok none)
    (hj : j < policy.maxAttempts.toNat) (hvalue : results j = .ok (some value)) :
    policy.pollSequence results =
      (.ok (.ready value (j + 1)), waits policy.interval j ++ [.probe]) := by
  obtain ⟨remaining, hrun⟩ := exists_pollSequence_eq h hj
  rw [hrun]
  apply run_pollFrom_of_ready
  rw [PollLog.run_probe_waits, hvalue]

theorem pollSequence_failing {e : RunError} (h : ∀ k < j, results k = .ok none)
    (hj : j < policy.maxAttempts.toNat) (herror : results j = .error e) :
    policy.pollSequence results = (.error e, waits policy.interval j ++ [.probe]) := by
  obtain ⟨remaining, hrun⟩ := exists_pollSequence_eq h hj
  rw [hrun]
  apply run_pollFrom_of_error
  rw [PollLog.run_probe_waits, herror]

/-- What polling comes to and what it does, by the number of results in front that are not
ready. -/
structure PollsExactly (policy : RetryPolicy) (results : Nat → ProbeResult α) (misses : ℕ∞)
    (result : Except RunError (Polled α)) (moves : List PollMove) : Prop where
  exhausted : policy.maxAttempts.toNat ≤ misses →
    result = .ok (.exhausted policy.maxAttempts.toNat)
  ready : ∀ j : ℕ, misses = j → j < policy.maxAttempts.toNat →
    ∀ value, results j = .ok (some value) → result = .ok (.ready value (j + 1))
  failing : ∀ j : ℕ, misses = j → j < policy.maxAttempts.toNat →
    ∀ e, results j = .error e → result = .error e
  order : moves = waits policy.interval (min (policy.maxAttempts.toNat : ℕ∞) misses).toNat ++
    if misses < policy.maxAttempts.toNat then [.probe] else []
  probes : (moves.count .probe : ℕ∞) = min (policy.maxAttempts.toNat : ℕ∞) (misses + 1)
  pauses : moves.filterMap PollMove.pause? =
    List.replicate (min (policy.maxAttempts.toNat : ℕ∞) misses).toNat policy.interval

/-- With a budget that does not go beyond the misses, all of it is used up. -/
theorem pollsExactly_of_le {misses : ℕ∞} (h : CountsMisses results misses)
    (hle : policy.maxAttempts.toNat ≤ misses) :
    PollsExactly policy results misses (policy.pollSequence results).1
      (policy.pollSequence results).2 := by
  have hall : ∀ k < policy.maxAttempts.toNat, results k = .ok none := fun k hk =>
    (h k).mp (lt_of_lt_of_le (Nat.cast_lt.mpr hk) hle) k le_rfl
  have hwaited : (min (policy.maxAttempts.toNat : ℕ∞) misses).toNat =
      policy.maxAttempts.toNat := by
    rw [min_eq_left hle, ENat.toNat_natCast]
  have hnone : ∀ j : ℕ, misses = j → ¬ j < policy.maxAttempts.toNat := fun j hj hlt => by
    rw [hj, Nat.cast_le] at hle
    exact absurd hlt (Nat.not_lt.mpr hle)
  rw [pollSequence_exhausted hall]
  constructor
  case exhausted => exact fun _ => rfl
  case ready => exact fun j hj hlt => absurd hlt (hnone j hj)
  case failing => exact fun j hj hlt => absurd hlt (hnone j hj)
  case order => rw [hwaited, if_neg (not_lt.mpr hle), List.append_nil]
  case probes =>
    rw [PollMove.count_probe_waits, min_eq_left (hle.trans le_self_add)]
  case pauses => rw [PollMove.pauses_waits, hwaited]

/-- With a budget that goes beyond the misses, the result behind them is the last one that is
looked at. -/
theorem pollsExactly_of_lt (h : CountsMisses results j) (hj : j < policy.maxAttempts.toNat) :
    PollsExactly policy results j (policy.pollSequence results).1
      (policy.pollSequence results).2 := by
  have hmisses : ∀ k < j, results k = .ok none := fun k hk =>
    (h k).mp (Nat.cast_lt.mpr hk) k le_rfl
  have hends : results j ≠ .ok none := by
    intro hnone
    have hfront : ∀ i ≤ j, results i = .ok none := fun i hi => by
      rcases Nat.lt_or_eq_of_le hi with hlt | rfl
      · exact hmisses i hlt
      · exact hnone
    exact absurd ((h j).mpr hfront) (lt_irrefl _)
  have hlt : (j : ℕ∞) < policy.maxAttempts.toNat := Nat.cast_lt.mpr hj
  have hwaited : (min (policy.maxAttempts.toNat : ℕ∞) j).toNat = j := by
    rw [min_eq_right hlt.le, ENat.toNat_natCast]
  have hmoves : (policy.pollSequence results).2 = waits policy.interval j ++ [.probe] := by
    cases hresult : results j with
    | error e => rw [pollSequence_failing hmisses hj hresult]
    | ok value? =>
        cases value? with
        | none => exact absurd hresult hends
        | some value => rw [pollSequence_ready hmisses hj hresult]
  constructor
  case exhausted => exact fun hle => absurd hlt (not_lt.mpr hle)
  case ready =>
    intro k hk _ value hvalue
    obtain rfl : j = k := Nat.cast_injective hk
    rw [pollSequence_ready hmisses hj hvalue]
  case failing =>
    intro k hk _ e herror
    obtain rfl : j = k := Nat.cast_injective hk
    rw [pollSequence_failing hmisses hj herror]
  case order => rw [hmoves, hwaited, if_pos hlt]
  case probes =>
    rw [hmoves, List.count_append, PollMove.count_probe_waits, min_eq_right (by exact_mod_cast hj)]
    rfl
  case pauses =>
    rw [hmoves, List.filterMap_append, PollMove.pauses_waits, hwaited]
    exact List.append_nil _

/--
Polling, for every budget, interval and sequence of probe results.  Let `misses` be the
number of results in front that are not ready.  If the budget does not go beyond them,
polling has used it up; otherwise the next result is its own, a value with one attempt
more than there were misses, or an error.

The moves are a probe and a pause for each miss within the budget and then, if there is
budget left, one more probe and nothing after it.  So there are as many probes as the
budget allows of the misses and one more, as many pauses as it allows of the misses, each
of the length of the interval, and none after a value or an error.  The attempt counter of
thirty-two bits never overflows, whatever polling is run in.
-/
theorem poll_exact (policy : RetryPolicy) (results : Nat → ProbeResult α) :
    (∃ misses, CountsMisses results misses) ∧
      (∀ misses, CountsMisses results misses →
        PollsExactly policy results misses (policy.pollSequence results).1
          (policy.pollSequence results).2) ∧
      ∀ (m : Type → Type) [Monad m] [LawfulMonad m] (pause : Duration → m Unit)
        (probe : m (Option α)),
        policy.pollWord pause probe = some <$> policy.poll pause probe := by
  refine ⟨exists_countsMisses results, fun misses h => ?_, fun m _ _ => policy.pollWord_eq⟩
  rcases le_or_gt (policy.maxAttempts.toNat : ℕ∞) misses with hle | hlt
  · exact pollsExactly_of_le h hle
  · obtain ⟨j, rfl⟩ := ENat.ne_top_iff_exists.mp hlt.ne_top
    exact pollsExactly_of_lt h (Nat.cast_lt.mp hlt)

/-- Two misses with a budget of three: the last attempt gives the value. -/
theorem poll_exact_last_attempt :
    let policy : RetryPolicy := ⟨3, .ofSeconds 1⟩
    let results : Nat → ProbeResult Nat := fun k => .ok (if k < 2 then none else some k)
    CountsMisses results 2 ∧
      policy.pollSequence results =
        (.ok (.ready 2 3), waits (.ofSeconds 1) 2 ++ [.probe]) := by
  intro policy results
  have hmisses : CountsMisses results 2 := by
    intro k
    rw [Nat.cast_lt_ofNat]
    constructor
    · intro hk i hi
      exact congrArg Except.ok (if_pos (Nat.lt_of_le_of_lt hi hk))
    · intro hall
      simpa [results] using hall k le_rfl
  have hexact := (poll_exact policy results).2.1 2 hmisses
  have hresult := hexact.ready 2 rfl (by decide) 2 rfl
  have horder := hexact.order
  exact ⟨hmisses, Prod.ext hresult (horder.trans (by decide))⟩

end RetryPolicy

end TtpConformance
