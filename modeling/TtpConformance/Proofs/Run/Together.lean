import Mathlib.Algebra.Order.BigOperators.Group.Finset
import Mathlib.Logic.Function.Basic
import Mathlib.Logic.Relation
import TtpConformance.Proofs.Run.Trace

/-!
# Commands at the same time

A host answers a command by what it has received so far, and by nothing else.  The tasks
of commands that run at the same time go on in any order: each sends its command, waits
for the answer and is then reported, and between any two of these steps the other tasks
may have taken any number of their own.

No two of the commands go to the same host.  One invariant then carries the argument: a
host of a task has received what it had received before and the command of that task, so
that no order of steps can be told from the answers.  What is left open is only the order
in which the tasks are reported.

## Main definitions

* `Received`, `Responder` — what hosts have received, and how they answer.
* `TaskSet`, `TaskSet.Step` — the tasks of commands that run at the same time.
* `TaskSet.Consistent` — the invariant.
* `Program.ServedBy` — a program whose requests are answered by hosts.

## Main statements

* `TaskSet.Consistent.step` — every step keeps the invariant.
* `TaskSet.exists_complete` — tasks come to their end from wherever they are.
* `TaskSet.Consistent.mem_ends_iff` — what has been reported in the end.
-/

namespace TtpConformance

open Function (update)

/-! ## Hosts -/

/-- The commands that each host has received, oldest first. -/
abbrev Received := Host → List Command

/-- What a host answers to a command, after all that it has received, with this command. -/
abbrev Responder := Host → List Command → Command → Execution

namespace Received

variable {before : Received} {host : Host} {command : Command} {jobs : List (Host × Command)}

/-- A host receives a command. -/
def deliver (received : Received) (host : Host) (command : Command) : Received :=
  update received host (received host ++ [command])

@[simp] theorem deliver_self : before.deliver host command host = before host ++ [command] := by
  simp [deliver]

theorem deliver_of_ne {other : Host} (h : other ≠ host) :
    before.deliver host command other = before other := by
  simp [deliver, h]

/-- Hosts receive commands one after the other. -/
def deliverAll (received : Received) (jobs : List (Host × Command)) : Received :=
  jobs.foldl (fun received job => received.deliver job.1 job.2) received

theorem deliverAll_cons {job : Host × Command} :
    before.deliverAll (job :: jobs) = (before.deliver job.1 job.2).deliverAll jobs := rfl

theorem deliverAll_of_not_mem (h : host ∉ jobs.map Prod.fst) :
    before.deliverAll jobs host = before host := by
  induction jobs generalizing before with
  | nil => rfl
  | cons job jobs ih =>
      rw [List.map_cons, List.mem_cons, not_or] at h
      rw [deliverAll_cons, ih h.2, deliver_of_ne h.1]

/-- A host with one command has received just that. -/
theorem deliverAll_of_mem (hnodup : (jobs.map Prod.fst).Nodup) (h : (host, command) ∈ jobs) :
    before.deliverAll jobs host = before host ++ [command] := by
  induction jobs generalizing before with
  | nil => cases h
  | cons job jobs ih =>
      rw [List.map_cons, List.nodup_cons] at hnodup
      rw [deliverAll_cons]
      rcases List.mem_cons.mp h with rfl | h
      · rw [deliverAll_of_not_mem hnodup.1, deliver_self]
      · have hne : host ≠ job.1 := by
          rintro rfl
          exact hnodup.1 (List.mem_map.mpr ⟨_, h, rfl⟩)
        rw [ih hnodup.2 h, deliver_of_ne hne]

end Received

/-- What is answered to a command if its host receives no other one in the meantime. -/
def Responder.alone (responder : Responder) (before : Received) (job : Host × Command) :
    Execution :=
  responder job.1 (before job.1 ++ [job.2]) job.2

/-! ## Tasks -/

/-- How far the task of a command has come. -/
inductive TaskPhase where
  /-- Its command has not been sent. -/
  | waiting
  /-- Its host has received the command. -/
  | running
  /-- Its host has answered. -/
  | ended (execution : Execution)
  /-- Its answer has been taken. -/
  | reported

/-- How many steps a task has still to take. -/
def TaskPhase.left : TaskPhase → Nat
  | waiting => 3
  | running => 2
  | ended _ => 1
  | reported => 0

/-- What a host has received whose only task has come this far. -/
def TaskPhase.received (before : List Command) (command : Command) : TaskPhase → List Command
  | waiting => before
  | running | ended _ | reported => before ++ [command]

/-- The tasks of commands that run at the same time, by their positions. -/
structure TaskSet where
  received : Received
  phase : Nat → TaskPhase
  /-- The answers that were taken, oldest first. -/
  ends : List (Nat × Execution)

namespace TaskSet

variable {responder : Responder} {jobs : List (Host × Command)} {before : Received}
  {s s' : TaskSet}

/-- The tasks at the start. -/
def initial (received : Received) : TaskSet where
  received
  phase _ := .waiting
  ends := []

/-- One task gets on. -/
inductive Step (responder : Responder) (jobs : List (Host × Command)) (s : TaskSet) :
    TaskSet → Prop where
  | start (i : Nat) (host : Host) (command : Command) (hjob : jobs[i]? = some (host, command))
      (hphase : s.phase i = .waiting) :
      Step responder jobs s
        { s with
          received := s.received.deliver host command
          phase := update s.phase i .running }
  | finish (i : Nat) (host : Host) (command : Command) (hjob : jobs[i]? = some (host, command))
      (hphase : s.phase i = .running) :
      Step responder jobs s
        { s with
          phase := update s.phase i (.ended (responder host (s.received host) command)) }
  | report (i : Nat) (execution : Execution) (hi : i < jobs.length)
      (hphase : s.phase i = .ended execution) :
      Step responder jobs s
        { s with
          phase := update s.phase i .reported
          ends := s.ends ++ [(i, execution)] }

/-- What any order of steps can lead to. -/
def Reachable (responder : Responder) (jobs : List (Host × Command)) : TaskSet → TaskSet → Prop :=
  Relation.ReflTransGen (Step responder jobs)

/-- Every task has come to its end. -/
def Complete (jobs : List (Host × Command)) (s : TaskSet) : Prop :=
  ∀ i < jobs.length, s.phase i = .reported

/-! ## Every order comes to an end -/

/-- How many steps are left. -/
def left (jobs : List (Host × Command)) (s : TaskSet) : Nat :=
  ∑ i ∈ Finset.range jobs.length, (s.phase i).left

theorem left_lt_of_update {i : Nat} {phase : TaskPhase} (hi : i < jobs.length)
    (hphase : s'.phase = update s.phase i phase) (hlt : phase.left < (s.phase i).left) :
    s'.left jobs < s.left jobs := by
  rw [left, left, hphase]
  apply Finset.sum_lt_sum
  · intro j _
    by_cases hj : j = i
    · subst hj
      simpa using hlt.le
    · simp [hj]
  · exact ⟨i, Finset.mem_range.mpr hi, by simpa using hlt⟩

/-- There is no endless run of tasks. -/
theorem Step.left_lt (h : Step responder jobs s s') : s'.left jobs < s.left jobs := by
  cases h with
  | start i host command hjob hphase =>
      obtain ⟨hi, -⟩ := List.getElem?_eq_some_iff.mp hjob
      exact left_lt_of_update hi rfl (by rw [hphase]; decide)
  | finish i host command hjob hphase =>
      obtain ⟨hi, -⟩ := List.getElem?_eq_some_iff.mp hjob
      exact left_lt_of_update hi rfl (by rw [hphase]; exact Nat.lt_succ_self 1)
  | report i execution hi hphase =>
      exact left_lt_of_update hi rfl (by rw [hphase]; exact Nat.lt_succ_self 0)

/-- A task that has not come to its end can get on, whatever the others do. -/
theorem exists_step (responder : Responder) {i : Nat} (hi : i < jobs.length)
    (h : s.phase i ≠ .reported) : ∃ s', Step responder jobs s s' := by
  have hjob : jobs[i]? = some (jobs[i].1, jobs[i].2) := List.getElem?_eq_getElem hi
  cases hphase : s.phase i with
  | waiting => exact ⟨_, .start i _ _ hjob hphase⟩
  | running => exact ⟨_, .finish i _ _ hjob hphase⟩
  | ended execution => exact ⟨_, .report i execution hi hphase⟩
  | reported => exact absurd hphase h

/-- Tasks come to their end from wherever they are. -/
theorem exists_complete (responder : Responder) (jobs : List (Host × Command)) (s : TaskSet) :
    ∃ s', Reachable responder jobs s s' ∧ s'.Complete jobs := by
  induction hn : s.left jobs using Nat.strong_induction_on generalizing s with
  | _ n ih =>
      by_cases hcomplete : s.Complete jobs
      · exact ⟨s, .refl, hcomplete⟩
      · unfold Complete at hcomplete
        push Not at hcomplete
        obtain ⟨i, hi, hphase⟩ := hcomplete
        obtain ⟨next, hstep⟩ := exists_step responder hi hphase
        obtain ⟨s', hreach, hend⟩ := ih _ (hn ▸ hstep.left_lt) next rfl
        exact ⟨s', .head hstep hreach, hend⟩

/-! ## No order can be told from the answers -/

/-- What holds at any time of tasks whose commands go to different hosts. -/
structure Consistent (responder : Responder) (jobs : List (Host × Command)) (before : Received)
    (s : TaskSet) : Prop where
  /-- A host has received the command of its task once that has sent it, and no other one. -/
  received : ∀ i host command, jobs[i]? = some (host, command) →
    s.received host = (s.phase i).received (before host) command
  /-- The other hosts have received nothing. -/
  others : ∀ host, host ∉ jobs.map Prod.fst → s.received host = before host
  /-- A task has the answer that its host would give if it were alone. -/
  ended : ∀ i execution, s.phase i = .ended execution →
    (jobs.map (responder.alone before))[i]? = some execution
  /-- The answers that were taken are those of the reported tasks. -/
  ends : ∀ i execution, (i, execution) ∈ s.ends ↔
    s.phase i = .reported ∧ (jobs.map (responder.alone before))[i]? = some execution
  /-- No answer was taken twice. -/
  nodup : (s.ends.map Prod.fst).Nodup

theorem consistent_initial : Consistent responder jobs before (initial before) where
  received _ _ _ _ := rfl
  others _ _ := rfl
  ended _ _ h := by cases h
  ends _ _ := by simp [initial]
  nodup := List.nodup_nil

variable (hnodup : (jobs.map Prod.fst).Nodup)

include hnodup in
/-- Two tasks with one host are the same task. -/
theorem eq_of_getElem?_eq {i j : Nat} {host : Host} {command command' : Command}
    (hi : jobs[i]? = some (host, command)) (hj : jobs[j]? = some (host, command')) : i = j := by
  have hi' : (jobs.map Prod.fst)[i]? = some host := by rw [List.getElem?_map, hi]; rfl
  have hj' : (jobs.map Prod.fst)[j]? = some host := by rw [List.getElem?_map, hj]; rfl
  obtain ⟨hlt, -⟩ := List.getElem?_eq_some_iff.mp hi'
  exact (List.getElem?_inj hlt hnodup).mp (hi'.trans hj'.symm)

include hnodup in
/-- What a task that gets on has to see to; the others are not disturbed then. -/
theorem Consistent.advance (h : Consistent responder jobs before s) {i : Nat} {host : Host}
    {command : Command} {phase : TaskPhase} {received : Received} {ends : List (Nat × Execution)}
    (hjob : jobs[i]? = some (host, command)) (hold : s.phase i ≠ .reported)
    (hreceived : received host = phase.received (before host) command)
    (hothers : ∀ other ≠ host, received other = s.received other)
    (hended : ∀ execution, phase = .ended execution →
      execution = responder.alone before (host, command))
    (hends : ∀ j execution, (j, execution) ∈ ends ↔ (j, execution) ∈ s.ends ∨
      j = i ∧ phase = .reported ∧ execution = responder.alone before (host, command))
    (hends_nodup : (ends.map Prod.fst).Nodup) :
    Consistent responder jobs before ⟨received, update s.phase i phase, ends⟩ := by
  have hanswer : ∀ execution, (jobs.map (responder.alone before))[i]? = some execution ↔
      execution = responder.alone before (host, command) := by
    intro execution
    rw [List.getElem?_map, hjob, Option.map_some, Option.some.injEq, eq_comm]
  constructor
  case received =>
    intro j other command' hj
    by_cases hij : j = i
    · subst hij
      obtain ⟨rfl, rfl⟩ := Prod.mk.inj (Option.some.inj (hj.symm.trans hjob))
      simpa using hreceived
    · have hne : other ≠ host := by
        rintro rfl
        exact hij (eq_of_getElem?_eq hnodup hj hjob)
      show received other = (update s.phase i phase j).received (before other) command'
      rw [Function.update_of_ne hij, hothers other hne]
      exact h.received j other command' hj
  case others =>
    intro other hother
    have hne : other ≠ host := by
      rintro rfl
      exact hother (List.mem_map.mpr ⟨_, List.mem_of_getElem? hjob, rfl⟩)
    exact (hothers other hne).trans (h.others other hother)
  case ended =>
    intro j execution hj
    by_cases hij : j = i
    · subst hij
      exact (hanswer execution).mpr (hended execution (by simpa using hj))
    · exact h.ended j execution (by simpa [hij] using hj)
  case ends =>
    intro j execution
    rw [hends, h.ends]
    by_cases hij : j = i
    · subst hij
      rw [hanswer]
      simp [hold]
    · simp [hij]
  case nodup => exact hends_nodup

include hnodup in
/-- Every step of every task keeps the invariant. -/
theorem Consistent.step (h : Consistent responder jobs before s)
    (hstep : Step responder jobs s s') : Consistent responder jobs before s' := by
  cases hstep with
  | start i host command hjob hphase =>
      have hreceived := h.received i host command hjob
      rw [hphase] at hreceived
      refine h.advance hnodup hjob (by simp [hphase]) ?_ ?_ nofun (by simp) h.nodup
      · rw [Received.deliver_self, hreceived]
        rfl
      · exact fun other hother => Received.deliver_of_ne hother
  | finish i host command hjob hphase =>
      have hreceived := h.received i host command hjob
      rw [hphase] at hreceived
      refine h.advance hnodup hjob (by simp [hphase]) hreceived (fun _ _ => rfl) ?_ (by simp)
        h.nodup
      intro execution hexecution
      rw [hreceived] at hexecution
      cases hexecution
      rfl
  | report i execution hi hphase =>
      have hjob : jobs[i]? = some (jobs[i].1, jobs[i].2) := List.getElem?_eq_getElem hi
      have hreceived := h.received i _ _ hjob
      have hanswer := h.ended i execution hphase
      rw [List.getElem?_map, hjob, Option.map_some, Option.some.injEq] at hanswer
      rw [hphase] at hreceived
      refine h.advance hnodup hjob (by simp [hphase]) hreceived (fun _ _ => rfl) nofun ?_ ?_
      · intro j execution'
        simp [hanswer]
      · have hnew : i ∉ s.ends.map Prod.fst := by
          intro hmem
          obtain ⟨⟨j, execution'⟩, htaken, rfl⟩ := List.mem_map.mp hmem
          have hreported := ((h.ends j execution').mp htaken).1
          rw [hphase] at hreported
          cases hreported
        rw [List.map_append, List.map_singleton, ← List.concat_eq_append, List.nodup_concat]
        exact ⟨hnew, h.nodup⟩

include hnodup in
theorem Consistent.reachable (h : Consistent responder jobs before s)
    (hreach : Reachable responder jobs s s') : Consistent responder jobs before s' := by
  induction hreach with
  | refl => exact h
  | tail _ hstep ih => exact ih.step hnodup hstep

include hnodup in
/-- In the end every host has received what it was sent, in whatever order. -/
theorem Consistent.received_eq (h : Consistent responder jobs before s)
    (hcomplete : s.Complete jobs) : s.received = before.deliverAll jobs := by
  funext host
  by_cases hhost : host ∈ jobs.map Prod.fst
  · obtain ⟨⟨host, command⟩, hmem, rfl⟩ := List.mem_map.mp hhost
    obtain ⟨i, hjob⟩ := List.mem_iff_getElem?.mp hmem
    obtain ⟨hi, -⟩ := List.getElem?_eq_some_iff.mp hjob
    rw [h.received i host command hjob, hcomplete i hi, Received.deliverAll_of_mem hnodup hmem]
    rfl
  · rw [h.others host hhost, Received.deliverAll_of_not_mem hhost]

/-- In the end the answers are those that the hosts would give if they were alone. -/
theorem Consistent.mem_ends_iff (h : Consistent responder jobs before s)
    (hcomplete : s.Complete jobs) {i : Nat} {execution : Execution} :
    (i, execution) ∈ s.ends ↔ (jobs.map (responder.alone before))[i]? = some execution := by
  rw [h.ends]
  refine and_iff_right_of_imp fun hanswer => hcomplete i ?_
  obtain ⟨hi, -⟩ := List.getElem?_eq_some_iff.mp hanswer
  rwa [List.length_map] at hi

end TaskSet

/-! ## Programs -/

/-- Hosts that have received `before` answer a request like this, and have received `after`
then.  Only commands reach a host. -/
def Responder.Serves (responder : Responder) (before : Received) :
    (r : Request) → r.Reply → Received → Prop
  | .command host command, reply, after =>
    after = before.deliver host command ∧ reply = responder host (after host) command
  | .together jobs, reply, after =>
    ∃ s, TaskSet.Reachable responder jobs (.initial before) s ∧ s.Complete jobs ∧
      reply = s.ends ∧ after = s.received
  | _, _, after => after = before

namespace Program

variable {α β : Type} {responder : Responder} {before after : Received}

/-- Served by such hosts, the program ends with `b`, and they have received `after` then. -/
def ServedBy (responder : Responder) : Program α → Received → α → Received → Prop
  | .done a, before, b, after => b = a ∧ after = before
  | .ask r k, before, b, after =>
    ∃ reply middle, responder.Serves before r reply middle ∧
      (k reply).ServedBy responder middle b after

theorem servedBy_bind_iff {p : Program α} {f : α → Program β} {b : β} :
    (p >>= f).ServedBy responder before b after ↔
      ∃ a middle, p.ServedBy responder before a middle ∧
        (f a).ServedBy responder middle b after := by
  induction p generalizing before with
  | done a =>
      constructor
      · exact fun h => ⟨a, before, ⟨rfl, rfl⟩, h⟩
      · rintro ⟨_, _, ⟨rfl, rfl⟩, h⟩
        exact h
  | ask r k ih =>
      rw [ask_bind]
      constructor
      · rintro ⟨reply, received, hserves, h⟩
        obtain ⟨a, middle, hp, hf⟩ := (ih reply).mp h
        exact ⟨a, middle, ⟨reply, received, hserves, hp⟩, hf⟩
      · rintro ⟨a, middle, ⟨reply, received, hserves, hp⟩, hf⟩
        exact ⟨reply, received, hserves, (ih reply).mpr ⟨a, middle, hp, hf⟩⟩

end Program

end TtpConformance
