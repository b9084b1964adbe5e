import Mathlib.Data.List.Forall2
import TtpConformance.Proofs.Cross.Accepted
import TtpConformance.Proofs.Cross.Rounds
import TtpConformance.Proofs.Run.Effects

/-!
# Cross runs account for themselves

A cross run asks for little, and its reports say all about it: every round has a plan, which
is drawn from the random state that the plan before has left; the commands of the round are
those of its pairs; and between two rounds there is one pause.

What is asked for in a round depends on how its pairs run, but the commands come in the order of
the plan in any case, as requests of their own or as the jobs of a single one.  So do the
ways in which they end, as long as no task ends twice.

## Main definitions

* `CrossPlan` — a plan for all nodes of the zones.
* `Drawn` — plans from successive random states.
* `Event.executions`, `commandFailed` — how the commands of an event have ended.
* `CrossRound.Accounts` — a round, and a report that accounts for it.

## Main statements

* `crossPlan_of_plan` — what is planned is such a plan.
* `yields_runPairs` — one round.
* `yields_runRounds_succ`, `rounds_of_yields_runRounds` — one round after the other.
* `runCross_accounts` — whole cross runs.
-/

namespace TtpConformance

open scoped List

/-! ## Plans -/

/-- A plan uses every node of the zones once, each pair is from different zones, and no pair is
started by a node that may not start one. -/
structure CrossPlan (z : Zones) (pairs : List NodePair) : Prop where
  all : pairs.flatMap NodePair.nodes ~ z.zones.flatten
  once : (pairs.flatMap NodePair.nodes).Nodup
  apart : ∀ pair ∈ pairs, ∃ i j, i ≠ j ∧ z.zoneOf? pair.initiator = some i ∧
    z.zoneOf? pair.target = some j
  initiators : ∀ pair ∈ pairs, pair.initiator ≠ 0x10 ∧ pair.initiator ≠ 0x11

section Plans

variable {ρ : Type} {source : WordSource ρ} {z : Zones} {state state' last : ρ}
  {pairs : List NodePair} {plans : List (List NodePair)}

variable (source z) in
/-- Plans that are drawn one after the other, each from the random state that the one before
has left. -/
inductive Drawn : ρ → List (List NodePair) → ρ → Prop where
  | nil (state : ρ) : Drawn state [] state
  | cons {state state' last : ρ} {pairs : List NodePair} {plans : List (List NodePair)}
      (hplan : plan source z state = some (.ok pairs, state')) (hrest : Drawn state' plans last) :
      Drawn state (pairs :: plans) last

/-- If their number is even and none is in two zones, a plan uses all nodes. -/
theorem crossPlan_of_plan (hz : z.zones.flatten.Nodup) (heven : z.nodeCount % 2 = 0)
    (h : plan source z state = some (.ok pairs, state')) : CrossPlan z pairs := by
  obtain ⟨shuffled, htry⟩ := exists_tryPairing_of_plan h
  obtain ⟨left, hleft, huses⟩ := usesUp_of_tryPairing htry
  have hcount := huses.length_add
  obtain rfl : left = [] := List.eq_nil_of_length_eq_zero (by omega)
  have hperm := huses.perm_flatten
  rw [List.append_nil] at hperm
  refine ⟨hperm, hperm.nodup_iff.mpr hz, huses.zones_apart hz, fun pair hpair => ?_⟩
  simpa [nonInitiators] using huses.initiators pair hpair

/-- With or without its optional nodes, the lab has an even number of nodes. -/
theorem Zones.nodeCount_build_even (uba utm : Bool) : (build uba utm).nodeCount % 2 = 0 := by
  cases uba <;> cases utm <;> decide

end Plans

/-! ## Commands and how they end -/

/-- A pause. -/
def Request.isPause : Request → Bool
  | .pause _ => true
  | _ => false

/-- How the commands of an event have ended, in the order of its jobs.  A task that has died
leaves nothing. -/
def Event.executions : Event → List (Option Execution)
  | ⟨.command .., execution⟩ => [some execution]
  | ⟨.together jobs, ends⟩ => (List.range jobs.length).map (List.lookup · ends)
  | _ => []

theorem Event.length_executions (event : Event) :
    event.executions.length = event.1.jobs.length := by
  obtain ⟨r, reply⟩ := event
  cases r with
  | command | pause | acquire | release => rfl
  | together jobs => rw [executions, List.length_map, List.length_range, Request.jobs]

/-- No task of an event has ended twice. -/
def Event.EndsOnce : Event → Prop
  | ⟨.together _, ends⟩ => (ends.map Prod.fst).Nodup
  | _ => True

/-- A command has not run to its end, or has ended with an exit code other than zero. -/
def commandFailed : Option Execution → Bool
  | some (.ok output) => output.exitCode != 0
  | _ => true

theorem isSuccess_eq_not_commandFailed (execution : Execution) :
    execution.isSuccess = !commandFailed (some execution) := by
  cases execution with
  | error reason => rfl
  | ok output => simp [Execution.isSuccess, Output.succeeded, commandFailed, bne]

/-! ## One round -/

section Pairs

variable (settings : Settings) (cross : CrossSettings)

/-- What is asked for in a round. -/
def roundRequests (pairs : List NodePair) : List Request :=
  if cross.dryRun then []
  else if cross.parallel then [.together (pairs.map (pairJob settings cross))]
  else pairs.map fun pair =>
    .command (pairJob settings cross pair).1 (pairJob settings cross pair).2

/-- Results that say how the commands of the pairs have ended. -/
def resultsFrom (pairs : List NodePair) (executions : List (Option Execution)) :
    List PairResult :=
  (pairs.zip executions).map fun (pair, execution) => ⟨pair, some (!commandFailed execution)⟩

variable {settings cross} {events : List Event} {pairs : List NodePair}
  {results : List PairResult}

/-- One command for each pair, in the order of the plan, unless nothing is to be run. -/
theorem jobs_roundRequests : (roundRequests settings cross pairs).flatMap Request.jobs =
    if cross.dryRun then [] else pairs.map (pairJob settings cross) := by
  unfold roundRequests
  split
  · rfl
  split
  · exact List.append_nil _
  · rw [List.flatMap_map]
    exact List.map_eq_flatMap.symm

/-- As many commands have come to some end as there are pairs. -/
theorem length_executions_of_requests
    (h : events.map Sigma.fst = roundRequests settings cross pairs) :
    (events.flatMap Event.executions).length = if cross.dryRun then 0 else pairs.length := by
  have hjobs : (events.flatMap fun event => event.1.jobs) =
      if cross.dryRun then [] else pairs.map (pairJob settings cross) := by
    rw [← jobs_roundRequests, ← h, List.flatMap_map]
  have hlength : (events.flatMap Event.executions).length =
      (events.flatMap fun event => event.1.jobs).length := by
    simp only [List.length_flatMap, Event.length_executions]
  rw [hlength, hjobs]
  split
  · rfl
  · rw [List.length_map]

theorem isPause_roundRequests {r : Request} (h : r ∈ roundRequests settings cross pairs) :
    r.isPause = false := by
  unfold roundRequests at h
  split at h
  · cases h
  split at h
  · obtain rfl := List.mem_singleton.mp h
    rfl
  · obtain ⟨pair, -, rfl⟩ := List.mem_map.mp h
    rfl

theorem yields_runSerial (h : (runSerial settings cross pairs).Yields events results) :
    events.map Sigma.fst = pairs.map (fun pair =>
        .command (pairJob settings cross pair).1 (pairJob settings cross pair).2) ∧
      results = resultsFrom pairs (events.flatMap Event.executions) := by
  induction pairs generalizing events results with
  | nil =>
      obtain ⟨rfl, rfl⟩ := h
      exact ⟨rfl, rfl⟩
  | cons pair pairs ih =>
      rw [runSerial_cons] at h
      obtain ⟨execution, rest, rfl, h⟩ := h
      obtain ⟨rest, later, last, rfl, hrest, rfl, rfl⟩ := Program.yields_bind_iff.mp h
      obtain ⟨hrequests, rfl⟩ := ih hrest
      rw [List.append_nil, List.map_cons, hrequests]
      refine ⟨rfl, ?_⟩
      rw [isSuccess_eq_not_commandFailed]
      rfl

section ResultsFrom

variable {executions : List (Option Execution)} (h : executions.length = pairs.length)

include h

theorem length_resultsFrom : (resultsFrom pairs executions).length = pairs.length := by
  rw [resultsFrom, List.length_map, List.length_zip, h, Nat.min_self]

theorem map_pair_resultsFrom : (resultsFrom pairs executions).map (·.pair) = pairs := by
  rw [resultsFrom, List.map_map]
  exact List.map_fst_zip (Nat.le_of_eq h.symm)

theorem map_passed_resultsFrom : (resultsFrom pairs executions).map (·.passed) =
    executions.map fun execution => some (!commandFailed execution) := by
  calc (resultsFrom pairs executions).map (·.passed)
      = ((pairs.zip executions).map Prod.snd).map fun execution =>
          some (!commandFailed execution) := by
        rw [resultsFrom, List.map_map, List.map_map]
        rfl
    _ = executions.map fun execution => some (!commandFailed execution) := by
        rw [List.map_snd_zip (Nat.le_of_eq h)]

end ResultsFrom

/-- Each pair gets the result of its own end, and has failed if there is none. -/
theorem collect_eq_resultsFrom {ends : List (Nat × Execution)}
    (hnodup : (ends.map Prod.fst).Nodup) :
    collect pairs ends =
      resultsFrom pairs ((List.range pairs.length).map (List.lookup · ends)) := by
  rw [collect_eq_foldl]
  have hlength : (ends.foldl putEnd (pairs.map fun pair => ⟨pair, some false⟩)).length =
      pairs.length := by
    rw [length_foldl_putEnd, List.length_map]
  -- place by place: an end counts where its pair stands, and the only one is the last one
  apply List.ext_getElem?'
  intro i hi
  rw [hlength, length_resultsFrom (by simp), Nat.max_self] at hi
  have hpair : pairs[i]? = some pairs[i] := List.getElem?_eq_getElem hi
  have hresult : (resultsFrom pairs ((List.range pairs.length).map (List.lookup · ends)))[i]? =
      some ⟨pairs[i], some (!commandFailed (List.lookup i ends))⟩ := by
    rw [resultsFrom, List.getElem?_map, List.zip, List.getElem?_zipWith, hpair,
      List.getElem?_map, List.getElem?_range hi]
    rfl
  rw [hresult]
  cases hlookup : List.lookup i ends with
  | none =>
      have hnever : i ∉ ends.map Prod.fst := by
        intro hmem
        obtain ⟨e, he, rfl⟩ := List.mem_map.mp hmem
        simpa using List.lookup_eq_none_iff.mp hlookup e he
      rw [getElem?_foldl_putEnd_of_not_mem hnever, List.getElem?_map, hpair]
      rfl
  | some execution =>
      have hmem : (i, execution) ∈ ends := by
        obtain ⟨before, after, rfl, -⟩ := List.lookup_eq_some_iff.mp hlookup
        simp
      rw [getElem?_foldl_putEnd_of_mem hnodup hmem, List.getElem?_map, hpair,
        isSuccess_eq_not_commandFailed]
      rfl

theorem yields_runParallel (h : (runParallel settings cross pairs).Yields events results)
    (honce : ∀ event ∈ events, event.EndsOnce) :
    events.map Sigma.fst = [.together (pairs.map (pairJob settings cross))] ∧
      results = resultsFrom pairs (events.flatMap Event.executions) := by
  obtain ⟨ends, rest, rfl, rfl, rfl⟩ := h
  refine ⟨rfl, ?_⟩
  rw [collect_eq_resultsFrom (honce _ List.mem_cons_self), List.flatMap_singleton,
    Event.executions, List.length_map]

/-- A round asks for the commands of its pairs, and its results say how these have ended; without
commands nothing is known. -/
theorem yields_runPairs (h : (runPairs settings cross pairs).Yields events results)
    (honce : ∀ event ∈ events, event.EndsOnce) :
    events.map Sigma.fst = roundRequests settings cross pairs ∧
      results = if cross.dryRun then pairs.map fun pair => ⟨pair, none⟩
        else resultsFrom pairs (events.flatMap Event.executions) := by
  unfold runPairs at h
  unfold roundRequests
  split at h
  · rename_i hdry
    obtain ⟨rfl, rfl⟩ := h
    rw [if_pos hdry, if_pos hdry]
    exact ⟨rfl, rfl⟩
  rename_i hdry
  rw [if_neg hdry, if_neg hdry]
  split at h
  · rename_i hparallel
    rw [if_pos hparallel]
    exact yields_runParallel h honce
  · rename_i hparallel
    rw [if_neg hparallel]
    exact yields_runSerial h

end Pairs

/-! ## One round after the other -/

/-- A round of a cross run: its plan, and what was asked for and answered. -/
structure CrossRound where
  pairs : List NodePair
  events : List Event

/-- A report accounts for a round.  Its plan is one for all nodes, its commands are those of the
pairs, and the report lists the pairs in order, each of them passed if its command has not
failed; and as many have failed as there are commands that have. -/
structure CrossRound.Accounts (settings : Settings) (cross : CrossSettings) (round : CrossRound)
    (report : RoundReport) : Prop where
  plan : CrossPlan cross.zones round.pairs
  requests : round.events.map Sigma.fst = roundRequests settings cross round.pairs
  pairs : report.results.map (·.pair) = round.pairs
  passed : report.results.map (·.passed) =
    if cross.dryRun then round.pairs.map fun _ => none
    else (round.events.flatMap Event.executions).map fun execution =>
      some (!commandFailed execution)
  failed : report.failed = (round.events.flatMap Event.executions).countP commandFailed

/-- Without commands, nothing is known of any pair. -/
theorem CrossRound.Accounts.undecided {settings : Settings} {cross : CrossSettings}
    {round : CrossRound} {report : RoundReport} (h : Accounts settings cross round report)
    (hdry : cross.dryRun = true) : ∀ result ∈ report.results, result.passed = none := by
  have hnone := h.passed
  rw [if_pos hdry] at hnone
  intro result hresult
  have hmem : result.passed ∈ round.pairs.map fun _ => none :=
    hnone ▸ List.mem_map_of_mem hresult
  obtain ⟨_, -, heq⟩ := List.mem_map.mp hmem
  exact heq.symm

section Rounds

variable {ρ : Type} {settings : Settings} {cross : CrossSettings} {source : WordSource ρ}
  {state : ρ} {number left : Nat} {events : List Event} {reports : List RoundReport}

/-- The first of the rounds that are left. -/
theorem yields_runRounds_succ
    (h : (runRounds settings cross source number (left + 1) state).Yields events
      (some (.ok reports))) :
    ∃ pairs state' first results rest later,
      plan source cross.zones state = some (.ok pairs, state') ∧
      (runPairs settings cross pairs).Yields first results ∧
      (runRounds settings cross source (number + 1) left state').Yields rest
        (some (.ok later)) ∧
      events = first ++ (if 0 < left then [⟨.pause cross.wait, ()⟩] else []) ++ rest ∧
      reports = ⟨number, results⟩ :: later := by
  rw [runRounds] at h
  split at h
  · cases h.2
  · cases h.2
  · rename_i pairs state' hplan
    obtain ⟨first, results, rest, rfl, hpairs, h⟩ := Program.yields_bind_iff.mp h
    obtain ⟨between, last, rfl, hbetween, hlast⟩ := Program.yields_ite_bind h
    obtain ⟨last, later?, nothing, rfl, hlater, hend⟩ := Program.yields_bind_iff.mp hlast
    have hpause : between = if 0 < left then [⟨.pause cross.wait, ()⟩] else [] := by
      split at hbetween <;> rename_i hleft
      · rw [if_pos hleft]
        exact Program.yields_request_iff.mp hbetween
      · rw [if_neg hleft]
        exact hbetween
    rcases later? with _ | e | later
    · cases hend.2
    · cases hend.2
    · obtain ⟨rfl, heq⟩ := hend
      cases heq
      exact ⟨pairs, state', first, results, last, later, hplan, hpairs, hlater, by simp [hpause],
        rfl⟩

variable (number) in
/-- What is planned, run and reported is accounted for. -/
theorem accounts_of_yields_runPairs {pairs : List NodePair} {results : List PairResult}
    (hplan : CrossPlan cross.zones pairs)
    (h : (runPairs settings cross pairs).Yields events results)
    (honce : ∀ event ∈ events, event.EndsOnce) :
    CrossRound.Accounts settings cross ⟨pairs, events⟩ ⟨number, results⟩ := by
  obtain ⟨hrequests, hresults⟩ := yields_runPairs h honce
  have hlength := length_executions_of_requests hrequests
  by_cases hdry : cross.dryRun = true
  · rw [if_pos hdry] at hresults hlength
    have hnone := List.eq_nil_of_length_eq_zero hlength
    refine ⟨hplan, hrequests, ?_, ?_, ?_⟩
    · rw [hresults, List.map_map]
      exact List.map_id pairs
    · rw [if_pos hdry, hresults, List.map_map]
      rfl
    · simp [RoundReport.failed, hresults, hnone]
  · rw [if_neg hdry] at hresults hlength
    have hpassed := map_passed_resultsFrom hlength
    rw [← hresults] at hpassed
    refine ⟨hplan, hrequests, hresults ▸ map_pair_resultsFrom hlength, ?_, ?_⟩
    · rw [if_neg hdry]
      exact hpassed
    · calc (⟨number, results⟩ : RoundReport).failed
          = (results.map (·.passed)).countP (· == some false) := by
            rw [List.countP_map]
            rfl
        _ = (events.flatMap Event.executions).countP commandFailed := by
            rw [hpassed, List.countP_map]
            congr 1
            funext execution
            simp

/-- Rounds are run one after the other, with a pause between two of them. -/
theorem rounds_of_yields_runRounds
    (hplans : ∀ s pairs s', plan source cross.zones s = some (.ok pairs, s') →
      CrossPlan cross.zones pairs)
    (h : (runRounds settings cross source number left state).Yields events
      (some (.ok reports)))
    (honce : ∀ event ∈ events, event.EndsOnce) :
    ∃ (rounds : List CrossRound) (last : ρ), rounds.length = left ∧
      Drawn source cross.zones state (rounds.map (·.pairs)) last ∧
      events = [⟨.pause cross.wait, ()⟩].intercalate (rounds.map (·.events)) ∧
      reports.map (·.round) = List.range' number left ∧
      List.Forall₂ (CrossRound.Accounts settings cross) rounds reports := by
  induction left generalizing number state events reports with
  | zero =>
      obtain ⟨rfl, heq⟩ := h
      cases heq
      exact ⟨[], state, rfl, .nil state, rfl, rfl, .nil⟩
  | succ left ih =>
      obtain ⟨pairs, state', first, results, rest, later, hplan, hpairs, hlater, rfl, rfl⟩ :=
        yields_runRounds_succ h
      obtain ⟨rounds, last, hlength, hdrawn, rfl, hnumbers, hrounds⟩ :=
        ih hlater fun event hevent => honce event (List.mem_append_right _ hevent)
      have hround := accounts_of_yields_runPairs number (hplans _ _ _ hplan) hpairs
        fun event hevent => honce event (by simp [hevent])
      refine ⟨⟨pairs, first⟩ :: rounds, last, ?_, .cons hplan hdrawn, ?_, ?_,
        .cons hround hrounds⟩
      · rw [List.length_cons, hlength]
      -- the pause after this round is there exactly if there is a round after it
      · cases rounds with
        | nil =>
            obtain rfl : left = 0 := hlength.symm
            simp
        | cons next rounds =>
            rw [if_pos (by rw [← hlength]; exact Nat.succ_pos _)]
            exact List.intercalate_cons_cons.symm
      · rw [List.map_cons, hnumbers, List.range'_succ]

/-! ## All requests of a run -/

variable (settings cross) in
/-- What is asked for in a run with these plans. -/
def crossRequests (plans : List (List NodePair)) : List Request :=
  [.pause cross.wait].intercalate (plans.map (roundRequests settings cross))

theorem crossRequests_cons_cons (pairs next : List NodePair) (plans : List (List NodePair)) :
    crossRequests settings cross (pairs :: next :: plans) =
      roundRequests settings cross pairs ++ [.pause cross.wait] ++
        crossRequests settings cross (next :: plans) :=
  List.intercalate_cons_cons

/-- The events of the rounds are those requests. -/
theorem map_fst_intercalate_events {rounds : List CrossRound}
    (h : ∀ round ∈ rounds, round.events.map Sigma.fst = roundRequests settings cross round.pairs) :
    ([⟨.pause cross.wait, ()⟩].intercalate (rounds.map (·.events))).map Sigma.fst =
      crossRequests settings cross (rounds.map (·.pairs)) := by
  induction rounds with
  | nil => rfl
  | cons round rounds ih =>
      have hround := h round List.mem_cons_self
      have hrest := ih fun other hother => h other (List.mem_cons_of_mem _ hother)
      cases rounds with
      | nil => simpa [crossRequests] using hround
      | cons next rounds =>
          rw [List.map_cons, List.map_cons, List.intercalate_cons_cons, List.map_append,
            List.map_append, hround]
          exact (congrArg _ hrest).trans (crossRequests_cons_cons _ _ _).symm

/-- There is one pause between two rounds, and there is no other. -/
theorem filter_isPause_crossRequests (plans : List (List NodePair)) :
    (crossRequests settings cross plans).filter Request.isPause =
      List.replicate (plans.length - 1) (.pause cross.wait) := by
  have hround : ∀ pairs, (roundRequests settings cross pairs).filter Request.isPause = [] :=
    fun pairs => List.filter_eq_nil_iff.mpr fun r hr => by
      rw [isPause_roundRequests hr]
      exact Bool.false_ne_true
  induction plans with
  | nil => rfl
  | cons pairs plans ih =>
      cases plans with
      | nil => simpa [crossRequests] using hround pairs
      | cons next plans =>
          rw [crossRequests_cons_cons, List.filter_append, List.filter_append, hround, ih]
          rfl

/-- The commands are those of the pairs, round by round. -/
theorem jobs_crossRequests (plans : List (List NodePair)) :
    (crossRequests settings cross plans).flatMap Request.jobs =
      if cross.dryRun then [] else plans.flatten.map (pairJob settings cross) := by
  have hrounds : (crossRequests settings cross plans).flatMap Request.jobs =
      plans.flatMap fun pairs => (roundRequests settings cross pairs).flatMap Request.jobs := by
    induction plans with
    | nil => rfl
    | cons pairs plans ih =>
        cases plans with
        | nil => simp [crossRequests]
        | cons next plans =>
            rw [crossRequests_cons_cons, List.flatMap_append, List.flatMap_append, ih]
            simp [Request.jobs]
  rw [hrounds]
  simp only [jobs_roundRequests]
  split
  · simp
  · rw [List.map_flatten, List.flatMap_def]

end Rounds

end TtpConformance
