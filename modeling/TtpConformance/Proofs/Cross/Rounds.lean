import TtpConformance.Cross.Rounds
import TtpConformance.Proofs.Identity.HostName
import TtpConformance.Proofs.Run.Together

/-!
# Pairs that run at once

The pairs of a round have different initiators, so that every host receives one command
at most, and whether the pairs run one after the other or at once cannot be told from the
answers.  It cannot be told from the results either: in whatever order the pairs come to
their ends, each result is put where its pair stands in the plan.

## Main statements

* `collect_eq_map` — results in plan order, from ends in any order.
* `runSerial_servedBy_iff`, `runParallel_servedBy_iff` — what comes of the pairs of a round.
* `rounds_agree` — it is the same.
-/

namespace TtpConformance

/-! ## Results in plan order -/

/-- One more end is put where its pair stands. -/
def putEnd (results : List PairResult) (e : Nat × Execution) : List PairResult :=
  results.modify e.1 fun r => { r with passed := some e.2.isSuccess }

theorem collect_eq_foldl (pairs : List NodePair) (ends : List (Nat × Execution)) :
    collect pairs ends = ends.foldl putEnd (pairs.map fun pair => ⟨pair, some false⟩) := rfl

theorem length_foldl_putEnd (ends : List (Nat × Execution)) (results : List PairResult) :
    (ends.foldl putEnd results).length = results.length := by
  induction ends generalizing results with
  | nil => rfl
  | cons e ends ih => rw [List.foldl_cons, ih, putEnd, List.length_modify]

theorem getElem?_foldl_putEnd_of_not_mem {ends : List (Nat × Execution)} {i : Nat}
    (hi : i ∉ ends.map Prod.fst) (results : List PairResult) :
    (ends.foldl putEnd results)[i]? = results[i]? := by
  induction ends generalizing results with
  | nil => rfl
  | cons e ends ih =>
      rw [List.map_cons, List.mem_cons, not_or] at hi
      rw [List.foldl_cons, ih hi.2, putEnd, List.getElem?_modify_ne _ _ (Ne.symm hi.1)]

/-- A pair that has come to its end has the result of that end. -/
theorem getElem?_foldl_putEnd_of_mem {ends : List (Nat × Execution)}
    (hnodup : (ends.map Prod.fst).Nodup) {i : Nat} {execution : Execution}
    (hmem : (i, execution) ∈ ends) (results : List PairResult) :
    (ends.foldl putEnd results)[i]? =
      results[i]?.map fun r => { r with passed := some execution.isSuccess } := by
  induction ends generalizing results with
  | nil => cases hmem
  | cons e ends ih =>
      rw [List.map_cons, List.nodup_cons] at hnodup
      rw [List.foldl_cons]
      rcases List.mem_cons.mp hmem with rfl | hmem
      · rw [getElem?_foldl_putEnd_of_not_mem hnodup.1, putEnd, List.getElem?_modify_eq]
        rfl
      · have hne : e.1 ≠ i := by
          rintro rfl
          exact hnodup.1 (List.mem_map.mpr ⟨_, hmem, rfl⟩)
        rw [ih hnodup.2 hmem, putEnd, List.getElem?_modify_ne _ _ hne]

/-- If every pair has come to its end once, its result is at its place, whatever the order
of the ends. -/
theorem collect_eq_map {pairs : List NodePair} {ends : List (Nat × Execution)}
    {execution : NodePair → Execution} (hnodup : (ends.map Prod.fst).Nodup)
    (hends : ∀ i e, (i, e) ∈ ends ↔ (pairs.map execution)[i]? = some e) :
    collect pairs ends = pairs.map fun pair => ⟨pair, some (execution pair).isSuccess⟩ := by
  rw [collect_eq_foldl]
  apply List.ext_getElem?
  intro i
  cases hpair : pairs[i]? with
  | none =>
      have hi : i ∉ ends.map Prod.fst := by
        intro hmem
        obtain ⟨⟨j, e⟩, hend, rfl⟩ := List.mem_map.mp hmem
        have hsome := (hends j e).mp hend
        rw [List.getElem?_map, hpair] at hsome
        cases hsome
      rw [getElem?_foldl_putEnd_of_not_mem hi]
      simp [hpair]
  | some pair =>
      have hend : (i, execution pair) ∈ ends := by
        rw [hends, List.getElem?_map, hpair]
        rfl
      rw [getElem?_foldl_putEnd_of_mem hnodup hend]
      simp [hpair]

/-! ## Rounds -/

section Rounds

variable {settings : Settings} {cross : CrossSettings} {responder : Responder}
  {before after : Received} {pairs : List NodePair} {results : List PairResult}

/-- What comes of the pairs if every initiator does its part alone. -/
def aloneResults (settings : Settings) (cross : CrossSettings) (responder : Responder)
    (before : Received) (pairs : List NodePair) : List PairResult :=
  pairs.map fun pair =>
    ⟨pair, some (responder.alone before (pairJob settings cross pair)).isSuccess⟩

/-- Pairs with different initiators are run by different hosts. -/
theorem nodup_pairJob_hosts (settings : Settings) (cross : CrossSettings)
    (h : (pairs.map NodePair.initiator).Nodup) :
    ((pairs.map (pairJob settings cross)).map Prod.fst).Nodup := by
  have hinjective : Function.Injective fun node : UInt8 => Host.remote (nodeName node) := by
    intro node node' heq
    exact nodeName_injective (Host.remote.inj heq)
  have hhosts := h.map hinjective
  rwa [List.map_map] at hhosts ⊢

/-- The first pair of several does not get in the way of the others. -/
theorem aloneResults_cons {pair : NodePair} {host : Host} {command : Command}
    (hjob : pairJob settings cross pair = (host, command))
    (h : ((pair :: pairs).map NodePair.initiator).Nodup) :
    aloneResults settings cross responder before (pair :: pairs) =
      ⟨pair, some (responder host (before.deliver host command host) command).isSuccess⟩ ::
        aloneResults settings cross responder (before.deliver host command) pairs := by
  have hnodup := nodup_pairJob_hosts settings cross h
  rw [List.map_cons, List.map_cons, List.nodup_cons, hjob] at hnodup
  have hothers : ∀ other ∈ pairs,
      responder.alone before (pairJob settings cross other) =
        responder.alone (before.deliver host command) (pairJob settings cross other) := by
    intro other hother
    have hmem : pairJob settings cross other ∈ pairs.map (pairJob settings cross) :=
      List.mem_map_of_mem hother
    have hne : (pairJob settings cross other).1 ≠ host :=
      ne_of_mem_of_not_mem (List.mem_map_of_mem hmem) hnodup.1
    rw [Responder.alone, Responder.alone, Received.deliver_of_ne hne]
  rw [aloneResults, List.map_cons, hjob, Received.deliver_self]
  congr 1
  exact List.map_congr_left fun other hother => by rw [hothers other hother]

theorem runSerial_cons (pair : NodePair) (pairs : List NodePair) :
    runSerial settings cross (pair :: pairs) =
      Program.ask (.command (pairJob settings cross pair).1 (pairJob settings cross pair).2)
        fun execution => runSerial settings cross pairs >>= fun results =>
          .done (⟨pair, some (Execution.isSuccess execution)⟩ :: results) := rfl

/-- Pairs that run one after the other are served like pairs that are alone. -/
theorem runSerial_servedBy_iff (h : (pairs.map NodePair.initiator).Nodup) :
    (runSerial settings cross pairs).ServedBy responder before results after ↔
      results = aloneResults settings cross responder before pairs ∧
        after = before.deliverAll (pairs.map (pairJob settings cross)) := by
  induction pairs generalizing before results with
  | nil => rfl
  | cons pair pairs ih =>
      obtain ⟨host, command, hjob⟩ : ∃ host command,
          pairJob settings cross pair = (host, command) := ⟨_, _, rfl⟩
      have hpairs : (pairs.map NodePair.initiator).Nodup := (List.nodup_cons.mp h).2
      rw [runSerial_cons, aloneResults_cons hjob h, List.map_cons, hjob, Received.deliverAll_cons]
      constructor
      · rintro ⟨_, _, ⟨rfl, rfl⟩, hrest⟩
        obtain ⟨rest, _, hrest, rfl, rfl⟩ := Program.servedBy_bind_iff.mp hrest
        obtain ⟨rfl, rfl⟩ := (ih hpairs).mp hrest
        exact ⟨rfl, rfl⟩
      · rintro ⟨rfl, rfl⟩
        refine ⟨_, _, ⟨rfl, rfl⟩, Program.servedBy_bind_iff.mpr ⟨_, _, ?_, rfl, rfl⟩⟩
        exact (ih hpairs).mpr ⟨rfl, rfl⟩

/-- Pairs that run at once are served like pairs that are alone, in whatever order their
tasks get on. -/
theorem runParallel_servedBy_iff (h : (pairs.map NodePair.initiator).Nodup) :
    (runParallel settings cross pairs).ServedBy responder before results after ↔
      results = aloneResults settings cross responder before pairs ∧
        after = before.deliverAll (pairs.map (pairJob settings cross)) := by
  have hnodup := nodup_pairJob_hosts settings cross h
  have hcollect : ∀ s, TaskSet.Reachable responder (pairs.map (pairJob settings cross))
      (.initial before) s → s.Complete (pairs.map (pairJob settings cross)) →
      collect pairs s.ends = aloneResults settings cross responder before pairs ∧
        s.received = before.deliverAll (pairs.map (pairJob settings cross)) := by
    intro s hreach hcomplete
    have hs := TaskSet.consistent_initial.reachable hnodup hreach
    refine ⟨collect_eq_map hs.nodup fun i e => ?_, hs.received_eq hnodup hcomplete⟩
    rw [hs.mem_ends_iff hcomplete, List.map_map]
    rfl
  constructor
  · rintro ⟨_, _, ⟨s, hreach, hcomplete, rfl, rfl⟩, rfl, rfl⟩
    exact hcollect s hreach hcomplete
  · rintro ⟨rfl, rfl⟩
    obtain ⟨s, hreach, hcomplete⟩ := TaskSet.exists_complete responder
      (pairs.map (pairJob settings cross)) (.initial before)
    obtain ⟨hresults, hreceived⟩ := hcollect s hreach hcomplete
    exact ⟨_, _, ⟨s, hreach, hcomplete, rfl, rfl⟩, hresults.symm, hreceived.symm⟩

end Rounds

theorem Execution.isSuccess_iff {execution : Execution} :
    execution.isSuccess = true ↔ ∃ output, execution = .ok output ∧ output.exitCode = 0 := by
  cases execution with
  | error reason => simp [isSuccess]
  | ok output => simp [isSuccess, Output.succeeded]

/--
The pairs of a round run one after the other and at once with the same results, if no node
starts two of them.  Hosts answer by what they have received; the tasks may get on in any
order, and from any state of theirs they can come to their end.  The results are those of
the pairs in the order of the plan, every initiator has received its own command and the
other hosts have received nothing, and a pair has passed if its command was executed and
ended with exit code zero and has failed otherwise.
-/
theorem rounds_agree (settings : Settings) (cross : CrossSettings) (responder : Responder)
    (pairs : List NodePair) (hinitiators : (pairs.map NodePair.initiator).Nodup)
    (before : Received) :
    (∀ s, ∃ s', TaskSet.Reachable responder (pairs.map (pairJob settings cross)) s s' ∧
      s'.Complete (pairs.map (pairJob settings cross))) ∧
    ∃ results after,
      (∀ r received, (runSerial settings cross pairs).ServedBy responder before r received ↔
        r = results ∧ received = after) ∧
      (∀ r received, (runParallel settings cross pairs).ServedBy responder before r received ↔
        r = results ∧ received = after) ∧
      results.map (·.pair) = pairs ∧
      (∀ result ∈ results,
        let host := Host.remote result.pair.initiatorHost
        let command := Command.shell (pairScript settings cross result.pair)
        let passes := ∃ output, responder host (after host) command = .ok output ∧
          output.exitCode = 0
        after host = before host ++ [command] ∧ (result.passed = some true ↔ passes) ∧
          (result.passed = some false ↔ ¬ passes)) ∧
      ∀ host, (∀ pair ∈ pairs, host ≠ .remote pair.initiatorHost) → after host = before host := by
  have hnodup := nodup_pairJob_hosts settings cross hinitiators
  refine ⟨TaskSet.exists_complete responder _,
    aloneResults settings cross responder before pairs,
    before.deliverAll (pairs.map (pairJob settings cross)),
    fun r received => runSerial_servedBy_iff hinitiators,
    fun r received => runParallel_servedBy_iff hinitiators, ?_, ?_, ?_⟩
  · simp [aloneResults, Function.comp_def]
  · intro result hresult host command passes
    obtain ⟨pair, hpair, rfl⟩ := List.mem_map.mp hresult
    have hafter : before.deliverAll (pairs.map (pairJob settings cross)) host =
        before host ++ [command] :=
      Received.deliverAll_of_mem hnodup (List.mem_map_of_mem hpair)
    have hpasses : (responder.alone before (pairJob settings cross pair)).isSuccess = true ↔
        passes := by
      rw [Execution.isSuccess_iff]
      simp only [passes, hafter]
      rfl
    refine ⟨hafter, ?_, ?_⟩
    · rw [← hpasses, Option.some.injEq]
    · rw [← hpasses, Option.some.injEq, Bool.not_eq_true]
  · intro host hhost
    apply Received.deliverAll_of_not_mem
    rw [List.map_map]
    intro hmem
    obtain ⟨pair, hpair, heq⟩ := List.mem_map.mp hmem
    exact hhost pair hpair heq.symm

/-- Hosts of which the fourth node cannot be reached and the second one answers with the
number of commands that it has received before. -/
def Responder.twoFailing : Responder := fun host received _ =>
  if host = .remote (nodeName 4) then .error "no route"
  else if host = .remote (nodeName 2) then .ok { exitCode := received.length - 1 }
  else .ok {}

/-- One pair passes, one is not executed, and one ends with exit code one: its initiator has
received a command before. -/
theorem rounds_agree_two_failing :
    let cross := CrossSettings.ofOptions {}
    let pairs : List NodePair := [⟨1, 4⟩, ⟨4, 2⟩, ⟨2, 1⟩]
    let before : Received := Received.deliver (fun _ => []) (.remote (nodeName 2)) .hostname
    (pairs.map NodePair.initiator).Nodup ∧
      ∃ after, ∀ results received,
        (runParallel {} cross pairs).ServedBy .twoFailing before results received ↔
          results = [⟨⟨1, 4⟩, some true⟩, ⟨⟨4, 2⟩, some false⟩, ⟨⟨2, 1⟩, some false⟩] ∧
            received = after := by
  intro cross pairs before
  have hinitiators : (pairs.map NodePair.initiator).Nodup := by decide
  have halone : aloneResults {} cross .twoFailing before pairs =
      [⟨⟨1, 4⟩, some true⟩, ⟨⟨4, 2⟩, some false⟩, ⟨⟨2, 1⟩, some false⟩] := by decide +kernel
  obtain ⟨-, results, after, hserial, hparallel, -⟩ :=
    rounds_agree {} cross .twoFailing pairs hinitiators before
  obtain ⟨rfl, -⟩ := (hserial _ _).mp ((runSerial_servedBy_iff hinitiators).mpr ⟨rfl, rfl⟩)
  rw [halone] at hparallel
  exact ⟨hinitiators, after, hparallel⟩

end TtpConformance
