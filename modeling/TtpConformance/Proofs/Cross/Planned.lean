import TtpConformance.Proofs.Cross.Accounting

/-!
# Cross runs end with a report if they can be planned

Whether a round can be planned is settled by the random state that the plan before has left,
and by nothing that happens in between: a cross run has a report exactly if there is a plan
for each of its rounds.  The report then lists the pairs of all plans, in order, however the
commands of the pairs have ended, and even if a task has died or is said to have ended twice.

## Main statements

* `map_pair_collect`, `map_pair_of_yields_runPairs` — the pairs of a round.
* `reports_of_drawn` — a run for which there are plans.
* `exists_drawn_of_yields_runRounds` — a run with a report.
-/

namespace TtpConformance

variable {settings : Settings} {cross : CrossSettings} {pairs : List NodePair}
  {results : List PairResult} {events : List Event}

/-! ## The pairs of a round -/

/-- An end only changes what is known of its pair. -/
theorem map_pair_putEnd (results : List PairResult) (e : Nat × Execution) :
    (putEnd results e).map (·.pair) = results.map (·.pair) := by
  apply List.ext_getElem?
  intro i
  rw [List.getElem?_map, List.getElem?_map, putEnd, List.getElem?_modify]
  cases results[i]? with
  | none => rfl
  | some result => by_cases hi : e.1 = i <;> simp [hi]

/-- The results are those of the pairs, whatever ends there are. -/
theorem map_pair_collect (pairs : List NodePair) (ends : List (Nat × Execution)) :
    (collect pairs ends).map (·.pair) = pairs := by
  have hends : ∀ results : List PairResult,
      (ends.foldl putEnd results).map (·.pair) = results.map (·.pair) := by
    induction ends with
    | nil => exact fun _ => rfl
    | cons e ends ih =>
        intro results
        rw [List.foldl_cons, ih, map_pair_putEnd]
  rw [collect_eq_foldl, hends, List.map_map]
  exact List.map_id pairs

theorem map_pair_of_yields_runSerial (h : (runSerial settings cross pairs).Yields events results) :
    results.map (·.pair) = pairs := by
  induction pairs generalizing events results with
  | nil =>
      obtain ⟨-, rfl⟩ := h
      rfl
  | cons pair pairs ih =>
      rw [runSerial_cons] at h
      obtain ⟨execution, rest, rfl, h⟩ := h
      obtain ⟨rest, later, last, rfl, hrest, rfl, rfl⟩ := Program.yields_bind_iff.mp h
      rw [List.map_cons, ih hrest]

/-- A round has one result for each pair of its plan, in order. -/
theorem map_pair_of_yields_runPairs (h : (runPairs settings cross pairs).Yields events results) :
    results.map (·.pair) = pairs := by
  unfold runPairs at h
  split at h
  · obtain ⟨-, rfl⟩ := h
    rw [List.map_map]
    exact List.map_id pairs
  split at h
  · obtain ⟨ends, rest, rfl, -, rfl⟩ := h
    exact map_pair_collect pairs ends
  · exact map_pair_of_yields_runSerial h

/-! ## All rounds -/

section Rounds

variable {ρ : Type} {source : WordSource ρ} {state last : ρ} {number left : Nat}
  {plans : List (List NodePair)} {reports : List RoundReport}
  {result : Option (Except RunError (List RoundReport))}

/-- If there is a plan for every round that is left, all rounds are run and reported. -/
theorem reports_of_drawn (hdrawn : Drawn source cross.zones state plans last)
    (h : (runRounds settings cross source number plans.length state).Yields events result) :
    ∃ reports, result = some (.ok reports) ∧
      List.Forall₂ (fun pairs report => report.results.map (·.pair) = pairs) plans reports := by
  induction hdrawn generalizing number events result with
  | nil state =>
      obtain ⟨-, rfl⟩ := h
      exact ⟨[], rfl, .nil⟩
  | cons hplan hrest ih =>
      rw [List.length_cons, runRounds, hplan] at h
      obtain ⟨first, results, rest, rfl, hpairs, h⟩ := Program.yields_bind_iff.mp h
      obtain ⟨between, last, rfl, -, hlast⟩ := Program.yields_ite_bind h
      obtain ⟨last, later?, nothing, rfl, hlater, hend⟩ := Program.yields_bind_iff.mp hlast
      obtain ⟨later, rfl, hreports⟩ := ih hlater
      obtain ⟨-, rfl⟩ := hend
      exact ⟨⟨number, results⟩ :: later, rfl, .cons (map_pair_of_yields_runPairs hpairs) hreports⟩

/-- If all rounds are reported, there was a plan for each of them. -/
theorem exists_drawn_of_yields_runRounds
    (h : (runRounds settings cross source number left state).Yields events
      (some (.ok reports))) :
    ∃ plans last, plans.length = left ∧ Drawn source cross.zones state plans last := by
  induction left generalizing number state events reports with
  | zero => exact ⟨[], state, rfl, .nil state⟩
  | succ left ih =>
      obtain ⟨pairs, state', -, -, rest, later, hplan, -, hlater, -, -⟩ := yields_runRounds_succ h
      obtain ⟨plans, last, hlength, hdrawn⟩ := ih hlater
      exact ⟨pairs :: plans, last, by rw [List.length_cons, hlength], .cons hplan hdrawn⟩

end Rounds

end TtpConformance
