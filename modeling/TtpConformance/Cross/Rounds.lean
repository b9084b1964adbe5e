import TtpConformance.Cross.Settings
import TtpConformance.Run.Program

/-!
# Rounds

Every round has a plan of its own. Its pairs run one after the other or all at once; a pair has
passed if its command ran and ended with exit code zero. Pairs that run at once end in any order,
and each result is put where its pair stands in the plan.

## Main definitions

* `PairResult`, `RoundReport` — what came of a round.
* `collect` — results in plan order, from ends in any order.
* `runRounds`, `runCross` — the rounds of a cross run.
-/

namespace TtpConformance

/-- What came of a pair; nothing is known in a dry run. -/
structure PairResult where
  pair : NodePair
  passed : Option Bool
  deriving DecidableEq, Repr

/-- What came of a round. -/
structure RoundReport where
  /-- The number of the round, from one. -/
  round : Nat
  /-- The pairs in the order of the plan. -/
  results : List PairResult
  deriving DecidableEq, Repr

/-- How many pairs of a round have failed. -/
def RoundReport.failed (r : RoundReport) : Nat := r.results.countP (·.passed == some false)

/-- Whether a command ran and ended with exit code zero. -/
def Execution.isSuccess : Execution → Bool
  | .ok output => output.succeeded
  | .error _ => false

/-- The results of pairs that ran at once. A pair that never ended has failed. -/
def collect (pairs : List NodePair) (ends : List (Nat × Execution)) : List PairResult :=
  ends.foldl
    (fun results (index, execution) =>
      results.modify index fun r => { r with passed := some execution.isSuccess })
    (pairs.map fun pair => ⟨pair, some false⟩)

variable (settings : Settings) (cross : CrossSettings)

/-- Where and how a pair runs. -/
def pairJob (pair : NodePair) : Host × Command :=
  (.remote pair.initiatorHost, .shell (pairScript settings cross pair))

/-- Runs pairs one after the other. -/
def runSerial : List NodePair → Program (List PairResult)
  | [] => return []
  | pair :: pairs => do
    let (host, command) := pairJob settings cross pair
    let execution ← Program.request (.command host command)
    return ⟨pair, some (Execution.isSuccess execution)⟩ :: (← runSerial pairs)

/-- Runs pairs at once. -/
def runParallel (pairs : List NodePair) : Program (List PairResult) := do
  let ends ← Program.request (.together (pairs.map (pairJob settings cross)))
  return collect pairs ends

/-- Runs the pairs of a round. -/
def runPairs (pairs : List NodePair) : Program (List PairResult) :=
  if cross.dryRun then return pairs.map fun pair => ⟨pair, none⟩
  else if cross.parallel then runParallel settings cross pairs
  else runSerial settings cross pairs

variable {ρ : Type} (source : WordSource ρ)

/--
The rounds that are left, from number `round` on, with pauses between them. An error is a round
that could not be planned; there is nothing at all if the source has no more usable words.
-/
def runRounds (round : Nat) :
    (left : Nat) → ρ → Program (Option (Except RunError (List RoundReport)))
  | 0, _ => return some (.ok [])
  | left + 1, state =>
    match plan source cross.zones state with
    | none => return none
    | some (.error e, _) => return some (.error e)
    | some (.ok pairs, state) => do
      let results ← runPairs settings cross pairs
      if 0 < left then
        Program.request (.pause cross.wait)
      match ← runRounds (round + 1) left state with
      | some (.ok reports) => return some (.ok (⟨round, results⟩ :: reports))
      | other => return other

/-- A cross run, with the random state from which plans are drawn. -/
def runCross (state : ρ) : Program (Option (Except RunError (List RoundReport))) :=
  runRounds settings cross source 1 cross.rounds.toNat state

end TtpConformance
