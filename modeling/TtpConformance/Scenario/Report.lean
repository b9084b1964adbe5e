import TtpConformance.Text.Numeral

/-!
# What scenarios report

Each scenario has passed, failed with a diagnostic, or been skipped for a reason. The report of a
run lists its scenarios in the order in which they ran, and counts them.

## Main definitions

* `ScenarioOutcome`, `ScenarioReport`, `RunReport` — the report.
* `RunReport.isSuccess` — nothing has failed.
-/

namespace TtpConformance

/-- The outcome of a scenario. -/
inductive ScenarioOutcome where
  /-- All checks held. -/
  | passed
  /-- A check did not hold. -/
  | failed (diagnostic : String)
  /-- The scenario does not apply to this run. -/
  | skipped (reason : String)
  deriving DecidableEq, Repr

namespace ScenarioOutcome

/-- Whether all checks held. -/
def isPassed : ScenarioOutcome → Bool
  | .passed => true
  | _ => false

/-- Whether a check did not hold. -/
def isFailed : ScenarioOutcome → Bool
  | .failed _ => true
  | _ => false

/-- Whether the scenario did not apply. -/
def isSkipped : ScenarioOutcome → Bool
  | .skipped _ => true
  | _ => false

end ScenarioOutcome

/-- A scenario and its outcome. -/
structure ScenarioReport where
  group : String
  name : String
  outcome : ScenarioOutcome
  deriving DecidableEq, Repr

/-- The full name of a scenario. -/
def ScenarioReport.fullName (r : ScenarioReport) : String := r.group ++ "." ++ r.name

/-- The scenarios of a run, in the order in which they ran. -/
structure RunReport where
  scenarios : List ScenarioReport
  deriving DecidableEq, Repr

namespace RunReport

/-- How many scenarios have passed. -/
def passed (r : RunReport) : Nat := r.scenarios.countP (·.outcome.isPassed)

/-- How many scenarios have failed. -/
def failed (r : RunReport) : Nat := r.scenarios.countP (·.outcome.isFailed)

/-- How many scenarios were skipped. -/
def skipped (r : RunReport) : Nat := r.scenarios.countP (·.outcome.isSkipped)

/-- Whether nothing has failed. -/
def isSuccess (r : RunReport) : Bool := r.failed == 0

/-- The scenarios that have failed. -/
def failures (r : RunReport) : List ScenarioReport := r.scenarios.filter (·.outcome.isFailed)

/-- The scenario of a group and name. -/
def find? (r : RunReport) (group name : String) : Option ScenarioReport :=
  r.scenarios.find? fun s => s.group == group && s.name == name

/-- The counts in words. -/
def text (r : RunReport) : String :=
  Text.decimal r.passed ++ " passed, " ++ Text.decimal r.failed ++ " failed, " ++
    Text.decimal r.skipped ++ " skipped"

end RunReport

end TtpConformance
