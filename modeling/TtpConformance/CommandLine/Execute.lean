import TtpConformance.CommandLine.Invocation
import TtpConformance.Cross.Rounds
import TtpConformance.Scenario.Schedule
import TtpConformance.Settings.Layers

/-!
# What a command line does

A command line is a program like any other part of a run: it asks its surroundings for commands,
pauses and locks, and leaves an exit code and two texts. The exit code is zero exactly if all went
well, so that a script can rely on it.

## Main definitions

* `Outcome` — what is left of a command line.
* `execute` — what an invocation does.
* `executeArguments` — the same from arguments.
-/

namespace TtpConformance

/-- A scenario's line. -/
def ScenarioReport.line (r : ScenarioReport) : String :=
  match r.outcome with
  | .passed => "PASS  " ++ r.fullName
  | .failed reason => "FAIL  " ++ r.fullName ++ ": " ++ reason
  | .skipped reason => "SKIP  " ++ r.fullName ++ " (" ++ reason ++ ")"

/-- The lines of a run: one for each scenario, and the counts. -/
def RunReport.lines (r : RunReport) : List String :=
  r.scenarios.map ScenarioReport.line ++ [r.text]

/-- A pair's line, if it has one: failures always do, and so do the plans of a dry run. -/
def PairResult.line? (settings : Settings) (cross : CrossSettings) (quiet : Bool)
    (r : PairResult) : Option String :=
  match r.passed with
  | none => some ("  " ++ r.pair.text ++ "  " ++ pairScript settings cross r.pair)
  | some true => if quiet then none else some ("  PASS  " ++ r.pair.text)
  | some false => some ("  FAIL  " ++ r.pair.text)

/-- The lines of a round. -/
def RoundReport.lines (settings : Settings) (cross : CrossSettings) (quiet : Bool)
    (r : RoundReport) : List String :=
  (if quiet then [] else ["round " ++ Text.decimal r.round]) ++
    r.results.filterMap (PairResult.line? settings cross quiet)

/-- How many pairs of some rounds have failed. -/
def failedPairs (rounds : List RoundReport) : Nat :=
  (rounds.flatMap (·.results)).countP (·.passed == some false)

/-- How many pairs some rounds have. -/
def totalPairs (rounds : List RoundReport) : Nat := (rounds.flatMap (·.results)).length

/-- The lines of a cross run. -/
def crossLines (settings : Settings) (cross : CrossSettings) (quiet : Bool)
    (rounds : List RoundReport) : List String :=
  rounds.flatMap (RoundReport.lines settings cross quiet) ++
    if quiet || cross.dryRun then []
    else
      [Text.decimal (totalPairs rounds - failedPairs rounds) ++ " of " ++
        Text.decimal (totalPairs rounds) ++ " pairs passed"]

namespace CommandLine

/-- What is left of a command line: its exit code, and what it printed as lines. -/
structure Outcome where
  exitCode : UInt8
  stdout : List String := []
  stderr : List String := []
  deriving DecidableEq, Repr

namespace Outcome

/-- An error that is reported as one line. -/
def failure (reason : String) : Outcome := { exitCode := 1, stderr := ["error: " ++ reason] }

/-- What is left if the arguments are not used. Help and the version are asked for, so they are no
error; their texts are not part of this library. -/
def ofUsage : UsageError → Outcome
  | .helpWanted | .versionWanted => { exitCode := 0 }
  | _ => { exitCode := 2, stderr := ["error: bad usage"] }

/-- The exit code of work that went well or did not. -/
def ofSuccess (isSuccess : Bool) (stdout : List String) : Outcome :=
  { exitCode := if isSuccess then 0 else 1, stdout }

/-- What is left if the run was given up at a pause that never ends. -/
def givenUp : Outcome := { exitCode := 101, stderr := ["error: a pause never ends"] }

end Outcome

/-- Where settings come from, by the path of the file that is named. -/
abbrev SettingsSource := Option String → Except SettingsError Settings

/-- The settings of an invocation, or what is left without them. -/
def loadSettings (load : SettingsSource) (config : Option String) : Except Outcome Settings :=
  match load config with
  | .ok settings => .ok settings
  | .error e =>
    .error (.failure ((match config with
      | some path => "Failed to load settings from " ++ path
      | none => "Failed to load harness settings") ++ ": " ++ e.message))

/-- One run. Options are checked before anything else. -/
def executeRun (load : SettingsSource) (config : Option String) (options : RunOptions) :
    Program Outcome :=
  match options.validate with
  | .error e => return .failure ("Invalid options: " ++ e.withCause)
  | .ok context =>
    match loadSettings load config with
    | .error outcome => return outcome
    | .ok settings => do
      match ← (runSession settings context).run with
      | .error e => return .failure ("Setup failed: " ++ e.withCause)
      | .ok none => return .givenUp
      | .ok (some report) => return .ofSuccess report.isSuccess report.lines

variable {ρ : Type} (source : WordSource ρ) (state : ρ)

/-- A cross run. There is nothing left if the source has no more usable words. -/
def executeCross (load : SettingsSource) (config : Option String) (options : CrossOptions)
    (quiet : Bool) : Program (Option Outcome) :=
  match loadSettings load config with
  | .error outcome => return some outcome
  | .ok settings => do
    let cross := CrossSettings.ofOptions options
    match ← runCross settings cross source state with
    | none => return none
    | some (.error e) =>
      return some (.failure ("Failed to plan node pairs: " ++ e.withCause))
    | some (.ok rounds) =>
      return some (.ofSuccess (failedPairs rounds == 0) (crossLines settings cross quiet rounds))

/-- What an invocation does. -/
def execute (load : SettingsSource) (invocation : Invocation) : Program (Option Outcome) :=
  match invocation.task with
  | .run options => return some (← executeRun load invocation.config options)
  | .cross options quiet => executeCross source state load invocation.config options quiet

/-- What arguments do. -/
def executeArguments (load : SettingsSource) (arguments : List String) : Program (Option Outcome) :=
  match Invocation.parse arguments with
  | .error e => return some (.ofUsage e)
  | .ok invocation => execute source state load invocation

end CommandLine

end TtpConformance
