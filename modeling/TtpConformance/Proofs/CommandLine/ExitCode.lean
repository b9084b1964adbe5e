import TtpConformance.Proofs.CommandLine.Printed
import TtpConformance.Proofs.Cross.Planned
import TtpConformance.Proofs.Session.Course

/-!
# Success means that nothing has failed

A script only sees the exit code of a command line.  It is zero for a run exactly if the
options were accepted, the settings were loaded, the run was set up and none of its
scenarios has failed, and for a cross run exactly if the settings were loaded, every round
was planned and no pair has failed.  Whoever reads the output sees the same: what has
failed is marked in it, entry by entry, and the counts agree with the marks.

How commands, pauses and locks are answered is left open, so this holds in every lab.
Only the pauses of a run are taken to be durations.

## Main definitions

* `RunEnd` — the ways in which a run can end.
* `ofRounds` — what is left of a cross run.

## Main statements

* `runEnd_of_yields_executeRun` — a run ends in one of these ways.
* `RunEnd.exitCode_eq_zero_iff`, `RunEnd.printed` — its exit code, and what it prints.
* `yields_executeCross` — a cross run, with settings and without them.
* `exitCode_eq_zero_iff_nothing_failed` — command lines.
-/

namespace TtpConformance.CommandLine

variable {load : SettingsSource} {config : Option String} {events : List Event}

/-! ## Exit codes -/

theorem exitCode_failure_ne_zero (reason : String) : (Outcome.failure reason).exitCode ≠ 0 := by
  simp [Outcome.failure]

theorem exitCode_ofSuccess_eq_zero_iff {isSuccess : Bool} {stdout : List String} :
    (Outcome.ofSuccess isSuccess stdout).exitCode = 0 ↔ isSuccess = true := by
  cases isSuccess <;> simp [Outcome.ofSuccess]

/-! ## Runs -/

section Runs

variable {options : RunOptions} {outcome : Outcome}

/-- The ways in which a run can end: its options or its settings are of no use, and then nothing
is asked for; it is not set up; or it has a course, and that is reported. -/
inductive RunEnd (load : SettingsSource) (config : Option String) (options : RunOptions) :
    List Event → Outcome → Prop where
  | badOptions {e : RunError} (hoptions : options.validate = .error e) :
      RunEnd load config options [] (.failure ("Invalid options: " ++ e.withCause))
  | badSettings {context : RunContext} {e : SettingsError} {reason : String}
      (hoptions : options.validate = .ok context) (hload : load config = .error e) :
      RunEnd load config options [] (.failure reason)
  | notSetUp {context : RunContext} {settings : Settings} {events : List Event} {e : RunError}
      (hoptions : options.validate = .ok context) (hload : load config = .ok settings)
      (hsetup : Fails (Session.setup settings context) events e) :
      RunEnd load config options events (.failure ("Setup failed: " ++ e.withCause))
  | reported {context : RunContext} {settings : Settings} {events : List Event}
      {session : Session} {entries : List ScheduleEntry}
      (hoptions : options.validate = .ok context) (hload : load config = .ok settings)
      (hcourse : Session.Course settings context events session entries) :
      RunEnd load config options events
        (.ofSuccess (RunReport.isSuccess ⟨entries.map ScheduleEntry.report⟩)
          (RunReport.lines ⟨entries.map ScheduleEntry.report⟩))

theorem runEnd_of_yields_executeRun
    (hpauses : ∀ context settings, options.validate = .ok context → load config = .ok settings →
      context.PausesFit settings)
    (h : (executeRun load config options).Yields events outcome) :
    RunEnd load config options events outcome := by
  unfold executeRun at h
  cases hoptions : options.validate with
  | error e =>
      rw [hoptions] at h
      obtain ⟨rfl, rfl⟩ := h
      exact .badOptions hoptions
  | ok context =>
      rw [hoptions] at h
      cases hload : load config with
      | error e =>
          simp only [loadSettings, hload] at h
          obtain ⟨rfl, rfl⟩ := h
          exact .badSettings hoptions hload
      | ok settings =>
          simp only [loadSettings, hload] at h
          obtain ⟨first, result, rest, rfl, hrun, h⟩ := Program.yields_bind_iff.mp h
          rcases course_of_yields_runSession (hpauses context settings hoptions hload) hrun with
            ⟨e, hfails, rfl⟩ | ⟨session, entries, hcourse, rfl⟩
          · obtain ⟨rfl, rfl⟩ := h
            rw [List.append_nil]
            exact .notSetUp hoptions hload hfails
          · obtain ⟨rfl, rfl⟩ := h
            rw [List.append_nil]
            exact .reported hoptions hload hcourse

/-- A setup that has failed is not the first part of anything. -/
theorem not_succeeds_of_fails {ε α : Type} {x : ExceptT ε Program α} {before after : List Event}
    {a : α} {e : ε} (hsetup : Succeeds x before a) : ¬ Fails x (before ++ after) e := by
  intro hfails
  have hresult := (Program.eq_nil_of_yields_append hsetup hfails).2
  cases hresult

/-- The exit code of a run. -/
theorem RunEnd.exitCode_eq_zero_iff (h : RunEnd load config options events outcome) :
    outcome.exitCode = 0 ↔ ∃ context settings session entries,
      options.validate = .ok context ∧ load config = .ok settings ∧
      Session.Course settings context events session entries ∧
      ∀ entry ∈ entries, entry.outcome.isFailed = false := by
  cases h with
  | badOptions hoptions =>
      refine iff_of_false (exitCode_failure_ne_zero _) ?_
      rintro ⟨context, settings, session, entries, hok, -⟩
      cases hoptions.symm.trans hok
  | badSettings hoptions hload =>
      refine iff_of_false (exitCode_failure_ne_zero _) ?_
      rintro ⟨context, settings, session, entries, -, hok, -⟩
      cases hload.symm.trans hok
  | notSetUp hoptions hload hsetup =>
      refine iff_of_false (exitCode_failure_ne_zero _) ?_
      rintro ⟨context', settings', session, entries, hoptions', hload', hcourse, -⟩
      cases hoptions.symm.trans hoptions'
      cases hload.symm.trans hload'
      obtain ⟨before, down, rfl, hsucceeds, -⟩ := hcourse.parts
      exact not_succeeds_of_fails hsucceeds hsetup
  | @reported context settings events session entries hoptions hload hcourse =>
      rw [exitCode_ofSuccess_eq_zero_iff, RunReport.isSuccess_iff, List.forall_mem_map]
      constructor
      · intro hnone
        exact ⟨context, settings, session, entries, hoptions, hload, hcourse, hnone⟩
      · rintro ⟨context', settings', session', entries', hoptions', hload', hcourse', hnone⟩
        cases hoptions.symm.trans hoptions'
        cases hload.symm.trans hload'
        obtain ⟨-, rfl⟩ := hcourse.unique hcourse'
        exact hnone

/-- What is printed of a run that was set up. -/
theorem RunEnd.printed (h : RunEnd load config options events outcome) {context : RunContext}
    {settings : Settings} {session : Session} {before after : List Event}
    (hoptions : options.validate = .ok context) (hload : load config = .ok settings)
    (hevents : events = before ++ after)
    (hsetup : Succeeds (Session.setup settings context) before session) :
    ∃ entries, Session.Course settings context events session entries ∧
      RunPrinted entries outcome.stdout := by
  cases h with
  | badOptions hoptions' => cases hoptions.symm.trans hoptions'
  | badSettings _ hload' => cases hload.symm.trans hload'
  | notSetUp hoptions' hload' hfails =>
      cases hoptions.symm.trans hoptions'
      cases hload.symm.trans hload'
      rw [hevents] at hfails
      exact absurd hfails (not_succeeds_of_fails hsetup)
  | @reported context' settings' events session' entries hoptions' hload' hcourse =>
      cases hoptions.symm.trans hoptions'
      cases hload.symm.trans hload'
      obtain ⟨before', down, hparts, hsetup', -⟩ := hcourse.parts
      obtain ⟨-, hsession, -⟩ :=
        Program.eq_of_yields_append hsetup hsetup' (hevents.symm.trans hparts)
      obtain rfl := Except.ok.inj hsession
      exact ⟨entries, hcourse, runPrinted_lines entries⟩

/-- Without valid options nothing is done, and that is no success. -/
theorem RunEnd.of_badOptions (h : RunEnd load config options events outcome) {e : RunError}
    (hoptions : options.validate = .error e) : events = [] ∧ outcome.exitCode = 1 := by
  cases h with
  | badOptions => exact ⟨rfl, rfl⟩
  | badSettings hoptions' => cases hoptions.symm.trans hoptions'
  | notSetUp hoptions' => cases hoptions.symm.trans hoptions'
  | reported hoptions' => cases hoptions.symm.trans hoptions'

end Runs

/-! ## Cross runs -/

section CrossRuns

variable {ρ : Type} {source : WordSource ρ} {state : ρ} {options : CrossOptions} {quiet : Bool}
  {result : Option Outcome}

/-- What is left of a cross run: its report, or why there is none. -/
def ofRounds (settings : Settings) (cross : CrossSettings) (quiet : Bool) :
    Option (Except RunError (List RoundReport)) → Option Outcome
  | none => none
  | some (.error e) => some (.failure ("Failed to plan node pairs: " ++ e.withCause))
  | some (.ok rounds) =>
    some (.ofSuccess (failedPairs rounds == 0) (crossLines settings cross quiet rounds))

/-- A cross run ends without settings, or with what is left of its rounds. -/
theorem yields_executeCross
    (h : (executeCross source state load config options quiet).Yields events result) :
    (∃ e reason, load config = .error e ∧ result = some (.failure reason)) ∨
      ∃ settings rounds?, load config = .ok settings ∧
        (runCross settings (.ofOptions options) source state).Yields events rounds? ∧
        result = ofRounds settings (.ofOptions options) quiet rounds? := by
  unfold executeCross at h
  cases hload : load config with
  | error e =>
      simp only [loadSettings, hload] at h
      obtain ⟨-, rfl⟩ := h
      exact .inl ⟨e, _, rfl, rfl⟩
  | ok settings =>
      simp only [loadSettings, hload] at h
      obtain ⟨first, rounds?, rest, rfl, hrounds, h⟩ := Program.yields_bind_iff.mp h
      refine .inr ⟨settings, rounds?, rfl, ?_⟩
      match rounds?, h with
      | none, h =>
          obtain ⟨rfl, rfl⟩ := h
          exact ⟨by rwa [List.append_nil], rfl⟩
      | some (.error e), h =>
          obtain ⟨rfl, rfl⟩ := h
          exact ⟨by rwa [List.append_nil], rfl⟩
      | some (.ok rounds), h =>
          obtain ⟨rfl, rfl⟩ := h
          exact ⟨by rwa [List.append_nil], rfl⟩

/-- The exit code for rounds. -/
theorem ofRounds_exitCode_iff {settings : Settings} {cross : CrossSettings}
    {rounds? : Option (Except RunError (List RoundReport))} :
    (∃ outcome, ofRounds settings cross quiet rounds? = some outcome ∧ outcome.exitCode = 0) ↔
      ∃ reports, rounds? = some (.ok reports) ∧
        ∀ pair ∈ reports.flatMap (·.results), pair.passed ≠ some false := by
  match rounds? with
  | none => simp [ofRounds]
  | some (.error e) => simp [ofRounds, Outcome.failure]
  | some (.ok rounds) =>
      have hnone : (failedPairs rounds == 0) = true ↔
          ∀ pair ∈ rounds.flatMap (·.results), pair.passed ≠ some false := by
        rw [beq_iff_eq, failedPairs, List.countP_eq_zero]
        simp
      constructor
      · rintro ⟨outcome, hresult, hzero⟩
        obtain rfl := Option.some.inj hresult
        exact ⟨rounds, rfl, hnone.mp (exitCode_ofSuccess_eq_zero_iff.mp hzero)⟩
      · rintro ⟨reports, hreports, hpairs⟩
        cases hreports
        exact ⟨_, rfl, exitCode_ofSuccess_eq_zero_iff.mpr (hnone.mpr hpairs)⟩

/-- The exit code of a cross run. -/
theorem exitCode_executeCross_iff
    (h : (executeCross source state load config options quiet).Yields events result) :
    (∃ outcome, result = some outcome ∧ outcome.exitCode = 0) ↔
      ∃ settings plans last reports, load config = .ok settings ∧
        plans.length = (CrossSettings.ofOptions options).rounds.toNat ∧
        Drawn source (CrossSettings.ofOptions options).zones state plans last ∧
        (runCross settings (.ofOptions options) source state).Yields events
          (some (.ok reports)) ∧
        ∀ pair ∈ reports.flatMap (·.results), pair.passed ≠ some false := by
  rcases yields_executeCross h with ⟨e, reason, hload, rfl⟩ |
    ⟨settings, rounds?, hload, hrounds, rfl⟩
  · refine iff_of_false ?_ ?_
    · rintro ⟨outcome, hresult, hzero⟩
      obtain rfl := Option.some.inj hresult
      exact exitCode_failure_ne_zero reason hzero
    · rintro ⟨settings, plans, last, reports, hok, -⟩
      cases hload.symm.trans hok
  · rw [ofRounds_exitCode_iff]
    constructor
    · rintro ⟨reports, rfl, hpairs⟩
      obtain ⟨plans, last, hlength, hdrawn⟩ := exists_drawn_of_yields_runRounds hrounds
      exact ⟨settings, plans, last, reports, hload, hlength, hdrawn, hrounds, hpairs⟩
    · rintro ⟨settings', plans, last, reports, hok, -, -, hreports, hpairs⟩
      cases hload.symm.trans hok
      exact ⟨reports, Program.eq_of_yields hrounds hreports, hpairs⟩

/-- What is printed of a cross run for which there are plans. -/
theorem printed_of_yields_executeCross
    (h : (executeCross source state load config options quiet).Yields events result)
    {settings : Settings} {plans : List (List NodePair)} {last : ρ}
    (hload : load config = .ok settings)
    (hlength : plans.length = (CrossSettings.ofOptions options).rounds.toNat)
    (hdrawn : Drawn source (CrossSettings.ofOptions options).zones state plans last) :
    ∃ reports outcome,
      (runCross settings (.ofOptions options) source state).Yields events (some (.ok reports)) ∧
      result = some outcome ∧
      List.Forall₂ (fun pairs report => report.results.map (·.pair) = pairs) plans reports ∧
      CrossPrinted quiet options.dryRun (reports.flatMap (·.results)) outcome.stdout := by
  rcases yields_executeCross h with ⟨e, reason, hfails, rfl⟩ |
    ⟨settings', rounds?, hload', hrounds, rfl⟩
  · cases hload.symm.trans hfails
  · cases hload.symm.trans hload'
    have hleft := hrounds
    rw [runCross, ← hlength] at hleft
    obtain ⟨reports, rfl, hpairs⟩ := reports_of_drawn hdrawn hleft
    have hprinted := crossPrinted_crossLines settings (.ofOptions options) quiet reports
    exact ⟨reports, _, hrounds, rfl, hpairs, hprinted⟩

end CrossRuns

/-! ## Command lines -/

/--
Success means that nothing has failed, and what has failed is seen.  A run succeeds exactly if
its options are valid, its settings are loaded, it is set up and no scenario of its course has
failed.  If it is set up, it prints one entry for each scenario of the schedule, in order and
with the mark of its outcome, and counts that agree with the marks.  Without valid options
it asks for nothing.  A cross run succeeds exactly if its settings are loaded, there is a plan
for each of its rounds and no pair is known to have failed.  With such plans it prints one line
for each pair that has failed, in any case, and unless lines are left out or nothing is run
the number of pairs that have passed: all but those with such a line.
-/
theorem exitCode_eq_zero_iff_nothing_failed {ρ : Type} (source : WordSource ρ) (state : ρ)
    (load : SettingsSource) {arguments : List String} {invocation : Invocation}
    (hparse : Invocation.parse arguments = .ok invocation) {events : List Event}
    {result : Option Outcome}
    (h : (executeArguments source state load arguments).Yields events result) :
    (∀ options, invocation.task = .run options →
      (∀ context settings, options.validate = .ok context →
        load invocation.config = .ok settings → context.PausesFit settings) →
      ∃ outcome, result = some outcome ∧
        (outcome.exitCode = 0 ↔ ∃ context settings session entries,
          options.validate = .ok context ∧ load invocation.config = .ok settings ∧
          Session.Course settings context events session entries ∧
          ∀ entry ∈ entries, entry.outcome.isFailed = false) ∧
        (∀ context settings session before after, options.validate = .ok context →
          load invocation.config = .ok settings → events = before ++ after →
          Succeeds (Session.setup settings context) before session →
          ∃ entries, Session.Course settings context events session entries ∧
            RunPrinted entries outcome.stdout) ∧
        ∀ e, options.validate = .error e → events = [] ∧ outcome.exitCode = 1) ∧
    (∀ options quiet, invocation.task = .cross options quiet →
      let cross := CrossSettings.ofOptions options
      ((∃ outcome, result = some outcome ∧ outcome.exitCode = 0) ↔
        ∃ settings plans last reports, load invocation.config = .ok settings ∧
          plans.length = cross.rounds.toNat ∧ Drawn source cross.zones state plans last ∧
          (runCross settings cross source state).Yields events (some (.ok reports)) ∧
          ∀ pair ∈ reports.flatMap (·.results), pair.passed ≠ some false) ∧
      ∀ settings plans last, load invocation.config = .ok settings →
        plans.length = cross.rounds.toNat → Drawn source cross.zones state plans last →
        ∃ reports outcome,
          (runCross settings cross source state).Yields events (some (.ok reports)) ∧
          result = some outcome ∧
          List.Forall₂ (fun pairs report => report.results.map (·.pair) = pairs) plans reports ∧
          CrossPrinted quiet options.dryRun (reports.flatMap (·.results)) outcome.stdout) := by
  simp only [executeArguments, hparse] at h
  refine ⟨fun options htask hpauses => ?_, fun options quiet htask => ?_⟩
  · simp only [execute, htask] at h
    obtain ⟨outcome, hrun, rfl⟩ := Program.yields_map_iff.mp h
    have hend := runEnd_of_yields_executeRun hpauses hrun
    refine ⟨outcome, rfl, hend.exitCode_eq_zero_iff, ?_, fun e => hend.of_badOptions⟩
    intro context settings session before after hoptions hload hevents hsetup
    exact hend.printed hoptions hload hevents hsetup
  · simp only [execute, htask] at h
    exact ⟨exitCode_executeCross_iff h, fun _ _ _ => printed_of_yields_executeCross h⟩

/-- Options that give nothing but the target. -/
def targetOnly : RunOptions := { target := some "04" }

/-- Status files without rows: the run is set up, and eight of its scenarios fail. -/
theorem exitCode_eq_zero_iff_nothing_failed_empty_table :
    let x := Surroundings.showing { stdout := "5" }
    let ended := x.run (executeArguments (.cyclic #[0x80000000]) 0 (fun _ => .ok {})
      ["run", "--target=04"]) { path := "/locks" }
    RunContext.toFourthNode.PausesFit {} ∧ ∃ outcome session entries,
      ended.result = some outcome ∧ outcome.exitCode = 1 ∧
      Session.Course {} .toFourthNode ended.trace session entries ∧
      RunPrinted entries outcome.stdout ∧ entries.countP (·.outcome.isFailed) = 8 := by
  intro x ended
  have hpauses : RunContext.toFourthNode.PausesFit {} := ⟨rfl, rfl⟩
  have hparse : Invocation.parse ["run", "--target=04"] = .ok ⟨.run targetOnly, 0, none⟩ := by cbv
  have hoptions : targetOnly.validate = .ok .toFourthNode := by decide +kernel
  have hyields : (executeArguments (.cyclic #[0x80000000]) 0 (fun _ => .ok {})
      ["run", "--target=04"]).Yields ended.trace ended.result := x.run_yields _ _
  have hfits : ∀ context settings, targetOnly.validate = .ok context →
      (.ok {} : Except SettingsError Settings) = .ok settings → context.PausesFit settings := by
    intro context settings hcontext hsettings
    cases hoptions.symm.trans hcontext
    cases hsettings
    exact hpauses
  obtain ⟨outcome, hresult, -, hprinted, -⟩ := (exitCode_eq_zero_iff_nothing_failed
    (.cyclic #[0x80000000]) 0 (fun _ => .ok {}) hparse hyields).1 targetOnly rfl hfits
  have hexit : ended.result.map (fun o => (o.exitCode, o.stdout.countP (hasTag "FAIL  "))) =
      some (1, 8) := by decide +kernel
  have hsetup : ∃ before after session, ended.trace = before ++ after ∧
      Succeeds (Session.setup {} .toFourthNode) before session := by
    have hprogram : ∃ rest, executeArguments (.cyclic #[0x80000000]) 0 (fun _ => .ok {})
        ["run", "--target=04"] = (Session.setup {} .toFourthNode).run >>= rest := by
      simp only [executeArguments, hparse, execute, executeRun, hoptions, loadSettings,
        runSession_eq, ExceptT.run_bind, Program.bind_assoc]
      exact ⟨_, rfl⟩
    obtain ⟨rest, hprogram⟩ := hprogram
    obtain ⟨after, hevents, -⟩ := x.run_bind_yields (Session.setup {} .toFourthNode).run rest
      { path := "/locks" }
    have hok : (x.run (Session.setup {} .toFourthNode).run { path := "/locks" }).result.isOk := by
      decide +kernel
    have hsetup := x.run_yields (Session.setup {} .toFourthNode).run { path := "/locks" }
    cases hsession : (x.run (Session.setup {} .toFourthNode).run { path := "/locks" }).result with
    | error e => rw [hsession] at hok; cases hok
    | ok session =>
        rw [hsession] at hsetup
        exact ⟨_, after, session, by rw [← hevents, ← hprogram], hsetup⟩
  obtain ⟨before, after, session, hevents, hsetup⟩ := hsetup
  obtain ⟨entries, hcourse, hlines⟩ := hprinted _ _ session before after hoptions rfl hevents hsetup
  rw [hresult] at hexit
  obtain ⟨hcode, hfailed⟩ := Prod.mk.inj (Option.some.inj hexit)
  exact ⟨hpauses, outcome, session, entries, hresult, hcode, hcourse, hlines,
    hlines.failures ▸ hfailed⟩

end TtpConformance.CommandLine
