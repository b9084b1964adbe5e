import TtpConformance.Proofs.Scenario.Conduct

/-!
# The schedule is played in full

A run of the scenarios is a row of entries, one for each scenario of the schedule and in
its order.  Which of them are skipped is settled by the session before anything is asked
for, and whether one of the others passes is a matter of its own body, which starts from
the stage and not from what the bodies before it have found.

## Main definitions

* `Stage.Plays` — how a scenario comes to its outcome, and what it asks for.
* `ScheduleEntry` — a scenario of a run, with both.

## Main statements

* `Stage.plays_of_yields_play` — one scenario.
* `Stage.entries_of_yields_playEach` — scenarios in a row.
* `Session.runScenarios_total` — the scenarios of a session.
-/

namespace TtpConformance

/-! ## Reports -/

/-- A report counts each of its scenarios once. -/
theorem RunReport.passed_add_failed_add_skipped (report : RunReport) :
    report.passed + report.failed + report.skipped = report.scenarios.length := by
  have honce : ∀ outcome : ScenarioOutcome, (if outcome.isPassed then 1 else 0) +
      (if outcome.isFailed then 1 else 0) + (if outcome.isSkipped then 1 else 0) = 1 := by
    intro outcome
    cases outcome <;> rfl
  unfold passed failed skipped
  induction report.scenarios with
  | nil => rfl
  | cons entry rest ih =>
      have hentry := honce entry.outcome
      rw [List.countP_cons, List.countP_cons, List.countP_cons, List.length_cons]
      omega

theorem RunReport.isSuccess_iff (report : RunReport) :
    report.isSuccess = true ↔ ∀ entry ∈ report.scenarios, entry.outcome.isFailed = false := by
  simp [isSuccess, failed]

/-! ## Requirements -/

/-- A scenario is skipped for the first of its requirements that is not met. -/
theorem Scenario.skipReason?_eq_some_iff {scenario : Scenario} {session : Session}
    {reason : String} :
    scenario.skipReason? session = some reason ↔
      ∃ met unmet others, scenario.requires = met ++ unmet :: others ∧
        unmet.unmetReason? session = some reason ∧
        ∀ requirement ∈ met, requirement.unmetReason? session = none :=
  List.findSome?_eq_some_iff

/-! ## One scenario -/

namespace Stage

/-- The error of a scenario that asks for a peer where there is none. -/
def noPeer : CheckFailure := .run (.configuration "no peer node in this run")

/-- How a scenario comes to its outcome.  It is skipped, for the first requirement that
the session does not meet, and nothing is asked for; or the session meets them all, and
its body passes, or fails, but not for want of a peer. -/
inductive Plays (s : Stage) (scenario : Scenario) : List Event → ScenarioOutcome → Prop
  | skipped {met others : List Requirement} {unmet : Requirement} {reason : String}
    (requires : scenario.requires = met ++ unmet :: others)
    (met_before : ∀ requirement ∈ met, requirement.unmetReason? s.session = none)
    (unmet_for : unmet.unmetReason? s.session = some reason) :
    Plays s scenario [] (.skipped reason)
  | passed {events : List Event}
    (met : ∀ requirement ∈ scenario.requires, requirement.unmetReason? s.session = none)
    (body : Succeeds (scenario.body s) events ()) :
    Plays s scenario events .passed
  | failed {events : List Event} {failure : CheckFailure}
    (met : ∀ requirement ∈ scenario.requires, requirement.unmetReason? s.session = none)
    (body : Fails (scenario.body s) events (.failed failure))
    (not_noPeer : failure ≠ noPeer) :
    Plays s scenario events (.failed failure.message)

variable {s : Stage} {scenario : Scenario} {events : List Event}

/-- A scenario is skipped exactly if one of its requirements is not met. -/
theorem Plays.isSkipped_iff {outcome : ScenarioOutcome} (h : s.Plays scenario events outcome) :
    outcome.isSkipped = true ↔
      ∃ requirement ∈ scenario.requires, requirement.unmetReason? s.session ≠ none := by
  cases h with
  | @skipped met others unmet reason requires _ unmet_for =>
      have hmem : unmet ∈ scenario.requires := by simp [requires]
      have hunmet : unmet.unmetReason? s.session ≠ none := by simp [unmet_for]
      exact iff_of_true rfl ⟨unmet, hmem, hunmet⟩
  | passed met =>
      refine iff_of_false Bool.false_ne_true ?_
      rintro ⟨requirement, hmem, hunmet⟩
      exact hunmet (met requirement hmem)
  | failed met =>
      refine iff_of_false Bool.false_ne_true ?_
      rintro ⟨requirement, hmem, hunmet⟩
      exact hunmet (met requirement hmem)

/-- A scenario that behaves is played to an outcome. -/
theorem plays_of_yields_play {outcome? : Option ScenarioOutcome} (hbehaves : scenario.Behaves s)
    (h : (s.play scenario).Yields events outcome?) :
    ∃ outcome, outcome? = some outcome ∧ s.Plays scenario events outcome := by
  unfold play at h
  cases hskip : scenario.skipReason? s.session with
  | some reason =>
      rw [hskip] at h
      obtain ⟨rfl, rfl⟩ := h
      obtain ⟨met, unmet, others, hrequires, hunmet, hmet⟩ :=
        Scenario.skipReason?_eq_some_iff.mp hskip
      exact ⟨.skipped reason, rfl, .skipped hrequires hmet hunmet⟩
  | none =>
      rw [hskip] at h
      obtain ⟨first, result, second, rfl, hbody, hend⟩ := Program.yields_bind_iff.mp h
      have hmet : ∀ requirement ∈ scenario.requires,
          requirement.unmetReason? s.session = none :=
        fun _ hmem => Scenario.met_of_skipReason?_eq_none hskip hmem
      have hends := ((hbehaves hskip).of_yields hbody).2
      match result, hbody, hend, hends with
      | .ok (), hbody, hend, _ =>
          obtain ⟨rfl, rfl⟩ := hend
          rw [List.append_nil]
          exact ⟨.passed, rfl, .passed hmet hbody⟩
      | .error (.failed failure), hbody, hend, hends =>
          obtain ⟨rfl, rfl⟩ := hend
          rw [List.append_nil]
          have hnoPeer : failure ≠ noPeer := by
            rintro rfl
            exact hends _ rfl
          exact ⟨.failed failure.message, rfl, .failed hmet hbody hnoPeer⟩
      | .error .endlessPause, _, _, hends => exact (hends _ rfl).elim

end Stage

/-! ## Scenarios in a row -/

/-- A scenario of a run, with what it asked for and what has come of it. -/
structure ScheduleEntry where
  scenario : Scenario
  events : List Event
  outcome : ScenarioOutcome

/-- What is reported of an entry. -/
def ScheduleEntry.report (entry : ScheduleEntry) : ScenarioReport :=
  ⟨entry.scenario.group, entry.scenario.name, entry.outcome⟩

namespace Stage

/-- Scenarios in a row are played one after the other, whatever comes of them. -/
theorem entries_of_yields_playEach {s : Stage} {scenarios : List Scenario} {events : List Event}
    {reports? : Option (List ScenarioReport)} (hbehaves : ∀ sc ∈ scenarios, sc.Behaves s)
    (h : (s.playEach scenarios).Yields events reports?) :
    ∃ entries : List ScheduleEntry, entries.map (·.scenario) = scenarios ∧
      events = entries.flatMap (·.events) ∧
      reports? = some (entries.map ScheduleEntry.report) ∧
      ∀ entry ∈ entries, s.Plays entry.scenario entry.events entry.outcome := by
  induction scenarios generalizing events reports? with
  | nil =>
      obtain ⟨rfl, rfl⟩ := h
      exact ⟨[], rfl, rfl, rfl, by simp⟩
  | cons scenario rest ih =>
      rw [playEach] at h
      obtain ⟨first, outcome?, second, rfl, hplay, h⟩ := Program.yields_bind_iff.mp h
      obtain ⟨outcome, rfl, hplays⟩ :=
        plays_of_yields_play (hbehaves scenario List.mem_cons_self) hplay
      obtain ⟨middle, rest?, last, rfl, hrest, h⟩ := Program.yields_bind_iff.mp h
      obtain ⟨entries, hscenarios, rfl, rfl, hentries⟩ :=
        ih (fun other hother => hbehaves other (List.mem_cons_of_mem _ hother)) hrest
      obtain ⟨rfl, rfl⟩ := h
      refine ⟨⟨scenario, first, outcome⟩ :: entries, ?_, ?_, rfl, ?_⟩
      · rw [List.map_cons, hscenarios]
      · rw [List.append_nil, List.flatMap_cons]
      · exact List.forall_mem_cons.mpr ⟨hplays, hentries⟩

end Stage

/-! ## The schedule -/

/-- Group and name of every scenario, in the order of the schedule. -/
def schedulePlan : List (String × String) := schedule.map fun sc => (sc.group, sc.name)

theorem nodup_schedulePlan : schedulePlan.Nodup := by decide

theorem map_fst_schedulePlan :
    schedulePlan.map Prod.fst = List.replicate 4 "seq_ids" ++ List.replicate 7 "proc" ++
      List.replicate 6 "packet" ++ List.replicate 2 "noc_db" ++ List.replicate 5 "traffic" ++
      List.replicate 3 "cleanup" := rfl

/--
The schedule is played in full, whatever the session and however commands turn out, if
only the pauses are durations.  There is a report, on the same scenarios in the same
order, each of them once.  A scenario is skipped exactly if the session does not meet
one of its requirements, for the first of these, and then asks for nothing; any other
passes or fails with its own body, and none for want of a peer.  What is asked for is
what the scenarios ask for, one after the other.
-/
theorem Session.runScenarios_total (settings : Settings) (session : Session)
    (hpauses : session.context.PausesFit settings) (x : Surroundings) (d : LockDirectory) :
    let outcome := x.run (session.runScenarios settings) d
    ∃ (report : RunReport) (entries : List ScheduleEntry),
      outcome.result = some report ∧
      report.scenarios = entries.map ScheduleEntry.report ∧
      outcome.trace = entries.flatMap (·.events) ∧
      entries.map (·.scenario) = schedule ∧
      (∀ entry ∈ entries,
        Stage.Plays ⟨settings, session⟩ entry.scenario entry.events entry.outcome ∧
        (entry.outcome.isSkipped = true ↔
          ∃ requirement ∈ entry.scenario.requires, requirement.unmetReason? session ≠ none)) ∧
      report.scenarios.map (fun r => (r.group, r.name)) = schedulePlan ∧
      schedulePlan.Nodup ∧
      schedulePlan.map Prod.fst = List.replicate 4 "seq_ids" ++ List.replicate 7 "proc" ++
        List.replicate 6 "packet" ++ List.replicate 2 "noc_db" ++ List.replicate 5 "traffic" ++
        List.replicate 3 "cleanup" ∧
      report.passed + report.failed + report.skipped = 27 ∧
      (report.isSuccess = true ↔ ∀ r ∈ report.scenarios, r.outcome.isFailed = false) := by
  intro outcome
  let s : Stage := ⟨settings, session⟩
  have hbehaves : ∀ scenario ∈ schedule, scenario.Behaves s :=
    Stage.behaves_of_mem_schedule (s := s) hpauses
  obtain ⟨reports?, hreports, hresult⟩ :=
    Program.yields_map_iff.mp (x.run_yields (session.runScenarios settings) d)
  obtain ⟨entries, hschedule, htrace, rfl, hplays⟩ :=
    Stage.entries_of_yields_playEach hbehaves hreports
  let report : RunReport := ⟨entries.map ScheduleEntry.report⟩
  have hplan : report.scenarios.map (fun r => (r.group, r.name)) = schedulePlan := by
    rw [schedulePlan, ← hschedule, List.map_map, List.map_map]
    rfl
  have hcount : report.passed + report.failed + report.skipped = 27 := by
    have hlength : schedulePlan.length = 27 := rfl
    have hreports : report.scenarios.length = schedulePlan.length :=
      List.length_map _ ▸ congrArg List.length hplan
    rw [report.passed_add_failed_add_skipped, hreports, hlength]
  exact ⟨report, entries, hresult, rfl, htrace, hschedule,
    fun entry hentry => ⟨hplays entry hentry, (hplays entry hentry).isSkipped_iff⟩, hplan,
    nodup_schedulePlan, map_fst_schedulePlan, hcount, report.isSuccess_iff⟩

/-- Status files without rows, and no frame generator on the peer: some scenarios pass,
some fail and some are skipped. -/
theorem Session.runScenarios_total_empty_table :
    let session : Session :=
      { context := .toFourthNode
        identities :=
          { self := ⟨"node-01", .ofLow ⟨0, 0, 1⟩, none, "000001"⟩
            peer := some ⟨"node-04", .ofLow ⟨0, 0, 4⟩, none, "000004"⟩
            target := ⟨⟨0, 0, 4⟩⟩ }
        tools := { selfGenerator := true }
        locks := {}
        baseline := 5
        peerBaseline := some 5
        gateway := none }
    let x := Surroundings.showing { stdout := "5" }
    let outcome := x.run (session.runScenarios {}) { path := "/locks" }
    session.context.PausesFit {} ∧
      ∃ report, outcome.result = some report ∧
        (report.passed, report.failed, report.skipped) = (18, 6, 3) ∧
        report.scenarios.map (fun r => (r.group, r.name)) = schedulePlan := by
  intro session x outcome
  have hpauses : session.context.PausesFit {} := ⟨rfl, rfl⟩
  obtain ⟨report, entries, hresult, -, -, -, -, hplan, -⟩ :=
    runScenarios_total {} session hpauses x { path := "/locks" }
  have hcounts : outcome.result.map (fun r => (r.passed, r.failed, r.skipped)) =
      some (18, 6, 3) := by decide +kernel
  change outcome.result = some report at hresult
  rw [hresult] at hcounts
  exact ⟨hpauses, report, hresult, Option.some.inj hcounts, hplan⟩

end TtpConformance
