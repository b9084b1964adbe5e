import TtpConformance.Proofs.Scenario.Schedule
import TtpConformance.Proofs.Session.Window

/-!
# The course of a run

A run that was set up plays the schedule and is taken down.  What has happened settles all
of it: which part of a trace was the setup and with what session it ended, which part
each scenario has asked for and what has come of it.  So it makes sense to speak of the
outcomes of a run, given nothing but what was asked for and answered.

## Main definitions

* `Session.Course` — the session of a run, and its scenarios with their outcomes.

## Main statements

* `Session.Course.unique` — a trace has one course.
* `Session.course_of_succeeds_setup` — a run that was set up has a course.
* `course_of_yields_runSession` — runs with a setup and without one.
-/

namespace TtpConformance

/-! ## One scenario -/

namespace Stage

variable {s : Stage}

/-- What a scenario is said to do is a trace of playing it. -/
theorem Plays.yields_play {scenario : Scenario} {events : List Event} {outcome : ScenarioOutcome}
    (h : s.Plays scenario events outcome) : (s.play scenario).Yields events (some outcome) := by
  have hnone : (∀ requirement ∈ scenario.requires, requirement.unmetReason? s.session = none) →
      scenario.skipReason? s.session = none := List.findSome?_eq_none_iff.mpr
  unfold play
  cases h with
  | @skipped met others unmet reason requires met_before unmet_for =>
      have hskip : scenario.skipReason? s.session = some reason :=
        Scenario.skipReason?_eq_some_iff.mpr ⟨met, unmet, others, requires, unmet_for, met_before⟩
      rw [hskip]
      exact ⟨rfl, rfl⟩
  | passed met body =>
      rw [hnone met]
      exact Program.yields_bind_iff.mpr ⟨events, _, [], (List.append_nil _).symm, body, rfl, rfl⟩
  | failed met body =>
      rw [hnone met]
      exact Program.yields_bind_iff.mpr ⟨events, _, [], (List.append_nil _).symm, body, rfl, rfl⟩

/-! ## Scenarios in a row -/

/-- Scenarios in a row have had one outcome each, which is settled by what has happened. -/
theorem entries_unique {entries entries' : List ScheduleEntry} {rest rest' : List Event}
    (hscenarios : entries.map (·.scenario) = entries'.map (·.scenario))
    (hplays : ∀ entry ∈ entries, s.Plays entry.scenario entry.events entry.outcome)
    (hplays' : ∀ entry ∈ entries', s.Plays entry.scenario entry.events entry.outcome)
    (heq : entries.flatMap (·.events) ++ rest = entries'.flatMap (·.events) ++ rest') :
    entries = entries' := by
  induction entries generalizing entries' with
  | nil => exact (List.map_eq_nil_iff.mp hscenarios.symm).symm
  | cons entry entries ih =>
      cases entries' with
      | nil => cases hscenarios
      | cons entry' entries' =>
          obtain ⟨scenario, events, outcome⟩ := entry
          obtain ⟨scenario', events', outcome'⟩ := entry'
          obtain ⟨hscenario, hothers⟩ := List.cons.inj hscenarios
          obtain rfl : scenario = scenario' := hscenario
          rw [List.flatMap_cons, List.flatMap_cons, List.append_assoc, List.append_assoc] at heq
          have hfirst := (hplays _ List.mem_cons_self).yields_play
          have hfirst' := (hplays' _ List.mem_cons_self).yields_play
          obtain ⟨rfl, hsame, hrest⟩ := Program.eq_of_yields_append hfirst hfirst' heq
          obtain rfl := Option.some.inj hsame
          have hentries := ih hothers
            (fun other hother => hplays other (List.mem_cons_of_mem _ hother))
            (fun other hother => hplays' other (List.mem_cons_of_mem _ hother)) hrest
          rw [hentries]

end Stage

/-! ## Whole runs -/

namespace Session

/-- The course of a run that was set up: first the setup, then each scenario of the schedule with
its own outcome, and at last the teardown. -/
structure Course (settings : Settings) (context : RunContext) (events : List Event)
    (session : Session) (entries : List ScheduleEntry) : Prop where
  scenarios : entries.map (·.scenario) = schedule
  plays : ∀ entry ∈ entries,
    Stage.Plays ⟨settings, session⟩ entry.scenario entry.events entry.outcome
  parts : ∃ before down, events = before ++ (entries.flatMap (·.events) ++ down) ∧
    Succeeds (setup settings context) before session ∧ (session.teardown settings).Yields down ()

variable {settings : Settings} {context : RunContext} {events : List Event} {session : Session}
  {entries : List ScheduleEntry}

/-- What has happened settles the session and all outcomes. -/
theorem Course.unique {session' : Session} {entries' : List ScheduleEntry}
    (h : Course settings context events session entries)
    (h' : Course settings context events session' entries') :
    session = session' ∧ entries = entries' := by
  obtain ⟨hscenarios, hplays, before, down, rfl, hsetup, -⟩ := h
  obtain ⟨hscenarios', hplays', before', down', heq, hsetup', -⟩ := h'
  obtain ⟨rfl, hsession, hrest⟩ := Program.eq_of_yields_append hsetup hsetup' heq
  obtain rfl := Except.ok.inj hsession
  exact ⟨rfl, Stage.entries_unique (hscenarios.trans hscenarios'.symm) hplays hplays' hrest⟩

/-- A run that was set up has a course. -/
theorem course_of_succeeds_setup {before after : List Event}
    {result : Except RunError (Option RunReport)} (hpauses : context.PausesFit settings)
    (hsetup : Succeeds (setup settings context) before session)
    (h : (session.conclude settings).run.Yields after result) :
    ∃ entries, Course settings context (before ++ after) session entries ∧
      result = .ok (some ⟨entries.map ScheduleEntry.report⟩) := by
  obtain ⟨work, report?, down, rfl, rfl, hwork, hdown⟩ := finish_of_yields_conclude h
  obtain ⟨reports?, hreports, rfl⟩ := Program.yields_map_iff.mp hwork
  have hfits : session.context.PausesFit settings := by
    rw [context_of_succeeds_setup hsetup]
    exact hpauses
  have hbehaves : ∀ scenario ∈ schedule, scenario.Behaves ⟨settings, session⟩ :=
    Stage.behaves_of_mem_schedule (s := ⟨settings, session⟩) hfits
  obtain ⟨entries, hscenarios, rfl, rfl, hplays⟩ :=
    Stage.entries_of_yields_playEach hbehaves hreports
  exact ⟨entries, ⟨hscenarios, hplays, before, down, rfl, hsetup, hdown⟩, rfl⟩

end Session

/-- A run fails with its setup, or has a course and a report of it. -/
theorem course_of_yields_runSession {settings : Settings} {context : RunContext}
    {events : List Event} {result : Except RunError (Option RunReport)}
    (hpauses : context.PausesFit settings)
    (h : (runSession settings context).run.Yields events result) :
    (∃ e, Fails (Session.setup settings context) events e ∧ result = .error e) ∨
      ∃ session entries, Session.Course settings context events session entries ∧
        result = .ok (some ⟨entries.map ScheduleEntry.report⟩) := by
  rw [runSession_eq] at h
  rcases yields_run_bind_iff.mp h with hfails | ⟨before, session, after, rfl, hsetup, hconclude⟩
  · exact .inl hfails
  · obtain ⟨entries, hcourse, rfl⟩ := Session.course_of_succeeds_setup hpauses hsetup hconclude
    exact .inr ⟨session, entries, hcourse, rfl⟩

end TtpConformance
