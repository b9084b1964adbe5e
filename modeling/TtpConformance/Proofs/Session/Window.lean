import TtpConformance.Proofs.Scenario.Conduct

/-!
# The lock window

A run falls into four parts.  First it only looks at the nodes; then it takes its
locks; then it works, and everything that changes a node is in this part; at last it
gives the locks back, and nothing comes after that.  The third part is the lock window.
It is empty unless the locks of all nodes of the run are held.

A run that was set up plays all its scenarios and is taken down, whatever comes of
them: the window ends with unloading the modules, the local one first.

## Main definitions

* `LockWindow` — the four parts of a trace.
* `Session.TakenDown` — how the trace of a run that was set up ends.

## Main statements

* `Session.finish_of_yields_conclude` — what follows a setup.
* `runSession_balanced` — a run gives back what it takes.
* `Pool.exclusive_of_runSession` — whole runs exclude each other.
* `runSession_window` — the trace of a run, and the directory that it leaves.
-/

namespace TtpConformance

/-- The parts of a trace before, at, under and after the locks. -/
structure LockWindow (context : RunContext) (quiet locking window releases : List Event) :
    Prop where
  /-- Before the locks, nothing is changed. -/
  queries : ∀ event ∈ quiet, event.1.IsQuery
  /-- At the locks, they are taken and nothing else is done. -/
  acquires : ∀ event ∈ locking, ∃ owner, event.1 = .acquire owner
  /-- Under the locks, none is taken or given back. -/
  lock_free : ∀ event ∈ window, event.1.lockFree
  /-- At the end each lock that is held is given back once, newest first. -/
  gives_back : releases.map Sigma.fst = (Trace.held locking).map .release
  /-- Nothing is done under the locks unless those of all nodes of the run are held. -/
  all_held : window ≠ [] → ∃ first identities, first <+: quiet ∧
    Succeeds (Identities.resolve context) first identities ∧
    (Trace.held locking).map (·.owner) =
      (identities.peer.map (·.hostname)).toList ++ [identities.self.hostname]

/-- The last parts of the trace of a run that was set up: the window ends with the
unloading, unless the modules are to stay, and then both locks are given back. -/
structure Session.TakenDown (settings : Settings) (session : Session)
    (earlier window releases : List Event) : Prop where
  owners : session.locks.owners =
    session.identities.self.hostname :: (session.identities.peer.map (·.hostname)).toList
  unloads : ∃ work unloads, window = work ++ unloads ∧ Trace.unloaded (earlier ++ work) = [] ∧
    unloads.map Sigma.fst =
      if session.context.skip.unload then []
      else (.self :: session.identities.peerHost.toList).map (.unload settings)
  gives_back : releases.map Sigma.fst = session.locks.locks.reverse.map .release

variable {settings : Settings} {context : RunContext}

/-- What is left of a run after its setup. -/
def Session.conclude (settings : Settings) (session : Session) : Step (Option RunReport) := do
  match ← ExceptT.lift (session.runScenarios settings) with
  | none =>
    ExceptT.lift session.drop
    return none
  | some report =>
    ExceptT.lift (session.teardown settings)
    return some report

theorem runSession_eq (settings : Settings) (context : RunContext) :
    runSession settings context = Session.setup settings context >>= Session.conclude settings :=
  rfl

/-- How a session ends: it is taken down if there is a report, and given up otherwise. -/
def Session.finish (settings : Settings) (session : Session) : Option RunReport → Program Unit
  | none => session.drop
  | some _ => session.teardown settings

/-- A session never fails: its scenarios are played, and it ends with or without a report. -/
theorem Session.finish_of_yields_conclude {session : Session} {events : List Event}
    {result : Except RunError (Option RunReport)}
    (h : (session.conclude settings).run.Yields events result) :
    ∃ work report? down, events = work ++ down ∧ result = .ok report? ∧
      (session.runScenarios settings).Yields work report? ∧
      (session.finish settings report?).Yields down () := by
  rw [conclude, ExceptT.run_bind_lift] at h
  obtain ⟨work, report?, rest, rfl, hwork, h⟩ := Program.yields_bind_iff.mp h
  refine ⟨work, report?, rest, rfl, ?_⟩
  cases report? with
  | none =>
      rw [ExceptT.run_bind_lift] at h
      obtain ⟨down, _, _, rfl, hdrop, rfl, rfl⟩ := Program.yields_bind_iff.mp h
      rw [List.append_nil]
      exact ⟨rfl, hwork, hdrop⟩
  | some report =>
      rw [ExceptT.run_bind_lift] at h
      obtain ⟨down, _, _, rfl, hteardown, rfl, rfl⟩ := Program.yields_bind_iff.mp h
      rw [List.append_nil]
      exact ⟨rfl, hwork, hteardown⟩

/-! ## Balance -/

/-- Playing the scenarios of a session is work. -/
theorem Session.ensures_runScenarios {session : Session}
    (hpauses : session.context.PausesFit settings) :
    (session.runScenarios settings).Ensures Request.IsWork fun report? => report?.isSome :=
  (Stage.ensures_playAll (s := ⟨settings, session⟩)).mono
    (fun _ ⟨_, _, _, hr⟩ => hr.isWork) fun _ h => h hpauses

theorem Session.teardown_balanced (session : Session) :
    (session.teardown settings).Balanced (fun _ after => after = [])
      session.locks.locks.reverse := by
  have hself := lockFree_unload settings .self
  have hpeer := lockFree_unloadPeer settings session.identities
  have hlocks := session.locks.release_balanced []
  rw [List.append_nil] at hlocks
  unfold Session.teardown
  cases session.context.skip.unload
  · exact (hself.bind fun _ _ => hpeer).balanced.bind fun _ _ h => h.2 ▸ hlocks
  · exact hlocks

/-- A whole run gives back every lock that it takes. -/
theorem runSession_balanced (hpauses : context.PausesFit settings) :
    (runSession settings context).run.Balanced (fun _ held => held = []) [] := by
  rw [runSession_eq, ExceptT.run_bind]
  apply Session.setup_balanced.bind
  intro result held hheld
  cases result with
  | error e => exact hheld
  | ok session =>
      obtain ⟨hcontext, rfl⟩ := hheld
      have hwork := (Session.ensures_runScenarios (hcontext ▸ hpauses)).mono
        (fun _ h => Request.IsWork.lockFree h) fun _ h => h
      dsimp only
      rw [Session.conclude, ExceptT.run_bind_lift]
      apply hwork.balanced.bind
      intro report? after hafter
      obtain ⟨report, rfl⟩ := Option.isSome_iff_exists.mp hafter.1
      rw [hafter.2, ExceptT.run_bind_lift]
      exact session.teardown_balanced.bind fun _ _ h => h

/-- Whole runs exclude each other, however their steps are mixed and whatever their
commands are answered, and they leave no lock file behind. -/
theorem Pool.exclusive_of_runSession {ι : Type} [DecidableEq ι] (contexts : ι → RunContext)
    (hpauses : ∀ i, (contexts i).PausesFit settings) (d : LockDirectory)
    {s : Pool ι (Except RunError (Option RunReport))}
    (hreach : Reachable (initial d fun i => (runSession settings (contexts i)).run) s) :
    (∀ i j owner, s.Holds i owner → s.Holds j owner → i = j) ∧
      (∀ i, ((s.runs i).held.map (·.owner)).Nodup) ∧
      (∀ owner, LockDirectory.lockName owner ∈ s.directory.names ↔
        LockDirectory.lockName owner ∈ d.names ∨ ∃! i, s.Holds i owner) ∧
      (s.Finished → s.directory = d) :=
  exclusive_of_balanced (fun i => runSession_balanced (hpauses i)) hreach

/-! ## The window -/

section Windows

variable {first second locking window releases : List Event} {identities : Identities}
  {locks : HeldLocks}

/-- The window under locks that are held. -/
theorem LockWindow.of_take (hresolve : Succeeds (Identities.resolve context) first identities)
    (hquiet : ∀ event ∈ first ++ second, event.1.IsQuery)
    (htake : Succeeds (HeldLocks.take identities.self.hostname
      (identities.peer.map (·.hostname))) locking locks)
    (howner : ∀ owner lock, (⟨.acquire owner, .ok lock⟩ : Event) ∈ locking →
      lock.owner = owner)
    (hwindow : ∀ event ∈ window, event.1.lockFree)
    (hreleases : releases.map Sigma.fst = (Trace.held locking).map .release) :
    LockWindow context (first ++ second) locking window releases where
  queries := hquiet
  acquires := (HeldLocks.account_of_yields_take htake).1
  lock_free := hwindow
  gives_back := hreleases
  all_held _ := by
    refine ⟨first, identities, List.prefix_append first second, hresolve, ?_⟩
    have howners : locks.locks.map (·.owner) = _ := HeldLocks.owners_of_take htake howner
    rw [(HeldLocks.account_of_yields_take htake).2.2.2 locks rfl, List.map_reverse, howners,
      List.reverse_cons]
    cases identities.peer <;> rfl

/-- Where nothing is done under the locks, which of them are held does not matter. -/
theorem LockWindow.of_empty (hquiet : ∀ event ∈ first, event.1.IsQuery)
    (hlocking : ∀ event ∈ locking, ∃ owner, event.1 = .acquire owner)
    (hreleases : releases.map Sigma.fst = (Trace.held locking).map .release) :
    LockWindow context first locking [] releases where
  queries := hquiet
  acquires := hlocking
  lock_free := by simp
  gives_back := hreleases
  all_held h := absurd rfl h

end Windows

/-- A setup that has failed has a window too: what was loaded is unloaded in it. -/
theorem Session.lockWindow_of_fails {events : List Event} {e : RunError}
    (h : Fails (setup settings context) events e)
    (howner : ∀ owner lock, (⟨.acquire owner, .ok lock⟩ : Event) ∈ events →
      lock.owner = owner) :
    ∃ quiet locking window releases, events = quiet ++ locking ++ window ++ releases ∧
      LockWindow context quiet locking window releases := by
  obtain ⟨before, undo, releases, rfl, hundone⟩ := undone_of_fails h
  have hunloads := Module.lockFree_of_unloads hundone.unloads
  have hgives := hundone.gives_back
  have hnone : Trace.loaded before = [] → undo = [] := by
    intro hloaded
    have hundo := hundone.unloads
    rw [hloaded] at hundo
    exact List.map_eq_nil_iff.mp hundo
  cases progress_of_yields_attempt hundone.failed with
  | checking hquiet =>
      have hwork := Trace.isWork_of_isQuery hquiet
      rw [Trace.held_eq_nil (Trace.lockFree_of_isWork hwork)] at hgives
      obtain rfl := hnone (Trace.loaded_eq_nil hwork)
      exact ⟨before, [], [], releases, by simp, .of_empty hquiet (by simp) hgives⟩
  | @locking quiet locking _ _ _ hquiet hlocking =>
      have hwork := Trace.isWork_of_isQuery hquiet
      obtain ⟨hacquires, hloaded, -⟩ := HeldLocks.account_of_yields_take hlocking
      rw [Trace.held_append_of_lockFree (Trace.lockFree_of_isWork hwork)] at hgives
      rw [Trace.loaded_append, Trace.loaded_eq_nil hwork, hloaded] at hnone
      obtain rfl := hnone rfl
      exact ⟨quiet, locking, [], releases, by simp, .of_empty hquiet hacquires hgives⟩
  | @holding first second locking window _ _ _ _ hresolve hquiet htake hwindow _ _ =>
      have hbefore := Trace.lockFree_of_isWork (Trace.isWork_of_isQuery hquiet)
      have hforward : ∀ event ∈ window, event.1.lockFree := fun event hevent =>
        (hwindow.forward event hevent).lockFree
      rw [Trace.held_append_lockFree hforward, Trace.held_append_of_lockFree hbefore] at hgives
      refine ⟨first ++ second, locking, window ++ undo, releases, by simp, ?_⟩
      refine .of_take hresolve hquiet htake (fun owner lock hmem => howner owner lock ?_)
        (fun event hevent => ?_) hgives
      · simp [hmem]
      · exact (List.mem_append.mp hevent).elim (hforward event) (hunloads event)

/-- A session plays all its scenarios and is taken down. -/
theorem Session.parts_of_yields_conclude {session : Session} {rest : List Event}
    {result : Except RunError (Option RunReport)}
    (hpauses : session.context.PausesFit settings)
    (h : (session.conclude settings).run.Yields rest result) :
    (∃ report, result = .ok (some report)) ∧
      ∃ work unloads releases, rest = work ++ unloads ++ releases ∧
        (∀ event ∈ work, event.1.IsWork) ∧
        unloads.map Sigma.fst =
          (if session.context.skip.unload then []
            else (.self :: session.identities.peerHost.toList).map (.unload settings)) ∧
        releases.map Sigma.fst = session.locks.locks.reverse.map .release := by
  obtain ⟨work, report?, down, rfl, rfl, hwork, hteardown⟩ := finish_of_yields_conclude h
  obtain ⟨hevents, hsome⟩ := (ensures_runScenarios hpauses).of_yields hwork
  obtain ⟨report, rfl⟩ := Option.isSome_iff_exists.mp hsome
  obtain ⟨unloads, releases, rfl, hunloads, hreleases⟩ :=
    List.map_eq_append_iff.mp ((recites_teardown settings session _ _).mp hteardown)
  exact ⟨⟨report, rfl⟩, work, unloads, releases, by simp, hevents, hunloads, hreleases⟩

/-- A run that was set up has a window that ends with taking the run down. -/
theorem Session.lockWindow_of_succeeds {events rest : List Event} {session : Session}
    {result : Except RunError (Option RunReport)} (hpauses : context.PausesFit settings)
    (h : Succeeds (setup settings context) events session)
    (howner : ∀ owner lock, (⟨.acquire owner, .ok lock⟩ : Event) ∈ events →
      lock.owner = owner)
    (hrest : (session.conclude settings).run.Yields rest result) :
    (∃ report, result = .ok (some report)) ∧
      ∃ quiet locking window releases, events ++ rest = quiet ++ locking ++ window ++ releases ∧
        LockWindow context quiet locking window releases ∧
        session.context = context ∧
        TakenDown settings session (quiet ++ locking) window releases := by
  obtain ⟨before, after, rfl, hattempt, hafter⟩ := (setup_takesBack _ _).mp h
  obtain rfl := List.map_eq_nil_iff.mp hafter
  rw [List.append_nil] at howner ⊢
  cases progress_of_yields_attempt hattempt with
  | @holding first second locking window _ locks _ _ hresolve hquiet htake hwindow _ hsession =>
      obtain ⟨hcontext, rfl, rfl⟩ := hsession session rfl
      obtain ⟨hresult, work, unloads, releases, rfl, hwork, hunloads, hreleases⟩ :=
        parts_of_yields_conclude (hcontext ▸ hpauses) hrest
      have hlocking : ∀ owner lock, (⟨.acquire owner, .ok lock⟩ : Event) ∈ locking →
          lock.owner = owner := fun owner lock hmem => howner owner lock (by simp [hmem])
      obtain ⟨-, -, hnothing, hheld⟩ := HeldLocks.account_of_yields_take htake
      have hdown : TakenDown settings session (first ++ second ++ locking)
          (window ++ work ++ unloads) releases := by
        refine ⟨HeldLocks.owners_of_take htake hlocking, ?_, hreleases⟩
        refine ⟨window ++ work, unloads, rfl, ?_, hunloads⟩
        have hquiets := Trace.unloaded_eq_nil (Trace.isWork_of_isQuery hquiet)
        rw [Trace.unloaded_append, Trace.unloaded_append _ locking, hquiets, hnothing,
          Trace.unloaded_append, hwindow.unloaded_eq_nil, Trace.unloaded_eq_nil hwork]
        rfl
      have hunloadsFree : ∀ event ∈ unloads, event.1.lockFree := by
        split at hunloads
        · simp [List.map_eq_nil_iff.mp hunloads]
        · exact Module.lockFree_of_unloads hunloads
      have hgives : releases.map Sigma.fst = (Trace.held locking).map .release := by
        rw [hheld session.locks rfl]
        exact hreleases
      refine ⟨hresult, first ++ second, locking, window ++ work ++ unloads, releases, by simp,
        .of_take hresolve hquiet htake hlocking (fun event hevent => ?_) hgives, hcontext, hdown⟩
      rcases List.mem_append.mp hevent with hevent | hunload
      · rcases List.mem_append.mp hevent with hup | hplay
        · exact (hwindow.forward event hup).lockFree
        · exact (hwork event hplay).lockFree
      · exact hunloadsFree event hunload

/--
The lock window of a run, among any surroundings and from any lock directory.  Whatever
changes a node happens after all locks of the run are taken and before the first one is
given back.  The run ends well exactly if it was set up; then it ends with unloading
the local module and that of the peer, each for the only time, or without unloading any
if the modules are to stay, however its scenarios and the unloading turn out.  After that
the locks are given back, that of the peer first, and nothing follows.  The directory is
as it was.
-/
theorem runSession_window (settings : Settings) (context : RunContext)
    (hpauses : context.PausesFit settings) (x : Surroundings) (d : LockDirectory) :
    let setup := x.run (Session.setup settings context).run d
    let outcome := x.run (runSession settings context).run d
    outcome.directory = d ∧
      (∀ e, setup.result = .error e → outcome.result = .error e) ∧
      (∀ session, setup.result = .ok session → ∃ report, outcome.result = .ok (some report)) ∧
      ∃ quiet locking window releases, outcome.trace = quiet ++ locking ++ window ++ releases ∧
        LockWindow context quiet locking window releases ∧
        ∀ session, setup.result = .ok session →
          session.context = context ∧
            session.TakenDown settings (quiet ++ locking) window releases := by
  intro setup outcome
  have hdirectory : outcome.directory = d :=
    x.directory_run (runSession_balanced hpauses) d fun _ hheld => hheld
  have hyields := x.run_yields (Session.setup settings context).run d
  have howner : ∀ owner lock, (⟨.acquire owner, .ok lock⟩ : Event) ∈ setup.trace →
      lock.owner = owner := fun owner lock => x.owner_of_mem_trace _ d
  rcases x.run_bind_cases (Session.setup settings context) (Session.conclude settings) d with
    ⟨e, hsetup, hresult, htrace⟩ | ⟨session, rest, hsetup, htrace, hrest⟩
  · rw [hsetup] at hyields
    obtain ⟨quiet, locking, window, releases, hparts, hwindow⟩ :=
      Session.lockWindow_of_fails hyields howner
    refine ⟨hdirectory, fun e' he' => ?_, fun session hok => ?_, quiet, locking, window,
      releases, htrace.trans hparts, hwindow, fun session hok => ?_⟩
    · cases hsetup.symm.trans he'
      exact hresult
    · cases hsetup.symm.trans hok
    · cases hsetup.symm.trans hok
  · rw [hsetup] at hyields
    obtain ⟨hresult, quiet, locking, window, releases, hparts, hwindow, hdown⟩ :=
      Session.lockWindow_of_succeeds hpauses hyields howner hrest
    refine ⟨hdirectory, fun e he => ?_, fun _ _ => hresult, quiet, locking, window, releases,
      htrace.trans hparts, hwindow, fun session' hok => ?_⟩
    · cases hsetup.symm.trans he
    · cases hsetup.symm.trans hok
      exact hdown

/-- A run whose scenarios can be played, while no module can be unloaded. -/
theorem runSession_window_stuck_modules :
    let x := Surroundings.showing { stdout := "5" }
    let d : LockDirectory := { path := "/locks", names := ["README"] }
    let outcome := x.run (runSession {} .toFourthNode).run d
    RunContext.toFourthNode.PausesFit {} ∧ outcome.directory = d ∧
      (∃ report, outcome.result = .ok (some report)) ∧
      ∃ session quiet locking window releases,
        outcome.trace = quiet ++ locking ++ window ++ releases ∧
        LockWindow .toFourthNode quiet locking window releases ∧
        Session.TakenDown {} session (quiet ++ locking) window releases := by
  intro x d outcome
  have hpauses : RunContext.toFourthNode.PausesFit {} := ⟨rfl, rfl⟩
  obtain ⟨hdirectory, -, hresult, quiet, locking, window, releases, htrace, hwindow, hdown⟩ :=
    runSession_window {} .toFourthNode hpauses x d
  have hsetup : (x.run (Session.setup {} .toFourthNode).run d).result.isOk := by decide +kernel
  cases hsession : (x.run (Session.setup {} .toFourthNode).run d).result with
  | error e =>
      rw [hsession] at hsetup
      cases hsetup
  | ok session =>
      exact ⟨hpauses, hdirectory, hresult session hsession, session, quiet, locking, window,
        releases, htrace, hwindow, (hdown session hsession).2⟩

end TtpConformance
