import TtpConformance.Lab.Basic
import TtpConformance.Proofs.Session.Window

/-!
# What an error tells of a run

A run only fails while it is set up, and the class of its error tells how far it has come.
A bad configuration is found before any lock is asked for.  A lock that is held by another
run stops it before anything is changed.  A module that cannot be loaded and a wait that
ends without success come after all locks of the run were taken, and these are given back.

Whether a lock that is given back is gone is up to its provider: the run does not listen to
the reply.  So the files of the locks are followed along the trace, and they are as before
unless one of them could not be removed.

## Main definitions

* `RunError.OfCheck`, `RunError.OfLock` — the errors of the checks and of the locks.
* `Event.LockAnswered` — how a provider of locks may answer.
* `Trace.lockFiles` — the files of the locks after a trace.
* `Session.Stopped` — where setting up has stopped.

## Main statements

* `Session.stopped_of_fails_attempt` — it stops in one of three phases.
* `Session.Undone.lockFiles` — the files of the locks after a setup that has failed.
* `runSession_phase` — the error tells the phase.
-/

namespace TtpConformance

/-! ## Errors by phase -/

/-- The errors that the checks before the locks can lead to. -/
def RunError.OfCheck (e : RunError) : Prop :=
  e.OfCommand ∨ e.isConfiguration = true

/-- The errors that taking a lock can lead to: it is held, or its file cannot be made. -/
def RunError.OfLock : RunError → Prop
  | .resourceBusy _ | .io _ => True
  | _ => False

namespace RunError

variable {e : RunError}

theorem OfCheck.not_later (h : e.OfCheck) :
    e.isResourceBusy = false ∧ e.isModuleLoad = false ∧ e.isTimeout = false := by
  cases e <;> simp_all [OfCheck, OfCommand, isConfiguration, isResourceBusy, isModuleLoad,
    isTimeout]

theorem OfLock.not_other (h : e.OfLock) :
    e.isConfiguration = false ∧ e.isModuleLoad = false ∧ e.isTimeout = false := by
  cases e <;> first | exact h.elim | exact ⟨rfl, rfl, rfl⟩

theorem OfBringUp.not_earlier (h : e.OfBringUp) :
    e.isConfiguration = false ∧ e.isResourceBusy = false := by
  cases e <;> simp_all [OfBringUp, OfCommand, isConfiguration, isResourceBusy, isModuleLoad,
    isTimeout]

end RunError

/-! ## The files of the locks -/

/-- A provider of locks fails because the lock is held or because of the file system, and
a lock that it gives is that of the node that was asked for. -/
def Event.LockAnswered : Event → Prop
  | ⟨.acquire owner, .ok lock⟩ => lock.owner = owner
  | ⟨.acquire _, .error e⟩ => e.OfLock
  | _ => True

/-- The name of a lock's file. -/
def Lock.fileName (lock : Lock) : String := LockDirectory.lockName lock.owner

/-- The files of the locks after an event: taking a lock makes its file, and giving it back
removes it, if that is what was answered. -/
def Event.lockFiles : Event → List String → List String
  | ⟨.acquire owner, .ok _⟩, names => LockDirectory.lockName owner :: names
  | ⟨.release lock, .ok ()⟩, names => names.erase lock.fileName
  | _, names => names

namespace Trace

/-- The files of the locks after a trace. -/
def lockFiles (events : List Event) (names : List String) : List String :=
  events.foldl (fun names event => event.lockFiles names) names

variable {events events' : List Event} {names : List String}

theorem lockFiles_append :
    lockFiles (events ++ events') names = lockFiles events' (lockFiles events names) :=
  List.foldl_append

/-- While no lock is given back, the files of the locks that are held are added. -/
theorem lockFiles_of_no_release (h : ∀ event ∈ events, ∀ lock, event.1 ≠ .release lock)
    (hanswered : ∀ event ∈ events, event.LockAnswered) (held : List Lock) :
    lockFiles events (held.map Lock.fileName ++ names) =
      (events.foldl (fun held event => event.book held) held).map Lock.fileName ++ names := by
  induction events generalizing held with
  | nil => rfl
  | cons event events ih =>
      have hrest := ih (fun other hother => h other (List.mem_cons_of_mem _ hother))
        fun other hother => hanswered other (List.mem_cons_of_mem _ hother)
      have hfirst := hanswered event List.mem_cons_self
      have hrelease := h event List.mem_cons_self
      obtain ⟨r, reply⟩ := event
      cases r with
      | command | together | pause => exact hrest held
      | release lock => exact absurd rfl (hrelease lock)
      | acquire owner =>
          cases reply with
          | error e => exact hrest held
          | ok lock =>
              obtain rfl : lock.owner = owner := hfirst
              exact hrest (lock :: held)

/-- Giving locks back removes their files, unless one of them is stuck. -/
theorem lockFiles_of_releases {locks : List Lock}
    (h : events.map Sigma.fst = locks.map .release)
    (hstuck : ∀ event ∈ events, event.isStuck = false) :
    lockFiles events (locks.map Lock.fileName ++ names) = names := by
  induction locks generalizing events with
  | nil =>
      obtain rfl := List.map_eq_nil_iff.mp h
      rfl
  | cons lock locks ih =>
      obtain ⟨⟨r, reply⟩, rest, rfl, rfl, hrest⟩ := List.map_eq_cons_iff.mp h
      have hfirst := hstuck _ List.mem_cons_self
      have hlater := ih hrest fun event hevent => hstuck event (List.mem_cons_of_mem _ hevent)
      match reply, hfirst with
      | .error e, hfirst => cases hfirst
      | .ok (), _ =>
          show lockFiles rest ((lock.fileName :: (locks.map Lock.fileName ++ names)).erase
            lock.fileName) = names
          rw [List.erase_cons_head]
          exact hlater

end Trace

section Directories

variable {d d' : LockDirectory} {event : Event}

/-- A lock directory is such a provider. -/
theorem LockDirectory.Answers.lockAnswered (h : d.Answers event.1 event.2 d') :
    event.LockAnswered := by
  obtain ⟨r, reply⟩ := event
  cases r with
  | command | together | pause | release => trivial
  | acquire owner =>
      have hacquire : d.acquire owner = (reply, d') := h
      unfold acquire at hacquire
      dsimp only at hacquire
      split at hacquire <;> cases hacquire
      · rfl
      · trivial
      · trivial

/-- The files of the locks are those in the directory. -/
theorem LockDirectory.Answers.lockFiles (h : d.Answers event.1 event.2 d') :
    d'.names = event.lockFiles d.names := by
  obtain ⟨r, reply⟩ := event
  cases r with
  | command | together | pause =>
      obtain rfl : d' = d := h
      rfl
  | acquire owner =>
      rcases acquire_cases h with ⟨-, -, rfl, rfl⟩ | ⟨⟨e, rfl⟩, rfl⟩ <;> rfl
  | release lock =>
      rcases release_cases h with ⟨rfl, rfl⟩ | ⟨⟨e, rfl⟩, rfl⟩ <;> rfl

/-- The names in the directory that a run leaves are the files of the locks after its
trace. -/
theorem Surroundings.names_runIn {α : Type} (x : Surroundings) (p : Program α)
    (d : LockDirectory) (past : List Event) :
    ∃ events, (p.runIn x.world (d, past)).2.2 = events.reverse ++ past ∧
      (p.runIn x.world (d, past)).2.1.names = Trace.lockFiles events d.names ∧
      ∀ event ∈ events, event.LockAnswered := by
  induction p generalizing d past with
  | done a => exact ⟨[], rfl, rfl, by simp⟩
  | ask r k ih =>
      have hfiles : (x.answer d past r).2.names =
          Event.lockFiles ⟨r, (x.answer d past r).1⟩ d.names :=
        LockDirectory.Answers.lockFiles (x.answers_answer d past r)
      have hfirst : Event.LockAnswered ⟨r, (x.answer d past r).1⟩ :=
        LockDirectory.Answers.lockAnswered (x.answers_answer d past r)
      obtain ⟨events, hpast, hnames, hanswered⟩ :=
        ih (x.answer d past r).1 (x.answer d past r).2 (⟨r, (x.answer d past r).1⟩ :: past)
      refine ⟨⟨r, (x.answer d past r).1⟩ :: events, ?_, ?_, ?_⟩
      · rw [Program.runIn_ask, List.reverse_cons, List.append_assoc]
        exact hpast
      · rw [Program.runIn_ask]
        refine hnames.trans ?_
        rw [hfiles]
        rfl
      · exact List.forall_mem_cons.mpr ⟨hfirst, hanswered⟩

theorem Surroundings.names_run {α : Type} (x : Surroundings) (p : Program α)
    (d : LockDirectory) :
    (x.run p d).directory.names = Trace.lockFiles (x.run p d).trace d.names ∧
      ∀ event ∈ (x.run p d).trace, event.LockAnswered := by
  obtain ⟨events, hpast, hnames, hanswered⟩ := x.names_runIn p d []
  rw [x.trace_run hpast]
  exact ⟨hnames, hanswered⟩

end Directories

/-! ## Where setting up stops -/

section Stopping

variable {settings : Settings} {context : RunContext} {events : List Event} {e : RunError}

variable (settings context) in
/-- Where the plain way of setting up has stopped, and for what kind of cause. -/
inductive Session.Stopped : List Event → RunError → Prop where
  /-- It has stopped before any lock was asked for. -/
  | checking {quiet : List Event} {e : RunError}
      (hquiet : ∀ event ∈ quiet, event.1.IsQuery) (hcause : e.OfCheck) : Stopped quiet e
  /-- It has stopped at the locks. -/
  | locking {quiet locking : List Event} {self : String} {peer : Option String} {e : RunError}
      (hquiet : ∀ event ∈ quiet, event.1.IsQuery)
      (hlocking : Fails (HeldLocks.take self peer) locking e) :
      Stopped (quiet ++ locking) e
  /-- It has stopped under the locks of all nodes. -/
  | bringingUp {first second locking window : List Event} {identities : Identities}
      {locks : HeldLocks} {e : RunError}
      (hresolve : Succeeds (Identities.resolve context) first identities)
      (hquiet : ∀ event ∈ first ++ second, event.1.IsQuery)
      (hlocking : Succeeds (HeldLocks.take identities.self.hostname
        (identities.peer.map (·.hostname))) locking locks)
      (hwindow : Fails (bringUpPlain settings context identities) window e) :
      Stopped (first ++ second ++ locking ++ window) e

theorem Session.ofCheck_of_fails_resolve (h : Fails (Identities.resolve context) events e) :
    e.OfCheck :=
  ((Identities.conforms_resolve (P := fun _ => True) (fun _ _ _ => trivial) (fun _ => .inl)
    (fun _ => .inr) context).of_yields h).2 e rfl

theorem Session.ofCheck_of_fails_preflight {identities : Identities}
    (h : Fails (preflight settings context identities) events e) : e.OfCheck :=
  ((conforms_preflight (P := fun _ => True) (fun _ => .inl) (fun _ => .inr) context identities
    (fun _ _ _ => trivial) (fun _ _ _ _ _ => trivial)).of_yields h).2 e rfl

theorem ofBringUp_of_fails_bringUpPlain {identities : Identities}
    (h : Fails (bringUpPlain settings context identities) events e) : e.OfBringUp := by
  obtain ⟨loaded, hloads⟩ := yields_bringUpPlain_iff.mp h
  exact ((obeys_bringUp identities {}).of_yields hloads).2 e rfl

/-- Only the provider makes taking locks fail. -/
theorem HeldLocks.ofLock_of_fails_take {self : String} {peer : Option String}
    (h : Fails (take self peer) events e) (hanswered : ∀ event ∈ events, event.LockAnswered) :
    e.OfLock := by
  cases yields_take_iff.mp h with
  | selfBusy => exact hanswered _ List.mem_cons_self
  | peerBusy => exact hanswered _ (List.mem_cons_of_mem _ List.mem_cons_self)

/-- Setting up stops in one of three phases. -/
theorem Session.stopped_of_fails_attempt (h : Fails (attempt settings context) events e) :
    Stopped settings context events e := by
  rcases fails_bind_iff.mp h with hfail | ⟨first, identities, _, rfl, hresolve, hchecks⟩
  · exact .checking (queries_resolve hfail) (ofCheck_of_fails_resolve hfail)
  have hfirst := queries_resolve hresolve
  rcases fails_bind_iff.mp hchecks with hfail | ⟨second, tools, _, rfl, hpreflight, hlocks⟩
  · refine .checking (fun event hevent => ?_) (ofCheck_of_fails_preflight hfail)
    exact (List.mem_append.mp hevent).elim (hfirst event) (queries_preflight hfail event)
  have hquiet : ∀ event ∈ first ++ second, event.1.IsQuery := fun event hevent =>
    (List.mem_append.mp hevent).elim (hfirst event) (queries_preflight hpreflight event)
  rw [← List.append_assoc]
  rcases fails_bind_iff.mp hlocks with hfail | ⟨third, locks, _, rfl, htake, hbringUp⟩
  · exact .locking hquiet hfail
  rw [← List.append_assoc]
  rcases fails_bind_iff.mp hbringUp with hfail | ⟨_, _, _, _, _, hdone⟩
  · exact .bringingUp hresolve hquiet htake hfail
  · exact (not_fails_pure hdone).elim

/-- Until setting up stops, no lock is given back. -/
theorem Session.Stopped.not_release (h : Stopped settings context events e) :
    ∀ event ∈ events, ∀ lock, event.1 ≠ .release lock := by
  have hqueries : ∀ {quiet : List Event}, (∀ event ∈ quiet, event.1.IsQuery) →
      ∀ event ∈ quiet, ∀ lock, event.1 ≠ .release lock := by
    intro quiet hquiet event hevent lock heq
    have hquery := hquiet event hevent
    rw [heq] at hquery
    exact hquery
  have htaking : ∀ {self peer locking result}, (HeldLocks.take self peer).run.Yields locking
      result → ∀ event ∈ locking, ∀ lock, event.1 ≠ .release lock := by
    intro self peer locking result hyields event hevent lock heq
    obtain ⟨owner, hacquire⟩ := (HeldLocks.account_of_yields_take hyields).1 event hevent
    cases heq.symm.trans hacquire
  cases h with
  | checking hquiet => exact hqueries hquiet
  | locking hquiet hlocking =>
      intro event hevent
      exact (List.mem_append.mp hevent).elim (hqueries hquiet event) (htaking hlocking event)
  | bringingUp hresolve hquiet hlocking hwindow =>
      obtain ⟨loaded, hloads⟩ := yields_bringUpPlain_iff.mp hwindow
      intro event hevent
      rcases List.mem_append.mp hevent with hevent | hevent
      · exact (List.mem_append.mp hevent).elim (hqueries hquiet event) (htaking hlocking event)
      · intro lock heq
        have hfree := ((loads_bringUp hloads).1.forward event hevent).lockFree
        rw [heq] at hfree
        exact hfree

/-- A session never fails. -/
theorem Session.not_fails_conclude {session : Session} :
    ¬ Fails (session.conclude settings) events e := by
  intro h
  obtain ⟨_, _, _, -, hok, -⟩ := finish_of_yields_conclude h
  cases hok

/-- A run fails only while it is set up. -/
theorem fails_setup_of_fails_runSession (h : Fails (runSession settings context) events e) :
    Fails (Session.setup settings context) events e := by
  rw [runSession_eq] at h
  rcases fails_bind_iff.mp h with hsetup | ⟨_, _, _, _, _, hconclude⟩
  · exact hsetup
  · exact (Session.not_fails_conclude hconclude).elim

/-! ## What is left behind -/

/-- A setup that has failed gives back what it holds, and nothing before that. -/
theorem Session.Undone.gives_back_last {before undo releases : List Event}
    (h : Undone settings context e before undo releases) :
    (∀ event ∈ before ++ undo, ∀ lock, event.1 ≠ .release lock) ∧
      releases.map Sigma.fst = (Trace.held (before ++ undo)).map .release := by
  have hfree := Module.lockFree_of_unloads h.unloads
  constructor
  · intro event hevent lock heq
    rcases List.mem_append.mp hevent with hevent | hevent
    · exact (stopped_of_fails_attempt h.failed).not_release event hevent lock heq
    · have hlockFree := hfree event hevent
      rw [heq] at hlockFree
      exact hlockFree
  · rw [Trace.held_append_lockFree hfree]
    exact h.gives_back

/-- The files of the locks are as before, unless one of them is stuck. -/
theorem Session.Undone.lockFiles {before undo releases : List Event}
    (h : Undone settings context e before undo releases)
    (hanswered : ∀ event ∈ before ++ undo ++ releases, event.LockAnswered)
    (hstuck : (before ++ undo ++ releases).any Event.isStuck = false) (names : List String) :
    Trace.lockFiles (before ++ undo ++ releases) names = names := by
  obtain ⟨hnone, hreleases⟩ := h.gives_back_last
  have hmade : Trace.lockFiles (before ++ undo) names =
      (Trace.held (before ++ undo)).map Lock.fileName ++ names :=
    Trace.lockFiles_of_no_release hnone
      (fun event hevent => hanswered event (List.mem_append_left _ hevent)) []
  rw [Trace.lockFiles_append, hmade]
  refine Trace.lockFiles_of_releases hreleases fun event hevent => ?_
  exact Bool.eq_false_iff.mpr (List.any_eq_false.mp hstuck event (List.mem_append_right _ hevent))

/-- If the checks have failed, the trace is theirs. -/
theorem Session.Undone.eq_nil_of_queries {before undo releases : List Event}
    (h : Undone settings context e before undo releases)
    (hquiet : ∀ event ∈ before, event.1.IsQuery) : undo = [] ∧ releases = [] := by
  have hwork := Trace.isWork_of_isQuery hquiet
  have hundo := h.unloads
  have hreleases := h.gives_back
  rw [Trace.loaded_eq_nil hwork] at hundo
  rw [Trace.held_eq_nil (Trace.lockFree_of_isWork hwork)] at hreleases
  exact ⟨List.map_eq_nil_iff.mp hundo, List.map_eq_nil_iff.mp hreleases⟩

/-- If a lock could not be had, nothing was changed. -/
theorem Session.Undone.changes_nothing {quiet locking undo releases : List Event}
    {self : String} {peer : Option String}
    (h : Undone settings context e (quiet ++ locking) undo releases)
    (hquiet : ∀ event ∈ quiet, event.1.IsQuery)
    (hlocking : Fails (HeldLocks.take self peer) locking e) :
    ∀ event ∈ quiet ++ locking ++ undo ++ releases,
      ∀ job ∈ event.1.jobs, job.2.changesState = false := by
  obtain ⟨hacquires, hloaded, -⟩ := HeldLocks.account_of_yields_take hlocking
  have hundo := h.unloads
  rw [Trace.loaded_append, Trace.loaded_eq_nil (Trace.isWork_of_isQuery hquiet), hloaded]
    at hundo
  obtain rfl := List.map_eq_nil_iff.mp hundo
  intro event hevent job hjob
  simp only [List.append_nil, List.mem_append] at hevent
  rcases hevent with (hevent | hevent) | hevent
  · exact (hquiet event hevent).changesState_of_jobs job hjob
  · obtain ⟨owner, heq⟩ := hacquires event hevent
    rw [heq] at hjob
    cases hjob
  · obtain ⟨lock, -, heq⟩ := List.mem_map.mp (Trace.request_mem_of_map_eq h.gives_back hevent)
    rw [← heq] at hjob
    cases hjob

end Stopping

/--
The error that a run ends with tells how far it has come.  If it is badly configured, it
has only looked at nodes, and has not asked for a lock.  If a lock is held by another run,
it has not changed anything.  If a module could not be loaded or a wait was in vain, all
its locks were taken before the step that failed, and after that it has unloaded what it
had loaded and given back each of them, once.  In any case all locks that it holds are given
back at the end, and if none of them is stuck, the files of the locks are as before.
-/
theorem runSession_phase (settings : Settings) (context : RunContext) {events : List Event}
    {e : RunError} (h : Fails (runSession settings context) events e)
    (hanswered : ∀ event ∈ events, event.LockAnswered) :
    (e.isConfiguration = true → ∀ event ∈ events, event.1.IsQuery) ∧
      (e.isResourceBusy = true →
        ∀ event ∈ events, ∀ job ∈ event.1.jobs, job.2.changesState = false) ∧
      (e.isModuleLoad = true ∨ e.isTimeout = true →
        ∃ first second locking window undo releases identities locks,
          events = first ++ second ++ locking ++ window ++ undo ++ releases ∧
          (∀ event ∈ first ++ second, event.1.IsQuery) ∧
          Succeeds (Identities.resolve context) first identities ∧
          Succeeds (HeldLocks.take identities.self.hostname
            (identities.peer.map (·.hostname))) locking locks ∧
          locks.owners =
            identities.self.hostname :: (identities.peer.map (·.hostname)).toList ∧
          Fails (bringUpPlain settings context identities) window e ∧
          undo.map Sigma.fst = (Trace.loaded window).map (.unload settings) ∧
          releases.map Sigma.fst = locks.locks.reverse.map .release) ∧
      (∃ before releases, events = before ++ releases ∧
        (∀ event ∈ before, ∀ lock, event.1 ≠ .release lock) ∧
        releases.map Sigma.fst = (Trace.held before).map .release) ∧
      (events.any Event.isStuck = false →
        ∀ names, Trace.lockFiles events names = names) := by
  obtain ⟨before, undo, releases, rfl, hundone⟩ :=
    Session.undone_of_fails (fails_setup_of_fails_runSession h)
  have hback := hundone.gives_back_last
  have hfiles := hundone.lockFiles hanswered
  suffices hphase : _ ∧ _ ∧ _ from
    ⟨hphase.1, hphase.2.1, hphase.2.2, ⟨before ++ undo, releases, rfl, hback⟩, hfiles⟩
  cases Session.stopped_of_fails_attempt hundone.failed with
  | checking hquiet hcause =>
      obtain ⟨rfl, rfl⟩ := hundone.eq_nil_of_queries hquiet
      obtain ⟨hbusy, hmodule, htimeout⟩ := hcause.not_later
      refine ⟨fun _ => by simpa using hquiet, ?_, ?_⟩
      · simp [hbusy]
      · simp [hmodule, htimeout]
  | locking hquiet hlocking =>
      have hlock := HeldLocks.ofLock_of_fails_take hlocking fun event hevent =>
        hanswered event (by simp [hevent])
      obtain ⟨hconfiguration, hmodule, htimeout⟩ := hlock.not_other
      refine ⟨?_, fun _ => hundone.changes_nothing hquiet hlocking, ?_⟩
      · simp [hconfiguration]
      · simp [hmodule, htimeout]
  | @bringingUp first second locking window identities locks _ hresolve hquiet hlocking hwindow =>
      obtain ⟨hconfiguration, hbusy⟩ := (ofBringUp_of_fails_bringUpPlain hwindow).not_earlier
      refine ⟨by simp [hconfiguration], by simp [hbusy], fun _ => ?_⟩
      have howners := HeldLocks.owners_of_take hlocking fun owner lock hmem =>
        hanswered ⟨.acquire owner, .ok lock⟩ (by simp [hmem])
      obtain ⟨-, hloaded, -, hheld⟩ := HeldLocks.account_of_yields_take hlocking
      have hwork := Trace.isWork_of_isQuery hquiet
      refine ⟨first, second, locking, window, undo, releases, identities, locks, rfl, hquiet,
        hresolve, hlocking, howners, hwindow, ?_, ?_⟩
      · rw [hundone.unloads, Trace.loaded_append, Trace.loaded_append,
          Trace.loaded_eq_nil hwork, hloaded]
        rfl
      · obtain ⟨loaded, hloads⟩ := yields_bringUpPlain_iff.mp hwindow
        have hfree : ∀ event ∈ window, event.1.lockFree := fun event hevent =>
          ((loads_bringUp hloads).1.forward event hevent).lockFree
        rw [hundone.gives_back, Trace.held_append_lockFree hfree,
          Trace.held_append_of_lockFree (Trace.lockFree_of_isWork hwork), hheld locks rfl]

/-- A run in which the peer's module cannot be loaded. -/
theorem runSession_phase_unloadable_peer :
    let x : Surroundings :=
      { Surroundings.showing { stdout := "5" } with
        execute := fun past host command =>
          match host, command with
          | .remote _, .loadModule .. => .ok { exitCode := 1 }
          | _, _ => (Surroundings.showing { stdout := "5" }).execute past host command }
    let d : LockDirectory := { path := "/locks", names := ["README"] }
    let outcome := x.run (runSession {} .toFourthNode).run d
    let e := RunError.moduleLoad "node-04" "insmod failed"
    outcome.result = .error e ∧
      (∀ names, Trace.lockFiles outcome.trace names = names) ∧
      ∃ before locking window undo releases identities locks,
        outcome.trace = before ++ locking ++ window ++ undo ++ releases ∧
        (∀ event ∈ before, event.1.IsQuery) ∧
        Succeeds (HeldLocks.take identities.self.hostname
          (identities.peer.map (·.hostname))) locking locks ∧
        Fails (bringUpPlain {} .toFourthNode identities) window e ∧
        releases.map Sigma.fst = locks.locks.reverse.map .release := by
  intro x d outcome e
  have hresult : outcome.result = .error e := by decide +kernel
  obtain ⟨-, hanswered⟩ := x.names_run (runSession {} .toFourthNode).run d
  obtain ⟨-, -, hmodule, -, hfiles⟩ :=
    runSession_phase {} .toFourthNode (x.run_fails hresult) hanswered
  obtain ⟨first, second, locking, window, undo, releases, identities, locks, htrace, hquiet, -,
    htake, -, hwindow, -, hreleases⟩ := hmodule (.inl rfl)
  exact ⟨hresult, hfiles (by decide +kernel), first ++ second, locking, window, undo, releases,
    identities, locks, htrace, hquiet, htake, hwindow, hreleases⟩

/-- The peer is held by another run, and the lock of the local node, which is given back
then, cannot be removed: the run is refused, and the lock of the local node is left behind. -/
theorem runSession_busy_stuck_lock :
    let lab : Lab :=
      { Lab.initial {} "node-04" with held := ["node-04"], stuck := ["node-01"] }
    let outcome := (runSession {} .toFourthNode).run.runIn Lab.world lab
    outcome.1 = .error (.resourceBusy "node-04 already locked") ∧
      (lab.release ⟨"node-01", "node-01"⟩).1 = .error (.io "stuck") ∧
      outcome.2.held = ["node-01", "node-04"] ∧ outcome.2.held ≠ lab.held := by
  intro lab outcome
  have hheld : outcome.2.held = ["node-01", "node-04"] := by decide +kernel
  exact ⟨by decide +kernel, rfl, hheld, by rw [hheld]; decide⟩

end TtpConformance
