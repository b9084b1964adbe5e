import TtpConformance.Proofs.Run.Surroundings
import TtpConformance.Proofs.Session.BringUp

/-!
# Setting up is all or nothing

The plain way of setting a run up is to go on until a step fails, and then to stop.
Setting up for real does the same and takes back what was done.  What that amounts to
is read off the trace of the plain way alone: the modules that were loaded are unloaded
and the locks that are held are given back, nothing else is done, and the error is the
one that the plain way has stopped with.

## Main definitions

* `undoing` — what takes back a trace.
* `Session.attempt` — the plain way.
* `Session.Progress` — how far the plain way has come.
* `Session.Undone` — the trace of a setup that has failed.

## Main statements

* `Session.setup_takesBack` — the two ways agree but for taking back.
* `Session.setup_atomic` — the trace of a setup that has failed, and the directory that
  it leaves.
-/

namespace TtpConformance

/-- What takes back a trace: unloading what it has loaded, and then giving back the
locks that it holds. -/
def undoing (settings : Settings) (events : List Event) : List Request :=
  (Trace.loaded events).map (.unload settings) ++ (Trace.held events).map .release

/-! ## The plain way -/

section Attempt

variable (settings : Settings) (context : RunContext)

/-- Bringing up, without its flags. -/
def bringUpPlain (identities : Identities) : Step BringUp :=
  ExceptT.mk (Prod.fst <$> (bringUp settings context identities).run.run {})

/-- Setting a run up until something fails, and taking nothing back. -/
def Session.attempt : Step Session := do
  let identities ← Identities.resolve context
  let tools ← preflight settings context identities
  let locks ← HeldLocks.take identities.self.hostname (identities.peer.map (·.hostname))
  let up ← bringUpPlain settings context identities
  return { context, identities, tools, locks, baseline := up.baseline
           peerBaseline := up.peerBaseline, gateway := up.gateway }

end Attempt

section Setup

variable {settings : Settings} {context : RunContext}

theorem yields_bringUpPlain_iff {identities : Identities} {events : List Event}
    {result : Except RunError BringUp} :
    (bringUpPlain settings context identities).run.Yields events result ↔
      ∃ loaded, Loads (bringUp settings context identities) {} events result loaded := by
  show Program.Yields (Prod.fst <$> _) events result ↔ _
  rw [Program.yields_map_iff]
  constructor
  · rintro ⟨⟨_, loaded⟩, h, rfl⟩
    exact ⟨loaded, h⟩
  · rintro ⟨loaded, h⟩
    exact ⟨(result, loaded), h, rfl⟩

/-- Bringing up under locks that are held, and taking back modules and locks. -/
theorem Session.establish_takesBack (identities : Identities) (tools : Tools)
    (locks : HeldLocks) :
    TakesBack (fun events => (Trace.loaded events).map (.unload settings) ++
        locks.locks.reverse.map .release)
      (ExceptT.mk (establish settings context identities tools locks)) (do
        let up ← bringUpPlain settings context identities
        return { context, identities, tools, locks, baseline := up.baseline
                 peerBaseline := up.peerBaseline, gateway := up.gateway }) := by
  intro events result
  show Program.Yields (_ >>= _) events result ↔ _
  rw [Program.yields_bind_iff]
  constructor
  · rintro ⟨before, ⟨_ | up, loaded⟩, after, rfl, hup, hrest⟩
    · obtain ⟨after, _, _, rfl, hback, rfl, rfl⟩ := Program.yields_bind_iff.mp hrest
      refine ⟨before, after, by rw [List.append_nil], ?_, ?_⟩
      · exact yields_run_bind_iff.mpr
          (.inl ⟨_, yields_bringUpPlain_iff.mpr ⟨loaded, hup⟩, rfl⟩)
      · rw [(recites_rollBack settings identities loaded locks _ _).mp hback,
          ← (loads_bringUp hup).1.loaded]
        rfl
    · obtain ⟨rfl, rfl⟩ := hrest
      refine ⟨before, [], rfl, yields_run_bind_iff.mpr (.inr ?_), rfl⟩
      exact ⟨before, up, [], (List.append_nil _).symm,
        yields_bringUpPlain_iff.mpr ⟨loaded, hup⟩, rfl, rfl⟩
  · rintro ⟨before, after, rfl, hattempt, hafter⟩
    rcases yields_run_bind_iff.mp hattempt with
      ⟨e, hup, rfl⟩ | ⟨first, up, _, rfl, hup, rfl, rfl⟩
    · obtain ⟨loaded, hup⟩ := yields_bringUpPlain_iff.mp hup
      have hback : after.map Sigma.fst = (loaded.hosts identities).map (.unload settings) ++
          locks.locks.reverse.map .release := by
        rw [← (loads_bringUp hup).1.loaded]
        exact hafter
      exact ⟨before, _, after, rfl, hup, Program.yields_bind_iff.mpr
        ⟨after, (), [], (List.append_nil _).symm,
          (recites_rollBack settings identities loaded locks _ _).mpr hback, rfl, rfl⟩⟩
    · obtain ⟨loaded, hup⟩ := yields_bringUpPlain_iff.mp hup
      obtain rfl := List.map_eq_nil_iff.mp hafter
      exact ⟨first, _, [], by simp, hup, rfl, rfl⟩

/-! ## Progress -/

/-- The hosts on which modules can have been loaded: the local one first. -/
def LoadOrder (hosts : List Host) : Prop :=
  hosts = [] ∨ hosts = [.self] ∨ ∃ peer, hosts = [.self, .remote peer]

/-- How far the plain way has come, with its trace and its result. -/
inductive Session.Progress (settings : Settings) (context : RunContext) :
    List Event → Except RunError Session → Prop where
  /-- It has stopped before any lock was asked for. -/
  | checking {quiet : List Event} {e : RunError}
      (hquiet : ∀ event ∈ quiet, event.1.IsQuery) :
      Progress settings context quiet (.error e)
  /-- It has stopped at the locks. -/
  | locking {quiet locking : List Event} {self : String} {peer : Option String} {e : RunError}
      (hquiet : ∀ event ∈ quiet, event.1.IsQuery)
      (hlocking : Fails (HeldLocks.take self peer) locking e) :
      Progress settings context (quiet ++ locking) (.error e)
  /-- It has stopped with the locks of both nodes held, or it has come through. -/
  | holding {first second locking window : List Event} {identities : Identities}
      {locks : HeldLocks} {hosts : List Host} {result : Except RunError Session}
      (hresolve : Succeeds (Identities.resolve context) first identities)
      (hquiet : ∀ event ∈ first ++ second, event.1.IsQuery)
      (hlocking : Succeeds (HeldLocks.take identities.self.hostname
        (identities.peer.map (·.hostname))) locking locks)
      (hwindow : Accounts settings window hosts) (horder : LoadOrder hosts)
      (hsession : ∀ session, result = .ok session →
        session.context = context ∧ session.identities = identities ∧ session.locks = locks) :
      Progress settings context (first ++ second ++ locking ++ window) result

theorem Loaded.loadOrder_hosts {identities : Identities} {loaded : Loaded}
    (h : loaded.peer = true → loaded.self = true ∧ identities.peerHost ≠ none) :
    LoadOrder (loaded.hosts identities) := by
  unfold Loaded.hosts Identities.peerHost
  cases hself : loaded.self <;> cases hpeer : loaded.peer
  · exact .inl rfl
  · exact absurd (h hpeer).1 (hself ▸ Bool.false_ne_true)
  · exact .inr (.inl rfl)
  · cases hnode : identities.peer with
    | none => exact .inr (.inl rfl)
    | some peer => exact .inr (.inr ⟨peer.hostname, rfl⟩)

theorem Session.queries_resolve {events : List Event} {result : Except RunError Identities}
    (h : (Identities.resolve context).run.Yields events result) :
    ∀ event ∈ events, event.1.IsQuery :=
  ((Identities.conforms_resolve (E := fun _ => True) (fun _ hc _ => hc) (fun _ _ => trivial)
    (fun _ _ => trivial) context).of_yields h).1

theorem Session.queries_preflight {identities : Identities} {events : List Event}
    {result : Except RunError Tools}
    (h : (preflight settings context identities).run.Yields events result) :
    ∀ event ∈ events, event.1.IsQuery :=
  ((conforms_preflight (E := fun _ => True) (fun _ _ => trivial) (fun _ _ => trivial) context
    identities (fun _ hc _ => hc) (fun _ _ _ hc _ => hc)).of_yields h).1

theorem Session.progress_of_yields_attempt {events : List Event}
    {result : Except RunError Session}
    (h : (attempt settings context).run.Yields events result) :
    Progress settings context events result := by
  rcases yields_run_bind_iff.mp h with
    ⟨e, hfail, rfl⟩ | ⟨first, identities, _, rfl, hresolve, hchecks⟩
  · exact .checking (queries_resolve hfail)
  have hfirst := queries_resolve hresolve
  rcases yields_run_bind_iff.mp hchecks with
    ⟨e, hfail, rfl⟩ | ⟨second, tools, _, rfl, hpreflight, hlocks⟩
  · have hsecond := queries_preflight hfail
    exact .checking fun event hevent =>
      (List.mem_append.mp hevent).elim (hfirst event) (hsecond event)
  have hquiet : ∀ event ∈ first ++ second, event.1.IsQuery := fun event hevent =>
    (List.mem_append.mp hevent).elim (hfirst event) (queries_preflight hpreflight event)
  rw [← List.append_assoc]
  rcases yields_run_bind_iff.mp hlocks with
    ⟨e, hfail, rfl⟩ | ⟨third, locks, _, rfl, htake, hbringUp⟩
  · exact .locking hquiet hfail
  rw [← List.append_assoc]
  rcases yields_run_bind_iff.mp hbringUp with
    ⟨e, hfail, rfl⟩ | ⟨window, up, _, rfl, hup, hdone⟩
  · obtain ⟨loaded, hloads⟩ := yields_bringUpPlain_iff.mp hfail
    obtain ⟨haccounts, hflags⟩ := loads_bringUp hloads
    exact .holding hresolve hquiet htake haccounts (Loaded.loadOrder_hosts hflags)
      fun session heq => nomatch heq
  · obtain ⟨rfl, rfl⟩ := hdone
    obtain ⟨loaded, hloads⟩ := yields_bringUpPlain_iff.mp hup
    obtain ⟨haccounts, hflags⟩ := loads_bringUp hloads
    rw [List.append_nil]
    refine .holding hresolve hquiet htake haccounts (Loaded.loadOrder_hosts hflags) ?_
    intro session heq
    cases heq
    exact ⟨rfl, rfl, rfl⟩

/-! ## Setting up for real -/

/-- Work leaves nothing to take back, and does not change what there was. -/
theorem undoing_append_of_isWork {events events' : List Event}
    (h : ∀ event ∈ events, event.1.IsWork) :
    undoing settings (events ++ events') = undoing settings events' := by
  rw [undoing, Trace.loaded_append, Trace.loaded_eq_nil h, List.nil_append,
    Trace.held_append_of_lockFree (Trace.lockFree_of_isWork h)]
  rfl

theorem undoing_eq_nil {events : List Event} (h : ∀ event ∈ events, event.1.IsWork) :
    undoing settings events = [] := by
  rw [← List.append_nil events, undoing_append_of_isWork h]
  rfl

/-- Setting up for real is the plain way, followed by what takes back its trace. -/
theorem Session.setup_takesBack :
    TakesBack (undoing settings) (setup settings context) (attempt settings context) := by
  refine TakesBack.bind (TakesBack.refl fun events e hfail => ?_)
    fun first identities hresolve => ?_
  · exact undoing_eq_nil (Trace.isWork_of_isQuery (queries_resolve hfail))
  have hfirst := Trace.isWork_of_isQuery (queries_resolve hresolve)
  refine TakesBack.bind (TakesBack.refl fun events e hfail => ?_)
    fun second tools hpreflight => ?_
  · rw [undoing_append_of_isWork hfirst]
    exact undoing_eq_nil (Trace.isWork_of_isQuery (queries_preflight hfail))
  have hsecond := Trace.isWork_of_isQuery (queries_preflight hpreflight)
  refine TakesBack.bind (HeldLocks.acquire_takesBack.congr fun events e hfail => ?_)
    fun third locks htake => ?_
  · rw [undoing_append_of_isWork hfirst, undoing_append_of_isWork hsecond, undoing,
      (HeldLocks.account_of_yields_take hfail).2.1]
    rfl
  obtain ⟨-, hloaded, -, hheld⟩ := HeldLocks.account_of_yields_take htake
  refine (establish_takesBack identities tools locks).congr fun events e hfail => ?_
  rcases fails_bind_iff.mp hfail with hup | ⟨_, _, _, _, _, hpure⟩
  · obtain ⟨loaded, hloads⟩ := yields_bringUpPlain_iff.mp hup
    have haccounts := (loads_bringUp hloads).1
    rw [undoing_append_of_isWork hfirst, undoing_append_of_isWork hsecond, undoing,
      Trace.loaded_append, hloaded, List.nil_append,
      Trace.held_append_lockFree fun event hevent => (haccounts.forward event hevent).lockFree,
      hheld locks rfl]
  · exact (not_fails_pure hpure).elim

/-- A session belongs to the run that it was set up for. -/
theorem Session.context_of_succeeds_setup {events : List Event} {session : Session}
    (h : Succeeds (setup settings context) events session) : session.context = context := by
  obtain ⟨before, after, rfl, hattempt, -⟩ := (setup_takesBack _ _).mp h
  cases progress_of_yields_attempt hattempt with
  | holding _ _ _ _ _ hsession => exact (hsession session rfl).1

/-! ## The directory -/

theorem lockFree_unload (settings : Settings) (host : Host) :
    (Module.unload settings host).Ensures Request.lockFree fun _ => True :=
  (Program.ensures_request trivial).discard

theorem lockFree_unloadPeer (settings : Settings) (identities : Identities) :
    (unloadPeer settings identities).Ensures Request.lockFree fun _ => True := by
  unfold unloadPeer
  split
  · trivial
  · exact lockFree_unload settings _

theorem rollBack_balanced (settings : Settings) (identities : Identities) (loaded : Loaded)
    (locks : HeldLocks) (rest : List Lock) :
    (rollBack settings identities loaded locks).Balanced (fun _ after => after = rest)
      (locks.locks.reverse ++ rest) := by
  have hself := lockFree_unload settings .self
  have hpeer := lockFree_unloadPeer settings identities
  have hlocks := locks.release_balanced rest
  unfold rollBack
  cases loaded.self <;> cases loaded.peer
  · exact hlocks
  · exact hpeer.balanced.bind fun _ _ h => h.2 ▸ hlocks
  · exact hself.balanced.bind fun _ _ h => h.2 ▸ hlocks
  · refine hself.balanced.bind fun _ _ h => h.2 ▸ ?_
    exact hpeer.balanced.bind fun _ _ h => h.2 ▸ hlocks

theorem lockFree_bringUp (identities : Identities) :
    ((bringUp settings context identities).run.run {}).Ensures Request.lockFree
      fun _ => True :=
  Program.ensures_of_forall_yields fun _ _ h =>
    ⟨fun event hevent => ((loads_bringUp h).1.forward event hevent).lockFree, trivial⟩

/-- A session holds the locks that setting up has taken; a setup that has failed holds
none. -/
theorem Session.setup_balanced :
    (setup settings context).run.Balanced
      (fun result after => match result with
        | .ok session => session.context = context ∧ after = session.locks.locks.reverse
        | .error _ => after = []) [] := by
  have hresolve := Identities.conforms_resolve (P := Request.IsQuery) (E := fun _ => True)
    (fun _ hc _ => hc) (fun _ _ => trivial) (fun _ _ => trivial) context
  refine (hresolve.mono (fun _ h => h.isWork.lockFree) fun _ h => h).balanced_bind
    (fun e => rfl) fun identities => ?_
  have hpreflight : Conforms Request.IsQuery (fun _ => True)
      (preflight settings context identities) :=
    conforms_preflight (fun _ _ => trivial) (fun _ _ => trivial) context identities
      (fun _ hc _ => hc) fun _ _ _ hc _ => hc
  refine (hpreflight.mono (fun _ h => h.isWork.lockFree) fun _ h => h).balanced_bind
    (fun e => rfl) fun tools => ?_
  rw [ExceptT.run_bind]
  apply (HeldLocks.acquire_balanced _ _ []).bind
  intro taken held hheld
  cases taken with
  | error e => exact hheld
  | ok locks =>
      rw [hheld, List.append_nil]
      apply (lockFree_bringUp identities).balanced.bind
      intro up after hafter
      rw [hafter.2]
      obtain ⟨result, loaded⟩ := up
      cases result with
      | ok up => exact ⟨rfl, rfl⟩
      | error e =>
          have hback := rollBack_balanced settings identities loaded locks []
          rw [List.append_nil] at hback
          exact hback.bind fun _ _ h => h

/-! ## A setup that has failed -/

/-- A trace in three parts: what went on until a step failed, and the taking back. -/
structure Session.Undone (settings : Settings) (context : RunContext) (e : RunError)
    (before undo releases : List Event) : Prop where
  /-- The error is that of the step that failed. -/
  failed : Fails (attempt settings context) before e
  /-- Until then nothing was unloaded. -/
  nothing_unloaded : Trace.unloaded before = []
  order : LoadOrder (Trace.loaded before)
  /-- What was loaded is unloaded, in the same order. -/
  unloads : undo.map Sigma.fst = (Trace.loaded before).map (.unload settings)
  /-- After that, the locks that are held are given back, newest first. -/
  gives_back : releases.map Sigma.fst = (Trace.held before).map .release
  /-- Whatever the taking back had been answered, the error would have been the same. -/
  deaf : ∀ after, after.map Sigma.fst = (undo ++ releases).map Sigma.fst →
    Fails (setup settings context) (before ++ after) e

theorem LoadOrder.count_le_one {hosts : List Host} (h : LoadOrder hosts) (host : Host) :
    hosts.count host ≤ 1 := by
  rcases h with rfl | rfl | ⟨peer, rfl⟩
  · exact Nat.zero_le 1
  · exact List.nodup_iff_count_le_one.mp (List.nodup_singleton _) host
  · exact List.nodup_iff_count_le_one.mp (by simp) host

theorem Session.Progress.account {events : List Event} {result : Except RunError Session}
    (h : Progress settings context events result) :
    Trace.unloaded events = [] ∧ LoadOrder (Trace.loaded events) := by
  cases h with
  | checking hquiet =>
      have hwork := Trace.isWork_of_isQuery hquiet
      rw [Trace.loaded_eq_nil hwork]
      exact ⟨Trace.unloaded_eq_nil hwork, .inl rfl⟩
  | locking hquiet hlocking =>
      have hwork := Trace.isWork_of_isQuery hquiet
      obtain ⟨-, hloaded, hunloaded, -⟩ := HeldLocks.account_of_yields_take hlocking
      rw [Trace.loaded_append, Trace.unloaded_append, Trace.loaded_eq_nil hwork,
        Trace.unloaded_eq_nil hwork, hloaded, hunloaded]
      exact ⟨rfl, .inl rfl⟩
  | holding hresolve hquiet hlocking hwindow horder hsession =>
      have hwork := Trace.isWork_of_isQuery hquiet
      obtain ⟨-, hloaded, hunloaded, -⟩ := HeldLocks.account_of_yields_take hlocking
      rw [Trace.loaded_append, Trace.unloaded_append, Trace.loaded_append,
        Trace.unloaded_append, Trace.loaded_eq_nil hwork, Trace.unloaded_eq_nil hwork,
        hloaded, hunloaded, hwindow.loaded,
        hwindow.unloaded_eq_nil]
      exact ⟨rfl, horder⟩

/-- Every trace of a setup that fails is in three parts. -/
theorem Session.undone_of_fails {events : List Event} {e : RunError}
    (h : Fails (setup settings context) events e) :
    ∃ before undo releases, events = before ++ undo ++ releases ∧
      Undone settings context e before undo releases := by
  obtain ⟨before, after, rfl, hattempt, hafter⟩ := (setup_takesBack _ _).mp h
  obtain ⟨undo, releases, rfl, hundo, hreleases⟩ := List.map_eq_append_iff.mp hafter
  obtain ⟨hunloaded, horder⟩ := (progress_of_yields_attempt hattempt).account
  refine ⟨before, undo, releases, (List.append_assoc ..).symm, hattempt, hunloaded, horder,
    hundo, hreleases, ?_⟩
  intro replies hreplies
  exact (setup_takesBack _ _).mpr ⟨before, replies, rfl, hattempt, hreplies.trans hafter⟩

/--
Setting up is all or nothing, among any surroundings and from any lock directory.  If
it fails, the directory is as it was; on every host a module was unloaded as often as
one was loaded, and that is at most once; and all that has happened after the failing
step is that these modules were unloaded, the local one first, and that the locks were
then given back.  The error is that of the failing step, whatever the taking back was
answered.
-/
theorem Session.setup_atomic (settings : Settings) (context : RunContext) (x : Surroundings)
    (d : LockDirectory) {e : RunError}
    (h : (x.run (setup settings context).run d).result = .error e) :
    let outcome := x.run (setup settings context).run d
    outcome.directory = d ∧
      (∀ host, (Trace.unloaded outcome.trace).count host =
          (Trace.loaded outcome.trace).count host ∧
        (Trace.loaded outcome.trace).count host ≤ 1) ∧
      ∃ before undo releases, outcome.trace = before ++ undo ++ releases ∧
        Undone settings context e before undo releases := by
  intro outcome
  have hfails : Fails (setup settings context) outcome.trace e := by
    have hyields := x.run_yields (setup settings context).run d
    rwa [h] at hyields
  obtain ⟨before, undo, releases, htrace, hundone⟩ := undone_of_fails hfails
  refine ⟨?_, ?_, before, undo, releases, htrace, hundone⟩
  · apply x.directory_run setup_balanced d
    intro held hheld
    rwa [h] at hheld
  · intro host
    obtain ⟨hundo, hnone⟩ := Module.unloaded_of_unloads hundone.unloads
    obtain ⟨hloaded, hunloaded⟩ := Trace.loaded_unloaded_of_releases hundone.gives_back
    have hunloads : Trace.unloaded outcome.trace = Trace.loaded before := by
      simp [htrace, hundone.nothing_unloaded, hundo, hunloaded]
    have hloads : Trace.loaded outcome.trace = Trace.loaded before := by
      simp [htrace, hnone, hloaded]
    rw [hunloads, hloads]
    exact ⟨rfl, hundone.order.count_le_one host⟩

end Setup

/-- A run in native mode, without a gateway, against the fourth node. -/
def RunContext.toFourthNode : RunContext where
  target := ⟨⟨0, 0, 4⟩⟩
  encapsulation := .native
  useGateway := false
  channel := .default
  dropPercent := 0
  settle := .zero
  verbose := 0
  self := ⟨"vleth", none, none⟩
  peer := ⟨"vleth", none, none⟩
  skip := ⟨false, false, false, false, false⟩
  trafficRepeats := none

/-- Surroundings in which everything goes well, but for what is read from the peer, which
is given, and for modules, which cannot be unloaded. -/
def Surroundings.showing (peer : Output) : Surroundings where
  execute _ host command :=
    match host, command with
    | _, .hostname => .ok { stdout := "node-01" }
    | _, .linkInfo _ => .ok { stdout := "[[\"98:ed:5c:00:00:01\"]]" }
    | .self, .readFile _ => .ok { stdout := "5" }
    | .remote _, .readFile _ => .ok peer
    | _, .unloadModule _ => .error "no such program"
    | _, _ => .ok {}
  together _ _ := []

/-- Both modules are loaded when the setup fails, and both are to be unloaded, although
that fails too. -/
theorem Session.setup_atomic_unreadable_peer :
    let d : LockDirectory := { path := "/locks", names := ["README"] }
    let peer : Output := { exitCode := 1, stderr := "gone" }
    let outcome := (Surroundings.showing peer).run (setup {} .toFourthNode).run d
    let e := RunError.command "node-04" "cat /sys/module/modttpoe/parameters/tag_seq" 1 "gone"
    outcome.result = .error e ∧ outcome.directory = d ∧
      Trace.loaded outcome.trace = [.self, .remote "node-04"] ∧
      (∀ host, (Trace.unloaded outcome.trace).count host =
        (Trace.loaded outcome.trace).count host) ∧
      ∃ before undo releases, outcome.trace = before ++ undo ++ releases ∧
        Undone {} .toFourthNode e before undo releases := by
  intro d peer outcome e
  have h : outcome.result = .error e := by decide +kernel
  obtain ⟨hdirectory, hcounts, hparts⟩ := setup_atomic {} .toFourthNode (.showing peer) d h
  exact ⟨h, hdirectory, by decide +kernel, fun host => (hcounts host).1, hparts⟩

end TtpConformance
