import TtpConformance.Proofs.Identity.Resolve
import TtpConformance.Proofs.Lock.Take
import TtpConformance.Session.Setup

/-!
# Bringing modules up is accounted for

Bringing a run up keeps flags for the modules that it has loaded, and taking a setup
back trusts them.  They can be trusted: wherever bringing up stops, the flags name
exactly the hosts on which a load has succeeded, and nothing was unloaded and no lock
was touched on the way.

## Main definitions

* `Loads` — a trace of a program with flags, from flags to flags.
* `LoadingStep.Obeys` — a bound on the requests and errors of a program with flags.
* `Request.BringsUp`, `RunError.OfBringUp` — what bringing up asks for, and how it fails.
* `Loaded.hosts` — the hosts that flags name.
* `Accounts` — a trace that loads modules on the given hosts, and otherwise only works.

## Main statements

* `conforms_preflight` — the checks before the locks change nothing.
* `obeys_bringUp` — the bound on bringing up.
* `loads_bringUp` — the flags after bringing up, or trying to.
* `recites_rollBack`, `Session.recites_teardown` — taking back and taking down.
-/

namespace TtpConformance

/-! ## Checks -/

section Checks

variable {settings : Settings} {P : Request → Prop} {E : RunError → Prop}
variable (hE : ∀ e : RunError, e.OfCommand → E e)
variable (hconfiguration : ∀ e : RunError, e.isConfiguration = true → E e)

include hE hconfiguration

theorem conforms_checkDebugDevice {host : Host} (name : String)
    (hP : ∀ c : Command, c.changesState = false → c.opensFiles = false → P (.command host c)) :
    Conforms P E (checkDebugDevice settings host name) := by
  refine (Step.conforms_test (hP _ rfl rfl) hE).bind fun found => ?_
  split
  · exact Conforms.pure ()
  · exact Conforms.throw (hconfiguration _ rfl)

theorem conforms_preflightPeer (context : RunContext) {peer : Host}
    (hP : ∀ c : Command, c.changesState = false → c.opensFiles = false → P (.command peer c)) :
    Conforms P E (preflightPeer settings context peer) := by
  refine (conforms_checkDebugDevice hE hconfiguration peer.text hP).bind fun _ => ?_
  refine (Step.conforms_test (hP _ rfl rfl) hE).bind fun found => ?_
  split
  · exact Step.conforms_test (hP _ rfl rfl) hE
  · exact Conforms.throw (hconfiguration _ rfl)

/-- The checks before the locks are taken change nothing, open no file, and only look at
the nodes that take part. -/
theorem conforms_preflight (context : RunContext) (identities : Identities)
    (hself : ∀ c : Command, c.changesState = false → c.opensFiles = false →
      P (.command .self c))
    (hpeer : ∀ host, identities.peerHost = some host →
      ∀ c : Command, c.changesState = false → c.opensFiles = false → P (.command host c)) :
    Conforms P E (preflight settings context identities) := by
  refine (conforms_checkDebugDevice hE hconfiguration "self" hself).bind fun _ => ?_
  refine (Step.conforms_test (hself _ rfl rfl) hE).bind fun selfGenerator => ?_
  split
  · exact Conforms.pure _
  · rename_i peer hpeerHost
    have hfound : Conforms P E (preflightPeer settings context peer) :=
      conforms_preflightPeer hE hconfiguration context (hpeer peer hpeerHost)
    exact hfound.bind fun peerGenerator => Conforms.pure _

end Checks

/-! ## Programs with flags -/

section Flags

variable {α β : Type} {start loaded : Loaded} {events : List Event}

/-- Answered as in `events`, a program with flags goes from `start` to `loaded`. -/
def Loads (x : LoadingStep α) (start : Loaded) (events : List Event)
    (result : Except RunError α) (loaded : Loaded) : Prop :=
  (x.run.run start).Yields events (result, loaded)

@[simp] theorem loads_pure_iff {a : α} {result : Except RunError α} :
    Loads (pure a) start events result loaded ↔
      events = [] ∧ result = .ok a ∧ loaded = start := by
  simp [Loads]

@[simp] theorem loads_modify_iff {f : Loaded → Loaded} {result : Except RunError PUnit} :
    Loads (modify f) start events result loaded ↔
      events = [] ∧ result = .ok () ∧ loaded = f start := by
  show (Program.done _).Yields _ _ ↔ _
  simp

theorem loads_lift_iff {step : Step α} {result : Except RunError α} :
    Loads (LoadingStep.lift step) start events result loaded ↔
      step.run.Yields events result ∧ loaded = start := by
  show (step.run >>= fun r => Program.done (r, start)).Yields _ _ ↔ _
  rw [Program.yields_bind_iff]
  constructor
  · rintro ⟨first, r, _, rfl, hfirst, rfl, heq⟩
    cases heq
    exact ⟨by rwa [List.append_nil], rfl⟩
  · rintro ⟨h, rfl⟩
    exact ⟨events, result, [], (List.append_nil _).symm, h, rfl, rfl⟩

/-- A sequence stops at its first error, with the flags of that moment. -/
theorem loads_bind_iff {x : LoadingStep α} {f : α → LoadingStep β}
    {result : Except RunError β} :
    Loads (x >>= f) start events result loaded ↔
      (∃ e, Loads x start events (.error e) loaded ∧ result = .error e) ∨
        ∃ first a mid second, events = first ++ second ∧ Loads x start first (.ok a) mid ∧
          Loads (f a) mid second result loaded := by
  show (x.run.run start >>= fun (r, mid) => _).Yields _ _ ↔ _
  rw [Program.yields_bind_iff]
  constructor
  · rintro ⟨first, ⟨_ | a, mid⟩, second, rfl, hx, hf⟩
    · obtain ⟨rfl, heq⟩ := hf
      cases heq
      exact .inl ⟨_, by rwa [List.append_nil], rfl⟩
    · exact .inr ⟨first, a, mid, second, rfl, hx, hf⟩
  · rintro (⟨e, hx, rfl⟩ | ⟨first, a, mid, second, rfl, hx, hf⟩)
    · exact ⟨events, (.error e, loaded), [], (List.append_nil _).symm, hx, rfl, rfl⟩
    · exact ⟨first, (.ok a, mid), second, rfl, hx, hf⟩

end Flags

namespace LoadingStep

variable {α β : Type} {P P' : Request → Prop} {E E' : RunError → Prop}

/-- Whatever is answered, and whatever the flags are at first, every request is in `P`,
and an error is in `E`. -/
def Obeys (P : Request → Prop) (E : RunError → Prop) (x : LoadingStep α) : Prop :=
  ∀ start, (x.run.run start).Ensures P fun outcome => ∀ e, outcome.1 = .error e → E e

theorem Obeys.mono {x : LoadingStep α} (h : Obeys P E x) (hP : ∀ r, P r → P' r)
    (hE : ∀ e, E e → E' e) : Obeys P' E' x := fun start =>
  (h start).mono hP fun _ h' e he => hE e (h' e he)

theorem obeys_pure (a : α) : Obeys P E (pure a : LoadingStep α) :=
  fun _ _ he => nomatch he

theorem obeys_modify (f : Loaded → Loaded) : Obeys P E (modify f : LoadingStep PUnit) :=
  fun _ _ he => nomatch he

theorem obeys_lift {step : Step α} (h : Conforms P E step) : Obeys P E (lift step) := by
  intro start
  show (step.run >>= fun r => Program.done (r, start)).Ensures P _
  exact Program.Ensures.bind h fun _ he => he

theorem Obeys.bind {x : LoadingStep α} {f : α → LoadingStep β} (h : Obeys P E x)
    (hf : ∀ a, Obeys P E (f a)) : Obeys P E (x >>= f) := by
  intro start
  show (x.run.run start >>= fun (r, mid) => _).Ensures P _
  refine (h start).bind fun outcome houtcome => ?_
  obtain ⟨_ | a, mid⟩ := outcome
  · intro e he
    injection he with he
    exact houtcome e (congrArg _ he)
  · exact hf a mid

end LoadingStep

/-! ## What bringing up asks for -/

/-- The nodes that take part in a run. -/
def Identities.Hosts (identities : Identities) (host : Host) : Prop :=
  host = .self ∨ identities.peerHost = some host

/-- What bringing up the module of a node asks for.  Unless it is loaded, no parameter of
it is written. -/
inductive Request.BringsUp (settings : Settings) (context : RunContext) (host : Host) :
    Request → Prop where
  | load (hload : context.skip.load = false) (activation : Activation) :
      BringsUp settings context host (.load settings host activation)
  | write (hload : context.skip.load = false) (name value : String) :
      BringsUp settings context host (.command host (.writeFile (settings.param name) value))
  | read (name : String) :
      BringsUp settings context host (.command host (.readFile (settings.param name)))
  | pause (length : Duration) : BringsUp settings context host (.pause length)

/-- The errors that bringing a module up can lead to. -/
def RunError.OfBringUp (e : RunError) : Prop :=
  e.OfCommand ∨ e.isModuleLoad = true ∨ e.isTimeout = true

section Bounds

variable {settings : Settings} {context : RunContext}

theorem obeys_load {host : Host} (hload : context.skip.load = false) (activation : Activation) :
    LoadingStep.Obeys (Request.BringsUp settings context host) RunError.OfBringUp
      (LoadingStep.lift (Module.load settings host activation)) :=
  LoadingStep.obeys_lift
    (Module.conforms_load (fun _ => .inl) (fun _ _ => .inr (.inl rfl)) (.load hload activation))

theorem obeys_baseline {host : Host} :
    LoadingStep.Obeys (Request.BringsUp settings context host) RunError.OfBringUp
      (LoadingStep.lift (Observe.baseline settings host)) :=
  LoadingStep.obeys_lift (Observe.conforms_baseline (fun _ => .inl) (.read _))

theorem obeys_bringUpSelf (target : Target) :
    LoadingStep.Obeys (Request.BringsUp settings context .self) RunError.OfBringUp
      (bringUpSelf settings context target) := by
  unfold bringUpSelf
  split
  · exact LoadingStep.obeys_pure none
  · rename_i hskip
    have hload : context.skip.load = false := Bool.eq_false_iff.mpr hskip
    have hconfigure : Conforms (Request.BringsUp settings context .self) RunError.OfBringUp
        (Module.configureSelf settings .self context target.code
          settings.timing.gatewayPolicy) :=
      Module.conforms_configureSelf (fun _ => .inl) context target.code .read (.write hload)
        (.pause _) fun _ => .inr (.inr rfl)
    refine (obeys_load hload _).bind fun _ => ?_
    exact (LoadingStep.obeys_modify _).bind fun _ => LoadingStep.obeys_lift hconfigure

theorem obeys_bringUpPeer (peer : Host) :
    LoadingStep.Obeys (Request.BringsUp settings context peer) RunError.OfBringUp
      (bringUpPeer settings context peer) := by
  have hpause : Conforms (Request.BringsUp settings context peer) RunError.OfBringUp
      (Step.pause settings.timing.peerSettle) := Step.conforms_pause (.pause _)
  unfold bringUpPeer
  dsimp only
  split
  · exact obeys_baseline
  · rename_i hskip
    refine (obeys_load (Bool.eq_false_iff.mpr hskip) _).bind fun _ => ?_
    refine (LoadingStep.obeys_modify _).bind fun _ => ?_
    exact (LoadingStep.obeys_lift hpause).bind fun _ => obeys_baseline

/-- Bringing up asks for nothing but bringing up the modules of the nodes that take part,
and fails for a module, for a wait, or for a command. -/
theorem obeys_bringUp (identities : Identities) :
    LoadingStep.Obeys
      (fun r => ∃ host, identities.Hosts host ∧ r.BringsUp settings context host)
      RunError.OfBringUp (bringUp settings context identities) := by
  have hnode : ∀ {node}, identities.Hosts node → ∀ r, Request.BringsUp settings context node r →
      ∃ host, identities.Hosts host ∧ r.BringsUp settings context host :=
    fun hnode r hr => ⟨_, hnode, hr⟩
  refine ((obeys_bringUpSelf _).mono (hnode (.inl rfl)) fun _ he => he).bind fun gateway => ?_
  refine (obeys_baseline.mono (hnode (.inl rfl)) fun _ he => he).bind fun baseline => ?_
  split
  · exact LoadingStep.obeys_pure _
  · rename_i peer hsome
    refine ((obeys_bringUpPeer peer).mono (hnode (.inr hsome)) fun _ he => he).bind ?_
    exact fun peerBaseline => LoadingStep.obeys_pure _

end Bounds

/-! ## Accounting for loaded modules -/

/-- The hosts on which modules are loaded, in the order of loading. -/
def Loaded.hosts (identities : Identities) (loaded : Loaded) : List Host :=
  (if loaded.self then [.self] else []) ++
    if loaded.peer then identities.peerHost.toList else []

theorem Loaded.hosts_of_peer_eq_false {identities : Identities} {loaded : Loaded}
    (h : loaded.peer = false) :
    loaded.hosts identities = if loaded.self then [.self] else [] := by
  rw [Loaded.hosts, h, if_neg Bool.false_ne_true, List.append_nil]

/-- Requests of bringing up: loads, and the work between them. -/
def Request.IsForward (settings : Settings) (r : Request) : Prop :=
  r.IsWork ∨ ∃ host activation, r = .load settings host activation

/-- A trace that loads modules on the given hosts, and works otherwise. -/
structure Accounts (settings : Settings) (events : List Event) (hosts : List Host) : Prop where
  forward : ∀ event ∈ events, event.1.IsForward settings
  loaded : Trace.loaded events = hosts

section Accounting

variable {settings : Settings} {events events' : List Event} {hosts hosts' : List Host}

theorem Request.IsForward.lockFree {r : Request} (h : r.IsForward settings) : r.lockFree := by
  rcases h with h | ⟨host, activation, rfl⟩
  · exact h.lockFree
  · trivial

theorem Accounts.nil : Accounts settings [] [] := ⟨by simp, rfl⟩

theorem Accounts.append (h : Accounts settings events hosts)
    (h' : Accounts settings events' hosts') :
    Accounts settings (events ++ events') (hosts ++ hosts') where
  forward event hevent := (List.mem_append.mp hevent).elim (h.forward event) (h'.forward event)
  loaded := by rw [Trace.loaded_append, h.loaded, h'.loaded]

theorem accounts_of_conforms {α : Type} {step : Step α}
    (h : Conforms Request.IsWork (fun _ => True) step) {result : Except RunError α}
    (hyields : step.run.Yields events result) : Accounts settings events [] := by
  have hwork := (h.of_yields hyields).1
  exact ⟨fun event hevent => .inl (hwork event hevent), Trace.loaded_eq_nil hwork⟩

theorem accounts_of_yields_load {host : Host} {activation : Activation}
    {result : Except RunError Unit}
    (h : (Module.load settings host activation).run.Yields events result) :
    Accounts settings events (if result.isOk then [host] else []) := by
  obtain ⟨hload, hloaded⟩ := Module.loaded_of_yields_load h
  exact ⟨fun event hevent => .inr ⟨host, activation, hload event hevent⟩, hloaded⟩

/-- Bringing up never unloads. -/
theorem Accounts.unloaded_eq_nil (h : Accounts settings events hosts) :
    Trace.unloaded events = [] := by
  apply List.filterMap_eq_nil_iff.mpr
  intro event hevent
  obtain ⟨r, reply⟩ := event
  rcases h.forward _ hevent with hwork | ⟨host, activation, heq⟩
  · exact (Event.hosts_of_isWork hwork).2
  · obtain rfl : r = .load settings host activation := heq
    rfl

end Accounting

section BringingUp

variable {settings : Settings} {context : RunContext} {events : List Event} {loaded : Loaded}

private theorem accounts_baseline {host : Host} {result : Except RunError UInt64}
    (h : (Observe.baseline settings host).run.Yields events result) :
    Accounts settings events [] :=
  accounts_of_conforms (Observe.conforms_baseline (fun _ _ => trivial) trivial) h

/-- The local module: its flag is set exactly if its load has succeeded. -/
theorem loads_bringUpSelf {target : Target} {result : Except RunError (Option Gateway)}
    (h : Loads (bringUpSelf settings context target) {} events result loaded) :
    loaded.peer = false ∧ Accounts settings events (if loaded.self then [.self] else []) ∧
      (context.skip.load = false → ∀ gateway, result = .ok gateway → loaded.self = true) := by
  unfold bringUpSelf at h
  split at h
  · rename_i hskip
    obtain ⟨rfl, -, rfl⟩ := loads_pure_iff.mp h
    exact ⟨rfl, Accounts.nil, fun hload => absurd (hload.symm.trans hskip) Bool.false_ne_true⟩
  · rcases loads_bind_iff.mp h with ⟨e, hfail, rfl⟩ | ⟨first, _, _, _, rfl, hok, hflag⟩
    · obtain ⟨hload, rfl⟩ := loads_lift_iff.mp hfail
      exact ⟨rfl, accounts_of_yields_load hload, fun _ gateway heq => nomatch heq⟩
    obtain ⟨hload, rfl⟩ := loads_lift_iff.mp hok
    rcases loads_bind_iff.mp hflag with ⟨e, hset, -⟩ | ⟨_, _, _, second, rfl, hset, hrest⟩
    · exact nomatch (loads_modify_iff.mp hset).2.1
    obtain ⟨rfl, -, rfl⟩ := loads_modify_iff.mp hset
    obtain ⟨hconfigure, rfl⟩ := loads_lift_iff.mp hrest
    have hwork : Conforms Request.IsWork (fun _ => True) (Module.configureSelf settings .self
        context target.code settings.timing.gatewayPolicy) :=
      Module.conforms_configureSelf (fun _ _ => trivial) context target.code
        (fun _ => trivial) (fun _ _ => trivial) trivial fun _ => trivial
    refine ⟨rfl, ?_, fun _ _ _ => rfl⟩
    exact (accounts_of_yields_load hload).append (accounts_of_conforms hwork hconfigure)

/-- The peer's module: its flag is set exactly if its load has succeeded. -/
theorem loads_bringUpPeer {peer : Host} {start : Loaded} {result : Except RunError UInt64}
    (hstart : start.peer = false)
    (h : Loads (bringUpPeer settings context peer) start events result loaded) :
    loaded.self = start.self ∧ Accounts settings events (if loaded.peer then [peer] else []) ∧
      (loaded.peer = true → context.skip.load = false) := by
  unfold bringUpPeer at h
  dsimp only at h
  split at h
  · obtain ⟨hbaseline, rfl⟩ := loads_lift_iff.mp h
    rw [hstart]
    exact ⟨rfl, accounts_baseline hbaseline, fun hpeer => nomatch hpeer⟩
  · rename_i hskip
    have hload : context.skip.load = false := Bool.eq_false_iff.mpr hskip
    rcases loads_bind_iff.mp h with ⟨e, hfail, rfl⟩ | ⟨first, _, _, _, rfl, hok, hflag⟩
    · obtain ⟨hyields, rfl⟩ := loads_lift_iff.mp hfail
      rw [hstart]
      exact ⟨rfl, accounts_of_yields_load hyields, fun hpeer => nomatch hpeer⟩
    obtain ⟨hyields, rfl⟩ := loads_lift_iff.mp hok
    have hfirst := accounts_of_yields_load hyields
    rcases loads_bind_iff.mp hflag with ⟨e, hset, -⟩ | ⟨_, _, _, _, rfl, hset, hpause⟩
    · exact nomatch (loads_modify_iff.mp hset).2.1
    obtain ⟨rfl, -, rfl⟩ := loads_modify_iff.mp hset
    have hconforms : Conforms Request.IsWork (fun _ => True)
        (Step.pause settings.timing.peerSettle) := Step.conforms_pause trivial
    rcases loads_bind_iff.mp hpause with ⟨e, hfail, -⟩ | ⟨third, _, _, _, rfl, hok', hrest⟩
    · obtain ⟨hthird, rfl⟩ := loads_lift_iff.mp hfail
      exact ⟨rfl, hfirst.append (accounts_of_conforms hconforms hthird), fun _ => hload⟩
    obtain ⟨hthird, rfl⟩ := loads_lift_iff.mp hok'
    obtain ⟨hbaseline, rfl⟩ := loads_lift_iff.mp hrest
    have hlater := (accounts_of_conforms hconforms hthird).append (accounts_baseline hbaseline)
    exact ⟨rfl, hfirst.append hlater, fun _ => hload⟩

/-- Wherever bringing up stops, the flags name the hosts on which a module was loaded. -/
theorem loads_bringUp {identities : Identities} {result : Except RunError BringUp}
    (h : Loads (bringUp settings context identities) {} events result loaded) :
    Accounts settings events (loaded.hosts identities) ∧
      (loaded.peer = true → loaded.self = true ∧ identities.peerHost ≠ none) := by
  have hnone : ∀ {accounted : List Event}, loaded.peer = false →
      Accounts settings accounted (if loaded.self then [.self] else []) →
      Accounts settings accounted (loaded.hosts identities) ∧
        (loaded.peer = true → loaded.self = true ∧ identities.peerHost ≠ none) := by
    intro accounted hpeer haccounts
    rw [Loaded.hosts_of_peer_eq_false hpeer, hpeer]
    exact ⟨haccounts, fun heq => nomatch heq⟩
  rcases loads_bind_iff.mp h with ⟨e, hself, rfl⟩ | ⟨first, gateway, _, _, rfl, hself, hrest⟩
  · obtain ⟨hpeer, haccounts, -⟩ := loads_bringUpSelf hself
    exact hnone hpeer haccounts
  obtain ⟨hpeer, hfirst, hflag⟩ := loads_bringUpSelf hself
  rcases loads_bind_iff.mp hrest with ⟨e, hfail, rfl⟩ | ⟨second, _, mid, _, rfl, hok, hlast⟩
  · obtain ⟨hyields, rfl⟩ := loads_lift_iff.mp hfail
    exact hnone hpeer (by simpa using hfirst.append (accounts_baseline hyields))
  obtain ⟨hyields, rfl⟩ := loads_lift_iff.mp hok
  have hsecond := hfirst.append (accounts_baseline hyields)
  rw [List.append_nil] at hsecond
  rw [← List.append_assoc]
  split at hlast
  · obtain ⟨rfl, -, rfl⟩ := loads_pure_iff.mp hlast
    rw [List.append_nil]
    exact hnone hpeer hsecond
  · rename_i peer hsome
    have hpeerModule : ∀ {third : List Event} {result : Except RunError UInt64},
        Loads (bringUpPeer settings context peer) mid third result loaded →
          Accounts settings (first ++ second ++ third) (loaded.hosts identities) ∧
            (loaded.peer = true → loaded.self = true ∧ identities.peerHost ≠ none) := by
      intro third result hthird
      obtain ⟨hsame, haccounts, hload⟩ := loads_bringUpPeer hpeer hthird
      rw [Loaded.hosts, hsome, hsame]
      exact ⟨hsecond.append haccounts,
        fun hset => ⟨hflag (hload hset) gateway rfl, Option.some_ne_none peer⟩⟩
    rcases loads_bind_iff.mp hlast with ⟨e, hfail, rfl⟩ | ⟨third, _, _, _, rfl, hok', hend⟩
    · exact hpeerModule hfail
    · obtain ⟨rfl, -, rfl⟩ := loads_pure_iff.mp hend
      rw [List.append_nil]
      exact hpeerModule hok'

end BringingUp

/-! ## Taking back and taking down -/

theorem recites_unloadPeer (settings : Settings) (identities : Identities) :
    (unloadPeer settings identities).Recites
      (identities.peerHost.toList.map (.unload settings)) := by
  unfold unloadPeer
  split
  · rename_i hnone
    rw [hnone]
    exact Program.recites_pure
  · rename_i peer hsome
    rw [hsome]
    exact Module.recites_unload settings peer

/-- Taking a setup back unloads what the flags name, the local module first, and then
gives the locks back. -/
theorem recites_rollBack (settings : Settings) (identities : Identities) (loaded : Loaded)
    (locks : HeldLocks) :
    (rollBack settings identities loaded locks).Recites
      ((loaded.hosts identities).map (.unload settings) ++
        locks.locks.reverse.map .release) := by
  have hself := Module.recites_unload settings .self
  have hpeer := recites_unloadPeer settings identities
  have hlocks := locks.recites_release
  unfold rollBack Loaded.hosts
  rw [List.map_append, List.append_assoc]
  cases loaded.self <;> cases loaded.peer
  · exact hlocks
  · exact hpeer.bind hlocks
  · exact hself.bind hlocks
  · exact hself.bind (hpeer.bind hlocks)

/-- Taking a run down unloads both modules, unless they are to stay, and then gives the
locks back. -/
theorem Session.recites_teardown (settings : Settings) (session : Session) :
    (session.teardown settings).Recites
      ((if session.context.skip.unload then []
        else (.self :: session.identities.peerHost.toList).map (.unload settings)) ++
        session.locks.locks.reverse.map .release) := by
  have hself := Module.recites_unload settings .self
  have hpeer := recites_unloadPeer settings session.identities
  have hlocks := session.locks.recites_release
  unfold Session.teardown
  cases session.context.skip.unload
  · exact (hself.bind hpeer).bind hlocks
  · exact hlocks

end TtpConformance
