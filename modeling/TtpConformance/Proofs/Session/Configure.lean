import TtpConformance.Proofs.Module.Configure
import TtpConformance.Proofs.Session.Setup

/-!
# The module is configured before it is counted from

While a run is set up, files of the local node are opened for two purposes: first the
module is configured, and after that its sequence number is read, once, from which all
exchanges are counted.  Nothing else opens any, so the order of the two and of the
commands of the first can be read off the trace.  The peer's module is loaded only after
that, and only if the number could be read.

## Main definitions

* `Observe.selfRead`, `Observe.ShowsSequence` — the read of the sequence number.
* `Session.SelfFiles` — how files of the local node are opened while a run is set up.

## Main statements

* `selfFiles_of_loads_bringUp` — bringing up.
* `Session.setup_configures` — setting up.
-/

namespace TtpConformance

/-! ## The sequence number -/

namespace Observe

/-- The read of the local sequence number. -/
def selfRead (settings : Settings) (reply : Execution) : Event :=
  ⟨.command .self (.readFile (settings.param Module.tagSequenceParam)), reply⟩

/-- A read of the local sequence number that shows one. -/
def ShowsSequence (settings : Settings) (event : Event) : Prop :=
  ∃ reply text n, event = selfRead settings reply ∧ Execution.text? reply = some text ∧
    readBaseline .self text = .ok n

/-- Reading the local sequence number is one read, which has shown it if there is a
result. -/
theorem baseline_yields {settings : Settings} {events : List Event}
    {result : Except RunError UInt64}
    (h : (baseline settings .self).run.Yields events result) :
    ∃ reply, events = [selfRead settings reply] ∧
      ∀ n, result = .ok n → ShowsSequence settings (selfRead settings reply) := by
  obtain ⟨reply, rfl, ⟨text, htext, rfl⟩ | ⟨-, e, rfl, -⟩⟩ :=
    Step.reads_checked.bind (readBaseline .self) events result h
  · exact ⟨reply, rfl, fun n hn => ⟨reply, text, n, rfl, htext, hn⟩⟩
  · exact ⟨reply, rfl, fun n heq => nomatch heq⟩

end Observe

/-! ## Requests that have nothing to do with it -/

/-- A request that opens no file of the local node and loads no module. -/
def Request.IsAside (r : Request) : Prop :=
  r.opensSelfFiles = false ∧ ∀ host path arguments, r ≠ .command host (.loadModule path arguments)

/-- An event that loads a module on another node. -/
def Event.LoadsElsewhere (event : Event) : Prop :=
  ∃ name path arguments, event.1 = .command (.remote name) (.loadModule path arguments)

theorem Request.isAside_of_looking {host : Host} {c : Command} (hc : c.changesState = false)
    (hfiles : c.opensFiles = false) : (Request.command host c).IsAside := by
  constructor
  · cases host with
    | self => exact hfiles
    | remote name => rfl
  · rintro host' path arguments heq
    cases heq
    cases hc

theorem Request.isAside_unload (settings : Settings) (host : Host) :
    (Request.unload settings host).IsAside := by
  constructor
  · cases host <;> rfl
  · rintro host' path arguments heq
    cases heq

theorem Request.isAside_acquire (owner : String) : (Request.acquire owner).IsAside :=
  ⟨rfl, fun _ _ _ heq => nomatch heq⟩

theorem Request.isAside_release (lock : Lock) : (Request.release lock).IsAside :=
  ⟨rfl, fun _ _ _ heq => nomatch heq⟩

section Aside

variable {events : List Event} (h : ∀ event ∈ events, event.1.IsAside)

include h

theorem Trace.selfFiles_of_isAside : Trace.selfFiles events = [] :=
  Trace.selfFiles_eq_nil fun event hevent => (h event hevent).1

theorem Trace.loaded_of_isAside : Trace.loaded events = [] := by
  apply List.filterMap_eq_nil_iff.mpr
  intro event hevent
  obtain ⟨r, reply⟩ := event
  have hload := (h _ hevent).2
  cases r with
  | command host command =>
      cases command <;> first | rfl | exact absurd rfl (hload _ _ _)
  | together | pause | acquire | release => rfl

theorem Trace.not_loadsElsewhere_of_isAside : ∀ event ∈ events, ¬ event.LoadsElsewhere := by
  rintro event hevent ⟨name, path, arguments, heq⟩
  exact (h event hevent).2 _ _ _ heq

end Aside

/-! ## Programs with flags -/

namespace LoadingStep

variable {α β : Type} {S : Request → Prop}

theorem ignores_lift {step : Step α} (h : step.run.Ignores S) (start : Loaded) :
    ((lift step).run.run start).Ignores S := by
  show (step.run >>= fun r => Program.done (r, start)).Ignores S
  exact h.bind fun _ => trivial

theorem ignores_bind {x : LoadingStep α} {f : α → LoadingStep β}
    (h : ∀ start, (x.run.run start).Ignores S)
    (hf : ∀ a start, ((f a).run.run start).Ignores S) (start : Loaded) :
    ((x >>= f).run.run start).Ignores S := by
  show (x.run.run start >>= fun (r, mid) => _).Ignores S
  refine (h start).bind fun result => ?_
  obtain ⟨_ | a, mid⟩ := result
  · trivial
  · exact hf a mid

end LoadingStep

/-! ## Bringing up -/

section BringingUp

variable {settings : Settings} {context : RunContext} {events : List Event} {loaded : Loaded}

/-- The peer's module is loaded and counted from without a file of the local node. -/
theorem ensures_bringUpPeer (settings : Settings) (context : RunContext) (name : String)
    (start : Loaded) :
    ((bringUpPeer settings context (.remote name)).run.run start).Ensures
      (fun r => r.opensSelfFiles = false) fun _ => True :=
  (obeys_bringUpPeer (.remote name) start).mono (fun _ hr => by cases hr <;> rfl)
    fun _ _ => trivial

/-- How files of the local node are opened while a run is set up.  None is, if its module
was never loaded; else the module is configured, and if that has come through, the
sequence number is read once. -/
inductive Session.SelfFiles (settings : Settings) (context : RunContext) (events : List Event)
    (result : Except RunError (Option Gateway)) : Prop
  | notLoaded {e : RunError} (not_loaded : .self ∉ Trace.loaded events)
    (no_files : Trace.selfFiles events = []) (stopped : result = .error e)
  | configuring {e : RunError}
    (configured : Module.Configured settings context context.target.code
      settings.timing.gatewayPolicy.maxAttempts.toNat (Trace.selfFiles events) (.error e))
    (stopped : result = .error e)
  | reading {config : List Event} {gateway : Option Gateway} {reply : Execution}
    (configured : Module.Configured settings context context.target.code
      settings.timing.gatewayPolicy.maxAttempts.toNat config (.ok gateway))
    (files : Trace.selfFiles events = config ++ [Observe.selfRead settings reply])
    (found : ∀ gateway', result = .ok gateway' → gateway' = gateway)

/-- What is aside makes no difference. -/
theorem Session.SelfFiles.aside {result : Except RunError (Option Gateway)}
    {front back : List Event} (h : SelfFiles settings context events result)
    (hfront : ∀ event ∈ front, event.1.IsAside) (hback : ∀ event ∈ back, event.1.IsAside) :
    SelfFiles settings context (front ++ events ++ back) result := by
  have hfiles : Trace.selfFiles (front ++ events ++ back) = Trace.selfFiles events := by
    rw [Trace.selfFiles_append, Trace.selfFiles_append, Trace.selfFiles_of_isAside hfront,
      Trace.selfFiles_of_isAside hback, List.nil_append, List.append_nil]
  have hloaded : Trace.loaded (front ++ events ++ back) = Trace.loaded events := by
    rw [Trace.loaded_append, Trace.loaded_append, Trace.loaded_of_isAside hfront,
      Trace.loaded_of_isAside hback, List.nil_append, List.append_nil]
  cases h with
  | notLoaded not_loaded no_files stopped =>
      exact .notLoaded (hloaded ▸ not_loaded) (hfiles.trans no_files) stopped
  | configuring configured stopped => exact .configuring (hfiles.symm ▸ configured) stopped
  | reading configured files found => exact .reading configured (hfiles.trans files) found

/-- The local module: loading it opens no file, and configuring it does so as planned. -/
theorem selfFiles_of_loads_bringUpSelf (hload : context.skip.load = false) {target : Target}
    {result : Except RunError (Option Gateway)}
    (h : Loads (bringUpSelf settings context target) {} events result loaded) :
    (∀ event ∈ events, ¬ event.LoadsElsewhere) ∧
      ((.self ∉ Trace.loaded events ∧ Trace.selfFiles events = [] ∧ ∃ e, result = .error e) ∨
        Module.Configured settings context target.code
          settings.timing.gatewayPolicy.maxAttempts.toNat (Trace.selfFiles events) result) := by
  have hfirst : ∀ {first : List Event} {outcome : Except RunError Unit},
      (Module.load settings .self (.ofContext context context.self)).run.Yields first outcome →
        (∀ event ∈ first, ¬ event.LoadsElsewhere) ∧ Trace.selfFiles first = [] := by
    intro first outcome hyields
    have hevents := (Module.loaded_of_yields_load hyields).1
    constructor
    · rintro event hevent ⟨name, path, arguments, heq⟩
      rw [hevents event hevent] at heq
      cases heq
    · exact Trace.selfFiles_eq_nil fun event hevent => by rw [hevents event hevent]; rfl
  unfold bringUpSelf at h
  rw [if_neg (by simp [hload])] at h
  rcases loads_bind_iff.mp h with ⟨e, hfail, rfl⟩ | ⟨first, _, _, _, rfl, hok, hrest⟩
  · obtain ⟨hyields, -⟩ := loads_lift_iff.mp hfail
    obtain ⟨helsewhere, hfiles⟩ := hfirst hyields
    have hloaded : Trace.loaded events = [] := (Module.loaded_of_yields_load hyields).2
    exact ⟨helsewhere, .inl ⟨by simp [hloaded], hfiles, e, rfl⟩⟩
  obtain ⟨hyields, rfl⟩ := loads_lift_iff.mp hok
  obtain ⟨helsewhere, hfiles⟩ := hfirst hyields
  rcases loads_bind_iff.mp hrest with ⟨_, hset, -⟩ | ⟨_, _, _, second, rfl, hset, hconfigure⟩
  · exact nomatch (loads_modify_iff.mp hset).2.1
  obtain ⟨rfl, -, rfl⟩ := loads_modify_iff.mp hset
  obtain ⟨hyields', rfl⟩ := loads_lift_iff.mp hconfigure
  have hquiet : Conforms (fun r => ∀ name path arguments,
      r ≠ .command (.remote name) (.loadModule path arguments)) (fun _ => True)
      (Module.configureSelf settings .self context target.code settings.timing.gatewayPolicy) :=
    Module.conforms_configureSelf (fun _ _ => trivial) context target.code
      (fun _ _ _ _ heq => nomatch heq) (fun _ _ _ _ _ heq => nomatch heq)
      (fun _ _ _ heq => nomatch heq) fun _ => trivial
  constructor
  · intro event hevent
    rcases List.mem_append.mp hevent with hmem | hmem
    · exact helsewhere event hmem
    · rintro ⟨name, path, arguments, heq⟩
      exact (hquiet.of_yields hyields').1 event hmem name path arguments heq
  · right
    rw [Trace.selfFiles_append, hfiles]
    exact Module.configured_of_yields hyields'

/-- After the local module comes the one read of its number.  What follows that opens no
file of the local node, and is there only if a number was shown. -/
theorem selfRead_of_loads_baseline_bind {α : Type} {Q : α → Prop} {start : Loaded}
    {f : UInt64 → LoadingStep α} {result : Except RunError α}
    (hf : ∀ {n start events result loaded}, Loads (f n) start events result loaded →
      Trace.selfFiles events = [] ∧ ∀ a, result = .ok a → Q a)
    (h : Loads (LoadingStep.lift (Observe.baseline settings .self) >>= f) start events result
      loaded) :
    ∃ reply rest, events = [Observe.selfRead settings reply] ++ rest ∧
      Trace.selfFiles rest = [] ∧
      (rest = [] ∨ Observe.ShowsSequence settings (Observe.selfRead settings reply)) ∧
      ∀ a, result = .ok a → Q a := by
  rcases loads_bind_iff.mp h with ⟨e, hfail, rfl⟩ | ⟨first, n, _, rest, rfl, hok, hrest⟩
  · obtain ⟨hyields, -⟩ := loads_lift_iff.mp hfail
    obtain ⟨reply, rfl, -⟩ := Observe.baseline_yields hyields
    exact ⟨reply, [], rfl, rfl, .inl rfl, fun _ heq => nomatch heq⟩
  · obtain ⟨hyields, -⟩ := loads_lift_iff.mp hok
    obtain ⟨reply, rfl, hshows⟩ := Observe.baseline_yields hyields
    obtain ⟨hfiles, hresult⟩ := hf hrest
    exact ⟨reply, rest, rfl, hfiles, .inr (hshows n rfl), hresult⟩

theorem selfFiles_of_loads_bringUpPeer {name : String} {start : Loaded}
    {result : Except RunError UInt64}
    (h : Loads (bringUpPeer settings context (.remote name)) start events result loaded) :
    Trace.selfFiles events = [] :=
  Trace.selfFiles_eq_nil ((ensures_bringUpPeer settings context name start).of_yields h).1

/-- The read keeps the order, with what follows it. -/
theorem preceded_selfRead_append {reply : Execution} {rest : List Event}
    (h : rest = [] ∨ Observe.ShowsSequence settings (Observe.selfRead settings reply)) :
    Trace.Preceded Event.LoadsElsewhere (Observe.ShowsSequence settings)
      ([Observe.selfRead settings reply] ++ rest) := by
  have hread : Trace.Preceded Event.LoadsElsewhere (Observe.ShowsSequence settings)
      [Observe.selfRead settings reply] := by
    apply Trace.preceded_of_forall_not
    rintro event hevent ⟨name, path, arguments, heq⟩
    rw [List.mem_singleton.mp hevent] at heq
    cases heq
  rcases h with rfl | hshows
  · rwa [List.append_nil]
  · exact hread.append (.inl ⟨_, List.mem_singleton_self _, hshows⟩)

/-- Bringing up opens files of the local node to configure the module and then to read
its sequence number, and loads the peer's module only after that read. -/
theorem selfFiles_of_loads_bringUp (hload : context.skip.load = false) {identities : Identities}
    (htarget : identities.target = context.target) {result : Except RunError BringUp}
    (h : Loads (bringUp settings context identities) {} events result loaded) :
    Session.SelfFiles settings context events (result.map (·.gateway)) ∧
      Trace.Preceded Event.LoadsElsewhere (Observe.ShowsSequence settings) events := by
  rw [bringUp, htarget] at h
  rcases loads_bind_iff.mp h with ⟨e, hself, rfl⟩ | ⟨first, gateway, _, _, rfl, hself, hrest⟩
  · obtain ⟨helsewhere, hcases⟩ := selfFiles_of_loads_bringUpSelf hload hself
    refine ⟨?_, Trace.preceded_of_forall_not helsewhere⟩
    rcases hcases with ⟨hloaded, hfiles, _, -⟩ | hconfigured
    · exact .notLoaded hloaded hfiles rfl
    · exact .configuring hconfigured rfl
  obtain ⟨helsewhere, ⟨_, _, _, heq⟩ | hconfigured⟩ := selfFiles_of_loads_bringUpSelf hload hself
  · cases heq
  have hcounted := selfRead_of_loads_baseline_bind (Q := fun up => up.gateway = gateway)
    (fun {n start third last flags} hpeerPart => ?_) hrest
  · obtain ⟨reply, rest, rfl, hfiles, hshows, hgateway⟩ := hcounted
    have hread : Trace.selfFiles (first ++ ([Observe.selfRead settings reply] ++ rest)) =
        Trace.selfFiles first ++ [Observe.selfRead settings reply] := by
      rw [Trace.selfFiles_append, Trace.selfFiles_append, hfiles]
      rfl
    refine ⟨.reading hconfigured hread fun found heq => ?_, ?_⟩
    · cases result with
      | error e => cases heq
      | ok up =>
          cases heq
          exact hgateway up rfl
    · exact (Trace.preceded_of_forall_not helsewhere).append
        (.inr (preceded_selfRead_append hshows))
  · cases hpeer : identities.peer with
    | none =>
        simp only [Identities.peerHost, hpeer, Option.map_none] at hpeerPart
        obtain ⟨rfl, rfl, -⟩ := loads_pure_iff.mp hpeerPart
        refine ⟨rfl, fun up heq => ?_⟩
        cases heq
        rfl
    | some peer =>
        simp only [Identities.peerHost, hpeer, Option.map_some] at hpeerPart
        rcases loads_bind_iff.mp hpeerPart with ⟨e, hfail, rfl⟩ | ⟨_, _, _, _, rfl, hok, hend⟩
        · exact ⟨selfFiles_of_loads_bringUpPeer hfail, fun _ heq => nomatch heq⟩
        · obtain ⟨rfl, rfl, -⟩ := loads_pure_iff.mp hend
          refine ⟨?_, fun up heq => ?_⟩
          · rw [List.append_nil]
            exact selfFiles_of_loads_bringUpPeer hok
          · cases heq
            rfl

end BringingUp

/-! ## Setting up -/

section Setup

variable {settings : Settings} {context : RunContext} {events : List Event}

theorem Session.conforms_isAside_resolve (context : RunContext) :
    Conforms Request.IsAside (fun _ => True) (Identities.resolve context) :=
  Identities.conforms_resolve (fun _ hc hfiles => Request.isAside_of_looking hc hfiles)
    (fun _ _ => trivial) (fun _ _ => trivial) context

theorem Session.conforms_isAside_preflight (settings : Settings) (context : RunContext)
    (identities : Identities) :
    Conforms Request.IsAside (fun _ => True) (preflight settings context identities) :=
  conforms_preflight (fun _ _ => trivial) (fun _ _ => trivial) context identities
    (fun _ hc hfiles => Request.isAside_of_looking hc hfiles)
    (fun _ _ _ hc hfiles => Request.isAside_of_looking hc hfiles)

theorem Session.isAside_of_yields_take {self : String} {peer : Option String}
    {result : Except RunError HeldLocks}
    (h : (HeldLocks.take self peer).run.Yields events result) :
    ∀ event ∈ events, event.1.IsAside := by
  intro event hevent
  obtain ⟨owner, heq⟩ := (HeldLocks.account_of_yields_take h).1 event hevent
  rw [heq]
  exact Request.isAside_acquire owner

/-- Unloading modules and giving locks back is aside. -/
theorem Session.isAside_of_mem_undo {hosts : List Host} {locks : List Lock} {r : Request}
    (h : r ∈ hosts.map (.unload settings) ++ locks.map .release) : r.IsAside := by
  rcases List.mem_append.mp h with hunload | hrelease
  · obtain ⟨host, -, heq⟩ := List.mem_map.mp hunload
    rw [← heq]
    exact Request.isAside_unload settings host
  · obtain ⟨lock, -, heq⟩ := List.mem_map.mp hrelease
    rw [← heq]
    exact Request.isAside_release lock

/-- How a setup comes to bringing up, or does not: what it gives is what that gives. -/
def Session.BringsUp (settings : Settings) (context : RunContext) (window : List Event)
    (result : Except RunError Session) : Prop :=
  (window = [] ∧ ∃ e, result = .error e) ∨
    ∃ identities up loaded, identities.target = context.target ∧
      Loads (bringUp settings context identities) {} window up loaded ∧
      result.map (·.gateway) = up.map (·.gateway)

/-- What comes before bringing up is aside. -/
theorem Session.bringsUp_of_yields_attempt {result : Except RunError Session}
    (h : (attempt settings context).run.Yields events result) :
    ∃ front window, events = front ++ window ∧ (∀ event ∈ front, event.1.IsAside) ∧
      BringsUp settings context window result := by
  have hboth : ∀ {first second : List Event}, (∀ event ∈ first, event.1.IsAside) →
      (∀ event ∈ second, event.1.IsAside) → ∀ event ∈ first ++ second, event.1.IsAside :=
    fun hfirst hsecond event hevent =>
      (List.mem_append.mp hevent).elim (hfirst event) (hsecond event)
  rcases yields_run_bind_iff.mp h with
    ⟨e, hfail, rfl⟩ | ⟨first, identities, _, rfl, hresolve, hchecks⟩
  · exact ⟨events, [], (List.append_nil _).symm,
      ((conforms_isAside_resolve context).of_yields hfail).1, .inl ⟨rfl, e, rfl⟩⟩
  have htarget := ((Identities.gives_target context).of_yields hresolve).2 identities rfl
  have hfirst := ((conforms_isAside_resolve context).of_yields hresolve).1
  rcases yields_run_bind_iff.mp hchecks with
    ⟨e, hfail, rfl⟩ | ⟨second, tools, _, rfl, hpreflight, hlocks⟩
  · exact ⟨_, [], (List.append_nil _).symm,
      hboth hfirst ((conforms_isAside_preflight settings context identities).of_yields hfail).1,
      .inl ⟨rfl, e, rfl⟩⟩
  have hsecond := hboth hfirst
    ((conforms_isAside_preflight settings context identities).of_yields hpreflight).1
  rw [← List.append_assoc]
  rcases yields_run_bind_iff.mp hlocks with
    ⟨e, hfail, rfl⟩ | ⟨third, locks, _, rfl, htake, hbringUp⟩
  · exact ⟨_, [], (List.append_nil _).symm, hboth hsecond (isAside_of_yields_take hfail),
      .inl ⟨rfl, e, rfl⟩⟩
  have hthird := hboth hsecond (isAside_of_yields_take htake)
  rw [← List.append_assoc]
  refine ⟨_, _, rfl, hthird, .inr ?_⟩
  rcases yields_run_bind_iff.mp hbringUp with
    ⟨e, hfail, rfl⟩ | ⟨window, up, _, rfl, hup, rfl, rfl⟩
  · obtain ⟨loaded, hloads⟩ := yields_bringUpPlain_iff.mp hfail
    exact ⟨identities, .error e, loaded, htarget, hloads, rfl⟩
  · obtain ⟨loaded, hloads⟩ := yields_bringUpPlain_iff.mp hup
    rw [List.append_nil]
    exact ⟨identities, .ok up, loaded, htarget, hloads, rfl⟩

/-- What comes behind bringing up is aside too. -/
theorem Session.bringsUp_of_yields_setup {result : Except RunError Session}
    (h : (setup settings context).run.Yields events result) :
    ∃ front window back, events = front ++ window ++ back ∧
      (∀ event ∈ front, event.1.IsAside) ∧ (∀ event ∈ back, event.1.IsAside) ∧
      BringsUp settings context window result := by
  obtain ⟨before, after, rfl, hattempt, hafter⟩ := (setup_takesBack _ _).mp h
  obtain ⟨front, window, rfl, hfront, hup⟩ := bringsUp_of_yields_attempt hattempt
  refine ⟨front, window, after, rfl, hfront, ?_, hup⟩
  cases result with
  | ok session =>
      obtain rfl := List.map_eq_nil_iff.mp hafter
      simp
  | error e =>
      exact fun event hevent => isAside_of_mem_undo (Trace.request_mem_of_map_eq hafter hevent)

/-- Files of the local node, and the order of the modules, over a whole setup. -/
theorem Session.selfFiles_of_yields_setup (hload : context.skip.load = false)
    {result : Except RunError Session}
    (h : (setup settings context).run.Yields events result) :
    SelfFiles settings context events (result.map (·.gateway)) ∧
      Trace.Preceded Event.LoadsElsewhere (Observe.ShowsSequence settings) events := by
  obtain ⟨front, window, back, rfl, hfront, hback, hup⟩ := bringsUp_of_yields_setup h
  have hwindow : SelfFiles settings context window (result.map (·.gateway)) ∧
      Trace.Preceded Event.LoadsElsewhere (Observe.ShowsSequence settings) window := by
    rcases hup with ⟨rfl, e, rfl⟩ | ⟨identities, up, loaded, htarget, hloads, hresult⟩
    · exact ⟨.notLoaded (by simp [Trace.loaded]) rfl rfl,
        Trace.preceded_of_forall_not (by simp)⟩
    · rw [hresult]
      exact selfFiles_of_loads_bringUp hload htarget hloads
  have hquiet : Trace.Preceded Event.LoadsElsewhere (Observe.ShowsSequence settings) front :=
    Trace.preceded_of_forall_not (Trace.not_loadsElsewhere_of_isAside hfront)
  refine ⟨hwindow.1.aside hfront hback, ?_⟩
  exact (hquiet.append (.inr hwindow.2)).append
    (.inr (Trace.preceded_of_forall_not (Trace.not_loadsElsewhere_of_isAside hback)))

/-! ## Looks -/

theorem Module.IsLook.opensSelfFiles {r : Request} (h : IsLook settings r) :
    r.opensSelfFiles = true := by
  obtain ⟨name, -, rfl⟩ := h
  rfl

theorem Module.not_isLook_of_isAside {r : Request} (h : r.IsAside) : ¬ IsLook settings r := by
  intro hlook
  exact Bool.false_ne_true (h.1.symm.trans hlook.opensSelfFiles)

theorem ignores_bringUpSelf (target : Target) (start : Loaded) :
    ((bringUpSelf settings context target).run.run start).Ignores (Module.IsLook settings) := by
  have hload : Conforms (fun r => ¬ Module.IsLook settings r) (fun _ => True)
      (Module.load settings .self (.ofContext context context.self)) :=
    Module.conforms_load (fun _ _ => trivial) (fun _ _ => trivial) fun ⟨_, _, heq⟩ =>
      nomatch heq
  have hconfigure := Module.ignores_configureSelf settings context target.code
    settings.timing.gatewayPolicy
  unfold bringUpSelf
  split
  · trivial
  · refine LoadingStep.ignores_bind (LoadingStep.ignores_lift hload.ignores) (fun _ => ?_) start
    refine LoadingStep.ignores_bind (fun _ => trivial) fun _ => ?_
    exact LoadingStep.ignores_lift hconfigure

/-- The looks at the routing of IPv4 make no difference to bringing up. -/
theorem ignores_bringUp (identities : Identities) (start : Loaded) :
    ((bringUp settings context identities).run.run start).Ignores (Module.IsLook settings) := by
  have hbaseline : Conforms (fun r => ¬ Module.IsLook settings r) (fun _ => True)
      (Observe.baseline settings .self) :=
    Observe.conforms_baseline (fun _ _ => trivial)
      (Module.not_isLook_readFile settings (by decide))
  refine LoadingStep.ignores_bind (ignores_bringUpSelf identities.target) (fun gateway => ?_) start
  refine LoadingStep.ignores_bind (LoadingStep.ignores_lift hbaseline.ignores) fun n => ?_
  cases hpeer : identities.peer with
  | none =>
      simp only [Identities.peerHost, hpeer, Option.map_none]
      exact fun _ => trivial
  | some peer =>
      simp only [Identities.peerHost, hpeer, Option.map_some]
      refine LoadingStep.ignores_bind (fun start => ?_) fun _ _ => trivial
      have hquiet := ensures_bringUpPeer settings context peer.hostname start
      refine (hquiet.mono (fun r hr hlook => ?_) fun _ h => h).ignores
      exact Bool.false_ne_true (hr.symm.trans hlook.opensSelfFiles)

/-- Nor do they make any to taking the locks, or to taking anything back. -/
theorem Session.ignores_setup (settings : Settings) (context : RunContext) :
    (setup settings context).run.Ignores (Module.IsLook settings) := by
  have haside : ∀ r : Request, r.IsAside → ¬ Module.IsLook settings r :=
    fun _ => Module.not_isLook_of_isAside
  have hresolve := (conforms_isAside_resolve context).mono haside fun _ h => h
  have hlocks : ∀ self peer,
      (HeldLocks.acquire self peer).Ensures Request.IsAside fun _ => True := by
    intro self peer
    refine Program.ensures_of_forall_yields fun events result hyields => ⟨?_, trivial⟩
    obtain ⟨before, after, rfl, htake, hafter⟩ := (HeldLocks.acquire_takesBack _ _).mp hyields
    intro event hevent
    rcases List.mem_append.mp hevent with hmem | hmem
    · exact isAside_of_yields_take htake event hmem
    · have hrelease := Trace.request_mem_of_map_eq hafter hmem
      split at hrelease
      · cases hrelease
      · obtain ⟨lock, -, heq⟩ := List.mem_map.mp hrelease
        exact heq ▸ Request.isAside_release lock
  refine ignores_run_bind hresolve.ignores fun identities => ?_
  have hpreflight := (conforms_isAside_preflight settings context identities).mono haside
    fun _ h => h
  refine ignores_run_bind hpreflight.ignores fun tools => ?_
  refine ignores_run_bind ((hlocks _ _).mono haside fun _ h => h).ignores fun locks => ?_
  refine (ignores_bringUp identities {}).bind fun up => ?_
  obtain ⟨up | e, loaded⟩ := up
  · have hback := (recites_rollBack settings identities loaded locks).ensures
      fun r hr => haside r (isAside_of_mem_undo hr)
    exact hback.ignores.bind fun _ => trivial
  · trivial

end Setup

/-- Surroundings in which the next hop is there at the second probe. -/
def Surroundings.resolvingLate : Surroundings where
  execute past host command :=
    let probe : Command := .readFile "/sys/module/modttpoe/parameters/nhmac"
    if command = probe then
      let known := past.any fun event => event.1 = .command host probe
      .ok { stdout := if known then "02:00:00:00:00:01" else "00:00:00:00:00:00" }
    else (showing { stdout := "5" }).execute past host command
  together _ _ := []

end TtpConformance
