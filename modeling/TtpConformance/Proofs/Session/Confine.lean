import TtpConformance.Proofs.Session.Window

/-!
# What the flags of a run leave to it

A run can be told to leave the peer alone, to load no module, to unload none, and to send
no frames.  Three of the flags bound every request of the run, in whichever phase it is
made, and whether the phase comes to its end or not.  The fourth only bounds a run that was
set up, since what a setup has loaded is taken back in any case.

The phases are those of the window, but they are told apart here by what they may ask for:
until the run is set up, while its scenarios are played, and at its end.

## Main definitions

* `RunContext.Confines` — what the flags of a run leave to it.
* `Identities.Prepares`, `Identities.Dissolves` — what is asked for before and after the
  scenarios.
* `RunPhases` — the phases of a run.

## Main statements

* `runPhases_of_yields` — every run goes through these phases.
* `runSession_confined` — the flags confine a run.
-/

namespace TtpConformance

/-! ## Requests by what they do -/

namespace Command

/-- Whether a command loads a module.  A command line of somebody else may. -/
def loadsModule : Command → Bool
  | .loadModule .. | .shell _ => true
  | _ => false

/-- Whether a command unloads a module.  A command line of somebody else may. -/
def unloadsModule : Command → Bool
  | .unloadModule _ | .shell _ => true
  | _ => false

/-- Whether a command sends frames.  A command line of somebody else may. -/
def sendsFrames : Command → Bool
  | .sendFrames _ | .shell _ => true
  | _ => false

/-- Whether a command may set a parameter of a module: it writes a line to a file, or
something to a file other than the debug device. -/
def setsParameter (settings : Settings) : Command → Bool
  | .writeFile .. | .shell _ => true
  | .copyFile _ path | .writeText path _ => path != settings.debugDevice
  | _ => false

variable {settings : Settings} {command : Command}

variable (settings) in
theorem confined_of_not_changesState (h : command.changesState = false) :
    command.loadsModule = false ∧ command.setsParameter settings = false ∧
      command.unloadsModule = false ∧ command.sendsFrames = false := by
  cases command <;> first | exact ⟨rfl, rfl, rfl, rfl⟩ | cases h

end Command

/-- Frames are sent from the host. -/
def Request.SendsFrom (host : Host) (r : Request) : Prop :=
  ∃ command, (host, command) ∈ r.jobs ∧ command.sendsFrames = true

theorem Request.not_sendsFrom {r : Request} (h : ∀ job ∈ r.jobs, job.2.sendsFrames = false)
    (host : Host) : ¬ r.SendsFrom host := by
  rintro ⟨command, hjob, hsends⟩
  exact Bool.false_ne_true ((h _ hjob).symm.trans hsends)

/-- A program was looked for on the host, and found. -/
def Event.Finds (program : String) (host : Host) (event : Event) : Prop :=
  ∃ output : Output, event = ⟨.command host (.testProgram program), .ok output⟩ ∧
    output.succeeded = true

/-- What the flags of a run leave to it. -/
structure RunContext.Confines (settings : Settings) (context : RunContext) (r : Request) :
    Prop where
  remote : context.skip.remote = true → ∀ job ∈ r.jobs, job.1 = .self
  load : context.skip.load = true → ∀ job ∈ r.jobs,
    job.2.loadsModule = false ∧ job.2.setsParameter settings = false
  packet : context.skip.packet = true → ∀ job ∈ r.jobs, job.2.sendsFrames = false

/-- The node has the frame generator, as far as the session knows. -/
def Session.HasGenerator (session : Session) : Host → Prop
  | .self => session.tools.selfGenerator = true
  | .remote name => session.identities.peerHost = some (.remote name) ∧
      session.tools.peerGenerator = true

/-- What a run asks for until it is set up, once it is known who takes part. -/
inductive Identities.Prepares (settings : Settings) (context : RunContext)
    (identities : Identities) : Request → Prop where
  | check {host : Host} {command : Command} (hhost : identities.Hosts host)
      (hquery : command.changesState = false) :
      Prepares settings context identities (.command host command)
  | lock {owner : String} (howner : owner = identities.self.hostname ∨
      identities.peer.map (·.hostname) = some owner) :
      Prepares settings context identities (.acquire owner)
  | bringUp {host : Host} {r : Request} (hhost : identities.Hosts host)
      (hr : r.BringsUp settings context host) : Prepares settings context identities r

/-- What a run asks for at its end, or to take a setup back. -/
inductive Identities.Dissolves (settings : Settings) (identities : Identities) :
    Request → Prop where
  | unload {host : Host} (hhost : identities.Hosts host) :
      Dissolves settings identities (.unload settings host)
  | release (lock : Lock) : Dissolves settings identities (.release lock)

section Bounds

variable {settings : Settings} {context : RunContext} {identities : Identities}
variable {session : Session} {r : Request}

theorem RunContext.confines_command {host : Host} {command : Command}
    (hremote : context.skip.remote = true → host = .self)
    (hload : context.skip.load = true →
      command.loadsModule = false ∧ command.setsParameter settings = false)
    (hpacket : context.skip.packet = true → command.sendsFrames = false) :
    context.Confines settings (.command host command) where
  remote hskip := by simpa [Request.jobs] using hremote hskip
  load hskip := by simpa [Request.jobs] using hload hskip
  packet hskip := by simpa [Request.jobs] using hpacket hskip

/-- What runs no command is left to every run. -/
theorem RunContext.confines_of_jobs (h : r.jobs = []) : context.Confines settings r where
  remote _ := by simp [h]
  load _ := by simp [h]
  packet _ := by simp [h]

theorem RunContext.confines_query {host : Host} {command : Command}
    (hremote : context.skip.remote = true → host = .self)
    (hquery : command.changesState = false) :
    context.Confines settings (.command host command) := by
  obtain ⟨hload, hsets, -, hsends⟩ := Command.confined_of_not_changesState settings hquery
  exact confines_command hremote (fun _ => ⟨hload, hsets⟩) fun _ => hsends

/-- Where there is no peer, only the local node takes part. -/
theorem Identities.Hosts.eq_self {host : Host} (h : identities.Hosts host)
    (hpeer : identities.peer = none) : host = .self := by
  rcases h with rfl | h
  · rfl
  · rw [peerHost, hpeer] at h
    cases h

section Preparing

variable (h : identities.Prepares settings context r)

include h

/-- Setting up only touches nodes that take part. -/
theorem Identities.Prepares.hosts_of_jobs {job : Host × Command} (hjob : job ∈ r.jobs) :
    identities.Hosts job.1 := by
  cases h with
  | check hhost =>
      obtain rfl := List.mem_singleton.mp hjob
      exact hhost
  | lock => cases hjob
  | bringUp hhost hr =>
      cases hr with
      | pause => cases hjob
      | load | write | read =>
          obtain rfl := List.mem_singleton.mp hjob
          exact hhost

theorem Identities.Prepares.confines
    (hpeer : context.skip.remote = true → identities.peer = none) :
    context.Confines settings r := by
  cases h with
  | check hhost hquery =>
      exact RunContext.confines_query (fun hskip => hhost.eq_self (hpeer hskip)) hquery
  | lock => exact RunContext.confines_of_jobs rfl
  | @bringUp host _ hhost hr =>
      have hremote : context.skip.remote = true → host = .self :=
        fun hskip => hhost.eq_self (hpeer hskip)
      cases hr with
      | load hload | write hload =>
          refine RunContext.confines_command hremote (fun hskip => ?_) fun _ => rfl
          rw [hload] at hskip
          cases hskip
      | read => exact RunContext.confines_query hremote rfl
      | pause => exact RunContext.confines_of_jobs rfl

/-- Nothing is unloaded and no frame is sent while a run is set up. -/
theorem Identities.Prepares.not_unloads_not_sends :
    ∀ job ∈ r.jobs, job.2.unloadsModule = false ∧ job.2.sendsFrames = false := by
  cases h with
  | check hhost hquery =>
      obtain ⟨-, -, hunloads, hsends⟩ :=
        Command.confined_of_not_changesState settings hquery
      simpa [Request.jobs] using ⟨hunloads, hsends⟩
  | lock => simp [Request.jobs]
  | bringUp hhost hr =>
      cases hr <;> simp [Request.jobs, Request.load, Command.unloadsModule, Command.sendsFrames]

end Preparing

theorem Identities.Prepares.owner {owner : String}
    (h : identities.Prepares settings context (.acquire owner)) :
    owner = identities.self.hostname ∨ identities.peer.map (·.hostname) = some owner := by
  cases h with
  | lock howner => exact howner
  | bringUp _ hr => cases hr

theorem Identities.Dissolves.confines (h : identities.Dissolves settings r)
    (hpeer : context.skip.remote = true → identities.peer = none) :
    context.Confines settings r := by
  cases h with
  | unload hhost =>
      exact RunContext.confines_command (fun hskip => hhost.eq_self (hpeer hskip))
        (fun _ => ⟨rfl, rfl⟩) fun _ => rfl
  | release => exact RunContext.confines_of_jobs rfl

theorem Identities.Dissolves.not_sends (h : identities.Dissolves settings r) :
    ∀ job ∈ r.jobs, job.2.sendsFrames = false := by
  cases h <;> simp [Request.jobs, Request.unload, Command.sendsFrames]

/-- What scenarios ask for is left to them by the requirements that the run meets. -/
theorem Stage.AllowsSome.confines {scenarios : List Scenario}
    (h : AllowsSome ⟨settings, session⟩ scenarios r)
    (hpeer : session.context.skip.remote = true → session.identities.peer = none) :
    session.context.Confines settings r := by
  obtain ⟨scenario, -, hskip, hr⟩ := h
  have hmet : ∀ {requirement}, requirement ∈ scenario.requires →
      requirement.unmetReason? session = none := Scenario.met_of_skipReason?_eq_none hskip
  cases r with
  | pause => exact RunContext.confines_of_jobs rfl
  | together | acquire | release => exact hr.elim
  | command host command =>
      obtain ⟨hhost, hallowed⟩ := hr
      have hremote : session.context.skip.remote = true → host = .self :=
        fun hskip => Identities.Hosts.eq_self hhost (hpeer hskip)
      cases command with
      | readFile | compareFiles => exact RunContext.confines_query hremote rfl
      | copyFile | writeText =>
          refine RunContext.confines_command hremote (fun _ => ⟨rfl, ?_⟩) fun _ => rfl
          simpa [Command.setsParameter] using hallowed
      | writeFile =>
          refine RunContext.confines_command hremote (fun hload => ?_) fun _ => rfl
          have hreload := hmet hallowed
          simp [Requirement.unmetReason?, hload] at hreload
      | sendFrames =>
          refine RunContext.confines_command hremote (fun _ => ⟨rfl, rfl⟩) fun hpacket => ?_
          have hwanted := hmet hallowed.1
          simp [Requirement.unmetReason?, hpacket] at hwanted
      | _ => exact hallowed.elim

/-- Scenarios unload nothing. -/
theorem Stage.AllowsSome.not_unloads {s : Stage} {scenarios : List Scenario}
    (h : s.AllowsSome scenarios r) : ∀ job ∈ r.jobs, job.2.unloadsModule = false := by
  obtain ⟨scenario, -, -, hr⟩ := h
  cases r with
  | pause => simp [Request.jobs]
  | together | acquire | release => exact hr.elim
  | command host command =>
      cases command <;> first | exact hr.2.elim | simp [Request.jobs, Command.unloadsModule]

/-- Scenarios send frames only from nodes that have the generator. -/
theorem Stage.AllowsSome.hasGenerator {scenarios : List Scenario} {host : Host}
    (h : AllowsSome ⟨settings, session⟩ scenarios r) (hsends : r.SendsFrom host) :
    session.HasGenerator host := by
  obtain ⟨scenario, -, hskip, hr⟩ := h
  obtain ⟨sent, hjob, hsends⟩ := hsends
  cases r with
  | pause | acquire | release => cases hjob
  | together => exact hr.elim
  | command node command =>
      obtain ⟨rfl, rfl⟩ : host = node ∧ sent = command := by simpa [Request.jobs] using hjob
      cases sent with
      | sendFrames =>
          obtain ⟨hhost, -, hgenerator⟩ := hr
          have hmet := Scenario.met_of_skipReason?_eq_none hskip hgenerator
          cases host with
          | self =>
              simpa [Session.HasGenerator, Requirement.generatorOn, Requirement.unmetReason?]
                using hmet
          | remote name =>
              refine ⟨hhost.resolve_left (by simp), ?_⟩
              simpa [Requirement.generatorOn, Requirement.unmetReason?] using hmet
      | _ => first | exact hr.2.elim | cases hsends

end Bounds

/-! ## Setting up -/

/-- Taking locks asks for those of the given nodes. -/
theorem HeldLocks.owner_of_yields_take {self : String} {peer : Option String}
    {events : List Event} {result : Except RunError HeldLocks}
    (h : (take self peer).run.Yields events result) :
    ∀ event ∈ events, ∃ owner, event.1 = .acquire owner ∧
      (owner = self ∨ peer = some owner) := by
  cases yields_take_iff.mp h <;> simp

/-- Looking for a program finds it if it answers yes. -/
theorem Step.finds_of_succeeds_hasProgram {host : Host} {program : String} {events : List Event}
    (h : Succeeds (Step.hasProgram host program) events true) :
    ∃ event ∈ events, event.Finds program host := by
  obtain ⟨first, output, _, rfl, hexecute, rfl, hsucceeded⟩ := succeeds_bind_iff.mp h
  obtain ⟨reply, rfl, hreply⟩ := Step.execute_yields_iff.mp hexecute
  cases reply with
  | error reason => cases hreply
  | ok output' =>
      cases hreply
      injection hsucceeded with hsucceeded
      exact ⟨_, List.mem_append_left _ (List.mem_singleton_self _), output, rfl,
        hsucceeded.symm⟩

section SettingUp

variable {settings : Settings} {context : RunContext} {events : List Event}

/-- The checks know of a generator on a node only if they have found it there. -/
theorem finds_of_succeeds_preflight {identities : Identities} {tools : Tools}
    (h : Succeeds (preflight settings context identities) events tools) :
    (tools.selfGenerator = true → ∃ event ∈ events, event.Finds settings.trafgen .self) ∧
      (tools.peerGenerator = true → ∃ peer, identities.peerHost = some peer ∧
        ∃ event ∈ events, event.Finds settings.trafgen peer) := by
  obtain ⟨first, _, _, rfl, -, h⟩ := succeeds_bind_iff.mp h
  obtain ⟨second, selfGenerator, rest, rfl, hself, h⟩ := succeeds_bind_iff.mp h
  have hfound : selfGenerator = true →
      ∃ event ∈ first ++ (second ++ rest), event.Finds settings.trafgen .self := by
    rintro rfl
    obtain ⟨event, hevent, hfinds⟩ := Step.finds_of_succeeds_hasProgram hself
    exact ⟨event, by simp [hevent], hfinds⟩
  split at h
  · obtain ⟨rfl, heq⟩ := h
    cases heq
    exact ⟨hfound, fun heq => nomatch heq⟩
  · rename_i peer hpeer
    obtain ⟨third, peerGenerator, _, rfl, hpeerCheck, rfl, heq⟩ := succeeds_bind_iff.mp h
    cases heq
    refine ⟨hfound, fun hset => ⟨peer, hpeer, ?_⟩⟩
    obtain rfl : peerGenerator = true := hset
    obtain ⟨fourth, _, _, rfl, -, hpeerCheck⟩ := succeeds_bind_iff.mp hpeerCheck
    obtain ⟨fifth, link, sixth, rfl, -, hpeerCheck⟩ := succeeds_bind_iff.mp hpeerCheck
    cases link with
    | false => cases hpeerCheck.2
    | true =>
        obtain ⟨event, hevent, hfinds⟩ := Step.finds_of_succeeds_hasProgram hpeerCheck
        exact ⟨event, by simp [hevent], hfinds⟩

/-- The plain way of setting up finds out who takes part, and then only prepares. -/
theorem Session.prepares_of_yields_attempt {result : Except RunError Session}
    (h : (attempt settings context).run.Yields events result) :
    (∃ e, Fails (Identities.resolve context) events e ∧ result = .error e) ∨
      ∃ first identities second, events = first ++ second ∧
        Succeeds (Identities.resolve context) first identities ∧
        (∀ event ∈ second, identities.Prepares settings context event.1) ∧
        ∀ session, result = .ok session →
          session.context = context ∧ session.identities = identities ∧
            ∀ host, session.HasGenerator host →
              ∃ event ∈ second, event.Finds settings.trafgen host := by
  rcases yields_run_bind_iff.mp h with ⟨e, hfail, rfl⟩ | ⟨first, identities, rest, rfl, hok, h⟩
  · exact .inl ⟨e, hfail, rfl⟩
  refine .inr ⟨first, identities, rest, rfl, hok, ?_⟩
  have hchecks : ∀ {events result}, (preflight settings context identities).run.Yields events
      result → ∀ event ∈ events, identities.Prepares settings context event.1 := by
    intro events result hyields
    refine ((conforms_preflight (E := fun _ => True) (fun _ _ => trivial) (fun _ _ => trivial)
      context identities ?_ ?_).of_yields hyields).1
    · exact fun _ hquery _ => .check (.inl rfl) hquery
    · exact fun _ hpeer _ hquery _ => .check (.inr hpeer) hquery
  rcases yields_run_bind_iff.mp h with
    ⟨e, hfail, rfl⟩ | ⟨checks, tools, rest, rfl, hpreflight, h⟩
  · exact ⟨hchecks hfail, fun _ heq => nomatch heq⟩
  have hlocks : ∀ {events result}, (HeldLocks.take identities.self.hostname
      (identities.peer.map (·.hostname))).run.Yields events result →
      ∀ event ∈ events, identities.Prepares settings context event.1 := by
    intro events result hyields event hevent
    obtain ⟨owner, heq, howner⟩ := HeldLocks.owner_of_yields_take hyields event hevent
    exact heq ▸ .lock howner
  rcases yields_run_bind_iff.mp h with ⟨e, hfail, rfl⟩ | ⟨locking, locks, rest, rfl, htake, h⟩
  · refine ⟨fun event hevent => ?_, fun _ heq => nomatch heq⟩
    exact (List.mem_append.mp hevent).elim (hchecks hpreflight event) (hlocks hfail event)
  have hforward : ∀ {events result}, (bringUpPlain settings context identities).run.Yields
      events result → ∀ event ∈ events, identities.Prepares settings context event.1 := by
    intro events result hyields event hevent
    obtain ⟨loaded, hloads⟩ := yields_bringUpPlain_iff.mp hyields
    obtain ⟨host, hhost, hr⟩ := ((obeys_bringUp identities {}).of_yields hloads).1 event hevent
    exact .bringUp hhost hr
  have hbefore : ∀ event ∈ checks ++ locking, identities.Prepares settings context event.1 :=
    fun event hevent =>
      (List.mem_append.mp hevent).elim (hchecks hpreflight event) (hlocks htake event)
  rw [← List.append_assoc]
  rcases yields_run_bind_iff.mp h with ⟨e, hfail, rfl⟩ | ⟨window, up, _, rfl, hup, rfl, rfl⟩
  · refine ⟨fun event hevent => ?_, fun _ heq => nomatch heq⟩
    exact (List.mem_append.mp hevent).elim (hbefore event) (hforward hfail event)
  · rw [List.append_nil]
    refine ⟨fun event hevent => ?_, fun session heq => ?_⟩
    · exact (List.mem_append.mp hevent).elim (hbefore event) (hforward hup event)
    · cases heq
      refine ⟨rfl, rfl, fun host hgenerator => ?_⟩
      obtain ⟨hself, hpeer⟩ := finds_of_succeeds_preflight hpreflight
      have hfinds : ∃ event ∈ checks, event.Finds settings.trafgen host := by
        cases host with
        | self => exact hself hgenerator
        | remote name =>
            obtain ⟨peer, hsome, hfinds⟩ := hpeer hgenerator.2
            obtain rfl := Option.some.inj (hsome.symm.trans hgenerator.1)
            exact hfinds
      obtain ⟨event, hevent, hfinds⟩ := hfinds
      exact ⟨event, by simp [hevent], hfinds⟩

/-- What takes back a setup concerns nodes that take part. -/
theorem Identities.dissolves_of_undoing {identities : Identities}
    (h : ∀ event ∈ events, identities.Prepares settings context event.1) :
    ∀ r ∈ undoing settings events, identities.Dissolves settings r := by
  intro r hr
  rcases List.mem_append.mp hr with hunload | hrelease
  · obtain ⟨host, hhost, rfl⟩ := List.mem_map.mp hunload
    obtain ⟨event, hevent, hloaded⟩ := List.mem_filterMap.mp hhost
    obtain ⟨path, arguments, heq⟩ := Event.load_of_loadedOn?_eq_some hloaded
    have hjob : (host, Command.loadModule path arguments) ∈ event.1.jobs := by
      rw [heq]
      exact List.mem_singleton_self _
    exact .unload ((h event hevent).hosts_of_jobs hjob)
  · obtain ⟨lock, -, rfl⟩ := List.mem_map.mp hrelease
    exact .release lock

/-! ## The phases of a run -/

variable (settings context) in
/-- The phases of a run, as far as it has come. -/
inductive RunPhases : List Event → Prop where
  /-- It was not found out who takes part. -/
  | unresolved {asked : List Event} {e : RunError}
      (hresolve : Fails (Identities.resolve context) asked e) : RunPhases asked
  /-- The setup has failed and was taken back. -/
  | failed {first second back : List Event} {identities : Identities} {e : RunError}
      (hresolve : Succeeds (Identities.resolve context) first identities)
      (hprepare : ∀ event ∈ second, identities.Prepares settings context event.1)
      (hback : ∀ event ∈ back, identities.Dissolves settings event.1)
      (hsetup : Fails (Session.setup settings context) (first ++ second ++ back) e) :
      RunPhases (first ++ second ++ back)
  /-- The scenarios were played, as far as they could be, and the run has ended. -/
  | played {first second work down : List Event} {session : Session}
      (hresolve : Succeeds (Identities.resolve context) first session.identities)
      (hprepare : ∀ event ∈ second, session.identities.Prepares settings context event.1)
      (hcontext : session.context = context)
      (hfound : ∀ host, session.HasGenerator host →
        ∃ event ∈ second, event.Finds settings.trafgen host)
      (hwork : ∀ event ∈ work, Stage.AllowsSome ⟨settings, session⟩ schedule event.1)
      (hdown : ∀ event ∈ down, session.identities.Dissolves settings event.1)
      (hstay : context.skip.unload = true → ∀ event ∈ down, event.1.jobs = []) :
      RunPhases (first ++ second ++ work ++ down)

variable (settings) in
/-- Giving locks back is dissolving, and runs no command. -/
theorem Identities.dissolves_of_releases (identities : Identities) {locks : List Lock}
    (h : events.map Sigma.fst = locks.map .release) :
    ∀ event ∈ events, identities.Dissolves settings event.1 ∧ event.1.jobs = [] := by
  intro event hevent
  obtain ⟨lock, -, hlock⟩ := List.mem_map.mp (Trace.request_mem_of_map_eq h hevent)
  rw [← hlock]
  exact ⟨.release lock, rfl⟩

/-- Taking a run down is dissolving, and runs no command if the modules are to stay. -/
theorem Session.dissolves_of_yields_teardown {session : Session} {u : Unit}
    (h : (session.teardown settings).Yields events u) :
    (∀ event ∈ events, session.identities.Dissolves settings event.1) ∧
      (session.context.skip.unload = true → ∀ event ∈ events, event.1.jobs = []) := by
  obtain ⟨unloads, releases, rfl, hunloads, hreleases⟩ :=
    List.map_eq_append_iff.mp ((recites_teardown settings session _ _).mp h)
  have hlast := session.identities.dissolves_of_releases settings hreleases
  split at hunloads
  · obtain rfl := List.map_eq_nil_iff.mp hunloads
    exact ⟨fun event hevent => (hlast event hevent).1, fun _ event hevent =>
      (hlast event hevent).2⟩
  · rename_i hskip
    refine ⟨fun event hevent => ?_, fun hstay => absurd hstay hskip⟩
    rcases List.mem_append.mp hevent with hevent | hevent
    · obtain ⟨host, hhost, heq⟩ := List.mem_map.mp (Trace.request_mem_of_map_eq hunloads hevent)
      rw [← heq]
      rcases List.mem_cons.mp hhost with rfl | hpeer
      · exact .unload (.inl rfl)
      · exact .unload (.inr (Option.mem_toList.mp hpeer))
    · exact (hlast event hevent).1

/-- A session only asks for what its scenarios may ask for, and then dissolves. -/
theorem Session.works_of_yields_conclude {session : Session}
    {result : Except RunError (Option RunReport)}
    (h : (session.conclude settings).run.Yields events result) :
    ∃ work down, events = work ++ down ∧
      (∀ event ∈ work, Stage.AllowsSome ⟨settings, session⟩ schedule event.1) ∧
      (∀ event ∈ down, session.identities.Dissolves settings event.1) ∧
      (session.context.skip.unload = true → ∀ event ∈ down, event.1.jobs = []) := by
  obtain ⟨work, report?, down, rfl, -, hwork, hdown⟩ := finish_of_yields_conclude h
  refine ⟨work, down, rfl, (Stage.ensures_playAll.of_yields hwork).1, ?_⟩
  cases report? with
  | none =>
      have hlast := session.identities.dissolves_of_releases settings
        ((session.locks.recites_release _ _).mp hdown)
      exact ⟨fun event hevent => (hlast event hevent).1, fun _ event hevent =>
        (hlast event hevent).2⟩
  | some report => exact dissolves_of_yields_teardown hdown

/-- Every run goes through these phases, however far it comes. -/
theorem runPhases_of_yields {result : Except RunError (Option RunReport)}
    (h : (runSession settings context).run.Yields events result) :
    RunPhases settings context events := by
  rw [runSession_eq] at h
  rcases yields_run_bind_iff.mp h with ⟨e, hsetup, rfl⟩ | ⟨_, session, rest, rfl, hsetup, hrest⟩
  · obtain ⟨before, after, rfl, hattempt, hafter⟩ := (Session.setup_takesBack _ _).mp hsetup
    rcases Session.prepares_of_yields_attempt hattempt with
      ⟨e, hresolve, -⟩ | ⟨first, identities, second, rfl, hresolve, hprepare, -⟩
    · have hquiet := Trace.isWork_of_isQuery (Session.queries_resolve hresolve)
      obtain rfl : after = [] := List.map_eq_nil_iff.mp (hafter.trans (undoing_eq_nil hquiet))
      rw [List.append_nil]
      exact .unresolved hresolve
    · refine .failed hresolve hprepare (fun event hevent => ?_) hsetup
      have hquiet := Trace.isWork_of_isQuery (Session.queries_resolve hresolve)
      have hback := hafter.trans (undoing_append_of_isWork hquiet)
      exact Identities.dissolves_of_undoing hprepare _
        (Trace.request_mem_of_map_eq hback hevent)
  · obtain ⟨before, after, rfl, hattempt, hafter⟩ := (Session.setup_takesBack _ _).mp hsetup
    obtain rfl := List.map_eq_nil_iff.mp hafter
    rcases Session.prepares_of_yields_attempt hattempt with
      ⟨e, -, heq⟩ | ⟨first, identities, second, rfl, hresolve, hprepare, hsession⟩
    · cases heq
    · obtain ⟨hcontext, rfl, hfound⟩ := hsession session rfl
      obtain ⟨work, down, rfl, hwork, hdown, hstay⟩ := Session.works_of_yields_conclude hrest
      rw [List.append_nil, ← List.append_assoc]
      exact .played hresolve hprepare hcontext hfound hwork hdown (hcontext ▸ hstay)

/-! ## What the phases have in common -/

variable (settings) in
/-- Finding out who takes part is left to every run, and unloads nothing and sends no
frames. -/
theorem Session.confines_of_yields_resolve {result : Except RunError Identities}
    (h : (Identities.resolve context).run.Yields events result) :
    ∀ event ∈ events, context.Confines settings event.1 ∧
      ∀ job ∈ event.1.jobs, job.2.unloadsModule = false ∧ job.2.sendsFrames = false := by
  refine ((Identities.conforms_resolve (E := fun _ => True)
    (P := fun r => context.Confines settings r ∧
      ∀ job ∈ r.jobs, job.2.unloadsModule = false ∧ job.2.sendsFrames = false)
    ?_ (fun _ _ => trivial) (fun _ _ => trivial) context).of_yields h).1
  intro command hquery _
  obtain ⟨-, -, hunloads, hsends⟩ :=
    Command.confined_of_not_changesState settings hquery
  refine ⟨RunContext.confines_query (fun _ => rfl) hquery, fun job hjob => ?_⟩
  obtain rfl := List.mem_singleton.mp hjob
  exact ⟨hunloads, hsends⟩

/-- A run that is to leave the peer alone has none, once it is known who takes part. -/
theorem Session.noPeer_of_succeeds_resolve {identities : Identities}
    (h : Succeeds (Identities.resolve context) events identities) :
    context.skip.remote = true → identities.peer = none := fun hskip =>
  ((Identities.gives_noPeer hskip).of_yields h).2 identities rfl

namespace RunPhases

variable (h : RunPhases settings context events)

include h

theorem confines : ∀ event ∈ events, context.Confines settings event.1 := by
  cases h with
  | unresolved hresolve =>
      exact fun event hevent => (Session.confines_of_yields_resolve settings hresolve event hevent).1
  | failed hresolve hprepare hback =>
      have hpeer := Session.noPeer_of_succeeds_resolve hresolve
      intro event hevent
      simp only [List.mem_append] at hevent
      rcases hevent with (hevent | hevent) | hevent
      · exact (Session.confines_of_yields_resolve settings hresolve event hevent).1
      · exact (hprepare event hevent).confines hpeer
      · exact (hback event hevent).confines hpeer
  | played hresolve hprepare hcontext hfound hwork hdown =>
      have hpeer := Session.noPeer_of_succeeds_resolve hresolve
      intro event hevent
      simp only [List.mem_append] at hevent
      rcases hevent with ((hevent | hevent) | hevent) | hevent
      · exact (Session.confines_of_yields_resolve settings hresolve event hevent).1
      · exact (hprepare event hevent).confines hpeer
      · subst hcontext
        exact (hwork event hevent).confines hpeer
      · exact (hdown event hevent).confines hpeer

/-- No lock is asked for but those of the nodes that take part. -/
theorem owner_of_acquire {event : Event} (hevent : event ∈ events) {owner : String}
    (hacquire : event.1 = .acquire owner) :
    ∃ first identities, first <+: events ∧
      Succeeds (Identities.resolve context) first identities ∧
      (owner = identities.self.hostname ∨
        identities.peer.map (·.hostname) = some owner) := by
  have hasked : ∀ {asked result}, (Identities.resolve context).run.Yields asked result →
      event ∉ asked := by
    intro asked result hyields hmem
    have hquery := Session.queries_resolve hyields event hmem
    rw [hacquire] at hquery
    exact hquery
  have hending : ∀ {identities : Identities}, ¬ identities.Dissolves settings event.1 := by
    intro identities hdissolves
    rw [hacquire] at hdissolves
    cases hdissolves
  cases h with
  | unresolved hresolve => exact absurd hevent (hasked hresolve)
  | @failed first second back identities e hresolve hprepare hback =>
      simp only [List.mem_append] at hevent
      rcases hevent with (hevent | hevent) | hevent
      · exact absurd hevent (hasked hresolve)
      · refine ⟨first, identities, by simp, hresolve, ?_⟩
        exact Identities.Prepares.owner (hacquire ▸ hprepare event hevent)
      · exact absurd (hback event hevent) hending
  | @played first second work down session hresolve hprepare hcontext hfound hwork hdown =>
      simp only [List.mem_append] at hevent
      rcases hevent with ((hevent | hevent) | hevent) | hevent
      · exact absurd hevent (hasked hresolve)
      · refine ⟨first, session.identities, by simp, hresolve, ?_⟩
        exact Identities.Prepares.owner (hacquire ▸ hprepare event hevent)
      · obtain ⟨scenario, -, -, hallowed⟩ := hwork event hevent
        rw [hacquire] at hallowed
        exact hallowed.elim
      · exact absurd (hdown event hevent) hending

/-- A run that was set up unloads nothing if the modules are to stay. -/
theorem not_unloads (hskip : context.skip.unload = true) {setup : List Event}
    {session : Session} (hstart : setup <+: events)
    (hsetup : Succeeds (Session.setup settings context) setup session) :
    ∀ event ∈ events, ∀ job ∈ event.1.jobs, job.2.unloadsModule = false := by
  -- a trace of a setup that has failed does not start with one of a setup that has not
  have hnever : ∀ {e}, ¬ Fails (Session.setup settings context) events e := by
    intro e hfails
    obtain ⟨rest, rfl⟩ := hstart
    cases (Program.eq_nil_of_yields_append hsetup hfails).2
  cases h with
  | unresolved hresolve => exact (hnever (fails_bind_iff.mpr (.inl hresolve))).elim
  | failed _ _ _ hfails => exact (hnever hfails).elim
  | played hresolve hprepare hcontext hfound hwork hdown hstay =>
      intro event hevent job hjob
      simp only [List.mem_append] at hevent
      rcases hevent with ((hevent | hevent) | hevent) | hevent
      · exact ((Session.confines_of_yields_resolve settings hresolve event
          hevent).2 job hjob).1
      · exact ((hprepare event hevent).not_unloads_not_sends job hjob).1
      · exact (hwork event hevent).not_unloads job hjob
      · rw [hstay hskip event hevent] at hjob
        cases hjob

/-- Frames are only sent from a host on which the generator was found before. -/
theorem preceded (host : Host) :
    Trace.Preceded (·.1.SendsFrom host) (·.Finds settings.trafgen host) events := by
  have hasked : ∀ {asked result}, (Identities.resolve context).run.Yields asked result →
      ∀ event ∈ asked, ¬ event.1.SendsFrom host := by
    intro asked result hyields event hevent
    exact Request.not_sendsFrom (fun job hjob =>
      ((Session.confines_of_yields_resolve settings hyields event hevent).2 job
        hjob).2) host
  have hpreparing : ∀ {identities : Identities} {second : List Event},
      (∀ event ∈ second, identities.Prepares settings context event.1) →
      ∀ event ∈ second, ¬ event.1.SendsFrom host := by
    intro identities second hprepare event hevent
    exact Request.not_sendsFrom (fun job hjob =>
      ((hprepare event hevent).not_unloads_not_sends job hjob).2) host
  cases h with
  | unresolved hresolve => exact Trace.preceded_of_forall_not (hasked hresolve)
  | failed hresolve hprepare hback =>
      apply Trace.preceded_of_forall_not
      simp only [List.mem_append]
      rintro event ((hevent | hevent) | hevent)
      · exact hasked hresolve event hevent
      · exact hpreparing hprepare event hevent
      · exact Request.not_sendsFrom (hback event hevent).not_sends host
  | @played first second work down session hresolve hprepare hcontext hfound hwork hdown =>
      rw [List.append_assoc]
      refine (Trace.preceded_of_forall_not ?_).append ?_
      · simp only [List.mem_append]
        rintro event (hevent | hevent)
        · exact hasked hresolve event hevent
        · exact hpreparing hprepare event hevent
      by_cases hgenerator : session.HasGenerator host
      · obtain ⟨event, hevent, hfinds⟩ := hfound host hgenerator
        exact .inl ⟨event, List.mem_append_right first hevent, hfinds⟩
      · refine .inr (Trace.preceded_of_forall_not ?_)
        simp only [List.mem_append]
        rintro event (hevent | hevent)
        · exact fun hsends => hgenerator ((hwork event hevent).hasGenerator hsends)
        · exact Request.not_sendsFrom (hdown event hevent).not_sends host

end RunPhases

end SettingUp

/--
The flags of a run confine it, whatever it is answered and however it ends.  A run that is to
leave the peer alone runs every command on the local node, asks for no lock but that of
the local node, and does not care whether its target has a name.  A run that is to load
nothing loads no module and sets no parameter on any node.  A run that is to unload nothing
unloads no module, provided that it was set up.  A run that is to send no frames sends none;
and in any run a frame is only sent from a node on which the generator was found before.
-/
theorem runSession_confined (settings : Settings) (context : RunContext) {events : List Event}
    {result : Except RunError (Option RunReport)}
    (h : (runSession settings context).run.Yields events result) :
    (∀ event ∈ events, context.Confines settings event.1) ∧
      (context.skip.remote = true →
        (∀ event ∈ events, ∀ owner, event.1 = .acquire owner →
          ∃ first identities, first <+: events ∧
            Succeeds (Identities.resolve context) first identities ∧
            owner = identities.self.hostname) ∧
        ∀ asked reason, ¬ Fails (Identities.resolve context) asked (.unresolvedPeer reason)) ∧
      (context.skip.unload = true → ∀ setup session, setup <+: events →
        Succeeds (Session.setup settings context) setup session →
        ∀ event ∈ events, ∀ job ∈ event.1.jobs, job.2.unloadsModule = false) ∧
      ∀ host, Trace.Preceded (·.1.SendsFrom host) (·.Finds settings.trafgen host) events := by
  have hphases := runPhases_of_yields h
  refine ⟨hphases.confines, fun hremote => ⟨?_, ?_⟩, ?_, hphases.preceded⟩
  · intro event hevent owner hacquire
    obtain ⟨first, identities, hstart, hresolve, howner⟩ :=
      hphases.owner_of_acquire hevent hacquire
    refine ⟨first, identities, hstart, hresolve, howner.resolve_right ?_⟩
    rw [Session.noPeer_of_succeeds_resolve hresolve hremote]
    simp
  · intro asked reason hfails
    have hcauses : Conforms (fun _ => True) (fun e => e ≠ .unresolvedPeer reason)
        (Identities.resolve context) := by
      refine Identities.conforms_resolve_by_cause (fun _ _ _ => trivial) ?_
        (fun _ => RunError.noConfusion) context ?_
      · rintro _ he rfl
        exact he
      · rw [hremote]
        exact fun heq => nomatch heq
    exact (hcauses.of_yields hfails).2 _ rfl rfl
  · exact fun hskip setup session hstart hsetup => hphases.not_unloads hskip hstart hsetup

/-- A run that is to leave the peer alone, against a target without a name; and a run whose
modules are to stay, in which frames are sent. -/
theorem runSession_confined_alone_and_staying :
    let alone := { RunContext.toFourthNode with
      target := ⟨⟨1, 0, 4⟩⟩, skip := ⟨true, false, true, false, true⟩ }
    let staying := { RunContext.toFourthNode with skip := ⟨false, true, false, false, false⟩ }
    let x := Surroundings.showing { stdout := "5" }
    let d : LockDirectory := { path := "/locks" }
    let lonely := x.run (runSession {} alone).run d
    let stays := x.run (runSession {} staying).run d
    lonely.result.isOk = true ∧ (lonely.trace.any (·.1.jobs.length = 1)) = true ∧
      (∀ event ∈ lonely.trace, alone.Confines {} event.1) ∧
      (∀ asked reason, ¬ Fails (Identities.resolve alone) asked (.unresolvedPeer reason)) ∧
      (stays.trace.any (·.1.jobs.any (·.2.sendsFrames))) = true ∧
      (∀ event ∈ stays.trace, ∀ job ∈ event.1.jobs, job.2.unloadsModule = false) ∧
      ∀ host, Trace.Preceded (·.1.SendsFrom host) (·.Finds "trafgen" host) stays.trace := by
  intro alone staying x d lonely stays
  obtain ⟨hconfines, halone, -, -⟩ := runSession_confined {} alone (x.run_yields _ d)
  obtain ⟨-, -, hstay, hpreceded⟩ := runSession_confined {} staying (x.run_yields _ d)
  have hsetup : (x.run (Session.setup {} staying).run d).result.isOk = true := by decide +kernel
  have hunloads : ∀ event ∈ stays.trace, ∀ job ∈ event.1.jobs, job.2.unloadsModule = false := by
    have hyields := x.run_yields (Session.setup {} staying).run d
    rcases x.run_bind_cases (Session.setup {} staying) (Session.conclude {}) d with
      ⟨e, hresult, -⟩ | ⟨session, rest, hresult, htrace, -⟩
    · rw [hresult] at hsetup
      cases hsetup
    · rw [hresult] at hyields
      exact hstay rfl _ session ⟨rest, htrace.symm⟩ hyields
  exact ⟨by decide +kernel, by decide +kernel, hconfines, (halone rfl).2, by decide +kernel,
    hunloads, hpreceded⟩

end TtpConformance
