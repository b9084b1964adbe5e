import TtpConformance.Proofs.Run.Effects
import TtpConformance.Proofs.Run.Step
import TtpConformance.Verify.Observe

/-!
# What controlling and watching a module asks for

Loading is one command, and it has loaded the module exactly if it succeeds; unloading
is one command whose reply is not listened to.  Everything else reads and writes the
module's parameters and status files, and pauses while the next hop is not there.

## Main statements

* `Module.loaded_of_yields_load` — a load is accounted for.
* `Module.recites_unload` — unloading.
* `Module.conforms_configureSelf`, `Observe.conforms_baseline` — the bounds on what is
  asked for between the two.
-/

namespace TtpConformance

/-- The request that unloads a module. -/
def Request.unload (settings : Settings) (host : Host) : Request :=
  .command host (.unloadModule settings.moduleName)

/-- The request that loads a module. -/
def Request.load (settings : Settings) (host : Host) (activation : Activation) : Request :=
  .command host (.loadModule settings.modulePath activation.arguments)

theorem Mac.ofCommand_of_parse_eq_error {s : String} {e : RunError}
    (h : Mac.parse s = .error e) : e.OfCommand := by
  unfold Mac.parse at h
  dsimp only at h
  split at h
  · cases h
  · cases h
    trivial

namespace Module

variable {settings : Settings} {host : Host} {activation : Activation} {events : List Event}

/-! ## Loading and unloading -/

/-- Loading is one command, and the module is loaded exactly if it succeeds. -/
theorem loaded_of_yields_load {result : Except RunError Unit}
    (h : (Module.load settings host activation).run.Yields events result) :
    (∀ event ∈ events, event.1 = .load settings host activation) ∧
      Trace.loaded events = if result.isOk then [host] else [] := by
  rcases yields_run_bind_iff.mp h with
    ⟨e, hexecute, rfl⟩ | ⟨first, output, second, rfl, hexecute, hrest⟩
  · obtain ⟨reply, rfl, hreply⟩ := Step.execute_yields_iff.mp hexecute
    obtain ⟨reason, rfl⟩ : ∃ reason, reply = .error reason := by
      cases reply <;> cases hreply
      exact ⟨_, rfl⟩
    exact ⟨fun event hevent => List.mem_singleton.mp hevent ▸ rfl, rfl⟩
  · obtain ⟨reply, rfl, hreply⟩ := Step.execute_yields_iff.mp hexecute
    obtain rfl : reply = .ok output := by
      cases reply <;> cases hreply
      rfl
    -- either way nothing is asked for after the command itself
    split at hrest <;> rename_i hsucceeded <;> obtain ⟨rfl, rfl⟩ := hrest
    · refine ⟨fun event hevent => List.mem_singleton.mp hevent ▸ rfl, ?_⟩
      simp [Trace.loaded, Event.loadedOn?, hsucceeded, Except.isOk, Except.toBool]
    · refine ⟨fun event hevent => List.mem_singleton.mp hevent ▸ rfl, ?_⟩
      simp [Trace.loaded, Event.loadedOn?, hsucceeded, Except.isOk, Except.toBool]

theorem recites_unload (settings : Settings) (host : Host) :
    (Module.unload settings host).Recites [.unload settings host] :=
  Program.recites_discard_request _

/-- Unloading on some hosts is just that. -/
theorem unloaded_of_unloads {hosts : List Host}
    (h : events.map Sigma.fst = hosts.map (.unload settings)) :
    Trace.unloaded events = hosts ∧ Trace.loaded events = [] := by
  induction hosts generalizing events with
  | nil =>
      obtain rfl := List.map_eq_nil_iff.mp h
      exact ⟨rfl, rfl⟩
  | cons host hosts ih =>
      obtain ⟨⟨r, reply⟩, rest, rfl, rfl, hrest⟩ := List.map_eq_cons_iff.mp h
      obtain ⟨hunloaded, hloaded⟩ := ih hrest
      exact ⟨congrArg (host :: ·) hunloaded, hloaded⟩

theorem lockFree_of_unloads {hosts : List Host}
    (h : events.map Sigma.fst = hosts.map (.unload settings)) :
    ∀ event ∈ events, event.1.lockFree := by
  intro event hevent
  obtain ⟨host, -, hhost⟩ := List.mem_map.mp (Trace.request_mem_of_map_eq h hevent)
  rw [← hhost]
  trivial

/-! ## Bounds -/

variable {P : Request → Prop} {E : RunError → Prop}
variable (hE : ∀ e : RunError, e.OfCommand → E e)

include hE

theorem conforms_load (hmodule : ∀ node reason, E (.moduleLoad node reason))
    (h : P (.load settings host activation)) :
    Conforms P E (load settings host activation) := by
  refine (Step.conforms_execute h hE).bind fun output => ?_
  split
  · exact Conforms.pure ()
  · exact Conforms.throw (hmodule _ _)

theorem conforms_readParam {name : String}
    (hread : P (.command host (.readFile (settings.param name)))) :
    Conforms P E (readParam settings host name) :=
  (Step.conforms_fileText hE hread).bind fun text => Conforms.pure (Text.trimmed text)

theorem conforms_writeParam {name value : String}
    (h : P (.command host (.writeFile (settings.param name) value))) :
    Conforms P E (writeParam settings host name value) :=
  Step.conforms_writeFile hE h

theorem conforms_nextHop
    (hread : P (.command host (.readFile (settings.param nextHopParam)))) :
    Conforms P E (nextHop settings host) := by
  refine (conforms_readParam hE hread).bind fun text => ?_
  exact Step.conforms_ofExcept fun e he => hE e (Mac.ofCommand_of_parse_eq_error he)

theorem conforms_setTarget
    (hwrite : ∀ name value, P (.command host (.writeFile (settings.param name) value)))
    (code : String) (channel : Channel) :
    Conforms P E (setTarget settings host code channel) := by
  unfold setTarget
  have hchannel := conforms_writeParam hE (hwrite channelParam channel.text)
  have htarget := conforms_writeParam hE (hwrite targetParam code)
  split
  · exact htarget
  · exact hchannel.bind fun _ => htarget

theorem ensures_showIpv4Params
    (hread : ∀ name, P (.command host (.readFile (settings.param name)))) (names : List String) :
    (showIpv4Params settings host names).Ensures P fun _ => True := by
  induction names with
  | nil => trivial
  | cons name names ih =>
      have hparam := conforms_readParam hE (hread name)
      exact (Program.Ensures.discard hparam).bind fun _ _ => ih

theorem conforms_resolveGateway {policy : RetryPolicy}
    (hread : P (.command host (.readFile (settings.param nextHopParam))))
    (hpause : P (.pause policy.interval)) (htimeout : ∀ reason, E (.timeout reason)) :
    Conforms P E (resolveGateway settings host policy) := by
  have hprobe := (conforms_nextHop hE hread).bind fun mac =>
    Conforms.pure (if mac.isZero then none else some mac)
  refine (Step.conforms_pollFrom (Step.conforms_pause hpause) hprobe _ 0).bind fun polled => ?_
  cases polled with
  | ready mac attempts => exact Conforms.pure _
  | exhausted attempts => exact Conforms.throw (htimeout _)

/-- Configuring the local module reads and writes its parameters and pauses. -/
theorem conforms_configureSelf (context : RunContext) (code : String) {policy : RetryPolicy}
    (hread : ∀ name, P (.command .self (.readFile (settings.param name))))
    (hwrite : ∀ name value, P (.command .self (.writeFile (settings.param name) value)))
    (hpause : P (.pause policy.interval)) (htimeout : ∀ reason, E (.timeout reason)) :
    Conforms P E (configureSelf settings .self context code policy) := by
  have htarget := conforms_setTarget hE hwrite code context.channel
  have hgateway := conforms_resolveGateway hE (hread nextHopParam) hpause htimeout
  unfold configureSelf
  split
  · refine htarget.bind fun _ => ?_
    refine (Conforms.lift (ensures_showIpv4Params hE hread ipv4Params)).bind fun _ => ?_
    exact hgateway.bind fun gateway => Conforms.pure _
  · refine hgateway.bind fun gateway => ?_
    refine (conforms_writeParam hE (hwrite useGatewayParam "1")).bind fun _ => ?_
    exact htarget.bind fun _ => Conforms.pure _
  · exact htarget.bind fun _ => Conforms.pure _

end Module

/-! ## Status files -/

namespace Observe

variable {settings : Settings} {host : Host} {P : Request → Prop} {E : RunError → Prop}
variable (hE : ∀ e : RunError, e.OfCommand → E e)

include hE

theorem conforms_baseline
    (h : P (.command host (.readFile (settings.param Module.tagSequenceParam)))) :
    Conforms P E (baseline settings host) := by
  refine (Step.conforms_fileText hE h).bind fun text => ?_
  refine Step.conforms_ofExcept fun e he => hE e ?_
  unfold readBaseline at he
  dsimp only at he
  split at he
  · cases he
  · cases he
    trivial

theorem conforms_tags (h : P (.command host (.readFile settings.tagsPath))) :
    Conforms P E (tags settings host) :=
  (Step.conforms_fileText hE h).bind fun text => Conforms.pure (TagTable.parse text)

theorem conforms_stats
    (h : P (.command host (.readFile (settings.param Module.statsParam)))) :
    Conforms P E (stats settings host) :=
  (Step.conforms_fileText hE h).bind fun text => Conforms.pure (Stats.parse text)

end Observe

end TtpConformance
