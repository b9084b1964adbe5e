import TtpConformance.Proofs.Session.Setup
import TtpConformance.Scenario.Schedule

/-!
# How scenarios behave

What a scenario may do follows from what it requires.  Every scenario may look at the
nodes that take part, pause, and write to their debug devices; only one that requires
the modules to be loaded anew writes to a parameter, and only one that requires the
frame generator of a node sends frames from there.  None of them touches a lock, or
loads or unloads a module.

A body ends early only because a check does not hold or because a command has failed,
provided that the pauses of the run are durations.

## Main definitions

* `Stage.Allows` — what a scenario with given requirements may ask for.
* `BodyEnd.IsOutcome` — the ordinary ways in which a body ends early.
* `RunContext.PausesFit` — the settle time can be added to the pauses of scenarios.
* `Stage.Keeps`, `Stage.Behaves` — keeping to what one may do, and ending in an ordinary way
  besides.

## Main statements

* `Stage.keeps_of_mem_schedule`, `Stage.behaves_of_mem_schedule` — every scenario of the
  schedule does.
* `Stage.ensures_playEach` — playing scenarios only asks for what they may ask for, and ends
  with a report.
-/

namespace TtpConformance

/-- The pauses of scenarios, with the settle time of the run added, are durations. -/
def RunContext.PausesFit (settings : Settings) (context : RunContext) : Prop :=
  (settings.timing.exchange.add? context.settle).isSome ∧
    (settings.timing.bulkExchange.add? context.settle).isSome

/-- A body ends early because a check does not hold, or because a command has failed. -/
def BodyEnd.IsOutcome : BodyEnd → Prop
  | .failed (.run e) => e.OfCommand
  | .failed _ => True
  | .endlessPause => False

/-- What is required of a node that sends frames. -/
def Requirement.generatorOn : Host → Requirement
  | .self => .selfGenerator
  | .remote _ => .peerGenerator

namespace Stage

/-- The nodes that take part in a run. -/
def Hosts (s : Stage) (host : Host) : Prop :=
  host = .self ∨ s.session.identities.peerHost = some host

/-- What a scenario with the given requirements may ask for. -/
def Allows (s : Stage) (requires : List Requirement) : Request → Prop
  | .pause _ => True
  | .command host command =>
    s.Hosts host ∧
      match command with
      | .readFile _ | .compareFiles .. => True
      | .copyFile _ path | .writeText path _ => path = s.settings.debugDevice
      | .writeFile .. => .moduleReload ∈ requires
      | .sendFrames _ => .packet ∈ requires ∧ .generatorOn host ∈ requires
      | _ => False
  | _ => False

/-- How a body may end early.  A pause only ends it if the pauses of the run are not all
durations. -/
def Ends (s : Stage) : BodyEnd → Prop
  | .failed failure => (BodyEnd.failed failure).IsOutcome
  | .endlessPause => ¬ s.session.context.PausesFit s.settings

/-- A piece of a body that asks only for what its scenario may ask for, and ends early for
no other reason than bodies do. -/
abbrev Keeps {α : Type} (s : Stage) (requires : List Requirement) (piece : Check α) : Prop :=
  Conforms (s.Allows requires) s.Ends piece

/-- A piece of a body that asks only for what its scenario may ask for, and ends early in
an ordinary way. -/
abbrev Behaves {α : Type} (s : Stage) (requires : List Requirement) (piece : Check α) : Prop :=
  Conforms (s.Allows requires) BodyEnd.IsOutcome piece

theorem Ends.isOutcome {s : Stage} {e : BodyEnd} (h : s.Ends e)
    (hpauses : s.session.context.PausesFit s.settings) : e.IsOutcome := by
  cases e with
  | failed => exact h
  | endlessPause => exact absurd hpauses h

/-- If the pauses are durations, a piece that keeps to what it may do behaves. -/
theorem Keeps.behaves {α : Type} {s : Stage} {requires : List Requirement} {piece : Check α}
    (h : s.Keeps requires piece) (hpauses : s.session.context.PausesFit s.settings) :
    s.Behaves requires piece :=
  h.mono (fun _ hr => hr) fun _ he => he.isOutcome hpauses

theorem Allows.isWork {s : Stage} {requires : List Requirement} {r : Request}
    (h : s.Allows requires r) : r.IsWork := by
  cases r with
  | command host command => cases command <;> first | trivial | exact h.2.elim
  | pause => trivial
  | together | acquire | release => exact h.elim

end Stage

/-! ## Pieces of bodies -/

namespace Check

variable {P : Request → Prop} {E : BodyEnd → Prop} {α : Type}

/-- A piece that is repeated asks for what it asks for once. -/
theorem conforms_times {piece : Check Unit} (h : Conforms P E piece) (n : Nat) :
    Conforms P E (Check.times piece n) := by
  induction n with
  | zero => exact Conforms.pure ()
  | succ n ih => exact h.bind fun _ => ih

variable (hE : ∀ failure, BodyEnd.IsOutcome (.failed failure) → E (.failed failure))

include hE

theorem conforms_ofStep {step : Step α} (h : Conforms P RunError.OfCommand step) :
    Conforms P E (Check.ofStep step) := by
  refine Program.Ensures.bind h fun result hresult => ?_
  cases result with
  | ok a => exact Conforms.pure a
  | error e => exact Conforms.throw (hE _ (hresult e rfl))

/-- A verdict on what a step gives. -/
theorem conforms_ofVerdict {step : Step α} {verdict : α → Verdict}
    (h : Conforms P RunError.OfCommand step)
    (hverdict : ∀ a failure, verdict a = .error failure → BodyEnd.IsOutcome (.failed failure)) :
    Conforms P E (Check.ofVerdict (do return verdict (← step))) := by
  have hstep : (do return verdict (← step) : Step Verdict).run.Ensures P fun result =>
      (∃ e, result = .error e ∧ e.OfCommand) ∨ ∃ a, result = .ok (verdict a) := by
    refine Program.Ensures.bind h fun result hresult => ?_
    cases result with
    | error e => exact .inl ⟨e, rfl, hresult e rfl⟩
    | ok a => exact .inr ⟨a, rfl⟩
  have hcheck : (Check.ofStep (do return verdict (← step))).run.Ensures P fun result =>
      (∃ e, result = .error e ∧ E e) ∨ ∃ a, result = .ok (verdict a) := by
    refine Program.Ensures.bind hstep fun result hresult => ?_
    rcases hresult with ⟨e, rfl, he⟩ | ⟨a, rfl⟩
    · exact .inl ⟨_, rfl, hE _ he⟩
    · exact .inr ⟨a, rfl⟩
  refine Program.Ensures.bind hcheck fun result hresult => ?_
  rcases hresult with ⟨e, rfl, he⟩ | ⟨a, rfl⟩
  · exact Conforms.throw he
  · cases ha : verdict a with
    | ok u => exact Conforms.pure ()
    | error failure => exact Conforms.throw (hE _ (hverdict a failure ha))

end Check

namespace Stage

variable {s : Stage} {requires : List Requirement} {host : Host}

section Bounds

variable {P : Request → Prop} {E : BodyEnd → Prop}
variable (hE : ∀ failure, BodyEnd.IsOutcome (.failed failure) → E (.failed failure))

include hE

theorem conforms_clearDebug
    (hP : P (.command host (.copyFile "/dev/null" s.settings.debugDevice))) :
    Conforms P E (s.clearDebug host) :=
  Check.conforms_ofStep hE (Step.conforms_copyFile (fun _ => id) hP)

theorem conforms_sendFile {file : String}
    (hP : P (.command host (.copyFile (s.settings.testFile file) s.settings.debugDevice))) :
    Conforms P E (s.sendFile host file) :=
  Check.conforms_ofStep hE (Step.conforms_copyFile (fun _ => id) hP)

theorem conforms_readDebug (hP : P (.command host (.readFile s.settings.debugDevice))) :
    Conforms P E (s.readDebug host) :=
  (Check.conforms_ofStep hE (Step.conforms_fileText (fun _ => id) hP)).discard

theorem conforms_expectReceived {file : String} (hP : P (.command host
      (.compareFiles s.settings.debugDevice (s.settings.testFile file)))) :
    Conforms P E (s.expectReceived host file) := by
  refine (Check.conforms_ofStep hE (Step.conforms_test hP fun _ => id)).bind fun same => ?_
  split
  · exact Conforms.pure ()
  · exact Conforms.throw (hE _ trivial)

section Tags

variable (hP : P (.command host (.readFile s.settings.tagsPath)))

include hP

theorem conforms_dumpTags : Conforms P E (s.dumpTags host) :=
  (Check.conforms_ofStep hE (Observe.conforms_tags (fun _ => id) hP)).discard

theorem conforms_openTag (peer : String) :
    Conforms P E (Check.ofStep (Observe.openTag s.settings host peer)) :=
  Check.conforms_ofStep hE
    ((Observe.conforms_tags (fun _ => id) hP).bind fun _ => Conforms.pure _)

theorem conforms_verify (peer : String) (expected : SeqTriple) :
    Conforms P E (Check.ofVerdict (Observe.verify s.settings host peer expected)) := by
  refine Check.conforms_ofVerdict hE (Observe.conforms_tags (fun _ => id) hP)
    fun table failure h => ?_
  unfold checkTags at h
  dsimp only at h
  split at h
  · cases h
  · cases h
    trivial

end Tags

section Stats

variable (hP : P (.command host (.readFile (s.settings.param Module.statsParam))))

include hP

theorem conforms_dumpStats : Conforms P E (s.dumpStats host) :=
  (Check.conforms_ofStep hE (Observe.conforms_stats (fun _ => id) hP)).discard

theorem conforms_expectDrained : Conforms P E (s.expectDrained host) := by
  refine Check.conforms_ofVerdict hE (Observe.conforms_stats (fun _ => id) hP)
    fun stats failure h => ?_
  unfold checkPending at h
  split at h
  · split at h
    · cases h
    · cases h
      trivial
  · cases h
    trivial

theorem conforms_expectReceivedCount (expected : UInt64) :
    Conforms P E (Check.ofVerdict (Observe.received s.settings host expected)) := by
  refine Check.conforms_ofVerdict hE (Observe.conforms_stats (fun _ => id) hP)
    fun stats failure h => ?_
  unfold checkReceived at h
  split at h
  · cases h
  · cases h
    trivial

end Stats

end Bounds

/-- An ordinary way of ending early is one of every stage. -/
theorem ends_failed (s : Stage) (failure : CheckFailure)
    (h : BodyEnd.IsOutcome (.failed failure)) : s.Ends (.failed failure) := h

/-- Whatever a scenario that requires a peer does with it, it gets it. -/
theorem conforms_peer_bind {P : Request → Prop} {E : BodyEnd → Prop} {α : Type}
    {f : Host → Check α} (hpeer : s.session.identities.peerHost ≠ none)
    (hf : ∀ peer, s.session.identities.peerHost = some peer → Conforms P E (f peer)) :
    Conforms P E (s.peer >>= f) := by
  unfold Stage.peer
  split
  · rename_i peer hsome
    rw [pure_bind]
    exact hf peer hsome
  · rename_i hnone
    exact absurd hnone hpeer

theorem keeps_wait (length : Duration) : s.Keeps requires (wait length) :=
  Check.conforms_ofStep s.ends_failed (Step.conforms_pause trivial)

/-- A pause that is no duration ends the body, but not if the pauses of the run are. -/
theorem keeps_pause {base : Duration}
    (h : s.session.context.PausesFit s.settings →
      (base.add? s.session.context.settle).isSome) : s.Keeps requires (s.pause base) := by
  unfold Stage.pause
  split
  · exact keeps_wait _
  · rename_i hnone
    refine Conforms.throw fun hpauses => ?_
    have hsome := h hpauses
    rw [hnone] at hsome
    cases hsome

section Nodes

variable (hhost : s.Hosts host)

include hhost

theorem keeps_clearDebug : s.Keeps requires (s.clearDebug host) :=
  conforms_clearDebug s.ends_failed ⟨hhost, rfl⟩

theorem keeps_sendFile (file : String) : s.Keeps requires (s.sendFile host file) :=
  conforms_sendFile s.ends_failed ⟨hhost, rfl⟩

theorem keeps_expectReceived (file : String) :
    s.Keeps requires (s.expectReceived host file) :=
  conforms_expectReceived s.ends_failed ⟨hhost, trivial⟩

theorem keeps_openTag (peer : String) :
    s.Keeps requires (Check.ofStep (Observe.openTag s.settings host peer)) :=
  conforms_openTag s.ends_failed ⟨hhost, trivial⟩ peer

theorem keeps_verify (peer : String) (expected : SeqTriple) :
    s.Keeps requires (Check.ofVerdict (Observe.verify s.settings host peer expected)) :=
  conforms_verify s.ends_failed ⟨hhost, trivial⟩ peer expected

theorem keeps_expectDrained : s.Keeps requires (s.expectDrained host) :=
  conforms_expectDrained s.ends_failed ⟨hhost, trivial⟩

theorem keeps_expectReceivedCount (expected : UInt64) :
    s.Keeps requires (Check.ofVerdict (Observe.received s.settings host expected)) :=
  conforms_expectReceivedCount s.ends_failed ⟨hhost, trivial⟩ expected

theorem keeps_refillDebug : s.Keeps requires (s.refillDebug host) :=
  (keeps_clearDebug hhost).bind fun _ => keeps_sendFile hhost _

theorem keeps_readDebug : s.Keeps requires (s.readDebug host) :=
  conforms_readDebug s.ends_failed ⟨hhost, trivial⟩

end Nodes

/-! ## Bodies -/

theorem keeps_dumpStats (hhost : s.Hosts host) : s.Keeps requires (s.dumpStats host) :=
  conforms_dumpStats s.ends_failed ⟨hhost, trivial⟩

theorem keeps_dumpTags (hhost : s.Hosts host) : s.Keeps requires (s.dumpTags host) :=
  conforms_dumpTags s.ends_failed ⟨hhost, trivial⟩

section Peers

variable (hpeer : s.session.identities.peerHost ≠ none)

include hpeer

theorem keeps_clearBoth : s.Keeps requires s.clearBoth :=
  conforms_peer_bind hpeer fun _ hsome =>
    (keeps_clearDebug (.inl rfl)).bind fun _ => keeps_clearDebug (.inr hsome)

theorem keeps_transmit : s.Keeps requires s.transmit := by
  refine conforms_peer_bind hpeer fun peer hsome => ?_
  refine (keeps_sendFile (.inl rfl) _).bind fun _ => ?_
  refine (keeps_wait _).bind fun _ => ?_
  refine (keeps_expectReceived (.inr hsome) _).bind fun _ => ?_
  refine (keeps_verify (.inl rfl) _ _).bind fun _ => ?_
  refine (keeps_sendFile (.inl rfl) _).bind fun _ => ?_
  refine (keeps_wait _).bind fun _ => ?_
  refine (keeps_verify (.inl rfl) _ _).bind fun _ => ?_
  refine (keeps_expectDrained (.inl rfl)).bind fun _ => ?_
  exact keeps_expectReceivedCount (.inl rfl) _

theorem keeps_oversubscribe : s.Keeps requires s.oversubscribe := by
  refine conforms_peer_bind hpeer fun peer hsome => ?_
  have hclearSelf : s.Keeps requires (s.clearDebug .self) := keeps_clearDebug (.inl rfl)
  have hclearPeer : s.Keeps requires (s.clearDebug peer) := keeps_clearDebug (.inr hsome)
  refine hclearSelf.bind fun _ => hclearPeer.bind fun _ => ?_
  refine (keeps_wait _).bind fun _ => ?_
  refine (keeps_sendFile (.inr hsome) _).bind fun _ => ?_
  have hdropped : Conforms (s.Allows requires) RunError.OfCommand
      (Step.execute peer (.writeText s.settings.debugDevice droppedText)) :=
    Step.conforms_execute (P := s.Allows requires) ⟨.inr hsome, rfl⟩ fun _ => id
  refine (Check.conforms_ofStep s.ends_failed hdropped).discard.bind fun _ => ?_
  refine (keeps_wait _).bind fun _ => ?_
  exact hclearPeer.bind fun _ => hclearSelf

theorem keeps_burst (file : String) (count : Nat) : s.Keeps requires (s.burst file count) :=
  conforms_peer_bind hpeer fun _ hsome =>
    (keeps_clearDebug (.inr hsome)).bind fun _ =>
      Check.conforms_times (keeps_sendFile (.inl rfl) file) count

theorem keeps_showTags : s.Keeps requires s.showTags :=
  conforms_peer_bind hpeer fun _ hsome =>
    (keeps_dumpTags (.inl rfl)).bind fun _ => keeps_dumpTags (.inr hsome)

theorem keeps_showDebug : s.Keeps requires s.showDebug := by
  refine conforms_peer_bind hpeer fun peer hsome => ?_
  refine (keeps_refillDebug (.inl rfl)).bind fun _ => ?_
  refine (keeps_refillDebug (.inr hsome)).bind fun _ => ?_
  exact (keeps_readDebug (.inl rfl)).bind fun _ => keeps_readDebug (.inr hsome)

end Peers

theorem keeps_drained (hhost : s.Hosts host) : s.Keeps requires (s.drained host) :=
  (keeps_pause (·.1)).bind fun _ => keeps_expectDrained hhost

/-- What was received is looked at, but the error of looking is dropped. -/
theorem keeps_receiveOne {peer : Host} (hsome : s.session.identities.peerHost = some peer)
    (offset : SeqOffset) : s.Keeps requires (s.receiveOne peer offset) := by
  refine (keeps_sendFile (.inr hsome) _).bind fun _ => ?_
  refine (keeps_pause (·.1)).bind fun _ => ?_
  have hlook : Conforms (s.Allows requires) RunError.OfCommand
      (s.hasReceived .self greetFile) :=
    Step.conforms_test (P := s.Allows requires) ⟨.inl rfl, trivial⟩ fun _ => id
  refine (Conforms.lift (Program.Ensures.discard hlook)).bind fun _ => ?_
  exact keeps_verify (.inl rfl) _ _

section Peers

variable (hpeer : s.session.identities.peerHost ≠ none)

include hpeer

theorem keeps_peerDrained : s.Keeps requires s.peerDrained :=
  conforms_peer_bind hpeer fun _ hsome => keeps_drained (.inr hsome)

theorem keeps_peerClosed : s.Keeps requires s.peerClosed := by
  refine conforms_peer_bind hpeer fun peer hsome => ?_
  refine (keeps_pause (·.1)).bind fun _ => ?_
  refine (keeps_openTag (.inr hsome) _).bind fun isOpen => ?_
  split
  · exact Conforms.throw trivial
  · exact Conforms.pure ()

theorem keeps_roundTrip (file : String) : s.Keeps requires (s.roundTrip file) := by
  refine conforms_peer_bind hpeer fun peer hsome => ?_
  refine (keeps_clearDebug (.inr hsome)).bind fun _ => ?_
  refine (keeps_pause (·.1)).bind fun _ => ?_
  refine (keeps_sendFile (.inl rfl) _).bind fun _ => ?_
  have hwait : s.Keeps requires
      (s.pause (if file = largestFile then s.settings.timing.bulkExchange
        else s.settings.timing.exchange)) := by
    split
    · exact keeps_pause (·.2)
    · exact keeps_pause (·.1)
  exact hwait.bind fun _ => keeps_expectReceived (.inr hsome) _

theorem keeps_receive (hreload : .moduleReload ∈ requires) : s.Keeps requires s.receive := by
  refine conforms_peer_bind hpeer fun peer hsome => ?_
  have htarget : Conforms (s.Allows requires) RunError.OfCommand
      (Module.setTarget s.settings peer s.session.identities.self.targetCode
        s.session.context.channel) :=
    Module.conforms_setTarget (fun _ => id) (fun _ _ => ⟨.inr hsome, hreload⟩) _ _
  refine (Check.conforms_ofStep s.ends_failed htarget).bind fun _ => ?_
  refine (keeps_clearDebug (.inl rfl)).bind fun _ => ?_
  refine (keeps_receiveOne hsome .firstRx).bind fun _ => ?_
  exact keeps_receiveOne hsome .secondRx

end Peers

/-- What a direction requires of the node that sends. -/
def generatorFor : Direction → Requirement
  | .receive => .peerGenerator
  | .send => .selfGenerator

/-- The node that sends takes part, and is the one whose generator is required. -/
theorem ensures_sender (hpeer : s.session.identities.peerHost ≠ none) (direction : Direction) :
    (s.sender direction).run.Ensures (s.Allows requires) fun result =>
      ∃ host device, result = .ok (host, device) ∧ s.Hosts host ∧
        .generatorOn host = generatorFor direction := by
  cases direction with
  | send => exact ⟨.self, _, rfl, .inl rfl, rfl⟩
  | receive =>
      cases hsome : s.session.identities.peerHost with
      | none => exact absurd hsome hpeer
      | some peer =>
          have hget : s.peer = pure peer := by rw [Stage.peer, hsome]
          rw [sender, hget, pure_bind]
          obtain ⟨identity, -, rfl⟩ := Option.map_eq_some_iff.mp hsome
          exact ⟨_, _, rfl, .inr hsome, rfl⟩

/-- A frame is only sent from a node that has the generator. -/
theorem keeps_inject (hpeer : s.session.identities.peerHost ≠ none) (direction : Direction)
    (opcode : Opcode)
    (hpacket : .packet ∈ requires) (hgenerator : generatorFor direction ∈ requires) :
    s.Keeps requires (s.inject direction opcode) := by
  refine Program.Ensures.bind (ensures_sender hpeer direction) fun result hresult => ?_
  obtain ⟨host, device, rfl, hhost, hrequired⟩ := hresult
  have hsend : Conforms (s.Allows requires) RunError.OfCommand
      (Step.checked host (.sendFrames (.ofFrame s.settings.trafgen device
        (s.settings.testFile templateFile) (s.frame direction opcode)))) :=
    Step.conforms_checked (P := s.Allows requires)
      ⟨hhost, hpacket, hrequired ▸ hgenerator⟩ fun _ => id
  refine (Check.conforms_ofStep s.ends_failed hsend).discard.bind fun _ => ?_
  refine (keeps_pause (·.1)).bind fun _ => ?_
  refine (keeps_openTag (.inl rfl) s.peerFragment).bind fun isOpen => ?_
  split
  · exact Conforms.throw trivial
  · exact Conforms.throw trivial
  · exact Conforms.pure ()

end Stage

/-! ## The schedule -/

namespace Scenario

variable {s : Stage}

/-- A scenario that is played keeps to what it may do. -/
def Keeps (s : Stage) (scenario : Scenario) : Prop :=
  scenario.skipReason? s.session = none → s.Keeps scenario.requires (scenario.body s)

/-- A scenario that is played behaves. -/
def Behaves (s : Stage) (scenario : Scenario) : Prop :=
  scenario.skipReason? s.session = none → s.Behaves scenario.requires (scenario.body s)

theorem met_of_skipReason?_eq_none {scenario : Scenario} {session : Session}
    (h : scenario.skipReason? session = none) {requirement : Requirement}
    (hmem : requirement ∈ scenario.requires) : requirement.unmetReason? session = none :=
  List.findSome?_eq_none_iff.mp h requirement hmem

/-- A scenario that requires a peer is only played with one. -/
theorem peerHost_ne_none {scenario : Scenario} {session : Session}
    (h : scenario.skipReason? session = none) (hmem : .peer ∈ scenario.requires) :
    session.identities.peerHost ≠ none := by
  have hmet := met_of_skipReason?_eq_none h hmem
  unfold Requirement.unmetReason? at hmet
  unfold Identities.peerHost
  cases hpeer : session.identities.peer with
  | none =>
      rw [hpeer] at hmet
      cases hmet
  | some peer => exact Option.some_ne_none _

theorem keeps_sequenceGroup : ∀ scenario ∈ sequenceGroup, scenario.Keeps s := by
  intro scenario hmem
  simp only [sequenceGroup, List.mem_cons, List.not_mem_nil, or_false] at hmem
  rcases hmem with rfl | rfl | rfl | rfl <;> intro hskip <;>
    have hpeer := peerHost_ne_none hskip (by simp)
  · exact Stage.keeps_clearBoth hpeer
  · exact Stage.keeps_transmit hpeer
  · exact Stage.keeps_receive hpeer (by simp)
  · exact Stage.keeps_oversubscribe hpeer

theorem keeps_payloadGroup : ∀ scenario ∈ payloadGroup, scenario.Keeps s := by
  intro scenario hmem
  simp only [payloadGroup, List.mem_cons, List.not_mem_nil, or_false] at hmem
  rcases hmem with rfl | rfl | hmem
  · exact fun _ => Stage.keeps_dumpStats (.inl rfl)
  · exact fun _ => Stage.keeps_dumpTags (.inl rfl)
  rcases hmem with rfl | rfl | rfl | rfl | rfl <;> intro hskip
  all_goals exact Stage.keeps_roundTrip (peerHost_ne_none hskip (by simp)) _

theorem keeps_packetGroup : ∀ scenario ∈ packetGroup, scenario.Keeps s := by
  intro scenario hmem
  simp only [packetGroup, List.mem_cons, List.not_mem_nil, or_false] at hmem
  rcases hmem with rfl | rfl | rfl | rfl | rfl | rfl <;> intro hskip
  all_goals
    have hpeer := peerHost_ne_none hskip (by simp)
    exact Stage.keeps_inject hpeer _ _ (by simp) (by simp [Stage.generatorFor])

theorem keeps_cleanupGroup : ∀ scenario ∈ cleanupGroup, scenario.Keeps s := by
  intro scenario hmem
  simp only [cleanupGroup, List.mem_cons, List.not_mem_nil, or_false] at hmem
  rcases hmem with rfl | rfl | rfl <;> intro hskip
  · exact Stage.keeps_peerClosed (peerHost_ne_none hskip (by simp))
  · exact Stage.keeps_drained (.inl rfl)
  · exact Stage.keeps_peerDrained (peerHost_ne_none hskip (by simp))

theorem keeps_showGroup : ∀ scenario ∈ showGroup, scenario.Keeps s := by
  intro scenario hmem
  simp only [showGroup, List.mem_cons, List.not_mem_nil, or_false] at hmem
  rcases hmem with rfl | rfl <;> intro hskip <;>
    have hpeer := peerHost_ne_none hskip (by simp)
  · exact Stage.keeps_showTags hpeer
  · exact Stage.keeps_showDebug hpeer

theorem keeps_trafficGroup : ∀ scenario ∈ trafficGroup, scenario.Keeps s := by
  intro scenario hmem
  simp only [trafficGroup, List.mem_cons, List.not_mem_nil, or_false] at hmem
  rcases hmem with rfl | rfl | rfl | rfl | rfl <;> intro hskip
  all_goals exact Stage.keeps_burst (peerHost_ne_none hskip (by simp)) _ _

end Scenario

/-- Every scenario of the schedule keeps to what it may do, if its requirements are met. -/
theorem Stage.keeps_of_mem_schedule {s : Stage} : ∀ scenario ∈ schedule, scenario.Keeps s := by
  intro scenario hmem
  simp only [schedule, List.mem_append] at hmem
  rcases hmem with ((((hmem | hmem) | hmem) | hmem) | hmem) | hmem
  · exact Scenario.keeps_sequenceGroup scenario hmem
  · exact Scenario.keeps_payloadGroup scenario hmem
  · exact Scenario.keeps_packetGroup scenario hmem
  · exact Scenario.keeps_showGroup scenario hmem
  · exact Scenario.keeps_trafficGroup scenario hmem
  · exact Scenario.keeps_cleanupGroup scenario hmem

/-- Every scenario of the schedule behaves, if its requirements are met and the pauses of
the run are durations. -/
theorem Stage.behaves_of_mem_schedule {s : Stage}
    (hpauses : s.session.context.PausesFit s.settings) :
    ∀ scenario ∈ schedule, scenario.Behaves s := fun scenario hmem hskip =>
  Keeps.behaves (Stage.keeps_of_mem_schedule scenario hmem hskip) hpauses

namespace Stage

variable {s : Stage}

/-- What any scenario that is played may ask for. -/
def AllowsSome (s : Stage) (scenarios : List Scenario) (r : Request) : Prop :=
  ∃ scenario ∈ scenarios, scenario.skipReason? s.session = none ∧ s.Allows scenario.requires r

/-- Playing a scenario asks only for what it may ask for, and ends with an outcome if the
pauses of the run are durations. -/
theorem ensures_play {scenario : Scenario} (h : scenario.Keeps s) :
    (s.play scenario).Ensures (s.AllowsSome [scenario]) fun outcome? =>
      s.session.context.PausesFit s.settings → outcome?.isSome := by
  unfold play
  split
  · exact fun _ => rfl
  · rename_i hskip
    have hallows : ∀ r, s.Allows scenario.requires r → s.AllowsSome [scenario] r :=
      fun r hr => ⟨scenario, List.mem_singleton_self _, hskip, hr⟩
    have hbody := (h hskip).mono hallows fun _ he => he
    refine Program.Ensures.bind hbody fun result hresult => ?_
    match result, hresult with
    | .ok (), _ => exact fun _ => rfl
    | .error (.failed failure), _ => exact fun _ => rfl
    | .error .endlessPause, hends => exact fun hpauses => absurd hpauses (hends _ rfl)

/-- Playing scenarios asks only for what one of them may ask for, and ends with a report
on each of them if the pauses of the run are durations. -/
theorem ensures_playEach {scenarios : List Scenario}
    (h : ∀ scenario ∈ scenarios, scenario.Keeps s) :
    (s.playEach scenarios).Ensures (s.AllowsSome scenarios) fun reports? =>
      s.session.context.PausesFit s.settings → reports?.isSome := by
  induction scenarios with
  | nil => exact fun _ => rfl
  | cons scenario rest ih =>
      have hplay := ensures_play (h scenario List.mem_cons_self)
      have hrest := ih fun other hother => h other (List.mem_cons_of_mem _ hother)
      refine (hplay.mono ?_ fun _ hsome => hsome).bind fun outcome? houtcome => ?_
      · rintro r ⟨other, hother, hr⟩
        exact ⟨other, List.mem_cons.mpr (.inl (List.mem_singleton.mp hother)), hr⟩
      cases outcome? with
      | none => exact houtcome
      | some outcome =>
          refine (hrest.mono ?_ fun _ hsome => hsome).bind fun reports? hreports => ?_
          · rintro r ⟨other, hother, hr⟩
            exact ⟨other, List.mem_cons_of_mem _ hother, hr⟩
          cases reports? with
          | none => exact hreports
          | some reports => exact fun _ => rfl

/-- The scenarios of a session ask only for what one of them may ask for, and end with
a report if the pauses of the run are durations. -/
theorem ensures_playAll : s.playAll.Ensures (s.AllowsSome schedule) fun report? =>
    s.session.context.PausesFit s.settings → report?.isSome := by
  refine (ensures_playEach keeps_of_mem_schedule).bind fun reports? hreports => ?_
  cases reports? with
  | none => exact hreports
  | some reports => exact fun _ => rfl

end Stage

end TtpConformance
