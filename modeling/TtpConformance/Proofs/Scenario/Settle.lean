import TtpConformance.Proofs.Session.Window

/-!
# Checks wait for what was sent

A body that sends something and looks for its effect has to pause in between, and not for
less than the settle time of the run.  Whether it does is followed along its trace by a
vigil: how often something was sent so far, and for how long the run has slept since then.

All bodies wait like this but one.  The transmissions, of which the numbers after each are
checked, pause for the length of an exchange and leave the settle time out, so their checks
can come too early if packets are dropped on purpose.

## Main definitions

* `Request.isSend`, `Request.isCheck`, `Request.sleep` — sends, checks and pauses.
* `Trace.Paced` — the time between sends and checks in a trace.
* `Program.Watched`, `Paces` — the same, checked along a program.
* `Stage.Waits` — how long the checks of a scenario wait.

## Main statements

* `Program.Watched.paced` — a watched program has paced traces.
* `Stage.paced_of_mem_schedule` — how long the checks of every scenario wait.
* `runSession_settles` — the bodies of a whole run.
-/

namespace TtpConformance

/-! ## Sends, checks and pauses -/

namespace Request

variable (settings : Settings)

/-- Whether a request sends something: a text or a file into a debug device, or a frame.
Emptying a debug device sends nothing. -/
def isSend : Request → Bool
  | .command _ (.copyFile source path) => path == settings.debugDevice && source != "/dev/null"
  | .command _ (.writeText path _) => path == settings.debugDevice
  | .command _ (.sendFrames _) => true
  | _ => false

/-- Whether a request looks for what was sent: it compares a debug device, or reads a tag
table or the counters.  To read a debug device is only to show it. -/
def isCheck : Request → Bool
  | .command _ (.compareFiles left _) => left == settings.debugDevice
  | .command _ (.readFile path) => path != settings.debugDevice &&
      (path == settings.tagsPath || path == settings.param Module.statsParam)
  | _ => false

/-- The nanoseconds for which a request pauses. -/
def sleep : Request → Nat
  | .pause length => length.nanos
  | _ => 0

end Request

namespace Trace

/-- The nanoseconds slept in a trace. -/
def slept : List Event → Nat
  | [] => 0
  | event :: events => event.1.sleep + slept events

/-- How many of the events have sent something. -/
def sends (settings : Settings) (events : List Event) : Nat :=
  events.countP (·.1.isSend settings)

/-- Whenever something is checked after something was sent, the number of the latest send
and the time slept since then are as `ok` says. -/
def Paced (settings : Settings) (ok : Nat → Nat → Prop) (events : List Event) : Prop :=
  ∀ earlier send later check after, events = earlier ++ send :: later ++ check :: after →
    send.1.isSend settings = true → sends settings later = 0 →
    check.1.isCheck settings = true → ok (sends settings earlier + 1) (slept later)

end Trace

/-! ## Watching a program -/

/-- What is known at a moment: how often something was sent, and the nanoseconds slept since
the latest time. -/
structure Vigil where
  sends : Nat := 0
  slept : Nat := 0

namespace Vigil

/-- The vigil after one more request. -/
def after (settings : Settings) (v : Vigil) (r : Request) : Vigil :=
  if r.isSend settings then ⟨v.sends + 1, 0⟩ else ⟨v.sends, v.slept + r.sleep⟩

/-- A check may come now. -/
def Allows (ok : Nat → Nat → Prop) (v : Vigil) : Prop := 0 < v.sends → ok v.sends v.slept

/-- The vigil after a trace. -/
def afterAll (settings : Settings) (v : Vigil) (events : List Event) : Vigil :=
  events.foldl (fun v event => v.after settings event.1) v

variable {settings : Settings} {v : Vigil}

theorem sends_afterAll (events : List Event) :
    (v.afterAll settings events).sends = v.sends + Trace.sends settings events := by
  induction events generalizing v with
  | nil => rfl
  | cons event events ih =>
      show ((v.after settings event.1).afterAll settings events).sends = _
      rw [ih, after, Trace.sends, Trace.sends, List.countP_cons]
      split <;> simp only <;> omega

/-- While nothing is sent, the time is added up. -/
theorem afterAll_of_no_send {events : List Event} (h : Trace.sends settings events = 0) :
    v.afterAll settings events = ⟨v.sends, v.slept + Trace.slept events⟩ := by
  induction events generalizing v with
  | nil => rfl
  | cons event events ih =>
      rw [Trace.sends, List.countP_cons] at h
      have hfirst : event.1.isSend settings = false := by
        by_contra hsend
        simp [hsend] at h
      have hrest : Trace.sends settings events = 0 := by
        simpa [hfirst, Trace.sends] using h
      show (v.after settings event.1).afterAll settings events = _
      rw [ih hrest, after, hfirst, Trace.slept]
      simp only [Bool.false_eq_true, if_false, Nat.add_assoc]

/-- The vigil knows the number of the latest send and the time since then. -/
theorem afterAll_send {earlier later : List Event} {send : Event}
    (hsend : send.1.isSend settings = true) (hlater : Trace.sends settings later = 0) :
    (afterAll settings {} (earlier ++ send :: later)) =
      ⟨Trace.sends settings earlier + 1, Trace.slept later⟩ := by
  have hsplit : afterAll settings {} (earlier ++ send :: later) =
      ((afterAll settings {} earlier).after settings send.1).afterAll settings later := by
    simp only [afterAll, List.foldl_append, List.foldl_cons]
  rw [hsplit, afterAll_of_no_send hlater, after, if_pos hsend, sends_afterAll]
  simp

end Vigil

namespace Program

variable {α β : Type} {settings : Settings} {ok : Nat → Nat → Prop} {v : Vigil}

/-- Whatever is answered, a check only comes when the vigil allows it, and the result and
the vigil at the end are as `post` says. -/
def Watched (settings : Settings) (ok : Nat → Nat → Prop) (post : α → Vigil → Prop) :
    Program α → Vigil → Prop
  | .done a, v => post a v
  | .ask r k, v => (r.isCheck settings = true → v.Allows ok) ∧
      ∀ reply, (k reply).Watched settings ok post (v.after settings r)

theorem Watched.mono {p : Program α} {post post' : α → Vigil → Prop}
    (h : p.Watched settings ok post v) (hpost : ∀ a v, post a v → post' a v) :
    p.Watched settings ok post' v := by
  induction p generalizing v with
  | done a => exact hpost a v h
  | ask r k ih => exact ⟨h.1, fun reply => ih reply (h.2 reply)⟩

theorem Watched.bind {p : Program α} {f : α → Program β} {mid : α → Vigil → Prop}
    {post : β → Vigil → Prop} (h : p.Watched settings ok mid v)
    (hf : ∀ a v, mid a v → (f a).Watched settings ok post v) :
    (p >>= f).Watched settings ok post v := by
  induction p generalizing v with
  | done a => exact hf a v h
  | ask r k ih => exact ⟨h.1, fun reply => ih reply (h.2 reply)⟩

/-- Where nothing is checked, there is nothing to wait for. -/
theorem Ensures.watched_of_no_check {p : Program α} {Q : α → Prop}
    (h : p.Ensures (fun r => r.isCheck settings = false) Q) :
    p.Watched settings ok (fun _ _ => True) v := by
  induction p generalizing v with
  | done a => trivial
  | ask r k ih =>
      refine ⟨fun hcheck => ?_, fun reply => ih reply (h.2 reply)⟩
      rw [h.1] at hcheck
      cases hcheck

/-- Where nothing is sent, there is nothing to wait for. -/
theorem Ensures.watched_of_no_send {p : Program α} {Q : α → Prop}
    (h : p.Ensures (fun r => r.isSend settings = false) Q) (hv : v.sends = 0) :
    p.Watched settings ok (fun _ _ => True) v := by
  induction p generalizing v with
  | done a => trivial
  | ask r k ih =>
      refine ⟨fun _ hpos => by omega, fun reply => ih reply (h.2 reply) ?_⟩
      simp [Vigil.after, h.1, hv]

/-- A request that neither sends nor pauses, and only checks if the vigil allows it. -/
def Idle (settings : Settings) (ok : Nat → Nat → Prop) (v : Vigil) (r : Request) : Prop :=
  r.isSend settings = false ∧ r.sleep = 0 ∧ (r.isCheck settings = true → v.Allows ok)

theorem Ensures.watched_of_idle {p : Program α} {Q : α → Prop}
    (h : p.Ensures (Idle settings ok v) Q) :
    p.Watched settings ok (fun a w => Q a ∧ w = v) v := by
  induction p with
  | done a => exact ⟨h, rfl⟩
  | ask r k ih =>
      obtain ⟨⟨hsend, hsleep, hcheck⟩, hrest⟩ := h
      refine ⟨hcheck, fun reply => ?_⟩
      rw [Vigil.after, hsend, hsleep]
      exact ih reply (hrest reply)

/-- At every check of a trace the vigil has allowed it. -/
theorem Watched.allows {p : Program α} {post : α → Vigil → Prop} {events : List Event} {a : α}
    (h : p.Watched settings ok post v) (hyields : p.Yields events a) {before after : List Event}
    {check : Event} (hevents : events = before ++ check :: after)
    (hcheck : check.1.isCheck settings = true) :
    (v.afterAll settings before).Allows ok := by
  induction p generalizing v events before with
  | done b =>
      obtain ⟨rfl, rfl⟩ := hyields
      simp at hevents
  | ask r k ih =>
      obtain ⟨reply, rest, rfl, hrest⟩ := hyields
      cases before with
      | nil =>
          injection hevents with hfirst _
          subst hfirst
          exact h.1 hcheck
      | cons event before =>
          injection hevents with hfirst hlater
          subst hfirst
          exact ih reply (h.2 reply) hrest hlater

/-- A watched program has paced traces. -/
theorem Watched.paced {p : Program α} {post : α → Vigil → Prop} {events : List Event} {a : α}
    (h : p.Watched settings ok post {}) (hyields : p.Yields events a) :
    Trace.Paced settings ok events := by
  intro earlier send later check after hevents hsend hlater hcheck
  have hallows := h.allows hyields hevents hcheck
  rw [Vigil.afterAll_send hsend hlater] at hallows
  exact hallows (Nat.succ_pos _)

end Program

/-! ## Steps and pieces -/

section Pieces

variable {ε α β : Type} {settings : Settings} {ok : Nat → Nat → Prop} {v w u : Vigil}

/-- From the vigil `v` on, the step only checks when it may, and if it succeeds, the vigil
is `w` then. -/
def Paces (settings : Settings) (ok : Nat → Nat → Prop) (x : ExceptT ε Program α)
    (v w : Vigil) : Prop :=
  x.run.Watched settings ok (fun result last => ∀ a, result = .ok a → last = w) v

/-- From the vigil `v` on, the step only checks when it may. -/
def Heeds (settings : Settings) (ok : Nat → Nat → Prop) (x : ExceptT ε Program α)
    (v : Vigil) : Prop :=
  x.run.Watched settings ok (fun _ _ => True) v

namespace Paces

theorem pure (a : α) : Paces settings ok (pure a : ExceptT ε Program α) v v :=
  fun _ _ => rfl

theorem throw {e : ε} : Paces settings ok (throw e : ExceptT ε Program α) v w :=
  fun _ heq => nomatch heq

theorem bind {x : ExceptT ε Program α} {f : α → ExceptT ε Program β}
    (h : Paces settings ok x v w) (hf : ∀ a, Paces settings ok (f a) w u) :
    Paces settings ok (x >>= f) v u := by
  unfold Paces at *
  rw [ExceptT.run_bind]
  refine h.bind fun result last hlast => ?_
  cases result with
  | error e => exact fun _ heq => nomatch heq
  | ok a =>
      rw [hlast a rfl]
      exact hf a

theorem heeds {x : ExceptT ε Program α} (h : Paces settings ok x v w) :
    Heeds settings ok x v :=
  Program.Watched.mono h fun _ _ _ => trivial

/-- What comes after a step goes on from its last vigil. -/
theorem bind_heeds {x : ExceptT ε Program α} {f : α → ExceptT ε Program β}
    (h : Paces settings ok x v w) (hf : ∀ a, Heeds settings ok (f a) w) :
    Heeds settings ok (x >>= f) v := by
  unfold Paces Heeds at *
  rw [ExceptT.run_bind]
  refine h.bind fun result last hlast => ?_
  cases result with
  | error e => trivial
  | ok a =>
      rw [hlast a rfl]
      exact hf a

theorem discard {x : ExceptT ε Program α} (h : Paces settings ok x v w) :
    Paces settings ok (discard x : ExceptT ε Program Unit) v w := by
  rw [discard_eq_map, map_eq_pure_bind]
  exact h.bind fun _ => pure ()

theorem lift {p : Program α} (h : p.Watched settings ok (fun _ last => last = w) v) :
    Paces settings ok (ExceptT.lift p : ExceptT ε Program α) v w := by
  unfold Paces
  rw [ExceptT.run_lift, map_eq_pure_bind]
  exact h.bind fun _ _ hlast _ _ => hlast

/-- A step that is idle leaves the vigil as it is. -/
theorem of_conforms {E : ε → Prop} {x : ExceptT ε Program α}
    (h : Conforms (Program.Idle settings ok v) E x) : Paces settings ok x v v :=
  (Program.Ensures.watched_of_idle h).mono fun _ _ hlast _ _ => hlast.2

end Paces

namespace Step

variable {host : Host} {command : Command}

theorem paces_pause (length : Duration) :
    Paces settings ok (Step.pause length) v ⟨v.sends, v.slept + length.nanos⟩ :=
  ⟨(nomatch ·), fun _ _ _ => rfl⟩

variable (hcheck : Request.isCheck settings (.command host command) = false)

include hcheck

theorem paces_execute :
    Paces settings ok (Step.execute host command) v (v.after settings (.command host command)) := by
  refine ⟨fun htrue => ?_, fun reply => ?_⟩
  · rw [hcheck] at htrue
    cases htrue
  · cases reply with
    | ok output => exact fun _ _ => rfl
    | error reason => exact fun _ heq => nomatch heq

theorem paces_checked :
    Paces settings ok (Step.checked host command) v (v.after settings (.command host command)) := by
  refine (paces_execute hcheck).bind fun output => ?_
  split
  · exact Paces.pure _
  · exact Paces.throw

end Step

theorem Check.paces_ofStep {step : Step α} (h : Paces settings ok step v w) :
    Paces settings ok (Check.ofStep step) v w := by
  refine Program.Watched.bind h fun result last hlast => ?_
  cases result with
  | ok a => exact fun _ _ => hlast a rfl
  | error e => exact fun _ heq => nomatch heq

end Pieces

namespace Stage

variable {s : Stage} {ok : Nat → Nat → Prop} {v w : Vigil} {host : Host}

theorem paces_wait (length : Duration) :
    Paces s.settings ok (wait length) v ⟨v.sends, v.slept + length.nanos⟩ :=
  Check.paces_ofStep (Step.paces_pause length)

/-- A pause lasts for its base and the settle time, or the body ends. -/
theorem paces_pause (base : Duration) : Paces s.settings ok (s.pause base) v
    ⟨v.sends, v.slept + (base.nanos + s.session.context.settle.nanos)⟩ := by
  unfold Stage.pause
  split
  · rename_i length hsome
    have hlength : length.nanos = base.nanos + s.session.context.settle.nanos := by
      unfold Duration.add? Duration.ofNanos? at hsome
      split at hsome
      · cases hsome
        rfl
      · cases hsome
    rw [← hlength]
    exact paces_wait length
  · exact Paces.throw

/-- No test file is the empty one. -/
theorem testFile_ne_null (settings : Settings) {file : String}
    (h : ¬ file.toList <:+ "/dev/null".toList) : settings.testFile file ≠ "/dev/null" := by
  intro heq
  apply h
  rw [← heq, Settings.testFile]
  exact ⟨settings.testDataDir.toList ++ ['/'], by simp⟩

theorem paces_sendFile {file : String} (h : ¬ file.toList <:+ "/dev/null".toList) :
    Paces s.settings ok (s.sendFile host file) v ⟨v.sends + 1, 0⟩ := by
  have hsend : Request.isSend s.settings (.command host
      (.copyFile (s.settings.testFile file) s.settings.debugDevice)) = true := by
    simpa [Request.isSend] using testFile_ne_null s.settings h
  have hstep : Paces s.settings ok
      (Step.checked host (.copyFile (s.settings.testFile file) s.settings.debugDevice)) v
      (v.after s.settings
        (.command host (.copyFile (s.settings.testFile file) s.settings.debugDevice))) :=
    Step.paces_checked rfl
  rw [Vigil.after, if_pos hsend] at hstep
  exact Check.paces_ofStep hstep.discard

/-- Emptying a debug device is idle. -/
theorem paces_clearDebug : Paces s.settings ok (s.clearDebug host) v v :=
  .of_conforms (E := fun _ => True) (conforms_clearDebug (fun _ _ => trivial)
    ⟨by simp [Request.isSend], rfl, fun hcheck => nomatch hcheck⟩)

/-- Asking for the peer asks nobody. -/
theorem paces_peer : Paces s.settings ok s.peer v v := by
  unfold Stage.peer
  split
  · exact Paces.pure _
  · exact Paces.throw

section Checks

variable (hv : v.Allows ok)

include hv

theorem paces_expectReceived (file : String) :
    Paces s.settings ok (s.expectReceived host file) v v :=
  .of_conforms (E := fun _ => True)
    (conforms_expectReceived (fun _ _ => trivial) ⟨rfl, rfl, fun _ => hv⟩)

theorem paces_verify (peer : String) (expected : SeqTriple) :
    Paces s.settings ok (Check.ofVerdict (Observe.verify s.settings host peer expected)) v v :=
  .of_conforms (E := fun _ => True)
    (conforms_verify (fun _ _ => trivial) ⟨rfl, rfl, fun _ => hv⟩ peer expected)

theorem paces_openTag (peer : String) :
    Paces s.settings ok (Check.ofStep (Observe.openTag s.settings host peer)) v v :=
  .of_conforms (E := fun _ => True)
    (conforms_openTag (fun _ _ => trivial) ⟨rfl, rfl, fun _ => hv⟩ peer)

theorem paces_expectDrained : Paces s.settings ok (s.expectDrained host) v v :=
  .of_conforms (E := fun _ => True)
    (conforms_expectDrained (fun _ _ => trivial) ⟨rfl, rfl, fun _ => hv⟩)

theorem paces_expectReceivedCount (expected : UInt64) :
    Paces s.settings ok (Check.ofVerdict (Observe.received s.settings host expected)) v v :=
  .of_conforms (E := fun _ => True)
    (conforms_expectReceivedCount (fun _ _ => trivial) ⟨rfl, rfl, fun _ => hv⟩ expected)

end Checks

/-! ## Bodies -/

/-- The time that a check of a body has to wait for: the settle time of the run, whichever
send was the latest. -/
def SettleTime (s : Stage) (_sends slept : Nat) : Prop := s.session.context.settle.nanos ≤ slept

/-- The time that the checks of the transmissions wait for: that of the first exchange, and
then that of any other one. -/
def ExchangeTime (s : Stage) (sends slept : Nat) : Prop :=
  slept = (if sends = 1 then s.settings.timing.firstExchange
    else s.settings.timing.exchange).nanos

/-- After a pause with the settle time, a check may come. -/
theorem allows_settleTime (sends slept base : Nat) :
    Vigil.Allows s.SettleTime ⟨sends, slept + (base + s.session.context.settle.nanos)⟩ := by
  intro _
  show s.session.context.settle.nanos ≤ slept + (base + s.session.context.settle.nanos)
  omega

theorem paces_receiveOne (peer : Host) (offset : SeqOffset) :
    Paces s.settings s.SettleTime (s.receiveOne peer offset) v
      ⟨v.sends + 1, 0 + (s.settings.timing.exchange.nanos +
        s.session.context.settle.nanos)⟩ := by
  have hallows := s.allows_settleTime (v.sends + 1) 0 s.settings.timing.exchange.nanos
  refine (paces_sendFile (by decide)).bind fun _ => (paces_pause _).bind fun _ => ?_
  -- this look decides nothing, but it comes after the pause like the check
  have hlook : (discard (s.hasReceived .self greetFile).run : Program Unit).Ensures
      (Program.Idle s.settings s.SettleTime _) fun _ => True :=
    Program.Ensures.discard (Step.conforms_test (E := fun _ => True)
      ⟨rfl, rfl, fun _ => hallows⟩ fun _ _ => trivial)
  refine (Paces.lift (hlook.watched_of_idle.mono fun _ _ hlast => hlast.2)).bind fun _ => ?_
  exact paces_verify hallows _ _

theorem heeds_receive : Heeds s.settings s.SettleTime s.receive {} := by
  refine paces_peer.bind_heeds fun peer => ?_
  have htarget : Conforms (Program.Idle s.settings s.SettleTime {}) RunError.OfCommand
      (Module.setTarget s.settings peer s.session.identities.self.targetCode
        s.session.context.channel) :=
    Module.conforms_setTarget (fun _ => id)
      (fun _ _ => ⟨rfl, rfl, fun hcheck => nomatch hcheck⟩) _ _
  -- pointing the peer at the local node sets a parameter, and is no send
  refine (Check.paces_ofStep (.of_conforms htarget)).bind_heeds fun _ => ?_
  refine paces_clearDebug.bind_heeds fun _ => ?_
  exact (paces_receiveOne peer .firstRx).bind_heeds fun _ =>
    (paces_receiveOne peer .secondRx).heeds

theorem heeds_roundTrip {file : String} (h : ¬ file.toList <:+ "/dev/null".toList) :
    Heeds s.settings s.SettleTime (s.roundTrip file) {} := by
  refine paces_peer.bind_heeds fun peer => ?_
  refine paces_clearDebug.bind_heeds fun _ => (paces_pause _).bind_heeds fun _ => ?_
  refine (paces_sendFile h).bind_heeds fun _ => (paces_pause _).bind_heeds fun _ => ?_
  exact (paces_expectReceived (s.allows_settleTime _ 0 _) file).heeds

theorem paces_sender (direction : Direction) : Paces s.settings ok (s.sender direction) v v := by
  cases direction with
  | send => exact Paces.pure _
  | receive => exact paces_peer.bind fun peer => Paces.pure _

theorem heeds_inject (direction : Direction) (opcode : Opcode) :
    Heeds s.settings s.SettleTime (s.inject direction opcode) {} := by
  refine (paces_sender direction).bind_heeds fun (host, device) => ?_
  refine (Check.paces_ofStep (Step.paces_checked rfl)).discard.bind_heeds fun _ => ?_
  refine (paces_pause _).bind_heeds fun _ => ?_
  refine (paces_openTag (s.allows_settleTime 1 0 _) _).bind_heeds fun isOpen => ?_
  split <;> trivial

/-- The transmissions leave the settle time out. -/
theorem heeds_transmit : Heeds s.settings s.ExchangeTime s.transmit {} := by
  refine paces_peer.bind_heeds fun peer => ?_
  have hfirst : Vigil.Allows s.ExchangeTime ⟨1, 0 + s.settings.timing.firstExchange.nanos⟩ :=
    fun _ => Nat.zero_add _
  have hsecond : Vigil.Allows s.ExchangeTime ⟨2, 0 + s.settings.timing.exchange.nanos⟩ :=
    fun _ => Nat.zero_add _
  refine (paces_sendFile (by decide)).bind_heeds fun _ => (paces_wait _).bind_heeds fun _ => ?_
  refine (paces_expectReceived hfirst _).bind_heeds fun _ => ?_
  refine (paces_verify hfirst _ _).bind_heeds fun _ => ?_
  refine (paces_sendFile (by decide)).bind_heeds fun _ => (paces_wait _).bind_heeds fun _ => ?_
  refine (paces_verify hsecond _ _).bind_heeds fun _ => ?_
  refine (paces_expectDrained hsecond).bind_heeds fun _ => ?_
  exact (paces_expectReceivedCount hsecond _).heeds

/-! ## Bodies without sends, or without checks -/

section Bounds

variable {P : Request → Prop}

theorem conforms_peer : Conforms P (fun _ => True) s.peer := by
  unfold Stage.peer
  split
  · exact Conforms.pure _
  · exact Conforms.throw trivial

theorem conforms_wait {length : Duration} (h : P (.pause length)) :
    Conforms P (fun _ => True) (wait length) :=
  Check.conforms_ofStep (fun _ _ => trivial) (Step.conforms_pause h)

theorem conforms_pause {base : Duration} (h : ∀ length, P (.pause length)) :
    Conforms P (fun _ => True) (s.pause base) := by
  unfold Stage.pause
  split
  · exact conforms_wait (h _)
  · exact Conforms.throw trivial

end Bounds

/-- A body that checks nothing has nothing to wait for. -/
theorem heeds_of_no_check {E : BodyEnd → Prop} {body : Check Unit}
    (h : Conforms (fun r => r.isCheck s.settings = false) E body) :
    Heeds s.settings ok body {} :=
  h.watched_of_no_check

/-- A body that sends nothing has nothing to wait for. -/
theorem heeds_of_no_send {E : BodyEnd → Prop} {body : Check Unit}
    (h : Conforms (fun r => r.isSend s.settings = false) E body) :
    Heeds s.settings ok body {} :=
  h.watched_of_no_send rfl

section NoCheck

private theorem no_check_clearDebug : Conforms (fun r => r.isCheck s.settings = false)
    (fun _ => True) (s.clearDebug host) :=
  conforms_clearDebug (fun _ _ => trivial) rfl

private theorem no_check_sendFile {file : String} :
    Conforms (fun r => r.isCheck s.settings = false) (fun _ => True) (s.sendFile host file) :=
  conforms_sendFile (fun _ _ => trivial) rfl

theorem heeds_clearBoth : Heeds s.settings ok s.clearBoth {} :=
  heeds_of_no_check (conforms_peer.bind fun _ =>
    no_check_clearDebug.bind fun _ => no_check_clearDebug)

theorem heeds_oversubscribe : Heeds s.settings ok s.oversubscribe {} := by
  refine heeds_of_no_check (E := fun _ => True) (conforms_peer.bind fun peer => ?_)
  have hdropped : Conforms (fun r => r.isCheck s.settings = false) RunError.OfCommand
      (Step.execute peer (.writeText s.settings.debugDevice droppedText)) :=
    Step.conforms_execute rfl fun _ => id
  have hwait : Conforms (fun r => r.isCheck s.settings = false) (fun _ => True)
      (wait s.settings.timing.exchange) := conforms_wait rfl
  refine no_check_clearDebug.bind fun _ => no_check_clearDebug.bind fun _ => ?_
  refine hwait.bind fun _ => no_check_sendFile.bind fun _ => ?_
  refine (Check.conforms_ofStep (fun _ _ => trivial) hdropped).discard.bind fun _ => ?_
  refine hwait.bind fun _ => ?_
  exact no_check_clearDebug.bind fun _ => no_check_clearDebug

theorem heeds_burst (file : String) (count : Nat) :
    Heeds s.settings ok (s.burst file count) {} :=
  heeds_of_no_check (conforms_peer.bind fun _ => no_check_clearDebug.bind fun _ =>
    Check.conforms_times no_check_sendFile count)

/-- To show the debug devices is not to check them. -/
theorem heeds_showDebug : Heeds s.settings ok s.showDebug {} := by
  refine heeds_of_no_check (E := fun _ => True) (conforms_peer.bind fun peer => ?_)
  have hrefill : ∀ host, Conforms (fun r => r.isCheck s.settings = false) (fun _ => True)
      (s.refillDebug host) := fun host =>
    no_check_clearDebug.bind fun _ => no_check_sendFile
  have hread : ∀ host, Conforms (fun r => r.isCheck s.settings = false) (fun _ => True)
      (s.readDebug host) := fun host =>
    conforms_readDebug (fun _ _ => trivial) (by simp [Request.isCheck])
  refine (hrefill .self).bind fun _ => (hrefill peer).bind fun _ => ?_
  exact (hread .self).bind fun _ => hread peer

end NoCheck

section NoSend

theorem heeds_dumpStats : Heeds s.settings ok (s.dumpStats host) {} :=
  heeds_of_no_send (conforms_dumpStats (E := fun _ => True) (fun _ _ => trivial) rfl)

private theorem no_send_dumpTags : Conforms (fun r => r.isSend s.settings = false)
    (fun _ => True) (s.dumpTags host) :=
  conforms_dumpTags (fun _ _ => trivial) rfl

theorem heeds_dumpTags : Heeds s.settings ok (s.dumpTags host) {} :=
  heeds_of_no_send no_send_dumpTags

theorem heeds_showTags : Heeds s.settings ok s.showTags {} :=
  heeds_of_no_send (conforms_peer.bind fun _ => no_send_dumpTags.bind fun _ => no_send_dumpTags)

private theorem no_send_pause {base : Duration} : Conforms
    (fun r => r.isSend s.settings = false) (fun _ => True) (s.pause base) :=
  conforms_pause fun _ => rfl

private theorem no_send_drained : Conforms (fun r => r.isSend s.settings = false)
    (fun _ => True) (s.drained host) :=
  no_send_pause.bind fun _ => conforms_expectDrained (fun _ _ => trivial) rfl

theorem heeds_drained : Heeds s.settings ok (s.drained host) {} :=
  heeds_of_no_send no_send_drained

theorem heeds_peerDrained : Heeds s.settings ok s.peerDrained {} :=
  heeds_of_no_send (conforms_peer.bind fun _ => no_send_drained)

theorem heeds_peerClosed : Heeds s.settings ok s.peerClosed {} := by
  refine heeds_of_no_send (E := fun _ => True) (conforms_peer.bind fun peer => ?_)
  have hopen : Conforms (fun r => r.isSend s.settings = false) (fun _ => True)
      (Check.ofStep (Observe.openTag s.settings peer s.selfFragment)) :=
    conforms_openTag (fun _ _ => trivial)
      (show Request.isSend s.settings (.command peer (.readFile s.settings.tagsPath)) = false
        from rfl) s.selfFragment
  refine no_send_pause.bind fun _ => hopen.bind fun isOpen => ?_
  split
  · exact Conforms.throw trivial
  · exact Conforms.pure ()

end NoSend

/-! ## The schedule -/

/-- How long the checks of a scenario wait, by the number of the latest send. -/
def Waits (s : Stage) (scenario : Scenario) : Nat → Nat → Prop :=
  if scenario.name = "tx_seq" then s.ExchangeTime else s.SettleTime

/-- The checks of every scenario wait as they do. -/
theorem heeds_of_mem_schedule : ∀ scenario ∈ schedule,
    Heeds s.settings (s.Waits scenario) (scenario.body s) {} := by
  intro scenario hmem
  simp only [schedule, Scenario.sequenceGroup, Scenario.payloadGroup, Scenario.packetGroup,
    Scenario.showGroup, Scenario.trafficGroup, Scenario.cleanupGroup, List.mem_append,
    List.mem_cons, List.not_mem_nil, or_false] at hmem
  rcases hmem with ((((hmem | hmem) | hmem) | hmem) | hmem) | hmem
  · rcases hmem with rfl | rfl | rfl | rfl
    · exact heeds_clearBoth
    · exact heeds_transmit
    · exact heeds_receive
    · exact heeds_oversubscribe
  · rcases hmem with rfl | rfl | hmem
    · exact heeds_dumpStats
    · exact heeds_dumpTags
    rcases hmem with rfl | rfl | rfl | rfl | rfl
    all_goals exact heeds_roundTrip (by decide)
  · rcases hmem with rfl | rfl | rfl | rfl | rfl | rfl
    all_goals exact heeds_inject _ _
  · rcases hmem with rfl | rfl
    · exact heeds_showTags
    · exact heeds_showDebug
  · rcases hmem with rfl | rfl | rfl | rfl | rfl
    all_goals exact heeds_burst _ _
  · rcases hmem with rfl | rfl | rfl
    · exact heeds_peerClosed
    · exact heeds_drained
    · exact heeds_peerDrained

/-- A scenario that is not skipped, with a trace of its body. -/
def RunsBody (s : Stage) (part : Scenario × List Event) : Prop :=
  part.1.skipReason? s.session = none ∧ ∃ result, (part.1.body s).run.Yields part.2 result

theorem paced_of_mem_schedule {part : Scenario × List Event} (hmem : part.1 ∈ schedule)
    (hruns : s.RunsBody part) : Trace.Paced s.settings (s.Waits part.1) part.2 := by
  obtain ⟨-, result, hyields⟩ := hruns
  exact (heeds_of_mem_schedule part.1 hmem).paced hyields

/-- To play a scenario is to skip it, or to play its body. -/
theorem runsBody_of_yields_play {scenario : Scenario} {events : List Event}
    {outcome? : Option ScenarioOutcome} (h : (s.play scenario).Yields events outcome?) :
    (scenario.skipReason? s.session ≠ none ∧ outcome? ≠ none ∧ events = []) ∨
      s.RunsBody (scenario, events) := by
  unfold play at h
  split at h
  · rename_i reason hskip
    obtain ⟨rfl, rfl⟩ := h
    exact .inl ⟨by simp [hskip], by simp, rfl⟩
  · rename_i hskip
    obtain ⟨body, result, rest, rfl, hbody, hend⟩ := Program.yields_bind_iff.mp h
    have hnil : rest = [] := by
      match result, hend with
      | .ok (), hend => exact hend.1
      | .error (.failed _), hend => exact hend.1
      | .error .endlessPause, hend => exact hend.1
    rw [hnil, List.append_nil]
    exact .inr ⟨hskip, result, hbody⟩

/-- To play scenarios is to play, one after the other, the bodies of those that are not
skipped, as far as one gets. -/
theorem bodies_of_yields_playEach {scenarios : List Scenario} {events : List Event}
    {reports? : Option (List ScenarioReport)}
    (h : (s.playEach scenarios).Yields events reports?) :
    ∃ parts : List (Scenario × List Event), events = parts.flatMap Prod.snd ∧
      parts.map Prod.fst <+: scenarios.filter (·.skipReason? s.session = none) ∧
      ∀ part ∈ parts, s.RunsBody part := by
  induction scenarios generalizing events reports? with
  | nil =>
      obtain ⟨rfl, -⟩ := h
      exact ⟨[], rfl, List.nil_prefix, by simp⟩
  | cons scenario scenarios ih =>
      obtain ⟨first, outcome?, rest, rfl, hfirst, hrest⟩ := Program.yields_bind_iff.mp h
      have hlater : outcome? = none ∧ rest = [] ∨
          ∃ reports?, (s.playEach scenarios).Yields rest reports? := by
        cases outcome? with
        | none => exact .inl ⟨rfl, hrest.1⟩
        | some outcome =>
            obtain ⟨rest, reports?, last, rfl, hrest, hend⟩ := Program.yields_bind_iff.mp hrest
            have hnil : last = [] := by cases reports? <;> exact hend.1
            rw [hnil, List.append_nil]
            exact .inr ⟨reports?, hrest⟩
      rcases runsBody_of_yields_play hfirst with ⟨hskip, hsome, rfl⟩ | hruns
      · obtain ⟨hnone, -⟩ | ⟨reports?, hrest⟩ := hlater
        · exact absurd hnone hsome
        · obtain ⟨parts, rfl, hplayed, hparts⟩ := ih hrest
          exact ⟨parts, rfl, by simpa [hskip] using hplayed, hparts⟩
      · have hfilter : (scenario :: scenarios).filter (·.skipReason? s.session = none) =
            scenario :: scenarios.filter (·.skipReason? s.session = none) :=
          List.filter_cons_of_pos (by simp [hruns.1])
        rw [hfilter]
        obtain ⟨-, rfl⟩ | ⟨reports?, hrest⟩ := hlater
        · exact ⟨[(scenario, first)], by simp, ⟨_, rfl⟩, by simpa using hruns⟩
        · obtain ⟨parts, rfl, hplayed, hparts⟩ := ih hrest
          exact ⟨(scenario, first) :: parts, rfl, List.prefix_cons_inj _ |>.mpr hplayed,
            List.forall_mem_cons.mpr ⟨hruns, hparts⟩⟩

end Stage

/-! ## Whole runs -/

/-- The scenarios of a session are the bodies of those that are not skipped, as far as one
gets. -/
theorem Session.bodies_of_yields_runScenarios {settings : Settings} {session : Session}
    {events : List Event} {report? : Option RunReport}
    (h : (session.runScenarios settings).Yields events report?) :
    ∃ parts : List (Scenario × List Event), events = parts.flatMap Prod.snd ∧
      parts.map Prod.fst <+: schedule.filter (·.skipReason? session = none) ∧
      ∀ part ∈ parts, Stage.RunsBody ⟨settings, session⟩ part := by
  obtain ⟨events, reports?, rest, rfl, hplay, hend⟩ := Program.yields_bind_iff.mp h
  obtain ⟨rfl, -⟩ := hend
  rw [List.append_nil]
  exact Stage.bodies_of_yields_playEach hplay

/--
How long the checks of a run wait.  Unless the setup fails, the run consists of the setup, the
bodies of the scenarios that are not skipped, one after the other, and what takes it down.  In
each body, whenever something is checked after something was sent, the body has slept since
the latest send for the settle time of the run at least.  The body of `tx_seq` is the
exception: it has slept for exactly the length of the first exchange if this was the first send,
and for that of an exchange if it was not, whatever the settle time.
-/
theorem runSession_settles (settings : Settings) (context : RunContext) {events : List Event}
    {result : Except RunError (Option RunReport)}
    (h : (runSession settings context).run.Yields events result) :
    (∃ e, result = .error e ∧ Fails (Session.setup settings context) events e) ∨
      ∃ (setup down : List Event) (session : Session) (parts : List (Scenario × List Event))
        (report? : Option RunReport),
        events = setup ++ parts.flatMap Prod.snd ++ down ∧ result = .ok report? ∧
        Succeeds (Session.setup settings context) setup session ∧
        session.context = context ∧
        (session.runScenarios settings).Yields (parts.flatMap Prod.snd) report? ∧
        parts.map Prod.fst <+: schedule.filter (·.skipReason? session = none) ∧
        (session.finish settings report?).Yields down () ∧
        ∀ part ∈ parts, Stage.RunsBody ⟨settings, session⟩ part ∧
          Trace.Paced settings (fun sends slept =>
            if part.1.name = "tx_seq" then
              slept = (if sends = 1 then settings.timing.firstExchange
                else settings.timing.exchange).nanos
            else context.settle.nanos ≤ slept) part.2 := by
  rw [runSession_eq] at h
  rcases yields_run_bind_iff.mp h with
    ⟨e, hsetup, rfl⟩ | ⟨setup, session, rest, rfl, hsetup, hrest⟩
  · exact .inl ⟨e, rfl, hsetup⟩
  have hcontext := Session.context_of_succeeds_setup hsetup
  obtain ⟨work, report?, down, rfl, rfl, hwork, hdown⟩ :=
    Session.finish_of_yields_conclude hrest
  obtain ⟨parts, rfl, hplayed, hparts⟩ := Session.bodies_of_yields_runScenarios hwork
  refine .inr ⟨setup, down, session, parts, report?, by simp, rfl, hsetup, hcontext, hwork,
    hplayed, hdown, fun part hpart => ⟨hparts part hpart, ?_⟩⟩
  have hmem : part.1 ∈ schedule :=
    List.mem_of_mem_filter (hplayed.subset (List.mem_map_of_mem hpart))
  have hpaced := Stage.paced_of_mem_schedule hmem (hparts part hpart)
  by_cases hname : part.1.name = "tx_seq"
  · simp only [Stage.Waits, if_pos hname] at hpaced ⊢
    exact hpaced
  · simp only [Stage.Waits, if_neg hname] at hpaced ⊢
    exact hcontext ▸ hpaced

/-- A run in which frames are dropped, with all its transmissions, and the bodies that wait
the settle time. -/
theorem runSession_settles_dropping :
    let context := { RunContext.toFourthNode with dropPercent := 10, settle := dropSettle }
    let x := Surroundings.showing { stdout := "5" }
    let outcome := x.run (runSession {} context).run { path := "/locks" }
    outcome.result.isOk = true ∧ (outcome.trace.any (·.1.isSend {})) = true ∧
      ∃ (setup down : List Event) (parts : List (Scenario × List Event)),
        outcome.trace = setup ++ parts.flatMap Prod.snd ++ down ∧
        ∀ part ∈ parts, part.1.name ≠ "tx_seq" →
          Trace.Paced {} (fun _ slept => dropSettle.nanos ≤ slept) part.2 := by
  intro context x outcome
  have hok : outcome.result.isOk = true := by decide +kernel
  refine ⟨hok, by decide +kernel, ?_⟩
  rcases runSession_settles {} context (x.run_yields _ { path := "/locks" }) with
    ⟨e, herror, -⟩ | ⟨setup, down, session, parts, report?, htrace, -, -, -, -, -, -, hparts⟩
  · rw [herror] at hok
    cases hok
  · refine ⟨setup, down, parts, htrace, fun part hpart hname => ?_⟩
    have hpaced := (hparts part hpart).2
    simp only [if_neg hname] at hpaced
    exact hpaced

/-- The scenario that sends two files to the peer. -/
def Scenario.transmission : Scenario :=
  ⟨"seq_ids", "tx_seq", [.moduleReload, .peer], (·.transmit)⟩

theorem Scenario.transmission_mem_schedule : transmission ∈ schedule := by
  simp [schedule, transmission, sequenceGroup]

/-- In such a run the first transmission is checked after one second, although the settle time
is two. -/
theorem Stage.not_paced_transmit :
    let context := { RunContext.toFourthNode with dropPercent := 10, settle := dropSettle }
    let x := Surroundings.showing { stdout := "5" }
    let d : LockDirectory := { path := "/locks" }
    ∃ session scenario events, (x.run (Session.setup {} context).run d).result = .ok session ∧
      scenario ∈ schedule ∧ Stage.RunsBody ⟨{}, session⟩ (scenario, events) ∧
      ¬ Trace.Paced {} (fun _ slept => session.context.settle.nanos ≤ slept) events := by
  intro context x d
  have hruns : (x.run (Session.setup {} context).run d).result.toOption.map (fun session =>
      (Scenario.transmission.skipReason? session, session.context.settle.nanos,
        ((x.run (Stage.transmit ⟨{}, session⟩).run d).trace.take 3).map Sigma.fst)) =
      some (none, 2000000000,
        [.command .self (.copyFile "/mnt/mac/tests/greet" "/dev/noc_debug"),
          .pause (.ofMillis 1000),
          .command (.remote "node-04")
            (.compareFiles "/dev/noc_debug" "/mnt/mac/tests/greet")]) := by
    decide +kernel
  cases hsession : (x.run (Session.setup {} context).run d).result with
  | error e =>
      rw [hsession] at hruns
      cases hruns
  | ok session =>
      rw [hsession] at hruns
      injection hruns with hruns
      obtain ⟨hskip, hrest⟩ := Prod.mk.inj hruns
      obtain ⟨hsettle, hasked⟩ := Prod.mk.inj hrest
      obtain ⟨send, _, htake, hsend, hasked⟩ := List.map_eq_cons_iff.mp hasked
      obtain ⟨wait, _, rfl, hwait, hasked⟩ := List.map_eq_cons_iff.mp hasked
      obtain ⟨check, _, rfl, hcheck, hasked⟩ := List.map_eq_cons_iff.mp hasked
      obtain rfl := List.map_eq_nil_iff.mp hasked
      have hsplit := (List.take_append_drop 3
        (x.run (Stage.transmit ⟨{}, session⟩).run d).trace).symm
      rw [htake] at hsplit
      refine ⟨session, .transmission, _, rfl, Scenario.transmission_mem_schedule,
        ⟨hskip, _, x.run_yields (Stage.transmit ⟨{}, session⟩).run d⟩, fun hpaced => ?_⟩
      have hslept := hpaced [] send [wait] check _ hsplit (by rw [hsend]; rfl)
        (by simp [Trace.sends, hwait, Request.isSend]) (by rw [hcheck]; rfl)
      have hone : Trace.slept [wait] = 1000000000 := by
        rw [Trace.slept, hwait]
        rfl
      rw [hsettle, hone] at hslept
      omega

end TtpConformance
