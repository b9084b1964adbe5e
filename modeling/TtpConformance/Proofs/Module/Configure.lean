import TtpConformance.Proofs.Module.Plan
import TtpConformance.Proofs.Run.Unheard

/-!
# Configuring follows a plan

Each piece of the configuration comes with the steps that it carries out or is cut
short in, and pieces in sequence come with their steps in sequence.  Only waiting for
the next hop has no fixed number of steps: the attempts that are left bound it, and
each probe that finds nothing uses up one of them.

## Main definitions

* `Step.Follows` — a piece that carries out given steps.
* `Module.Awaited` — how waiting for the next hop ends.
* `Module.IsLook` — the reads that are for information only.

## Main statements

* `Module.awaited_of_yields_pollFrom` — waiting for the next hop.
* `Module.configured_of_yields` — what configuring the local module does.
* `Module.ignores_configureSelf` — what is read for information makes no difference.
-/

namespace TtpConformance

/-! ## Steps that follow a plan -/

namespace Step

variable {α β : Type} {settings : Settings} {steps steps' : List ConfigStep}

/-- A step that reads and writes parameters as planned, unless it fails. -/
def Follows (settings : Settings) (steps : List ConfigStep) (x : Step α) : Prop :=
  ∀ events, (∀ a, Succeeds x events a →
      ConfigStep.Completes settings steps (Trace.selfFiles events)) ∧
    ∀ e, Fails x events e →
      ConfigStep.CutShort settings steps (Trace.selfFiles events) ∧ e.OfCommand

theorem Follows.bind {x : Step α} {f : α → Step β} (hx : Follows settings steps x)
    (hf : ∀ a, Follows settings steps' (f a)) : Follows settings (steps ++ steps') (x >>= f) := by
  intro events
  constructor
  · intro b h
    rcases yields_run_bind_iff.mp h with ⟨e, -, heq⟩ | ⟨first, a, second, rfl, hfirst, hsecond⟩
    · cases heq
    · rw [Trace.selfFiles_append]
      exact ((hx first).1 a hfirst).append ((hf a second).1 b hsecond)
  · intro e h
    rcases fails_bind_iff.mp h with hfail | ⟨first, a, second, rfl, hfirst, hsecond⟩
    · obtain ⟨hcut, he⟩ := (hx events).2 e hfail
      exact ⟨hcut.append steps', he⟩
    · obtain ⟨hcut, he⟩ := (hf a second).2 e hsecond
      rw [Trace.selfFiles_append]
      exact ⟨((hx first).1 a hfirst).append_cutShort hcut, he⟩

/-- A step that is one command of a plan. -/
theorem follows_single {x : Step α} {step : ConfigStep}
    (h : ∀ events result, x.run.Yields events result →
      ∃ reply, events = [step.event settings reply] ∧
        ((∃ a, result = .ok a ∧ step.GoesOn reply) ∨
          ∃ e, result = .error e ∧ e.OfCommand ∧ step.Stops reply)) :
    Follows settings [step] x := by
  intro events
  constructor
  · intro a hsucceeds
    obtain ⟨reply, rfl, ⟨_, -, hgoes⟩ | ⟨_, heq, -⟩⟩ := h _ _ hsucceeds
    · rw [ConfigStep.selfFiles_event]
      exact .cons hgoes .nil
    · cases heq
  · intro e hfails
    obtain ⟨reply, rfl, ⟨_, heq, -⟩ | ⟨_, heq, he, hstops⟩⟩ := h _ _ hfails
    · cases heq
    · cases heq
      rw [ConfigStep.selfFiles_event]
      exact ⟨.here hstops, he⟩

end Step

namespace Module

open ConfigStep

variable {settings : Settings} {events : List Event}

/-! ## Pieces -/

theorem follows_writeParam (settings : Settings) (name value : String) :
    Step.Follows settings [.write name value] (writeParam settings .self name value) := by
  apply Step.follows_single
  intro events result h
  obtain ⟨reply, rfl, ⟨text, htext, rfl⟩ | ⟨hnone, e, rfl, he⟩⟩ :=
    Step.reads_checked.discard events result h
  · exact ⟨reply, rfl, .inl ⟨(), rfl, text, htext⟩⟩
  · exact ⟨reply, rfl, .inr ⟨e, rfl, he, hnone⟩⟩

/-- Pointing the module at a peer follows the route. -/
theorem follows_setTarget (settings : Settings) (code : String) (channel : Channel) :
    Step.Follows settings (route code channel) (setTarget settings .self code channel) := by
  have htarget := follows_writeParam settings targetParam code
  unfold setTarget route
  cases channel.isDefault with
  | true => exact htarget
  | false => exact (follows_writeParam settings channelParam channel.text).bind fun _ => htarget

theorem reads_readParam (settings : Settings) (name : String) :
    Step.Reads .self (.readFile (settings.param name)) (fun text => .ok (Text.trimmed text))
      (readParam settings .self name) :=
  Step.reads_checked.bind fun text => .ok (Text.trimmed text)

/-- The looks follow one after the other, whatever they are answered. -/
theorem completes_of_yields_showIpv4Params {names : List String} {u : Unit}
    (h : (showIpv4Params settings .self names).Yields events u) :
    ConfigStep.Completes settings (names.map .look) (Trace.selfFiles events) := by
  induction names generalizing events with
  | nil =>
      obtain ⟨rfl, -⟩ := h
      exact .nil
  | cons name names ih =>
      obtain ⟨first, _, second, rfl, hfirst, hsecond⟩ := Program.yields_bind_iff.mp h
      obtain ⟨_, hread⟩ := Program.yields_discard_iff.mp hfirst
      obtain ⟨reply, rfl, -⟩ := reads_readParam settings name _ _ hread
      have hlook := ConfigStep.selfFiles_event settings (.look name) reply
      rw [Trace.selfFiles_append]
      exact hlook ▸ .cons trivial (ih hsecond)

theorem follows_showIpv4Params (settings : Settings) :
    Step.Follows settings looks (ExceptT.lift (showIpv4Params settings .self ipv4Params)) := by
  intro events
  constructor
  · intro a h
    rw [Succeeds, ExceptT.run_lift, Program.yields_map_iff] at h
    obtain ⟨u, hyields, -⟩ := h
    exact completes_of_yields_showIpv4Params hyields
  · intro e h
    rw [Fails, ExceptT.run_lift, Program.yields_map_iff] at h
    obtain ⟨u, -, heq⟩ := h
    cases heq

/-! ## The next hop -/

theorem reads_nextHop (settings : Settings) :
    Step.Reads .self (.readFile (settings.param nextHopParam))
      (fun text => Mac.parse (Text.trimmed text)) (nextHop settings .self) :=
  (reads_readParam settings nextHopParam).bind Mac.parse

/-- A read of the next hop shows an address, or nothing can be read. -/
theorem nextHop_yields {result : Except RunError Mac}
    (h : (nextHop settings .self).run.Yields events result) :
    ∃ reply, (∀ hop, events = [(ConfigStep.probe hop).event settings reply]) ∧
      ((∃ hop, result = .ok hop ∧ (ConfigStep.probe hop).GoesOn reply) ∨
        ∃ e, result = .error e ∧ e.OfCommand ∧ ∀ hop, (ConfigStep.probe hop).Stops reply) := by
  obtain ⟨reply, rfl, ⟨shown, hshown, heq⟩ | ⟨hnone, e, rfl, he⟩⟩ :=
    reads_nextHop settings events result h
  · refine ⟨reply, fun _ => rfl, ?_⟩
    cases hparse : Mac.parse (Text.trimmed shown) with
    | ok hop => exact .inl ⟨hop, heq.trans hparse, shown, hshown, hparse⟩
    | error e =>
        refine .inr ⟨e, heq.trans hparse, Mac.ofCommand_of_parse_eq_error hparse,
          fun _ text htext => ?_⟩
        rw [hshown] at htext
        cases htext
        exact ⟨e, hparse⟩
  · refine ⟨reply, fun _ => rfl, .inr ⟨e, rfl, he, fun _ text htext => ?_⟩⟩
    rw [hnone] at htext
    cases htext

/-- How waiting for the next hop ends, after a number of attempts that are left. -/
inductive Awaited (settings : Settings) (attempts remaining : Nat) (events : List Event) :
    Except RunError (Polled Mac) → Prop
  | found {count : Nat} {hop : Mac} (hcount : count < remaining) (hhop : hop ≠ .zero)
    (hevents : ConfigStep.Completes settings (waiting count ++ [.probe hop])
      (Trace.selfFiles events)) :
    Awaited settings attempts remaining events (.ok (.ready hop (attempts + count + 1)))
  | exhausted (hevents : ConfigStep.Completes settings (waiting remaining)
      (Trace.selfFiles events)) :
    Awaited settings attempts remaining events (.ok (.exhausted (attempts + remaining)))
  | failed {e : RunError} (he : e.OfCommand)
    (hevents : ConfigStep.CutShort settings (waiting remaining) (Trace.selfFiles events)) :
    Awaited settings attempts remaining events (.error e)

/-- A probe that has found nothing counts as one more attempt. -/
theorem Awaited.after_waiting {attempts remaining : Nat} {reply : Execution}
    {result : Except RunError (Polled Mac)} (hzero : (ConfigStep.probe .zero).GoesOn reply)
    {length : Duration} (h : Awaited settings (attempts + 1) remaining events result) :
    Awaited settings attempts (remaining + 1)
      ((ConfigStep.probe .zero).event settings reply :: ⟨.pause length, ()⟩ :: events)
      result := by
  have hfiles : Trace.selfFiles
      ((ConfigStep.probe .zero).event settings reply :: ⟨.pause length, ()⟩ :: events) =
        (ConfigStep.probe .zero).event settings reply :: Trace.selfFiles events := rfl
  cases h with
  | @found count hop hcount hhop hevents =>
      have hattempts : attempts + 1 + count + 1 = attempts + (count + 1) + 1 := by omega
      rw [hattempts]
      refine .found (Nat.succ_lt_succ hcount) hhop ?_
      rw [hfiles]
      exact .cons hzero hevents
  | exhausted hevents =>
      have hattempts : attempts + 1 + remaining = attempts + (remaining + 1) := by omega
      rw [hattempts]
      refine .exhausted ?_
      rw [hfiles]
      exact .cons hzero hevents
  | failed he hevents =>
      refine .failed he ?_
      rw [hfiles]
      exact .later hzero hevents

/-- The probe for a next hop other than the zero address. -/
def hopProbe (settings : Settings) : Step (Option Mac) := do
  let mac ← nextHop settings .self
  return if mac.isZero then none else some mac

/-- A probe finds a next hop, shows that there is none yet, or fails. -/
theorem hopProbe_yields {result : Except RunError (Option Mac)}
    (h : (hopProbe settings).run.Yields events result) :
    ∃ reply, (∀ hop, events = [(ConfigStep.probe hop).event settings reply]) ∧
      ((∃ hop, hop ≠ .zero ∧ result = .ok (some hop) ∧ (ConfigStep.probe hop).GoesOn reply) ∨
        (result = .ok none ∧ (ConfigStep.probe .zero).GoesOn reply) ∨
        ∃ e, result = .error e ∧ e.OfCommand ∧ (ConfigStep.probe .zero).Stops reply) := by
  rcases yields_run_bind_iff.mp h with ⟨e, hfail, rfl⟩ | ⟨first, mac, _, rfl, hok, rfl, rfl⟩
  · obtain ⟨reply, hevents, ⟨_, heq, -⟩ | ⟨_, heq, he, hstops⟩⟩ := nextHop_yields hfail
    · cases heq
    · cases heq
      exact ⟨reply, hevents, .inr (.inr ⟨e, rfl, he, hstops .zero⟩)⟩
  · obtain ⟨reply, hevents, ⟨_, heq, hgoes⟩ | ⟨_, heq, -, -⟩⟩ := nextHop_yields hok
    · cases heq
      refine ⟨reply, fun hop => by rw [List.append_nil]; exact hevents hop, ?_⟩
      by_cases hzero : mac = .zero
      · subst hzero
        exact .inr (.inl ⟨rfl, hgoes⟩)
      · have hfound : mac.isZero = false := beq_eq_false_iff_ne.mpr hzero
        refine .inl ⟨mac, hzero, ?_, hgoes⟩
        rw [hfound]
        rfl
    · cases heq

/-- Polling is waiting, as often as attempts are left. -/
theorem awaited_of_yields_pollFrom {length : Duration} {remaining attempts : Nat}
    {result : Except RunError (Polled Mac)}
    (h : (RetryPolicy.pollFrom (Step.pause length) (hopProbe settings) remaining
      attempts).run.Yields events result) :
    Awaited settings attempts remaining events result := by
  induction remaining generalizing attempts events with
  | zero =>
      obtain ⟨rfl, rfl⟩ := h
      exact .exhausted .nil
  | succ remaining ih =>
      rcases yields_run_bind_iff.mp h with ⟨e, hfail, rfl⟩ | ⟨first, hop?, rest, rfl, hok, hrest⟩
      · obtain ⟨reply, hevents, ⟨_, _, heq, _⟩ | ⟨heq, _⟩ | ⟨_, heq, he, hstops⟩⟩ :=
          hopProbe_yields hfail
        · cases heq
        · cases heq
        · cases heq
          refine .failed he ?_
          rw [hevents .zero, ConfigStep.selfFiles_event]
          exact .here hstops
      obtain ⟨reply, hevents, ⟨hop, hhop, heq, hgoes⟩ | ⟨heq, hgoes⟩ | ⟨_, heq, _⟩⟩ :=
        hopProbe_yields hok
      · cases heq
        obtain ⟨rfl, rfl⟩ := hrest
        show Awaited settings attempts (remaining + 1) _ (.ok (.ready hop (attempts + 0 + 1)))
        refine .found (Nat.succ_pos remaining) hhop ?_
        rw [List.append_nil, hevents hop, ConfigStep.selfFiles_event]
        exact .cons hgoes .nil
      · cases heq
        rcases yields_run_bind_iff.mp hrest with
          ⟨_, hpause, -⟩ | ⟨second, _, third, rfl, hpause, hpoll⟩
        · obtain ⟨_, -, heq⟩ := Program.yields_map_iff.mp hpause
          cases heq
        · obtain ⟨_, hrequest, -⟩ := Program.yields_map_iff.mp hpause
          obtain rfl := Program.yields_request_iff.mp hrequest
          rw [hevents .zero]
          exact (ih hpoll).after_waiting hgoes
      · cases heq

/-- Resolving the gateway finds a next hop, or uses up its attempts, or fails at a probe. -/
theorem resolveGateway_yields {policy : RetryPolicy} {result : Except RunError Gateway}
    (h : (resolveGateway settings .self policy).run.Yields events result) :
    (∃ gateway : Gateway, result = .ok gateway ∧ gateway.FoundWithin policy.maxAttempts.toNat ∧
        Completes settings (search gateway) (Trace.selfFiles events)) ∨
      (result = .error (hopTimeout policy.maxAttempts.toNat) ∧
        Completes settings (waiting policy.maxAttempts.toNat) (Trace.selfFiles events)) ∨
      ∃ e, result = .error e ∧ e.OfCommand ∧
        CutShort settings (waiting policy.maxAttempts.toNat) (Trace.selfFiles events) := by
  rcases yields_run_bind_iff.mp h with ⟨e, hfail, rfl⟩ | ⟨first, polled, rest, rfl, hok, hrest⟩
  · cases awaited_of_yields_pollFrom hfail with
    | failed he hevents => exact .inr (.inr ⟨e, rfl, he, hevents⟩)
  · have hawaited := awaited_of_yields_pollFrom hok
    cases hawaited with
    | @found count hop hcount hhop hevents =>
        obtain ⟨rfl, rfl⟩ := hrest
        rw [List.append_nil]
        have hattempts : 0 + count + 1 ≤ policy.maxAttempts.toNat := by omega
        refine .inl ⟨⟨hop, 0 + count + 1⟩, rfl, ⟨Nat.succ_pos _, hattempts, hhop⟩, ?_⟩
        simpa [search] using hevents
    | exhausted hevents =>
        obtain ⟨rfl, rfl⟩ := hrest
        rw [List.append_nil]
        exact .inr (.inl ⟨by rw [Nat.zero_add]; rfl, hevents⟩)

/-! ## Configuring -/

section Configuring

variable {context : RunContext} {code : String} {policy : RetryPolicy}
variable {result : Except RunError (Option Gateway)}

/-- Without a gateway there is nothing to wait for. -/
theorem configured_direct (hmode : context.encapsulation = .native)
    (hgateway : context.useGateway = false)
    (h : (configureSelf settings .self context code policy).run.Yields events result) :
    Configured settings context code policy.maxAttempts.toNat (Trace.selfFiles events)
      result := by
  have hroute := follows_setTarget settings code context.channel
  have hplan : Plan context code policy.maxAttempts.toNat _ _ := .direct hmode hgateway
  simp only [configureSelf, hmode, hgateway] at h
  rcases yields_run_bind_iff.mp h with ⟨e, hfail, rfl⟩ | ⟨first, _, _, rfl, hok, rfl, rfl⟩
  · obtain ⟨hcut, he⟩ := (hroute events).2 e hfail
    exact .cutShort hplan hcut he
  · rw [List.append_nil]
    exact .completed hplan ((hroute first).1 _ hok)

/-- With a gateway, the next hop is waited for before anything is written. -/
theorem configured_gateway (hmode : context.encapsulation = .native)
    (hgateway : context.useGateway = true)
    (h : (configureSelf settings .self context code policy).run.Yields events result) :
    Configured settings context code policy.maxAttempts.toNat (Trace.selfFiles events)
      result := by
  have hroute := follows_setTarget settings code context.channel
  have hwrites := (follows_writeParam settings useGatewayParam "1").bind fun _ => hroute
  simp only [configureSelf, hmode, hgateway] at h
  rcases yields_run_bind_iff.mp h with ⟨e, hfail, rfl⟩ | ⟨first, gateway, rest, rfl, hok, hrest⟩
  · rcases resolveGateway_yields hfail with ⟨_, heq, -⟩ | ⟨heq, hwait⟩ | ⟨_, heq, he, hcut⟩
    · cases heq
    · cases heq
      exact .completed (.gatewayMissing hmode hgateway) hwait
    · cases heq
      exact .cutShort (.gatewayMissing hmode hgateway) hcut he
  obtain ⟨_, heq, hfound, hsearch⟩ | ⟨heq, -⟩ | ⟨_, heq, -⟩ := resolveGateway_yields hok
  · cases heq
    have hplan : Plan context code policy.maxAttempts.toNat _ _ := .gateway hmode hgateway hfound
    rw [← bind_assoc] at hrest
    rw [Trace.selfFiles_append]
    rcases yields_run_bind_iff.mp hrest with ⟨e, hfail, rfl⟩ | ⟨second, _, _, rfl, hdone, rfl, rfl⟩
    · obtain ⟨hcut, he⟩ := (hwrites rest).2 e hfail
      exact .cutShort hplan (hsearch.append_cutShort hcut) he
    · rw [List.append_nil]
      exact .completed hplan (hsearch.append ((hwrites second).1 _ hdone))
  · cases heq
  · cases heq

/-- With IPv4, the next hop follows from the target and is waited for at the end. -/
theorem configured_ipv4 (hmode : context.encapsulation = .ipv4)
    (h : (configureSelf settings .self context code policy).run.Yields events result) :
    Configured settings context code policy.maxAttempts.toNat (Trace.selfFiles events)
      result := by
  have hroute := follows_setTarget settings code context.channel
  have hfront := hroute.bind fun _ => follows_showIpv4Params settings
  simp only [configureSelf, hmode] at h
  rw [← bind_assoc] at h
  rcases yields_run_bind_iff.mp h with ⟨e, hfail, rfl⟩ | ⟨first, _, rest, rfl, hok, hrest⟩
  · obtain ⟨hcut, he⟩ := (hfront events).2 e hfail
    exact .cutShort (.ipv4Missing hmode) (hcut.append _) he
  have hstart := (hfront first).1 _ hok
  rw [Trace.selfFiles_append]
  rcases yields_run_bind_iff.mp hrest with
    ⟨e, hfail, rfl⟩ | ⟨second, gateway, _, rfl, hfind, rfl, rfl⟩
  · rcases resolveGateway_yields hfail with ⟨_, heq, -⟩ | ⟨heq, hwait⟩ | ⟨_, heq, he, hcut⟩
    · cases heq
    · cases heq
      exact .completed (.ipv4Missing hmode) (hstart.append hwait)
    · cases heq
      exact .cutShort (.ipv4Missing hmode) (hstart.append_cutShort hcut) he
  · rw [List.append_nil]
    obtain ⟨_, heq, hfound, hsearch⟩ | ⟨heq, -⟩ | ⟨_, heq, -⟩ := resolveGateway_yields hfind
    · cases heq
      exact .completed (.ipv4 hmode hfound) (hstart.append hsearch)
    · cases heq
    · cases heq

/-- What configuring the local module does, in the order in which it does it. -/
theorem configured_of_yields
    (h : (configureSelf settings .self context code policy).run.Yields events result) :
    Configured settings context code policy.maxAttempts.toNat (Trace.selfFiles events)
      result := by
  cases hmode : context.encapsulation with
  | ipv4 => exact configured_ipv4 hmode h
  | native =>
      cases hgateway : context.useGateway with
      | true => exact configured_gateway hmode hgateway h
      | false => exact configured_direct hmode hgateway h

end Configuring

/-! ## Looks -/

/-- A look at the routing of IPv4. -/
def IsLook (settings : Settings) (r : Request) : Prop :=
  ∃ name ∈ ipv4Params, r = .command .self (.readFile (settings.param name))

theorem not_isLook_readFile (settings : Settings) {name : String} (h : name ∉ ipv4Params) :
    ¬ IsLook settings (.command .self (.readFile (settings.param name))) := by
  rintro ⟨look, hlook, heq⟩
  have hpath : settings.param name = settings.param look := by
    injection heq with _ hcommand
    injection hcommand
  have hname : name = look := by
    have hlist := congrArg String.toList hpath
    simp only [Settings.param, String.toList_append, List.append_cancel_left_eq] at hlist
    exact String.toList_inj.mp hlist
  exact h (hname ▸ hlook)

/-- The looks are for information only: what they are answered makes no difference to
the configuration. -/
theorem ignores_showIpv4Params (S : Request → Prop) (names : List String) :
    (showIpv4Params settings .self names).Ignores S := by
  induction names with
  | nil => trivial
  | cons name names ih =>
      have hlook : (discard (readParam settings .self name).run : Program Unit).Ignores S := by
        apply Program.ignores_discard_of_single
          (r := .command .self (.readFile (settings.param name)))
        intro events result h
        obtain ⟨reply, hevents, -⟩ := reads_readParam settings name _ _ h
        exact ⟨reply, hevents⟩
      exact hlook.bind fun _ => ih

theorem ignores_configureSelf (settings : Settings) (context : RunContext) (code : String)
    (policy : RetryPolicy) :
    (configureSelf settings .self context code policy).run.Ignores (IsLook settings) := by
  have hwrite : ∀ name value,
      ¬ IsLook settings (.command .self (.writeFile (settings.param name) value)) := by
    rintro name value ⟨_, -, heq⟩
    cases heq
  have hpause : ¬ IsLook settings (.pause policy.interval) := by
    rintro ⟨_, -, heq⟩
    cases heq
  have htarget := (conforms_setTarget (E := fun _ => True) (fun _ _ => trivial) hwrite code
    context.channel).ignores
  have hswitch := (conforms_writeParam (E := fun _ => True) (fun _ _ => trivial)
    (hwrite useGatewayParam "1")).ignores
  have hgateway := (conforms_resolveGateway (E := fun _ => True) (fun _ _ => trivial)
    (not_isLook_readFile settings (by decide)) hpause fun _ => trivial).ignores
  unfold configureSelf
  split
  · refine ignores_run_bind htarget fun _ => ignores_run_bind ?_ fun _ => ?_
    · rw [ExceptT.run_lift]
      exact (ignores_showIpv4Params _ _).map
    · exact ignores_run_bind hgateway fun _ => trivial
  · refine ignores_run_bind hgateway fun _ => ignores_run_bind hswitch fun _ => ?_
    exact ignores_run_bind htarget fun _ => trivial
  · exact ignores_run_bind htarget fun _ => trivial

end Module

end TtpConformance
