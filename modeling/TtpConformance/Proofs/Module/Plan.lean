import TtpConformance.Proofs.Module.Control

/-!
# The order of configuring the module

The module derives its routes whenever its target is written, so what counts is the
order in which its parameters are read and written.  A plan lists these commands, and
what each of them has to be answered for the next one to follow: a write has to work, a
look at a parameter may be answered in any way, and a probe of the next hop has to show
a certain address.

There is a plan for every mode and every number of probes.  Each run of the
configuration either carries such a plan out to its end, and then has the result that
goes with the plan, or it is cut short at a command that fails.

## Main definitions

* `ConfigStep` — a command of a plan; `ConfigStep.GoesOn`, `ConfigStep.Stops` say what
  it comes to.
* `ConfigStep.Completes`, `ConfigStep.CutShort` — plans carried out, or not to the end.
* `Module.Plan` — the plans of a run, with their results.
* `Module.Configured` — a run of the configuration.

## Main statements

* `ConfigStep.Completes.append`, `ConfigStep.Completes.append_cutShort` — plans in sequence.
* `Module.Configured.gateway` — the next hop of a configuration that comes through.
-/

namespace TtpConformance

/-! ## Plans -/

/-- A command that reads or writes a parameter of the local module. -/
inductive ConfigStep where
  /-- A write. -/
  | write (name value : String)
  /-- A read that is for information only. -/
  | look (name : String)
  /-- A read of the next hop that shows an address. -/
  | probe (hop : Mac)
  deriving DecidableEq

namespace ConfigStep

variable (settings : Settings)

/-- The command of a step. -/
def command : ConfigStep → Command
  | write name value => .writeFile (settings.param name) value
  | look name => .readFile (settings.param name)
  | probe _ => .readFile (settings.param Module.nextHopParam)

/-- A step with its reply. -/
def event (step : ConfigStep) (reply : Execution) : Event :=
  ⟨.command .self (step.command settings), reply⟩

/-- The replies after which the next step follows. -/
def GoesOn : ConfigStep → Execution → Prop
  | write .., reply => ∃ text, Execution.text? reply = some text
  | look _, _ => True
  | probe hop, reply =>
    ∃ text, Execution.text? reply = some text ∧ Mac.parse (Text.trimmed text) = .ok hop

/-- The replies that are a failure. -/
def Stops : ConfigStep → Execution → Prop
  | write .., reply => Execution.text? reply = none
  | look _, _ => False
  | probe _, reply => ∀ text, Execution.text? reply = some text →
    ∃ e, Mac.parse (Text.trimmed text) = .error e

/-- Steps that are carried out one after the other, each of them going on. -/
inductive Completes : List ConfigStep → List Event → Prop
  | nil : Completes [] []
  | cons {step : ConfigStep} {steps : List ConfigStep} {reply : Execution} {events : List Event}
    (goes_on : step.GoesOn reply) (rest : Completes steps events) :
    Completes (step :: steps) (step.event settings reply :: events)

/-- Steps of which some are carried out and the next one fails. -/
inductive CutShort : List ConfigStep → List Event → Prop
  | here {step : ConfigStep} {steps : List ConfigStep} {reply : Execution}
    (stops : step.Stops reply) :
    CutShort (step :: steps) [step.event settings reply]
  | later {step : ConfigStep} {steps : List ConfigStep} {reply : Execution} {events : List Event}
    (goes_on : step.GoesOn reply) (rest : CutShort steps events) :
    CutShort (step :: steps) (step.event settings reply :: events)

theorem selfFiles_event (step : ConfigStep) (reply : Execution) :
    Trace.selfFiles [step.event settings reply] = [step.event settings reply] := by
  cases step <;> rfl

variable {settings : Settings} {steps steps' : List ConfigStep} {events events' : List Event}

theorem Completes.append (h : Completes settings steps events)
    (h' : Completes settings steps' events') :
    Completes settings (steps ++ steps') (events ++ events') := by
  induction h with
  | nil => exact h'
  | cons goes_on _ ih => exact .cons goes_on ih

theorem CutShort.append (h : CutShort settings steps events) (steps' : List ConfigStep) :
    CutShort settings (steps ++ steps') events := by
  induction h with
  | here stops => exact .here stops
  | later goes_on _ ih => exact .later goes_on ih

/-- The first steps are carried out, and one of the others fails. -/
theorem Completes.append_cutShort (h : Completes settings steps events)
    (h' : CutShort settings steps' events') :
    CutShort settings (steps ++ steps') (events ++ events') := by
  induction h with
  | nil => exact h'
  | cons goes_on _ ih => exact .later goes_on ih

end ConfigStep

/-- A next hop that was found within a number of attempts. -/
structure Gateway.FoundWithin (gateway : Gateway) (budget : Nat) : Prop where
  attempts_pos : 0 < gateway.attempts
  attempts_le : gateway.attempts ≤ budget
  nextHop_ne_zero : gateway.nextHop ≠ .zero

namespace Module

open ConfigStep

/-- Pointing the module at a peer: the channel if it is not the module's own, and the
target. -/
def route (code : String) (channel : Channel) : List ConfigStep :=
  (if channel.isDefault then [] else [.write channelParam channel.text]) ++
    [.write targetParam code]

/-- The looks at the routing of IPv4. -/
def looks : List ConfigStep := ipv4Params.map .look

/-- Probes that show no next hop. -/
def waiting (count : Nat) : List ConfigStep := List.replicate count (.probe .zero)

/-- Probes of which the last one shows the next hop. -/
def search (gateway : Gateway) : List ConfigStep :=
  waiting (gateway.attempts - 1) ++ [.probe gateway.nextHop]

/-- The error of a next hop that was not found. -/
def hopTimeout (budget : Nat) : RunError :=
  .timeout ("next-hop MAC on " ++ Host.self.text ++ " not resolved after " ++
    Text.decimal budget ++ " attempts")

/-- The plans of configuring the local module, by mode, with the result of carrying
them out.  In gateway mode the next hop comes first, and without it nothing is written;
with IPv4 it comes last. -/
inductive Plan (context : RunContext) (code : String) (budget : Nat) :
    List ConfigStep → Except RunError (Option Gateway) → Prop
  | direct (native : context.encapsulation = .native) (no_gateway : context.useGateway = false) :
    Plan context code budget (route code context.channel) (.ok none)
  | gateway (native : context.encapsulation = .native) (use_gateway : context.useGateway = true)
    {gateway : Gateway} (found : gateway.FoundWithin budget) :
    Plan context code budget
      (search gateway ++ .write useGatewayParam "1" :: route code context.channel)
      (.ok (some gateway))
  | gatewayMissing (native : context.encapsulation = .native)
    (use_gateway : context.useGateway = true) :
    Plan context code budget (waiting budget) (.error (hopTimeout budget))
  | ipv4 (ipv4 : context.encapsulation = .ipv4) {gateway : Gateway}
    (found : gateway.FoundWithin budget) :
    Plan context code budget (route code context.channel ++ looks ++ search gateway)
      (.ok (some gateway))
  | ipv4Missing (ipv4 : context.encapsulation = .ipv4) :
    Plan context code budget (route code context.channel ++ looks ++ waiting budget)
      (.error (hopTimeout budget))

/-- A run of the configuration: a plan that is carried out, or one that is cut short at
a command that fails. -/
inductive Configured (settings : Settings) (context : RunContext) (code : String) (budget : Nat)
    (events : List Event) : Except RunError (Option Gateway) → Prop
  | completed {steps : List ConfigStep} {result : Except RunError (Option Gateway)}
    (plan : Plan context code budget steps result) (completes : Completes settings steps events) :
    Configured settings context code budget events result
  | cutShort {steps : List ConfigStep} {planned : Except RunError (Option Gateway)} {e : RunError}
    (plan : Plan context code budget steps planned) (cut : CutShort settings steps events)
    (error : e.OfCommand) :
    Configured settings context code budget events (.error e)

/-- A configuration that comes through has a next hop exactly if the run has to find one,
and has found it within its attempts. -/
theorem Configured.gateway {settings : Settings} {context : RunContext} {code : String}
    {budget : Nat} {events : List Event} {gateway : Option Gateway}
    (h : Configured settings context code budget events (.ok gateway)) :
    (gateway.isSome = true ↔ context.resolvesNextHop = true) ∧
      ∀ found, gateway = some found → found.FoundWithin budget := by
  cases h with
  | completed plan =>
      cases plan with
      | direct native no_gateway =>
          simp [RunContext.resolvesNextHop, native, no_gateway, Encapsulation.isIpv4]
      | gateway native use_gateway found =>
          simpa [RunContext.resolvesNextHop, use_gateway] using found
      | ipv4 ipv4 found =>
          simpa [RunContext.resolvesNextHop, ipv4, Encapsulation.isIpv4] using found

end Module

end TtpConformance
