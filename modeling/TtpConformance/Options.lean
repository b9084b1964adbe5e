import TtpConformance.Address.Ipv4
import TtpConformance.Address.Target
import TtpConformance.Duration
import TtpConformance.Double.Shortest

/-!
# Run options

What a run is asked to do, and the checks that turn it into a description that every later part
can rely on. All checks come before any effect, and the first one that fails is reported.

## Main definitions

* `RunOptions` — options as they are given.
* `RunContext` — the validated description of a run.
* `RunOptions.validate` — from one to the other.
-/

namespace TtpConformance

/-- How the protocol is carried. -/
inductive Encapsulation where
  /-- Raw Ethernet frames. -/
  | native
  /-- IPv4 packets. -/
  | ipv4
  deriving DecidableEq, Repr

namespace Encapsulation

/-- Whether the protocol is carried in IPv4. -/
def isIpv4 : Encapsulation → Bool
  | .native => false
  | .ipv4 => true

/-- The encapsulation with its Ethernet type. -/
def text : Encapsulation → String
  | .native => "ttpoe (etype: 0x9ac6)"
  | .ipv4 => "ipv4 (etype: 0x0800)"

/-- The device of a node for which none is given. -/
def defaultDevice : Encapsulation → String
  | .native => "vleth"
  | .ipv4 => "vlip4"

end Encapsulation

/-- A virtual channel: 0, 1 or 2. -/
structure Channel where
  value : UInt8
  le_two : value ≤ 2
  deriving DecidableEq

namespace Channel

/-- The channel that the module uses when none is set. -/
def default : Channel := ⟨0, by decide⟩

/-- The channel of a number. -/
def ofUInt8 (v : UInt8) : Except RunError Channel :=
  if h : v ≤ 2 then .ok ⟨v, h⟩
  else .error (.configuration ("invalid vci " ++ Text.decimal v.toNat))

/-- Whether this is the channel that the module uses when none is set. -/
def isDefault (c : Channel) : Bool := c.value == 0

/-- The channel's number. -/
def text (c : Channel) : String := Text.decimal c.value.toNat

end Channel

/-- Options as they are given. -/
structure RunOptions where
  /-- The device of the local node. -/
  selfDevice : Option String := none
  /-- The device of the peer. -/
  peerDevice : Option String := none
  /-- The virtual channel. -/
  channel : Option UInt8 := none
  /-- Whether frames go through the zone's gateway. -/
  useGateway : Bool := false
  /-- Whether the protocol is carried in IPv4. -/
  ipv4 : Bool := false
  /-- The routing prefix of both nodes. -/
  network : Option Ipv4Network := none
  /-- The routing prefix of the local node. -/
  selfNetwork : Option Ipv4Network := none
  /-- The routing prefix of the peer. -/
  peerNetwork : Option Ipv4Network := none
  /-- The static next hop of the local node. -/
  selfNextHop : Option Mac := none
  /-- The static next hop of the peer. -/
  peerNextHop : Option Mac := none
  /-- The peer. -/
  target : Option String := none
  /-- The percentage of frames that the module drops on purpose. -/
  dropPercent : Option UInt8 := none
  /-- Seconds to wait in addition after steps that cross nodes. -/
  sleep : Option Double := none
  /-- Whether the modules stay loaded after the run. -/
  keepLoaded : Bool := false
  /-- Whether the modules that are already loaded are used. -/
  noLoad : Bool := false
  /-- Whether traffic scenarios are left out. -/
  noTraffic : Bool := false
  /-- Repetitions of the medium traffic scenario. -/
  traffic : Option Int := none
  /-- Whether frame generator scenarios are left out. -/
  noPacket : Bool := false
  /-- Whether there is no peer node. -/
  noRemote : Bool := false
  /-- How much the module logs. -/
  verbose : UInt8 := 0

/-- What one node of a run uses. -/
structure NodeSettings where
  device : String
  /-- The routing prefix, with IPv4 only. -/
  network : Option Ipv4Network
  /-- The static next hop, with IPv4 only. -/
  nextHop : Option Mac
  deriving DecidableEq

/-- The parts of a run that are left out. -/
structure SkipFlags where
  /-- Modules are not loaded. -/
  load : Bool
  /-- Modules are not unloaded at the end. -/
  unload : Bool
  /-- No frame generator scenarios. -/
  packet : Bool
  /-- No traffic scenarios. -/
  traffic : Bool
  /-- No peer node. -/
  remote : Bool
  deriving DecidableEq, Repr

/-- The validated description of a run. -/
structure RunContext where
  target : Target
  encapsulation : Encapsulation
  useGateway : Bool
  channel : Channel
  dropPercent : UInt8
  /-- The wait in addition after steps that cross nodes. -/
  settle : Duration
  verbose : UInt8
  self : NodeSettings
  peer : NodeSettings
  skip : SkipFlags
  /-- Repetitions of the medium traffic scenario; when given, there are no bulk scenarios. -/
  trafficRepeats : Option Nat
  deriving DecidableEq

namespace RunContext

/-- Whether the next hop has to be found out after the module is loaded. -/
def resolvesNextHop (c : RunContext) : Bool :=
  c.useGateway || c.encapsulation.isIpv4

end RunContext

/-- The routing prefix of both nodes when none is given. -/
def defaultNetwork : Ipv4Network := ⟨⟨10, 0, 0, 0⟩, 8, by decide⟩

/-- The wait in addition when frames are dropped on purpose and none is given. -/
def dropSettle : Duration := .ofSeconds 2

/-- Repetitions of the medium traffic scenario when none are given, and the most there may be. -/
def defaultTrafficRepeats : Nat := 10

namespace RunOptions

/-- Fails with a configuration error if a condition holds. -/
def refuseIf (condition : Bool) (reason : String) : Except RunError Unit :=
  if condition then .error (.configuration reason) else .ok ()

/-- The wait in addition: given seconds, or a fixed one when frames are dropped. -/
def settle (sleep : Option Double) (dropPercent : UInt8) : Except RunError Duration :=
  match sleep with
  | some seconds =>
    match Duration.ofDouble? seconds with
    | some d => .ok d
    | none => .error (.configuration ("invalid --sleep=" ++ seconds.text))
  | none => .ok (if 0 < dropPercent then dropSettle else .zero)

/-- The routing prefixes of the local node and of the peer. -/
def networks (o : RunOptions) : Option Ipv4Network × Option Ipv4Network :=
  if o.ipv4 then
    match o.network, o.selfNetwork, o.peerNetwork with
    | some both, _, _ => (some both, some both)
    | none, some self, some peer => (some self, some peer)
    | _, _, _ => (some defaultNetwork, some defaultNetwork)
  else (none, none)

/-- Repetitions as they are run: numbers out of range count as the default. -/
def trafficRepeats (n : Int) : Nat :=
  if 0 ≤ n ∧ n ≤ (defaultTrafficRepeats : Int) then n.toNat else defaultTrafficRepeats

/-- The options that contradict each other or need one another. -/
def checkCombinations (o : RunOptions) : Except RunError Unit := do
  let ownNetwork := o.selfNetwork.isSome || o.peerNetwork.isSome
  refuseIf (o.ipv4 && o.useGateway) "cannot combine option '--use-gw' with '--ipv4'"
  refuseIf (!o.ipv4 && (o.network.isSome || ownNetwork)) "option '--prefix' requires '--ipv4'"
  refuseIf (o.network.isSome && ownNetwork) "cannot specify '--self/peer-prefix' with '--prefix'"
  refuseIf (!o.ipv4 && (o.selfNextHop.isSome || o.peerNextHop.isSome))
    "option '--nhmac' requires '--ipv4'"
  refuseIf (o.selfNetwork.isSome != o.peerNetwork.isSome)
    "require both '--self-prefix' and '--peer-prefix'"
  refuseIf (o.selfNextHop.isSome != o.peerNextHop.isSome)
    "require both '--self-nhmac' and '--peer-nhmac'"

/-- The description of the run that these options ask for, or the first thing wrong with them. -/
def validate (o : RunOptions) : Except RunError RunContext := do
  let target ← match o.target with
    | some spec => Target.parse spec
    | none => .error (.configuration "missing --target")
  o.checkCombinations
  let channel ← Channel.ofUInt8 (o.channel.getD 0)
  let dropPercent := o.dropPercent.getD 0
  refuseIf (100 < dropPercent) ("invalid drop percentage " ++ Text.decimal dropPercent.toNat)
  let settle ← settle o.sleep dropPercent
  let encapsulation := if o.ipv4 then Encapsulation.ipv4 else .native
  let (selfNetwork, peerNetwork) := o.networks
  return {
    target, encapsulation, channel, dropPercent, settle
    useGateway := o.useGateway
    verbose := o.verbose
    self := ⟨o.selfDevice.getD encapsulation.defaultDevice, selfNetwork, o.selfNextHop⟩
    peer := ⟨o.peerDevice.getD encapsulation.defaultDevice, peerNetwork, o.peerNextHop⟩
    skip := ⟨o.noLoad, o.keepLoaded, o.noPacket, o.noTraffic, o.noRemote⟩
    trafficRepeats := o.traffic.map trafficRepeats }

end RunOptions

end TtpConformance
