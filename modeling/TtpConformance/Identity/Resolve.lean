import TtpConformance.Identity.Query
import TtpConformance.Options
import TtpConformance.Run.Step
import TtpConformance.Zone.Basic

/-!
# Who takes part in a run

The local node is identified by asking it for its host name and the addresses of its TTP device;
the peer follows from the target alone. A run with a gateway is refused between nodes of one zone,
and no run may name the local node as its peer.

## Main definitions

* `NodeIdentity`, `Identities` — the nodes of a run.
* `checkGatewayZones` — the refusal of gateway runs inside a zone.
* `NodeIdentity.resolveSelf`, `Identities.resolve` — finding out who takes part.
-/

namespace TtpConformance

/-- The identity of a node. -/
structure NodeIdentity where
  /-- The host name, which names the node's lock and reaches it. -/
  hostname : String
  /-- The hardware address of the TTP device. -/
  mac : Mac
  /-- The IPv4 address, known for the local node with IPv4 only. -/
  ipv4 : Option Ipv4
  /-- The code under which other nodes address this one. -/
  targetCode : String
  deriving DecidableEq, Repr

/-- The low octets of the address, as tag tables show them. -/
def NodeIdentity.fragment (n : NodeIdentity) : String := n.mac.low.fragment

/-- The nodes of a run. -/
structure Identities where
  self : NodeIdentity
  /-- The peer, unless the run has none. -/
  peer : Option NodeIdentity
  /-- How the peer was named, known without a peer too. -/
  target : Target
  deriving DecidableEq, Repr

/-- The peer as a host for commands. -/
def Identities.peerHost (i : Identities) : Option Host := i.peer.map fun p => .remote p.hostname

/-- The text behind the last `-`, or all of it. -/
def afterLastDash (cs : List Char) : List Char :=
  (cs.reverse.takeWhile (· != '-')).reverse

/-- The node number that a host name ends with, in hexadecimal. -/
def hostNumber? (hostname : String) : Option UInt8 :=
  match Text.readNat .hex 255 (afterLastDash hostname.toList) with
  | .ok n => some (UInt8.ofNat n)
  | .error _ => none

/-- Refuses a gateway run between two nodes of the same zone of the whole lab. A host name
without a number is in no zone. -/
def checkGatewayZones (hostname : String) (target : Target) : Except RunError Unit :=
  match hostNumber? hostname with
  | none => .ok ()
  | some self =>
    let peer := target.octets.third
    let zones := Zones.build true true
    match zones.zoneOf? self, zones.zoneOf? peer with
    | some a, some b =>
      if a = b then
        .error (.configuration ("unsupported with --use-gw: target " ++ Text.hexByte peer ++
          " and local node " ++ Text.hexByte self ++ " share zone " ++ Text.decimal (a + 1)))
      else .ok ()
    | _, _ => .ok ()

/-- The name of the local node. -/
def selfHostname : Step String := do
  return Text.trimmed (← Step.checked .self .hostname)

/-- The output of a query of the local node. That it fails shows a bad configuration. -/
def querySelf (command : Command) : Step String :=
  Step.mapError (fun e => .configuration (command.script ++ " failed: " ++ e.message))
    (Step.checked .self command)

/-- The identity of the local node, from the addresses of its TTP device. -/
def NodeIdentity.resolveSelf (hostname device : String) (encapsulation : Encapsulation) :
    Step NodeIdentity := do
  let mac ← Step.ofExcept (linkAddress (← querySelf (.linkInfo device)))
  match encapsulation with
  | .ipv4 =>
    let ip ← Step.ofExcept (ipv4Address (← querySelf (.addressInfo device)))
    return { hostname, mac, ipv4 := some ip, targetCode := (⟨0, 0, ip.d⟩ : LowOctets).code }
  | .native =>
    if mac.hasTtpVendor then
      return { hostname, mac, ipv4 := none, targetCode := mac.low.code }
    else throw (.configuration ("'" ++ device ++ "' is not a TTP device: " ++ mac.text))

/-- The identity of the peer, which follows from the target. -/
def NodeIdentity.ofTarget (target : Target) : Except RunError NodeIdentity :=
  target.hostname.map fun hostname =>
    { hostname, mac := target.mac, ipv4 := none, targetCode := target.code }

/-- Whether a peer is the local node, by host name or by hardware address. -/
def NodeIdentity.isSameNode (peer self : NodeIdentity) : Bool :=
  peer.hostname == self.hostname || peer.mac == self.mac

/-- Finds out who takes part in a run. -/
def Identities.resolve (context : RunContext) : Step Identities := do
  let hostname ← selfHostname
  if context.useGateway then
    Step.ofExcept (checkGatewayZones hostname context.target)
  let self ← NodeIdentity.resolveSelf hostname context.self.device context.encapsulation
  if context.skip.remote then
    return { self, peer := none, target := context.target }
  else
    let peer ← Step.ofExcept (NodeIdentity.ofTarget context.target)
    if peer.isSameNode self then
      throw (.configuration ("--target='" ++ context.target.fragment ++ "' names the local node"))
    else return { self, peer := some peer, target := context.target }

end TtpConformance
