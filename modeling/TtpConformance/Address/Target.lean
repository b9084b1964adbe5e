import TtpConformance.Address.Mac

/-!
# Peer targets

The peer of a run is named by the low octets of its address, written as one to three groups.
Missing groups are zero and stand on the left, so `a` and `00:00:0a` name the same node.

## Main definitions

* `Target` — a named peer.
* `Target.parse` — reading a specifier.
* `Target.fragment`, `Target.code`, `Target.mac`, `Target.hostname` — the forms in which a node
  is addressed.
-/

namespace TtpConformance

/-- The peer of a run, by the low octets of its address. -/
structure Target where
  octets : LowOctets
  deriving DecidableEq, Repr

/-- The host name of a node, by the naming convention of the lab. -/
def nodeName (node : UInt8) : String := "node-" ++ Text.hexByte node

namespace Target

/-- One to three octets, zeros put on the left. -/
def ofList? : List UInt8 → Option Target
  | [c] => some ⟨⟨0, 0, c⟩⟩
  | [b, c] => some ⟨⟨0, b, c⟩⟩
  | [a, b, c] => some ⟨⟨a, b, c⟩⟩
  | _ => none

/-- Reads a specifier, surrounding white space dropped. -/
def parse (spec : String) : Except RunError Target :=
  match (Address.hexGroups? (Text.trim spec.toList)).bind ofList? with
  | some t => .ok t
  | none => .error (.configuration ("bad --target='" ++ spec ++ "'"))

/-- Three groups with colons between them, as tag tables show the peer. -/
def fragment (t : Target) : String := t.octets.fragment

/-- Six digits, as the module takes a target. -/
def code (t : Target) : String := t.octets.code

/-- The peer's address under the vendor octets. -/
def mac (t : Target) : Mac := .ofLow t.octets

/-- The peer's host name. The naming convention covers nodes whose upper octets are zero. -/
def hostname (t : Target) : Except RunError String :=
  if t.octets.first = 0 ∧ t.octets.second = 0 then .ok (nodeName t.octets.third)
  else .error (.unresolvedPeer ("no hostname for target " ++ t.fragment))

end Target

end TtpConformance
