/-!
# Zones

The nodes of the lab are numbered by one octet and grouped in zones, each behind its own gateway.
Four zones are always there; the `uba` nodes join them one each, and the `utm` nodes are a zone of
their own.

## Main definitions

* `Zones` — a list of zones.
* `Zones.build` — the lab with or without its optional nodes.
* `Zones.zoneOf?` — the zone of a node, counted from zero.
-/

namespace TtpConformance

/-- Groups of nodes; partners of a cross-zone pair come from different groups. -/
structure Zones where
  zones : List (List UInt8)
  deriving DecidableEq, Repr

namespace Zones

/-- The zones that are always there. -/
def base : List (List UInt8) :=
  [[0x01, 0x02, 0x03], [0x04, 0x05, 0x06], [0x07, 0x08, 0x09], [0x0a, 0x0b, 0x0c]]

/-- The `uba` nodes, one for each zone of `base`. -/
def ubaNodes : List UInt8 := [0x10, 0x11, 0x71, 0x72]

/-- The `utm` nodes. -/
def utmZone : List UInt8 := [0x21, 0x22, 0x23, 0x24]

/-- The zones of the lab. -/
def build (uba utm : Bool) : Zones :=
  let zones := if uba then base.zipWith (fun zone node => zone ++ [node]) ubaNodes else base
  ⟨if utm then zones ++ [utmZone] else zones⟩

/-- How many zones there are. -/
def size (z : Zones) : Nat := z.zones.length

/-- Whether there are no zones. -/
def isEmpty (z : Zones) : Bool := z.zones.isEmpty

/-- How many nodes there are in all zones. -/
def nodeCount (z : Zones) : Nat := z.zones.flatten.length

/-- The first zone that holds a node. -/
def zoneOf? (z : Zones) (node : UInt8) : Option Nat :=
  z.zones.findIdx? (·.contains node)

end Zones

end TtpConformance
