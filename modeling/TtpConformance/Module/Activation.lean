import TtpConformance.Options

/-!
# Activating the kernel module

The arguments that the module is loaded with on one node. They are `key=value` words; a routing
prefix and a static next hop occur with IPv4 only.

## Main definitions

* `Activation` — what one node's module is told.
* `Activation.ofContext` — one node's part of a run.
* `Activation.arguments` — the words.
-/

namespace TtpConformance

/-- What the module is told when it is loaded on a node. -/
structure Activation where
  device : String
  verbose : UInt8
  dropPercent : UInt8
  encapsulation : Encapsulation
  network : Option Ipv4Network
  nextHop : Option Mac
  deriving DecidableEq

namespace Activation

/-- The activation of one node of a run. -/
def ofContext (c : RunContext) (node : NodeSettings) : Activation where
  device := node.device
  verbose := c.verbose
  dropPercent := c.dropPercent
  encapsulation := c.encapsulation
  network := node.network
  nextHop := node.nextHop

/-- The arguments of IPv4: the switch, the routing prefix and the static next hop. -/
def ipv4Arguments (a : Activation) : List String :=
  "ipv4=1" :: (a.network.map fun n => "prefix=" ++ n.text).toList ++
    (a.nextHop.map fun m => "nhmac=" ++ m.text).toList

/-- The arguments, in order. -/
def arguments (a : Activation) : List String :=
  ["verbose=" ++ Text.decimal a.verbose.toNat, "dev=" ++ a.device,
      "drop_pct=" ++ Text.decimal a.dropPercent.toNat] ++
    if a.encapsulation.isIpv4 then a.ipv4Arguments else []

end Activation

end TtpConformance
