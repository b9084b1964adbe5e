import TtpConformance.Address.Target
import TtpConformance.Random.Shuffle
import TtpConformance.Zone.Basic

/-!
# Pairing nodes across zones

A plan pairs every node with a partner from another zone. Two nodes may be targeted but never
start a run themselves, so they are never paired with each other and always come second.

The nodes are shuffled; then the last node is taken and paired with the first one that belongs to
another zone, until fewer than two are left. A shuffle for which this does not work out is thrown
away, and the next one is tried, up to a thousand times.

## Main definitions

* `NodePair` — who runs the harness, and against whom.
* `pairUp` — the pairs of nodes in a given order.
* `tryPairing`, `plan` — one shuffle, and shuffles until one works out.
-/

namespace TtpConformance

/-- Two nodes tested against each other. -/
structure NodePair where
  /-- The node that runs the harness. -/
  initiator : UInt8
  /-- The node that it runs against. -/
  target : UInt8
  deriving DecidableEq, Repr

namespace NodePair

/-- The host name of the node that runs the harness. -/
def initiatorHost (p : NodePair) : String := nodeName p.initiator

/-- Both host names. -/
def text (p : NodePair) : String := nodeName p.initiator ++ " <-> " ++ nodeName p.target

end NodePair

/-- The nodes that never start a run. -/
def nonInitiators : List UInt8 := [0x10, 0x11]

/-- Shuffles tried before a plan is given up. -/
def maxPlanAttempts : Nat := 1000

/-- A node and the position of its zone. -/
structure ZonedNode where
  node : UInt8
  zone : Nat
  deriving DecidableEq, Repr

/-- The nodes of all zones, in zone order. -/
def Zones.zonedNodes (z : Zones) : List ZonedNode :=
  z.zones.zipIdx.flatMap fun (zone, index) => zone.map fun node => ⟨node, index⟩

/-- The first element of class `p` and the other elements, if there is one. -/
def takeFirst {α : Type} (p : α → Bool) : List α → Option (α × List α)
  | [] => none
  | a :: as => if p a then some (a, as) else (takeFirst p as).map fun (b, bs) => (b, a :: bs)

theorem length_of_takeFirst {α : Type} {p : α → Bool} {as bs : List α} {b : α}
    (h : takeFirst p as = some (b, bs)) : as.length = bs.length + 1 := by
  induction as generalizing bs with
  | nil => simp [takeFirst] at h
  | cons a as ih =>
    unfold takeFirst at h
    split at h
    · simp only [Option.some.injEq, Prod.mk.injEq] at h
      simp [h.2]
    · obtain ⟨⟨c, cs⟩, hc, heq⟩ := Option.map_eq_some_iff.1 h
      simp only [Prod.mk.injEq] at heq
      obtain ⟨rfl, rfl⟩ := heq
      simp [ih hc]

/-- Two partners with their roles: the first one starts the run if it may. -/
def NodePair.ofPartners? (first second : UInt8) : Option NodePair :=
  if nonInitiators.contains first then
    if nonInitiators.contains second then none else some ⟨second, first⟩
  else some ⟨first, second⟩

/-- Pairs nodes in the given order: the last with the first one of another zone, and so on. -/
def pairUp (nodes : List ZonedNode) : Option (List NodePair) :=
  match nodes.getLast? with
  | none => some []
  | some first =>
    if nodes.dropLast.isEmpty then some []
    else
      match h : takeFirst (fun n => n.zone != first.zone) nodes.dropLast with
      | none => none
      | some (second, rest) =>
        have := length_of_takeFirst h
        match NodePair.ofPartners? first.node second.node with
        | none => none
        | some pair => (pairUp rest).map (pair :: ·)
termination_by nodes.length
decreasing_by
  simp only [List.length_dropLast] at this
  omega

variable {ρ : Type}

/-- Pairs the nodes after one shuffle. The outer option is for a source without usable words, the
inner one for a shuffle that does not work out. -/
def tryPairing (source : WordSource ρ) (z : Zones) (state : ρ) :
    Option (Option (List NodePair) × ρ) :=
  (shuffle source z.zonedNodes state).map fun (nodes, state) => (pairUp nodes, state)

/-- The cause given when no shuffle works out. -/
def noPairing (z : Zones) : RunError :=
  .configuration ("no cross-zone pairing of " ++ Text.decimal z.nodeCount ++
    " nodes found after " ++ Text.decimal maxPlanAttempts ++ " shuffles")

/-- The pairs of the first of at most `attempts` shuffles that works out. -/
def planWithin (source : WordSource ρ) (z : Zones) :
    Nat → ρ → Option (Except RunError (List NodePair) × ρ)
  | 0, state => some (.error (noPairing z), state)
  | attempts + 1, state =>
    match tryPairing source z state with
    | none => none
    | some (some pairs, state) => some (.ok pairs, state)
    | some (none, state) => planWithin source z attempts state

/-- A plan for all nodes. -/
def plan (source : WordSource ρ) (z : Zones) (state : ρ) :
    Option (Except RunError (List NodePair) × ρ) :=
  planWithin source z maxPlanAttempts state

end TtpConformance
