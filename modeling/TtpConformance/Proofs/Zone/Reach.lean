import Mathlib.Data.List.Nodup
import Mathlib.Data.List.Perm.Subperm
import TtpConformance.Proofs.Random.Reach
import TtpConformance.Proofs.Zone.Pairing

/-!
# Every plan can be drawn

The partner of a node is the first one that fits, so it is not plain that every plan can
come out.  But the nodes can be laid out for a plan: the target of the first pair in
front and its initiator at the end, and between them the nodes of the other pairs in the
same way, with a node that is left out in the middle.  Then the node at the end finds
its own target at once, and what is left between them is laid out for the other pairs.

Every order of the nodes comes out of some shuffle, hence this one too.

## Main definitions

* `Zones.IsPlan` — pairs that a plan may consist of.
* `NodePair.layout` — the nodes in the order in which a plan is found.

## Main statements

* `pairUp_layout` — pairing finds the plan.
* `IsPlan.append_unpaired_perm` — with who is left out, the layout has all nodes.
* `tryPairing_complete` — words for which a plan is drawn.
-/

namespace TtpConformance

open List (Perm)
open scoped List

/-- Pairs that a plan may consist of: the nodes of a pair are from different zones, no
node is used twice and at most one is left out, and who starts a run is one that may. -/
structure Zones.IsPlan (z : Zones) (pairs : List NodePair) : Prop where
  apart : ∀ p ∈ pairs, ∃ i j, i ≠ j ∧ z.zoneOf? p.initiator = some i ∧
    z.zoneOf? p.target = some j
  nodup : (pairs.flatMap NodePair.nodes).Nodup
  spare : ∀ a ∈ z.zones.flatten, ∀ b ∈ z.zones.flatten,
    a ∉ pairs.flatMap NodePair.nodes → b ∉ pairs.flatMap NodePair.nodes → a = b
  initiators : ∀ p ∈ pairs, p.initiator ≠ 0x10 ∧ p.initiator ≠ 0x11

/-! ## Nodes laid out for a plan -/

/-- The nodes of pairs around those that are left out. -/
def NodePair.layout (left : List UInt8) : List NodePair → List UInt8
  | [] => left
  | p :: pairs => p.target :: (layout left pairs ++ [p.initiator])

theorem NodePair.layout_perm (left : List UInt8) (pairs : List NodePair) :
    layout left pairs ~ pairs.flatMap nodes ++ left := by
  induction pairs with
  | nil => exact Perm.refl left
  | cons p pairs ih =>
      calc p.target :: (layout left pairs ++ [p.initiator])
          ~ p.target :: p.initiator :: layout left pairs :=
            (List.perm_append_singleton p.initiator _).cons p.target
        _ ~ p.initiator :: p.target :: layout left pairs := Perm.swap _ _ _
        _ ~ p.initiator :: p.target :: (pairs.flatMap nodes ++ left) := (ih.cons _).cons _
        _ = (p :: pairs).flatMap nodes ++ left := by simp [nodes]

theorem pairUp_singleton (n : ZonedNode) : pairUp [n] = some [] := by
  rw [pairUp]
  rfl

/-- Pairing takes the node at the end, its partner, and then the other nodes. -/
theorem pairUp_concat {front : List ZonedNode} (hne : front ≠ []) (first : ZonedNode) :
    pairUp (front ++ [first]) =
      (takeFirst (fun n => n.zone != first.zone) front).bind fun taken =>
        (NodePair.ofPartners? first.node taken.1.node).bind fun pair =>
          (pairUp taken.2).map (pair :: ·) := by
  rw [pairUp]
  split
  · rename_i hnone
    simp at hnone
  · rename_i node hnode
    obtain rfl : first = node := by simpa using hnode
    simp only [List.dropLast_concat, List.isEmpty_iff, hne, if_false]
    split
    · rename_i htake
      rw [List.dropLast_concat] at htake
      rw [htake]
      rfl
    · rename_i second rest htake
      rw [List.dropLast_concat] at htake
      rw [htake, Option.bind_some]
      cases NodePair.ofPartners? first.node second.node <;> rfl

/-- A node at the end whose partner is in front is paired with it, and the nodes between
them are paired as they would be alone. -/
theorem pairUp_cons_concat {first second : ZonedNode} (hzone : second.zone ≠ first.zone)
    {pair : NodePair} (hpair : NodePair.ofPartners? first.node second.node = some pair)
    (rest : List ZonedNode) :
    pairUp (second :: (rest ++ [first])) = (pairUp rest).map (pair :: ·) := by
  have htake : takeFirst (fun n : ZonedNode => n.zone != first.zone) (second :: rest) =
      some (second, rest) := if_pos (by simpa using hzone)
  rw [← List.cons_append, pairUp_concat (List.cons_ne_nil second rest), htake, Option.bind_some,
    hpair, Option.bind_some]

namespace Zones

variable {z : Zones} {pairs : List NodePair} {left : List UInt8}

/-- A node with the zone that it is found in. -/
def locate (z : Zones) (node : UInt8) : ZonedNode := ⟨node, (z.zoneOf? node).getD 0⟩

theorem map_locate_flatten (hz : z.zones.flatten.Nodup) :
    z.zones.flatten.map z.locate = z.zonedNodes := by
  have hlocate : ∀ n ∈ z.zonedNodes, z.locate n.node = n := by
    intro n hn
    simp [locate, zoneOf?_of_mem_zonedNodes hz hn]
  calc z.zones.flatten.map z.locate
      = z.zonedNodes.map fun n => z.locate n.node := by
        rw [← map_node_zonedNodes, List.map_map]
        rfl
    _ = z.zonedNodes.map id := List.map_congr_left hlocate
    _ = z.zonedNodes := List.map_id _

theorem mem_flatten_of_zoneOf? {node : UInt8} {i : Nat} (h : z.zoneOf? node = some i) :
    node ∈ z.zones.flatten := by
  obtain ⟨hlt, hnode, -⟩ := List.findIdx?_eq_some_iff_getElem.mp h
  exact List.mem_flatten.mpr ⟨z.zones[i], List.getElem_mem hlt, by simpa using hnode⟩

/-- The nodes that pairs leave out. -/
def unpaired (z : Zones) (pairs : List NodePair) : List UInt8 :=
  z.zones.flatten.filter fun node => node ∉ pairs.flatMap NodePair.nodes

theorem mem_unpaired_iff {node : UInt8} :
    node ∈ z.unpaired pairs ↔
      node ∈ z.zones.flatten ∧ node ∉ pairs.flatMap NodePair.nodes := by
  rw [unpaired, List.mem_filter, decide_eq_true_eq]

namespace IsPlan

theorem mem_flatten (h : z.IsPlan pairs) {node : UInt8}
    (hnode : node ∈ pairs.flatMap NodePair.nodes) : node ∈ z.zones.flatten := by
  obtain ⟨p, hp, hnode⟩ := List.mem_flatMap.mp hnode
  obtain ⟨i, j, -, hinitiator, htarget⟩ := h.apart p hp
  simp only [NodePair.nodes, List.mem_cons, List.not_mem_nil, or_false] at hnode
  rcases hnode with rfl | rfl
  · exact mem_flatten_of_zoneOf? hinitiator
  · exact mem_flatten_of_zoneOf? htarget

/-- A plan leaves out one node at most. -/
theorem length_unpaired_le (hz : z.zones.flatten.Nodup) (h : z.IsPlan pairs) :
    (z.unpaired pairs).length ≤ 1 := by
  have hnodup : (z.unpaired pairs).Nodup := hz.filter _
  have hspare : ∀ a ∈ z.unpaired pairs, ∀ b ∈ z.unpaired pairs, a = b := fun a ha b hb =>
    h.spare a (mem_unpaired_iff.mp ha).1 b (mem_unpaired_iff.mp hb).1 (mem_unpaired_iff.mp ha).2
      (mem_unpaired_iff.mp hb).2
  match z.unpaired pairs, hnodup, hspare with
  | [], _, _ => exact Nat.zero_le 1
  | [_], _, _ => exact Nat.le_refl 1
  | a :: b :: rest, hnodup, hspare =>
      obtain rfl : a = b := hspare a (by simp) b (by simp)
      simp at hnodup

/-- The nodes of a plan and those that it leaves out are all nodes. -/
theorem append_unpaired_perm (hz : z.zones.flatten.Nodup) (h : z.IsPlan pairs) :
    pairs.flatMap NodePair.nodes ++ z.unpaired pairs ~ z.zones.flatten := by
  have hboth : (pairs.flatMap NodePair.nodes ++ z.unpaired pairs).Nodup := by
    refine List.nodup_append.mpr ⟨h.nodup, hz.filter _, ?_⟩
    rintro a ha b hb rfl
    exact (mem_unpaired_iff.mp hb).2 ha
  refine (List.perm_ext_iff_of_nodup hboth hz).mpr fun node => ?_
  rw [List.mem_append, mem_unpaired_iff]
  constructor
  · rintro (hused | ⟨hnode, -⟩)
    · exact h.mem_flatten hused
    · exact hnode
  · intro hnode
    by_cases hused : node ∈ pairs.flatMap NodePair.nodes
    · exact .inl hused
    · exact .inr ⟨hnode, hused⟩

theorem zone_locate_ne (h : z.IsPlan pairs) {p : NodePair} (hp : p ∈ pairs) :
    (z.locate p.target).zone ≠ (z.locate p.initiator).zone := by
  obtain ⟨i, j, hne, hinitiator, htarget⟩ := h.apart p hp
  simpa [locate, hinitiator, htarget] using hne.symm

end IsPlan

end Zones

/-- Pairing the nodes as they are laid out gives the pairs in order and with their
roles. -/
theorem pairUp_layout (locate : UInt8 → ZonedNode) {left : List UInt8} (hleft : left.length ≤ 1)
    {pairs : List NodePair} (hnode : ∀ node, (locate node).node = node)
    (hzone : ∀ p ∈ pairs, (locate p.target).zone ≠ (locate p.initiator).zone)
    (hinitiator : ∀ p ∈ pairs, p.initiator ∉ nonInitiators) :
    pairUp ((NodePair.layout left pairs).map locate) = some pairs := by
  induction pairs with
  | nil =>
      match left, hleft with
      | [], _ => simp [NodePair.layout, pairUp]
      | [node], _ => exact pairUp_singleton (locate node)
  | cons p pairs ih =>
      have hpair :
          NodePair.ofPartners? (locate p.initiator).node (locate p.target).node = some p := by
        rw [hnode, hnode]
        exact if_neg (by simpa using hinitiator p List.mem_cons_self)
      have hrest := ih (fun q hq => hzone q (List.mem_cons_of_mem p hq))
        fun q hq => hinitiator q (List.mem_cons_of_mem p hq)
      rw [NodePair.layout, List.map_cons, List.map_append, List.map_singleton,
        pairUp_cons_concat (hzone p List.mem_cons_self) hpair, hrest]
      rfl

/-! ## Words for a plan -/

theorem Zones.nodeCount_le_of_nodup {z : Zones} (hz : z.zones.flatten.Nodup) :
    z.nodeCount ≤ UInt8.size := by
  have hnumbers : (z.zones.flatten.map UInt8.toNat).Nodup :=
    hz.map fun _ _ h => UInt8.toNat_inj.mp h
  have hsub : z.zones.flatten.map UInt8.toNat ⊆ List.range UInt8.size := by
    intro n hn
    obtain ⟨node, -, rfl⟩ := List.mem_map.mp hn
    exact List.mem_range.mpr node.toNat_lt
  have hle := (List.subperm_of_subset hnumbers hsub).length_le
  rwa [List.length_map, List.length_range] at hle

/--
No plan is out of reach, for zones of any number and size that have no node in common.
There is an order of the nodes in which pairing finds the plan, pair by pair and with the
same roles, and there is a stream of random words, one for each index that the shuffle
draws, for which the nodes come out in this order.
-/
theorem tryPairing_complete {z : Zones} (hz : z.zones.flatten.Nodup) {pairs : List NodePair}
    (h : z.IsPlan pairs) :
    ∃ order, order ~ z.zonedNodes ∧ pairUp order = some pairs ∧
      ∃ words : Array UInt32, words.size = z.nodeCount - 1 ∧
        shuffle (.cyclic words) z.zonedNodes 0 = some (order, 0) ∧
        tryPairing (.cyclic words) z 0 = some (some pairs, 0) := by
  have hperm : (NodePair.layout (z.unpaired pairs) pairs).map z.locate ~ z.zonedNodes := by
    rw [← Zones.map_locate_flatten hz]
    exact ((NodePair.layout_perm _ pairs).trans (h.append_unpaired_perm hz)).map _
  have hpairs : pairUp ((NodePair.layout (z.unpaired pairs) pairs).map z.locate) = some pairs := by
    refine pairUp_layout z.locate (h.length_unpaired_le hz) (fun _ => rfl) (fun p hp => h.zone_locate_ne hp) ?_
    intro p hp
    simpa [nonInitiators] using h.initiators p hp
  have hlength : z.zonedNodes.length = z.nodeCount := by
    rw [Zones.nodeCount, ← Zones.map_node_zonedNodes, List.length_map]
  have hsize : z.zonedNodes.length ≤ UInt32.size := by
    rw [hlength]
    exact Nat.le_trans (Zones.nodeCount_le_of_nodup hz) (by decide)
  obtain ⟨words, hwords, hshuffle⟩ := exists_words_shuffle hsize hperm
  have hdrawn := hshuffle (.cyclic words.toArray) 0 0 (Nat.le_refl _)
    (WordSource.gives_cyclic words.toArray)
  refine ⟨_, hperm, hpairs, words.toArray, by simpa [hlength] using hwords, hdrawn, ?_⟩
  rw [tryPairing, hdrawn, ← hpairs]
  rfl

/-- A plan for five nodes in three zones, one of which may not start a run and one of
which is left out. -/
theorem tryPairing_complete_five :
    let z : Zones := ⟨[[0x01, 0x10], [0x04], [0x07, 0x0a]]⟩
    let pairs : List NodePair := [⟨0x07, 0x10⟩, ⟨0x0a, 0x01⟩]
    z.zones.flatten.Nodup ∧ z.IsPlan pairs ∧
      ∃ order, order ~ z.zonedNodes ∧ pairUp order = some pairs ∧
        ∃ words : Array UInt32, words.size = 4 ∧
          shuffle (.cyclic words) z.zonedNodes 0 = some (order, 0) ∧
          tryPairing (.cyclic words) z 0 = some (some pairs, 0) := by
  intro z pairs
  have hz : z.zones.flatten.Nodup := by decide
  have hplan : z.IsPlan pairs := by
    have hleft : ∀ node ∈ z.zones.flatten, node ∉ pairs.flatMap NodePair.nodes → node = 0x04 := by
      simp [z, pairs, NodePair.nodes]
    refine ⟨?_, by decide, fun a ha b hb haUnused hbUnused => ?_, by decide⟩
    case refine_2 => rw [hleft a ha haUnused, hleft b hb hbUnused]
    simp only [pairs, List.forall_mem_cons, List.not_mem_nil, false_imp_iff, implies_true,
      and_true]
    exact ⟨⟨2, 0, by decide, by decide, by decide⟩, 2, 0, by decide, by decide, by decide⟩
  exact ⟨hz, hplan, tryPairing_complete hz hplan⟩

end TtpConformance
