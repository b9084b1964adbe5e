import Mathlib.Data.List.Nodup
import TtpConformance.Proofs.Random.Shuffle
import TtpConformance.Zone.Pairing

/-!
# Sound pairings

A pairing eats a shuffled list of nodes from both ends at once: the last node goes,
and with it the first one of another zone.  What is invariant is that the pairs that
are made and the nodes that are left are, together, the nodes that were there; at the
end at most one node is left.

Which zone a node belongs to is part of the list.  It agrees with the zones themselves
as long as no node is listed twice, since the zone of a node is the first that has it.

## Main definitions

* `NodePair.nodes` — both nodes of a pair.
* `UsesUp` — pairs that use a list of nodes up, but for a rest.

## Main statements

* `usesUp_of_pairUp` — pairing nodes in a given order.
* `Zones.zoneOf?_of_mem_zonedNodes` — the zone of a listed node.
* `tryPairing_sound` — a pairing after a shuffle.
-/

namespace TtpConformance

open List (Perm)
open scoped List

/-- Both nodes of a pair, whichever their roles. -/
def NodePair.nodes (p : NodePair) : List UInt8 := [p.initiator, p.target]

theorem NodePair.length_flatMap_nodes (pairs : List NodePair) :
    (pairs.flatMap NodePair.nodes).length = 2 * pairs.length := by
  induction pairs with
  | nil => rfl
  | cons p pairs ih =>
      rw [List.flatMap_cons, List.length_append, ih, List.length_cons]
      show 2 + 2 * pairs.length = 2 * (pairs.length + 1)
      omega

/-! ## Pairing in a given order -/

/-- Taking an element out and putting it in front is a permutation. -/
theorem takeFirst_perm {α : Type} {p : α → Bool} {as bs : List α} {b : α}
    (h : takeFirst p as = some (b, bs)) : p b = true ∧ Perm (b :: bs) as := by
  induction as generalizing bs with
  | nil => cases h
  | cons a as ih =>
      rw [takeFirst] at h
      split at h
      · rename_i ha
        cases h
        exact ⟨ha, Perm.refl _⟩
      · obtain ⟨⟨c, cs⟩, hc, heq⟩ := Option.map_eq_some_iff.mp h
        cases heq
        obtain ⟨hb, hperm⟩ := ih hc
        exact ⟨hb, (Perm.swap a b cs).trans (hperm.cons a)⟩

/-- The roles of two partners.  The one that starts the run is one that may. -/
theorem ofPartners?_cases {first second : UInt8} {pair : NodePair}
    (h : NodePair.ofPartners? first second = some pair) :
    pair.initiator ∉ nonInitiators ∧
      (pair = ⟨first, second⟩ ∨ pair = ⟨second, first⟩) := by
  unfold NodePair.ofPartners? at h
  split at h
  · split at h
    · cases h
    · rename_i hsecond
      cases h
      exact ⟨by simpa using hsecond, .inr rfl⟩
  · rename_i hfirst
    cases h
    exact ⟨by simpa using hfirst, .inl rfl⟩

/-- Pairs of nodes of different zones, which together with the nodes that are left are
the nodes that there were. -/
structure UsesUp (nodes : List ZonedNode) (pairs : List NodePair) (left : List UInt8) :
    Prop where
  perm : Perm (pairs.flatMap NodePair.nodes ++ left) (nodes.map (·.node))
  apart : ∀ p ∈ pairs, ∃ a ∈ nodes, ∃ b ∈ nodes,
    p.initiator = a.node ∧ p.target = b.node ∧ a.zone ≠ b.zone
  initiators : ∀ p ∈ pairs, p.initiator ∉ nonInitiators

namespace UsesUp

variable {nodes rest : List ZonedNode} {pairs : List NodePair} {left : List UInt8}

theorem nil (nodes : List ZonedNode) : UsesUp nodes [] (nodes.map (·.node)) where
  perm := Perm.refl _
  apart := by simp
  initiators := by simp

/-- One more pair, whose nodes come from the same list in either role. -/
theorem cons (h : UsesUp rest pairs left) {a b : ZonedNode} (hzone : b.zone ≠ a.zone)
    (hperm : Perm (a :: b :: rest) nodes) {pair : NodePair}
    (hpair : NodePair.ofPartners? a.node b.node = some pair) :
    UsesUp nodes (pair :: pairs) left := by
  obtain ⟨hmay, hroles⟩ := ofPartners?_cases hpair
  have ha : a ∈ nodes := hperm.subset List.mem_cons_self
  have hb : b ∈ nodes := hperm.subset (List.mem_cons_of_mem a List.mem_cons_self)
  have hrest : ∀ n ∈ rest, n ∈ nodes := fun n hn =>
    hperm.subset (List.mem_cons_of_mem a (List.mem_cons_of_mem b hn))
  refine ⟨?_, ?_, ?_⟩
  · have hnodes : Perm pair.nodes [a.node, b.node] := by
      rcases hroles with rfl | rfl
      · exact Perm.refl _
      · exact Perm.swap _ _ _
    calc (pair :: pairs).flatMap NodePair.nodes ++ left
        = pair.nodes ++ (pairs.flatMap NodePair.nodes ++ left) := by
          rw [List.flatMap_cons, List.append_assoc]
      _ ~ [a.node, b.node] ++ rest.map (·.node) := hnodes.append h.perm
      _ = (a :: b :: rest).map (·.node) := rfl
      _ ~ nodes.map (·.node) := hperm.map _
  · intro p hp
    rcases List.mem_cons.mp hp with rfl | hp
    · rcases hroles with rfl | rfl
      · exact ⟨a, ha, b, hb, rfl, rfl, hzone.symm⟩
      · exact ⟨b, hb, a, ha, rfl, rfl, hzone⟩
    · obtain ⟨c, hc, d, hd, hcd⟩ := h.apart p hp
      exact ⟨c, hrest c hc, d, hrest d hd, hcd⟩
  · intro p hp
    rcases List.mem_cons.mp hp with rfl | hp
    · exact hmay
    · exact h.initiators p hp

/-- The order of the nodes does not matter to what was used up. -/
theorem of_perm {nodes' : List ZonedNode} (h : UsesUp nodes pairs left) (hperm : nodes ~ nodes') :
    UsesUp nodes' pairs left where
  perm := h.perm.trans (hperm.map _)
  apart p hp := by
    obtain ⟨a, ha, b, hb, hab⟩ := h.apart p hp
    exact ⟨a, hperm.subset ha, b, hperm.subset hb, hab⟩
  initiators := h.initiators

end UsesUp

/-- Pairing goes on until at most one node is left. -/
theorem usesUp_of_pairUp {nodes : List ZonedNode} {pairs : List NodePair}
    (h : pairUp nodes = some pairs) :
    ∃ left, left.length ≤ 1 ∧ UsesUp nodes pairs left := by
  fun_induction pairUp nodes generalizing pairs with
  | case1 nodes hlast =>
      cases h
      obtain rfl : nodes = [] := List.getLast?_eq_none_iff.mp hlast
      exact ⟨[], Nat.zero_le 1, UsesUp.nil []⟩
  | case2 nodes first hlast hempty =>
      cases h
      obtain ⟨front, rfl⟩ := List.getLast?_eq_some_iff.mp hlast
      obtain rfl : front = [] := by simpa using hempty
      exact ⟨[first.node], Nat.le_refl 1, UsesUp.nil [first]⟩
  | case3 => cases h
  | case4 => cases h
  | case5 nodes first hlast _ second rest htake _ pair hpair ih =>
      obtain ⟨front, rfl⟩ := List.getLast?_eq_some_iff.mp hlast
      rw [List.dropLast_concat] at htake
      obtain ⟨hzone, hperm⟩ := takeFirst_perm htake
      obtain ⟨later, hlater, rfl⟩ := Option.map_eq_some_iff.mp h
      obtain ⟨left, hleft, huses⟩ := ih hlater
      refine ⟨left, hleft, huses.cons (by simpa using hzone) ?_ hpair⟩
      exact (hperm.cons first).trans (List.perm_append_singleton first front).symm

/-! ## The zones of nodes -/

namespace Zones

variable {z : Zones}

theorem map_node_zonedNodes (z : Zones) :
    z.zonedNodes.map (·.node) = z.zones.flatten := by
  calc z.zonedNodes.map (·.node)
      = z.zones.zipIdx.flatMap (fun entry => id entry.1) := by
        simp [zonedNodes, List.map_flatMap, Function.comp_def]
    _ = (z.zones.zipIdx.map Prod.fst).flatMap id := by
        rw [List.flatMap_map]
    _ = z.zones.flatten := by
        rw [List.zipIdx_map_fst, List.flatMap_id]

theorem getElem?_of_mem_zonedNodes {n : ZonedNode} (h : n ∈ z.zonedNodes) :
    ∃ zone, z.zones[n.zone]? = some zone ∧ n.node ∈ zone := by
  obtain ⟨⟨zone, index⟩, hentry, hn⟩ := List.mem_flatMap.mp h
  obtain ⟨node, hnode, rfl⟩ := List.mem_map.mp hn
  exact ⟨zone, List.mem_zipIdx_iff_getElem?.mp hentry, hnode⟩

/-- With no node in two zones, the zone that a node is listed with is the one that it
is found in. -/
theorem zoneOf?_of_mem_zonedNodes (hz : z.zones.flatten.Nodup) {n : ZonedNode}
    (h : n ∈ z.zonedNodes) : z.zoneOf? n.node = some n.zone := by
  obtain ⟨zone, hzone, hmem⟩ := getElem?_of_mem_zonedNodes h
  obtain ⟨hlt, rfl⟩ := List.getElem?_eq_some_iff.mp hzone
  refine List.findIdx?_eq_some_iff_getElem.mpr ⟨hlt, by simpa using hmem, ?_⟩
  intro j hj hother
  have hdisjoint := (List.nodup_flatten.mp hz).2
  have hne := List.pairwise_iff_getElem.mp hdisjoint j n.zone (by omega) hlt hj
  exact hne (by simpa using hother) hmem

end Zones

namespace UsesUp

variable {z : Zones} {pairs : List NodePair} {left : List UInt8}
  (h : UsesUp z.zonedNodes pairs left)

include h

theorem perm_flatten : pairs.flatMap NodePair.nodes ++ left ~ z.zones.flatten := by
  rw [← Zones.map_node_zonedNodes]
  exact h.perm

theorem length_add : 2 * pairs.length + left.length = z.nodeCount := by
  rw [← NodePair.length_flatMap_nodes, ← List.length_append]
  exact h.perm_flatten.length_eq

/-- With no node in two zones, the nodes of a pair are found in different ones. -/
theorem zones_apart (hz : z.zones.flatten.Nodup) : ∀ pair ∈ pairs, ∃ i j, i ≠ j ∧
    z.zoneOf? pair.initiator = some i ∧ z.zoneOf? pair.target = some j := by
  intro pair hpair
  obtain ⟨a, ha, b, hb, hinitiator, htarget, hzone⟩ := h.apart pair hpair
  refine ⟨a.zone, b.zone, hzone, ?_, ?_⟩
  · rw [hinitiator, Zones.zoneOf?_of_mem_zonedNodes hz ha]
  · rw [htarget, Zones.zoneOf?_of_mem_zonedNodes hz hb]

end UsesUp

/-! ## Pairing after a shuffle -/

variable {ρ : Type} {source : WordSource ρ} {z : Zones} {s s' : ρ} {pairs : List NodePair}

/-- The shuffle makes no difference to how the nodes are used up. -/
theorem usesUp_of_tryPairing (h : tryPairing source z s = some (some pairs, s')) :
    ∃ left, left.length ≤ 1 ∧ UsesUp z.zonedNodes pairs left := by
  obtain ⟨⟨nodes, state⟩, hshuffle, heq⟩ := Option.map_eq_some_iff.mp h
  have hpairs : pairUp nodes = some pairs := congrArg Prod.fst heq
  obtain ⟨left, hleft, huses⟩ := usesUp_of_pairUp hpairs
  exact ⟨left, hleft, huses.of_perm (shuffle_perm source hshuffle)⟩

/--
Sound pairing, for zones of any number and size that have no node in common and for
every source of randomness.  The nodes of a pair are from different zones, and the one
that starts the run is one that may.  No node is used twice, in whichever roles, and
nothing that is not a node of the zones is used.  There are half as many pairs as there
are nodes: all nodes are used if their number is even, and all but one if it is odd.
-/
theorem tryPairing_sound (hz : z.zones.flatten.Nodup)
    (h : tryPairing source z s = some (some pairs, s')) :
    (∀ p ∈ pairs, ∃ i j, i ≠ j ∧ z.zoneOf? p.initiator = some i ∧
        z.zoneOf? p.target = some j) ∧
      (∀ p ∈ pairs, p.initiator ≠ 0x10 ∧ p.initiator ≠ 0x11) ∧
      (pairs.flatMap NodePair.nodes).Nodup ∧
      (∀ node ∈ pairs.flatMap NodePair.nodes, node ∈ z.zones.flatten) ∧
      pairs.length = z.nodeCount / 2 ∧
      (z.nodeCount % 2 = 0 → pairs.flatMap NodePair.nodes ~ z.zones.flatten) ∧
      (z.nodeCount % 2 = 1 →
        ∃! node, node ∈ z.zones.flatten ∧ node ∉ pairs.flatMap NodePair.nodes) := by
  obtain ⟨left, hleft, huses⟩ := usesUp_of_tryPairing h
  have hperm := huses.perm_flatten
  have hnodup : (pairs.flatMap NodePair.nodes ++ left).Nodup := hperm.nodup_iff.mpr hz
  have hcount := huses.length_add
  refine ⟨huses.zones_apart hz, ?_, (List.nodup_append.mp hnodup).1, ?_, by omega, ?_, ?_⟩
  · intro p hp
    simpa [nonInitiators] using huses.initiators p hp
  · intro node hnode
    exact hperm.subset (List.mem_append_left left hnode)
  · intro heven
    have hnil : left = [] := List.eq_nil_of_length_eq_zero (by omega)
    rwa [hnil, List.append_nil] at hperm
  · intro hodd
    obtain ⟨spare, rfl⟩ := List.length_eq_one_iff.mp (by omega : left.length = 1)
    have hspare := (List.nodup_append.mp hnodup).2.2
    have hunused : spare ∉ pairs.flatMap NodePair.nodes := by
      intro hmem
      exact hspare spare hmem spare (by simp) rfl
    refine ⟨spare, ⟨hperm.subset (by simp), hunused⟩, ?_⟩
    rintro node ⟨hnode, hnotUsed⟩
    rcases List.mem_append.mp (hperm.symm.subset hnode) with hused | hleftover
    · exact absurd hused hnotUsed
    · exact List.mem_singleton.mp hleftover

/-- Five nodes in three zones, one of which may not start a run: two pairs, and the node
that stands alone in its zone is left out. -/
theorem tryPairing_sound_five :
    let z : Zones := ⟨[[0x01, 0x10], [0x04], [0x07, 0x0a]]⟩
    let pairs : List NodePair := [⟨0x07, 0x10⟩, ⟨0x0a, 0x01⟩]
    z.zones.flatten.Nodup ∧
      tryPairing (.cyclic #[0x40000000, 0xb0000000]) z 0 = some (some pairs, 0) ∧
      pairs.length = z.nodeCount / 2 ∧
      ∃! node, node ∈ z.zones.flatten ∧ node ∉ pairs.flatMap NodePair.nodes := by
  intro z pairs
  have hz : z.zones.flatten.Nodup := by decide
  have h : tryPairing (.cyclic #[0x40000000, 0xb0000000]) z 0 = some (some pairs, 0) := by
    cbv
  obtain ⟨-, -, -, -, hlength, -, hodd⟩ := tryPairing_sound hz h
  exact ⟨hz, h, hlength, hodd (by decide)⟩

end TtpConformance
