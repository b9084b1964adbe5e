import TtpConformance.Proofs.Zone.Pairing

/-!
# The first attempt that works out

Planning shuffles the nodes up to a thousand times, each time from the random state that
the shuffle before has left, and stops at the first shuffle that can be paired.  Where the
random state gets to depends on the shuffles alone, not on what became of them, so the
attempts can be counted before it is known which of them is the last.

For some zones no shuffle can be paired.  A pair takes at most one of its two nodes from a
zone and pairing leaves at most one node over, so a zone with more than half of all nodes,
rounded up, has too many: this is seen pair by pair.

## Main definitions

* `Zones.stateAfter` — the random state after a number of shuffles.
* `Zones.FailsAt` — an attempt that does not work out.

## Main statements

* `planWithin_eq_ok_iff`, `planWithin_eq_error_iff`, `planWithin_eq_none_iff` — how planning
  ends.
* `two_mul_countP_zone_le` — how many nodes of a zone can be paired.
* `plan_first_success` — planning in a thousand attempts.
-/

namespace TtpConformance

open scoped List

variable {ρ : Type}

namespace Zones

/-- The random state after a number of shuffles, if all of them end. -/
def stateAfter (source : WordSource ρ) (z : Zones) : Nat → ρ → Option ρ
  | 0, state => some state
  | n + 1, state =>
    (shuffle source z.zonedNodes state).bind fun shuffled => stateAfter source z n shuffled.2

/-- The attempt that comes after `k` shuffles ends and does not work out. -/
def FailsAt (source : WordSource ρ) (z : Zones) (state : ρ) (k : Nat) : Prop :=
  ∃ t t', z.stateAfter source k state = some t ∧ tryPairing source z t = some (none, t')

end Zones

section Attempts

variable {source : WordSource ρ} {z : Zones} {s t last : ρ} {n k : Nat}
  {outcome : Option (List NodePair)} {pairs : List NodePair} {e : RunError}

/-! ## One attempt after the other -/

/-- Whatever becomes of an attempt, the next one starts from the state that it leaves. -/
theorem stateAfter_succ (h : tryPairing source z s = some (outcome, t)) (n : Nat) :
    z.stateAfter source (n + 1) s = z.stateAfter source n t := by
  obtain ⟨⟨order, t'⟩, hshuffle, heq⟩ := Option.map_eq_some_iff.mp h
  obtain rfl : t' = t := congrArg Prod.snd heq
  rw [Zones.stateAfter, hshuffle, Option.bind_some]

theorem stateAfter_succ_of_none (h : tryPairing source z s = none) (n : Nat) :
    z.stateAfter source (n + 1) s = none := by
  rw [Zones.stateAfter, Option.map_eq_none_iff.mp h, Option.bind_none]

theorem failsAt_zero_iff : z.FailsAt source s 0 ↔ ∃ t, tryPairing source z s = some (none, t) := by
  constructor
  · rintro ⟨_, t', hstate, htry⟩
    cases hstate
    exact ⟨t', htry⟩
  · rintro ⟨t', htry⟩
    exact ⟨s, t', rfl, htry⟩

theorem failsAt_succ_iff (h : tryPairing source z s = some (outcome, t)) :
    z.FailsAt source s (k + 1) ↔ z.FailsAt source t k := by
  unfold Zones.FailsAt
  rw [stateAfter_succ h]

/-- The first attempts fail if the first one does and, from the state that it leaves, the
others do. -/
theorem forall_failsAt_succ_iff :
    (∀ k < n + 1, z.FailsAt source s k) ↔
      ∃ t, tryPairing source z s = some (none, t) ∧ ∀ k < n, z.FailsAt source t k := by
  constructor
  · intro h
    obtain ⟨t, htry⟩ := failsAt_zero_iff.mp (h 0 (Nat.succ_pos n))
    exact ⟨t, htry, fun k hk => (failsAt_succ_iff htry).mp (h (k + 1) (Nat.succ_lt_succ hk))⟩
  · rintro ⟨t, htry, hlater⟩ k hk
    cases k with
    | zero => exact failsAt_zero_iff.mpr ⟨t, htry⟩
    | succ k => exact (failsAt_succ_iff htry).mpr (hlater k (Nat.lt_of_succ_lt_succ hk))

/-- Attempts that come before one that is not the first start with one that fails. -/
theorem exists_failing_iff {P : ρ → Nat → Prop}
    (hP : ∀ {t}, tryPairing source z s = some (none, t) → ∀ k, P s (k + 1) ↔ P t k) :
    (∃ k < n + 1, (∀ j < k, z.FailsAt source s j) ∧ P s k) ↔
      P s 0 ∨ ∃ t, tryPairing source z s = some (none, t) ∧
        ∃ k < n, (∀ j < k, z.FailsAt source t j) ∧ P t k := by
  constructor
  · rintro ⟨k, hk, hfail, hend⟩
    cases k with
    | zero => exact .inl hend
    | succ k =>
        obtain ⟨t, htry, hlater⟩ := forall_failsAt_succ_iff.mp hfail
        exact .inr ⟨t, htry, k, Nat.lt_of_succ_lt_succ hk, hlater, (hP htry k).mp hend⟩
  · rintro (hend | ⟨t, htry, k, hk, hfail, hend⟩)
    · exact ⟨0, Nat.succ_pos n, fun j hj => absurd hj (Nat.not_lt_zero j), hend⟩
    · exact ⟨k + 1, Nat.succ_lt_succ hk, forall_failsAt_succ_iff.mpr ⟨t, htry, hfail⟩,
        (hP htry k).mpr hend⟩

/-! ## How planning ends -/

/-- A plan is what the first attempt gives that works out. -/
theorem planWithin_eq_ok_iff :
    planWithin source z n s = some (.ok pairs, last) ↔
      ∃ k < n, (∀ j < k, z.FailsAt source s j) ∧
        ∃ t, z.stateAfter source k s = some t ∧ tryPairing source z t = some (some pairs, last) := by
  induction n generalizing s with
  | zero => simp [planWithin]
  | succ n ih =>
      rw [exists_failing_iff (P := fun s k => ∃ t, z.stateAfter source k s = some t ∧
        tryPairing source z t = some (some pairs, last))
        (fun htry k => by rw [stateAfter_succ htry])]
      cases htry : tryPairing source z s with
      | none => simp [planWithin, htry, Zones.stateAfter]
      | some tried =>
          obtain ⟨_ | found, t⟩ := tried
          · simp [planWithin, htry, Zones.stateAfter, ih]
          · simp [planWithin, htry, Zones.stateAfter]

/-- There is no plan if all attempts fail, and the random state is then the one after as
many shuffles. -/
theorem planWithin_eq_error_iff :
    planWithin source z n s = some (.error e, last) ↔
      e = noPairing z ∧ (∀ k < n, z.FailsAt source s k) ∧
        z.stateAfter source n s = some last := by
  induction n generalizing s with
  | zero => simp [planWithin, Zones.stateAfter, eq_comm]
  | succ n ih =>
      rw [forall_failsAt_succ_iff, planWithin]
      cases htry : tryPairing source z s with
      | none => simp
      | some tried =>
          obtain ⟨_ | found, t⟩ := tried
          · simp [ih, stateAfter_succ htry]
          · simp

/-- Planning does not end if a shuffle does not, and none before it could be paired. -/
theorem planWithin_eq_none_iff :
    planWithin source z n s = none ↔
      ∃ k < n, (∀ j < k, z.FailsAt source s j) ∧ z.stateAfter source (k + 1) s = none := by
  induction n generalizing s with
  | zero => simp [planWithin]
  | succ n ih =>
      rw [exists_failing_iff (P := fun s k => z.stateAfter source (k + 1) s = none)
        (fun htry k => by rw [stateAfter_succ htry])]
      cases htry : tryPairing source z s with
      | none => simp [planWithin, htry, stateAfter_succ_of_none htry]
      | some tried =>
          obtain ⟨outcome, t⟩ := tried
          have hfirst : z.stateAfter source (0 + 1) s = some t := stateAfter_succ htry 0
          cases outcome with
          | none => simp [planWithin, htry, hfirst, ih]
          | some found => simp [planWithin, htry, hfirst]

end Attempts

/-! ## Zones with too many nodes -/

section Counting

variable {z : Zones} {nodes : List ZonedNode} {pairs : List NodePair}

/-- Pairing takes at most half of the nodes, rounded up, from one zone: not both nodes of a
pair, and at most one node is left over. -/
theorem two_mul_countP_zone_le (h : pairUp nodes = some pairs) (i : Nat) :
    2 * nodes.countP (fun n => n.zone == i) ≤ nodes.length + 1 := by
  fun_induction pairUp nodes generalizing pairs with
  | case1 nodes hlast =>
      obtain rfl : nodes = [] := List.getLast?_eq_none_iff.mp hlast
      exact Nat.zero_le 1
  | case2 nodes first hlast hempty =>
      obtain ⟨front, rfl⟩ := List.getLast?_eq_some_iff.mp hlast
      obtain rfl : front = [] := by simpa using hempty
      exact Nat.mul_le_mul_left 2 List.countP_le_length
  | case3 => cases h
  | case4 => cases h
  | case5 nodes first hlast _ second rest htake _ pair hpair ih =>
      obtain ⟨front, rfl⟩ := List.getLast?_eq_some_iff.mp hlast
      rw [List.dropLast_concat] at htake
      obtain ⟨hzone, hperm⟩ := takeFirst_perm htake
      obtain ⟨later, hlater, rfl⟩ := Option.map_eq_some_iff.mp h
      have hrest := ih hlater
      have hall : first :: second :: rest ~ front ++ [first] :=
        (hperm.cons first).trans (List.perm_append_singleton first front).symm
      have hcount := hall.countP_eq (fun n => n.zone == i)
      have hlength := hall.length_eq
      have hone : ¬ (first.zone = i ∧ second.zone = i) := by
        rintro ⟨rfl, hsecond⟩
        exact absurd hsecond (by simpa using hzone)
      simp only [List.countP_cons, List.length_cons, beq_iff_eq] at hcount hlength
      split at hcount <;> split at hcount <;> omega

/-- All nodes of a zone are listed with it. -/
theorem exists_length_le_countP_zone {zone : List UInt8} (h : zone ∈ z.zones) :
    ∃ i, zone.length ≤ z.zonedNodes.countP fun n => n.zone == i := by
  obtain ⟨i, hi⟩ := List.mem_iff_getElem?.mp h
  have hentry : (zone, i) ∈ z.zones.zipIdx := List.mem_zipIdx_iff_getElem?.mpr hi
  have hsub : zone.map (fun node => (⟨node, i⟩ : ZonedNode)) <+ z.zonedNodes :=
    List.sublist_flatten_of_mem (List.mem_map_of_mem hentry)
  refine ⟨i, ?_⟩
  calc zone.length
      = (zone.map fun node => (⟨node, i⟩ : ZonedNode)).countP fun n => n.zone == i := by
        rw [List.countP_map, ← List.countP_eq_length.mpr fun _ _ => beq_self_eq_true i]
        rfl
    _ ≤ z.zonedNodes.countP fun n => n.zone == i := hsub.countP_le

/-- With more than half of the nodes, rounded up, in one zone, no shuffle can be paired. -/
theorem tryPairing_ne_some_of_large_zone {ρ : Type} {source : WordSource ρ} {s t : ρ}
    {zone : List UInt8} (hzone : zone ∈ z.zones) (hlarge : z.nodeCount + 1 < 2 * zone.length) :
    tryPairing source z s ≠ some (some pairs, t) := by
  intro h
  obtain ⟨⟨order, t'⟩, hshuffle, heq⟩ := Option.map_eq_some_iff.mp h
  have hpairs : pairUp order = some pairs := congrArg Prod.fst heq
  have hperm := shuffle_perm source hshuffle
  obtain ⟨i, hi⟩ := exists_length_le_countP_zone hzone
  have hbound := two_mul_countP_zone_le hpairs i
  have hlength : z.zonedNodes.length = z.nodeCount := by
    rw [Zones.nodeCount, ← Zones.map_node_zonedNodes, List.length_map]
  rw [hperm.countP_eq, hperm.length_eq, hlength] at hbound
  omega

end Counting

/-! ## Planning -/

variable {source : WordSource ρ} {z : Zones} {s last : ρ} {n : Nat}

/-- If no shuffle can be paired, every attempt whose shuffle ends fails. -/
theorem failsAt_of_never (h : ∀ t t' pairs, tryPairing source z t ≠ some (some pairs, t'))
    (hends : z.stateAfter source n s = some last) : ∀ k < n, z.FailsAt source s k := by
  induction n generalizing s with
  | zero => exact fun k hk => absurd hk (Nat.not_lt_zero k)
  | succ n ih =>
      cases htry : tryPairing source z s with
      | none =>
          rw [stateAfter_succ_of_none htry] at hends
          cases hends
      | some tried =>
          obtain ⟨_ | pairs, t⟩ := tried
          · rw [stateAfter_succ htry] at hends
            exact forall_failsAt_succ_iff.mpr ⟨t, htry, ih hends⟩
          · exact absurd htry (h s t pairs)

/--
Planning, for any zones and any source of randomness.  The plan is the one of the first
of at most a thousand attempts that works out, each made from the random state that the
shuffles before it have left.  A configuration error is what comes of a thousand attempts
that all fail, and of nothing else; there is neither a plan nor an error only if one of these
shuffles does not end.

For zones of which one has more than half of all nodes, rounded up, every attempt fails.
So if the shuffles end, all thousand of them are made, and an error is what comes of it.
-/
theorem plan_first_success (source : WordSource ρ) (z : Zones) (s : ρ) :
    (∀ pairs last, plan source z s = some (.ok pairs, last) ↔
        ∃ k < 1000, (∀ j < k, z.FailsAt source s j) ∧
          ∃ t, z.stateAfter source k s = some t ∧
            tryPairing source z t = some (some pairs, last)) ∧
      (∀ e last, plan source z s = some (.error e, last) ↔
        e = noPairing z ∧ (∀ k < 1000, z.FailsAt source s k) ∧
          z.stateAfter source 1000 s = some last) ∧
      (noPairing z).isConfiguration = true ∧
      (plan source z s = none ↔
        ∃ k < 1000, (∀ j < k, z.FailsAt source s j) ∧ z.stateAfter source (k + 1) s = none) ∧
      ∀ zone ∈ z.zones, z.nodeCount + 1 < 2 * zone.length →
        (∀ t t' pairs, tryPairing source z t ≠ some (some pairs, t')) ∧
          ∀ last, z.stateAfter source 1000 s = some last →
            (∀ k < 1000, z.FailsAt source s k) ∧
              plan source z s = some (.error (noPairing z), last) := by
  refine ⟨fun _ _ => planWithin_eq_ok_iff, fun _ _ => planWithin_eq_error_iff, rfl,
    planWithin_eq_none_iff, fun zone hzone hlarge => ?_⟩
  have hnever : ∀ t t' pairs, tryPairing source z t ≠ some (some pairs, t') := fun _ _ _ =>
    tryPairing_ne_some_of_large_zone hzone hlarge
  refine ⟨hnever, fun last hends => ?_⟩
  have hfail := failsAt_of_never hnever hends
  exact ⟨hfail, planWithin_eq_error_iff.mpr ⟨rfl, hfail, hends⟩⟩

/-- Three of four nodes in one zone: a thousand shuffles, and no plan. -/
theorem plan_first_success_crowded :
    let z : Zones := ⟨[[0x01, 0x02, 0x03], [0x04]]⟩
    let source := WordSource.cyclic #[0x80000000]
    [0x01, 0x02, 0x03] ∈ z.zones ∧ z.nodeCount + 1 < 2 * 3 ∧
      z.stateAfter source 1000 0 = some 0 ∧
      plan source z 0 = some (.error (noPairing z), 0) := by
  intro z source
  have hshuffle : ∃ order, shuffle source z.zonedNodes 0 = some (order, 0) :=
    ⟨[⟨0x01, 0⟩, ⟨0x04, 1⟩, ⟨0x02, 0⟩, ⟨0x03, 0⟩], by cbv⟩
  have hends : ∀ n, z.stateAfter source n 0 = some 0 := by
    intro n
    induction n with
    | zero => rfl
    | succ n ih =>
        obtain ⟨order, hshuffle⟩ := hshuffle
        rw [Zones.stateAfter, hshuffle]
        exact ih
  have hlarge : z.nodeCount + 1 < 2 * 3 := by decide
  obtain ⟨-, -, -, -, hcrowded⟩ := plan_first_success source z 0
  obtain ⟨-, hplan⟩ := hcrowded [0x01, 0x02, 0x03] (by simp [z]) hlarge
  exact ⟨by simp [z], hlarge, hends 1000, (hplan 0 (hends 1000)).2⟩

end TtpConformance
