import TtpConformance.Options
import TtpConformance.Proofs.Address.Target
import TtpConformance.Proofs.Duration.Seconds
import TtpConformance.Proofs.Run.Answered

/-!
# Options that can be run

Options are checked one after the other, and what is reported is the first thing wrong with
them.  Whether anything is wrong does not depend on the order: there are rules for single
options and rules for options that go together, and what is not refused obeys them all.

Later parts of a run rely on more than the rules say word by word.  A gateway belongs to
native frames, prefixes and next hops belong to IPv4, and with IPv4 every node has a prefix.
These follow from the rules and are stated of the description that a run is given.

## Main definitions

* `RunOptions.Compatible`, `RunOptions.Allowed` — the rules.
* `RunContext.Follows` — what a description says of the options that it was made from.

## Main statements

* `RunOptions.validate_eq_ok_iff` — what is described.
* `RunOptions.checkCombinations_eq_ok_iff` — the options that go together.
* `RunOptions.validate_decides` — the rules are what is checked, and what is described
  follows the options.
-/

namespace TtpConformance

/-- Options that may be given together. -/
structure RunOptions.Compatible (o : RunOptions) : Prop where
  gateway : ¬ (o.ipv4 = true ∧ o.useGateway = true)
  prefixes : o.ipv4 = false → o.network = none ∧ o.selfNetwork = none ∧ o.peerNetwork = none
  hops : o.ipv4 = false → o.selfNextHop = none ∧ o.peerNextHop = none
  common : o.network.isSome = true → o.selfNetwork = none ∧ o.peerNetwork = none
  networks : o.selfNetwork.isSome = o.peerNetwork.isSome
  nextHops : o.selfNextHop.isSome = o.peerNextHop.isSome

/-- Options that can be run. -/
structure RunOptions.Allowed (o : RunOptions) : Prop extends Compatible o where
  target : ∃ spec ∈ o.target, ∃ t, Target.parse spec = .ok t
  channel : ∀ v ∈ o.channel, v ≤ 2
  dropPercent : ∀ percent ∈ o.dropPercent, percent ≤ 100
  /-- The seconds have a duration that is nearest to them. -/
  sleep : ∀ seconds ∈ o.sleep, ∃ x, seconds.value? = some x ∧ ∃ d : Duration, d.IsSeconds x

/-- The description of a run follows the options that it was made from. -/
structure RunContext.Follows (c : RunContext) (o : RunOptions) : Prop where
  target : ∃ spec ∈ o.target, Target.parse spec = .ok c.target
  encapsulation : c.encapsulation = .ipv4 ↔ o.ipv4 = true
  gateway : c.useGateway = true → c.encapsulation = .native
  native : c.encapsulation = .native → c.self.network = none ∧ c.peer.network = none ∧
    c.self.nextHop = none ∧ c.peer.nextHop = none
  /-- The common prefix, the nodes' own, or the default one. -/
  networks : c.encapsulation = .ipv4 →
    ∃ own other, c.self.network = some own ∧ c.peer.network = some other ∧
      (o.network = some own ∧ o.network = some other ∨
        o.network = none ∧ o.selfNetwork = some own ∧ o.peerNetwork = some other ∨
        o.network = none ∧ o.selfNetwork = none ∧ o.peerNetwork = none ∧
          own = defaultNetwork ∧ other = defaultNetwork)
  nextHops : c.self.nextHop.isSome = c.peer.nextHop.isSome
  selfDevice : c.self.device = o.selfDevice.getD c.encapsulation.defaultDevice
  peerDevice : c.peer.device = o.peerDevice.getD c.encapsulation.defaultDevice
  dropPercent : c.dropPercent ≤ 100
  /-- The seconds that were given, or a fixed wait when frames are dropped on purpose. -/
  settle : (∀ seconds ∈ o.sleep, ∃ x, seconds.value? = some x ∧ c.settle.IsSeconds x) ∧
    (o.sleep = none → c.settle = if 0 < c.dropPercent then dropSettle else .zero)
  /-- The number that was given, or ten for one that is out of range. -/
  trafficRepeats : c.trafficRepeats.isSome = o.traffic.isSome ∧
    ∀ n ∈ o.traffic, ∀ repeats ∈ c.trafficRepeats,
      (0 ≤ n ∧ n ≤ 10 → (repeats : Int) = n) ∧ (¬ (0 ≤ n ∧ n ≤ 10) → repeats = 10)

/-! ## Single checks -/

theorem Channel.ofUInt8_eq_ok_iff {v : UInt8} {channel : Channel} :
    ofUInt8 v = .ok channel ↔ channel.value = v := by
  rw [ofUInt8]
  constructor
  · intro h
    split at h
    · cases h
      rfl
    · cases h
  · rintro rfl
    exact dif_pos channel.le_two

namespace RunOptions

variable {o : RunOptions} {c : RunContext}

theorem refuseIf_eq_ok_iff {condition : Bool} {reason : String} :
    refuseIf condition reason = .ok () ↔ condition = false := by
  cases condition <;> simp [refuseIf]

/-- Seconds that are given have to be those of a duration. -/
theorem settle_eq_ok_iff {sleep : Option Double} {percent : UInt8} {d : Duration} :
    settle sleep percent = .ok d ↔
      (∀ seconds ∈ sleep, ∃ x, seconds.value? = some x ∧ d.IsSeconds x) ∧
      (sleep = none → d = if 0 < percent then dropSettle else .zero) := by
  cases sleep with
  | none => simp [settle, eq_comm]
  | some seconds =>
      have hread : settle (some seconds) percent = .ok d ↔
          Duration.ofDouble? seconds = some d := by
        rw [settle]
        split <;> simp [*]
      rw [hread, Duration.ofDouble?_eq_some_iff]
      simp

theorem refuseIf_bind_eq_ok_iff {β : Type} {condition : Bool} {reason : String}
    {f : Unit → Except RunError β} {b : β} :
    (refuseIf condition reason).bind f = .ok b ↔ condition = false ∧ f () = .ok b := by
  cases condition <;> simp [refuseIf, Except.bind]

/-- Options go together if none of the combinations is refused. -/
theorem checkCombinations_eq_ok_iff : o.checkCombinations = .ok () ↔ o.Compatible := by
  have hchecks : o.checkCombinations = .ok () ↔
      (o.ipv4 && o.useGateway) = false ∧
      (!o.ipv4 && (o.network.isSome || (o.selfNetwork.isSome || o.peerNetwork.isSome))) = false ∧
      (o.network.isSome && (o.selfNetwork.isSome || o.peerNetwork.isSome)) = false ∧
      (!o.ipv4 && (o.selfNextHop.isSome || o.peerNextHop.isSome)) = false ∧
      (o.selfNetwork.isSome != o.peerNetwork.isSome) = false ∧
      (o.selfNextHop.isSome != o.peerNextHop.isSome) = false := by
    simp only [checkCombinations, Bind.bind, refuseIf_bind_eq_ok_iff, refuseIf_eq_ok_iff]
  rw [hchecks]
  simp only [Bool.and_eq_false_imp, Bool.or_eq_false_iff, Bool.not_eq_true',
    bne_eq_false_iff_eq, Option.isSome_eq_false_iff, Option.isNone_iff_eq_none]
  constructor
  · rintro ⟨hgateway, hprefixes, hcommon, hhops, hnetworks, hnextHops⟩
    exact ⟨by simpa using hgateway, hprefixes, hhops, hcommon, hnetworks, hnextHops⟩
  · rintro ⟨hgateway, hprefixes, hhops, hcommon, hnetworks, hnextHops⟩
    exact ⟨by simpa using hgateway, hprefixes, hcommon, hhops, hnetworks, hnextHops⟩

/-! ## Checking everything -/

/-- The target that is named. -/
def readTarget (o : RunOptions) : Except RunError Target :=
  match o.target with
  | some spec => Target.parse spec
  | none => .error (.configuration "missing --target")

/-- The encapsulation that is asked for. -/
def encapsulation (o : RunOptions) : Encapsulation := if o.ipv4 then .ipv4 else .native

/-- The description of a run with a target, a channel and a wait. -/
def describe (o : RunOptions) (target : Target) (channel : Channel) (settle : Duration) :
    RunContext where
  target := target
  encapsulation := o.encapsulation
  useGateway := o.useGateway
  channel := channel
  dropPercent := o.dropPercent.getD 0
  settle := settle
  verbose := o.verbose
  self := ⟨o.selfDevice.getD o.encapsulation.defaultDevice, o.networks.1, o.selfNextHop⟩
  peer := ⟨o.peerDevice.getD o.encapsulation.defaultDevice, o.networks.2, o.peerNextHop⟩
  skip := ⟨o.noLoad, o.keepLoaded, o.noPacket, o.noTraffic, o.noRemote⟩
  trafficRepeats := o.traffic.map trafficRepeats

/-- The checks in their order. -/
theorem validate_eq :
    o.validate = o.readTarget.bind fun target => o.checkCombinations.bind fun _ =>
      (Channel.ofUInt8 (o.channel.getD 0)).bind fun channel =>
      (refuseIf (100 < o.dropPercent.getD 0)
        ("invalid drop percentage " ++ Text.decimal (o.dropPercent.getD 0).toNat)).bind fun _ =>
      (settle o.sleep (o.dropPercent.getD 0)).bind fun settle =>
      .ok (o.describe target channel settle) := by
  unfold validate readTarget
  cases o.target <;> rfl

theorem readTarget_eq_ok_iff {t : Target} :
    o.readTarget = .ok t ↔ ∃ spec ∈ o.target, Target.parse spec = .ok t := by
  rw [readTarget]
  cases o.target <;> simp

/-- What is described, and what was checked before. -/
theorem validate_eq_ok_iff :
    o.validate = .ok c ↔ ∃ target channel settle,
      o.readTarget = .ok target ∧ o.Compatible ∧ channel.value = o.channel.getD 0 ∧
      o.dropPercent.getD 0 ≤ 100 ∧ RunOptions.settle o.sleep (o.dropPercent.getD 0) = .ok settle ∧
      o.describe target channel settle = c := by
  have hpercent : decide (100 < o.dropPercent.getD 0) = false ↔ o.dropPercent.getD 0 ≤ 100 := by
    rw [decide_eq_false_iff_not, UInt8.not_lt]
  rw [validate_eq, ← hpercent]
  constructor
  · intro h
    obtain ⟨target, htarget, h⟩ := except_bind_eq_ok_iff.mp h
    obtain ⟨_, hcombinations, h⟩ := except_bind_eq_ok_iff.mp h
    obtain ⟨channel, hchannel, h⟩ := except_bind_eq_ok_iff.mp h
    obtain ⟨hdrop, h⟩ := refuseIf_bind_eq_ok_iff.mp h
    obtain ⟨settle, hsettle, h⟩ := except_bind_eq_ok_iff.mp h
    exact ⟨target, channel, settle, htarget, checkCombinations_eq_ok_iff.mp hcombinations,
      Channel.ofUInt8_eq_ok_iff.mp hchannel, hdrop, hsettle, Except.ok.inj h⟩
  · rintro ⟨target, channel, settle, htarget, hcompatible, hchannel, hdrop, hsettle, rfl⟩
    rw [htarget, checkCombinations_eq_ok_iff.mpr hcompatible,
      Channel.ofUInt8_eq_ok_iff.mpr hchannel, refuseIf_eq_ok_iff.mpr hdrop, hsettle]
    rfl

/-! ## Refusals -/

/-- Nothing but configuration errors. -/
def OnlyConfiguration {α : Type} (x : Except RunError α) : Prop :=
  ∀ e, x = .error e → ∃ reason, e = .configuration reason

theorem onlyConfiguration_bind {α β : Type} {x : Except RunError α} {f : α → Except RunError β}
    (hx : OnlyConfiguration x) (hf : ∀ a, OnlyConfiguration (f a)) :
    OnlyConfiguration (x.bind f) := by
  intro e h
  cases x with
  | error e' =>
      obtain rfl : e' = e := Except.error.inj h
      exact hx e' rfl
  | ok a => exact hf a e h

theorem onlyConfiguration_refuseIf (condition : Bool) (reason : String) :
    OnlyConfiguration (refuseIf condition reason) := by
  intro e h
  rw [refuseIf] at h
  split at h
  · exact ⟨reason, (Except.error.inj h).symm⟩
  · cases h

theorem onlyConfiguration_readTarget (o : RunOptions) : OnlyConfiguration o.readTarget := by
  intro e h
  rw [readTarget] at h
  split at h
  · exact ⟨_, Target.parse_eq_error h⟩
  · exact ⟨_, (Except.error.inj h).symm⟩

theorem onlyConfiguration_channel (v : UInt8) : OnlyConfiguration (Channel.ofUInt8 v) := by
  intro e h
  rw [Channel.ofUInt8] at h
  split at h
  · cases h
  · exact ⟨_, (Except.error.inj h).symm⟩

theorem onlyConfiguration_settle (sleep : Option Double) (percent : UInt8) :
    OnlyConfiguration (settle sleep percent) := by
  intro e h
  rw [settle.eq_def] at h
  split at h
  · split at h
    · cases h
    · exact ⟨_, (Except.error.inj h).symm⟩
  · cases h

theorem onlyConfiguration_checkCombinations (o : RunOptions) :
    OnlyConfiguration o.checkCombinations := by
  unfold checkCombinations
  iterate 5 refine onlyConfiguration_bind (onlyConfiguration_refuseIf _ _) fun _ => ?_
  exact onlyConfiguration_refuseIf _ _

/-- Whatever is wrong with options, it is a configuration error. -/
theorem onlyConfiguration_validate (o : RunOptions) : OnlyConfiguration o.validate := by
  rw [validate_eq]
  refine onlyConfiguration_bind (onlyConfiguration_readTarget o) fun _ => ?_
  refine onlyConfiguration_bind (onlyConfiguration_checkCombinations o) fun _ => ?_
  refine onlyConfiguration_bind (onlyConfiguration_channel _) fun _ => ?_
  refine onlyConfiguration_bind (onlyConfiguration_refuseIf _ _) fun _ => ?_
  refine onlyConfiguration_bind (onlyConfiguration_settle _ _) fun _ => ?_
  intro e h
  cases h

/-! ## Allowed options and their descriptions -/

/-- An octet that is zero if it is not given. -/
theorem getD_zero_le_iff {given : Option UInt8} {bound : UInt8} :
    given.getD 0 ≤ bound ↔ ∀ v ∈ given, v ≤ bound := by
  cases given <;> simp

theorem exists_settle_iff {sleep : Option Double} {percent : UInt8} :
    (∃ d, settle sleep percent = .ok d) ↔
      ∀ seconds ∈ sleep, ∃ x, seconds.value? = some x ∧ ∃ d : Duration, d.IsSeconds x := by
  simp only [settle_eq_ok_iff]
  cases sleep with
  | none => simp
  | some seconds =>
      simp only [Option.mem_def, Option.some.injEq, forall_eq', reduceCtorEq, false_implies,
        and_true]
      constructor
      · rintro ⟨d, x, hx, hd⟩
        exact ⟨x, hx, d, hd⟩
      · rintro ⟨x, hx, d, hd⟩
        exact ⟨d, x, hx, hd⟩

/-- Options are described if they are allowed. -/
theorem exists_validate_eq_ok_iff : (∃ c, o.validate = .ok c) ↔ o.Allowed := by
  constructor
  · rintro ⟨c, h⟩
    obtain ⟨target, channel, settle, htarget, hcompatible, hchannel, hdrop, hsettle, -⟩ :=
      validate_eq_ok_iff.mp h
    obtain ⟨spec, hspec, hparse⟩ := readTarget_eq_ok_iff.mp htarget
    exact ⟨hcompatible, ⟨spec, hspec, target, hparse⟩,
      getD_zero_le_iff.mp (hchannel ▸ channel.le_two), getD_zero_le_iff.mp hdrop,
      exists_settle_iff.mp ⟨settle, hsettle⟩⟩
  · rintro ⟨hcompatible, ⟨spec, hspec, target, hparse⟩, hchannel, hdrop, hsleep⟩
    obtain ⟨settle, hsettle⟩ := exists_settle_iff.mpr hsleep
    exact ⟨_, validate_eq_ok_iff.mpr ⟨target, ⟨o.channel.getD 0, getD_zero_le_iff.mpr hchannel⟩,
      settle, readTarget_eq_ok_iff.mpr ⟨spec, hspec, hparse⟩, hcompatible, rfl,
      getD_zero_le_iff.mpr hdrop, hsettle, rfl⟩⟩

theorem encapsulation_eq_ipv4_iff : o.encapsulation = .ipv4 ↔ o.ipv4 = true := by
  rw [encapsulation]
  split <;> simp [*]

theorem encapsulation_eq_native_iff : o.encapsulation = .native ↔ o.ipv4 = false := by
  rw [encapsulation]
  split <;> simp [*]

/-- With IPv4 both nodes have a prefix. -/
theorem Compatible.networks_of_ipv4 (h : o.Compatible) (hipv4 : o.ipv4 = true) :
    ∃ own other, o.networks = (some own, some other) ∧
      (o.network = some own ∧ o.network = some other ∨
        o.network = none ∧ o.selfNetwork = some own ∧ o.peerNetwork = some other ∨
        o.network = none ∧ o.selfNetwork = none ∧ o.peerNetwork = none ∧
          own = defaultNetwork ∧ other = defaultNetwork) := by
  have hsame := h.networks
  rw [networks.eq_def, if_pos hipv4]
  cases hcommon : o.network with
  | some both => exact ⟨both, both, rfl, .inl ⟨rfl, rfl⟩⟩
  | none =>
      cases hself : o.selfNetwork with
      | some own =>
          rw [hself] at hsame
          obtain ⟨other, hpeer⟩ := Option.isSome_iff_exists.mp hsame.symm
          rw [hpeer]
          exact ⟨own, other, rfl, .inr (.inl ⟨rfl, rfl, rfl⟩)⟩
      | none =>
          rw [hself] at hsame
          have hpeer : o.peerNetwork = none := by simpa using hsame.symm
          rw [hpeer]
          exact ⟨_, _, rfl, .inr (.inr ⟨rfl, rfl, rfl, rfl, rfl⟩)⟩

/-- A number in range is kept, and any other one is ten. -/
theorem trafficRepeats_spec (n : Int) :
    (0 ≤ n ∧ n ≤ 10 → (trafficRepeats n : Int) = n) ∧
      (¬ (0 ≤ n ∧ n ≤ 10) → trafficRepeats n = 10) := by
  have hmost : ((defaultTrafficRepeats : Nat) : Int) = 10 := rfl
  rw [trafficRepeats, hmost]
  constructor
  · intro hrange
    rw [if_pos hrange]
    exact Int.toNat_of_nonneg hrange.1
  · intro hrange
    exact if_neg hrange

/-- What is described follows the options. -/
theorem follows_of_validate (h : o.validate = .ok c) : c.Follows o := by
  obtain ⟨target, channel, settle, htarget, hcompatible, hchannel, hdrop, hsettle, rfl⟩ :=
    validate_eq_ok_iff.mp h
  have hnative : o.encapsulation = .native → o.networks = (none, none) := by
    intro hencapsulation
    have hipv4 := encapsulation_eq_native_iff.mp hencapsulation
    simp [networks, hipv4]
  constructor
  case target => exact readTarget_eq_ok_iff.mp htarget
  case encapsulation => exact encapsulation_eq_ipv4_iff
  case gateway =>
    intro hgateway
    refine encapsulation_eq_native_iff.mpr (Bool.eq_false_iff.mpr fun hipv4 => ?_)
    exact hcompatible.gateway ⟨hipv4, hgateway⟩
  case native =>
    intro hencapsulation
    obtain ⟨hself, hpeer⟩ := hcompatible.hops (encapsulation_eq_native_iff.mp hencapsulation)
    have hnetworks := hnative hencapsulation
    exact ⟨congrArg Prod.fst hnetworks, congrArg Prod.snd hnetworks, hself, hpeer⟩
  case networks =>
    intro hencapsulation
    obtain ⟨own, other, hnetworks, hgiven⟩ :=
      hcompatible.networks_of_ipv4 (encapsulation_eq_ipv4_iff.mp hencapsulation)
    exact ⟨own, other, congrArg Prod.fst hnetworks, congrArg Prod.snd hnetworks, hgiven⟩
  case nextHops => exact hcompatible.nextHops
  case selfDevice => rfl
  case peerDevice => rfl
  case dropPercent => exact hdrop
  case settle => exact settle_eq_ok_iff.mp hsettle
  case trafficRepeats =>
    refine ⟨Option.isSome_map, fun n hn repeats hrepeats => ?_⟩
    have hmap : o.traffic.map trafficRepeats = some repeats := hrepeats
    rw [Option.mem_def.mp hn] at hmap
    obtain rfl := Option.some.inj hmap
    exact trafficRepeats_spec n

/--
Options are described exactly if they obey the rules, and otherwise what is wrong with them
is a configuration error.  The description follows the options: there is a gateway only with
native frames, and prefixes and next hops only with IPv4, where both nodes have a prefix and
either both have a next hop or neither has.  Devices, wait and repetitions are as they are
given or by default.
-/
theorem validate_decides (o : RunOptions) :
    ((∃ c, o.validate = .ok c) ↔ o.Allowed) ∧
    (∀ e, o.validate = .error e → ∃ reason, e = .configuration reason) ∧
    ∀ c, o.validate = .ok c → c.Follows o :=
  ⟨exists_validate_eq_ok_iff, onlyConfiguration_validate o, fun _ => follows_of_validate⟩

/-- Both nodes with a prefix and a next hop of their own, every number as large as it may be
and one that is larger. -/
def toTheLimit : RunOptions where
  ipv4 := true
  selfNetwork := some ⟨⟨10, 1, 0, 0⟩, 16, by decide⟩
  peerNetwork := some ⟨⟨10, 2, 0, 0⟩, 16, by decide⟩
  selfNextHop := some (.ofLow ⟨0, 0, 1⟩)
  peerNextHop := some (.ofLow ⟨0, 0, 2⟩)
  target := some " 0B "
  channel := some 2
  dropPercent := some 100
  sleep := some (.finite false 9007199254740991 11)
  traffic := some 11

/-- These options are allowed, and with a gateway they are not. -/
theorem validate_decides_limit :
    (∃ c, toTheLimit.validate = .ok c ∧ toTheLimit.Allowed ∧ c.Follows toTheLimit ∧
      c.trafficRepeats = some 10) ∧
    ∃ e, validate { toTheLimit with useGateway := true } = .error e ∧
      ∃ reason, e = .configuration reason := by
  obtain ⟨hallowed, -, hfollows⟩ := validate_decides toTheLimit
  obtain ⟨-, hconfiguration, -⟩ := validate_decides { toTheLimit with useGateway := true }
  obtain ⟨c, hc⟩ : ∃ c, toTheLimit.validate = .ok c := ⟨_, rfl⟩
  obtain ⟨e, he⟩ : ∃ e, validate { toTheLimit with useGateway := true } = .error e := ⟨_, rfl⟩
  have hrepeats : c.trafficRepeats = some 10 := by
    cases hc
    rfl
  exact ⟨⟨c, hc, hallowed.mp ⟨c, hc⟩, hfollows c hc, hrepeats⟩, e, he, hconfiguration e he⟩

end RunOptions

end TtpConformance
