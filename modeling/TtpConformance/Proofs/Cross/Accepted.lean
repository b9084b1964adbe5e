import TtpConformance.Cross.Settings
import TtpConformance.Proofs.Identity.HostName

/-!
# Planned pairs are accepted

A plan is made with the zones of a part of the lab, and a pair of it becomes a command
line on one node that names the other one.  The run that is started there knows nothing
of the plan: it reads the target from its command line, works out a host name, and has
gateway runs refused by the zones of the whole lab.  It comes to the conclusion that the
plan was made on, because nodes of different zones of a part are in different zones of
the whole.

## Main definitions

* `CrossSettings.flags` — what a pair's command line says besides the target.

## Main statements

* `exists_tryPairing_of_plan` — a plan is what one shuffle gave.
* `words_pairScript` — the command line of a pair, word by word.
* `plan_accepted` — the run that a pair starts has no objection to its target.
-/

namespace TtpConformance

variable {ρ : Type} {source : WordSource ρ} {z : Zones} {s s' : ρ} {pairs : List NodePair}

/-! ## Plans -/

theorem exists_tryPairing_of_planWithin {attempts : Nat}
    (h : planWithin source z attempts s = some (.ok pairs, s')) :
    ∃ t, tryPairing source z t = some (some pairs, s') := by
  induction attempts generalizing s with
  | zero => cases h
  | succ attempts ih =>
      rw [planWithin] at h
      split at h
      · cases h
      · rename_i htry
        cases h
        exact ⟨s, htry⟩
      · exact ih h

/-- A plan is what one of the shuffles gave. -/
theorem exists_tryPairing_of_plan (h : plan source z s = some (.ok pairs, s')) :
    ∃ t, tryPairing source z t = some (some pairs, s') :=
  exists_tryPairing_of_planWithin h

/-- The nodes of a planned pair are in different zones of the whole lab too. -/
theorem exists_zones_of_plan {uba utm : Bool}
    (h : plan source (.build uba utm) s = some (.ok pairs, s')) {pair : NodePair}
    (hpair : pair ∈ pairs) :
    ∃ i j, i ≠ j ∧ (Zones.build true true).zoneOf? pair.initiator = some i ∧
      (Zones.build true true).zoneOf? pair.target = some j := by
  obtain ⟨t, htry⟩ := exists_tryPairing_of_plan h
  obtain ⟨left, -, huses⟩ := usesUp_of_tryPairing htry
  obtain ⟨a, ha, b, hb, hinitiator, htarget, hzone⟩ := huses.apart pair hpair
  have hwhole := Zones.zonedNodes_build_subset uba utm
  refine ⟨a.zone, b.zone, hzone, ?_, ?_⟩
  · rw [hinitiator]
    exact Zones.zoneOf?_of_mem_zonedNodes (Zones.nodup_build true true) (hwhole ha)
  · rw [htarget]
    exact Zones.zoneOf?_of_mem_zonedNodes (Zones.nodup_build true true) (hwhole hb)

/-! ## Command lines -/

/-- What the command line of a pair says besides the target. -/
def CrossSettings.flags (cross : CrossSettings) : List String :=
  (match cross.encapsulation with
    | .ipv4 => "--ipv4"
    | .native => "--use-gw") :: if cross.min then ["-k", "Test0"] else []

theorem CrossSettings.flags_are_words (cross : CrossSettings) :
    ∀ flag ∈ cross.flags, flag.toList ≠ [] ∧ ∀ c ∈ flag.toList, Text.isBlank c = false := by
  have hall : cross.flags.all (fun flag =>
      !flag.toList.isEmpty && flag.toList.all (!Text.isBlank ·)) = true := by
    unfold CrossSettings.flags
    cases cross.encapsulation <;> cases cross.min <;> decide
  simpa using hall

theorem target_is_word (node : UInt8) :
    ("--target=" ++ Text.hexByte node).toList ≠ [] ∧
      ∀ c ∈ ("--target=" ++ Text.hexByte node).toList, Text.isBlank c = false := by
  have hname : "--target=".toList.all (!Text.isBlank ·) = true := by decide
  rw [List.all_eq_true] at hname
  rw [String.toList_append]
  refine ⟨by simp, fun c hc => ?_⟩
  rcases List.mem_append.mp hc with hc | hc
  · simpa using hname c hc
  · exact Text.isBlank_eq_false_of_isHexDigit (Address.isHexDigit_of_mem_hexByte hc)

/-- The words of the script to run, the target, and the other flags. -/
theorem words_pairScript (settings : Settings) (cross : CrossSettings) (pair : NodePair) :
    Text.words (pairScript settings cross pair).toList =
      Text.words settings.runScript.toList ++
        (("--target=" ++ Text.hexByte pair.target) :: cross.flags).map String.toList := by
  have htext : (pairScript settings cross pair).toList = settings.runScript.toList ++
      ((("--target=" ++ Text.hexByte pair.target) :: cross.flags).map String.toList).flatMap
        (' ' :: ·) := by
    cases hencapsulation : cross.encapsulation <;> cases hmin : cross.min <;>
      simp [pairScript, CrossSettings.flags, hencapsulation, hmin, String.toList_append]
  rw [htext]
  apply Text.words_append_spaced
  intro arg harg
  obtain ⟨word, hword, rfl⟩ := List.mem_map.mp harg
  rcases List.mem_cons.mp hword with rfl | hflag
  · exact target_is_word pair.target
  · exact cross.flags_are_words word hflag

/-! ## The run of a pair -/

/--
The run that a planned pair starts accepts its target, for a plan of any part of the lab
and any source of randomness.  The one word of the command line that names a target is
read as the target of the pair.  Its host name is that of the node, which is not the node
that the run starts on, and the gateway check of the whole lab has no objection to the
two, whichever part of it the plan was made for.
-/
theorem plan_accepted (uba utm : Bool)
    (h : plan source (.build uba utm) s = some (.ok pairs, s')) (settings : Settings)
    (cross : CrossSettings) {pair : NodePair} (hpair : pair ∈ pairs) :
    ∃ text target,
      Text.words (pairScript settings cross pair).toList =
          Text.words settings.runScript.toList ++
            (("--target=" ++ text) :: cross.flags).map String.toList ∧
        Target.parse text = .ok target ∧
        target.hostname = .ok (nodeName pair.target) ∧
        nodeName pair.target ≠ pair.initiatorHost ∧
        checkGatewayZones pair.initiatorHost target = .ok () := by
  obtain ⟨i, j, hne, hinitiator, htarget⟩ := exists_zones_of_plan h hpair
  refine ⟨Text.hexByte pair.target, ⟨⟨0, 0, pair.target⟩⟩, words_pairScript settings cross pair,
    Target.parse_hexByte pair.target, Target.hostname_of_low pair.target, ?_, ?_⟩
  · intro hname
    have hsame : pair.target = pair.initiator := nodeName_injective hname
    rw [hsame, hinitiator] at htarget
    exact hne (Option.some.inj htarget)
  · apply checkGatewayZones_eq_ok
    intro self hself k hk hpeer
    obtain rfl : pair.initiator = self :=
      Option.some.inj ((hostNumber?_nodeName pair.initiator).symm.trans hself)
    have hi : i = k := Option.some.inj (hinitiator.symm.trans hk)
    have hj : j = k := Option.some.inj (htarget.symm.trans hpeer)
    exact hne (hi.trans hj.symm)

/-- A plan for the lab without its zone of its own, and a pair whose target may not start
a run. -/
theorem plan_accepted_node_eleven :
    ∃ pairs, plan (.cyclic #[0x80000000]) (.build true false) 0 = some (.ok pairs, 0) ∧
      ⟨0x08, 0x11⟩ ∈ pairs ∧
      ∀ (settings : Settings) (cross : CrossSettings), ∃ text target,
        Text.words (pairScript settings cross ⟨0x08, 0x11⟩).toList =
            Text.words settings.runScript.toList ++
              (("--target=" ++ text) :: cross.flags).map String.toList ∧
          Target.parse text = .ok target ∧ target.hostname = .ok (nodeName 0x11) ∧
          nodeName 0x11 ≠ nodeName 0x08 ∧
          checkGatewayZones (nodeName 0x08) target = .ok () := by
  have h : plan (.cyclic #[0x80000000]) (.build true false) 0 =
      some (.ok [⟨0x07, 0x01⟩, ⟨0x08, 0x11⟩, ⟨0x0c, 0x02⟩, ⟨0x06, 0x0b⟩, ⟨0x0a, 0x03⟩,
        ⟨0x05, 0x71⟩, ⟨0x09, 0x10⟩, ⟨0x04, 0x72⟩], 0) := by
    cbv
  exact ⟨_, h, by simp, fun settings cross => plan_accepted true false h settings cross (by simp)⟩

end TtpConformance
