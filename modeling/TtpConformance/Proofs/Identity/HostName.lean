import TtpConformance.Identity.Resolve
import TtpConformance.Proofs.Address.Target
import TtpConformance.Proofs.Zone.Pairing

/-!
# The names of nodes

A node is written in two ways, as the last part of its host name and as a target, and
both are its number in two hexadecimal digits.  Reading either gives the number back, so
whoever is handed a name or a target that was printed has the same node in mind as the
one who printed it.

The gateway check goes by these numbers.  It has no objection to nodes that the whole lab
has in different zones, and the zones of a part of the lab are zones of the whole.

## Main statements

* `hostNumber?_nodeName` — the number in a host name.
* `Target.parse_hexByte` — a node written as a target.
* `checkGatewayZones_eq_ok` — what the gateway check has no objection to.
* `Zones.zonedNodes_build_subset` — zones of a part of the lab.
-/

namespace TtpConformance

/-! ## Numbers in names -/

theorem Text.readNat_hexByte (o : UInt8) : readNat .hex 255 (hexByte o).toList = .ok o.toNat := by
  have hlt : o.toNat < 256 := o.toNat_lt
  have hhigh : o.toNat / 16 % 16 = o.toNat / 16 := by omega
  have hvalue : o.toNat / 16 * 16 + o.toNat % 16 = o.toNat := Nat.div_add_mod' _ _
  have hplus : '+' ∉ (hexByte o).toList := Address.not_mem_hexByte rfl o
  rw [Address.toList_hexByte] at hplus ⊢
  unfold readNat
  split
  · rename_i hnil
    cases hnil
  · rename_i hsign
    simp [hsign] at hplus
  · rename_i hsign
    simp [hsign] at hplus
  · have hfirst : ¬ 255 < o.toNat / 16 := by omega
    have hboth : ¬ 255 < o.toNat := by omega
    simp [readDigits, Radix.hex, hexDigitValue?_hexDigit, hhigh, hvalue, hfirst, hboth]

/-- What stands behind the last dash, where no further one follows. -/
theorem afterLastDash_append (front : List Char) {back : List Char} (h : '-' ∉ back) :
    afterLastDash (front ++ '-' :: back) = back := by
  have htake : ∀ c ∈ back.reverse, (c != '-') = true := by
    intro c hc
    have hne : c ≠ '-' := by
      rintro rfl
      exact h (List.mem_reverse.mp hc)
    simpa using hne
  rw [afterLastDash, List.reverse_append, List.reverse_cons, List.append_assoc,
    List.takeWhile_append_of_pos htake, List.singleton_append,
    List.takeWhile_cons_of_neg (by decide), List.append_nil, List.reverse_reverse]

theorem toList_nodeName (node : UInt8) :
    (nodeName node).toList = "node".toList ++ '-' :: (Text.hexByte node).toList := by
  rw [nodeName, String.toList_append]
  rfl

/-- The number in the host name of a node. -/
theorem hostNumber?_nodeName (node : UInt8) : hostNumber? (nodeName node) = some node := by
  rw [hostNumber?, toList_nodeName, afterLastDash_append _ (Address.not_mem_hexByte rfl node),
    Text.readNat_hexByte]
  simp

theorem nodeName_injective {node node' : UInt8} (h : nodeName node = nodeName node') :
    node = node' := by
  have hnumber := hostNumber?_nodeName node
  rw [h, hostNumber?_nodeName] at hnumber
  exact (Option.some.inj hnumber).symm

/-! ## Nodes as targets -/

namespace Target

/-- A node written as a target is that node, with nothing in front of its number. -/
theorem parse_hexByte (node : UInt8) : parse (Text.hexByte node) = .ok ⟨⟨0, 0, node⟩⟩ := by
  have hjoin : Text.hexByte node = Address.joinOctets ":" [node] := by
    simp [Address.joinOctets]
  have hoctets : ofList? [node] = some ⟨⟨0, 0, node⟩⟩ := rfl
  rw [hjoin]
  exact parse_joinOctets hoctets

theorem hostname_of_low (node : UInt8) :
    hostname ⟨⟨0, 0, node⟩⟩ = .ok (nodeName node) := if_pos ⟨rfl, rfl⟩

end Target

/-! ## Zones of the lab -/

/-- There is no objection to a gateway run unless both nodes are in one zone of the whole
lab. -/
theorem checkGatewayZones_eq_ok {hostname : String} {target : Target}
    (h : ∀ self, hostNumber? hostname = some self → ∀ i,
      (Zones.build true true).zoneOf? self = some i →
      (Zones.build true true).zoneOf? target.octets.third ≠ some i) :
    checkGatewayZones hostname target = .ok () := by
  unfold checkGatewayZones
  split
  · rfl
  · rename_i self hself
    dsimp only
    split
    · rename_i i j hi hj
      rw [if_neg]
      rintro rfl
      exact h self hself i hi hj
    · rfl

/-- A node of a part of the lab is in the same zone of the whole. -/
theorem Zones.zonedNodes_build_subset (uba utm : Bool) :
    (build uba utm).zonedNodes ⊆ (build true true).zonedNodes := by
  cases uba <;> cases utm <;> decide

/-- No node of the lab is in two zones. -/
theorem Zones.nodup_build (uba utm : Bool) : (build uba utm).zones.flatten.Nodup := by
  cases uba <;> cases utm <;> decide

end TtpConformance
