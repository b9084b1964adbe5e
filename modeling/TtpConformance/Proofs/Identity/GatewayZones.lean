import TtpConformance.Proofs.Identity.HostName
import TtpConformance.Proofs.Identity.Resolve

/-!
# Gateway runs inside a zone

The gateway check has nothing but a host name to know the local node by.  By the naming
convention a node's name ends with a dash and the node's number, and two nodes that are
numbered in one zone of the whole lab may not take part in a gateway run.

Every name of the convention is read as its number, so no run inside a zone gets through.
More names are read as numbers than the convention has, though: one without any dash, which
counts as a whole, and one with a plus sign behind its last dash.  A run from such a node is
refused like one from the node that it is taken for.

## Main definitions

* `NamesNode` — a host name with the number of a node, by the naming convention.
* `ReadAsNode` — a host name that is taken for the one of a node.
* `Zones.Share` — two nodes of one zone.

## Main statements

* `hostNumber?_eq_some_iff` — which names are read as numbers.
* `checkGatewayZones_eq_error_iff` — which runs are refused.
* `checkGatewayZones_decides` — the check, with and without the convention.
-/

namespace TtpConformance

/-! ## Zones -/

/-- Two nodes of one zone. -/
def Zones.Share (z : Zones) (a b : UInt8) : Prop := ∃ zone ∈ z.zones, a ∈ zone ∧ b ∈ zone

instance (z : Zones) (a b : UInt8) : Decidable (z.Share a b) :=
  inferInstanceAs (Decidable (∃ zone ∈ z.zones, a ∈ zone ∧ b ∈ zone))

/-- With no node in two zones, nodes share a zone exactly if they are found in the same. -/
theorem Zones.share_iff {z : Zones} (hz : z.zones.flatten.Nodup) {a b : UInt8} :
    z.Share a b ↔ ∃ i, z.zoneOf? a = some i ∧ z.zoneOf? b = some i := by
  constructor
  · rintro ⟨zone, hzone, ha, hb⟩
    obtain ⟨i, hi⟩ := List.mem_iff_getElem?.mp hzone
    have hlisted : ∀ node ∈ zone, (⟨node, i⟩ : ZonedNode) ∈ z.zonedNodes := fun node hnode =>
      List.mem_flatMap.mpr ⟨(zone, i), List.mem_zipIdx_iff_getElem?.mpr hi,
        List.mem_map.mpr ⟨node, hnode, rfl⟩⟩
    exact ⟨i, zoneOf?_of_mem_zonedNodes hz (hlisted a ha),
      zoneOf?_of_mem_zonedNodes hz (hlisted b hb)⟩
  · rintro ⟨i, ha, hb⟩
    obtain ⟨hlt, hina, -⟩ := List.findIdx?_eq_some_iff_getElem.mp ha
    obtain ⟨_, hinb, -⟩ := List.findIdx?_eq_some_iff_getElem.mp hb
    exact ⟨z.zones[i], List.getElem_mem hlt, by simpa using hina, by simpa using hinb⟩

/-! ## Names -/

/-- A name with a dash and a number behind its last dash, in hexadecimal digits. -/
def NamesNode (hostname : String) (node : UInt8) : Prop :=
  ∃ front digits, hostname.toList = front ++ '-' :: digits ∧
    Text.Radix.hex.Writes digits node.toNat

/-- The text behind the last dash, or a whole text without dashes. -/
def IsLastPart (text part : List Char) : Prop :=
  '-' ∉ part ∧ (text = part ∨ ∃ front, text = front ++ '-' :: part)

/-- A name whose last part is a number, with or without a plus sign. -/
def ReadAsNode (hostname : String) (node : UInt8) : Prop :=
  ∃ part, IsLastPart hostname.toList part ∧ Text.Radix.hex.IsNumeral part node.toNat

theorem dash_not_mem_of_writes {digits : List Char} {n : Nat}
    (h : Text.Radix.hex.Writes digits n) : '-' ∉ digits :=
  Text.not_mem_of_forall rfl h.isDigit

theorem afterLastDash_eq_self {text : List Char} (h : '-' ∉ text) : afterLastDash text = text := by
  have htake : ∀ c ∈ text.reverse, (c != '-') = true := by
    intro c hc
    have hne : c ≠ '-' := fun heq => h (heq ▸ List.mem_reverse.mp hc)
    simpa using hne
  have hall : text.reverse.takeWhile (· != '-') = text.reverse :=
    List.takeWhile_eq_self_iff.mpr htake
  rw [afterLastDash, hall, List.reverse_reverse]

/-- A text has one last part. -/
theorem afterLastDash_eq_iff {text part : List Char} :
    afterLastDash text = part ↔ IsLastPart text part := by
  have hread : ∀ part, IsLastPart text part → afterLastDash text = part := by
    rintro part ⟨hdash, rfl | ⟨front, rfl⟩⟩
    · exact afterLastDash_eq_self hdash
    · exact afterLastDash_append front hdash
  constructor
  · rintro rfl
    by_cases hmem : '-' ∈ text
    · obtain ⟨back, front, hreverse, hback⟩ :=
        List.eq_append_cons_of_mem (List.mem_reverse.mpr hmem)
      have htext : text = front.reverse ++ '-' :: back.reverse := by
        rw [← List.reverse_reverse text, hreverse]
        simp
      have hpart : IsLastPart text back.reverse :=
        ⟨fun h => hback (List.mem_reverse.mp h), .inr ⟨front.reverse, htext⟩⟩
      rwa [hread _ hpart]
    · rw [afterLastDash_eq_self hmem]
      exact ⟨hmem, .inl rfl⟩
  · exact hread part

/-- Which names are read as numbers. -/
theorem hostNumber?_eq_some_iff {hostname : String} {node : UInt8} :
    hostNumber? hostname = some node ↔ ReadAsNode hostname node := by
  have hread : ∀ n, Text.readNat .hex 255 (afterLastDash hostname.toList) = .ok n ↔
      Text.Radix.hex.IsNumeral (afterLastDash hostname.toList) n ∧ n ≤ 255 := fun n =>
    Text.readNat_eq_ok_iff (by decide) (by decide)
  have hnumber : hostNumber? hostname = some node ↔
      Text.Radix.hex.IsNumeral (afterLastDash hostname.toList) node.toNat := by
    have hle : node.toNat ≤ 255 := Nat.le_of_lt_succ node.toNat_lt
    rw [hostNumber?]
    constructor
    · intro h
      split at h
      · rename_i n hn
        cases h
        obtain ⟨hnumeral, hbound⟩ := (hread n).mp hn
        rwa [UInt8.toNat_ofNat_of_lt' (Nat.lt_succ_of_le hbound)]
      · cases h
    · intro h
      rw [(hread node.toNat).mpr ⟨h, hle⟩]
      simp
  rw [hnumber]
  constructor
  · exact fun h => ⟨_, afterLastDash_eq_iff.mp rfl, h⟩
  · rintro ⟨part, hpart, h⟩
    rwa [afterLastDash_eq_iff.mpr hpart]

/-- A name of the convention is taken for what it is. -/
theorem NamesNode.readAsNode {hostname : String} {node : UInt8} (h : NamesNode hostname node) :
    ReadAsNode hostname node := by
  obtain ⟨front, digits, hname, hwrites⟩ := h
  exact ⟨digits, ⟨dash_not_mem_of_writes hwrites, .inr ⟨front, hname⟩⟩, digits, .inl rfl,
    hwrites⟩

/-- With a dash in it, and no plus sign behind the last one, a name that is read as a number
is a name of the convention. -/
theorem ReadAsNode.namesNode {hostname : String} {node : UInt8} (h : ReadAsNode hostname node)
    (hdash : '-' ∈ hostname.toList)
    (hplus : ∀ digits, ¬ IsLastPart hostname.toList ('+' :: digits)) :
    NamesNode hostname node := by
  obtain ⟨part, hpart, digits, rfl | rfl, hwrites⟩ := h
  · obtain hwhole | ⟨front, hname⟩ := hpart.2
    · exact absurd (hwhole ▸ hdash) hpart.1
    · exact ⟨front, part, hname, hwrites⟩
  · exact absurd hpart (hplus digits)

/-! ## The check -/

/-- A run is refused if the local node is taken for one of the target's zone. -/
theorem checkGatewayZones_eq_error_iff {hostname : String} {target : Target} :
    (∃ reason, checkGatewayZones hostname target = .error (.configuration reason)) ↔
      ∃ node, ReadAsNode hostname node ∧
        (Zones.build true true).Share node target.octets.third := by
  simp only [← hostNumber?_eq_some_iff, Zones.share_iff (Zones.nodup_build true true)]
  constructor
  · rintro ⟨reason, h⟩
    unfold checkGatewayZones at h
    split at h
    · cases h
    · rename_i self hself
      dsimp only at h
      split at h
      · rename_i i j hi hj
        split at h
        · rename_i hsame
          exact ⟨self, hself, i, hi, hsame ▸ hj⟩
        · cases h
      · cases h
  · rintro ⟨node, hnode, i, hi, hj⟩
    simp only [checkGatewayZones, hnode, hi, hj, if_true]
    exact ⟨_, rfl⟩

/--
The gateway check, for every host name and target.  It refuses a run, as badly configured,
exactly if the local node is taken for one that has a zone of the whole lab in common with
the target, and else has no objection.  A node that the convention numbers is never
overlooked.  With a dash in its name, and no plus sign behind the last one, a node is taken
for nothing but what the convention says.
-/
theorem checkGatewayZones_decides (hostname : String) (target : Target) :
    ((∃ reason, checkGatewayZones hostname target = .error (.configuration reason)) ↔
        ∃ node, ReadAsNode hostname node ∧
          (Zones.build true true).Share node target.octets.third) ∧
      (checkGatewayZones hostname target = .ok () ∨
        ∃ reason, checkGatewayZones hostname target = .error (.configuration reason)) ∧
      (∀ node, NamesNode hostname node →
        (Zones.build true true).Share node target.octets.third →
        ∃ reason, checkGatewayZones hostname target = .error (.configuration reason)) ∧
      ('-' ∈ hostname.toList → (∀ digits, ¬ IsLastPart hostname.toList ('+' :: digits)) →
        ((∃ reason, checkGatewayZones hostname target = .error (.configuration reason)) ↔
          ∃ node, NamesNode hostname node ∧
            (Zones.build true true).Share node target.octets.third)) := by
  refine ⟨checkGatewayZones_eq_error_iff, ?_, fun node hnames hshare => ?_,
    fun hdash hplus => ?_⟩
  · cases h : checkGatewayZones hostname target with
    | ok _ => exact .inl rfl
    | error e =>
        obtain ⟨reason, rfl⟩ := configuration_of_checkGatewayZones_eq_error h
        exact .inr ⟨reason, rfl⟩
  · exact checkGatewayZones_eq_error_iff.mpr ⟨node, hnames.readAsNode, hshare⟩
  · rw [checkGatewayZones_eq_error_iff]
    exact exists_congr fun node => and_congr_left fun _ =>
      ⟨fun h => h.namesNode hdash hplus, NamesNode.readAsNode⟩

/-- A name with two numbers in it: the last one counts, so the node has a zone in common with
the tenth node and none with the first. -/
theorem checkGatewayZones_decides_last_number :
    '-' ∈ "lab-01-0B".toList ∧ (∀ digits, ¬ IsLastPart "lab-01-0B".toList ('+' :: digits)) ∧
      (∃ reason, checkGatewayZones "lab-01-0B" ⟨⟨0, 0, 0x0a⟩⟩ = .error (.configuration reason)) ∧
      checkGatewayZones "lab-01-0B" ⟨⟨0, 0, 0x01⟩⟩ = .ok () := by
  have hdash : '-' ∈ "lab-01-0B".toList := by decide
  have hpart : afterLastDash "lab-01-0B".toList = ['0', 'B'] := by decide
  have hplus : ∀ digits, ¬ IsLastPart "lab-01-0B".toList ('+' :: digits) := by
    intro digits h
    rw [← afterLastDash_eq_iff, hpart] at h
    cases h
  have hnumber : hostNumber? "lab-01-0B" = some 0x0b := by decide
  have hnames : NamesNode "lab-01-0B" 0x0b :=
    (hostNumber?_eq_some_iff.mp hnumber).namesNode hdash hplus
  obtain ⟨-, -, hrefused, -⟩ := checkGatewayZones_decides "lab-01-0B" ⟨⟨0, 0, 0x0a⟩⟩
  obtain ⟨-, hanswer, -, hconvention⟩ := checkGatewayZones_decides "lab-01-0B" ⟨⟨0, 0, 0x01⟩⟩
  refine ⟨hdash, hplus, hrefused 0x0b hnames (by decide), ?_⟩
  rcases hanswer with hok | hrefusal
  · exact hok
  · obtain ⟨node, hnode, hshare⟩ := (hconvention hdash hplus).mp hrefusal
    have hread := hostNumber?_eq_some_iff.mpr hnode.readAsNode
    obtain rfl : (0x0b : UInt8) = node := Option.some.inj (hnumber.symm.trans hread)
    exact absurd hshare (by decide)

/-- The convention alone does not say who is refused: a name without a dash and one with a
plus sign are taken for nodes. -/
theorem checkGatewayZones_beyond_convention :
    ¬ ((∃ reason, checkGatewayZones "a" ⟨⟨0, 0, 0x0b⟩⟩ = .error (.configuration reason)) ↔
        ∃ node, NamesNode "a" node ∧ (Zones.build true true).Share node 0x0b) ∧
      ¬ ((∃ reason, checkGatewayZones "node-+1" ⟨⟨0, 0, 0x02⟩⟩ = .error (.configuration reason)) ↔
        ∃ node, NamesNode "node-+1" node ∧ (Zones.build true true).Share node 0x02) := by
  have hnone : ∀ {hostname : String} {part : List Char}, afterLastDash hostname.toList = part →
      part.head? = some '+' ∨ '-' ∉ hostname.toList → ∀ node, ¬ NamesNode hostname node := by
    rintro hostname part hpart hbad node ⟨front, digits, hname, hwrites⟩
    have hdigits : afterLastDash hostname.toList = digits :=
      afterLastDash_eq_iff.mpr ⟨dash_not_mem_of_writes hwrites, .inr ⟨front, hname⟩⟩
    obtain rfl := hdigits.symm.trans hpart
    rcases hbad with hsign | hdash
    · have hfirst := hwrites.isDigit '+' (List.mem_of_head? hsign)
      exact absurd hfirst (by decide)
    · exact hdash (hname ▸ by simp)
  refine ⟨fun h => ?_, fun h => ?_⟩
  · have hread : ReadAsNode "a" 0x0a := hostNumber?_eq_some_iff.mp (by decide)
    obtain ⟨node, hnames, -⟩ := h.mp (checkGatewayZones_eq_error_iff.mpr ⟨0x0a, hread, by decide⟩)
    exact hnone rfl (.inr (by decide)) node hnames
  · have hread : ReadAsNode "node-+1" 0x01 := hostNumber?_eq_some_iff.mp (by decide)
    obtain ⟨node, hnames, -⟩ := h.mp (checkGatewayZones_eq_error_iff.mpr ⟨0x01, hread, by decide⟩)
    exact hnone rfl (.inl (by decide)) node hnames

end TtpConformance
