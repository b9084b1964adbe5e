import TtpConformance.Module.Activation
import TtpConformance.Proofs.Address.Ipv4
import TtpConformance.Proofs.Address.Octets
import TtpConformance.Proofs.Options.Allowed
import TtpConformance.Run.Command

/-!
# Arguments tell what the module is told

The module is loaded with arguments that stand in one line, with spaces between them and an
equals sign behind each key.  No key has either in it, and no value has a space if the device
has none; so the line is cut into its arguments, and each of them at its first equals sign
into a key and a value.  The values are printed numbers, prefixes and addresses, which are
read back.

Which keys there are is settled by the options: with native frames there is neither a prefix
nor a next hop to tell, and with IPv4 there always is a prefix.

## Main definitions

* `Activation.entries`, `Activation.line` — keys with their values, and the line of them.
* `Activation.readEntries?`, `Activation.decode?` — what is read from a line.
* `Activation.Asked` — a node of a run that options ask for.

## Main statements

* `Activation.readEntries?_line`, `Activation.decode?_line` — a line is read back.
* `Activation.Asked.keys_entries` — the keys that the options make.
* `Activation.line_determines` — lines tell the activations of runs, and what those of the
  two nodes have in common.
-/

namespace TtpConformance

namespace Activation

variable {a a' : Activation} {o : RunOptions} {c : RunContext} {node : NodeSettings}
  {nextHop : Option Mac}

/-! ## Keys and values -/

/-- An argument with a key and a value. -/
def entryText (entry : String × String) : String := entry.1 ++ "=" ++ entry.2

/-- What the module is told, key by key. -/
def entries (a : Activation) : List (String × String) :=
  [("verbose", Text.decimal a.verbose.toNat), ("dev", a.device),
      ("drop_pct", Text.decimal a.dropPercent.toNat)] ++
    if a.encapsulation.isIpv4 then
      ("ipv4", "1") :: (a.network.map fun n => ("prefix", n.text)).toList ++
        (a.nextHop.map fun m => ("nhmac", m.text)).toList
    else []

/-- The arguments as they stand in the command. -/
def line (a : Activation) : String := " ".intercalate a.arguments

theorem arguments_eq (a : Activation) : a.arguments = a.entries.map entryText := by
  rcases a with ⟨device, verbose, dropPercent, _ | _, _ | n, _ | m⟩ <;> rfl

theorem entries_ne_nil (a : Activation) : a.entries ≠ [] := List.cons_ne_nil _ _

/-! ## Reading a line -/

/-- The keys and values of a line: it is cut at spaces, and each part at its first equals sign. -/
def readEntries? (line : String) : Option (List (String × String)) :=
  (Text.splitBy (· == ' ') line.toList).mapM fun part =>
    (Text.cutAt '=' part).map fun (key, value) => (.ofList key, .ofList value)

/-- An octet in decimal. -/
def readOctet? (value : String) : Option UInt8 :=
  (Text.readNat .decimal 255 value.toList).toOption.map .ofNat

/-- A prefix. -/
def readNetwork? (value : String) : Option Ipv4Network := (Ipv4Network.parse value).toOption

/-- A hardware address. -/
def readMac? (value : String) : Option Mac := (Mac.parse value).toOption

/-- Reads the value of a key that need not be there. -/
def readOptional? {α : Type} (read : String → Option α) : Option String → Option (Option α)
  | none => some none
  | some value => (read value).map some

/-- What the module is told by a line. -/
def decode? (line : String) : Option Activation := do
  let entries ← readEntries? line
  let verbose ← (entries.lookup "verbose").bind readOctet?
  let device ← entries.lookup "dev"
  let dropPercent ← (entries.lookup "drop_pct").bind readOctet?
  let network ← readOptional? readNetwork? (entries.lookup "prefix")
  let nextHop ← readOptional? readMac? (entries.lookup "nhmac")
  let encapsulation := if entries.lookup "ipv4" = some "1" then .ipv4 else .native
  return { device, verbose, dropPercent, encapsulation, network, nextHop }

/-- What is written part by part is read part by part. -/
theorem mapM_map_eq_some {α β : Type} {read : β → Option α} {write : α → β} {xs : List α}
    (h : ∀ x ∈ xs, read (write x) = some x) : (xs.map write).mapM read = some xs := by
  induction xs with
  | nil => rfl
  | cons x xs ih =>
      rw [List.forall_mem_cons] at h
      rw [List.map_cons, List.mapM_cons, h.1, ih h.2]
      rfl

/-- Arguments are read back from their line if their keys have no equals signs and none of them
has a space. -/
theorem readEntries?_intercalate {entries : List (String × String)} (hne : entries ≠ [])
    (h : ∀ entry ∈ entries, '=' ∉ entry.1.toList ∧ ' ' ∉ entry.1.toList ∧ ' ' ∉ entry.2.toList) :
    readEntries? (" ".intercalate (entries.map entryText)) = some entries := by
  have htext : ∀ entry : String × String,
      (entryText entry).toList = entry.1.toList ++ '=' :: entry.2.toList := fun entry => by
    simp [entryText]
  have hspace : ∀ part ∈ entries.map fun entry => (entryText entry).toList, ' ' ∉ part := by
    intro part hpart
    obtain ⟨entry, hentry, rfl⟩ := List.mem_map.mp hpart
    obtain ⟨-, hkey, hvalue⟩ := h entry hentry
    simp [htext, hkey, hvalue]
  have hline : (" ".intercalate (entries.map entryText)).toList =
      [' '].intercalate (entries.map fun entry => (entryText entry).toList) := by
    rw [String.toList_intercalate, List.map_map]
    rfl
  rw [readEntries?, hline, Text.splitBy_intercalate hspace (by simpa using hne)]
  refine mapM_map_eq_some fun entry hentry => ?_
  rw [Text.cutAt_eq_some_iff.mpr ⟨htext entry, (h entry hentry).1⟩]
  simp

theorem space_not_mem_decimal (n : Nat) : ' ' ∉ (Text.decimal n).toList := by
  rw [Text.decimal, String.toList_ofList]
  exact Text.not_mem_digits rfl n

theorem space_not_mem_network (n : Ipv4Network) : ' ' ∉ n.text.toList := by
  have haddress : ' ' ∉ n.address.text.toList := Ipv4.not_mem_text (by decide) rfl n.address
  simp [Ipv4Network.text, haddress, space_not_mem_decimal]

theorem space_not_mem_mac (m : Mac) : ' ' ∉ m.text.toList := by
  intro hmem
  obtain hcolon | hdigit := Address.mem_joinOctets_cases hmem
  · cases hcolon
  · revert hdigit
    decide

/-- Neither a key nor a value has a space, if the device has none. -/
theorem entries_spec (hdevice : ' ' ∉ a.device.toList) :
    ∀ entry ∈ a.entries,
      '=' ∉ entry.1.toList ∧ ' ' ∉ entry.1.toList ∧ ' ' ∉ entry.2.toList := by
  rcases a with ⟨device, verbose, dropPercent, _ | _, _ | n, _ | m⟩ <;>
    simp [entries, Encapsulation.isIpv4, hdevice, space_not_mem_decimal, space_not_mem_network,
      space_not_mem_mac]

theorem readEntries?_line (hdevice : ' ' ∉ a.device.toList) :
    readEntries? a.line = some a.entries := by
  rw [line, arguments_eq]
  exact readEntries?_intercalate a.entries_ne_nil (entries_spec hdevice)

/-! ## Reading values -/

theorem readOctet?_decimal (n : UInt8) : readOctet? (Text.decimal n.toNat) = some n := by
  rw [readOctet?, Text.decimal, String.toList_ofList,
    Text.readNat_digits (Nat.le_of_lt_succ n.toNat_lt)]
  simp [Except.toOption]

theorem readNetwork?_text (n : Ipv4Network) : readNetwork? n.text = some n := by
  rw [readNetwork?, Ipv4Network.parse_text]
  rfl

theorem readMac?_text (m : Mac) : readMac? m.text = some m := by
  rw [readMac?, Mac.parse_text]
  rfl

theorem readOptional?_map {α : Type} {read : String → Option α} {write : α → String}
    (h : ∀ x, read (write x) = some x) (given : Option α) :
    readOptional? read (given.map write) = some given := by
  cases given with
  | none => rfl
  | some x => simp [readOptional?, h]

/-- What is told only with IPv4 is told only with IPv4. -/
def Carried (a : Activation) : Prop :=
  a.encapsulation = .native → a.network = none ∧ a.nextHop = none

/-- The values of keys. -/
theorem lookup_entries (h : a.Carried) :
    a.entries.lookup "verbose" = some (Text.decimal a.verbose.toNat) ∧
    a.entries.lookup "dev" = some a.device ∧
    a.entries.lookup "drop_pct" = some (Text.decimal a.dropPercent.toNat) ∧
    (a.entries.lookup "ipv4" = some "1" ↔ a.encapsulation = .ipv4) ∧
    a.entries.lookup "prefix" = a.network.map Ipv4Network.text ∧
    a.entries.lookup "nhmac" = a.nextHop.map Mac.text := by
  rcases a with ⟨device, verbose, dropPercent, _ | _, network, nextHop⟩
  · obtain ⟨rfl, rfl⟩ : network = none ∧ nextHop = none := h rfl
    simp [entries, Encapsulation.isIpv4, List.lookup_cons]
  · cases network <;> cases nextHop <;> simp [entries, Encapsulation.isIpv4, List.lookup_cons]

/-- A line is read back. -/
theorem decode?_line (h : a.Carried) (hdevice : ' ' ∉ a.device.toList) :
    decode? a.line = some a := by
  obtain ⟨hverbose, hdev, hdrop, hipv4, hprefix, hnhmac⟩ := lookup_entries h
  have hencapsulation :
      (if a.entries.lookup "ipv4" = some "1" then Encapsulation.ipv4 else .native) =
        a.encapsulation := by
    split
    · rename_i hswitch
      exact (hipv4.mp hswitch).symm
    · rename_i hswitch
      cases hnative : a.encapsulation with
      | native => rfl
      | ipv4 => exact absurd (hipv4.mpr hnative) hswitch
  simp only [decode?, readEntries?_line hdevice, hverbose, hdev, hdrop, hencapsulation, hprefix,
    hnhmac, readOctet?_decimal, readOptional?_map readNetwork?_text, readOptional?_map readMac?_text,
    Option.bind_eq_bind, Option.bind_some, Option.pure_def]

/-! ## The nodes of a run -/

/-- A node of a run that options ask for, with the next hop that they give it. -/
inductive Asked : RunOptions → RunContext → NodeSettings → Option Mac → Prop
  | self {o : RunOptions} {c : RunContext} (h : o.validate = .ok c) : Asked o c c.self o.selfNextHop
  | peer {o : RunOptions} {c : RunContext} (h : o.validate = .ok c) : Asked o c c.peer o.peerNextHop

theorem Asked.carried (h : Asked o c node nextHop) : (ofContext c node).Carried := by
  intro hnative
  cases h with
  | self h =>
      obtain ⟨hself, -, hhop, -⟩ := (RunOptions.follows_of_validate h).native hnative
      exact ⟨hself, hhop⟩
  | peer h =>
      obtain ⟨-, hpeer, -, hhop⟩ := (RunOptions.follows_of_validate h).native hnative
      exact ⟨hpeer, hhop⟩

theorem Asked.encapsulation_iff (h : Asked o c node nextHop) :
    c.encapsulation = .ipv4 ↔ o.ipv4 = true := by
  cases h with
  | self h | peer h => exact (RunOptions.follows_of_validate h).encapsulation

/-- With IPv4 each node has a prefix. -/
theorem Asked.exists_network (h : Asked o c node nextHop) (hipv4 : c.encapsulation = .ipv4) :
    ∃ n, node.network = some n := by
  cases h with
  | self h =>
      obtain ⟨own, _, hself, -⟩ := (RunOptions.follows_of_validate h).networks hipv4
      exact ⟨own, hself⟩
  | peer h =>
      obtain ⟨_, other, -, hpeer, -⟩ := (RunOptions.follows_of_validate h).networks hipv4
      exact ⟨other, hpeer⟩

/-- The next hop of a node is the one that is given. -/
theorem Asked.nextHop_eq (h : Asked o c node nextHop) : node.nextHop = nextHop := by
  cases h with
  | self h | peer h =>
      obtain ⟨_, _, _, -, -, -, -, -, rfl⟩ := RunOptions.validate_eq_ok_iff.mp h
      rfl

/-- The keys that options make for a node. -/
def keys (ipv4 nextHop : Bool) : List String :=
  ["verbose", "dev", "drop_pct"] ++
    if ipv4 then ["ipv4", "prefix"] ++ if nextHop then ["nhmac"] else [] else []

theorem Asked.keys_entries (h : Asked o c node nextHop) :
    (ofContext c node).entries.map Prod.fst = keys o.ipv4 nextHop.isSome := by
  obtain rfl := h.nextHop_eq
  cases hencapsulation : c.encapsulation with
  | native =>
      have hoff : o.ipv4 = false := by
        rw [Bool.eq_false_iff, ne_eq, ← h.encapsulation_iff, hencapsulation]
        simp
      simp [entries, ofContext, hencapsulation, Encapsulation.isIpv4, keys, hoff]
  | ipv4 =>
      obtain ⟨n, hn⟩ := h.exists_network hencapsulation
      have hon : o.ipv4 = true := h.encapsulation_iff.mp hencapsulation
      cases hhop : node.nextHop <;>
        simp [entries, ofContext, hencapsulation, Encapsulation.isIpv4, keys, hon, hn, hhop]

/-- What the two nodes of a run are told alike. -/
theorem forall₂_entries (h : o.validate = .ok c) :
    List.Forall₂ (fun own other => own.1 = other.1 ∧
        (own.1 ∉ ["dev", "prefix", "nhmac"] → own.2 = other.2))
      (ofContext c c.self).entries (ofContext c c.peer).entries := by
  have hfollows := RunOptions.follows_of_validate h
  cases hencapsulation : c.encapsulation with
  | native => simp [entries, ofContext, hencapsulation, Encapsulation.isIpv4]
  | ipv4 =>
      obtain ⟨own, other, hself, hpeer, -⟩ := hfollows.networks hencapsulation
      have hhops := hfollows.nextHops
      cases hown : c.self.nextHop with
      | none =>
          rw [hown] at hhops
          have hother : c.peer.nextHop = none := by simpa using hhops.symm
          simp [entries, ofContext, hencapsulation, Encapsulation.isIpv4, hself, hpeer, hown, hother]
      | some m =>
          rw [hown] at hhops
          obtain ⟨m', hother⟩ := Option.isSome_iff_exists.mp hhops.symm
          simp [entries, ofContext, hencapsulation, Encapsulation.isIpv4, hself, hpeer, hown, hother]

/--
The line of arguments of a node tells what its module is told: read back, cut at spaces and at
first equals signs, it gives the verbosity, the device, the percentage, the encapsulation, the
prefix and the next hop, so lines of any two runs are the same only if all of that is.  With
native frames there are the first three keys only; with IPv4 the switch is on, there is a
prefix, and there is a next hop if one is given.  The two nodes of a run have the same keys,
and other values only of the device, the prefix and the next hop.
-/
theorem line_determines :
    (∀ o c node nextHop, Asked o c node nextHop → ' ' ∉ node.device.toList →
      (∀ path, (Command.loadModule path (ofContext c node).arguments).script =
        "sudo insmod " ++ path ++ " " ++ (ofContext c node).line) ∧
      decode? (ofContext c node).line = some (ofContext c node) ∧
      ∃ entries, readEntries? (ofContext c node).line = some entries ∧
        entries.map Prod.fst = keys o.ipv4 nextHop.isSome ∧
        (o.ipv4 = true → entries.lookup "ipv4" = some "1")) ∧
    (∀ o c node nextHop o' c' node' nextHop', Asked o c node nextHop →
      Asked o' c' node' nextHop' → ' ' ∉ node.device.toList → ' ' ∉ node'.device.toList →
      (ofContext c node).line = (ofContext c' node').line → ofContext c node = ofContext c' node') ∧
    ∀ (o : RunOptions) c, o.validate = .ok c → ' ' ∉ c.self.device.toList → ' ' ∉ c.peer.device.toList →
      ∃ own other, readEntries? (ofContext c c.self).line = some own ∧
        readEntries? (ofContext c c.peer).line = some other ∧
        List.Forall₂ (fun own other => own.1 = other.1 ∧
          (own.1 ∉ ["dev", "prefix", "nhmac"] → own.2 = other.2)) own other := by
  refine ⟨fun o c node nextHop h hdevice => ⟨fun path => rfl, ?_, ?_⟩, ?_, ?_⟩
  · exact decode?_line h.carried hdevice
  · refine ⟨_, readEntries?_line hdevice, h.keys_entries, fun hipv4 => ?_⟩
    exact (lookup_entries h.carried).2.2.2.1.mpr (h.encapsulation_iff.mpr hipv4)
  · intro o c node nextHop o' c' node' nextHop' h h' hdevice hdevice' hline
    have hread := decode?_line h.carried hdevice
    rw [hline, decode?_line h'.carried hdevice'] at hread
    exact (Option.some.inj hread).symm
  · intro o c h hself hpeer
    exact ⟨_, _, readEntries?_line hself, readEntries?_line hpeer, forall₂_entries h⟩

/-- A run with IPv4 and next hops, and its peer without them: the peer's line is read back, its
keys are those of the local node, and it is not the line of any node with native frames. -/
theorem line_determines_limit :
    ∃ c c', RunOptions.toTheLimit.validate = .ok c ∧
      RunOptions.validate { target := some "4" } = .ok c' ∧
      decode? (ofContext c c.peer).line = some (ofContext c c.peer) ∧
      (ofContext c c.peer).nextHop = some (.ofLow ⟨0, 0, 2⟩) ∧
      (∃ own other, readEntries? (ofContext c c.self).line = some own ∧
        readEntries? (ofContext c c.peer).line = some other ∧
        own.map Prod.fst = ["verbose", "dev", "drop_pct", "ipv4", "prefix", "nhmac"] ∧
        other.map Prod.fst = own.map Prod.fst) ∧
      (ofContext c c.peer).line ≠ (ofContext c' c'.peer).line := by
  obtain ⟨hline, hinjective, hnodes⟩ := line_determines
  obtain ⟨c, hc⟩ : ∃ c, RunOptions.toTheLimit.validate = .ok c := ⟨_, rfl⟩
  obtain ⟨c', hc'⟩ : ∃ c, RunOptions.validate { target := some "4" } = .ok c := ⟨_, rfl⟩
  have hpeer : ' ' ∉ c.peer.device.toList := by
    cases hc
    decide
  have hpeer' : ' ' ∉ c'.peer.device.toList := by
    cases hc'
    decide
  have hself : ' ' ∉ c.self.device.toList := by
    cases hc
    decide
  obtain ⟨-, hdecode, -⟩ := hline _ _ _ _ (.peer hc) hpeer
  obtain ⟨-, -, own, hown, hkeys, -⟩ := hline _ _ _ _ (.self hc) hself
  obtain ⟨own', other, hown', hother, hsame⟩ := hnodes _ _ hc hself hpeer
  obtain rfl : own = own' := Option.some.inj (hown.symm.trans hown')
  have hfirst : own.map Prod.fst = other.map Prod.fst := by
    rw [← List.forall₂_eq_eq_eq, List.forall₂_map_left_iff, List.forall₂_map_right_iff]
    exact hsame.imp fun _ _ h => h.1
  refine ⟨c, c', hc, hc', hdecode, ?_, ⟨own, other, hown, hother, hkeys, hfirst.symm⟩, fun heq => ?_⟩
  · cases hc
    rfl
  · have hactivation := hinjective _ _ _ _ _ _ _ _ (.peer hc) (.peer hc') hpeer hpeer' heq
    have hencapsulation := congrArg Activation.encapsulation hactivation
    cases hc
    cases hc'
    cases hencapsulation

end Activation

end TtpConformance
