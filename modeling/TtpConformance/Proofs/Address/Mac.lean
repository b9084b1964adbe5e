import TtpConformance.Proofs.Address.Groups

/-!
# Hardware addresses as they are written

A hardware address is written as six groups, with white space around them.  What is anything
else is refused, and the refusal quotes it without the white space.  Written with two
lower-case digits in each group, an address is as it is printed.

An address can be read in one pass over the pieces of a text, with a table of six places and
a count of the octets that are in their places already.  A piece that is no group ends the
pass, and so does a seventh one; no octet is ever left without a place, however many pieces
there are.

## Main definitions

* `Mac.IsWritten` — a text of six groups.
* `Mac.fill`, `Mac.parsePlaced` — the pass, which has no answer if it runs out of places.

## Main statements

* `Mac.fill_eq_ok`, `Mac.fill_eq_refused` — how the pass ends.
* `Mac.parsePlaced_eq` — the pass always has an answer, and reads what is written.
* `Mac.parse_groups` — what is an address, and how it is printed.
-/

namespace TtpConformance

/-- A group is a number of hexadecimal digits that is at most 255. -/
theorem Address.readNat_hex_of_hexGroup? {group : List Char} {o : UInt8}
    (h : hexGroup? group = some o) : Text.readNat .hex 255 group = .ok o.toNat := by
  obtain ⟨hgroup, hvalue⟩ := hexGroup?_eq_some_iff.mp h
  have hne : group ≠ [] := by
    rintro rfl
    simp [IsGroup] at hgroup
  have hwrites : Text.Radix.hex.Writes group o.toNat := ⟨hne, hgroup.2, hvalue.symm⟩
  exact (Text.readNat_eq_ok_iff (by decide) (by decide)).mpr
    ⟨⟨group, .inl rfl, hwrites⟩, Nat.le_of_lt_succ o.toNat_lt⟩

namespace Mac

/-- A text of six groups. -/
structure IsWritten (text : List Char) (groups : List (List Char)) : Prop extends
    Address.IsSpelling text groups where
  length_eq : groups.length = 6

/-- What an address is refused with. -/
def refusal (s : String) : RunError :=
  .parse ("invalid MAC address '" ++ .ofList (Text.trim s.toList) ++ "'")

/-! ## One pass over the pieces -/

/-- What ends a pass before the last piece. -/
inductive Stop where
  /-- A piece is no group, or there are six octets already. -/
  | refused
  /-- There is no place for an octet. -/
  | noPlace
  deriving DecidableEq, Repr

/-- Puts the octets of further pieces in their places, behind `count` octets. -/
def fill (octets : Vector UInt8 6) (count : Nat) :
    List (List Char) → Except Stop (Vector UInt8 6 × Nat)
  | [] => .ok (octets, count)
  | piece :: pieces =>
    if count = 6 ∨ ¬Address.IsGroup piece then .error .refused
    else
      match Text.readNat .hex 255 piece with
      | .error _ => .error .refused
      | .ok value =>
        if h : count < 6 then fill (octets.set count (UInt8.ofNat value) h) (count + 1) pieces
        else .error .noPlace

/-- The address of six octets in their places. -/
def ofPlaces (octets : Vector UInt8 6) : Mac :=
  ⟨⟨octets[0], octets[1], octets[2]⟩, ⟨octets[3], octets[4], octets[5]⟩⟩

/-- Reads an address in one pass; there is no answer if the pass runs out of places. -/
def parsePlaced (s : String) : Option (Except RunError Mac) :=
  match fill (.replicate 6 0) 0 (Address.colonPieces (Text.trim s.toList)) with
  | .error .noPlace => none
  | .error .refused => some (.error (refusal s))
  | .ok (octets, count) => some (if count ≠ 6 then .error (refusal s) else .ok (ofPlaces octets))

section Fill

variable {octets : Vector UInt8 6} {count : Nat} {piece : List Char} {pieces : List (List Char)}
  {o : UInt8} {read : List UInt8}

theorem fill_cons_of_group (h : count < 6) (ho : Address.hexGroup? piece = some o) :
    fill octets count (piece :: pieces) = fill (octets.set count o h) (count + 1) pieces := by
  have hgroup := (Address.hexGroup?_eq_some_iff.mp ho).1
  rw [fill, if_neg (by simp [hgroup, Nat.ne_of_lt h]), Address.readNat_hex_of_hexGroup? ho]
  simp only [UInt8.ofNat_toNat, h, dite_true]

theorem fill_cons_refused (h : count = 6 ∨ Address.hexGroup? piece = none) :
    fill octets count (piece :: pieces) = .error .refused := by
  have hrefused : count = 6 ∨ ¬Address.IsGroup piece := by
    refine h.imp_right fun hnone hgroup => ?_
    obtain ⟨o, ho⟩ := hgroup.exists_octet
    cases hnone.symm.trans ho
  rw [fill, if_pos hrefused]

theorem take_set_succ (h : count < 6) :
    (octets.set count o h).toList.take (count + 1) = octets.toList.take count ++ [o] := by
  have hlength : count < octets.toList.length := by simpa using h
  rw [Vector.toList_set, List.take_set, List.take_succ_eq_append_getElem hlength]
  rw [List.set_append_right _ _ (by simp)]
  simp [List.length_take, Nat.min_eq_left (Nat.le_of_lt h)]

/-- As many groups as there are places left get their octets behind those that are there. -/
theorem fill_eq_ok (octets : Vector UInt8 6) (count : Nat)
    (hread : pieces.mapM Address.hexGroup? = some read)
    (h : count + read.length ≤ 6) :
    ∃ placed : Vector UInt8 6, fill octets count pieces = .ok (placed, count + read.length) ∧
      placed.toList.take (count + read.length) = octets.toList.take count ++ read := by
  induction pieces generalizing octets count read with
  | nil =>
      obtain rfl : [] = read := Option.some.inj hread
      exact ⟨octets, rfl, by simp⟩
  | cons piece pieces ih =>
      rw [List.mapM_cons] at hread
      simp only [Option.bind_eq_bind, Option.bind_eq_some_iff, Option.pure_def,
        Option.some.injEq] at hread
      obtain ⟨o, ho, rest, hrest, rfl⟩ := hread
      rw [List.length_cons] at h
      have hcount : count < 6 := by omega
      obtain ⟨placed, hfill, htake⟩ :=
        ih (octets.set count o hcount) (count + 1) hrest (by omega)
      have hlength : count + (o :: rest).length = count + 1 + rest.length := by
        rw [List.length_cons]
        omega
      refine ⟨placed, ?_, ?_⟩
      · rw [fill_cons_of_group hcount ho, hfill, hlength]
      · rw [hlength, htake, take_set_succ, List.append_assoc]
        rfl

/-- Pieces that are no groups, or more of them than there are places left, are refused. -/
theorem fill_eq_refused (octets : Vector UInt8 6) (hcount : count ≤ 6)
    (h : ∀ read, pieces.mapM Address.hexGroup? = some read → 6 < count + read.length) :
    fill octets count pieces = .error .refused := by
  induction pieces generalizing octets count with
  | nil => exact absurd (h [] rfl) (Nat.not_lt.mpr hcount)
  | cons piece pieces ih =>
      by_cases hstop : count = 6 ∨ Address.hexGroup? piece = none
      · exact fill_cons_refused hstop
      · obtain ⟨hne, hsome⟩ := not_or.mp hstop
        obtain ⟨o, ho⟩ := Option.ne_none_iff_exists'.mp hsome
        have hlt : count < 6 := Nat.lt_of_le_of_ne hcount hne
        rw [fill_cons_of_group hlt ho]
        refine ih _ hlt fun read hread => ?_
        have hlonger := h (o :: read) (by rw [List.mapM_cons, ho, hread]; rfl)
        rw [List.length_cons] at hlonger
        omega

end Fill

/-! ## What is read -/

section Reading

variable {s : String} {m : Mac} {groups : List (List Char)} {octets : List UInt8}

theorem ofList?_eq_some_iff : ofList? octets = some m ↔ octets = m.toList := by
  constructor
  · intro h
    fun_cases ofList? octets with
    | case1 a b c d e f => cases h; rfl
    | case2 hsix => grind [ofList?]
  · rintro rfl
    rfl

theorem toList_ofPlaces (places : Vector UInt8 6) : (ofPlaces places).toList = places.toList := by
  refine List.ext_getElem (by simp [toList, LowOctets.toList]) fun i hi _ => ?_
  rcases i with _ | _ | _ | _ | _ | _ | i
  case succ.succ.succ.succ.succ.succ => exact absurd hi (by simp [toList, LowOctets.toList])
  all_goals rfl

/-- Six octets are those of an address. -/
theorem exists_toList_eq (h : octets.length = 6) : ∃ m : Mac, m.toList = octets :=
  ⟨ofPlaces ⟨octets.toArray, by simpa using h⟩, by rw [toList_ofPlaces]; simp⟩

theorem parse_eq_ok_iff :
    parse s = .ok m ↔ Address.hexGroups? (Text.trim s.toList) = some m.toList := by
  have hbind : parse s = .ok m ↔
      (Address.hexGroups? (Text.trim s.toList)).bind ofList? = some m := by
    rw [parse]
    split <;> simp [*]
  rw [hbind, Option.bind_eq_some_iff]
  simp [ofList?_eq_some_iff]

theorem parse_eq_error {e : RunError} (h : parse s = .error e) : e = refusal s := by
  rw [parse] at h
  split at h
  · cases h
  · exact (Except.error.inj h).symm

/-- The octets of an address that is read are the values of six groups. -/
theorem exists_isWritten (h : parse s = .ok m) :
    ∃ groups, IsWritten s.toList groups ∧
      m.toList.map UInt8.toNat = groups.map Text.hexValue := by
  obtain ⟨groups, hspelling, hvalues⟩ :=
    Address.hexGroups?_trim_eq_some_iff.mp (parse_eq_ok_iff.mp h)
  have hsame : m.toList.length = groups.length := by
    simpa using congrArg List.length hvalues
  exact ⟨groups, ⟨hspelling, hsame.symm⟩, hvalues⟩

theorem IsWritten.exists_parse_eq_ok (h : IsWritten s.toList groups) :
    ∃ m, parse s = .ok m := by
  obtain ⟨octets, hread, hvalues⟩ := h.toIsSpelling.exists_octets
  have hlength : octets.length = 6 := by
    rw [← h.length_eq]
    simpa using congrArg List.length hvalues
  obtain ⟨m, rfl⟩ := exists_toList_eq hlength
  exact ⟨m, parse_eq_ok_iff.mpr hread⟩

theorem IsWritten.values_eq (h : IsWritten s.toList groups) (hm : parse s = .ok m) :
    m.toList.map UInt8.toNat = groups.map Text.hexValue := by
  obtain ⟨groups', h', hvalues⟩ := exists_isWritten hm
  rw [hvalues, h.toIsSpelling.unique h'.toIsSpelling]

/-- An address is printed as it is written with two lower-case digits in each group. -/
theorem IsWritten.text_eq (h : IsWritten s.toList groups) (hm : parse s = .ok m) :
    m.text.toList = [':'].intercalate (groups.map Address.zeroFill) := by
  rw [text, Address.toList_joinOctets, Address.map_zeroFill_eq_groups h.isGroup (h.values_eq hm)]

/-- One pass over the pieces has an answer for every text, and the same one. -/
theorem parsePlaced_eq (s : String) : parsePlaced s = some (parse s) := by
  cases hs : parse s with
  | ok m =>
      have hcount : 0 + m.toList.length = 6 := rfl
      obtain ⟨placed, hfill, htake⟩ :=
        fill_eq_ok (.replicate 6 0) 0 (parse_eq_ok_iff.mp hs) (Nat.le_of_eq hcount)
      have hplaces : placed.toList = m.toList := by
        rwa [List.take_of_length_le (by simp [toList, LowOctets.toList]), List.take_zero,
          List.nil_append] at htake
      have hsame : ofPlaces placed = m := by
        rw [← Option.some_inj, ← ofList?_eq_some_iff.mpr hplaces,
          ofList?_eq_some_iff.mpr (toList_ofPlaces placed).symm]
      simp only [parsePlaced, hfill, hcount, hsame, ne_eq, not_true, if_false]
  | error e =>
      rw [parse_eq_error hs]
      by_cases hfits : ∃ read, Address.hexGroups? (Text.trim s.toList) = some read ∧
          read.length ≤ 6
      · obtain ⟨read, hread, hlength⟩ := hfits
        have hcount : 0 + read.length ≠ 6 := by
          intro hsix
          obtain ⟨m, rfl⟩ := exists_toList_eq ((Nat.zero_add _).symm.trans hsix)
          cases hs.symm.trans (parse_eq_ok_iff.mpr hread)
        obtain ⟨placed, hfill, -⟩ :=
          fill_eq_ok (.replicate 6 0) 0 hread (by omega)
        simp only [parsePlaced, hfill, hcount, ne_eq, not_false_eq_true, if_true]
      · have hrefused := fill_eq_refused (.replicate 6 0) (Nat.zero_le 6)
          fun read hread => by
            rw [Nat.zero_add]
            exact Nat.lt_of_not_le fun hlength => hfits ⟨read, hread, hlength⟩
        rw [parsePlaced, hrefused]

end Reading

/--
What is an address are six groups with white space around, and nothing else: the octets are
the values of the groups in their order, the address is printed as it is written with two
lower-case digits in each group, and what is anything else is refused with a text that
quotes it.  One pass over the pieces reads the same, and never runs out of its six places.
What is printed is read back.
-/
theorem parse_groups :
    (∀ s, (∃ m, parse s = .ok m) ↔ ∃ groups, IsWritten s.toList groups) ∧
    (∀ s m groups, parse s = .ok m → IsWritten s.toList groups →
      m.toList.map UInt8.toNat = groups.map Text.hexValue ∧
      m.text.toList = [':'].intercalate (groups.map Address.zeroFill)) ∧
    (∀ s e, parse s = .error e → e = refusal s) ∧
    (∀ s, parsePlaced s = some (parse s)) ∧
    ∀ m : Mac, parse m.text = .ok m := by
  refine ⟨fun s => ⟨?_, ?_⟩, fun s m groups hm h => ⟨h.values_eq hm, h.text_eq hm⟩,
    fun s e => parse_eq_error, parsePlaced_eq, parse_text⟩
  · rintro ⟨m, hm⟩
    obtain ⟨groups, h, -⟩ := exists_isWritten hm
    exact ⟨groups, h⟩
  · rintro ⟨groups, h⟩
    exact h.exists_parse_eq_ok

/-- Six groups of mixed case and length between white space, and a text of seven groups. -/
theorem parse_groups_mixed :
    IsWritten "\t98:ED:5c:0:b:fF\u2003".toList
      [['9', '8'], ['E', 'D'], ['5', 'c'], ['0'], ['b'], ['f', 'F']] ∧
    (∃ m, parse "\t98:ED:5c:0:b:fF\u2003" = .ok m ∧
      m.toList.map UInt8.toNat = [152, 237, 92, 0, 11, 255] ∧
      m.text.toList = "98:ed:5c:00:0b:ff".toList) ∧
    ∃ e, parse " 1:2:3:4:5:6:7 " = .error e ∧ parsePlaced " 1:2:3:4:5:6:7 " = some (.error e) ∧
      e = refusal " 1:2:3:4:5:6:7 " ∧ e = .parse "invalid MAC address '1:2:3:4:5:6:7'" := by
  obtain ⟨haccepts, hread, herror, hplaced, -⟩ := parse_groups
  have hmixed : IsWritten "\t98:ED:5c:0:b:fF\u2003".toList
      [['9', '8'], ['E', 'D'], ['5', 'c'], ['0'], ['b'], ['f', 'F']] :=
    ⟨⟨⟨['\t'], ['\u2003'], rfl, List.all_eq_true.mp rfl⟩, by decide, by decide⟩, by decide⟩
  obtain ⟨m, hm⟩ := (haccepts _).mpr ⟨_, hmixed⟩
  obtain ⟨hvalues, htext⟩ := hread _ m _ hm hmixed
  have hseven : parse " 1:2:3:4:5:6:7 " =
      .error (.parse "invalid MAC address '1:2:3:4:5:6:7'") := by
    rfl
  refine ⟨hmixed, ⟨m, hm, ?_, ?_⟩, _, hseven, ?_, herror _ _ hseven, rfl⟩
  · rw [hvalues]
    decide
  · rw [htext]
    decide
  · rw [hplaced, hseven]

end Mac

end TtpConformance
