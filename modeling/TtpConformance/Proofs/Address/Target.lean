import TtpConformance.Address.Target
import TtpConformance.Proofs.Address.Groups

/-!
# Specifiers of targets

A specifier names a peer by one to three groups of its address, and groups that are left out
are zero.  What is no specifier is refused, and the refusal quotes it.

A specifier is written out by putting the missing groups in front and two lower-case digits
in each place.  That is how its target is printed, so two specifiers name one target exactly
if they are the same when written out, and what is printed is itself a specifier.

## Main definitions

* `Target.IsSpecifier` — a text of one to three groups.
* `Target.writtenOut` — the groups of a specifier as its target is printed.

## Main statements

* `Target.IsSpecifier.exists_parse_eq_ok` — what a specifier names.
* `Target.IsSpecifier.fragment_eq` — a target is printed as its specifiers are written out.
* `Target.parse_fragment` — a printed target is read back.
* `Target.parse_grammar` — what names a target, and the forms of a target.
-/

namespace TtpConformance

namespace Target

/-- A text of one to three groups. -/
structure IsSpecifier (text : List Char) (groups : List (List Char)) : Prop extends
    Address.IsSpelling text groups where
  length_le : groups.length ≤ 3

/-- Three groups of two lower-case digits, with zeros for those that are missing. -/
def writtenOut (groups : List (List Char)) : List Char :=
  [':'].intercalate (List.replicate (3 - groups.length) ['0', '0'] ++ groups.map Address.zeroFill)

/-! ## Octets of a target -/

section OfList

variable {octets : List UInt8} {t : Target}

theorem ne_nil_and_length_le_of_ofList? (h : ofList? octets = some t) :
    octets ≠ [] ∧ octets.length ≤ 3 := by
  fun_cases ofList? octets with
  | case1 c => simp
  | case2 b c => simp
  | case3 a b c => simp
  | case4 hone htwo hthree => grind [ofList?]

/-- Missing octets are zero and stand in front. -/
theorem toList_of_ofList? (h : ofList? octets = some t) :
    t.octets.toList = List.replicate (3 - octets.length) 0 ++ octets := by
  fun_cases ofList? octets with
  | case1 c => cases h; rfl
  | case2 b c => cases h; rfl
  | case3 a b c => cases h; rfl
  | case4 hone htwo hthree => grind [ofList?]

theorem exists_ofList? (hne : octets ≠ []) (hlength : octets.length ≤ 3) :
    ∃ t, ofList? octets = some t := by
  rcases octets with _ | ⟨a, _ | ⟨b, _ | ⟨c, _ | ⟨d, rest⟩⟩⟩⟩
  · exact absurd rfl hne
  · exact ⟨_, rfl⟩
  · exact ⟨_, rfl⟩
  · exact ⟨_, rfl⟩
  · simp only [List.length_cons] at hlength
    omega

end OfList

/-! ## Reading -/

section Reading

variable {spec : String} {groups : List (List Char)} {t : Target}

theorem parse_eq_ok_iff :
    parse spec = .ok t ↔
      ∃ octets, Address.hexGroups? (Text.trim spec.toList) = some octets ∧
        ofList? octets = some t := by
  rw [parse, ← Option.bind_eq_some_iff]
  split <;> simp [*]

/-- What is refused is quoted. -/
theorem parse_eq_error {e : RunError} (h : parse spec = .error e) :
    e = .configuration ("bad --target='" ++ spec ++ "'") := by
  rw [parse] at h
  split at h
  · cases h
  · exact (Except.error.inj h).symm

theorem exists_isSpecifier (h : parse spec = .ok t) :
    ∃ groups, IsSpecifier spec.toList groups := by
  obtain ⟨octets, hread, htarget⟩ := parse_eq_ok_iff.mp h
  obtain ⟨groups, hspelling, hvalues⟩ := Address.hexGroups?_trim_eq_some_iff.mp hread
  have hsame : octets.length = groups.length := by
    simpa using congrArg List.length hvalues
  exact ⟨groups, hspelling, hsame ▸ (ne_nil_and_length_le_of_ofList? htarget).2⟩

/-- Every specifier names a target, which has the values of its groups and is zero in front
of them. -/
theorem IsSpecifier.exists_parse_eq_ok (h : IsSpecifier spec.toList groups) :
    ∃ t, parse spec = .ok t ∧ t.octets.toList.map UInt8.toNat =
      List.replicate (3 - groups.length) 0 ++ groups.map Text.hexValue := by
  obtain ⟨octets, hread, hvalues⟩ := h.toIsSpelling.exists_octets
  have hsame : octets.length = groups.length := by
    simpa using congrArg List.length hvalues
  have hne : octets ≠ [] := by
    rintro rfl
    exact h.ne_nil (List.length_eq_zero_iff.mp hsame.symm)
  obtain ⟨t, ht⟩ := exists_ofList? hne (hsame ▸ h.length_le)
  refine ⟨t, parse_eq_ok_iff.mpr ⟨octets, hread, ht⟩, ?_⟩
  rw [toList_of_ofList? ht, List.map_append, List.map_replicate, hvalues, hsame]
  rfl

theorem IsSpecifier.values_eq (h : IsSpecifier spec.toList groups) (ht : parse spec = .ok t) :
    t.octets.toList.map UInt8.toNat =
      List.replicate (3 - groups.length) 0 ++ groups.map Text.hexValue := by
  obtain ⟨t', ht', hvalues⟩ := h.exists_parse_eq_ok
  obtain rfl : t' = t := Except.ok.inj (ht'.symm.trans ht)
  exact hvalues

/-- A target is printed as each of its specifiers is written out. -/
theorem IsSpecifier.fragment_eq (h : IsSpecifier spec.toList groups) (ht : parse spec = .ok t) :
    t.fragment.toList = writtenOut groups := by
  have hzeros : ∀ n, List.replicate n ['0', '0'] =
      (List.replicate n ['0']).map Address.zeroFill := fun n => by
    rw [List.map_replicate]
    rfl
  have hvalues := h.values_eq ht
  have hgroups : ∀ group ∈ List.replicate (3 - groups.length) ['0'] ++ groups,
      Address.IsGroup group := by
    intro group hgroup
    rcases List.mem_append.mp hgroup with hgroup | hgroup
    · rw [List.eq_of_mem_replicate hgroup]
      decide
    · exact h.isGroup group hgroup
  rw [fragment, LowOctets.fragment, Address.toList_joinOctets, writtenOut, hzeros,
    ← List.map_append, Address.map_zeroFill_eq_groups hgroups]
  rw [hvalues, List.map_append, List.map_replicate]
  rfl

end Reading

/-! ## Printing -/

section Printing

variable {t t' : Target}

/-- Printed octets name their target, also where they leave out zeros in front. -/
theorem parse_joinOctets {octets : List UInt8} (h : ofList? octets = some t) :
    parse (Address.joinOctets ":" octets) = .ok t := by
  refine parse_eq_ok_iff.mpr ⟨octets, ?_, h⟩
  rw [Address.trim_joinOctets]
  exact Address.hexGroups?_joinOctets (ne_nil_and_length_le_of_ofList? h).1

theorem parse_fragment (t : Target) : parse t.fragment = .ok t := by
  have hoctets : ofList? t.octets.toList = some t := rfl
  rw [fragment, LowOctets.fragment, parse_joinOctets hoctets]

theorem fragment_injective : Function.Injective fragment := by
  intro t t' h
  have hread := parse_fragment t
  rw [h, parse_fragment t'] at hread
  exact (Except.ok.inj hread).symm

theorem code_injective : Function.Injective code := by
  rintro ⟨octets⟩ ⟨octets'⟩ h
  exact congrArg mk (LowOctets.code_injective h)

theorem length_code (t : Target) : t.code.length = 6 := by
  rw [← String.length_toList, code, LowOctets.toList_code]
  simp [Address.toList_hexByte]

theorem lowerCase_of_mem_code {c : Char} (h : c ∈ t.code.toList) :
    ('0' ≤ c ∧ c ≤ '9') ∨ ('a' ≤ c ∧ c ≤ 'f') := by
  rw [code, LowOctets.toList_code, Address.toList_hexByte, Address.toList_hexByte,
    Address.toList_hexByte] at h
  simp only [List.cons_append, List.nil_append, List.mem_cons, List.not_mem_nil, or_false] at h
  rcases h with rfl | rfl | rfl | rfl | rfl | rfl <;> exact Text.lowerCase_hexDigit _

/-- The address of a target ends with the target as it is printed. -/
theorem text_mac (t : Target) : t.mac.text = "98:ed:5c:" ++ t.fragment := by
  have hvendor : Address.joinOctets ":" Mac.ttpVendor.toList ++ ":" = "98:ed:5c:" := by
    decide
  have hjoin : t.mac.text = Address.joinOctets ":" Mac.ttpVendor.toList ++ (":" ++ t.fragment) :=
    Address.joinOctets_append (List.cons_ne_nil _ _) (List.cons_ne_nil _ _)
  rw [hjoin, ← String.append_assoc, hvendor]

theorem exists_hostname_iff :
    (∃ name, t.hostname = .ok name) ↔ t.octets.first = 0 ∧ t.octets.second = 0 := by
  rw [hostname]
  split
  · rename_i h
    exact ⟨fun _ => h, fun _ => ⟨_, rfl⟩⟩
  · rename_i h
    refine ⟨?_, fun hzero => absurd hzero h⟩
    rintro ⟨name, hname⟩
    cases hname

end Printing

/-! ## Specifiers and forms -/

/--
What names a target are one to three groups with white space around, and nothing else: the
target has the values of the groups, missing ones are zero, and a refusal quotes what is
refused.  Two specifiers name one target exactly if they are the same when written out.  The
forms of a target lead back to it, and it has a host name if only its last octet is used.
-/
theorem parse_grammar :
    (∀ spec, (∃ t, parse spec = .ok t) ↔ ∃ groups, IsSpecifier spec.toList groups) ∧
    (∀ spec t groups, parse spec = .ok t → IsSpecifier spec.toList groups →
      t.octets.toList.map UInt8.toNat =
        List.replicate (3 - groups.length) 0 ++ groups.map Text.hexValue) ∧
    (∀ spec e, parse spec = .error e →
      e = .configuration ("bad --target='" ++ spec ++ "'")) ∧
    (∀ spec spec' groups groups', IsSpecifier spec.toList groups →
      IsSpecifier spec'.toList groups' →
      ((∃ t, parse spec = .ok t ∧ parse spec' = .ok t) ↔
        writtenOut groups = writtenOut groups')) ∧
    ∀ t : Target,
      parse t.fragment = .ok t ∧
      t.code.length = 6 ∧
      (∀ c ∈ t.code.toList, ('0' ≤ c ∧ c ≤ '9') ∨ ('a' ≤ c ∧ c ≤ 'f')) ∧
      (∀ t' : Target, t'.code = t.code → t' = t) ∧
      t.mac.hasTtpVendor = true ∧
      t.mac.low.fragment = t.fragment ∧
      t.mac.text = "98:ed:5c:" ++ t.fragment ∧
      ((∃ name, t.hostname = .ok name) ↔ t.octets.first = 0 ∧ t.octets.second = 0) := by
  refine ⟨fun spec => ⟨?_, ?_⟩, fun spec t groups ht h => h.values_eq ht,
    fun spec e => parse_eq_error, ?_, fun t => ?_⟩
  · rintro ⟨t, ht⟩
    exact exists_isSpecifier ht
  · rintro ⟨groups, h⟩
    obtain ⟨t, ht, -⟩ := h.exists_parse_eq_ok
    exact ⟨t, ht⟩
  · intro spec spec' groups groups' h h'
    constructor
    · rintro ⟨t, ht, ht'⟩
      rw [← h.fragment_eq ht, ← h'.fragment_eq ht']
    · intro hsame
      obtain ⟨t, ht, -⟩ := h.exists_parse_eq_ok
      obtain ⟨t', ht', -⟩ := h'.exists_parse_eq_ok
      have hfragment : t.fragment = t'.fragment := by
        rw [← String.toList_inj, h.fragment_eq ht, h'.fragment_eq ht', hsame]
      obtain rfl : t = t' := fragment_injective hfragment
      exact ⟨t, ht, ht'⟩
  · exact ⟨parse_fragment t, length_code t, fun c => lowerCase_of_mem_code,
      fun t' hcode => code_injective hcode, rfl, rfl, text_mac t, exists_hostname_iff⟩

/-- Two groups of mixed case between white space, the same target with all its groups, and a
text with an empty group. -/
theorem parse_grammar_mixed :
    IsSpecifier " \u2003aB:c\n".toList [['a', 'B'], ['c']] ∧
    IsSpecifier "0:ab:0C".toList [['0'], ['a', 'b'], ['0', 'C']] ∧
    (∃ t, parse " \u2003aB:c\n" = .ok t ∧ parse "0:ab:0C" = .ok t ∧
      t.octets.toList.map UInt8.toNat = [0, 171, 12]) ∧
    ∃ e, parse "1::2" = .error e ∧ e = .configuration "bad --target='1::2'" := by
  obtain ⟨-, hvalues, herror, hsame, -⟩ := parse_grammar
  have hmixed : IsSpecifier " \u2003aB:c\n".toList [['a', 'B'], ['c']] :=
    ⟨⟨⟨[' ', '\u2003'], ['\n'], rfl, List.all_eq_true.mp rfl⟩, by decide, by decide⟩, by decide⟩
  have hall : IsSpecifier "0:ab:0C".toList [['0'], ['a', 'b'], ['0', 'C']] :=
    ⟨⟨⟨[], [], rfl, List.all_eq_true.mp rfl⟩, by decide, by decide⟩, by decide⟩
  obtain ⟨t, ht, ht'⟩ := (hsame _ _ _ _ hmixed hall).mpr (by decide)
  have hrefused : parse "1::2" = .error (.configuration "bad --target='1::2'") := by
    rfl
  refine ⟨hmixed, hall, ⟨t, ht, ht', ?_⟩, _, hrefused, herror _ _ hrefused⟩
  rw [hvalues _ _ _ ht hmixed]
  decide

end Target

end TtpConformance
