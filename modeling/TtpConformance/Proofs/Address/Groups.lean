import TtpConformance.Proofs.Address.Octets

/-!
# Octets as they are written

Hardware addresses and targets are read alike: white space around them is dropped, what is
left is cut at its colons, and each piece has to be one or two hexadecimal digits.  That is
a grammar, and what is read is settled by the text: the groups of a text are its pieces, so
it has no second reading, and a group has one value.

Groups may leave out a zero in front and may be in either case.  With both made up for, a
group is its octet as it is printed.

## Main definitions

* `Text.hexValue` — the number that hexadecimal digits write.
* `Address.IsGroup`, `Address.IsSpelling` — a group, and a text of groups.
* `Address.zeroFill` — a group in two lower-case digits.

## Main statements

* `Address.isSpelling_iff` — the groups of a text are its pieces.
* `Address.hexGroups?_trim_eq_some_iff` — what is read.
* `Address.zeroFill_eq_hexByte` — what is read, in two digits.
-/

namespace TtpConformance

/-- The number that hexadecimal digits write, units last. -/
def Text.hexValue (cs : List Char) : Nat :=
  Nat.ofDigits 16 (cs.reverse.map fun c => (hexDigitValue? c).getD 0)

namespace Address

/-- One or two hexadecimal digits. -/
def IsGroup (group : List Char) : Prop :=
  (group.length = 1 ∨ group.length = 2) ∧ ∀ c ∈ group, Text.isHexDigit c = true

instance (group : List Char) : Decidable (IsGroup group) :=
  decidable_of_iff ((group.length = 1 ∨ group.length = 2) ∧ group.all Text.isHexDigit = true)
    (and_congr_right fun _ => List.all_eq_true)

/-- A text of groups, with colons between them and white space around them. -/
structure IsSpelling (text : List Char) (groups : List (List Char)) : Prop where
  around : ∃ before after, text = before ++ [':'].intercalate groups ++ after ∧
    ∀ c ∈ before ++ after, Text.isBlank c = true
  ne_nil : groups ≠ []
  isGroup : ∀ group ∈ groups, IsGroup group

/-- A group in lower case, with a zero in front if it has one digit. -/
def zeroFill (group : List Char) : List Char :=
  List.replicate (2 - group.length) '0' ++ group.map Char.toLower

/-! ## One group -/

section Group

variable {group : List Char} {o : UInt8}

/-- What is read is a group with its value, and in two digits it is what is printed. -/
theorem group_of_hexGroup? (h : hexGroup? group = some o) :
    IsGroup group ∧ o.toNat = Text.hexValue group ∧ zeroFill group = (Text.hexByte o).toList := by
  have hdigit : ∀ {c x}, Text.hexDigitValue? c = some x → Text.isHexDigit c = true := fun hc => by
    rw [Text.isHexDigit, hc]
    rfl
  fun_cases hexGroup? group with
  | case1 a =>
      obtain ⟨x, hx, rfl⟩ := Option.map_eq_some_iff.mp h
      obtain ⟨hlt, -⟩ := Text.hexDigit_of_hexDigitValue? hx
      have hzero : Text.hexDigitValue? '0' = some 0 := rfl
      have hprinted := toList_hexByte_ofNat hzero hx
      rw [Nat.zero_mul, Nat.zero_add] at hprinted
      refine ⟨⟨.inl rfl, by simpa using hdigit hx⟩, ?_, hprinted.symm⟩
      rw [UInt8.toNat_ofNat_of_lt' (Nat.lt_trans hlt (by decide))]
      simp [Text.hexValue, hx]
  | case2 a b x y hy hx =>
      rw [hexGroup?, hx, hy] at h
      cases h
      obtain ⟨hxlt, -⟩ := Text.hexDigit_of_hexDigitValue? hx
      obtain ⟨hylt, -⟩ := Text.hexDigit_of_hexDigitValue? hy
      have hlt : x * 16 + y < UInt8.size := by
        show x * 16 + y < 256
        omega
      refine ⟨⟨.inr rfl, by simpa using ⟨hdigit hx, hdigit hy⟩⟩, ?_,
        (toList_hexByte_ofNat hx hy).symm⟩
      rw [UInt8.toNat_ofNat_of_lt' hlt]
      simp [Text.hexValue, hx, hy, Nat.ofDigits_cons]
      omega
  | case3 a b hread => grind [hexGroup?]
  | case4 hone htwo => grind [hexGroup?]

/-- Every group is read. -/
theorem IsGroup.exists_octet (h : IsGroup group) : ∃ o, hexGroup? group = some o := by
  obtain ⟨hlength, hdigits⟩ := h
  rcases hlength with hlength | hlength
  · obtain ⟨a, rfl⟩ := List.length_eq_one_iff.mp hlength
    obtain ⟨x, hx⟩ := Option.isSome_iff_exists.mp (hdigits a (by simp))
    exact ⟨UInt8.ofNat x, by rw [hexGroup?, hx]; rfl⟩
  · obtain ⟨a, b, rfl⟩ := List.length_eq_two.mp hlength
    obtain ⟨x, hx⟩ := Option.isSome_iff_exists.mp (hdigits a (by simp))
    obtain ⟨y, hy⟩ := Option.isSome_iff_exists.mp (hdigits b (by simp))
    exact ⟨UInt8.ofNat (x * 16 + y), by rw [hexGroup?, hx, hy]⟩

theorem hexGroup?_eq_some_iff :
    hexGroup? group = some o ↔ IsGroup group ∧ o.toNat = Text.hexValue group := by
  constructor
  · intro h
    obtain ⟨hgroup, hvalue, -⟩ := group_of_hexGroup? h
    exact ⟨hgroup, hvalue⟩
  · rintro ⟨hgroup, hvalue⟩
    obtain ⟨o', ho'⟩ := hgroup.exists_octet
    obtain ⟨-, hvalue', -⟩ := group_of_hexGroup? ho'
    rw [ho', UInt8.toNat_inj.mp (hvalue'.trans hvalue.symm)]

/-- A group in two digits is its octet as it is printed. -/
theorem zeroFill_eq_hexByte (hgroup : IsGroup group) (hvalue : o.toNat = Text.hexValue group) :
    zeroFill group = (Text.hexByte o).toList :=
  (group_of_hexGroup? (hexGroup?_eq_some_iff.mpr ⟨hgroup, hvalue⟩)).2.2

end Group

/-! ## Texts of groups -/

section Spelling

variable {text : List Char} {groups : List (List Char)} {octets : List UInt8}

theorem mapM_hexGroup?_eq_some_iff :
    groups.mapM hexGroup? = some octets ↔
      (∀ group ∈ groups, IsGroup group) ∧ octets.map UInt8.toNat = groups.map Text.hexValue := by
  induction groups generalizing octets with
  | nil => cases octets <;> simp
  | cons group groups ih =>
      rw [List.mapM_cons]
      cases octets with
      | nil => simp [Option.bind_eq_some_iff]
      | cons o octets =>
          simp only [Option.bind_eq_bind, Option.bind_eq_some_iff, Option.pure_def,
            Option.some.injEq, List.cons.injEq, List.map_cons, List.forall_mem_cons, ih,
            hexGroup?_eq_some_iff]
          constructor
          · rintro ⟨_, ⟨hgroup, hvalue⟩, _, ⟨hgroups, hvalues⟩, rfl, rfl⟩
            exact ⟨⟨hgroup, hgroups⟩, hvalue, hvalues⟩
          · rintro ⟨⟨hgroup, hgroups⟩, hvalue, hvalues⟩
            exact ⟨o, ⟨hgroup, hvalue⟩, octets, ⟨hgroups, hvalues⟩, rfl, rfl⟩

/-- The groups of a text are the pieces of what is left of it without white space around. -/
theorem isSpelling_iff :
    IsSpelling text groups ↔
      colonPieces (Text.trim text) = groups ∧ ∀ group ∈ groups, IsGroup group := by
  constructor
  · rintro ⟨⟨before, after, rfl, hblank⟩, hne, hgroups⟩
    have hcolon : ∀ group ∈ groups, ':' ∉ group := fun group hgroup =>
      Text.not_mem_of_forall rfl (hgroups group hgroup).2
    have hcore : ∀ c ∈ [':'].intercalate groups, Text.isBlank c = false := by
      intro c hc
      rcases Text.mem_intercalate_cases hc with rfl | ⟨group, hgroup, hc⟩
      · decide
      · exact Text.isBlank_eq_false_of_isHexDigit ((hgroups group hgroup).2 c hc)
    have htrim : Text.trim (before ++ [':'].intercalate groups ++ after) =
        [':'].intercalate groups :=
      Text.dropAround_append (fun c hc => hblank c (List.mem_append_left _ hc)) hcore
        fun c hc => hblank c (List.mem_append_right _ hc)
    rw [htrim]
    exact ⟨Text.splitBy_intercalate hcolon hne, hgroups⟩
  · rintro ⟨rfl, hgroups⟩
    obtain ⟨before, after, htext, hbefore, hafter⟩ :=
      Text.exists_append_dropAround Text.isBlank text
    refine ⟨⟨before, after, ?_, ?_⟩, Text.splitBy_ne_nil _ _, hgroups⟩
    · rw [colonPieces, Text.intercalate_splitBy]
      exact htext
    · intro c hc
      rcases List.mem_append.mp hc with hc | hc
      · exact hbefore c hc
      · exact hafter c hc

/-- A text has the groups that it has. -/
theorem IsSpelling.unique {groups' : List (List Char)} (h : IsSpelling text groups)
    (h' : IsSpelling text groups') : groups = groups' := by
  rw [← (isSpelling_iff.mp h).1, ← (isSpelling_iff.mp h').1]

/-- What is read of a text are the values of its groups. -/
theorem hexGroups?_trim_eq_some_iff :
    hexGroups? (Text.trim text) = some octets ↔
      ∃ groups, IsSpelling text groups ∧ octets.map UInt8.toNat = groups.map Text.hexValue := by
  rw [hexGroups?, mapM_hexGroup?_eq_some_iff]
  constructor
  · rintro ⟨hgroups, hvalues⟩
    exact ⟨_, isSpelling_iff.mpr ⟨rfl, hgroups⟩, hvalues⟩
  · rintro ⟨groups, hspelling, hvalues⟩
    obtain ⟨rfl, hgroups⟩ := isSpelling_iff.mp hspelling
    exact ⟨hgroups, hvalues⟩

/-- Every text of groups is read. -/
theorem IsSpelling.exists_octets (h : IsSpelling text groups) :
    ∃ octets, hexGroups? (Text.trim text) = some octets ∧
      octets.map UInt8.toNat = groups.map Text.hexValue := by
  have hvalues : (groups.map fun group => UInt8.ofNat (Text.hexValue group)).map UInt8.toNat =
      groups.map Text.hexValue := by
    rw [List.map_map]
    refine List.map_congr_left fun group hgroup => ?_
    obtain ⟨o, ho⟩ := (h.isGroup group hgroup).exists_octet
    rw [Function.comp_apply, ← (hexGroup?_eq_some_iff.mp ho).2, UInt8.ofNat_toNat]
  exact ⟨_, hexGroups?_trim_eq_some_iff.mpr ⟨groups, h, hvalues⟩, hvalues⟩

/-- Groups in two digits each are their octets as they are printed. -/
theorem map_zeroFill_eq_groups (hgroups : ∀ group ∈ groups, IsGroup group)
    (hvalues : octets.map UInt8.toNat = groups.map Text.hexValue) :
    groups.map zeroFill = Address.groups octets := by
  induction groups generalizing octets with
  | nil =>
      obtain rfl : octets = [] := by simpa using hvalues
      rfl
  | cons group groups ih =>
      cases octets with
      | nil => cases hvalues
      | cons o octets =>
          rw [List.map_cons, List.map_cons, List.cons.injEq] at hvalues
          rw [List.forall_mem_cons] at hgroups
          rw [List.map_cons, zeroFill_eq_hexByte hgroups.1 hvalues.1, ih hgroups.2 hvalues.2]
          rfl

end Spelling

end Address

end TtpConformance
