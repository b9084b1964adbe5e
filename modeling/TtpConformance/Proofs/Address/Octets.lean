import Mathlib.Data.List.Basic
import TtpConformance.Address.Mac
import TtpConformance.Proofs.Text.Numeral
import TtpConformance.Proofs.Text.Words

/-!
# Printed octets

An octet is printed as two lower-case digits, and octets are joined with colons between them
or with nothing at all.  Either way they can be told from what is printed: the digits are
read back one octet at a time, and no digit is a colon.

A text ends with another one behind a colon exactly if its pieces end with those of the
other one, so printed octets end with others exactly if the octets do.

## Main statements

* `Address.toList_hexByte_ofNat` — two digits, printed from their value.
* `Address.hexGroups?_joinOctets` — printed octets are read back.
* `Address.groups_suffix_iff` — printed octets that end with others.
* `Mac.parse_text` — a printed address is read back.
* `LowOctets.code_injective` — the octets of a code.
-/

namespace TtpConformance

/-! ## Digits of octets -/

namespace Text

theorem hexDigit_mod (n : Nat) : hexDigit (n % 16) = hexDigit n := by simp [hexDigit]

/-- There are sixteen digits. -/
theorem forall_hexDigit {p : Char → Prop} (h : ∀ d < 16, p (hexDigit d)) (n : Nat) :
    p (hexDigit n) :=
  hexDigit_mod n ▸ h (n % 16) (Nat.mod_lt n (by decide))

theorem hexDigitValue?_hexDigit (n : Nat) : hexDigitValue? (hexDigit n) = some (n % 16) := by
  have hall : ∀ d < 16, hexDigitValue? (hexDigit d) = some d := by decide
  rw [← hexDigit_mod]
  exact hall (n % 16) (Nat.mod_lt n (by decide))

theorem isHexDigit_hexDigit (n : Nat) : isHexDigit (hexDigit n) = true := by
  rw [isHexDigit, hexDigitValue?_hexDigit]
  rfl

theorem toLower_hexDigit (n : Nat) : (hexDigit n).toLower = hexDigit n :=
  forall_hexDigit (p := fun c => c.toLower = c) (by decide) n

theorem lowerCase_hexDigit (n : Nat) :
    ('0' ≤ hexDigit n ∧ hexDigit n ≤ '9') ∨ ('a' ≤ hexDigit n ∧ hexDigit n ≤ 'f') :=
  forall_hexDigit (p := fun c => ('0' ≤ c ∧ c ≤ '9') ∨ ('a' ≤ c ∧ c ≤ 'f')) (by decide) n

/-- A digit in lower case is the printed form of its value. -/
theorem hexDigit_of_hexDigitValue? {c : Char} {x : Nat} (h : hexDigitValue? c = some x) :
    x < 16 ∧ hexDigit x = c.toLower := by
  have hall : ∀ n < 128, (hexDigitValue? (Char.ofNat n)).all
      fun x => decide (x < 16) && hexDigit x == (Char.ofNat n).toLower := by decide
  have hlt : c.toNat < 128 := by
    have hhex : isHexDigit c = true := by simp [isHexDigit, h]
    have hvalue : c.val.toNat = c.toNat := rfl
    simp only [isHexDigit_iff, Char.le_def, UInt32.le_iff_toNat_le, hvalue] at hhex
    simp at hhex
    omega
  have hc := hall c.toNat hlt
  rw [Char.ofNat_toNat, h] at hc
  simpa using hc

end Text

namespace Address

theorem toList_hexByte (o : UInt8) :
    (Text.hexByte o).toList = [Text.hexDigit (o.toNat / 16), Text.hexDigit o.toNat] :=
  String.toList_ofList

/-- Two digits of either case, printed from the octet that they write. -/
theorem toList_hexByte_ofNat {a b : Char} {x y : Nat} (ha : Text.hexDigitValue? a = some x)
    (hb : Text.hexDigitValue? b = some y) :
    (Text.hexByte (UInt8.ofNat (x * 16 + y))).toList = [a.toLower, b.toLower] := by
  obtain ⟨hx, hxdigit⟩ := Text.hexDigit_of_hexDigitValue? ha
  obtain ⟨hy, hydigit⟩ := Text.hexDigit_of_hexDigitValue? hb
  have htoNat : (UInt8.ofNat (x * 16 + y)).toNat = x * 16 + y := by
    rw [UInt8.toNat_ofNat']
    exact Nat.mod_eq_of_lt (by omega)
  have hhigh : (x * 16 + y) / 16 = x := by omega
  have hlow : Text.hexDigit (x * 16 + y) = Text.hexDigit y := by simp [Text.hexDigit]
  rw [toList_hexByte, htoNat, hhigh, hlow, hxdigit, hydigit]

theorem hexGroup?_hexByte (o : UInt8) : hexGroup? (Text.hexByte o).toList = some o := by
  have hlt : o.toNat / 16 < 16 := Nat.div_lt_of_lt_mul o.toNat_lt
  have hvalue : o.toNat / 16 % 16 * 16 + o.toNat % 16 = o.toNat := by omega
  rw [toList_hexByte, hexGroup?, Text.hexDigitValue?_hexDigit, Text.hexDigitValue?_hexDigit]
  simp only [hvalue, UInt8.ofNat_toNat]

/-- Printed octets are read one by one. -/
theorem hexByte_injective {o o' : UInt8} (h : (Text.hexByte o).toList = (Text.hexByte o').toList) :
    o = o' := by
  have hread := hexGroup?_hexByte o
  rw [h, hexGroup?_hexByte] at hread
  exact (Option.some.inj hread).symm

theorem isHexDigit_of_mem_hexByte {o : UInt8} {c : Char} (h : c ∈ (Text.hexByte o).toList) :
    Text.isHexDigit c = true := by
  rw [toList_hexByte] at h
  simp only [List.mem_cons, List.not_mem_nil, or_false] at h
  rcases h with rfl | rfl <;> exact Text.isHexDigit_hexDigit _

theorem not_mem_hexByte {c : Char} (hc : Text.isHexDigit c = false) (o : UInt8) :
    c ∉ (Text.hexByte o).toList :=
  Text.not_mem_of_forall hc fun _ hd => isHexDigit_of_mem_hexByte hd

/-! ## Printed octets -/

/-- The groups of printed octets. -/
def groups (octets : List UInt8) : List (List Char) := octets.map fun o => (Text.hexByte o).toList

theorem toList_joinOctets (octets : List UInt8) :
    (joinOctets ":" octets).toList = [':'].intercalate (groups octets) := by
  rw [joinOctets, String.toList_intercalate, List.map_map]
  rfl

theorem colon_not_mem_of_mem_groups {octets : List UInt8} :
    ∀ group ∈ groups octets, ':' ∉ group := by
  intro group hgroup
  obtain ⟨o, -, rfl⟩ := List.mem_map.mp hgroup
  exact not_mem_hexByte rfl o

theorem colonPieces_joinOctets {octets : List UInt8} (h : octets ≠ []) :
    colonPieces (joinOctets ":" octets).toList = groups octets := by
  rw [toList_joinOctets, colonPieces]
  exact Text.splitBy_intercalate colon_not_mem_of_mem_groups (by simpa [groups] using h)

theorem joinOctets_append {octets octets' : List UInt8} (h : octets ≠ []) (h' : octets' ≠ []) :
    joinOctets ":" (octets ++ octets') =
      joinOctets ":" octets ++ (":" ++ joinOctets ":" octets') := by
  have hgroups : groups (octets ++ octets') = groups octets ++ groups octets' :=
    List.map_append
  have hne : ∀ {os : List UInt8}, os ≠ [] → groups os ≠ [] := fun hos => by
    simpa [groups] using hos
  rw [← String.toList_inj, String.toList_append, String.toList_append, toList_joinOctets,
    toList_joinOctets, toList_joinOctets, hgroups]
  exact Text.intercalate_append ':' (hne h) (hne h')

/-- Octets are printed with digits and colons. -/
theorem mem_joinOctets_cases {octets : List UInt8} {c : Char}
    (h : c ∈ (joinOctets ":" octets).toList) : c = ':' ∨ Text.isHexDigit c = true := by
  rw [toList_joinOctets] at h
  obtain hcolon | ⟨group, hgroup, hc⟩ := Text.mem_intercalate_cases h
  · exact .inl hcolon
  · obtain ⟨o, -, rfl⟩ := List.mem_map.mp hgroup
    exact .inr (isHexDigit_of_mem_hexByte hc)

/-- There is no white space around printed octets. -/
theorem trim_joinOctets (octets : List UInt8) :
    Text.trim (joinOctets ":" octets).toList = (joinOctets ":" octets).toList := by
  refine Text.dropAround_eq_self fun c hc => ?_
  rcases mem_joinOctets_cases hc with rfl | hdigit
  · decide
  · exact Text.isBlank_eq_false_of_isHexDigit hdigit

/-- Printed octets are read back. -/
theorem hexGroups?_joinOctets {octets : List UInt8} (h : octets ≠ []) :
    hexGroups? (joinOctets ":" octets).toList = some octets := by
  have hmap : ∀ os : List UInt8, (groups os).mapM hexGroup? = some os := by
    intro os
    induction os with
    | nil => rfl
    | cons o os ih =>
        show (((Text.hexByte o).toList :: groups os).mapM hexGroup?) = _
        rw [List.mapM_cons, hexGroup?_hexByte, ih]
        rfl
  rw [hexGroups?, colonPieces_joinOctets h]
  exact hmap octets

/-- The pieces between colons end with those of another text exactly if the text is that
one, or ends with it behind a colon. -/
theorem colonPieces_suffix_iff {xs ys : List Char} :
    colonPieces ys <:+ colonPieces xs ↔ xs = ys ∨ ':' :: ys <:+ xs := by
  constructor
  · rintro ⟨front, hfront⟩
    have hxs := Text.intercalate_splitBy ':' xs
    have hys := Text.intercalate_splitBy ':' ys
    have hpieces : colonPieces ys ≠ [] := Text.splitBy_ne_nil _ ys
    change [':'].intercalate (colonPieces xs) = xs at hxs
    by_cases hnil : front = []
    · rw [hnil, List.nil_append] at hfront
      rw [← hfront] at hxs
      exact .inl (hxs.symm.trans hys)
    · rw [← hfront, Text.intercalate_append ':' hnil hpieces] at hxs
      exact .inr ⟨[':'].intercalate front, hys ▸ hxs⟩
  · rintro (rfl | ⟨front, rfl⟩)
    · exact List.suffix_refl _
    · exact ⟨colonPieces front, (Text.splitBy_append_cons (by decide) front ys).symm⟩

/-- Printed octets end with those of another list exactly if the list does. -/
theorem groups_suffix_iff {fragment octets : List UInt8} :
    groups fragment <:+ groups octets ↔ fragment <:+ octets := by
  constructor
  · intro h
    obtain ⟨last, hlast, heq⟩ := List.suffix_map_iff.mp h
    have hsame := (List.map_inj_right fun _ _ => hexByte_injective).mp heq
    exact hsame ▸ hlast
  · rintro ⟨front, rfl⟩
    exact ⟨groups front, List.map_append.symm⟩

end Address

/-- An address is read back as it is printed. -/
theorem Mac.parse_text (m : Mac) : Mac.parse m.text = .ok m := by
  have hgroups : Address.hexGroups? m.text.toList = some m.toList :=
    Address.hexGroups?_joinOctets (List.cons_ne_nil _ _)
  have htrim : Text.trim m.text.toList = m.text.toList := Address.trim_joinOctets _
  simp only [Mac.parse, htrim, hgroups]
  rfl

/-! ## Codes -/

theorem LowOctets.toList_code (o : LowOctets) :
    o.code.toList = (Text.hexByte o.first).toList ++
      ((Text.hexByte o.second).toList ++ (Text.hexByte o.third).toList) := by
  rw [code, Address.joinOctets, String.toList_intercalate]
  simp [LowOctets.toList, List.intercalate]

/-- A node is addressed by all of its low octets. -/
theorem LowOctets.code_injective : Function.Injective LowOctets.code := by
  intro o o' h
  have hlength : ∀ b b' : UInt8,
      (Text.hexByte b).toList.length = (Text.hexByte b').toList.length := fun b b' => by
    rw [Address.toList_hexByte, Address.toList_hexByte]
    rfl
  have hlist := congrArg String.toList h
  rw [toList_code, toList_code] at hlist
  obtain ⟨hfirst, hrest⟩ := List.append_inj hlist (hlength _ _)
  obtain ⟨hsecond, hthird⟩ := List.append_inj hrest (hlength _ _)
  obtain ⟨first, second, third⟩ := o
  obtain rfl := Address.hexByte_injective hfirst
  obtain rfl := Address.hexByte_injective hsecond
  obtain rfl := Address.hexByte_injective hthird
  rfl

end TtpConformance
