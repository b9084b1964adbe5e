import Mathlib.Data.List.Basic
import TtpConformance.Text.Utf8

/-!
# Octets of a text

A text is told by its octets.  An octet under 0x80 is a character of its own wherever it
stands: every octet of another character is at least 0x80.  So a text that is cut before or
behind such an octet is cut between characters.

## Main definitions

* `dropOctets?` — what a text goes on with behind some of its octets.

## Main statements

* `encodeChar_eq_utf8EncodeChar`, `encode_injective` — the octets are the library's.
* `dropOctets?_eq_some_iff` — which cuts there are.
* `encode_eq_append_cons_iff` — an octet of its own, and what stands around it.
-/

namespace TtpConformance.Text.Utf8

/--
What a text goes on with behind its first `i` octets, if that is a place between two
characters or one of its ends.
-/
def dropOctets? : List Char → Nat → Option (List Char)
  | cs, 0 => some cs
  | [], _ + 1 => none
  | c :: cs, i + 1 =>
    if (encodeChar c).length ≤ i + 1 then dropOctets? cs (i + 1 - (encodeChar c).length) else none

/-! ## One character -/

section Single

variable {c d : Char} {b : UInt8}

theorem toNat_lt (c : Char) : c.toNat < 0x110000 := by
  have hvalid := c.valid
  have hval : c.val.toNat = c.toNat := rfl
  simp only [UInt32.isValidChar, Nat.isValidChar, hval] at hvalid
  omega

/-- The octets of a character are those of the library. -/
theorem encodeChar_eq_utf8EncodeChar (c : Char) : encodeChar c = String.utf8EncodeChar c := by
  have hlt := toNat_lt c
  have hval : c.val.toNat = c.toNat := rfl
  have hoctet : ∀ {n m : Nat}, n = m → UInt8.ofNat n = UInt8.ofNat m := congrArg _
  simp only [encodeChar, String.utf8EncodeChar, hval, Nat.div_one, ← Nat.lt_succ_iff]
  split_ifs with hone htwo hthree
  · rfl
  · rw [hoctet (show 0xC0 + c.toNat / 64 = c.toNat / 64 % 32 + 192 by omega),
      Nat.add_comm 0x80]
  · rw [hoctet (show 0xE0 + c.toNat / 4096 = c.toNat / 4096 % 16 + 224 by omega),
      Nat.add_comm 0x80, Nat.add_comm 0x80]
  · rw [hoctet (show 0xF0 + c.toNat / 262144 = c.toNat / 262144 % 8 + 240 by omega),
      Nat.add_comm 0x80, Nat.add_comm 0x80, Nat.add_comm 0x80]

theorem encodeChar_ne_nil (c : Char) : encodeChar c ≠ [] := by
  rw [encodeChar_eq_utf8EncodeChar]
  exact String.utf8EncodeChar_ne_nil

theorem encodeChar_of_lt (h : c.toNat < 0x80) : encodeChar c = [UInt8.ofNat c.toNat] := by
  rw [encodeChar]
  exact if_pos h

/-- Other characters than the first 128 have octets of 0x80 and more. -/
theorem le_of_mem_encodeChar (h : 0x80 ≤ c.toNat) (hb : b ∈ encodeChar c) : 0x80 ≤ b.toNat := by
  have hlt := toNat_lt c
  have hoctet : ∀ {n : Nat}, 0x80 ≤ n → n < 256 → 0x80 ≤ (UInt8.ofNat n).toNat :=
    fun hle hlt => by rwa [UInt8.toNat_ofNat_of_lt' hlt]
  simp only [encodeChar, Nat.div_one] at hb
  split_ifs at hb with hone htwo hthree
  · omega
  all_goals
    simp only [List.mem_cons, List.not_mem_nil, or_false] at hb
    rcases hb with rfl | hb
    · exact hoctet (by omega) (by omega)
  · subst hb
    exact hoctet (by omega) (by omega)
  · rcases hb with rfl | rfl <;> exact hoctet (by omega) (by omega)
  · rcases hb with rfl | rfl | rfl <;> exact hoctet (by omega) (by omega)

/-- An octet of one of the first 128 characters is that character. -/
theorem eq_of_mem_encodeChar (hd : d.toNat < 0x80) (h : UInt8.ofNat d.toNat ∈ encodeChar c) :
    c = d := by
  have hvalue : (UInt8.ofNat d.toNat).toNat = d.toNat :=
    UInt8.toNat_ofNat_of_lt' (Nat.lt_trans hd (by decide))
  by_cases hc : c.toNat < 0x80
  · rw [encodeChar_of_lt hc, List.mem_singleton] at h
    have hsame := congrArg UInt8.toNat h
    rw [hvalue, UInt8.toNat_ofNat_of_lt' (Nat.lt_trans hc (by decide))] at hsame
    exact Char.toNat_inj.mp hsame.symm
  · have hle := le_of_mem_encodeChar (Nat.le_of_not_lt hc) h
    omega

end Single

/-! ## Texts -/

section Texts

variable {cs front back : List Char} {octets rest : List UInt8} {c : Char} {i : Nat}

theorem encode_append (xs ys : List Char) : encode (xs ++ ys) = encode xs ++ encode ys :=
  List.flatMap_append

theorem encode_cons (c : Char) (cs : List Char) : encode (c :: cs) = encodeChar c ++ encode cs :=
  List.flatMap_cons

/-- Texts with the same octets are the same. -/
theorem encode_injective : Function.Injective encode := by
  have hencode : ∀ cs : List Char, (encode cs).toByteArray = cs.utf8Encode := fun cs => by
    rw [encode, funext encodeChar_eq_utf8EncodeChar, List.utf8Encode]
  intro cs ds h
  have hdecode : cs.utf8Encode.utf8Decode? = ds.utf8Encode.utf8Decode? := by
    rw [← hencode, ← hencode, h]
  simpa [List.utf8Decode?_utf8Encode] using hdecode

/-- A text is told by its octets, so one without any is empty. -/
theorem encode_eq_nil_iff : encode cs = [] ↔ cs = [] := by
  cases cs with
  | nil => simp [encode]
  | cons c cs => simp [encode_cons, encodeChar_ne_nil]

/-- A text goes on behind the octets of what it starts with. -/
theorem dropOctets?_eq_some_iff :
    dropOctets? cs i = some back ↔ ∃ front, cs = front ++ back ∧ (encode front).length = i := by
  fun_induction dropOctets? cs i with
  | case1 cs =>
      simp only [Option.some.injEq, List.length_eq_zero_iff, encode_eq_nil_iff]
      exact ⟨fun h => ⟨[], h, rfl⟩, fun ⟨front, h, hnil⟩ => by rw [h, hnil]; rfl⟩
  | case2 i =>
      refine iff_of_false nofun ?_
      rintro ⟨front, htext, hlength⟩
      rw [(List.append_eq_nil_iff.mp htext.symm).1] at hlength
      cases hlength
  | case3 c cs i hle ih =>
      rw [ih]
      constructor
      · rintro ⟨front, rfl, hlength⟩
        refine ⟨c :: front, rfl, ?_⟩
        rw [encode_cons, List.length_append, hlength, Nat.add_sub_of_le hle]
      · rintro ⟨front, htext, hlength⟩
        cases front with
        | nil => cases hlength
        | cons d front =>
            obtain ⟨rfl, rfl⟩ := List.cons.inj htext
            rw [encode_cons, List.length_append] at hlength
            exact ⟨front, rfl, by omega⟩
  | case4 c cs i hinside =>
      refine iff_of_false nofun ?_
      rintro ⟨front, htext, hlength⟩
      cases front with
      | nil => cases hlength
      | cons d front =>
          obtain ⟨rfl, rfl⟩ := List.cons.inj htext
          rw [encode_cons, List.length_append] at hlength
          omega

/-- Octets that go on with one of the first 128 characters go on with it between characters. -/
theorem encode_eq_append_cons_iff (hc : c.toNat < 0x80) :
    encode cs = octets ++ UInt8.ofNat c.toNat :: rest ↔
      ∃ front back, cs = front ++ c :: back ∧ encode front = octets ∧ encode back = rest := by
  constructor
  · intro h
    induction cs generalizing octets with
    | nil => simp [encode] at h
    | cons d cs ih =>
        rw [encode_cons] at h
        obtain ⟨octets', rfl, hcs⟩ | ⟨more, hd, hrest⟩ := List.append_eq_append_iff.mp h
        · obtain ⟨front, back, rfl, rfl, hback⟩ := ih hcs
          exact ⟨d :: front, back, rfl, encode_cons d front, hback⟩
        · cases more with
          | nil =>
              obtain ⟨front, back, rfl, hfront, hback⟩ := @ih [] hrest.symm
              refine ⟨d :: front, back, rfl, ?_, hback⟩
              rw [encode_cons, hfront, hd, List.append_nil, List.append_nil]
          | cons b more =>
              -- the octet stands in the character, which is the one that it is an octet of
              obtain ⟨rfl, htail⟩ := List.cons.inj hrest
              obtain rfl : d = c := eq_of_mem_encodeChar hc (by rw [hd]; simp)
              rw [encodeChar_of_lt hc] at hd
              obtain ⟨rfl, hmore⟩ | ⟨-, hnil⟩ := List.append_eq_singleton_iff.mp hd.symm
              · obtain rfl : [] = more := (List.cons.inj hmore).2.symm
                exact ⟨[], cs, rfl, rfl, htail.symm⟩
              · cases hnil
  · rintro ⟨front, back, rfl, rfl, rfl⟩
    rw [encode_append, encode_cons, encodeChar_of_lt hc, List.singleton_append]

end Texts

end TtpConformance.Text.Utf8
