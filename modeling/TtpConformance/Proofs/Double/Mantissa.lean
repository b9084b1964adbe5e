import TtpConformance.Double.Literal
import TtpConformance.Proofs.Duration.Seconds

/-!
# Mantissas of 53 bits

A double that is read has a mantissa of at most 53 bits.  The quotient that is rounded to a
mantissa is scaled by its power of two, so it is less than `2 ^ 53`; it may be rounded up to
that, and then the mantissa is halved.

Such numbers lie apart: the greatest one that is less than `2 ^ 64` is `2 ^ 64 - 2 ^ 11`.

## Main definitions

* `Double.IsBinary64` — doubles with such a mantissa.

## Main statements

* `Double.div_lt_two_pow_floorLog2` — the power of two of a quotient.
* `Double.isBinary64_of_read?` — what is read.
* `Double.IsBinary64.le_of_lt` — the greatest number under `2 ^ 64`.
-/

namespace TtpConformance

namespace Double

variable {negative : Bool} {num den m : ℕ} {e : ℤ} {x : Double}

/-- A double whose mantissa has at most 53 bits. -/
def IsBinary64 : Double → Prop
  | .finite _ m _ => m < 2 * leastNormal
  | .infinite _ | .nan => True

/-! ## Rounding -/

/-- A quotient below a whole number is rounded to that number at most. -/
theorem roundHalfEven_le {bound : ℕ} (h : num < bound * den) : roundHalfEven num den ≤ bound := by
  have hdiv : num / den < bound := Nat.div_lt_of_lt_mul (by rwa [Nat.mul_comm])
  unfold roundHalfEven
  dsimp only
  split_ifs <;> omega

theorem scaled_den_pos (hden : 0 < den) : 0 < (scaled num den e).2 := by
  unfold scaled
  split
  · rw [Nat.shiftLeft_eq]
    positivity
  · exact hden

/-- Scaling divides a quotient by a power of two. -/
theorem scaled_div (num den : ℕ) (e : ℤ) :
    ((scaled num den e).1 : ℚ) / (scaled num den e).2 = num / den / 2 ^ e := by
  unfold scaled
  split
  · rename_i hnonneg
    obtain ⟨k, rfl⟩ := Int.eq_ofNat_of_zero_le hnonneg
    simp [Nat.shiftLeft_eq, div_div]
  · rename_i hneg
    obtain ⟨k, rfl⟩ : ∃ k : ℕ, e = -(k : ℤ) := ⟨(-e).toNat, by omega⟩
    simp [Nat.shiftLeft_eq, mul_div_right_comm]

/-- A quotient is under the power of two behind that of its logarithm. -/
theorem div_lt_two_pow_floorLog2 (num : ℕ) (hden : 0 < den) :
    (num : ℚ) / den < 2 ^ (floorLog2 num den + 1) := by
  obtain ⟨e, he⟩ : ∃ e : ℤ, e = (num.log2 : ℤ) - (den.log2 : ℤ) := ⟨_, rfl⟩
  have hpos : (0 : ℚ) < den := by exact_mod_cast hden
  have hwide : (num : ℚ) / den < 2 ^ (e + 1) := by
    have hnum : (num : ℚ) < 2 ^ (num.log2 + 1) := by exact_mod_cast Nat.lt_log2_self
    have hle : (2 : ℚ) ^ den.log2 ≤ den := by exact_mod_cast Nat.log2_self_le hden.ne'
    have hpower : (2 : ℚ) ^ (e + 1) = 2 ^ (num.log2 + 1) / 2 ^ den.log2 := by
      rw [he, ← zpow_natCast, ← zpow_natCast, ← zpow_sub₀ two_ne_zero]
      congr 1
      push_cast
      ring
    rw [hpower]
    calc (num : ℚ) / den < 2 ^ (num.log2 + 1) / den := by gcongr
      _ ≤ 2 ^ (num.log2 + 1) / 2 ^ den.log2 := by gcongr
  unfold floorLog2
  rw [← he]
  dsimp only
  split
  · rename_i hless
    have hscaled : ((scaled num den e).1 : ℚ) / (scaled num den e).2 < 1 := by
      rw [div_lt_one (by exact_mod_cast scaled_den_pos hden)]
      exact_mod_cast hless
    rw [scaled_div, div_lt_one (by positivity)] at hscaled
    rwa [sub_add_cancel]
  · exact hwide

/-- What is rounded to a mantissa is under `2 ^ 53`. -/
theorem scaled_lt (num : ℕ) (hden : 0 < den) (he : floorLog2 num den - 52 ≤ e) :
    (scaled num den e).1 < 2 * leastNormal * (scaled num den e).2 := by
  have hpos : (0 : ℚ) < (scaled num den e).2 := by exact_mod_cast scaled_den_pos hden
  have hpower : (2 : ℚ) ^ (floorLog2 num den + 1) ≤ 2 ^ (53 : ℤ) * 2 ^ e := by
    rw [← zpow_add₀ two_ne_zero]
    exact zpow_le_zpow_right₀ one_le_two (by omega)
  have hquotient : ((scaled num den e).1 : ℚ) / (scaled num den e).2 < 2 ^ (53 : ℤ) := by
    rw [scaled_div, div_lt_iff₀ (by positivity)]
    exact (div_lt_two_pow_floorLog2 num hden).trans_le hpower
  have hbits : (2 : ℚ) ^ (53 : ℤ) = ((2 * leastNormal : ℕ) : ℚ) := by norm_num [leastNormal]
  rw [hbits, div_lt_iff₀ hpos] at hquotient
  exact_mod_cast hquotient

/-! ## Reading -/

theorem isBinary64_ofRatio (negative : Bool) (num : ℕ) (hden : 0 < den) :
    (ofRatio negative num den).IsBinary64 := by
  have hround := roundHalfEven_le
    (scaled_lt num hden (le_max_right leastExponent (floorLog2 num den - 52)))
  unfold ofRatio
  dsimp only
  split_ifs with hfull hlarge hlarge
  · trivial
  · show leastNormal < 2 * leastNormal
    decide
  · trivial
  · exact lt_of_le_of_ne hround hfull

theorem isBinary64_ofScientific (negative : Bool) (n size : ℕ) (e : ℤ) :
    (ofScientific negative n size e).IsBinary64 := by
  unfold ofScientific
  split_ifs
  · show 0 < 2 * leastNormal
    decide
  · trivial
  · exact isBinary64_ofRatio negative _ Nat.one_pos
  · exact isBinary64_ofRatio negative n (Nat.pow_pos (by decide))

theorem isBinary64_of_readUnsigned? {cs : List Char} (h : readUnsigned? negative cs = some x) :
    x.IsBinary64 := by
  unfold readUnsigned? at h
  dsimp only at h
  split_ifs at h
  · cases h
    trivial
  · cases h
    trivial
  · unfold readDecimal? at h
    dsimp only at h
    split_ifs at h
    obtain ⟨e, -, rfl⟩ := Option.map_eq_some_iff.mp h
    exact isBinary64_ofScientific _ _ _ _

/-- What is read has a mantissa of at most 53 bits. -/
theorem isBinary64_of_read? {cs : List Char} (h : read? cs = some x) : x.IsBinary64 := by
  unfold read? at h
  split at h <;> exact isBinary64_of_readUnsigned? h

/-! ## The greatest number under a power of two -/

/-- A number of 53 bits under `2 ^ 64` is at most `2 ^ 64 - 2 ^ 11`. -/
theorem IsBinary64.le_of_lt (hm : m < 2 * leastNormal) (h : (m : ℚ) * 2 ^ e < 2 ^ 64) :
    (m : ℚ) * 2 ^ e ≤ 2 ^ 64 - 2 ^ 11 := by
  by_cases he : e ≤ 11
  · have hle : (m : ℚ) ≤ 2 ^ 53 - 1 := by
      have hsucc : m + 1 ≤ 2 ^ 53 := hm
      have hcast : (m : ℚ) + 1 ≤ 2 ^ 53 := by exact_mod_cast hsucc
      linarith
    have hpower : (2 : ℚ) ^ e ≤ 2 ^ (11 : ℤ) := zpow_le_zpow_right₀ one_le_two he
    calc (m : ℚ) * 2 ^ e ≤ (2 ^ 53 - 1) * 2 ^ (11 : ℤ) := by gcongr
      _ = 2 ^ 64 - 2 ^ 11 := by norm_num
  · -- a multiple of a greater power of two
    obtain ⟨k, rfl⟩ : ∃ k : ℕ, e = (k : ℤ) + 11 := ⟨(e - 11).toNat, by omega⟩
    have hvalue : (m : ℚ) * 2 ^ ((k : ℤ) + 11) = ((m * 2 ^ k * 2 ^ 11 : ℕ) : ℚ) := by
      rw [zpow_add₀ two_ne_zero]
      push_cast
      rw [zpow_natCast]
      ring
    rw [hvalue] at h ⊢
    have hlt : m * 2 ^ k * 2 ^ 11 < 2 ^ 64 := by exact_mod_cast h
    have hle : m * 2 ^ k * 2 ^ 11 + 2 ^ 11 ≤ 2 ^ 64 := by omega
    have hcast : ((m * 2 ^ k * 2 ^ 11 : ℕ) : ℚ) + 2 ^ 11 ≤ 2 ^ 64 := by exact_mod_cast hle
    linarith

end Double

end TtpConformance
