import Mathlib.Algebra.Order.Field.Basic
import Mathlib.Algebra.Order.Field.Power
import Mathlib.Algebra.Order.Ring.Abs
import Mathlib.Data.Rat.Cast.Order
import Mathlib.Tactic.FieldSimp
import Mathlib.Tactic.Linarith
import Mathlib.Tactic.Positivity
import Mathlib.Tactic.Ring
import TtpConformance.Duration

/-!
# Seconds as durations

A double is a number of seconds by its exact value, and it is a duration if some number of
nanoseconds that is one is nearest to that value.  Two numbers of nanoseconds can be equally
near, and then the even one counts, so that there is never more than one.

## Main definitions

* `Double.value?` — the number that a double is.
* `IsNearestEven` — the whole number nearest to a number.
* `Duration.IsSeconds` — the duration of a number of seconds.

## Main statements

* `isNearestEven_roundHalfEven` — a quotient is rounded to the nearest whole number.
* `IsNearestEven.unique` — there is one nearest whole number.
* `Duration.ofDouble?_eq_some_iff` — the durations of doubles.
-/

namespace TtpConformance

/-- The number that a double is, if it is finite. -/
def Double.value? : Double → Option ℚ
  | .nan => none
  | .infinite _ => none
  | .finite negative m e => some ((if negative then -1 else 1) * (m * 2 ^ e))

/-- The whole number nearest to a number, the even one where two are equally near. -/
structure IsNearestEven (n : ℕ) (x : ℚ) : Prop where
  near : |(n : ℚ) - x| ≤ 1 / 2
  even_of_tie : |(n : ℚ) - x| = 1 / 2 → Even n

/-- The duration of a number of seconds, to the nearest nanosecond. -/
structure Duration.IsSeconds (d : Duration) (x : ℚ) : Prop where
  nonneg : 0 ≤ x
  nearest : IsNearestEven d.nanos (x * nanosPerSecond)

/-! ## Nearest whole numbers -/

section Nearest

variable {n n' num den : ℕ} {x : ℚ}

/-- Two whole numbers that are both nearest are apart by one and half-way off, and only one of
them is even. -/
theorem IsNearestEven.unique (h : IsNearestEven n x) (h' : IsNearestEven n' x) : n = n' := by
  by_contra hne
  wlog hlt : n < n' generalizing n n'
  · exact this h' h (Ne.symm hne) (by omega)
  have hnear := abs_le.mp h.near
  have hnear' := abs_le.mp h'.near
  have hstep : (n : ℚ) + 1 ≤ n' := by exact_mod_cast hlt
  have hx : x = n + 1 / 2 := by linarith
  have hsucc : n' = n + 1 := by
    have hcast : (n' : ℚ) = n + 1 := by linarith
    exact_mod_cast hcast
  have heven : Even n := h.even_of_tie (by rw [hx, sub_add_cancel_left, abs_neg]; norm_num)
  have heven' : Even n' := h'.even_of_tie (by rw [hx, hsucc]; push_cast; norm_num)
  rw [hsucc, Nat.even_add_one] at heven'
  exact heven' heven

theorem IsNearestEven.of_lt (h : |(n : ℚ) - x| < 1 / 2) : IsNearestEven n x :=
  ⟨h.le, fun htie => absurd htie h.ne⟩

theorem IsNearestEven.of_even (h : |(n : ℚ) - x| = 1 / 2) (heven : Even n) : IsNearestEven n x :=
  ⟨h.le, fun _ => heven⟩

theorem isNearestEven_roundHalfEven (num : ℕ) (hden : 0 < den) :
    IsNearestEven (roundHalfEven num den) (num / den) := by
  obtain ⟨f, hf⟩ : ∃ f : ℚ, f = (num % den : ℕ) / den := ⟨_, rfl⟩
  have hpos : (0 : ℚ) < den := by exact_mod_cast hden
  have hrest : ((num % den : ℕ) : ℚ) = f * den := by rw [hf]; field_simp
  have hvalue : (num : ℚ) / den = (num / den : ℕ) + f := by
    have hdiv : (num : ℚ) = den * (num / den : ℕ) + (num % den : ℕ) := by
      exact_mod_cast (Nat.div_add_mod num den).symm
    rw [hf]
    field_simp
    linarith
  have hdown : |((num / den : ℕ) : ℚ) - num / den| = f := by
    have hnonneg : 0 ≤ f := by rw [hf]; positivity
    rw [hvalue, sub_add_cancel_left, abs_neg, abs_of_nonneg hnonneg]
  have hup : |((num / den + 1 : ℕ) : ℚ) - num / den| = 1 - f := by
    have hle : f ≤ 1 := by
      rw [hf, div_le_one hpos]
      exact_mod_cast (Nat.mod_lt num hden).le
    rw [hvalue, Nat.cast_succ, add_sub_add_left_eq_sub, abs_of_nonneg (by linarith)]
  unfold roundHalfEven
  dsimp only
  split
  · rename_i hless
    have hf' : f < 1 / 2 := by
      have hcast : 2 * (f * den) < den := by rw [← hrest]; exact_mod_cast hless
      nlinarith
    exact .of_lt (by rw [hdown]; exact hf')
  · split
    · rename_i hmore
      have hf' : 1 / 2 < f := by
        have hcast : den < 2 * (f * den) := by rw [← hrest]; exact_mod_cast hmore
        nlinarith
      exact .of_lt (by rw [hup]; linarith)
    · have hf' : f = 1 / 2 := by
        have htie : 2 * (num % den) = den := by omega
        have hcast : 2 * (f * den) = den := by rw [← hrest]; exact_mod_cast htie
        have hden' : (den : ℚ) ≠ 0 := hpos.ne'
        field_simp at hcast ⊢
        linarith
      split
      · rename_i heven
        exact .of_even (by rw [hdown, hf']) (Nat.even_iff.mpr heven)
      · rename_i hodd
        refine .of_even (by rw [hup, hf']; norm_num) ?_
        rw [Nat.even_add_one, Nat.even_iff]
        exact hodd

end Nearest

/-! ## Doubles -/

section Doubles

variable {m : ℕ} {e : ℤ} {x : ℚ} {d : Duration}

/-- A mantissa with its exponent as a quotient. -/
theorem shifted_div_shifted (m : ℕ) (e : ℤ) :
    ((m <<< e.toNat : ℕ) : ℚ) / (1 <<< (-e).toNat : ℕ) = m * 2 ^ e := by
  rw [Nat.shiftLeft_eq, Nat.shiftLeft_eq]
  push_cast
  obtain ⟨k, rfl | rfl⟩ := Int.eq_nat_or_neg e
  · simp
  · simp [div_eq_mul_inv]

/-- The value of what is not below zero.  Zero may have a sign. -/
theorem Double.value?_finite {negative : Bool} (h : ¬ (negative = true ∧ m ≠ 0)) :
    value? (.finite negative m e) = some ((m : ℚ) * 2 ^ e) := by
  cases negative with
  | false => simp [value?]
  | true =>
      obtain rfl : m = 0 := by simpa using h
      simp [value?]

/-- Less than nothing has a sign, and is not zero. -/
theorem Double.value?_finite_neg (hm : m ≠ 0) (hx : value? (.finite true m e) = some x) :
    x < 0 := by
  obtain rfl := Option.some.inj hx
  have hpos : (0 : ℚ) < m * 2 ^ e := by positivity
  simpa using hpos

namespace Duration

theorem ofNanos?_eq_some_iff {n : ℕ} : ofNanos? n = some d ↔ n = d.nanos := by
  rw [ofNanos?]
  constructor
  · intro h
    split at h
    · cases h
      rfl
    · cases h
  · rintro rfl
    exact dif_pos d.fits

/-- A number of seconds that has a duration is below the bound for whole seconds. -/
theorem IsSeconds.lt (h : IsSeconds d x) : x < UInt64.size := by
  have hnear := (abs_le.mp h.nearest.near).1
  have hfits : (d.nanos : ℚ) + 1 ≤ UInt64.size * nanosPerSecond := by exact_mod_cast d.fits
  have hnanos : (0 : ℚ) < nanosPerSecond := by norm_num [nanosPerSecond]
  refine lt_of_mul_lt_mul_right ?_ hnanos.le
  linarith

/-- Seconds given as a double are the duration that is nearest to their value. -/
theorem ofDouble?_eq_some_iff {seconds : Double} :
    ofDouble? seconds = some d ↔ ∃ x, seconds.value? = some x ∧ IsSeconds d x := by
  cases seconds with
  | nan => simp [ofDouble?, Double.value?]
  | infinite negative => simp [ofDouble?, Double.value?]
  | finite negative m e =>
      have hden : 0 < 1 <<< (-e).toNat := by rw [Nat.shiftLeft_eq]; positivity
      have hquotient := shifted_div_shifted m e
      have hround := isNearestEven_roundHalfEven (m <<< e.toNat * nanosPerSecond) hden
      rw [Nat.cast_mul, mul_div_right_comm, hquotient] at hround
      rw [ofDouble?]
      by_cases hsign : negative = true ∧ m ≠ 0
      · rw [if_pos hsign]
        obtain ⟨rfl, hm⟩ := hsign
        constructor
        · intro h
          cases h
        · rintro ⟨x, hx, hseconds⟩
          exact absurd hseconds.nonneg (not_le.mpr (Double.value?_finite_neg hm hx))
      · rw [if_neg hsign, Double.value?_finite hsign]
        constructor
        · intro h
          split at h
          · cases h
          · rw [ofNanos?_eq_some_iff] at h
            exact ⟨_, rfl, by positivity, h ▸ hround⟩
        · rintro ⟨x, hx, hseconds⟩
          obtain rfl := Option.some.inj hx
          have hlt : ¬ UInt64.size * (1 <<< (-e).toNat) ≤ m <<< e.toNat := by
            have hbound := hseconds.lt
            rw [← hquotient, div_lt_iff₀ (by exact_mod_cast hden)] at hbound
            exact not_le.mpr (by exact_mod_cast hbound)
          rw [if_neg hlt, ofNanos?_eq_some_iff]
          exact hround.unique hseconds.nearest

end Duration

end Doubles

end TtpConformance
