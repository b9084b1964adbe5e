import TtpConformance.Random.Shuffle

/-!
# Shuffling keeps the elements

Whatever words the source gives, a shuffle only exchanges elements with each other, so
nothing is lost and nothing comes twice.  The source decides the order alone.

## Main statements

* `swap_perm` — an exchange of two positions.
* `shuffle_perm` — a shuffle, from any source.
-/

namespace TtpConformance

open List (Perm)

variable {α ρ : Type}

/-- Exchanging two elements is a permutation; positions outside the list are left
alone. -/
theorem swap_perm (xs : List α) (i j : Nat) : Perm (swap xs i j) xs := by
  unfold swap
  split
  · rename_i a b hi hj
    obtain ⟨hilt, rfl⟩ := List.getElem?_eq_some_iff.mp hi
    obtain ⟨hjlt, rfl⟩ := List.getElem?_eq_some_iff.mp hj
    exact List.set_set_perm hilt hjlt
  · exact Perm.refl xs

theorem shuffleUpTo_perm (source : WordSource ρ) {i : Nat} {xs ys : List α} {s s' : ρ}
    (h : shuffleUpTo source i xs s = some (ys, s')) : Perm ys xs := by
  induction i generalizing xs s with
  | zero =>
      cases h
      exact Perm.refl _
  | succ i ih =>
      rw [shuffleUpTo] at h
      cases hindex : source.index? (i + 2) s with
      | none =>
          rw [hindex] at h
          cases h
      | some drawn =>
          rw [hindex] at h
          exact (ih h).trans (swap_perm xs (i + 1) drawn.1)

/-- A shuffle gives the elements of the list in some order. -/
theorem shuffle_perm (source : WordSource ρ) {xs ys : List α} {s s' : ρ}
    (h : shuffle source xs s = some (ys, s')) : Perm ys xs :=
  shuffleUpTo_perm source h

end TtpConformance
