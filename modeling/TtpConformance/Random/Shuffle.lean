import TtpConformance.Random.WordSource

/-!
# Shuffling

The Fisher–Yates shuffle from the last position down: the element at each position changes places
with one at a random position that is not behind it.

## Main definitions

* `swap` — a list with two positions exchanged.
* `shuffle` — a random order of a list, if the source has indices to give.
-/

namespace TtpConformance

variable {α ρ : Type}

/-- The list with the elements at two positions exchanged. -/
def swap (xs : List α) (i j : Nat) : List α :=
  match xs[i]?, xs[j]? with
  | some a, some b => (xs.set i b).set j a
  | _, _ => xs

/-- Shuffles the positions up to `i`. -/
def shuffleUpTo (source : WordSource ρ) : Nat → List α → ρ → Option (List α × ρ)
  | 0, xs, state => some (xs, state)
  | i + 1, xs, state =>
    match source.index? (i + 2) state with
    | none => none
    | some (j, state) => shuffleUpTo source i (swap xs (i + 1) j) state

/-- A random order of a list. -/
def shuffle (source : WordSource ρ) (xs : List α) (state : ρ) : Option (List α × ρ) :=
  shuffleUpTo source (xs.length - 1) xs state

end TtpConformance
