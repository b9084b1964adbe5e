import Mathlib.Data.List.Basic
import TtpConformance.Proofs.Random.Shuffle

/-!
# Every order comes out of a shuffle

A shuffle can be read backwards.  The element that is to be last stands somewhere, and
the first index has to be that place; what is before it then has to be shuffled into the
rest of the order.  So every order of a list has its indices.

An index below `n` has its word as well.  Words are cut into `n` stretches of equal
length, and the first word of a stretch is past the cut by less than `n`, which is never
too far for it to be usable.  One word for each index is therefore enough, and no source
has to be asked twice.

## Main definitions

* `WordSource.wordFor` — the first word that gives an index.
* `WordSource.Gives` — the words that a source gives between two states.

## Main statements

* `WordSource.index?_wordFor` — such a word gives its index at once.
* `WordSource.gives_cyclic` — a repeated list gives its words.
* `exists_words_shuffle` — words for any order.
-/

namespace TtpConformance

open List (Perm)
open scoped List

variable {α ρ : Type}

/-! ## Words for indices -/

namespace WordSource

/-- The first of the words that give the index `j` below `n`. -/
def wordFor (n j : Nat) : UInt32 :=
  .ofNat ((j * UInt32.size + (n - 1)) / n)

section Words

variable {n j : Nat}

/-- The product with `n` is past `j` whole ranges of words by less than `n`. -/
theorem exists_wordFor_mul (hn : n ≤ UInt32.size) (hj : j < n) :
    ∃ low < n, (wordFor n j).toNat * n = j * UInt32.size + low := by
  have hdiv := Nat.div_add_mod' (j * UInt32.size + (n - 1)) n
  have hmod : (j * UInt32.size + (n - 1)) % n < n := Nat.mod_lt _ (by omega)
  have hlt : (j * UInt32.size + (n - 1)) / n < UInt32.size := by
    apply Nat.div_lt_of_lt_mul
    have hrange : (j + 1) * UInt32.size ≤ n * UInt32.size := Nat.mul_le_mul_right _ hj
    rw [Nat.succ_mul] at hrange
    omega
  have hword : (wordFor n j).toNat = (j * UInt32.size + (n - 1)) / n :=
    UInt32.toNat_ofNat_of_lt' hlt
  refine ⟨n - 1 - (j * UInt32.size + (n - 1)) % n, by omega, ?_⟩
  rw [hword]
  omega

theorem indexOf_wordFor (hn : n ≤ UInt32.size) (hj : j < n) : indexOf n (wordFor n j) = j := by
  obtain ⟨low, hlow, hmul⟩ := exists_wordFor_mul hn hj
  have hlt : low < UInt32.size := by omega
  calc (wordFor n j).toNat * n / UInt32.size
      = (low + j * UInt32.size) / UInt32.size := by rw [hmul, Nat.add_comm]
    _ = low / UInt32.size + j := Nat.add_mul_div_right _ _ (by decide)
    _ = j := by rw [Nat.div_eq_of_lt hlt, Nat.zero_add]

theorem usable_wordFor (hn : n ≤ UInt32.size) (hj : j < n) : usable n (wordFor n j) = true := by
  obtain ⟨low, hlow, hmul⟩ := exists_wordFor_mul hn hj
  have hlt : low < UInt32.size := by omega
  have hrest : (wordFor n j).toNat * n % UInt32.size = low := by
    rw [hmul, Nat.add_comm, Nat.add_mul_mod_self_right, Nat.mod_eq_of_lt hlt]
  have hzone : n ≤ n <<< (31 - n.log2) := by
    rw [Nat.shiftLeft_eq]
    exact Nat.le_mul_of_pos_right n (Nat.two_pow_pos _)
  rw [usable, hrest, zone]
  exact decide_eq_true (by omega)

/-- A source that gives such a word next gives its index, without a second try. -/
theorem index?_wordFor {source : WordSource ρ} {s : ρ} (hpatience : 0 < source.patience)
    (hn : n ≤ UInt32.size) (hj : j < n) (hnext : (source.next s).1 = wordFor n j) :
    source.index? n s = some (j, (source.next s).2) := by
  obtain ⟨tries, htries⟩ := Nat.exists_eq_succ_of_ne_zero (Nat.ne_of_gt hpatience)
  simp only [index?, htries, drawIndex?, hnext, usable_wordFor hn hj, indexOf_wordFor hn hj,
    if_true]

end Words

/-- Between two states, the source gives these words. -/
def Gives (source : WordSource ρ) : List UInt32 → ρ → ρ → Prop
  | [], s, s' => s = s'
  | word :: words, s, s' =>
    (source.next s).1 = word ∧ source.Gives words (source.next s).2 s'

/-- A repeated list gives its words in order and is then at its start again. -/
theorem gives_cyclic (words : Array UInt32) : (cyclic words).Gives words.toList 0 0 := by
  have hfrom : ∀ left k, k + left = words.size →
      (cyclic words).Gives (words.toList.drop k) (k % words.size) 0 := by
    intro left
    induction left with
    | zero =>
        rintro k rfl
        rw [List.drop_of_length_le (by simp), Nat.mod_self]
        rfl
    | succ left ih =>
        intro k hk
        have hlt : k < words.size := by omega
        have hmod : k % words.size = k := Nat.mod_eq_of_lt hlt
        have hrest := ih (k + 1) (by omega)
        rw [List.drop_eq_getElem_cons (by simpa using hlt)]
        constructor
        · simp [cyclic, hmod, hlt]
        · simpa [cyclic, hmod] using hrest
  simpa using hfrom words.size 0 (Nat.zero_add _)

end WordSource

/-! ## Orders -/

/-- The last of the elements in front changes places with one of them. -/
theorem swap_concat {front : List α} {x a : α} {j : Nat} (ha : (front ++ [x])[j]? = some a)
    (back : List α) :
    swap (front ++ x :: back) front.length j = front.set j x ++ a :: back := by
  have hlast : (front ++ x :: back)[front.length]? = some x := by simp
  obtain ⟨hj, rfl⟩ := List.getElem?_eq_some_iff.mp ha
  have hat : (front ++ x :: back)[j]? = some (front ++ [x])[j] := by
    rw [← ha, List.append_cons, List.getElem?_append_left hj]
  have hle : j ≤ front.length := by simpa [Nat.lt_succ_iff] using hj
  rw [swap, hlast, hat]
  rcases Nat.lt_or_eq_of_le hle with hlt | rfl
  · simp [List.set_append_left _ _ hlt]
  · simp [List.set_eq_of_length_le]

/-- There are words for every order of the elements that are still to be shuffled.  Those
behind them stay where they are. -/
theorem exists_words_shuffleUpTo {i : Nat} {front order : List α}
    (hlength : front.length = i + 1) (hsize : i < UInt32.size) (hperm : order ~ front) :
    ∃ words : List UInt32, words.length = i ∧
      ∀ (source : WordSource ρ) (back : List α) (s s' : ρ), words.length ≤ source.patience →
        source.Gives words s s' →
        shuffleUpTo source i (front ++ back) s = some (order ++ back, s') := by
  induction i generalizing front order with
  | zero =>
      obtain ⟨x, rfl⟩ := List.length_eq_one_iff.mp hlength
      obtain rfl := List.perm_singleton.mp hperm
      refine ⟨[], rfl, fun source back s s' _ hgives => ?_⟩
      obtain rfl : s = s' := hgives
      rfl
  | succ i ih =>
      have hlast : ∀ xs : List α, xs.length = i + 2 → ∃ init x, xs = init ++ [x] := fun xs hxs =>
        (List.eq_nil_or_concat' xs).resolve_left (by rintro rfl; cases hxs)
      obtain ⟨init, x, rfl⟩ := hlast front hlength
      obtain ⟨order, a, rfl⟩ := hlast order (hperm.length_eq.trans hlength)
      have hinit : init.length = i + 1 := by simpa using hlength
      -- the element that is to be last stands at `j`
      obtain ⟨j, hj⟩ := List.mem_iff_getElem?.mp (hperm.subset (by simp : a ∈ order ++ [a]))
      have hlt : j < i + 2 := by
        obtain ⟨hlt, -⟩ := List.getElem?_eq_some_iff.mp hj
        exact hlength ▸ hlt
      have hrest : order ~ init.set j x := by
        have hswap : init.set j x ++ [a] ~ init ++ [x] := by
          rw [← swap_concat hj []]
          exact swap_perm _ _ _
        exact (List.perm_append_right_iff [a]).mp (hperm.trans hswap.symm)
      obtain ⟨words, hwords, hshuffle⟩ := ih (by simpa using hinit) (by omega) hrest
      refine ⟨WordSource.wordFor (i + 2) j :: words, by rw [List.length_cons, hwords], ?_⟩
      rintro source back s s' hpatience ⟨hnext, hgives⟩
      rw [List.length_cons] at hpatience
      have hindex := WordSource.index?_wordFor (by omega) hsize hlt hnext
      have hswap : swap (init ++ [x] ++ back) (i + 1) j = init.set j x ++ a :: back := by
        rw [← hinit, List.append_assoc]
        exact swap_concat hj back
      have hlater := hshuffle source (a :: back) _ s' (by omega) hgives
      rw [shuffleUpTo, hindex, List.append_assoc order]
      show shuffleUpTo source i (swap (init ++ [x] ++ back) (i + 1) j) _ = _
      rw [hswap]
      exact hlater

/-- Every order of a list comes out of its shuffle, for one word less than there are
elements. -/
theorem exists_words_shuffle {xs order : List α} (hsize : xs.length ≤ UInt32.size)
    (hperm : order ~ xs) :
    ∃ words : List UInt32, words.length = xs.length - 1 ∧
      ∀ (source : WordSource ρ) (s s' : ρ), words.length ≤ source.patience →
        source.Gives words s s' → shuffle source xs s = some (order, s') := by
  rcases Nat.eq_zero_or_pos xs.length with hzero | hpos
  · obtain rfl := List.eq_nil_of_length_eq_zero hzero
    obtain rfl := List.perm_nil.mp hperm
    refine ⟨[], rfl, fun source s s' _ hgives => ?_⟩
    obtain rfl : s = s' := hgives
    rfl
  · obtain ⟨words, hwords, hshuffle⟩ :=
      exists_words_shuffleUpTo (i := xs.length - 1) (by omega) (by omega) hperm
    refine ⟨words, hwords, fun source s s' hpatience hgives => ?_⟩
    simpa [shuffle] using hshuffle source [] s s' hpatience hgives

end TtpConformance
