import Mathlib.Data.Nat.Digits.Defs
import TtpConformance.Proofs.Text.Words
import TtpConformance.Text.Numeral

/-!
# Printed numbers are read back

Decimal digits are printed from the last one up, and read from the first one down with
the value so far.  The value so far is the number that the digits read so far print, so
it never passes the number itself; a number within the bound is therefore read to its
end, and the result is that number.

Digits need not be those that are printed: with zeros in front, or behind a plus sign, they
are read too, as the number that they write in their radix.  What has any other character
in it, or is over the bound, is not read at all.

## Main definitions

* `Radix.Writes`, `Radix.IsNumeral` — digits that write a number, and with a sign.
* `decimalValue` — the number that decimal digits write.

## Main statements

* `readNat_digits`, `readUInt64_digits` — the digits of a number are read as that number.
* `readNat_eq_ok_iff`, `readUInt64_eq_ok_iff_isNumeral` — what is read, in any radix.
* `readUInt64_eq_ok_iff` — what digits are read as.
* `isDigit_of_mem_digits`, `digits_ne_nil`, `head?_digits_ne_zero`, `length_digits_le` — what
  the digits of a number look like.
* `isHexDigit_of_isDigit`, `isBlank_eq_false_of_isHexDigit` — classes of characters.
-/

namespace TtpConformance.Text

/-! ## Classes of characters -/

/-- A hexadecimal digit is in one of three runs of characters. -/
theorem isHexDigit_iff {c : Char} :
    isHexDigit c = true ↔
      ('0' ≤ c ∧ c ≤ '9') ∨ ('a' ≤ c ∧ c ≤ 'f') ∨ ('A' ≤ c ∧ c ≤ 'F') := by
  unfold isHexDigit hexDigitValue?
  split
  · simp [*]
  · split
    · simp [*]
    · split <;> simp [*]

theorem isDigit_iff {c : Char} : isDigit c = true ↔ '0' ≤ c ∧ c ≤ '9' := by
  unfold isDigit decimalDigitValue?
  split <;> simp [*]

theorem isHexDigit_of_isDigit {c : Char} (h : isDigit c = true) : isHexDigit c = true :=
  isHexDigit_iff.mpr (.inl (isDigit_iff.mp h))

theorem isBlank_eq_false_of_isHexDigit {c : Char} (h : isHexDigit c = true) :
    isBlank c = false := by
  have hrange : 0x30 ≤ c.toNat ∧ c.toNat ≤ 0x66 := by
    have hvalue : c.val.toNat = c.toNat := rfl
    simp only [isHexDigit_iff, Char.le_def, UInt32.le_iff_toNat_le, hvalue] at h
    simp at h
    omega
  simp only [isBlank]
  grind

/-! ## Digits -/

theorem decimalDigitValue?_digitChar (n : Nat) :
    decimalDigitValue? (digitChar n) = some (n % 10) := by
  have hall : ∀ d < 10, decimalDigitValue? (Char.ofNat ('0'.toNat + d)) = some d := by decide
  exact hall (n % 10) (Nat.mod_lt n (by decide))

theorem isDigit_digitChar (n : Nat) : isDigit (digitChar n) = true := by
  rw [isDigit, decimalDigitValue?_digitChar]
  rfl

theorem digits_ne_nil (n : Nat) : digits n ≠ [] := by
  rw [digits]
  split <;> simp

theorem isDigit_of_mem_digits {n : Nat} {c : Char} (h : c ∈ digits n) : isDigit c = true := by
  induction n using digits.induct with
  | case1 n hlt =>
      rw [digits, if_pos hlt, List.mem_singleton] at h
      exact h ▸ isDigit_digitChar n
  | case2 n hge ih =>
      rw [digits, if_neg hge, List.mem_append, List.mem_singleton] at h
      rcases h with hfront | rfl
      · exact ih hfront
      · exact isDigit_digitChar n

theorem not_mem_digits {c : Char} (hc : isDigit c = false) (n : Nat) : c ∉ digits n :=
  not_mem_of_forall hc fun _ hd => isDigit_of_mem_digits hd

/-! ## Reading -/

/-- Reading goes on behind what was read, from its value. -/
theorem readDigits_append (radix : Radix) (bound : Nat) (excess : NumeralError) (acc : Nat)
    (xs ys : List Char) :
    readDigits radix bound excess acc (xs ++ ys) =
      (readDigits radix bound excess acc xs).bind fun value =>
        readDigits radix bound excess value ys := by
  induction xs generalizing acc with
  | nil => rfl
  | cons c xs ih =>
      simp only [List.cons_append, readDigits]
      split
      · rfl
      · split
        · rfl
        · exact ih _

theorem readDigits_digits {bound n : Nat} (excess : NumeralError) (h : n ≤ bound) :
    readDigits .decimal bound excess 0 (digits n) = .ok n := by
  induction n using digits.induct with
  | case1 n hlt =>
      have hmod : n % 10 = n := Nat.mod_eq_of_lt hlt
      rw [digits, if_pos hlt]
      simp [readDigits, Radix.decimal, decimalDigitValue?_digitChar, hmod, Nat.not_lt.mpr h]
  | case2 n hge ih =>
      have hfront := ih (Nat.le_trans (Nat.div_le_self n 10) h)
      have hvalue : n / 10 * 10 + n % 10 = n := Nat.div_add_mod' n 10
      rw [digits, if_neg hge, readDigits_append, hfront]
      simp [Except.bind, readDigits, Radix.decimal, decimalDigitValue?_digitChar, hvalue,
        Nat.not_lt.mpr h]

/-- Only zero is printed with a zero in front. -/
theorem head?_digits_ne_zero {n : Nat} (h : 0 < n) : (digits n).head? ≠ some '0' := by
  induction n using digits.induct with
  | case1 n hlt =>
      have hall : ∀ d < 10, 0 < d → digitChar d ≠ '0' := by decide
      rw [digits, if_pos hlt, List.head?_cons]
      exact fun heq => hall n hlt h (Option.some.inj heq)
  | case2 n hge ih =>
      obtain ⟨c, cs, hfront⟩ := List.exists_cons_of_ne_nil (digits_ne_nil (n / 10))
      rw [digits, if_neg hge, hfront, List.cons_append, List.head?_cons]
      rw [hfront] at ih
      exact ih (by omega)

/-- A number has at most as many digits as the bounds that it is under. -/
theorem length_digits_le {n k : Nat} (hk : 0 < k) (h : n < 10 ^ k) : (digits n).length ≤ k := by
  induction n using digits.induct generalizing k with
  | case1 n hlt => rwa [digits, if_pos hlt]
  | case2 n hge ih =>
      obtain ⟨k, rfl⟩ := Nat.exists_eq_succ_of_ne_zero (Nat.ne_of_gt hk)
      have hpos : 0 < k := by
        rcases k with _ | k
        · exact absurd h hge
        · exact Nat.succ_pos k
      have hfront := ih hpos (by rw [Nat.pow_succ] at h; omega)
      rw [digits, if_neg hge, List.length_append]
      exact Nat.succ_le_succ hfront

/-- A number within the bound is read from its digits. -/
theorem readNat_digits {bound n : Nat} (h : n ≤ bound) :
    readNat .decimal bound (digits n) = .ok n := by
  have hread := readDigits_digits .tooLarge h
  have hplus : '+' ∉ digits n := not_mem_digits rfl n
  unfold readNat
  split
  · rename_i hnil
    exact absurd hnil (digits_ne_nil n)
  · rename_i heq
    simp [heq] at hplus
  · rename_i heq
    simp [heq] at hplus
  · exact hread

theorem readUInt64_digits (n : UInt64) : readUInt64 (digits n.toNat) = .ok n := by
  have hbound : n.toNat ≤ UInt64.size - 1 := Nat.le_pred_of_lt n.toNat_lt_size
  rw [readUInt64, readNat_digits hbound]
  simp [Except.map]

/-! ## Values -/

/-- The number that digits of a radix write, units last. -/
def Radix.value (radix : Radix) (cs : List Char) : Nat :=
  Nat.ofDigits radix.base (cs.reverse.map fun c => (radix.value? c).getD 0)

/-- Digits of a radix, at least one, that write a number. -/
structure Radix.Writes (radix : Radix) (digits : List Char) (n : Nat) : Prop where
  ne_nil : digits ≠ []
  isDigit : ∀ c ∈ digits, (radix.value? c).isSome = true
  value_eq : radix.value digits = n

/-- A written number: digits, or digits behind a plus sign. -/
def Radix.IsNumeral (radix : Radix) (text : List Char) (n : Nat) : Prop :=
  ∃ digits, (text = digits ∨ text = '+' :: digits) ∧ radix.Writes digits n

theorem Radix.value_cons (radix : Radix) (c : Char) (cs : List Char) :
    radix.value (c :: cs) =
      (radix.value? c).getD 0 * radix.base ^ cs.length + radix.value cs := by
  simp [Radix.value, Nat.ofDigits_append]
  ring

/-- Behind digits of value `acc`, reading goes on as long as there are digits and the bound
is kept, and then to the number that all of them write. -/
theorem readDigits_eq_ok_iff {radix : Radix} {bound acc n : Nat} {cs : List Char}
    (excess : NumeralError) (hbase : 0 < radix.base) (hacc : acc ≤ bound) :
    readDigits radix bound excess acc cs = .ok n ↔
      (∀ c ∈ cs, (radix.value? c).isSome = true) ∧
        acc * radix.base ^ cs.length + radix.value cs = n ∧ n ≤ bound := by
  induction cs generalizing acc with
  | nil =>
      have hvalue : radix.value [] = 0 := rfl
      simp only [readDigits, Except.ok.injEq, hvalue, List.length_nil]
      grind
  | cons c cs ih =>
      cases hc : radix.value? c with
      | none => simp [readDigits, hc]
      | some d =>
          have htotal : acc * radix.base ^ (c :: cs).length + radix.value (c :: cs) =
              (acc * radix.base + d) * radix.base ^ cs.length + radix.value cs := by
            rw [Radix.value_cons, hc, List.length_cons, Nat.pow_succ, Option.getD_some]
            ring
          have hgrows : acc * radix.base + d ≤
              (acc * radix.base + d) * radix.base ^ cs.length :=
            Nat.le_mul_of_pos_right _ (Nat.pow_pos hbase)
          rw [htotal, List.forall_mem_cons, hc]
          simp only [readDigits, hc, Option.isSome_some, true_and]
          by_cases hexcess : bound < acc * radix.base + d
          · rw [if_pos hexcess]
            refine iff_of_false nofun ?_
            rintro ⟨-, hn, hbound⟩
            omega
          · rw [if_neg hexcess]
            exact ih (by omega)

/-- What is read up to a bound are the numbers within it, a plus sign in front or not. -/
theorem readNat_eq_ok_iff {radix : Radix} {bound n : Nat} {text : List Char}
    (hbase : 0 < radix.base) (hplus : radix.value? '+' = none) :
    readNat radix bound text = .ok n ↔ radix.IsNumeral text n ∧ n ≤ bound := by
  have hdigits : ∀ digits : List Char, digits ≠ [] →
      (readDigits radix bound .tooLarge 0 digits = .ok n ↔
        radix.Writes digits n ∧ n ≤ bound) := by
    intro digits hne
    rw [readDigits_eq_ok_iff .tooLarge hbase (Nat.zero_le bound), Nat.zero_mul, Nat.zero_add]
    exact ⟨fun ⟨hall, hvalue, hbound⟩ => ⟨⟨hne, hall, hvalue⟩, hbound⟩,
      fun ⟨⟨_, hall, hvalue⟩, hbound⟩ => ⟨hall, hvalue, hbound⟩⟩
  have hunsigned : ∀ digits : List Char, ¬ radix.Writes ('+' :: digits) n := by
    intro digits hwrites
    have hdigit := hwrites.isDigit '+' List.mem_cons_self
    rw [hplus] at hdigit
    cases hdigit
  fun_cases readNat radix bound text with
  | case1 =>
      refine iff_of_false nofun ?_
      rintro ⟨⟨digits, rfl | h, hwrites⟩, -⟩
      · exact hwrites.ne_nil rfl
      · cases h
  | case2 =>
      refine iff_of_false nofun ?_
      rintro ⟨⟨digits, rfl | h, hwrites⟩, -⟩
      · exact hunsigned [] hwrites
      · cases h
        exact hwrites.ne_nil rfl
  | case3 digits hne =>
      rw [hdigits digits hne]
      refine and_congr_left fun _ => ⟨fun h => ⟨digits, .inr rfl, h⟩, ?_⟩
      rintro ⟨other, rfl | h, hwrites⟩
      · exact absurd hwrites (hunsigned digits)
      · cases h
        exact hwrites
  | case4 text hne _ hsign =>
      rw [hdigits text hne]
      refine and_congr_left fun _ => ⟨fun h => ⟨text, .inl rfl, h⟩, ?_⟩
      rintro ⟨digits, rfl | rfl, hwrites⟩
      · exact hwrites
      · exact absurd rfl (hsign digits)

/-- A number of 64 bits is read from each of its numerals, and from nothing else. -/
theorem readUInt64_eq_ok_iff_isNumeral {text : List Char} {n : UInt64} :
    readUInt64 text = .ok n ↔ Radix.decimal.IsNumeral text n.toNat := by
  have hsize : n.toNat < UInt64.size := n.toNat_lt_size
  have hread : ∀ m, readNat .decimal (UInt64.size - 1) text = .ok m ↔
      Radix.decimal.IsNumeral text m ∧ m ≤ UInt64.size - 1 := fun m =>
    readNat_eq_ok_iff (by decide) (by decide)
  rw [readUInt64]
  constructor
  · intro h
    cases hm : readNat .decimal (UInt64.size - 1) text with
    | error e =>
        rw [hm] at h
        cases h
    | ok m =>
        rw [hm] at h
        cases h
        obtain ⟨hnumeral, hbound⟩ := (hread m).mp hm
        rwa [UInt64.toNat_ofNat_of_lt' (Nat.lt_of_le_pred (by decide) hbound)]
  · intro h
    rw [(hread n.toNat).mpr ⟨h, Nat.le_pred_of_lt hsize⟩]
    simp [Except.map]

/-! ## Decimal digits -/

/-- The number that decimal digits write, units last. -/
def decimalValue (cs : List Char) : Nat :=
  Nat.ofDigits 10 (cs.reverse.map fun c => c.toNat - '0'.toNat)

theorem value_decimal {cs : List Char} (hdigits : ∀ c ∈ cs, isDigit c = true) :
    Radix.decimal.value cs = decimalValue cs := by
  have hvalue : ∀ c ∈ cs.reverse, (Radix.decimal.value? c).getD 0 = c.toNat - '0'.toNat := by
    intro c hc
    have hrange := isDigit_iff.mp (hdigits c (List.mem_reverse.mp hc))
    simp [Radix.decimal, decimalDigitValue?, hrange]
  rw [Radix.value, decimalValue, List.map_congr_left hvalue]
  rfl

/-- Digits alone are read as the number that they write, if it has 64 bits. -/
theorem readUInt64_eq_ok_iff {cs : List Char} (hne : cs ≠ [])
    (hdigits : ∀ c ∈ cs, isDigit c = true) (n : UInt64) :
    readUInt64 cs = .ok n ↔ decimalValue cs = n.toNat := by
  rw [readUInt64_eq_ok_iff_isNumeral, ← value_decimal hdigits]
  constructor
  · rintro ⟨digits, rfl | rfl, hwrites⟩
    · exact hwrites.value_eq
    · exact absurd (hdigits '+' List.mem_cons_self) (by decide)
  · exact fun hvalue => ⟨cs, .inl rfl, hne, hdigits, hvalue⟩

end TtpConformance.Text
