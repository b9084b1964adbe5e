/-!
# Double-precision numbers

Binary floating point of 53 significant bits, by value: a finite number is `m * 2 ^ e` with a sign,
so that reading, printing and conversion are exact arithmetic on natural numbers.

## Main definitions

* `Double` — the numbers, infinities and NaN.
* `roundHalfEven` — a quotient to the nearest whole number, a half to the even neighbour.
* `Double.ofRatio` — the double nearest to a positive quotient.
* `Double.ofScientific` — the double nearest to `n * 10 ^ e`.
-/

namespace TtpConformance

/-- A quotient rounded to the nearest whole number; a half goes to the even neighbour. -/
def roundHalfEven (num den : Nat) : Nat :=
  let q := num / den
  let r := num % den
  if 2 * r < den then q
  else if den < 2 * r then q + 1
  else if q % 2 = 0 then q
  else q + 1

/-- A double-precision number. -/
inductive Double where
  | nan
  | infinite (negative : Bool)
  /-- The number `mantissa * 2 ^ exponent`, less than `2 ^ 53` times a power of two. -/
  | finite (negative : Bool) (mantissa : Nat) (exponent : Int)
  deriving DecidableEq, Repr

namespace Double

/-- Zero of either sign. -/
def zero (negative : Bool) : Double := .finite negative 0 (-1074)

/-- The exponent of the least power of two. -/
def leastExponent : Int := -1074

/-- The least mantissa of 53 bits, `2 ^ 52`. -/
def leastNormal : Nat := 4503599627370496

/-- The quotient `num / den`, multiplied by `2 ^ (-e)`, as numerator and denominator. -/
def scaled (num den : Nat) (e : Int) : Nat × Nat :=
  if 0 ≤ e then (num, den <<< e.toNat) else (num <<< (-e).toNat, den)

/-- The exponent of the greatest power of two that is at most `num / den`. -/
def floorLog2 (num den : Nat) : Int :=
  let e := (num.log2 : Int) - (den.log2 : Int)
  let (n, d) := scaled num den e
  if n < d then e - 1 else e

/-- The double nearest to the positive quotient `num / den`; a half goes to the even mantissa. -/
def ofRatio (negative : Bool) (num den : Nat) : Double :=
  let e := max leastExponent (floorLog2 num den - 52)
  let (n, d) := scaled num den e
  let m := roundHalfEven n d
  let (m, e) := if m = 2 * leastNormal then (leastNormal, e + 1) else (m, e)
  if leastNormal ≤ m ∧ 972 ≤ e then .infinite negative else .finite negative m e

/--
The double nearest to `n * 10 ^ e`, where `n` has `size` decimal digits. Numbers outside
`10 ^ (-400)` to `10 ^ 400` are zero and infinity without any arithmetic.
-/
def ofScientific (negative : Bool) (n size : Nat) (e : Int) : Double :=
  if n = 0 ∨ (size : Int) + e < -400 then zero negative
  else if 400 < (size : Int) + e then .infinite negative
  else if 0 ≤ e then ofRatio negative (n * Nat.pow 10 e.toNat) 1
  else ofRatio negative n (Nat.pow 10 (-e).toNat)

end Double

end TtpConformance
