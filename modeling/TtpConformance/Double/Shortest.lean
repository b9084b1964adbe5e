import TtpConformance.Double.Basic
import TtpConformance.Text.Numeral

/-!
# Printing doubles

A double prints as the shortest decimal that reads back as it, the nearest of those to its value,
always in positional notation: no exponent, and no point behind a whole number.

For a number of digits, only the two decimals of that many digits around the value can be the
answer, so the search tests those for one digit, two digits and so on, up to seventeen, which
always suffice.

## Main definitions

* `Double.Decimal` — a whole number times a power of ten.
* `Double.shortest` — the decimal to print.
* `Double.text` — the printed form.
-/

namespace TtpConformance.Double

/-- The number `coefficient * 10 ^ exponent`. -/
structure Decimal where
  coefficient : Nat
  exponent : Int

/-- The exponent of the greatest power of ten that is at most `m * 2 ^ e`, for positive `m`. The
number is first scaled by `10 ^ 400`, which makes it greater than one. -/
def floorLog10 (m : Nat) (e : Int) : Int :=
  let t := if 0 ≤ e then (m <<< e.toNat) * Nat.pow 10 400 else (m * Nat.pow 10 400) >>> (-e).toNat
  ((Text.digits t).length : Int) - 401

/-- The value `m * 2 ^ e` on the grid of `10 ^ g`: the factors `a`, `b` with
`m * 2 ^ e = (m * a / b) * 10 ^ g`. -/
def gridFactors (e g : Int) : Nat × Nat :=
  (Nat.pow 10 (-g).toNat <<< e.toNat, Nat.pow 10 g.toNat <<< (-e).toNat)

/-- Whether `c * 10 ^ g` reads back as `m * 2 ^ e`: it lies between the midpoints to the two
neighbours, which themselves count for an even mantissa. Below a power of two the neighbour is
half as far. -/
def readsBack (m : Nat) (e : Int) (a b c : Nat) : Bool :=
  let below := if m = leastNormal ∧ leastExponent < e then 4 * m - 1 else 4 * m - 2
  let above := 4 * m + 2
  let x := 4 * c * b
  if m % 2 = 0 then below * a ≤ x && x ≤ above * a else below * a < x && x < above * a

/-- The decimal of at most `n` digits that reads back as `m * 2 ^ e`, if there is one. -/
def ofDigits? (m : Nat) (e : Int) (n : Nat) : Option Decimal :=
  let g := floorLog10 m e + 1 - n
  let (a, b) := gridFactors e g
  let lower := m * a / b
  let upper := lower + 1
  match readsBack m e a b lower, readsBack m e a b upper with
  | true, true =>
    some (if m * a - lower * b < upper * b - m * a then ⟨lower, g⟩ else ⟨upper, g⟩)
  | true, false => some ⟨lower, g⟩
  | false, true => some ⟨upper, g⟩
  | false, false => none

/-- The shortest decimal that reads back as `m * 2 ^ e`, for positive `m`. -/
def shortest (m : Nat) (e : Int) : Decimal :=
  ((List.range 17).findSome? fun i => ofDigits? m e (i + 1)).getD ⟨m, e⟩

/-- A decimal in positional notation. -/
def Decimal.text (d : Decimal) : String :=
  let ds := Text.digits d.coefficient
  let zeros := (Text.dropEnd (· == '0') ds).length
  let ds' := ds.take zeros
  let e := d.exponent + ((ds.length - zeros : Nat) : Int)
  if 0 ≤ e then .ofList (ds' ++ List.replicate e.toNat '0')
  else
    let places := (-e).toNat
    if places < ds'.length then
      .ofList (ds'.take (ds'.length - places) ++ '.' :: ds'.drop (ds'.length - places))
    else .ofList ('0' :: '.' :: List.replicate (places - ds'.length) '0' ++ ds')

/-- The printed form of a double. -/
def text : Double → String
  | .nan => "NaN"
  | .infinite negative => if negative then "-inf" else "inf"
  | .finite negative m e =>
    let magnitude := if m = 0 then "0" else (shortest m e).text
    if negative then "-" ++ magnitude else magnitude

end TtpConformance.Double
