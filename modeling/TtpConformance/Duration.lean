import TtpConformance.Double.Basic

/-!
# Durations

Pauses in whole nanoseconds. A duration has fewer than `2 ^ 64` seconds, so a sum of two may not
be one.

## Main definitions

* `Duration` — with the constructors `ofSeconds`, `ofMillis`, `ofMicros`.
* `Duration.add?` — the sum, if it is a duration.
* `Duration.ofDouble?` — seconds given as a double.
-/

namespace TtpConformance

/-- Nanoseconds in a second. -/
def nanosPerSecond : Nat := 1000000000

/-- A length of time of fewer than `2 ^ 64` seconds. -/
structure Duration where
  nanos : Nat
  fits : nanos < UInt64.size * nanosPerSecond
  deriving DecidableEq

namespace Duration

/-- No time at all. -/
def zero : Duration := ⟨0, by decide⟩

/-- Whole seconds. -/
def ofSeconds (n : UInt64) : Duration :=
  ⟨n.toNat * nanosPerSecond, by
    have := n.toNat_lt_size
    simp only [nanosPerSecond, UInt64.size] at *; omega⟩

/-- Whole milliseconds. -/
def ofMillis (n : UInt64) : Duration :=
  ⟨n.toNat * 1000000, by
    have := n.toNat_lt_size
    simp only [nanosPerSecond, UInt64.size] at *; omega⟩

/-- Whole microseconds. -/
def ofMicros (n : UInt64) : Duration :=
  ⟨n.toNat * 1000, by
    have := n.toNat_lt_size
    simp only [nanosPerSecond, UInt64.size] at *; omega⟩

/-- The whole milliseconds in a duration. -/
def millis (d : Duration) : Nat := d.nanos / 1000000

/-- A number of nanoseconds, if there are few enough. -/
def ofNanos? (n : Nat) : Option Duration :=
  if h : n < UInt64.size * nanosPerSecond then some ⟨n, h⟩ else none

/-- The sum of two durations, if it is one. -/
def add? (a b : Duration) : Option Duration :=
  ofNanos? (a.nanos + b.nanos)

/--
Seconds given as a double, to the nearest nanosecond of the exact value and a half to the even
one. Negative numbers (negative zero is none), NaN, infinity and `2 ^ 64` seconds or more are no
duration.
-/
def ofDouble? : Double → Option Duration
  | .nan => none
  | .infinite _ => none
  | .finite negative m e =>
    if negative ∧ m ≠ 0 then none
    else
      let (num, den) := (m <<< e.toNat, 1 <<< (-e).toNat)
      if UInt64.size * den ≤ num then none
      else ofNanos? (roundHalfEven (num * nanosPerSecond) den)

end Duration

end TtpConformance
