/-!
# Octets and text

Programs write octets; answers show text. Decoding replaces each maximal ill-formed part by one
replacement character, a part being the longest beginning of a well-formed sequence that the
octets still have, or a single octet that begins none.

## Main definitions

* `encode` — the octets of a text.
* `decodeLossy` — a text for any octets.
-/

namespace TtpConformance.Text.Utf8

/-- The octets of one character. -/
def encodeChar (c : Char) : List UInt8 :=
  let n := c.toNat
  let continuation (k : Nat) : UInt8 := UInt8.ofNat (0x80 + n / k % 64)
  if n < 0x80 then [UInt8.ofNat n]
  else if n < 0x800 then [UInt8.ofNat (0xC0 + n / 64), continuation 1]
  else if n < 0x10000 then [UInt8.ofNat (0xE0 + n / 4096), continuation 64, continuation 1]
  else [UInt8.ofNat (0xF0 + n / 262144), continuation 4096, continuation 64, continuation 1]

/-- The octets of a text. -/
def encode (cs : List Char) : List UInt8 :=
  cs.flatMap encodeChar

/-- What a first octet announces: how many octets follow, the range of the next one, and the
value of its own bits. -/
structure Lead where
  more : Nat
  low : Nat
  high : Nat
  bits : Nat

/-- The sequences of RFC 3629 by their first octet; none for octets that begin none. -/
def lead? (b : Nat) : Option Lead :=
  if b < 0x80 then some ⟨0, 0x80, 0xBF, b⟩
  else if b < 0xC2 then none
  else if b < 0xE0 then some ⟨1, 0x80, 0xBF, b - 0xC0⟩
  else if b = 0xE0 then some ⟨2, 0xA0, 0xBF, 0⟩
  else if b = 0xED then some ⟨2, 0x80, 0x9F, 0xD⟩
  else if b < 0xF0 then some ⟨2, 0x80, 0xBF, b - 0xE0⟩
  else if b = 0xF0 then some ⟨3, 0x90, 0xBF, 0⟩
  else if b < 0xF4 then some ⟨3, 0x80, 0xBF, b - 0xF0⟩
  else if b = 0xF4 then some ⟨3, 0x80, 0x8F, 4⟩
  else none

/-- Stands for a part that is no text. -/
def replacement : Char := Char.ofNat 0xFFFD

/-- Where a decoder stands: between characters, or inside one whose bits so far are `bits`, with
`more` octets to come, the next of them between `low` and `high`. -/
inductive State where
  | start
  | inside (bits more low high : Nat)

/-- Reads an octet between characters. -/
def begin (b : UInt8) : List Char × State :=
  match lead? b.toNat with
  | none => ([replacement], .start)
  | some ⟨0, _, _, bits⟩ => ([Char.ofNat bits], .start)
  | some ⟨more, low, high, bits⟩ => ([], .inside bits more low high)

/-- Reads an octet: the characters that it completes, and where the decoder stands after it. An
octet that does not continue a character ends that part and is read again from the start. -/
def step : State → UInt8 → List Char × State
  | .start, b => begin b
  | .inside bits more low high, b =>
    if low ≤ b.toNat ∧ b.toNat ≤ high then
      let bits := bits * 64 + (b.toNat - 0x80)
      if more = 1 then ([Char.ofNat bits], .start) else ([], .inside bits (more - 1) 0x80 0xBF)
    else
      let (cs, state) := begin b
      (replacement :: cs, state)

/-- Decodes the octets left, from a given state. -/
def decodeFrom : State → List UInt8 → List Char
  | .start, [] => []
  | .inside .., [] => [replacement]
  | state, b :: bs =>
    let (cs, next) := step state b
    cs ++ decodeFrom next bs

/-- The text of any octets, ill-formed parts replaced. -/
def decodeLossy (bs : List UInt8) : List Char :=
  decodeFrom .start bs

end TtpConformance.Text.Utf8
