/-!
# Random words

Randomness enters this library as 32-bit words drawn from a source whose state is threaded
through every use. An index below `n` comes from one word by taking the high half of its product
with `n`; words whose low half is too large would favour some indices, so they are drawn again.

A source may never give a usable word. `patience` bounds how many unusable words in a row are
looked at, and a source that exceeds it has no index to give. For a source that repeats a list of
words, the length of the list is a bound that loses nothing.

## Main definitions

* `WordSource` — how to draw a word from a state.
* `WordSource.index?` — an index below a bound.
* `cyclic`, `splitMix` — a repeated list of words, and the SplitMix64 generator.
* `counting` — a source that also counts the words drawn.
-/

namespace TtpConformance

/-- A source of 32-bit words with states in `ρ`. -/
structure WordSource (ρ : Type) where
  next : ρ → UInt32 × ρ
  /-- How many words in a row may be unusable. -/
  patience : Nat

namespace WordSource

variable {ρ : Type}

/-- The greatest low half of a product that is usable for an index below `n`. -/
def zone (n : Nat) : Nat := n <<< (31 - n.log2) - 1

/-- Whether a word is usable for an index below `n`. -/
def usable (n : Nat) (word : UInt32) : Bool :=
  word.toNat * n % UInt32.size ≤ zone n

/-- The index below `n` that a usable word gives. -/
def indexOf (n : Nat) (word : UInt32) : Nat :=
  word.toNat * n / UInt32.size

/-- Draws until a word is usable, at most `tries` times. -/
def drawIndex? (source : WordSource ρ) (n : Nat) : Nat → ρ → Option (Nat × ρ)
  | 0, _ => none
  | tries + 1, state =>
    let (word, state) := source.next state
    if usable n word then some (indexOf n word, state) else drawIndex? source n tries state

/-- An index below `n`. -/
def index? (source : WordSource ρ) (n : Nat) (state : ρ) : Option (Nat × ρ) :=
  source.drawIndex? n source.patience state

/-- A list of words, repeated forever. The state is the position in the list. -/
def cyclic (words : Array UInt32) : WordSource Nat where
  next i := (words.getD (i % words.size) 0, (i + 1) % words.size)
  patience := words.size

/-- The SplitMix64 generator; a word is the high half of its output. -/
def splitMix : WordSource UInt64 where
  next s :=
    let s := s + 0x9e3779b97f4a7c15
    let z := (s ^^^ (s >>> 30)) * 0xbf58476d1ce4e5b9
    let z := (z ^^^ (z >>> 27)) * 0x94d049bb133111eb
    (((z ^^^ (z >>> 31)) >>> 32).toUInt32, s)
  patience := UInt64.size

/-- The same source, with a count of the words drawn. -/
def counting (source : WordSource ρ) : WordSource (ρ × Nat) where
  next s :=
    let (word, state) := source.next s.1
    (word, state, s.2 + 1)
  patience := source.patience

end WordSource

end TtpConformance
