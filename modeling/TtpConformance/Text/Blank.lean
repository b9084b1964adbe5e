/-!
# White space and words

The status surfaces and command outputs read by this library are free text, and every reader of
them starts by dropping the white space around a value or by cutting a line into words. White
space means the Unicode property `White_Space`, which has twenty-five characters; the class of
core's `Char.isWhitespace` is a part of it.

## Main definitions

* `isBlank` — the property as a decidable class of characters.
* `trim`, `trimmed` — a text without its leading and trailing white space.
* `words` — the maximal runs of characters that are not white space.
-/

namespace TtpConformance.Text

/-- The Unicode property `White_Space`. -/
def isBlank (c : Char) : Bool :=
  let n := c.toNat
  (0x09 ≤ n && n ≤ 0x0D) || n == 0x20 || n == 0x85 || n == 0xA0 || n == 0x1680 ||
    (0x2000 ≤ n && n ≤ 0x200A) || n == 0x2028 || n == 0x2029 || n == 0x202F || n == 0x205F ||
    n == 0x3000

/-- The text without the characters of class `p` at its end. -/
def dropEnd (p : Char → Bool) (cs : List Char) : List Char :=
  (cs.reverse.dropWhile p).reverse

/-- The text without the characters of class `p` at either end. -/
def dropAround (p : Char → Bool) (cs : List Char) : List Char :=
  dropEnd p (cs.dropWhile p)

/-- The text without surrounding white space. -/
def trim (cs : List Char) : List Char :=
  dropAround isBlank cs

/-- A string without surrounding white space. -/
def trimmed (s : String) : String :=
  .ofList (trim s.toList)

/--
The pieces between the characters of class `p`, in order. There is one piece more than there are
such characters, so the result is never empty, and pieces may be.
-/
def splitBy (p : Char → Bool) : List Char → List (List Char)
  | [] => [[]]
  | c :: cs =>
    if p c then [] :: splitBy p cs
    else
      match splitBy p cs with
      | [] => [[c]]
      | piece :: pieces => (c :: piece) :: pieces

/-- The maximal runs of characters that are not white space. -/
def words (cs : List Char) : List (List Char) :=
  (splitBy isBlank cs).filter (!·.isEmpty)

@[simp] theorem splitBy_nil (p : Char → Bool) : splitBy p [] = [[]] := rfl

theorem splitBy_ne_nil (p : Char → Bool) (cs : List Char) : splitBy p cs ≠ [] := by
  cases cs with
  | nil => simp
  | cons c cs =>
    unfold splitBy
    split
    · simp
    · split <;> simp

end TtpConformance.Text
