import TtpConformance.Text.Blank

/-!
# Numerals

Unsigned and signed whole numbers as they are read from command lines, status files and settings,
and as they are printed into commands and messages.

A written number is one or more digits, after an optional plus sign (and, where negative numbers
are allowed, an optional minus sign). Reading stops at the first character that rules the number
out: a character that is no digit, or the digit that takes the value over the bound. Which of the
two comes first decides what is reported.

## Main definitions

* `NumeralError` — why a text is no number, with its wording.
* `readNat`, `readInt64`, `readUInt64` — numbers up to a bound.
* `decimal`, `hexByte` — printing.
-/

namespace TtpConformance.Text

/-- Why a text is not a number of the wanted range. -/
inductive NumeralError where
  /-- There is no text at all. -/
  | empty
  /-- A character is no digit, or a sign stands alone. -/
  | invalidDigit
  /-- The value is over the greatest one allowed. -/
  | tooLarge
  /-- The value is under the least one allowed. -/
  | tooSmall
  deriving DecidableEq, Repr

/-- The wording of a reading error. -/
def NumeralError.message : NumeralError → String
  | .empty => "cannot parse integer from empty string"
  | .invalidDigit => "invalid digit found in string"
  | .tooLarge => "number too large to fit in target type"
  | .tooSmall => "number too small to fit in target type"

/-- Values of the sixteen hexadecimal digits, of either case. -/
def hexDigitValue? (c : Char) : Option Nat :=
  if '0' ≤ c ∧ c ≤ '9' then some (c.toNat - '0'.toNat)
  else if 'a' ≤ c ∧ c ≤ 'f' then some (c.toNat - 'a'.toNat + 10)
  else if 'A' ≤ c ∧ c ≤ 'F' then some (c.toNat - 'A'.toNat + 10)
  else none

/-- Values of the ten decimal digits. -/
def decimalDigitValue? (c : Char) : Option Nat :=
  if '0' ≤ c ∧ c ≤ '9' then some (c.toNat - '0'.toNat) else none

/-- A radix with the values of its digits. -/
structure Radix where
  base : Nat
  value? : Char → Option Nat

/-- Base ten. -/
def Radix.decimal : Radix := ⟨10, decimalDigitValue?⟩

/-- Base sixteen, digits of either case. -/
def Radix.hex : Radix := ⟨16, hexDigitValue?⟩

/-- Reads further digits after ones of value `acc`. -/
def readDigits (radix : Radix) (bound : Nat) (excess : NumeralError) :
    Nat → List Char → Except NumeralError Nat
  | acc, [] => .ok acc
  | acc, c :: cs =>
    match radix.value? c with
    | none => .error .invalidDigit
    | some d =>
      let value := acc * radix.base + d
      if bound < value then .error excess else readDigits radix bound excess value cs

/-- Reads a number of at most `bound`: an optional plus sign and digits. -/
def readNat (radix : Radix) (bound : Nat) : List Char → Except NumeralError Nat
  | [] => .error .empty
  | ['+'] => .error .invalidDigit
  | '+' :: cs => readDigits radix bound .tooLarge 0 cs
  | cs => readDigits radix bound .tooLarge 0 cs

/-- The greatest signed number of 64 bits. -/
def maxInt64 : Nat := 9223372036854775807

/-- Reads a 64-bit signed number: an optional sign and digits. There is one more negative number
than there are positive ones. -/
def readInt64 : List Char → Except NumeralError Int
  | ['-'] => .error .invalidDigit
  | '-' :: cs => (readDigits .decimal (maxInt64 + 1) .tooSmall 0 cs).map fun n => -(n : Int)
  | cs => (readNat .decimal maxInt64 cs).map fun n => (n : Int)

/-- Reads a 64-bit unsigned number. -/
def readUInt64 (cs : List Char) : Except NumeralError UInt64 :=
  (readNat .decimal (UInt64.size - 1) cs).map UInt64.ofNat

/-- The decimal digit of value `n % 10`. -/
def digitChar (n : Nat) : Char :=
  Char.ofNat ('0'.toNat + n % 10)

/-- The decimal digits of a number, most significant first. -/
def digits (n : Nat) : List Char :=
  if n < 10 then [digitChar n] else digits (n / 10) ++ [digitChar n]
termination_by n

/-- A number in decimal. -/
def decimal (n : Nat) : String :=
  .ofList (digits n)

/-- An integer in decimal, a minus sign before negative ones. -/
def decimalInt (n : Int) : String :=
  if n < 0 then "-" ++ decimal n.natAbs else decimal n.natAbs

/-- The lower-case hexadecimal digit of value `n % 16`. -/
def hexDigit (n : Nat) : Char :=
  let d := n % 16
  if d < 10 then Char.ofNat ('0'.toNat + d) else Char.ofNat ('a'.toNat + (d - 10))

/-- An octet as two hexadecimal digits. -/
def hexByte (b : UInt8) : String :=
  .ofList [hexDigit (b.toNat / 16), hexDigit b.toNat]

/-- One of the hexadecimal digits, of either case. -/
def isHexDigit (c : Char) : Bool :=
  (hexDigitValue? c).isSome

/-- One of the ten decimal digits. -/
def isDigit (c : Char) : Bool :=
  (decimalDigitValue? c).isSome

end TtpConformance.Text
