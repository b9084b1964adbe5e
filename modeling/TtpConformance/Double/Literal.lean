import TtpConformance.Double.Basic
import TtpConformance.Text.Numeral

/-!
# Reading doubles

A written double is an optional sign and then one of the words for infinity and NaN, of any case,
or decimal digits with at most one point and an optional exponent. There is at least one digit
before or after the point, and at least one in an exponent. The value is the double nearest to the
decimal that is written, whatever its length.

## Main definitions

* `Double.read?` — the double that a text writes.
-/

namespace TtpConformance.Double

/-- The leading decimal digits of a text, and the rest. -/
def takeDigits (cs : List Char) : List Char × List Char :=
  cs.span Text.isDigit

/-- The value of decimal digits. -/
def digitsValue (ds : List Char) : Nat :=
  ds.foldl (fun n c => n * 10 + (Text.decimalDigitValue? c).getD 0) 0

/-- The exponent at the end of a number: none at all, or `e`, an optional sign and digits. -/
def readExponent? : List Char → Option Int
  | [] => some 0
  | c :: cs =>
    if c = 'e' ∨ c = 'E' then
      let (negative, cs) :=
        match cs with
        | '-' :: rest => (true, rest)
        | '+' :: rest => (false, rest)
        | rest => (false, rest)
      match takeDigits cs with
      | ([], _) => none
      | (ds, []) => some (if negative then -(digitsValue ds : Int) else (digitsValue ds : Int))
      | _ => none
    else none

/-- A number without its sign. -/
def readDecimal? (negative : Bool) (cs : List Char) : Option Double :=
  let (whole, rest) := takeDigits cs
  let (fraction, rest) :=
    match rest with
    | '.' :: rest => takeDigits rest
    | rest => ([], rest)
  let ds := whole ++ fraction
  if ds.isEmpty then none
  else
    (readExponent? rest).map fun e =>
      ofScientific negative (digitsValue ds) (ds.dropWhile (· == '0')).length
        (e - (fraction.length : Int))

/-- What may stand after the sign. -/
def readUnsigned? (negative : Bool) (cs : List Char) : Option Double :=
  let word := String.ofList (cs.map Char.toLower)
  if word = "inf" ∨ word = "infinity" then some (.infinite negative)
  else if word = "nan" then some .nan
  else readDecimal? negative cs

/-- The double that a text writes. -/
def read? : List Char → Option Double
  | '-' :: cs => readUnsigned? true cs
  | '+' :: cs => readUnsigned? false cs
  | cs => readUnsigned? false cs

end TtpConformance.Double
