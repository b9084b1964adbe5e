import TtpConformance.Settings.Value
import TtpConformance.Double.Literal

/-!
# Plain TOML values

The values that are written without quotes or brackets: truth values, numbers, dates and times.
Each is one run of characters, except that a date and a time may be separated by a space.

Underscores may stand between two digits of a number. A whole number has 64 bits and a sign; a
number with a fraction or an exponent must not be so great that the nearest double is infinite. A
date or a time is read as an empty table, because no setting takes one.

## Main definitions

* `isPlain` — the characters of plain values.
* `readWhole?`, `isFractional`, `isDate`, `isTime` — the forms.
* `plain?` — the value of a run of characters.
-/

namespace TtpConformance.Toml

/-- The characters that plain values are made of. -/
def isPlain (c : Char) : Bool :=
  c.isAlphanum || c == '+' || c == '-' || c == '.' || c == '_' || c == ':'

/-- Digits with single underscores between them. -/
def isDigitRun (p : Char → Bool) (cs : List Char) : Bool :=
  (Text.splitBy (· == '_') cs).all fun piece => !piece.isEmpty && piece.all p

/-- Digits of a decimal number: no zero in front of others. -/
def isDecimalRun (cs : List Char) : Bool :=
  isDigitRun Text.isDigit cs && (cs.head? != some '0' || cs.length == 1)

/-- A number without its sign. -/
def dropSign : List Char → List Char
  | '+' :: cs => cs
  | '-' :: cs => cs
  | cs => cs

/-- A number without its underscores. -/
def dropUnderscores (cs : List Char) : List Char :=
  cs.filter (· != '_')

/-- Base eight. -/
def octal : Text.Radix := ⟨8, fun c => (Text.decimalDigitValue? c).filter (· < 8)⟩

/-- Base two. -/
def binary : Text.Radix := ⟨2, fun c => (Text.decimalDigitValue? c).filter (· < 2)⟩

/-- A whole number behind the mark of its base, which takes no sign. -/
def readBased? (radix : Text.Radix) (cs : List Char) : Option Int :=
  if isDigitRun (fun c => (radix.value? c).isSome) cs then
    (Text.readNat radix Text.maxInt64 (dropUnderscores cs)).toOption.map Int.ofNat
  else none

/-- The whole number that a run of characters writes. -/
def readWhole? : List Char → Option Int
  | '0' :: 'x' :: cs => readBased? .hex cs
  | '0' :: 'o' :: cs => readBased? octal cs
  | '0' :: 'b' :: cs => readBased? binary cs
  | cs =>
    if isDecimalRun (dropSign cs) then (Text.readInt64 (dropUnderscores cs)).toOption else none

/-- An exponent: `e`, an optional sign and digits. -/
def isExponent : List Char → Bool
  | c :: cs => (c == 'e' || c == 'E') && isDigitRun Text.isDigit (dropSign cs)
  | [] => false

/-- Whether a run of characters writes a number with a fraction or an exponent, or infinity or
NaN, which are words in lower case. -/
def isFractional (cs : List Char) : Bool :=
  let body := dropSign cs
  let (whole, rest) := body.span fun c => Text.isDigit c || c == '_'
  body == ['i', 'n', 'f'] || body == ['n', 'a', 'n'] ||
    (isDecimalRun whole &&
      match rest with
      | '.' :: rest =>
        let (fraction, rest) := rest.span fun c => Text.isDigit c || c == '_'
        isDigitRun Text.isDigit fraction && (rest.isEmpty || isExponent rest)
      | rest => isExponent rest) &&
    Double.read? (dropUnderscores cs) != some (.infinite false)

/-- The value of exactly `count` decimal digits. -/
def digits? (count : Nat) (cs : List Char) : Option Nat :=
  if cs.length = count ∧ cs.all Text.isDigit then some (Double.digitsValue cs) else none

/-- The number of days of a month. -/
def daysIn (year month : Nat) : Nat :=
  if month = 2 then
    if year % 4 = 0 ∧ (year % 100 ≠ 0 ∨ year % 400 = 0) then 29 else 28
  else if month = 4 ∨ month = 6 ∨ month = 9 ∨ month = 11 then 30
  else 31

/-- A date: four, two and two digits that name a day. -/
def isDate (cs : List Char) : Bool :=
  match Text.splitBy (· == '-') cs with
  | [year, month, day] =>
    match digits? 4 year, digits? 2 month, digits? 2 day with
    | some year, some month, some day =>
      1 ≤ month && month ≤ 12 && 1 ≤ day && day ≤ daysIn year month
    | _, _, _ => false
  | _ => false

/-- An hour and a minute. -/
def isMinute (hour minute : List Char) : Bool :=
  match digits? 2 hour, digits? 2 minute with
  | some hour, some minute => hour < 24 && minute < 60
  | _, _ => false

/-- A time of day: hour, minute and second, which may be a leap second and have a fraction. -/
def isTime (cs : List Char) : Bool :=
  match Text.splitBy (· == ':') cs with
  | [hour, minute, second] =>
    isMinute hour minute &&
      (match digits? 2 (second.take 2) with
        | some second => second ≤ 60
        | none => false) &&
      match second.drop 2 with
      | [] => true
      | '.' :: fraction => !fraction.isEmpty && fraction.all Text.isDigit
      | _ => false
  | _ => false

/-- A time of day with the distance from universal time, or without. -/
def isZonedTime (cs : List Char) : Bool :=
  let (time, zone) := cs.span fun c => Text.isDigit c || c == ':' || c == '.'
  isTime time &&
    match zone with
    | [] => true
    | ['Z'] => true
    | ['z'] => true
    | sign :: offset =>
      (sign == '+' || sign == '-') &&
        match Text.splitBy (· == ':') offset with
        | [hour, minute] => isMinute hour minute
        | _ => false

/-- A date, a time, or both with a `T` between them. -/
def isMoment (cs : List Char) : Bool :=
  isDate cs || isTime cs ||
    (isDate (cs.take 10) &&
      match cs.drop 10 with
      | c :: time => (c == 'T' || c == 't') && isZonedTime time
      | [] => false)

/-- The value that a run of characters writes. -/
def plain? (cs : List Char) : Option Setting :=
  if cs = ['t', 'r', 'u', 'e'] then some (.flag true)
  else if cs = ['f', 'a', 'l', 's', 'e'] then some (.flag false)
  else
    match readWhole? cs with
    | some n => some (.whole n)
    | none =>
      if isFractional cs then some .fractional
      else if isMoment cs then some (.table [])
      else none

/-- A plain value at the start of a text, and the text behind it. -/
def readPlain? (cs : List Char) : Option (Setting × List Char) :=
  let (run, rest) := cs.span isPlain
  match rest with
  | ' ' :: behind =>
    let (time, behind) := behind.span isPlain
    if isDate run && isZonedTime time then some (.table [], behind)
    else (plain? run).map (·, rest)
  | _ => (plain? run).map (·, rest)

end TtpConformance.Toml
