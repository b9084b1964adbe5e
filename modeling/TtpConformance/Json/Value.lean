import TtpConformance.Text.Numeral

/-!
# JSON texts

A reader for JSON texts, strict on syntax and lenient on meaning: the value of a number is not
kept, and a string whose escapes do not form characters is a string without a value. Whoever
needs such a string finds that out when looking at it; whoever skips it does not.

## Main definitions

* `Json` — JSON values.
* `Json.read?` — the value of a whole text.
-/

namespace TtpConformance

/-- A JSON value. Object members stand in the order of the text, repeated keys included. -/
inductive Json where
  | null
  | bool (b : Bool)
  | number
  /-- A string, or `none` if its escapes do not form characters. -/
  | string (value? : Option String)
  | array (elements : List Json)
  | object (members : List (Option String × Json))

namespace Json

/-- The characters that may stand between tokens. -/
def isSpace (c : Char) : Bool := c == ' ' || c == '\n' || c == '\t' || c == '\r'

/-- A text without leading white space. -/
def skipSpace (cs : List Char) : List Char := cs.dropWhile isSpace

/-- A part of a string: a character, or a code unit of sixteen bits that is written as one. -/
inductive StringPart where
  | char (c : Char)
  | unit (n : Nat)

/-- The code unit of four hexadecimal digits. -/
def codeUnit? (a b c d : Char) : Option Nat :=
  match Text.hexDigitValue? a, Text.hexDigitValue? b, Text.hexDigitValue? c,
    Text.hexDigitValue? d with
  | some a, some b, some c, some d => some (((a * 16 + b) * 16 + c) * 16 + d)
  | _, _, _, _ => none

/-- The character of a one-letter escape. -/
def escape? : Char → Option Char
  | '\"' => some '\"'
  | '\\' => some '\\'
  | '/' => some '/'
  | 'b' => some (Char.ofNat 8)
  | 'f' => some (Char.ofNat 12)
  | 'n' => some '\n'
  | 'r' => some '\r'
  | 't' => some '\t'
  | _ => none

/-- The parts of a string up to its closing quote, and the text behind that. -/
def readParts? : List Char → Option (List StringPart × List Char)
  | [] => none
  | '\"' :: cs => some ([], cs)
  | '\\' :: 'u' :: a :: b :: c :: d :: cs =>
    match codeUnit? a b c d, readParts? cs with
    | some n, some (parts, rest) => some (.unit n :: parts, rest)
    | _, _ => none
  | '\\' :: e :: cs =>
    match escape? e, readParts? cs with
    | some c, some (parts, rest) => some (.char c :: parts, rest)
    | _, _ => none
  | c :: cs =>
    if c.toNat < 0x20 then none
    else
      match readParts? cs with
      | some (parts, rest) => some (.char c :: parts, rest)
      | none => none

/-- The characters of a string: code units of surrogates have to come in pairs. -/
def joinParts? : List StringPart → Option (List Char)
  | [] => some []
  | .char c :: parts => (joinParts? parts).map (c :: ·)
  | .unit high :: parts =>
    if 0xD800 ≤ high ∧ high < 0xDC00 then
      match parts with
      | .unit low :: parts =>
        if 0xDC00 ≤ low ∧ low < 0xE000 then
          (joinParts? parts).map
            (Char.ofNat (0x10000 + (high - 0xD800) * 0x400 + (low - 0xDC00)) :: ·)
        else none
      | _ => none
    else if 0xDC00 ≤ high ∧ high < 0xE000 then none
    else (joinParts? parts).map (Char.ofNat high :: ·)

/-- A string behind its opening quote, and the text behind its closing one. -/
def readString? (cs : List Char) : Option (Option String × List Char) :=
  (readParts? cs).map fun (parts, rest) => ((joinParts? parts).map String.ofList, rest)

/-- The text behind one or more digits. -/
def skipDigits? (cs : List Char) : Option (List Char) :=
  match cs with
  | c :: rest => if Text.isDigit c then some (rest.dropWhile Text.isDigit) else none
  | [] => none

/-- The text behind an exponent, if there is one. -/
def skipExponent? : List Char → Option (List Char)
  | c :: cs =>
    if c = 'e' ∨ c = 'E' then
      match cs with
      | '+' :: rest => skipDigits? rest
      | '-' :: rest => skipDigits? rest
      | rest => skipDigits? rest
    else some (c :: cs)
  | [] => some []

/-- The text behind a fraction and an exponent, if there are any. -/
def skipFraction? : List Char → Option (List Char)
  | '.' :: cs => (skipDigits? cs).bind skipExponent?
  | cs => skipExponent? cs

/-- The text behind a number without its sign; a zero in front stands alone. -/
def skipNumber? : List Char → Option (List Char)
  | '0' :: cs => if (cs.head?.map Text.isDigit).getD false then none else skipFraction? cs
  | cs => (skipDigits? cs).bind skipFraction?

mutual

/-- A value and the text behind it. `fuel` bounds the number of values and members. -/
def readValue? : (fuel : Nat) → List Char → Option (Json × List Char)
  | 0, _ => none
  | fuel + 1, cs =>
    match skipSpace cs with
    | 'n' :: 'u' :: 'l' :: 'l' :: rest => some (.null, rest)
    | 't' :: 'r' :: 'u' :: 'e' :: rest => some (.bool true, rest)
    | 'f' :: 'a' :: 'l' :: 's' :: 'e' :: rest => some (.bool false, rest)
    | '\"' :: rest => (readString? rest).map fun (s, rest) => (.string s, rest)
    | '[' :: rest =>
      match skipSpace rest with
      | ']' :: rest => some (.array [], rest)
      | rest => (readElements? fuel rest).map fun (vs, rest) => (.array vs, rest)
    | '\x7b' :: rest =>
      match skipSpace rest with
      | '\x7d' :: rest => some (.object [], rest)
      | rest => (readMembers? fuel rest).map fun (ms, rest) => (.object ms, rest)
    | '-' :: rest => (skipNumber? rest).map fun rest => (.number, rest)
    | rest => (skipNumber? rest).map fun rest => (.number, rest)

/-- The elements of an array that has some, up to its closing bracket. -/
def readElements? : (fuel : Nat) → List Char → Option (List Json × List Char)
  | 0, _ => none
  | fuel + 1, cs =>
    match readValue? fuel cs with
    | none => none
    | some (v, rest) =>
      match skipSpace rest with
      | ']' :: rest => some ([v], rest)
      | ',' :: rest => (readElements? fuel rest).map fun (vs, rest) => (v :: vs, rest)
      | _ => none

/-- The members of an object that has some, up to its closing brace. -/
def readMembers? : (fuel : Nat) → List Char → Option (List (Option String × Json) × List Char)
  | 0, _ => none
  | fuel + 1, cs =>
    match skipSpace cs with
    | '\"' :: rest =>
      match readString? rest with
      | none => none
      | some (key, rest) =>
        match skipSpace rest with
        | ':' :: rest =>
          match readValue? fuel rest with
          | none => none
          | some (v, rest) =>
            match skipSpace rest with
            | '\x7d' :: rest => some ([(key, v)], rest)
            | ',' :: rest =>
              (readMembers? fuel rest).map fun (ms, rest) => ((key, v) :: ms, rest)
            | _ => none
        | _ => none
    | _ => none

end

/-- The value of a text that holds one value and white space around it. Every value and member
has a character of its own, which bounds their number. -/
def read? (s : String) : Option Json :=
  let cs := s.toList
  match readValue? (2 * cs.length + 1) cs with
  | some (v, rest) => if (skipSpace rest).isEmpty then some v else none
  | none => none

end Json

end TtpConformance
