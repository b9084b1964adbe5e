import TtpConformance.Text.Numeral
import TtpConformance.Text.Utf8

/-!
# Printing texts

The two utilities that print their arguments. One joins them by spaces; the other has a format,
which is used again while there are arguments left. Both write octets, since an escape may stand
for an octet that is no character.

## Main definitions

* `Printed` — what is printed, and the arguments to complain about.
* `expand` — a text with its escapes replaced.
* `echo`, `echoPlain`, `printf` — the utilities.
-/

namespace TtpConformance.Shell

/-- What a utility prints. -/
structure Printed where
  octets : List UInt8 := []
  /-- Arguments that are no numbers where numbers are wanted. -/
  complaints : List String := []
  /-- Whether an escape ended the printing. -/
  isCut : Bool := false

/-- What one text and then another one print. -/
def Printed.append (a b : Printed) : Printed :=
  if a.isCut then a
  else ⟨a.octets ++ b.octets, a.complaints ++ b.complaints, b.isCut⟩

/-- The octets of a text. -/
def octets (s : String) : List UInt8 := Text.Utf8.encode s.toList

/-- The octet of a one-letter escape. -/
def letterEscape? : Char → Option UInt8
  | 'a' => some 7
  | 'b' => some 8
  | 'f' => some 12
  | 'n' => some 10
  | 'r' => some 13
  | 't' => some 9
  | 'v' => some 11
  | '\\' => some 92
  | _ => none

/-- Whether a character is a digit of base eight. -/
def isOctal (c : Char) : Bool := '0' ≤ c && c ≤ '7'

/-- The octet of at most three digits of base eight, and the text behind them. -/
def octalOctet (cs : List Char) : UInt8 × List Char :=
  let ds := (cs.take 3).takeWhile isOctal
  (UInt8.ofNat (ds.foldl (fun n c => n * 8 + (c.toNat - '0'.toNat)) 0), cs.drop ds.length)

theorem length_le_of_octalOctet (cs : List Char) : (octalOctet cs).2.length ≤ cs.length := by
  simp [octalOctet]

/-- A text with its escapes replaced. An octet is written by three digits of base eight, with a
zero in front of them or without; `\c` ends the printing. -/
def expand (cs : List Char) : Printed :=
  match cs with
  | [] => {}
  | '\\' :: 'c' :: _ => { isCut := true }
  | '\\' :: c :: cs =>
    match letterEscape? c with
    | some b => Printed.append ⟨[b], [], false⟩ (expand cs)
    | none =>
      if c = '0' then
        Printed.append ⟨[(octalOctet cs).1], [], false⟩ (expand (octalOctet cs).2)
      else if isOctal c then
        Printed.append ⟨[(octalOctet (c :: cs)).1], [], false⟩ (expand (octalOctet (c :: cs)).2)
      else Printed.append ⟨octets (.ofList ['\\', c]), [], false⟩ (expand cs)
  | c :: cs => Printed.append ⟨octets (.singleton c), [], false⟩ (expand cs)
termination_by cs.length
decreasing_by
  · simp only [List.length_cons]; omega
  · have := length_le_of_octalOctet cs
    simp only [List.length_cons]; omega
  · have := length_le_of_octalOctet (c :: cs)
    simp only [List.length_cons] at *; omega
  · simp only [List.length_cons]; omega
  · simp only [List.length_cons]; omega

/-- Prints arguments with spaces between them and a line end, which `-n` in front leaves out, and
their escapes replaced. -/
def echo (arguments : List String) : Printed :=
  match arguments with
  | "-n" :: words => expand (" ".intercalate words).toList
  | words => Printed.append (expand (" ".intercalate words).toList) ⟨[10], [], false⟩

/-- Whether an argument holds options of `echoPlain`. -/
def isEchoOption (argument : String) : Bool :=
  match argument.toList with
  | '-' :: c :: cs => (c :: cs).all fun c => c == 'n' || c == 'e' || c == 'E'
  | _ => false

/-- Prints arguments in the same way, but with escapes replaced only at the option `-e`. -/
def echoPlain (arguments : List String) : Printed :=
  let options := (arguments.takeWhile isEchoOption).flatMap String.toList
  let text := " ".intercalate (arguments.dropWhile isEchoOption)
  let escapes := (options.filter fun c => c == 'e' || c == 'E').getLast? == some 'e'
  let printed := if escapes then expand text.toList else ⟨octets text, [], false⟩
  if options.contains 'n' then printed else printed.append ⟨[10], [], false⟩

/-! ### Formats -/

/-- A part of a format. -/
inductive FormatPart where
  | octets (bs : List UInt8)
  /-- A place for an argument. -/
  | place (left zero : Bool) (width : Nat) (precision : Option Nat) (kind : Char)
  /-- The end of the printing. -/
  | stop

/-- Decimal digits at the start of a text as a number, and the text behind them. -/
def takeNumber (cs : List Char) : Nat × List Char :=
  ((cs.takeWhile Text.isDigit).foldl (fun n c => n * 10 + (c.toNat - '0'.toNat)) 0,
   cs.dropWhile Text.isDigit)

/-- A place for an argument behind its percent sign, and the text behind it. -/
def readPlace? (cs : List Char) : Option (FormatPart × List Char) :=
  let isFlag (c : Char) : Bool := c == '-' || c == '0' || c == '+' || c == ' ' || c == '#'
  let flags := cs.takeWhile isFlag
  let (width, rest) := takeNumber (cs.dropWhile isFlag)
  let (precision, rest) :=
    match rest with
    | '.' :: rest =>
      let (n, rest) := takeNumber rest
      (some n, rest)
    | rest => (none, rest)
  match rest with
  | kind :: rest =>
    if "sbcdiuxXo".toList.contains kind then
      some (.place (flags.contains '-') (flags.contains '0') width precision kind, rest)
    else none
  | [] => none

/-- The parts of a format. `fuel` bounds their number. -/
def readFormat : (fuel : Nat) → List Char → List FormatPart
  | 0, _ => []
  | _ + 1, [] => []
  | fuel + 1, '%' :: '%' :: cs => .octets [37] :: readFormat fuel cs
  | fuel + 1, '%' :: cs =>
    match readPlace? cs with
    | some (place, rest) => place :: readFormat fuel rest
    | none => [.stop]
  | _ + 1, '\\' :: 'c' :: _ => [.stop]
  | fuel + 1, '\\' :: c :: cs =>
    match letterEscape? c with
    | some b => .octets [b] :: readFormat fuel cs
    | none =>
      if isOctal c then
        let (b, rest) := octalOctet (c :: cs)
        .octets [b] :: readFormat fuel rest
      else .octets (octets (.ofList ['\\', c])) :: readFormat fuel cs
  | fuel + 1, c :: cs => .octets (octets (.singleton c)) :: readFormat fuel cs

/-- Octets filled up to a width. -/
def fill (left zero : Bool) (width : Nat) (bs : List UInt8) : List UInt8 :=
  let missing := width - bs.length
  if left then bs ++ .replicate missing 32
  else .replicate missing (if zero then 48 else 32) ++ bs

/-- Digits of a number in a base up to sixteen. -/
def digitsIn (base : Nat) (n : Nat) : String := .ofList (Nat.toDigits base n)

/-- A number as a kind of place shows it. -/
def shownNumber (kind : Char) (n : Int) : String :=
  let word := (n % (UInt64.size : Int)).toNat
  if kind = 'x' then digitsIn 16 word
  else if kind = 'X' then (digitsIn 16 word).map Char.toUpper
  else if kind = 'o' then digitsIn 8 word
  else if kind = 'u' then Text.decimal word
  else Text.decimalInt n

/-- What an argument prints in its place. -/
def fillPlace (left zero : Bool) (width : Nat) (precision : Option Nat) (kind : Char)
    (argument : String) : Printed :=
  let cut (bs : List UInt8) : List UInt8 := (precision.map bs.take).getD bs
  if kind = 's' then ⟨fill left false width (cut (octets argument)), [], false⟩
  else if kind = 'b' then
    let printed := expand argument.toList
    { printed with octets := fill left false width (cut printed.octets) }
  else if kind = 'c' then ⟨fill left false width ((octets argument).take 1), [], false⟩
  else
    let shown (n : Int) : List UInt8 := fill left zero width (octets (shownNumber kind n))
    match argument.toList with
    | [] => ⟨shown 0, [], false⟩
    | quote :: c :: _ =>
      if quote = '\'' ∨ quote = '\"' then ⟨shown (c.toNat : Int), [], false⟩ else number shown
    | _ => number shown
where
  /-- The argument's number, or a complaint and zero. -/
  number (shown : Int → List UInt8) : Printed :=
    match Text.readInt64 argument.toList with
    | .ok n => ⟨shown n, [], false⟩
    | .error _ => ⟨shown 0, [argument], false⟩

/-- Prints the parts of a format once, and gives the arguments that are left. A place without an
argument has an empty one. -/
def printParts : List FormatPart → List String → Printed × List String
  | [], arguments => ({}, arguments)
  | .stop :: _, _ => ({ isCut := true }, [])
  | .octets bs :: parts, arguments =>
    let (printed, rest) := printParts parts arguments
    (Printed.append ⟨bs, [], false⟩ printed, rest)
  | .place left zero width precision kind :: parts, arguments =>
    let first := fillPlace left zero width precision kind (arguments.head?.getD "")
    let (printed, rest) := printParts parts arguments.tail
    (first.append printed, rest)

/-- Prints the parts of a format until no arguments are left, at most `rounds` times. -/
def printRounds (parts : List FormatPart) : (rounds : Nat) → List String → Printed
  | 0, _ => {}
  | rounds + 1, arguments =>
    let (printed, rest) := printParts parts arguments
    if rest.isEmpty ∨ rest.length = arguments.length then printed
    else printed.append (printRounds parts rounds rest)

/-- Prints arguments by a format. -/
def printf (format : String) (arguments : List String) : Printed :=
  printRounds (readFormat (format.length + 1) format.toList) (arguments.length + 1) arguments

end TtpConformance.Shell
