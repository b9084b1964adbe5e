import TtpConformance.Text.Numeral

/-!
# Groups of hexadecimal digits

Hardware addresses and peer targets are written as groups of one or two hexadecimal digits with
colons between them. This module reads such a list of groups; how many there may be is for the
kinds of address to say.

## Main definitions

* `hexGroup?` — the octet written by one group.
* `hexGroups?` — the octets written by colon-separated groups.
* `joinOctets` — the groups of given octets, two lower-case digits each.
-/

namespace TtpConformance.Address

/-- The octet written by one or two hexadecimal digits. -/
def hexGroup? : List Char → Option UInt8
  | [a] => (Text.hexDigitValue? a).map UInt8.ofNat
  | [a, b] =>
    match Text.hexDigitValue? a, Text.hexDigitValue? b with
    | some x, some y => some (UInt8.ofNat (x * 16 + y))
    | _, _ => none
  | _ => none

/-- The colon-separated pieces of a text. -/
def colonPieces (cs : List Char) : List (List Char) :=
  Text.splitBy (· == ':') cs

/-- The octets written by colon-separated groups, if every piece is a group. -/
def hexGroups? (cs : List Char) : Option (List UInt8) :=
  (colonPieces cs).mapM hexGroup?

/-- Octets as groups of two digits, with `sep` between them. -/
def joinOctets (sep : String) (octets : List UInt8) : String :=
  sep.intercalate (octets.map Text.hexByte)

end TtpConformance.Address
