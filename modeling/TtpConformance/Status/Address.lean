import TtpConformance.Address.HexGroup

/-!
# Addresses in status tables

A row of the tag table shows the peer's address in full or by its low octets, somewhere among
other words. A node is looked up by a fragment of its address, which has to be a suffix of it in
whole groups.

## Main definitions

* `Status.findAddress?` — the address that a line shows.
* `Status.addressMatches` — whether an address ends with a fragment.
-/

namespace TtpConformance.Status

/-- Lower-case ASCII letters for upper-case ones. -/
def lowerCase (cs : List Char) : List Char := cs.map Char.toLower

/-- The characters of which addresses consist. -/
def isAddressChar (c : Char) : Bool := Text.isHexDigit c || c == ':'

/-- Two hexadecimal digits. -/
def isOctetGroup (group : List Char) : Bool :=
  group.length == 2 && group.all Text.isHexDigit

/-- Three or six groups of two digits, with colons between them. -/
def isAddress (cs : List Char) : Bool :=
  let groups := Address.colonPieces cs
  (groups.length == 3 || groups.length == 6) && groups.all isOctetGroup

/-- The first word of a line that is an address but for characters around it that no address
has. -/
def findAddress? (line : List Char) : Option (List Char) :=
  (((Text.words line).map (Text.dropAround fun c => !isAddressChar c)).find? isAddress).map
    lowerCase

/-- Whether an address ends with the groups of a fragment. Case makes no difference. -/
def addressMatches (address fragment : List Char) : Bool :=
  let address := lowerCase address
  let fragment := lowerCase fragment
  address == fragment || (':' :: fragment).isSuffixOf address

end TtpConformance.Status
