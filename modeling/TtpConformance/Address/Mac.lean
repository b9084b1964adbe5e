import TtpConformance.Address.HexGroup
import TtpConformance.RunError

/-!
# Hardware addresses

Ethernet addresses of six octets. In native mode every TTP device carries the vendor's three
octets, and its three low octets tell the nodes apart.

## Main definitions

* `Mac` — an address; `Mac.zero` stands for "not resolved".
* `Mac.parse`, `Mac.text` — reading and printing.
* `Mac.ofLow`, `Mac.low` — the low octets under the vendor's.
-/

namespace TtpConformance

/-- The three low octets of an address, which tell TTP nodes apart. -/
structure LowOctets where
  first : UInt8
  second : UInt8
  third : UInt8
  deriving DecidableEq, Repr

namespace LowOctets

/-- The octets in order. -/
def toList (o : LowOctets) : List UInt8 := [o.first, o.second, o.third]

/-- Three groups with colons between them, as tag tables show an address. -/
def fragment (o : LowOctets) : String := Address.joinOctets ":" o.toList

/-- Six digits, as the module takes a target. -/
def code (o : LowOctets) : String := Address.joinOctets "" o.toList

end LowOctets

/-- A 48-bit Ethernet hardware address. -/
structure Mac where
  vendor : LowOctets
  low : LowOctets
  deriving DecidableEq, Repr

namespace Mac

/-- The vendor octets of every TTP device in native mode. -/
def ttpVendor : LowOctets := ⟨0x98, 0xed, 0x5c⟩

/-- The address that the module publishes while it has not resolved one. -/
def zero : Mac := ⟨⟨0, 0, 0⟩, ⟨0, 0, 0⟩⟩

/-- The TTP device with the given low octets. -/
def ofLow (low : LowOctets) : Mac := ⟨ttpVendor, low⟩

/-- Whether this is the address that stands for "not resolved". -/
def isZero (m : Mac) : Bool := m == zero

/-- Whether the address carries the vendor octets of TTP devices. -/
def hasTtpVendor (m : Mac) : Bool := m.vendor == ttpVendor

/-- The octets in order. -/
def toList (m : Mac) : List UInt8 := m.vendor.toList ++ m.low.toList

/-- Six groups of two lower-case digits. -/
def text (m : Mac) : String := Address.joinOctets ":" m.toList

/-- The address of six octets. -/
def ofList? : List UInt8 → Option Mac
  | [a, b, c, d, e, f] => some ⟨⟨a, b, c⟩, ⟨d, e, f⟩⟩
  | _ => none

/-- Reads six groups of one or two digits, surrounding white space dropped. -/
def parse (s : String) : Except RunError Mac :=
  let cs := Text.trim s.toList
  match (Address.hexGroups? cs).bind ofList? with
  | some m => .ok m
  | none => .error (.parse ("invalid MAC address '" ++ .ofList cs ++ "'"))

end Mac

end TtpConformance
