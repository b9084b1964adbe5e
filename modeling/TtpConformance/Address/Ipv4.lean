import TtpConformance.Text.Lines
import TtpConformance.Text.Numeral

/-!
# IPv4 addresses and prefixes

An address is written as four decimal octets without leading zeros. A routing prefix is an
address, alone (all thirty-two bits) or with a slash and then a length or a netmask. The address
of a prefix keeps its host bits.

## Main definitions

* `Ipv4` — an address, with `Ipv4.parse?` and `Ipv4.text`.
* `Ipv4Network` — a prefix, with `Ipv4Network.parse` and `Ipv4Network.text`.
* `Ipv4NetworkError` — why a text is no prefix.
-/

namespace TtpConformance

/-- An IPv4 address. -/
structure Ipv4 where
  a : UInt8
  b : UInt8
  c : UInt8
  d : UInt8
  deriving DecidableEq, Repr

namespace Ipv4

/-- The octet written by one to three digits without a leading zero. -/
def octet? (cs : List Char) : Option UInt8 :=
  if cs.length ≤ 3 ∧ (cs.head? ≠ some '0' ∨ cs.length = 1) ∧ cs.all Text.isDigit then
    match Text.readNat .decimal 255 cs with
    | .ok n => some (UInt8.ofNat n)
    | .error _ => none
  else none

/-- Reads an address. -/
def parse? (cs : List Char) : Option Ipv4 :=
  match (Text.splitBy (· == '.') cs).mapM octet? with
  | some [a, b, c, d] => some ⟨a, b, c, d⟩
  | _ => none

/-- Four decimal octets with points between them. -/
def text (ip : Ipv4) : String :=
  ".".intercalate ([ip.a, ip.b, ip.c, ip.d].map fun o => Text.decimal o.toNat)

/-- The address as a number of thirty-two bits. -/
def toNat (ip : Ipv4) : Nat :=
  ((ip.a.toNat * 256 + ip.b.toNat) * 256 + ip.c.toNat) * 256 + ip.d.toNat

/-- The length of a netmask: as many ones as it has in front, if zeros are all that follows. -/
def maskLength? (ip : Ipv4) : Option Nat :=
  (List.range 33).find? fun n => ip.toNat == UInt32.size - 1 <<< (32 - n)

end Ipv4

/-- A routing prefix: an address with its host bits, and a length of at most thirty-two bits. -/
structure Ipv4Network where
  address : Ipv4
  length : Nat
  length_le : length ≤ 32
  deriving DecidableEq

/-- Why a text is no prefix. -/
inductive Ipv4NetworkError where
  /-- The part before the slash is no address. -/
  | invalidAddress (text : String)
  /-- The part after the slash is neither a length nor a netmask. -/
  | invalidLength
  /-- There are two slashes. -/
  | invalidFormat (text : String)
  deriving DecidableEq, Repr

/-- The wording of a prefix error. -/
def Ipv4NetworkError.message : Ipv4NetworkError → String
  | .invalidAddress text => "invalid address: " ++ text
  | .invalidLength => "invalid prefix"
  | .invalidFormat text => "invalid cidr format: CIDR must contain a single '/': " ++ text

namespace Ipv4Network

/-- The prefix of an address and a length. -/
def ofLength (address : Ipv4) (n : Nat) : Except Ipv4NetworkError Ipv4Network :=
  if h : n ≤ 32 then .ok ⟨address, n, h⟩ else .error .invalidLength

/-- Reads what stands behind the slash: a netmask, or a length of eight bits. -/
def readLength (cs : List Char) : Except Ipv4NetworkError Nat :=
  match Ipv4.parse? cs with
  | some mask =>
    match mask.maskLength? with
    | some n => .ok n
    | none => .error .invalidLength
  | none =>
    match Text.readNat .decimal 255 cs with
    | .ok n => .ok n
    | .error _ => .error .invalidLength

/-- Reads a prefix. -/
def parse (s : String) : Except Ipv4NetworkError Ipv4Network :=
  let (front, back?) :=
    match Text.cutAt '/' s.toList with
    | some (front, back) => (front, some back)
    | none => (s.toList, none)
  if (back?.getD []).contains '/' then .error (.invalidFormat s)
  else
    match Ipv4.parse? front with
    | none => .error (.invalidAddress (.ofList front))
    | some address =>
      match back? with
      | none => .ok ⟨address, 32, by decide⟩
      | some back =>
        match readLength back with
        | .error e => .error e
        | .ok n => ofLength address n

/-- The address, a slash and the length. -/
def text (n : Ipv4Network) : String :=
  n.address.text ++ "/" ++ Text.decimal n.length

end Ipv4Network

end TtpConformance
