import TtpConformance.Address.Ipv4
import TtpConformance.Address.Mac
import TtpConformance.Json.Value

/-!
# Device queries

The addresses of a network device, as the `ip` program prints them in JSON: a list of entries. Of
the entries' fields only one is used, but every entry of the list has to have it with the right
type. Other fields are ignored; the used one must not be repeated. An entry may also be written
as the list of its used fields.

## Main definitions

* `linkAddress` — the hardware address of the first entry.
* `ipv4Address` — the first IPv4 address of the first entry.
-/

namespace TtpConformance

namespace Json

/-- Stands for the description of what is wrong with a JSON text, which is not given. -/
def malformed : String := "<json>"

/-- The text of a string value. -/
def text? : Json → Option String
  | .string value? => value?
  | _ => none

/-- The elements of a list. -/
def list? : Json → Option (List Json)
  | .array elements => some elements
  | _ => none

/-- The members of an object with a given key, if all its keys are strings with a value. -/
def membersNamed? (name : String) (members : List (Option String × Json)) :
    Option (List Json) :=
  if members.all (·.1.isSome) then
    some (members.filterMap fun (key, v) => if key = some name then some v else none)
  else none

/-- The used field of an entry: `none` for an entry of the wrong shape, and inside that `none` if
the entry does not have the field. -/
def onlyField? (name : String) : Json → Option (Option Json)
  | .object members =>
    match membersNamed? name members with
    | some [] => some none
    | some [v] => some (some v)
    | _ => none
  | .array [] => some none
  | .array [v] => some (some v)
  | _ => none

end Json

/-- The used field of an entry that must have it and must have a text there. -/
def requiredText? (name : String) (entry : Json) : Option String :=
  match entry.onlyField? name with
  | some (some v) => v.text?
  | _ => none

/-- The local addresses of an entry; one without the list of addresses has none. -/
def localAddresses? (entry : Json) : Option (List String) :=
  match entry.onlyField? "addr_info" with
  | some none => some []
  | some (some v) => v.list?.bind fun infos => infos.mapM (requiredText? "local")
  | none => none

/-- The hardware address that a device query shows. -/
def linkAddress (output : String) : Except RunError Mac :=
  match ((Json.read? output).bind Json.list?).bind (·.mapM (requiredText? "address")) with
  | none => .error (.parse ("ip link output: " ++ Json.malformed))
  | some [] => .error (.parse "ip link output has no entries")
  | some (address :: _) => Mac.parse address

/-- The IPv4 address that a device query shows. -/
def ipv4Address (output : String) : Except RunError Ipv4 :=
  match ((Json.read? output).bind Json.list?).bind (·.mapM localAddresses?) with
  | none => .error (.parse ("ip addr output: " ++ Json.malformed))
  | some ((address :: _) :: _) =>
    match Ipv4.parse? address.toList with
    | some ip => .ok ip
    | none =>
      .error (.parse ("invalid IPv4 address '" ++ address ++ "': invalid IPv4 address syntax"))
  | some _ => .error (.parse "ip addr output has no IPv4 address")

end TtpConformance
