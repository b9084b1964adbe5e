import TtpConformance.Text.Lines
import TtpConformance.Text.Numeral

/-!
# Counters

The module shows its counters as `name: value` fields, one a line or several with commas or
semicolons between them. A field that is not a name and a number is no counter, and of two fields
of one name the last counts.

## Main definitions

* `Stats` — counters, in the order of their names.
* `Stats.parse` — the counters of a text.
* `Stats.pending?`, `Stats.received?` — the buffer counters that checks look at.
-/

namespace TtpConformance

/-- Counters with different names, in the order of the names' characters. -/
structure Stats where
  counters : List (String × UInt64) := []
  deriving DecidableEq, Repr

namespace Stats

/-- Sets a counter in a list that is ordered by name. -/
def insertCounter (name : String) (value : UInt64) :
    List (String × UInt64) → List (String × UInt64)
  | [] => [(name, value)]
  | (other, v) :: rest =>
    if name = other then (name, value) :: rest
    else if name < other then (name, value) :: (other, v) :: rest
    else (other, v) :: insertCounter name value rest

/-- Sets a counter. -/
def insert (s : Stats) (name : String) (value : UInt64) : Stats :=
  ⟨insertCounter name value s.counters⟩

/-- The fields of a text. -/
def fields (cs : List Char) : List (List Char) :=
  (Text.lines cs).flatMap (Text.splitBy fun c => c == ',' || c == ';')

/-- The counter that a field shows: what stands before its first colon, and the number behind
it. -/
def readField? (field : List Char) : Option (String × UInt64) :=
  match Text.cutAt ':' field with
  | none => none
  | some (name, value) =>
    match Text.readUInt64 (Text.trim value) with
    | .ok n => some (.ofList (Text.trim name), n)
    | .error _ => none

/-- The counters of a text. -/
def parse (text : String) : Stats :=
  ((fields text.toList).filterMap readField?).foldl (fun s (name, value) => s.insert name value)
    {}

/-- The value of a counter. -/
def get? (s : Stats) (name : String) : Option UInt64 :=
  (s.counters.find? (·.1 == name)).map (·.2)

/-- The counter of buffers that are not yet released. -/
def pendingName : String := "skb_ct"

/-- The counter of received buffers. -/
def receivedName : String := "skb_rx"

/-- The buffers that are not yet released. -/
def pending? (s : Stats) : Option UInt64 := s.get? pendingName

/-- The received buffers. -/
def received? (s : Stats) : Option UInt64 := s.get? receivedName

/-- The counters of buffers. -/
def bufferCounters (s : Stats) : List (String × UInt64) :=
  s.counters.filter fun (name, _) => "skb_".toList.isPrefixOf name.toList

end Stats

end TtpConformance
