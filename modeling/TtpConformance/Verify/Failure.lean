import TtpConformance.RunError
import TtpConformance.Status.Stats
import TtpConformance.Status.Tags

/-!
# Checks and their failures

An exchange moves the sequence numbers of a connection by a fixed amount from the number that was
read right after the module was loaded. A check looks for exactly the expected numbers among the
rows of the peer, or at the counters of buffers. A check that does not hold is the outcome of one
scenario and does not end the run.

## Main definitions

* `SeqOffset`, `SeqTriple.expected` — what an exchange moves.
* `CheckFailure` — a check that did not hold, with its wording.
* `checkTags`, `checkPending`, `checkReceived` — the checks.
-/

namespace TtpConformance

/-- How far an exchange has moved the sequence numbers. -/
structure SeqOffset where
  own : UInt64
  peerTx : UInt64
  peerRx : UInt64
  deriving DecidableEq, Repr

namespace SeqOffset

/-- After the first transmission, which also opens the connection. -/
def firstTx : SeqOffset := ⟨0, 2, 1⟩

/-- After the second transmission. -/
def secondTx : SeqOffset := ⟨0, 3, 2⟩

/-- After the first reception. -/
def firstRx : SeqOffset := ⟨1, 3, 2⟩

/-- After the second reception. -/
def secondRx : SeqOffset := ⟨2, 3, 2⟩

end SeqOffset

/-- The sum of two 64-bit numbers, or the greatest such number if that is too large. -/
def saturatingAdd (a b : UInt64) : UInt64 :=
  UInt64.ofNat (min (a.toNat + b.toNat) (UInt64.size - 1))

/-- The numbers expected after an exchange. -/
def SeqTriple.expected (base : UInt64) (offset : SeqOffset) : SeqTriple :=
  ⟨saturatingAdd base offset.own, saturatingAdd base offset.peerTx,
    saturatingAdd base offset.peerRx⟩

/-- A check that did not hold. -/
inductive CheckFailure where
  /-- No row of the peer shows the expected numbers. -/
  | sequenceMismatch (node peer : String) (expected : SeqTriple) (observed : List SeqTriple)
  /-- Buffers are not yet released. -/
  | pendingBuffers (node : String) (count : UInt64)
  /-- The number of received buffers is another one. -/
  | receivedBuffers (node : String) (expected : UInt64) (actual : Option UInt64)
  /-- What was received is not what was sent. -/
  | payloadMismatch (node file : String)
  /-- A connection is still open. -/
  | openTag (node peer : String)
  /-- A connection is not open. -/
  | missingOpenTag (node peer : String)
  /-- A step of the scenario could not be carried out. -/
  | run (error : RunError)
  deriving DecidableEq, Repr

namespace CheckFailure

/-- Triples in brackets. -/
def observedText (triples : List SeqTriple) : String :=
  "[" ++ ", ".intercalate (triples.map SeqTriple.text) ++ "]"

/-- A count that may be missing. -/
def countText : Option UInt64 → String
  | some n => "Some(" ++ Text.decimal n.toNat ++ ")"
  | none => "None"

/-- The wording of a failure. -/
def message : CheckFailure → String
  | .sequenceMismatch node peer expected observed =>
    "sequence mismatch on " ++ node ++ ": expected " ++ expected.text ++ " for peer " ++ peer ++
      ", found " ++ observedText observed
  | .pendingBuffers node count =>
    "pending buffers on " ++ node ++ ": skb_ct = " ++ Text.decimal count.toNat
  | .receivedBuffers node expected actual =>
    "received buffers on " ++ node ++ ": expected " ++ Text.decimal expected.toNat ++
      ", found " ++ countText actual
  | .payloadMismatch node file =>
    "received payload on " ++ node ++ " does not match '" ++ file ++ "'"
  | .openTag node peer => "open tag for peer " ++ peer ++ " on " ++ node
  | .missingOpenTag node peer => "no open tag for peer " ++ peer ++ " on " ++ node
  | .run error => error.message

end CheckFailure

/-- Whether a check held. -/
abbrev Verdict := Except CheckFailure Unit

/-- Holds if some row of the peer shows exactly the expected numbers. -/
def checkTags (node : String) (table : TagTable) (peer : String) (expected : SeqTriple) :
    Verdict :=
  let rows := table.rowsOf peer
  if rows.any (·.shows expected) then .ok ()
  else .error (.sequenceMismatch node peer expected (rows.flatMap (·.windows)))

/-- Holds if all buffers are released. -/
def checkPending (node : String) (stats : Stats) : Verdict :=
  match stats.pending? with
  | some n => if n = 0 then .ok () else .error (.pendingBuffers node n)
  | none => .error (.run (.parse (node ++ ": stats have no " ++ Stats.pendingName)))

/-- Holds if the number of received buffers is the expected one. -/
def checkReceived (node : String) (stats : Stats) (expected : UInt64) : Verdict :=
  if stats.received? = some expected then .ok ()
  else .error (.receivedBuffers node expected stats.received?)

end TtpConformance
