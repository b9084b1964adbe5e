import TtpConformance.Module.Control
import TtpConformance.Verify.Failure

/-!
# Looking at a node

Reading the status files of a node and checking what they say.

## Main definitions

* `Observe.baseline` — the number from which exchanges are counted.
* `Observe.tags`, `Observe.stats` — the tag table and the counters.
* `Observe.verify`, `Observe.pending`, `Observe.received`, `Observe.openTag` — checks of them.
-/

namespace TtpConformance.Observe

variable (settings : Settings)

/-- The number that a text shows, surrounding white space dropped. -/
def readBaseline (host : Host) (text : String) : Except RunError UInt64 :=
  let cs := Text.trim text.toList
  match Text.readUInt64 cs with
  | .ok n => .ok n
  | .error e =>
    .error (.parse (host.text ++ ": tag_seq '" ++ .ofList cs ++ "': " ++ e.message))

/-- The number from which the exchanges of a node are counted. -/
def baseline (host : Host) : Step UInt64 := do
  let text ← Step.fileText host (settings.param Module.tagSequenceParam)
  Step.ofExcept (readBaseline host text)

/-- The tag table of a node. -/
def tags (host : Host) : Step TagTable := do
  return TagTable.parse (← Step.fileText host settings.tagsPath)

/-- The counters of a node. -/
def stats (host : Host) : Step Stats := do
  return Stats.parse (← Step.fileText host (settings.param Module.statsParam))

/-- Whether a row of the peer shows the expected numbers. -/
def verify (host : Host) (peer : String) (expected : SeqTriple) : Step Verdict := do
  return checkTags host.text (← tags settings host) peer expected

/-- Whether all buffers of a node are released. -/
def pending (host : Host) : Step Verdict := do
  return checkPending host.text (← stats settings host)

/-- Whether a node has received the expected number of buffers. -/
def received (host : Host) (expected : UInt64) : Step Verdict := do
  return checkReceived host.text (← stats settings host) expected

/-- Whether a node lists an open connection to a peer. -/
def openTag (host : Host) (peer : String) : Step Bool := do
  return (← tags settings host).hasOpen peer

end TtpConformance.Observe
