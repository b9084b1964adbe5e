import TtpConformance.Scenario.Exchange

/-!
# Status surfaces

Scenarios that read the status files of the nodes: dumps, which only have to be readable, and the
final state, in which no connection is open and no buffer is in flight.

## Main definitions

* `Stage.dumpStats`, `Stage.dumpTags`, `Stage.showTags`, `Stage.showDebug` — dumps.
* `Stage.peerClosed`, `Stage.drained` — the final state.
-/

namespace TtpConformance.Stage

/-- Reads the counters of a node. -/
def dumpStats (s : Stage) (host : Host) : Check Unit :=
  discard (Check.ofStep (Observe.stats s.settings host))

/-- Reads the tag table of a node. -/
def dumpTags (s : Stage) (host : Host) : Check Unit :=
  discard (Check.ofStep (Observe.tags s.settings host))

/-- Reads the tag tables of both nodes. -/
def showTags (s : Stage) : Check Unit := do
  let peer ← s.peer
  s.dumpTags .self
  s.dumpTags peer

/-- Empties the debug device of a node and sends a small text into it. -/
def refillDebug (s : Stage) (host : Host) : Check Unit := do
  s.clearDebug host
  s.sendFile host greetFile

/-- Reads the debug device of a node. -/
def readDebug (s : Stage) (host : Host) : Check Unit :=
  discard (Check.ofStep (Step.fileText host s.settings.debugDevice))

/-- Sends a small text from both nodes and reads both debug devices. -/
def showDebug (s : Stage) : Check Unit := do
  let peer ← s.peer
  s.refillDebug .self
  s.refillDebug peer
  s.readDebug .self
  s.readDebug peer

/-- The peer lists no open connection to the local node. -/
def peerClosed (s : Stage) : Check Unit := do
  let peer ← s.peer
  s.pause s.settings.timing.exchange
  if ← Check.ofStep (Observe.openTag s.settings peer s.selfFragment) then
    throw (.failed (.openTag peer.text s.selfFragment))
  else return ()

/-- A node has no buffers in flight. -/
def drained (s : Stage) (host : Host) : Check Unit := do
  s.pause s.settings.timing.exchange
  s.expectDrained host

/-- The peer has no buffers in flight. -/
def peerDrained (s : Stage) : Check Unit := do
  s.drained (← s.peer)

end TtpConformance.Stage
