import TtpConformance.Scenario.Stage

/-!
# Exchanges through the debug device

Scenarios that send test files through the debug devices. The sequence scenarios count every
exchange since the modules were loaded, so they come first in a run; the payload scenarios look
only at what arrives; the traffic scenarios only send.

## Main definitions

* `Stage.clearBoth`, `Stage.transmit`, `Stage.receive`, `Stage.oversubscribe` — sequence numbers.
* `Stage.roundTrip`, `Stage.burst` — payloads and traffic.
-/

namespace TtpConformance

/-- A small text, sent where only the sequence numbers matter. -/
def greetFile : String := "greet"

/-- The largest payload. -/
def largestFile : String := "4000"

/-- What is written to the peer right after a large payload; the module drops it. -/
def droppedText : String := "expect-this-to-be-dropped"

/-- The buffers received after two transmissions and the opening of the connection. -/
def receivedAfterTransmit : UInt64 := 3

namespace Stage

/-- Empties both debug devices. -/
def clearBoth (s : Stage) : Check Unit := do
  let peer ← s.peer
  s.clearDebug .self
  s.clearDebug peer

/-- Two transmissions, with the numbers after each and the buffers after both. -/
def transmit (s : Stage) : Check Unit := do
  let peer ← s.peer
  s.sendFile .self greetFile
  wait s.settings.timing.firstExchange
  s.expectReceived peer greetFile
  s.expectSequence .firstTx
  s.sendFile .self greetFile
  wait s.settings.timing.exchange
  s.expectSequence .secondTx
  s.expectDrained .self
  .ofVerdict (Observe.received s.settings .self receivedAfterTransmit)

/-- One reception with the numbers after it. Whether the text arrived is looked at, but decides
nothing. -/
def receiveOne (s : Stage) (peer : Host) (offset : SeqOffset) : Check Unit := do
  s.sendFile peer greetFile
  s.pause s.settings.timing.exchange
  ExceptT.lift (discard (s.hasReceived .self greetFile).run)
  s.expectSequence offset

/-- Two receptions, after the peer is pointed at the local node. -/
def receive (s : Stage) : Check Unit := do
  let peer ← s.peer
  .ofStep (Module.setTarget s.settings peer s.session.identities.self.targetCode
    s.session.context.channel)
  s.clearDebug .self
  s.receiveOne peer .firstRx
  s.receiveOne peer .secondRx

/-- A second write right after a large payload, which is dropped; whether the write works makes no
difference. -/
def oversubscribe (s : Stage) : Check Unit := do
  let peer ← s.peer
  s.clearDebug .self
  s.clearDebug peer
  wait s.settings.timing.exchange
  s.sendFile peer largestFile
  discard (Check.ofStep (Step.execute peer (.writeText s.settings.debugDevice droppedText)))
  wait s.settings.timing.exchange
  s.clearDebug peer
  s.clearDebug .self

/-- Sends a payload to the peer, which has to capture it unchanged. -/
def roundTrip (s : Stage) (file : String) : Check Unit := do
  let peer ← s.peer
  s.clearDebug peer
  s.pause s.settings.timing.exchange
  s.sendFile .self file
  s.pause (if file = largestFile then s.settings.timing.bulkExchange
    else s.settings.timing.exchange)
  s.expectReceived peer file

/-- Sends a payload to the peer a number of times. -/
def burst (s : Stage) (file : String) (count : Nat) : Check Unit := do
  let peer ← s.peer
  s.clearDebug peer
  Check.times (s.sendFile .self file) count

end Stage

end TtpConformance
