import TtpConformance.Scenario.Stage

/-!
# Injected frames

Scenarios in which one node sends a hand-built frame to the other. Whichever node sends, the local
tag table has to list the connection as open after a frame that opens it or carries data, and not
after one that closes it.

## Main definitions

* `Direction` — which node sends.
* `Stage.frame` — the frame of a direction and opcode.
* `Stage.inject` — sending it, and looking at the tag table.
-/

namespace TtpConformance

/-- Which node sends. -/
inductive Direction where
  /-- The peer sends to the local node. -/
  | receive
  /-- The local node sends to the peer. -/
  | send
  deriving DecidableEq, Repr

namespace Stage

/-- The frame of a direction and opcode. A close from the peer names the peer as the sender; every
other frame names the local node. -/
def frame (s : Stage) (direction : Direction) (opcode : Opcode) : Frame :=
  let self := s.session.identities.self
  let target := s.session.identities.target
  let (destination, source) :=
    match direction with
    | .receive => (self.mac, target.mac)
    | .send => (target.mac, self.mac)
  let (sourceNode, destinationNode) :=
    match direction, opcode with
    | .receive, .closeRequest => (target.code, self.targetCode)
    | _, _ => (self.targetCode, target.code)
  { destination, source, sourceNode, destinationNode, opcode
    channel := s.session.context.channel }

/-- The node that sends, and its device. -/
def sender (s : Stage) : Direction → Check (Host × String)
  | .receive => return (← s.peer, s.session.context.peer.device)
  | .send => return (.self, s.session.context.self.device)

/-- Whether the connection is to be open after a frame. -/
def opensConnection : Opcode → Bool
  | .openRequest | .payload => true
  | .closeRequest => false

/-- Sends a frame and looks at the local tag table. -/
def inject (s : Stage) (direction : Direction) (opcode : Opcode) : Check Unit := do
  let (host, device) ← s.sender direction
  let call := Generator.ofFrame s.settings.trafgen device (s.settings.testFile templateFile)
    (s.frame direction opcode)
  discard (Check.ofStep (Step.checked host (.sendFrames call)))
  s.pause s.settings.timing.exchange
  match opensConnection opcode, ← Check.ofStep (Observe.openTag s.settings .self s.peerFragment)
    with
  | true, false => throw (.failed (.missingOpenTag Host.self.text s.peerFragment))
  | false, true => throw (.failed (.openTag Host.self.text s.peerFragment))
  | _, _ => return ()

end Stage

end TtpConformance
