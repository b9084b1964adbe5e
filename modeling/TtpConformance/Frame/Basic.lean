import TtpConformance.Options

/-!
# Hand-built frames

TTP frames that a frame generator sends from a template. The template is the same on every node;
a frame fills in its macros. A control frame opens or closes a connection, and a data frame
carries a payload.

## Main definitions

* `Opcode` — the kinds of frame, with code, lengths and payload.
* `Frame` — one frame.
* `Frame.defines` — the macros that the template is given, in its order.
-/

namespace TtpConformance

/-- The kinds of frame that the template can build. -/
inductive Opcode where
  /-- Asks for a connection. -/
  | openRequest
  /-- Ends a connection. -/
  | closeRequest
  /-- Carries data. -/
  | payload
  deriving DecidableEq, Repr

namespace Opcode

/-- The code on the wire. -/
def code : Opcode → Nat
  | .openRequest => 0
  | .closeRequest => 3
  | .payload => 6

/-- The length of the Ethernet payload. -/
def totalLength : Opcode → Nat
  | .payload => 690
  | .openRequest | .closeRequest => 46

/-- The length of the part behind the transport header, which has twenty octets. -/
def nocLength (o : Opcode) : Nat := o.totalLength - 20

/-- The text that a frame carries. -/
def text : Opcode → String
  | .openRequest => "hello-tesla-OPEN"
  | .closeRequest => "hello-tesla-CLOSE"
  | .payload =>
    "Wikipedia is an online open-content collaborative encyclopedia, " ++
    "that is, a voluntary association of individuals and groups working to develop a common " ++
    "resource of human knowledge. The structure of the project allows anyone with Internet " ++
    "connection to alter its content. Please be advised that nothing found here has necessarily " ++
    "been reviewed by people with the expertise required to provide you with complete, accurate " ++
    "or reliable information. That is not to say that you will not find valuable and accurate " ++
    "information in Wikipedia, much of the time you will. However, Wikipedia cannot guarantee " ++
    "the validity of the information found here"

end Opcode

/-- One frame, by the macros that the template leaves open. -/
structure Frame where
  destination : Mac
  source : Mac
  /-- The target code of the node that sends. -/
  sourceNode : String
  /-- The target code of the node that receives. -/
  destinationNode : String
  opcode : Opcode
  channel : Channel
  deriving DecidableEq

namespace Frame

/-- The octet of service and traffic class. -/
def serviceClass : Nat := 5

/-- The transmit id of generated frames. -/
def transmitId : Nat := 2

/-- The receive id of generated frames. -/
def receiveId : Nat := 1

/-- A constant of the template language, of the given width in bits. -/
def constant (bits : Nat) (value : String) : String :=
  "c" ++ Text.decimal bits ++ "(" ++ value ++ ")"

/-- The macros in the template's order, but for the payload. -/
def defines (f : Frame) : List (String × String) :=
  [("DST_MAC", f.destination.text),
   ("SRC_MAC", f.source.text),
   ("SVTR", Text.decimal serviceClass),
   ("TOTLN", constant 16 (Text.decimal f.opcode.totalLength)),
   ("SRC_NODE", "0,0,x" ++ f.sourceNode),
   ("DST_NODE", "0,0,x" ++ f.destinationNode),
   ("NOCLN", constant 16 (Text.decimal f.opcode.nocLength)),
   ("CODE", Text.decimal f.opcode.code),
   ("VCID", constant 8 f.channel.text),
   ("TXID", constant 32 (Text.decimal transmitId)),
   ("RXID", constant 32 (Text.decimal receiveId))]

end Frame

end TtpConformance
