import TtpConformance.Session.Setup

/-!
# The stage of a scenario

What scenario bodies are made of: sending a file into the debug device of a node, emptying it,
comparing what was captured, pausing for an exchange, and looking at the status files.

A body ends early when a check does not hold. It also ends when it would have to pause for longer
than any duration, which the settle time of a run can bring about; that ends the run.

## Main definitions

* `Stage` — the settings and the session that scenarios play on.
* `Check` — a piece of a body; `BodyEnd` is why one ends early.
* `Check.ofStep`, `Check.ofVerdict` — steps and checks as pieces of a body.
* `Stage.pause`, `Stage.clearDebug`, `Stage.sendFile`, `Stage.expectReceived` — the pieces.
-/

namespace TtpConformance

/-- Why a scenario body ends early. -/
inductive BodyEnd where
  /-- A check did not hold. -/
  | failed (failure : CheckFailure)
  /-- A pause is longer than any duration. -/
  | endlessPause
  deriving DecidableEq, Repr

/-- A piece of a scenario body. -/
abbrev Check (α : Type) := ExceptT BodyEnd Program α

namespace Check

/-- A step; its error is a failure of the scenario. -/
def ofStep {α : Type} (step : Step α) : Check α :=
  ExceptT.mk do
    match ← step.run with
    | .ok a => return .ok a
    | .error e => return .error (.failed (.run e))

/-- A step that gives a verdict. -/
def ofVerdict (step : Step Verdict) : Check Unit := do
  match ← ofStep step with
  | .ok () => return ()
  | .error failure => throw (.failed failure)

/-- A piece that is repeated. -/
def times (piece : Check Unit) : Nat → Check Unit
  | 0 => return ()
  | n + 1 => do
    piece
    times piece n

end Check

/-- What scenarios play on. -/
structure Stage where
  settings : Settings
  session : Session

namespace Stage

/-- The peer; only scenarios that need one may ask. -/
def peer (s : Stage) : Check Host :=
  match s.session.identities.peerHost with
  | some host => return host
  | none => throw (.failed (.run (.configuration "no peer node in this run")))

/-- The peer's address as the local tag table shows it. -/
def peerFragment (s : Stage) : String := s.session.identities.target.fragment

/-- The local address as the peer's tag table shows it. -/
def selfFragment (s : Stage) : String := s.session.identities.self.fragment

/-- A pause of the given length. -/
def wait (length : Duration) : Check Unit := .ofStep (Step.pause length)

/-- A pause of the given length and the settle time of the run. -/
def pause (s : Stage) (base : Duration) : Check Unit :=
  match base.add? s.session.context.settle with
  | some length => wait length
  | none => throw .endlessPause

/-- Empties the debug device of a node. -/
def clearDebug (s : Stage) (host : Host) : Check Unit :=
  .ofStep (Step.copyFile host "/dev/null" s.settings.debugDevice)

/-- Writes a test file into the debug device of a node. -/
def sendFile (s : Stage) (host : Host) (file : String) : Check Unit :=
  .ofStep (Step.copyFile host (s.settings.testFile file) s.settings.debugDevice)

/-- Whether the debug device of a node holds exactly a test file. -/
def hasReceived (s : Stage) (host : Host) (file : String) : Step Bool :=
  Step.filesMatch host s.settings.debugDevice (s.settings.testFile file)

/-- Fails unless the debug device of a node holds exactly a test file. -/
def expectReceived (s : Stage) (host : Host) (file : String) : Check Unit := do
  if ← Check.ofStep (s.hasReceived host file) then return ()
  else throw (.failed (.payloadMismatch host.text file))

/-- Fails unless the local tag table shows the numbers after an exchange. -/
def expectSequence (s : Stage) (offset : SeqOffset) : Check Unit :=
  .ofVerdict (Observe.verify s.settings .self s.peerFragment
    (.expected s.session.baseline offset))

/-- Fails unless all buffers of a node are released. -/
def expectDrained (s : Stage) (host : Host) : Check Unit :=
  .ofVerdict (Observe.pending s.settings host)

end Stage

end TtpConformance
