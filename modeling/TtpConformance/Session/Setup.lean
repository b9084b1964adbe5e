import TtpConformance.Identity.Resolve
import TtpConformance.Lock.Pair
import TtpConformance.Verify.Observe

/-!
# Bringing a run up and down

Setting a run up finds out who takes part, checks both nodes without changing anything, takes the
locks and only then loads and configures the modules. If something fails after the locks are
taken, what this run has loaded is unloaded again and the locks are given back, and the error is
still the one of the step that failed.

Taking a run down unloads both modules, unless they are to stay, and gives the locks back.
Nothing that goes wrong there changes the outcome of the run.

## Main definitions

* `Session` — a run that is set up.
* `preflight` — the checks that change nothing.
* `BringUp`, `bringUp` — loading and configuring, and how far it came.
* `Session.setup`, `Session.teardown`, `Session.drop` — a session's beginning and its ends.
-/

namespace TtpConformance

/-- The nodes on which the frame generator was found. -/
structure Tools where
  selfGenerator : Bool := false
  peerGenerator : Bool := false
  deriving DecidableEq, Repr

/-- The modules that a run has loaded. -/
structure Loaded where
  self : Bool := false
  peer : Bool := false
  deriving DecidableEq, Repr

/-- A run that is set up. -/
structure Session where
  context : RunContext
  identities : Identities
  tools : Tools
  locks : HeldLocks
  /-- The local tag sequence number after setup. -/
  baseline : UInt64
  /-- The peer's tag sequence number, if there is a peer. -/
  peerBaseline : Option UInt64
  /-- The next hop of the local node, if it had to be found out. -/
  gateway : Option Gateway
  deriving DecidableEq

variable (settings : Settings)

/-- Fails unless the debug device is a character device or missing. -/
def checkDebugDevice (host : Host) (name : String) : Step Unit := do
  if ← Step.test host (.testCharDevice settings.debugDevice) then return ()
  else
    throw (.configuration (name ++ ": " ++ settings.debugDevice ++
      " is not a character device (remove it if it is a plain file)"))

/-- Checks the peer, and whether it has the frame generator. -/
def preflightPeer (context : RunContext) (peer : Host) : Step Bool := do
  checkDebugDevice settings peer peer.text
  if ← Step.test peer (.testLink context.peer.device) then
    Step.hasProgram peer settings.trafgen
  else
    throw (.configuration (peer.text ++ ": device '" ++ context.peer.device ++ "' not found"))

/-- Checks both nodes without changing anything. -/
def preflight (context : RunContext) (identities : Identities) : Step Tools := do
  checkDebugDevice settings .self "self"
  let selfGenerator ← Step.hasProgram .self settings.trafgen
  match identities.peerHost with
  | none => return { selfGenerator }
  | some peer => return { selfGenerator, peerGenerator := ← preflightPeer settings context peer }

/-- What bringing a run up has found out. -/
structure BringUp where
  baseline : UInt64
  peerBaseline : Option UInt64
  gateway : Option Gateway
  deriving DecidableEq

/-- A program that may end with an error and keeps account of loaded modules. -/
abbrev LoadingStep (α : Type) := ExceptT RunError (StateT Loaded Program) α

namespace LoadingStep

/-- A step that loads nothing. -/
def lift {α : Type} (step : Step α) : LoadingStep α :=
  ExceptT.mk (StateT.lift step.run)

end LoadingStep

/-- Loads and configures the local module. -/
def bringUpSelf (context : RunContext) (target : Target) : LoadingStep (Option Gateway) := do
  if context.skip.load then return none
  else
    LoadingStep.lift (Module.load settings .self (.ofContext context context.self))
    modify fun loaded => { loaded with self := true }
    LoadingStep.lift (Module.configureSelf settings .self context target.code
      settings.timing.gatewayPolicy)

/-- Loads the peer's module, and reads the number from which its exchanges are counted. -/
def bringUpPeer (context : RunContext) (peer : Host) : LoadingStep UInt64 := do
  unless context.skip.load do
    LoadingStep.lift (Module.load settings peer (.ofContext context context.peer))
    modify fun loaded => { loaded with peer := true }
    LoadingStep.lift (Step.pause settings.timing.peerSettle)
  LoadingStep.lift (Observe.baseline settings peer)

/-- Loads and configures the modules of both nodes. -/
def bringUp (context : RunContext) (identities : Identities) : LoadingStep BringUp := do
  let gateway ← bringUpSelf settings context identities.target
  let baseline ← LoadingStep.lift (Observe.baseline settings .self)
  match identities.peerHost with
  | none => return { baseline, peerBaseline := none, gateway }
  | some peer =>
    return { baseline, peerBaseline := some (← bringUpPeer settings context peer), gateway }

/-- Unloads the peer's module if there is a peer. -/
def unloadPeer (identities : Identities) : Program Unit :=
  match identities.peerHost with
  | none => pure ()
  | some peer => Module.unload settings peer

/-- Takes back a setup that came this far: unloads what was loaded, then gives the locks back. -/
def rollBack (identities : Identities) (loaded : Loaded) (locks : HeldLocks) :
    Program Unit := do
  if loaded.self then Module.unload settings .self
  if loaded.peer then unloadPeer settings identities
  locks.release

namespace Session

/-- Loads and configures the modules under locks that are held already. -/
def establish (context : RunContext) (identities : Identities) (tools : Tools)
    (locks : HeldLocks) : Program (Except RunError Session) := do
  let (result, loaded) ← (bringUp settings context identities).run.run {}
  match result with
  | .ok up =>
    return .ok { context, identities, tools, locks, baseline := up.baseline
                 peerBaseline := up.peerBaseline, gateway := up.gateway }
  | .error e =>
    rollBack settings identities loaded locks
    return .error e

/-- Sets a run up. -/
def setup (context : RunContext) : Step Session := do
  let identities ← Identities.resolve context
  let tools ← preflight settings context identities
  let locks ← ExceptT.mk
    (HeldLocks.acquire identities.self.hostname (identities.peer.map (·.hostname)))
  ExceptT.mk (establish settings context identities tools locks)

/-- Takes a run down. -/
def teardown (session : Session) : Program Unit := do
  unless session.context.skip.unload do
    Module.unload settings .self
    unloadPeer settings session.identities
  session.locks.release

/-- Gives a run up without taking it down: only the locks are given back. -/
def drop (session : Session) : Program Unit := session.locks.release

end Session

end TtpConformance
