import TtpConformance.Scenario.Exchange
import TtpConformance.Scenario.Injection
import TtpConformance.Scenario.Report
import TtpConformance.Scenario.StatusDump

/-!
# The schedule

The scenarios of a run, in the order in which they are played. A scenario lists what it requires;
the first requirement that the run does not meet is the reason for skipping it, and that is decided
by the session alone. A failure of one scenario leaves the others as they are.

## Main definitions

* `Requirement`, `Requirement.unmetReason?` — what a scenario needs of a run.
* `Scenario`, `schedule` — the twenty-seven scenarios.
* `Stage.play`, `Stage.playAll` — playing one, and all of them.
* `Session.runScenarios`, `runSession` — the scenarios of a session, and a whole run.
-/

namespace TtpConformance

/-- What a scenario needs of a run. -/
inductive Requirement where
  /-- There is a peer. -/
  | peer
  /-- The modules were loaded by this run. -/
  | moduleReload
  /-- Frame generator scenarios are wanted. -/
  | packet
  /-- Traffic scenarios are wanted. -/
  | traffic
  /-- Bulk traffic is wanted. -/
  | bulkTraffic
  /-- The local node has the frame generator. -/
  | selfGenerator
  /-- The peer has the frame generator. -/
  | peerGenerator
  /-- Frames go from node to node: native, without a gateway, and none is dropped on purpose. -/
  | directPath
  deriving DecidableEq, Repr

/-- The reason for which a requirement is not met, if it is not. -/
def Requirement.unmetReason? (session : Session) : Requirement → Option String
  | .peer => if session.identities.peer.isNone then some "--no-remote specified" else none
  | .moduleReload => if session.context.skip.load then some "requires module reload" else none
  | .packet => if session.context.skip.packet then some "--no-packet specified" else none
  | .traffic => if session.context.skip.traffic then some "--no-traffic specified" else none
  | .bulkTraffic =>
    if session.context.trafficRepeats.isSome then some "no bulk traffic with --traffic" else none
  | .selfGenerator => if session.tools.selfGenerator then none else some "no trafgen on self"
  | .peerGenerator => if session.tools.peerGenerator then none else some "no trafgen on peer"
  | .directPath =>
    if session.context.encapsulation.isIpv4 then some "--ipv4 specified"
    else if session.context.useGateway then some "--use-gw specified"
    else if 0 < session.context.dropPercent then some "--drop-pct specified"
    else none

/-- A scenario: its name, what it needs, and what it does. -/
structure Scenario where
  group : String
  name : String
  requires : List Requirement
  body : Stage → Check Unit

namespace Scenario

/-- The reason for skipping a scenario, if there is one. -/
def skipReason? (scenario : Scenario) (session : Session) : Option String :=
  scenario.requires.findSome? (·.unmetReason? session)

/-- Sequence numbers; the expected ones count every exchange since the modules were loaded. -/
def sequenceGroup : List Scenario :=
  [⟨"seq_ids", "seq_clear", [.peer], (·.clearBoth)⟩,
   ⟨"seq_ids", "tx_seq", [.moduleReload, .peer], (·.transmit)⟩,
   ⟨"seq_ids", "rx_seq", [.moduleReload, .peer], (·.receive)⟩,
   ⟨"seq_ids", "tx_drop", [.peer], (·.oversubscribe)⟩]

/-- Status files, and payloads of all sizes. -/
def payloadGroup : List Scenario :=
  [⟨"proc", "stats", [], (·.dumpStats .self)⟩,
   ⟨"proc", "tags", [], (·.dumpTags .self)⟩,
   ⟨"proc", "payload_500", [.moduleReload, .peer], (·.roundTrip "500")⟩,
   ⟨"proc", "payload_1000", [.moduleReload, .peer], (·.roundTrip "1000")⟩,
   ⟨"proc", "payload_2000", [.moduleReload, .peer], (·.roundTrip "2000")⟩,
   ⟨"proc", "payload_3000", [.moduleReload, .peer], (·.roundTrip "3000")⟩,
   ⟨"proc", "payload_4000", [.moduleReload, .peer], (·.roundTrip largestFile)⟩]

/-- Frames of either direction. -/
def packetGroup : List Scenario :=
  let receiving : List Requirement := [.packet, .peer, .peerGenerator]
  let sending : List Requirement := [.packet, .peer, .selfGenerator]
  let receivingClose : List Requirement :=
    [.directPath, .packet, .moduleReload, .peer, .peerGenerator]
  let sendingClose : List Requirement :=
    [.directPath, .packet, .moduleReload, .peer, .selfGenerator]
  [⟨"packet", "recv_open", receiving, (·.inject .receive .openRequest)⟩,
   ⟨"packet", "send_open", sending, (·.inject .send .openRequest)⟩,
   ⟨"packet", "recv_payload", receiving, (·.inject .receive .payload)⟩,
   ⟨"packet", "send_payload", sending, (·.inject .send .payload)⟩,
   ⟨"packet", "recv_close", receivingClose, (·.inject .receive .closeRequest)⟩,
   ⟨"packet", "send_close", sendingClose, (·.inject .send .closeRequest)⟩]

/-- Status files and debug devices of both nodes. -/
def showGroup : List Scenario :=
  [⟨"noc_db", "show_tags", [.peer], (·.showTags)⟩,
   ⟨"noc_db", "show_debug", [.peer], (·.showDebug)⟩]

/-- How often the medium payload is sent. -/
def mediumRepeats (stage : Stage) : Nat :=
  stage.session.context.trafficRepeats.getD defaultTrafficRepeats

/-- Payloads sent many times over. -/
def trafficGroup : List Scenario :=
  [⟨"traffic", "single_500", [.traffic, .peer], (·.burst "500" 1)⟩,
   ⟨"traffic", "repeat_1000", [.traffic, .peer], fun s => s.burst "1000" (mediumRepeats s)⟩,
   ⟨"traffic", "bulk_2000", [.traffic, .bulkTraffic, .peer], (·.burst "2000" 99)⟩,
   ⟨"traffic", "bulk_3000", [.traffic, .bulkTraffic, .peer], (·.burst "3000" 19)⟩,
   ⟨"traffic", "bulk_4000", [.traffic, .bulkTraffic, .peer], (·.burst largestFile 99)⟩]

/-- The final state of both nodes. -/
def cleanupGroup : List Scenario :=
  [⟨"cleanup", "peer_open_tag", [.peer], (·.peerClosed)⟩,
   ⟨"cleanup", "local_pending", [], (·.drained .self)⟩,
   ⟨"cleanup", "peer_pending", [.peer], (·.peerDrained)⟩]

end Scenario

/-- All scenarios, in the order in which they are played. -/
def schedule : List Scenario :=
  Scenario.sequenceGroup ++ Scenario.payloadGroup ++ Scenario.packetGroup ++
    Scenario.showGroup ++ Scenario.trafficGroup ++ Scenario.cleanupGroup

namespace Stage

/-- Plays a scenario, or skips it. There is no outcome if a pause never ends. -/
def play (s : Stage) (scenario : Scenario) : Program (Option ScenarioOutcome) :=
  match scenario.skipReason? s.session with
  | some reason => return some (.skipped reason)
  | none => do
    match ← (scenario.body s).run with
    | .ok () => return some .passed
    | .error (.failed failure) => return some (.failed failure.message)
    | .error .endlessPause => return none

/-- Plays scenarios in order. There is no report if a pause never ends. -/
def playEach (s : Stage) : List Scenario → Program (Option (List ScenarioReport))
  | [] => return some []
  | scenario :: rest => do
    match ← s.play scenario with
    | none => return none
    | some outcome =>
      match ← s.playEach rest with
      | none => return none
      | some reports => return some (⟨scenario.group, scenario.name, outcome⟩ :: reports)

/-- Plays all scenarios. -/
def playAll (s : Stage) : Program (Option RunReport) := do
  return (← s.playEach schedule).map RunReport.mk

end Stage

/-- The scenarios of a session. -/
def Session.runScenarios (settings : Settings) (session : Session) :
    Program (Option RunReport) :=
  Stage.playAll { settings, session }

/--
A whole run: setup, all scenarios, teardown. An error is one of setup. Without a report the run
was given up at a pause that never ends, and only the locks were given back.
-/
def runSession (settings : Settings) (context : RunContext) : Step (Option RunReport) := do
  let session ← Session.setup settings context
  match ← ExceptT.lift (session.runScenarios settings) with
  | none =>
    ExceptT.lift session.drop
    return none
  | some report =>
    ExceptT.lift (session.teardown settings)
    return some report

end TtpConformance
