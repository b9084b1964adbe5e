import TtpConformance.Options
import TtpConformance.Settings.Basic
import TtpConformance.Zone.Pairing

/-!
# Cross-zone runs

A cross run pairs the nodes of the lab across zones, round by round, and runs the harness on one
node of each pair against the other one.

## Main definitions

* `CrossOptions`, `CrossSettings` — what is asked for, and what follows from it.
* `pairScript` — the command line of a pair.
-/

namespace TtpConformance

/-- Options of a cross run as they are given. -/
structure CrossOptions where
  /-- Every optional node, and five rounds. -/
  all : Bool := false
  /-- Plans only. -/
  dryRun : Bool := false
  /-- IPv4 instead of the gateway. -/
  ipv4 : Bool := false
  /-- The sequence scenarios only. -/
  min : Bool := false
  /-- The number of rounds. -/
  rounds : Option UInt32 := none
  /-- The pairs of a round one after the other. -/
  serial : Bool := false
  /-- The `uba` nodes. -/
  uba : Bool := false
  /-- The `utm` zone. -/
  utm : Bool := false
  /-- The pause between rounds. -/
  wait : Option Duration := none

/-- What a cross run does. -/
structure CrossSettings where
  zones : Zones
  encapsulation : Encapsulation
  /-- The sequence scenarios only. -/
  min : Bool
  rounds : UInt32
  /-- The pause between rounds. -/
  wait : Duration
  /-- All pairs of a round at once. -/
  parallel : Bool
  /-- Plans only. -/
  dryRun : Bool
  deriving DecidableEq

/-- The pause between rounds when none is given. -/
def defaultCrossWait : Duration := .ofSeconds 10

/-- The rounds of a run over all nodes when no number is given. -/
def allRounds : UInt32 := 5

/-- What options ask for. A dry run has one round. -/
def CrossSettings.ofOptions (o : CrossOptions) : CrossSettings where
  zones := .build (o.uba || o.all) (o.utm || o.all)
  encapsulation := if o.ipv4 then .ipv4 else .native
  min := o.min
  rounds := if o.dryRun then 1 else o.rounds.getD (if o.all then allRounds else 1)
  wait := o.wait.getD defaultCrossWait
  parallel := !o.serial
  dryRun := o.dryRun

/-- The command line that runs the harness on a pair's initiator. -/
def pairScript (settings : Settings) (cross : CrossSettings) (pair : NodePair) : String :=
  settings.runScript ++ " --target=" ++ Text.hexByte pair.target ++
    (match cross.encapsulation with
      | .ipv4 => " --ipv4"
      | .native => " --use-gw") ++
    if cross.min then " -k Test0" else ""

end TtpConformance
