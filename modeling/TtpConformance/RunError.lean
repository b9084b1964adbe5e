import TtpConformance.Text.Numeral

/-!
# What ends a run

A run ends early for one of eight causes. Two of them, a bad configuration and a peer without a
host name, can only arise before the run has touched anything; `RunError.isConfiguration` is that
class. A check that does not hold is no such cause: it is the outcome of one scenario.

## Main definitions

* `RunError` — the causes.
* `RunError.message` — the wording of each.
-/

namespace TtpConformance

/-- Causes that end a run. -/
inductive RunError where
  /-- A command could not be started, or a lock file could not be made or removed. -/
  | io (reason : String)
  /-- Options that contradict each other, a bad device, or the local node named as its own peer. -/
  | configuration (reason : String)
  /-- The peer's address has no host name. -/
  | unresolvedPeer (reason : String)
  /-- Another run holds the lock of a node. -/
  | resourceBusy (reason : String)
  /-- The kernel module could not be loaded on a node. -/
  | moduleLoad (node reason : String)
  /-- A wait used up its attempts. -/
  | timeout (reason : String)
  /-- A command ended with a non-zero exit code. -/
  | command (host script : String) (exitCode : Int) (stderr : String)
  /-- The output of a command could not be read. -/
  | parse (reason : String)
  deriving DecidableEq, Repr

namespace RunError

/-- The wording of an error. -/
def message : RunError → String
  | .io reason => "I/O error: " ++ reason
  | .configuration reason => "configuration error: " ++ reason
  | .unresolvedPeer reason => "cannot resolve peer: " ++ reason
  | .resourceBusy reason => "resource busy: " ++ reason
  | .moduleLoad node reason => "module load failed on " ++ node ++ ": " ++ reason
  | .timeout reason => "timeout: " ++ reason
  | .command host script exitCode stderr =>
    "command `" ++ script ++ "` failed on " ++ host ++ " (exit " ++ Text.decimalInt exitCode ++
      "): " ++ stderr
  | .parse reason => "parse error: " ++ reason

/-- The wording of an error with its cause behind it. The cause of an I/O error is the system's own
error, whose wording is a part of the message too. -/
def withCause : RunError → String
  | .io reason => (RunError.io reason).message ++ ": " ++ reason
  | e => e.message

/-- The errors that arise before any resource is touched. -/
def isConfiguration : RunError → Bool
  | .configuration _ | .unresolvedPeer _ => true
  | _ => false

/-- Contention for a lock. -/
def isResourceBusy : RunError → Bool
  | .resourceBusy _ => true
  | _ => false

/-- A wait that used up its attempts. -/
def isTimeout : RunError → Bool
  | .timeout _ => true
  | _ => false

/-- A module that could not be loaded. -/
def isModuleLoad : RunError → Bool
  | .moduleLoad .. => true
  | _ => false

end RunError

end TtpConformance
