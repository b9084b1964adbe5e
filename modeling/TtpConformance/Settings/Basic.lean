import TtpConformance.Duration

/-!
# Settings of the lab

Where the kernel module and the test files live, where locks are made, which programs are used,
and how long to wait. Settings describe the lab, not one run; every one of them has a default.

## Main definitions

* `Settings`, `Timing` — the settings with their defaults.
* `Settings.param`, `Settings.tagsPath`, `Settings.testFile` — paths under the directories.
* `RetryPolicy` — a number of attempts and the pause after each.
-/

namespace TtpConformance

/-- How often something is tried, and how long to wait after each attempt that gave nothing. -/
structure RetryPolicy where
  maxAttempts : UInt32
  interval : Duration
  deriving DecidableEq

/-- Waits and retry budgets, in milliseconds. -/
structure Timing where
  /-- Attempts to read the next hop. -/
  gatewayAttempts : UInt32 := 10
  /-- Pause after each of them. -/
  gatewayIntervalMs : UInt64 := 1000
  /-- Pause after loading the module on the peer. -/
  peerSettleMs : UInt64 := 500
  /-- Pause after an exchange. -/
  exchangeMs : UInt64 := 100
  /-- Pause after the first exchange, which also opens the connection. -/
  firstExchangeMs : UInt64 := 1000
  /-- Pause after sending the largest payload. -/
  bulkExchangeMs : UInt64 := 1100
  deriving DecidableEq, Repr

namespace Timing

/-- How the next hop is polled. -/
def gatewayPolicy (t : Timing) : RetryPolicy := ⟨t.gatewayAttempts, .ofMillis t.gatewayIntervalMs⟩

/-- Pause after loading the module on the peer. -/
def peerSettle (t : Timing) : Duration := .ofMillis t.peerSettleMs

/-- Pause after an exchange. -/
def exchange (t : Timing) : Duration := .ofMillis t.exchangeMs

/-- Pause after the exchange that opens the connection. -/
def firstExchange (t : Timing) : Duration := .ofMillis t.firstExchangeMs

/-- Pause after sending the largest payload. -/
def bulkExchange (t : Timing) : Duration := .ofMillis t.bulkExchangeMs

end Timing

/-- The settings of the lab. -/
structure Settings where
  /-- The kernel module file that is loaded. -/
  modulePath : String := "/mnt/mac/modttpoe.ko"
  /-- The name under which the module is unloaded. -/
  moduleName : String := "modttpoe"
  /-- The directory of the module's parameters. -/
  paramDir : String := "/sys/module/modttpoe/parameters"
  /-- The directory of the protocol's status files. -/
  procDir : String := "/proc/net/modttpoe"
  /-- The character device that takes and captures payloads. -/
  debugDevice : String := "/dev/noc_debug"
  /-- The directory of lock files, shared by all nodes. -/
  lockDir : String := "/mnt/mac/.locks"
  /-- The directory of payload files and frame templates, on every node. -/
  testDataDir : String := "/mnt/mac/tests"
  /-- The script that runs the harness on a node. -/
  runScript : String := "/mnt/mac/tests/run.sh"
  /-- The program that reaches other nodes. -/
  ssh : String := "ssh"
  /-- The frame generator. -/
  trafgen : String := "trafgen"
  /-- Waits and retry budgets. -/
  timing : Timing := {}
  deriving DecidableEq, Repr

namespace Settings

/-- The path of a module parameter. -/
def param (s : Settings) (name : String) : String := s.paramDir ++ "/" ++ name

/-- The path of the tag table. -/
def tagsPath (s : Settings) : String := s.procDir ++ "/tags"

/-- The path of a payload or template file. -/
def testFile (s : Settings) (name : String) : String := s.testDataDir ++ "/" ++ name

end Settings

end TtpConformance
