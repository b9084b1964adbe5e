import TtpConformance.Settings.Basic
import TtpConformance.Settings.Environment
import TtpConformance.Toml.Reader

/-!
# Loading settings

Settings come from files and from the environment, which wins. A setting that none of them gives
keeps its default, and a name that is no setting is ignored.

A value that does not fit its setting is an error that names the setting. If there are several,
the first by the order of the names is reported, those of the timing under `timing`.

## Main definitions

* `SettingsError` — why settings cannot be loaded.
* `Settings.ofTable` — the settings that a table gives.
* `Settings.load` — the settings of the texts of files and an environment.
-/

namespace TtpConformance

/-- Why settings cannot be loaded. -/
inductive SettingsError where
  /-- A file is no TOML text. -/
  | malformed
  /-- The value at this path has the wrong type. -/
  | wrongType (path : List String)
  /-- The number at this path is not in the range of the setting. -/
  | outOfRange (path : List String)
  deriving DecidableEq, Repr

/-- The wording of an error in settings. -/
def SettingsError.message : SettingsError → String
  | .malformed => "not a settings file"
  | .wrongType path => "wrong type of value for " ++ ".".intercalate path
  | .outOfRange path => "value out of range for " ++ ".".intercalate path

namespace Settings

/-- A text, or the default if there is no value. -/
def readText (path : List String) (default : String) :
    Option Setting → Except SettingsError String
  | none => .ok default
  | some (.text s) => .ok s
  | some _ => .error (.wrongType path)

/-- A number below `bound`, or the default if there is no value. -/
def readCount (path : List String) (bound : Nat) (default : Nat) :
    Option Setting → Except SettingsError Nat
  | none => .ok default
  | some (.whole n) =>
    if 0 ≤ n ∧ n.toNat < bound then .ok n.toNat else .error (.outOfRange path)
  | some _ => .error (.wrongType path)

/-- A number of 64 bits. -/
def readMillis (path : List String) (default : UInt64) (value? : Option Setting) :
    Except SettingsError UInt64 :=
  (readCount path UInt64.size default.toNat value?).map UInt64.ofNat

/-- A number of 32 bits. -/
def readAttempts (path : List String) (default : UInt32) (value? : Option Setting) :
    Except SettingsError UInt32 :=
  (readCount path UInt32.size default.toNat value?).map UInt32.ofNat

/-- The timing that a table gives, by names. -/
def timingOfTable (t : SettingTable) : Except SettingsError Timing := do
  let d : Timing := {}
  let bulkExchangeMs ←
    readMillis ["timing", "bulk_exchange_ms"] d.bulkExchangeMs (t.get? "bulk_exchange_ms")
  let exchangeMs ← readMillis ["timing", "exchange_ms"] d.exchangeMs (t.get? "exchange_ms")
  let firstExchangeMs ←
    readMillis ["timing", "first_exchange_ms"] d.firstExchangeMs (t.get? "first_exchange_ms")
  let gatewayAttempts ←
    readAttempts ["timing", "gateway_attempts"] d.gatewayAttempts (t.get? "gateway_attempts")
  let gatewayIntervalMs ←
    readMillis ["timing", "gateway_interval_ms"] d.gatewayIntervalMs (t.get? "gateway_interval_ms")
  let peerSettleMs ←
    readMillis ["timing", "peer_settle_ms"] d.peerSettleMs (t.get? "peer_settle_ms")
  return { gatewayAttempts, gatewayIntervalMs, peerSettleMs, exchangeMs, firstExchangeMs,
           bulkExchangeMs }

/-- The timing that a list gives, by places. -/
def timingOfList (items : List Setting) : Except SettingsError Timing := do
  let d : Timing := {}
  let gatewayAttempts ← readAttempts ["timing", "0"] d.gatewayAttempts items[0]?
  let gatewayIntervalMs ← readMillis ["timing", "1"] d.gatewayIntervalMs items[1]?
  let peerSettleMs ← readMillis ["timing", "2"] d.peerSettleMs items[2]?
  let exchangeMs ← readMillis ["timing", "3"] d.exchangeMs items[3]?
  let firstExchangeMs ← readMillis ["timing", "4"] d.firstExchangeMs items[4]?
  let bulkExchangeMs ← readMillis ["timing", "5"] d.bulkExchangeMs items[5]?
  return { gatewayAttempts, gatewayIntervalMs, peerSettleMs, exchangeMs, firstExchangeMs,
           bulkExchangeMs }

/-- The timing that a value gives. -/
def readTiming : Option Setting → Except SettingsError Timing
  | none => .ok {}
  | some (.table t) => timingOfTable t
  | some (.list items) => timingOfList items
  | some _ => .error (.wrongType ["timing"])

/-- The settings that a table gives. -/
def ofTable (t : SettingTable) : Except SettingsError Settings := do
  let d : Settings := {}
  let debugDevice ← readText ["debug_device"] d.debugDevice (t.get? "debug_device")
  let lockDir ← readText ["lock_dir"] d.lockDir (t.get? "lock_dir")
  let moduleName ← readText ["module_name"] d.moduleName (t.get? "module_name")
  let modulePath ← readText ["module_path"] d.modulePath (t.get? "module_path")
  let paramDir ← readText ["param_dir"] d.paramDir (t.get? "param_dir")
  let procDir ← readText ["proc_dir"] d.procDir (t.get? "proc_dir")
  let runScript ← readText ["run_script"] d.runScript (t.get? "run_script")
  let ssh ← readText ["ssh"] d.ssh (t.get? "ssh")
  let testDataDir ← readText ["test_data_dir"] d.testDataDir (t.get? "test_data_dir")
  let timing ← readTiming (t.get? "timing")
  let trafgen ← readText ["trafgen"] d.trafgen (t.get? "trafgen")
  return { modulePath, moduleName, paramDir, procDir, debugDevice, lockDir, testDataDir,
           runScript, ssh, trafgen, timing }

/-- The table of settings files, later ones laid over earlier ones, unless one is malformed. -/
def fileLayer? (files : List String) : Option SettingTable :=
  (files.mapM Toml.read?).map fun tables => tables.foldl (fun layer t => t.over layer) []

/-- The settings of settings files and of an environment. -/
def load (files : List String) (environment : List (String × String)) :
    Except SettingsError Settings :=
  match fileLayer? files with
  | none => .error .malformed
  | some layer => ofTable ((variableLayer environment).over layer)

/-- The names under which the environment may give settings. -/
def variableNames : List String :=
  ["MODULE_PATH", "MODULE_NAME", "PARAM_DIR", "PROC_DIR", "DEBUG_DEVICE", "LOCK_DIR",
   "TEST_DATA_DIR", "RUN_SCRIPT", "SSH", "TRAFGEN", "TIMING", "TIMING__GATEWAY_ATTEMPTS",
   "TIMING__GATEWAY_INTERVAL_MS", "TIMING__PEER_SETTLE_MS", "TIMING__EXCHANGE_MS",
   "TIMING__FIRST_EXCHANGE_MS", "TIMING__BULK_EXCHANGE_MS"].map ("TTP_HARNESS_" ++ ·)

end Settings

end TtpConformance
