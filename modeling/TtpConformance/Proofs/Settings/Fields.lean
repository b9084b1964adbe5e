import TtpConformance.Proofs.Settings.Paths
import TtpConformance.Settings.Layers

/-!
# Settings, field by field

There are sixteen settings that are single values, ten at the top and six of the timing.
Each has a path of names in tables and takes values of one type, texts or numbers under a
bound.  A table whose values fit is read field by field: what it has at a field's path is
the field's value, and a field that it has nothing for keeps its default.

## Main definitions

* `Field` — the settings that are single values.
* `Field.path`, `Field.value`, `Field.Fits` — where a field stands, what settings have for it
  and what it takes.

## Main statements

* `Field.value_injective` — the fields are all there is to settings.
* `exists_ofTable_eq_ok` — a table, read field by field.
-/

namespace TtpConformance.Settings

/-! ## Fields -/

/-- A path as one list of names. -/
def steps (path : String × List String) : List String := path.1 :: path.2

/-- The settings that are single values. -/
inductive Field where
  | modulePath | moduleName | paramDir | procDir | debugDevice | lockDir | testDataDir
  | runScript | ssh | trafgen
  | gatewayAttempts | gatewayIntervalMs | peerSettleMs | exchangeMs | firstExchangeMs
  | bulkExchangeMs
  deriving DecidableEq

namespace Field

/-- The names that lead to a field, the first one apart. -/
def path : Field → String × List String
  | .modulePath => ("module_path", [])
  | .moduleName => ("module_name", [])
  | .paramDir => ("param_dir", [])
  | .procDir => ("proc_dir", [])
  | .debugDevice => ("debug_device", [])
  | .lockDir => ("lock_dir", [])
  | .testDataDir => ("test_data_dir", [])
  | .runScript => ("run_script", [])
  | .ssh => ("ssh", [])
  | .trafgen => ("trafgen", [])
  | .gatewayAttempts => ("timing", ["gateway_attempts"])
  | .gatewayIntervalMs => ("timing", ["gateway_interval_ms"])
  | .peerSettleMs => ("timing", ["peer_settle_ms"])
  | .exchangeMs => ("timing", ["exchange_ms"])
  | .firstExchangeMs => ("timing", ["first_exchange_ms"])
  | .bulkExchangeMs => ("timing", ["bulk_exchange_ms"])

/-- What settings have for a field. -/
def value (s : Settings) : Field → Setting
  | .modulePath => .text s.modulePath
  | .moduleName => .text s.moduleName
  | .paramDir => .text s.paramDir
  | .procDir => .text s.procDir
  | .debugDevice => .text s.debugDevice
  | .lockDir => .text s.lockDir
  | .testDataDir => .text s.testDataDir
  | .runScript => .text s.runScript
  | .ssh => .text s.ssh
  | .trafgen => .text s.trafgen
  | .gatewayAttempts => .whole s.timing.gatewayAttempts.toNat
  | .gatewayIntervalMs => .whole s.timing.gatewayIntervalMs.toNat
  | .peerSettleMs => .whole s.timing.peerSettleMs.toNat
  | .exchangeMs => .whole s.timing.exchangeMs.toNat
  | .firstExchangeMs => .whole s.timing.firstExchangeMs.toNat
  | .bulkExchangeMs => .whole s.timing.bulkExchangeMs.toNat

/-- All fields. -/
def all : List Field :=
  [.modulePath, .moduleName, .paramDir, .procDir, .debugDevice, .lockDir, .testDataDir, .runScript,
   .ssh, .trafgen, .gatewayAttempts, .gatewayIntervalMs, .peerSettleMs, .exchangeMs,
   .firstExchangeMs, .bulkExchangeMs]

theorem path_injective : Function.Injective path := by
  have hfind : ∀ f : Field, all.find? (·.path = f.path) = some f := by
    intro f
    cases f <;> rfl
  intro f g h
  have hf := hfind f
  rw [h, hfind g] at hf
  exact (Option.some.inj hf).symm

/-- The bound of a field that is a number; the others are texts. -/
def bound? : Field → Option Nat
  | .gatewayAttempts => some UInt32.size
  | .gatewayIntervalMs | .peerSettleMs | .exchangeMs | .firstExchangeMs | .bulkExchangeMs =>
    some UInt64.size
  | _ => none

/-- The values that a field takes: texts, or the numbers under its bound. -/
def Fits (f : Field) (v : Setting) : Prop :=
  match f.bound? with
  | none => ∃ s, v = .text s
  | some bound => ∃ n : Nat, n < bound ∧ v = .whole n

/-- The value that a table gives a field. -/
def at? (f : Field) (t : SettingTable) : Option Setting := t.at? f.path.1 f.path.2

theorem Fits.over {f : Field} {v : Setting} (h : f.Fits v) (old? : Option Setting) :
    v.over old? = v := by
  unfold Fits at h
  split at h
  · obtain ⟨s, rfl⟩ := h
    rfl
  · obtain ⟨n, -, rfl⟩ := h
    rfl

/-- What leads to a field is its path, or that of the timing. -/
theorem path_eq_of_leads {f : Field} {path : String × List String}
    (h : steps path <+: steps f.path) : path = f.path ∨ path = ("timing", []) := by
  obtain ⟨first, below⟩ := path
  cases f <;> simp_all [steps, Field.path, List.prefix_cons_iff]
  all_goals exact h.2.symm

theorem path_ne_timing (f : Field) : f.path ≠ ("timing", []) := by cases f <;> decide

/-- Different fields stand at paths apart. -/
theorem apart_of_ne {f g : Field} (h : g ≠ f) : Apart (steps g.path) (steps f.path) := by
  have hleads {f g : Field} (h : g ≠ f) : ¬steps g.path <+: steps f.path := fun hp =>
    (path_eq_of_leads hp).elim (fun heq => h (path_injective heq)) (path_ne_timing g)
  exact ⟨hleads h, hleads (Ne.symm h)⟩

/-- Settings are what they have for the fields. -/
theorem value_injective {s s' : Settings} (h : ∀ f, value s f = value s' f) : s = s' := by
  have hcount {a b : Nat} (h : Setting.whole a = .whole b) : a = b :=
    Int.ofNat.inj (Setting.whole.inj h)
  have hmillis {a b : UInt64} (h : Setting.whole a.toNat = .whole b.toNat) : a = b :=
    UInt64.toNat_inj.mp (hcount h)
  have hattempts {a b : UInt32} (h : Setting.whole a.toNat = .whole b.toNat) : a = b :=
    UInt32.toNat_inj.mp (hcount h)
  have htiming : s.timing = s'.timing := by
    obtain ⟨_, _, _, _, _, _, _, _, _, _, ⟨_, _, _, _, _, _⟩⟩ := s
    obtain ⟨_, _, _, _, _, _, _, _, _, _, ⟨_, _, _, _, _, _⟩⟩ := s'
    exact Timing.mk.injEq .. ▸ ⟨hattempts (h .gatewayAttempts), hmillis (h .gatewayIntervalMs),
      hmillis (h .peerSettleMs), hmillis (h .exchangeMs), hmillis (h .firstExchangeMs),
      hmillis (h .bulkExchangeMs)⟩
  obtain ⟨_, _, _, _, _, _, _, _, _, _, _⟩ := s
  obtain ⟨_, _, _, _, _, _, _, _, _, _, _⟩ := s'
  exact Settings.mk.injEq .. ▸ ⟨Setting.text.inj (h .modulePath),
    Setting.text.inj (h .moduleName), Setting.text.inj (h .paramDir),
    Setting.text.inj (h .procDir), Setting.text.inj (h .debugDevice),
    Setting.text.inj (h .lockDir), Setting.text.inj (h .testDataDir),
    Setting.text.inj (h .runScript), Setting.text.inj (h .ssh), Setting.text.inj (h .trafgen),
    htiming⟩

end Field

/-! ## Tables -/

section Table

theorem exists_readText_eq_ok (path : List String) (default : String) (v? : Option Setting)
    (h : ∀ v, v? = some v → ∃ s, v = .text s) :
    ∃ s, readText path default v? = .ok s ∧ Setting.text s = v?.getD (.text default) := by
  cases v? with
  | none => exact ⟨default, rfl, rfl⟩
  | some v =>
      obtain ⟨s, rfl⟩ := h v rfl
      exact ⟨s, rfl, rfl⟩

theorem exists_readCount_eq_ok (path : List String) {bound default : Nat}
    (hdefault : default < bound) (v? : Option Setting)
    (h : ∀ v, v? = some v → ∃ n : Nat, n < bound ∧ v = .whole n) :
    ∃ n, n < bound ∧ readCount path bound default v? = .ok n ∧
      Setting.whole n = v?.getD (.whole default) := by
  cases v? with
  | none => exact ⟨default, hdefault, rfl, rfl⟩
  | some v =>
      obtain ⟨n, hn, rfl⟩ := h v rfl
      refine ⟨n, hn, ?_, rfl⟩
      have hrange : 0 ≤ (n : Int) ∧ (n : Int).toNat < bound := ⟨by omega, by simpa using hn⟩
      rw [readCount, if_pos hrange, Int.toNat_natCast]

/-- A number that is kept in a word of so many bits is the number that is read. -/
theorem exists_readCount_map_eq_ok {α : Type} {ofNat : Nat → α} {toNat : α → Nat} {bound : Nat}
    (hword : ∀ n < bound, toNat (ofNat n) = n) (path : List String) {default : Nat}
    (hdefault : default < bound) (v? : Option Setting)
    (h : ∀ v, v? = some v → ∃ n : Nat, n < bound ∧ v = .whole n) :
    ∃ a, (readCount path bound default v?).map ofNat = .ok a ∧
      Setting.whole (toNat a) = v?.getD (.whole default) := by
  obtain ⟨n, hn, hread, hvalue⟩ := exists_readCount_eq_ok path hdefault v? h
  exact ⟨ofNat n, by rw [hread]; rfl, by rw [hword n hn, hvalue]⟩

theorem exists_readMillis_eq_ok (path : List String) (default : UInt64) (v? : Option Setting)
    (h : ∀ v, v? = some v → ∃ n : Nat, n < UInt64.size ∧ v = .whole n) :
    ∃ n : UInt64, readMillis path default v? = .ok n ∧
      Setting.whole n.toNat = v?.getD (.whole default.toNat) :=
  exists_readCount_map_eq_ok (fun _ hn => UInt64.toNat_ofNat_of_lt' hn) path
    default.toNat_lt_size v? h

theorem exists_readAttempts_eq_ok (path : List String) (default : UInt32) (v? : Option Setting)
    (h : ∀ v, v? = some v → ∃ n : Nat, n < UInt32.size ∧ v = .whole n) :
    ∃ n : UInt32, readAttempts path default v? = .ok n ∧
      Setting.whole n.toNat = v?.getD (.whole default.toNat) :=
  exists_readCount_map_eq_ok (fun _ hn => UInt32.toNat_ofNat_of_lt' hn) path
    default.toNat_lt_size v? h

theorem exists_timingOfTable_eq_ok {t : SettingTable}
    (hfits : ∀ (f : Field) v, f.at? t = some v → f.Fits v) :
    ∃ timing, timingOfTable (t.child "timing") = .ok timing ∧
      ∀ (f : Field) (s : Settings), f.bound? ≠ none → s.timing = timing →
        f.value s = (f.at? t).getD (f.value {}) := by
  have hnumber (f : Field) {bound : Nat} (hbound : f.bound? = some bound) (v : Setting)
      (hv : f.at? t = some v) : ∃ n : Nat, n < bound ∧ v = .whole n := by
    have hfit := hfits f v hv
    rwa [Field.Fits, hbound] at hfit
  -- the timing's names are looked up in the table under `timing`
  have hat (name : String) : (t.child "timing").get? name = t.at? "timing" [name] :=
    (SettingTable.at?_cons t "timing" name []).symm
  let d : Timing := {}
  obtain ⟨bulk, hbulk, hbulkValue⟩ := exists_readMillis_eq_ok ["timing", "bulk_exchange_ms"]
    d.bulkExchangeMs (t.at? "timing" ["bulk_exchange_ms"]) (hnumber .bulkExchangeMs rfl)
  obtain ⟨exchange, hexchange, hexchangeValue⟩ := exists_readMillis_eq_ok
    ["timing", "exchange_ms"] d.exchangeMs (t.at? "timing" ["exchange_ms"])
    (hnumber .exchangeMs rfl)
  obtain ⟨first, hfirst, hfirstValue⟩ := exists_readMillis_eq_ok ["timing", "first_exchange_ms"]
    d.firstExchangeMs (t.at? "timing" ["first_exchange_ms"]) (hnumber .firstExchangeMs rfl)
  obtain ⟨attempts, hattempts, hattemptsValue⟩ := exists_readAttempts_eq_ok
    ["timing", "gateway_attempts"] d.gatewayAttempts (t.at? "timing" ["gateway_attempts"])
    (hnumber .gatewayAttempts rfl)
  obtain ⟨interval, hinterval, hintervalValue⟩ := exists_readMillis_eq_ok
    ["timing", "gateway_interval_ms"] d.gatewayIntervalMs
    (t.at? "timing" ["gateway_interval_ms"]) (hnumber .gatewayIntervalMs rfl)
  obtain ⟨settle, hsettle, hsettleValue⟩ := exists_readMillis_eq_ok ["timing", "peer_settle_ms"]
    d.peerSettleMs (t.at? "timing" ["peer_settle_ms"]) (hnumber .peerSettleMs rfl)
  refine ⟨⟨attempts, interval, settle, exchange, first, bulk⟩, ?_, fun f s hf hs => ?_⟩
  · simp only [timingOfTable, hat, hbulk, hexchange, hfirst, hattempts, hinterval, hsettle, d]
    rfl
  · obtain ⟨_, _, _, _, _, _, _, _, _, _, timing⟩ := s
    obtain rfl : timing = _ := hs
    cases f with
    | gatewayAttempts => exact hattemptsValue
    | gatewayIntervalMs => exact hintervalValue
    | peerSettleMs => exact hsettleValue
    | exchangeMs => exact hexchangeValue
    | firstExchangeMs => exact hfirstValue
    | bulkExchangeMs => exact hbulkValue
    | _ => exact absurd rfl hf

/-- A table whose values fit the fields gives each of them, or leaves its default. -/
theorem exists_ofTable_eq_ok {t : SettingTable}
    (htiming : ∀ v, t.get? "timing" = some v → ∃ inner, v = .table inner)
    (hfits : ∀ (f : Field) v, f.at? t = some v → f.Fits v) :
    ∃ s, ofTable t = .ok s ∧ ∀ f : Field, f.value s = (f.at? t).getD (f.value {}) := by
  have hread : readTiming (t.get? "timing") = timingOfTable (t.child "timing") := by
    cases hvalue : t.get? "timing" with
    | none => rw [SettingTable.child, hvalue]; rfl
    | some v =>
        obtain ⟨inner, rfl⟩ := htiming v hvalue
        rw [SettingTable.child_of_get? hvalue]
        rfl
  have htext (f : Field) (hbound : f.bound? = none) (v : Setting) (hv : f.at? t = some v) :
      ∃ s, v = .text s := by
    have hfit := hfits f v hv
    rwa [Field.Fits, hbound] at hfit
  obtain ⟨timing, htable, hvalues⟩ := exists_timingOfTable_eq_ok hfits
  let d : Settings := {}
  obtain ⟨debugDevice, hdebugDevice, hdebugDeviceValue⟩ := exists_readText_eq_ok ["debug_device"]
    d.debugDevice (t.get? "debug_device") (htext .debugDevice rfl)
  obtain ⟨lockDir, hlockDir, hlockDirValue⟩ := exists_readText_eq_ok ["lock_dir"]
    d.lockDir (t.get? "lock_dir") (htext .lockDir rfl)
  obtain ⟨moduleName, hmoduleName, hmoduleNameValue⟩ := exists_readText_eq_ok ["module_name"]
    d.moduleName (t.get? "module_name") (htext .moduleName rfl)
  obtain ⟨modulePath, hmodulePath, hmodulePathValue⟩ := exists_readText_eq_ok ["module_path"]
    d.modulePath (t.get? "module_path") (htext .modulePath rfl)
  obtain ⟨paramDir, hparamDir, hparamDirValue⟩ := exists_readText_eq_ok ["param_dir"]
    d.paramDir (t.get? "param_dir") (htext .paramDir rfl)
  obtain ⟨procDir, hprocDir, hprocDirValue⟩ := exists_readText_eq_ok ["proc_dir"]
    d.procDir (t.get? "proc_dir") (htext .procDir rfl)
  obtain ⟨runScript, hrunScript, hrunScriptValue⟩ := exists_readText_eq_ok ["run_script"]
    d.runScript (t.get? "run_script") (htext .runScript rfl)
  obtain ⟨ssh, hssh, hsshValue⟩ := exists_readText_eq_ok ["ssh"]
    d.ssh (t.get? "ssh") (htext .ssh rfl)
  obtain ⟨testDataDir, htestDataDir, htestDataDirValue⟩ := exists_readText_eq_ok ["test_data_dir"]
    d.testDataDir (t.get? "test_data_dir") (htext .testDataDir rfl)
  obtain ⟨trafgen, htrafgen, htrafgenValue⟩ := exists_readText_eq_ok ["trafgen"]
    d.trafgen (t.get? "trafgen") (htext .trafgen rfl)
  refine ⟨⟨modulePath, moduleName, paramDir, procDir, debugDevice, lockDir, testDataDir, runScript,
    ssh, trafgen, timing⟩, ?_, fun f => ?_⟩
  · simp only [ofTable, hread, htable, hdebugDevice, hlockDir, hmoduleName, hmodulePath,
      hparamDir, hprocDir, hrunScript, hssh, htestDataDir, htrafgen, d]
    rfl
  · cases f with
    | modulePath => exact hmodulePathValue
    | moduleName => exact hmoduleNameValue
    | paramDir => exact hparamDirValue
    | procDir => exact hprocDirValue
    | debugDevice => exact hdebugDeviceValue
    | lockDir => exact hlockDirValue
    | testDataDir => exact htestDataDirValue
    | runScript => exact hrunScriptValue
    | ssh => exact hsshValue
    | trafgen => exact htrafgenValue
    | _ => exact hvalues _ _ (Option.some_ne_none _) rfl

end Table

end TtpConformance.Settings
