import TtpConformance.Proofs.Double.Mantissa
import TtpConformance.Proofs.Options.Allowed
import TtpConformance.Proofs.Session.Window

/-!
# Pauses that never end

A scenario pauses for a time of the settings and the settle time of the run.  Each of them is
a duration, but their sum need not be one: seconds that are given may leave as little as
2048 seconds to the bound of durations.  With shorter pauses in the settings the sums are
durations whatever options are allowed, and with longer ones some options make them too long.

A run whose pauses are durations is never given up.  If the pause after an exchange is none,
every run that is set up is given up at the latest when the local node is to be drained at
the end, and its modules stay loaded, because all that follows is that the locks are given
back.

## Main definitions

* `RunOptions.settlingLongest` — the longest settle time that options ask for.

## Main statements

* `RunContext.pausesFit_iff` — when the pauses are durations.
* `Session.runScenarios_endless` — scenarios that come to no end.
* `pauses_fit_below` — which settings are safe, and what follows if they are not.
-/

namespace TtpConformance

namespace Duration

variable {a b d : Duration}

theorem add?_eq_some_iff : a.add? b = some d ↔ d.nanos = a.nanos + b.nanos := by
  rw [add?, ofNanos?_eq_some_iff, eq_comm]

/-- The bound in nanoseconds. -/
theorem size_mul_nanosPerSecond :
    UInt64.size * nanosPerSecond = 18446744073709551616000000000 := rfl

theorem isSome_add?_iff :
    (a.add? b).isSome ↔ a.nanos + b.nanos < UInt64.size * nanosPerSecond := by
  rw [add?, ofNanos?]
  split <;> simp [*]

end Duration

variable {settings : Settings} {o : RunOptions} {c : RunContext}

/-! ## The settle time -/

/-- Both pauses are durations if the settle time leaves enough for their milliseconds. -/
theorem RunContext.pausesFit_iff :
    c.PausesFit settings ↔
      settings.timing.exchangeMs.toNat * 1000000 + c.settle.nanos <
        UInt64.size * nanosPerSecond ∧
      settings.timing.bulkExchangeMs.toNat * 1000000 + c.settle.nanos <
        UInt64.size * nanosPerSecond :=
  and_congr Duration.isSome_add?_iff Duration.isSome_add?_iff

namespace RunOptions

/-- Without seconds that are given, a run settles for two seconds at most. -/
theorem settle_le_of_none (h : o.validate = .ok c) (hsleep : o.sleep = none) :
    c.settle.nanos ≤ 2 * nanosPerSecond := by
  rw [(follows_of_validate h).settle.2 hsleep]
  split <;> decide

/-- The duration of a number of 53 bits leaves 2048 seconds to the bound. -/
theorem settle_le_of_isSeconds {seconds : Double} {x : ℚ} {d : Duration}
    (hbinary : seconds.IsBinary64) (hx : seconds.value? = some x) (hd : d.IsSeconds x) :
    d.nanos + 2048 * nanosPerSecond ≤ UInt64.size * nanosPerSecond := by
  have hle : x ≤ 2 ^ 64 - 2 ^ 11 := by
    cases seconds with
    | nan => cases hx
    | infinite negative => cases hx
    | finite negative m e =>
        by_cases hsign : negative = true ∧ m ≠ 0
        · obtain ⟨rfl, hm⟩ := hsign
          exact absurd hd.nonneg (not_le.mpr (Double.value?_finite_neg hm hx))
        · rw [Double.value?_finite hsign] at hx
          obtain rfl := Option.some.inj hx
          refine Double.IsBinary64.le_of_lt hbinary (hd.lt.trans_eq ?_)
          norm_num [UInt64.size]
  have hnear := (abs_le.mp hd.nearest.near).2
  have hbound : (d.nanos : ℚ) < ((2 ^ 64 - 2 ^ 11) * nanosPerSecond + 1 : ℕ) := by
    have hnanos : x * nanosPerSecond ≤ (2 ^ 64 - 2 ^ 11) * nanosPerSecond := by gcongr
    push_cast
    linarith
  have hlt : d.nanos < (2 ^ 64 - 2 ^ 11) * nanosPerSecond + 1 := by exact_mod_cast hbound
  have hnanos : nanosPerSecond = 1000000000 := rfl
  have hsize := Duration.size_mul_nanosPerSecond
  omega

/-- Allowed seconds leave 2048 seconds to the bound. -/
theorem settle_le (h : o.validate = .ok c) (hsleep : ∀ seconds ∈ o.sleep, seconds.IsBinary64) :
    c.settle.nanos + 2048 * nanosPerSecond ≤ UInt64.size * nanosPerSecond := by
  cases hgiven : o.sleep with
  | none =>
      have hle := settle_le_of_none h hgiven
      have hsize := Duration.size_mul_nanosPerSecond
      have hnanos : nanosPerSecond = 1000000000 := rfl
      omega
  | some seconds =>
      obtain ⟨x, hx, hseconds⟩ := (follows_of_validate h).settle.1 seconds hgiven
      exact settle_le_of_isSeconds (hsleep seconds hgiven) hx hseconds

/-- Options with the greatest number of seconds that is a double under the bound. -/
def settlingLongest : RunOptions where
  target := some "4"
  noRemote := true
  sleep := some (.finite false 9007199254740991 11)

theorem exists_validate_settlingLongest :
    ∃ c, settlingLongest.validate = .ok c ∧
      c.settle.nanos = 18446744073709549568 * nanosPerSecond :=
  ⟨_, rfl, rfl⟩

/-- Without seconds that are given, the pauses are durations for all settings. -/
theorem pausesFit_of_none (settings : Settings) (h : o.validate = .ok c) (hsleep : o.sleep = none) :
    c.PausesFit settings := by
  have hle := settle_le_of_none h hsleep
  have hexchange := settings.timing.exchangeMs.toNat_lt
  have hbulk := settings.timing.bulkExchangeMs.toNat_lt
  have hnanos : nanosPerSecond = 1000000000 := rfl
  have hsize := Duration.size_mul_nanosPerSecond
  rw [RunContext.pausesFit_iff]
  omega

/-- The pauses are durations for all allowed options exactly if they are under 2048 seconds. -/
theorem forall_pausesFit_iff (settings : Settings) :
    (∀ (o : RunOptions) c, o.validate = .ok c → (∀ seconds ∈ o.sleep, seconds.IsBinary64) →
        c.PausesFit settings) ↔
      settings.timing.exchangeMs < 2048000 ∧ settings.timing.bulkExchangeMs < 2048000 := by
  have hnanos : nanosPerSecond = 1000000000 := rfl
  have hsize := Duration.size_mul_nanosPerSecond
  have hbound : ∀ ms : UInt64, ms < 2048000 ↔ ms.toNat < 2048000 := fun ms =>
    UInt64.lt_iff_toNat_lt
  rw [hbound, hbound]
  constructor
  · intro h
    obtain ⟨c, hc, hsettle⟩ := exists_validate_settlingLongest
    have hfit := h _ c hc fun seconds hseconds => by
      obtain rfl := Option.some.inj hseconds
      show 9007199254740991 < 2 * Double.leastNormal
      decide
    rw [RunContext.pausesFit_iff, hsettle] at hfit
    omega
  · intro h o c hc hsleep
    have hle := settle_le hc hsleep
    rw [RunContext.pausesFit_iff]
    omega

end RunOptions

/-! ## Giving a run up -/

section GivingUp

variable {s : Stage} {scenario : Scenario} {scenarios : List Scenario} {events : List Event}

/-- Scenarios come to no report if one of them comes to no outcome. -/
theorem Stage.eq_none_of_yields_playEach (hmem : scenario ∈ scenarios)
    (hplay : ∀ events outcome?, (s.play scenario).Yields events outcome? → outcome? = none)
    {reports? : Option (List ScenarioReport)}
    (h : (s.playEach scenarios).Yields events reports?) : reports? = none := by
  induction scenarios generalizing events reports? with
  | nil => cases hmem
  | cons head rest ih =>
      rw [playEach] at h
      obtain ⟨first, outcome?, second, rfl, hfirst, h⟩ := Program.yields_bind_iff.mp h
      cases outcome? with
      | none => exact h.2
      | some outcome =>
          obtain ⟨middle, rest?, last, rfl, hrest, h⟩ := Program.yields_bind_iff.mp h
          have hmem' : scenario ∈ rest := by
            rcases List.mem_cons.mp hmem with rfl | hmem
            · cases hplay first _ hfirst
            · exact hmem
          obtain rfl := ih hmem' hrest
          exact h.2

/-- The scenario that drains the local node, which every run plays. -/
def Scenario.localPending : Scenario := ⟨"cleanup", "local_pending", [], (·.drained .self)⟩

theorem Scenario.localPending_mem_schedule : localPending ∈ schedule :=
  List.mem_append_right _ (List.mem_cons_of_mem _ List.mem_cons_self)

/-- Draining starts with a pause, so it comes to no outcome if that is none. -/
theorem Stage.eq_none_of_yields_play_localPending
    (hpause : s.settings.timing.exchange.add? s.session.context.settle = none)
    {outcome? : Option ScenarioOutcome}
    (h : (s.play .localPending).Yields events outcome?) : outcome? = none := by
  have hskip : Scenario.localPending.skipReason? s.session = none := rfl
  have hpaused : s.pause s.settings.timing.exchange = throw .endlessPause := by
    rw [pause, hpause]
  have hbody : (Scenario.localPending.body s).run = pure (.error .endlessPause) := by
    show (s.drained .self).run = _
    rw [drained, hpaused]
    rfl
  rw [play, hskip, hbody] at h
  exact h.2

/-- Scenarios come to no report if the pause after an exchange is no duration.  What they do
until then is work. -/
theorem Session.runScenarios_endless {session : Session} {report? : Option RunReport}
    (hpause : settings.timing.exchange.add? session.context.settle = none)
    (h : (session.runScenarios settings).Yields events report?) :
    report? = none ∧ ∀ event ∈ events, event.1.IsWork := by
  let s : Stage := ⟨settings, session⟩
  have hwork := (s.ensures_playAll.of_yields h).1
  have hplay : ∀ events outcome?, (s.play .localPending).Yields events outcome? →
      outcome? = none :=
    fun _ _ => s.eq_none_of_yields_play_localPending hpause
  refine ⟨?_, fun event hevent => ?_⟩
  · obtain ⟨reports?, hreports, rfl⟩ := Program.yields_map_iff.mp h
    obtain rfl := s.eq_none_of_yields_playEach Scenario.localPending_mem_schedule hplay hreports
    rfl
  · obtain ⟨_, _, _, hr⟩ := hwork event hevent
    exact hr.isWork

/-- A session is given up if the pause after an exchange is no duration: no module is unloaded,
and the locks are given back. -/
theorem Session.conclude_endless {session : Session} {rest : List Event}
    {result : Except RunError (Option RunReport)}
    (hpause : settings.timing.exchange.add? session.context.settle = none)
    (h : (session.conclude settings).run.Yields rest result) :
    result = .ok none ∧ Trace.unloaded rest = [] ∧
      ∃ work releases, rest = work ++ releases ∧ (∀ event ∈ work, event.1.IsWork) ∧
        releases.map Sigma.fst = session.locks.locks.reverse.map .release := by
  obtain ⟨work, report?, releases, rfl, rfl, hwork, hdrop⟩ := finish_of_yields_conclude h
  obtain ⟨rfl, hisWork⟩ := runScenarios_endless hpause hwork
  have hreleases := (session.locks.recites_release _ _).mp hdrop
  refine ⟨rfl, ?_, work, releases, rfl, hisWork, hreleases⟩
  rw [Trace.unloaded_append, Trace.unloaded_eq_nil hisWork,
    (Trace.loaded_unloaded_of_releases hreleases).2]
  rfl

end GivingUp

/-- A run whose pauses are durations is not given up. -/
theorem runSession_ne_none (hpauses : c.PausesFit settings) (x : Surroundings)
    (d : LockDirectory) : (x.run (runSession settings c).run d).result ≠ .ok none := by
  have hyields := x.run_yields (Session.setup settings c).run d
  intro hnone
  rcases x.run_bind_cases (Session.setup settings c) (Session.conclude settings) d with
    ⟨e, hsetup, hresult, -⟩ | ⟨session, rest, hsetup, -, hrest⟩
  · cases hresult.symm.trans hnone
  · rw [hsetup] at hyields
    have hcontext := Session.context_of_succeeds_setup hyields
    obtain ⟨⟨report, hresult⟩, -⟩ :=
      Session.parts_of_yields_conclude (hcontext ▸ hpauses) hrest
    cases hresult.symm.trans hnone

/-- A run that is set up is given up if the pause after an exchange is no duration. -/
theorem runSession_endless (hpause : settings.timing.exchange.add? c.settle = none)
    (x : Surroundings) (d : LockDirectory) {session : Session}
    (hsetup : (x.run (Session.setup settings c).run d).result = .ok session) :
    (x.run (runSession settings c).run d).result = .ok none ∧
      ∃ work releases, (x.run (runSession settings c).run d).trace =
          (x.run (Session.setup settings c).run d).trace ++ (work ++ releases) ∧
        Trace.unloaded (work ++ releases) = [] ∧ (∀ event ∈ work, event.1.IsWork) ∧
        releases.map Sigma.fst = session.locks.locks.reverse.map .release := by
  have hyields := x.run_yields (Session.setup settings c).run d
  rcases x.run_bind_cases (Session.setup settings c) (Session.conclude settings) d with
    ⟨e, herror, -, -⟩ | ⟨session', rest, hok, htrace, hrest⟩
  · cases herror.symm.trans hsetup
  · cases hok.symm.trans hsetup
    rw [hsetup] at hyields
    have hcontext := Session.context_of_succeeds_setup hyields
    obtain ⟨hresult, hunloaded, work, releases, rfl, hwork, hreleases⟩ :=
      Session.conclude_endless (by rw [hcontext]; exact hpause) hrest
    exact ⟨hresult, work, releases, htrace, hunloaded, hwork, hreleases⟩

/--
The pauses of scenarios are durations for all options that are allowed exactly if those of the
settings are under 2048 seconds, where seconds are given as doubles, as all that are read are.
Without seconds that are given they always are.  They are sums of nanoseconds that are less
than the bound of durations.  A run whose pauses are durations is never given up.  If the
pause after an exchange is none, every run that is set up is given up: it has no report, none
of its modules is unloaded, and it ends with giving its locks back.
-/
theorem pauses_fit_below (settings : Settings) :
    ((∀ (o : RunOptions) c, o.validate = .ok c → (∀ seconds ∈ o.sleep, seconds.IsBinary64) →
        c.PausesFit settings) ↔
      settings.timing.exchangeMs < 2048000 ∧ settings.timing.bulkExchangeMs < 2048000) ∧
    (∀ cs seconds, Double.read? cs = some seconds → seconds.IsBinary64) ∧
    (∀ (o : RunOptions) c, o.validate = .ok c → o.sleep = none → c.PausesFit settings) ∧
    (∀ c : RunContext, c.PausesFit settings ↔
      ∀ base ∈ [settings.timing.exchange, settings.timing.bulkExchange],
        base.nanos + c.settle.nanos < UInt64.size * nanosPerSecond ∧
        ∃ length, base.add? c.settle = some length ∧
          length.nanos = base.nanos + c.settle.nanos) ∧
    ∀ (c : RunContext) (x : Surroundings) (d : LockDirectory),
      let setup := x.run (Session.setup settings c).run d
      let outcome := x.run (runSession settings c).run d
      (c.PausesFit settings → outcome.result ≠ .ok none) ∧
      (settings.timing.exchange.add? c.settle = none → ∀ session, setup.result = .ok session →
        outcome.result = .ok none ∧
        ∃ work releases, outcome.trace = setup.trace ++ (work ++ releases) ∧
          Trace.unloaded (work ++ releases) = [] ∧ (∀ event ∈ work, event.1.IsWork) ∧
          releases.map Sigma.fst = session.locks.locks.reverse.map .release) := by
  refine ⟨RunOptions.forall_pausesFit_iff settings, fun cs seconds => Double.isBinary64_of_read?,
    fun o c => RunOptions.pausesFit_of_none settings, fun c => ?_, fun c x d => ⟨?_, ?_⟩⟩
  · have hsum : ∀ base : Duration, (base.add? c.settle).isSome ↔
        base.nanos + c.settle.nanos < UInt64.size * nanosPerSecond ∧
        ∃ length, base.add? c.settle = some length ∧
          length.nanos = base.nanos + c.settle.nanos := fun base => by
      rw [← Duration.isSome_add?_iff, Option.isSome_iff_exists]
      refine ⟨fun ⟨length, h⟩ => ⟨⟨length, h⟩, length, h, Duration.add?_eq_some_iff.mp h⟩,
        fun h => h.1⟩
    rw [List.forall_mem_cons, List.forall_mem_singleton, ← hsum, ← hsum]
    rfl
  · exact fun hpauses => runSession_ne_none hpauses x d
  · exact fun hpause session => runSession_endless hpause x d

/-- The default settings are safe for the longest settle time, and 2048 seconds are too long. -/
theorem pauses_fit_below_default :
    (∃ c, RunOptions.toTheLimit.validate = .ok c ∧ c.PausesFit {}) ∧
    ¬ ∀ (o : RunOptions) c, o.validate = .ok c → (∀ seconds ∈ o.sleep, seconds.IsBinary64) →
      c.PausesFit { timing := { bulkExchangeMs := 2048000 } } := by
  obtain ⟨hdefault, -⟩ := pauses_fit_below {}
  obtain ⟨hbulk, -⟩ := pauses_fit_below { timing := { bulkExchangeMs := 2048000 } }
  obtain ⟨c, hc⟩ : ∃ c, RunOptions.toTheLimit.validate = .ok c := ⟨_, rfl⟩
  refine ⟨⟨c, hc, hdefault.mpr (by decide) _ _ hc fun seconds hseconds => ?_⟩, ?_⟩
  · obtain rfl := Option.some.inj hseconds
    show 9007199254740991 < 2 * Double.leastNormal
    decide
  · rw [hbulk]
    decide

/-- Options that are allowed and a pause of 2048 seconds: the sum is no duration, and the run is
given up with its module loaded. -/
theorem pause_too_long :
    RunOptions.settlingLongest.sleep = Double.read? "18446744073709549568".toList ∧
    ∃ c, RunOptions.settlingLongest.validate = .ok c ∧
      (Duration.ofMillis 2048000).add? c.settle = none ∧
      let outcome := (Surroundings.showing { stdout := "5" }).run
        (runSession { timing := { exchangeMs := 2048000 } } c).run { path := "/locks" }
      outcome.result = .ok none ∧ Trace.loaded outcome.trace = [.self] ∧
        Trace.unloaded outcome.trace = [] := by
  refine ⟨?_, _, rfl, ?_, ?_⟩
  · decide +kernel
  · decide +kernel
  · decide +kernel

end TtpConformance
