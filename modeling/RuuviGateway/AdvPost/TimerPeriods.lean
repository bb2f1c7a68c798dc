import RuuviGateway.Config.NumericGetters
import RuuviGateway.Config.Reachable
import RuuviGateway.Http.Headers

/-!
# The periods of the timers

Seconds and minutes of the configuration become milliseconds and ticks in 32 bits, along a path of
its own for each timer. A path gives the right number of ticks as long as none of its products
wraps. -/

namespace RuuviGateway.AdvPost

open Config General Http

variable {P : Platform}

section Ticks

def configTickRateHz : UInt32 := 1000

/-- The macro of FreeRTOS, in the type of a tick. -/
def pdMsToTicks (xTimeInMs : UInt32) : UInt32 := xTimeInMs * configTickRateHz / 1000

def secondsPerMinute : UInt32 := 60

theorem toNat_pdMsToTicks (x : UInt32) :
    (pdMsToTicks x).toNat = x.toNat * 1000 % 2 ^ 32 / 1000 := by
  have hrate : (configTickRateHz).toNat = 1000 := rfl
  have hms : (1000 : UInt32).toNat = 1000 := rfl
  rw [pdMsToTicks, UInt32.toNat_div, UInt32.toNat_mul, hrate, hms]

end Ticks

section Timers

structure PeriodicTimer where
  active : Bool
  periodTicks : UInt32
  deriving DecidableEq

def PeriodicTimer.stop (timer : PeriodicTimer) : PeriodicTimer := { timer with active := false }

/-- `os_timer_sig_periodic_restart_with_period`. -/
def PeriodicTimer.restartWithPeriod (timer : PeriodicTimer) (ticks : UInt32) : PeriodicTimer :=
  { timer with active := true, periodTicks := ticks }

/-- The timers with a configured period, and what the servers have set. -/
structure Timers where
  targets : Targets
  retransmit2 : PeriodicTimer
  mqtt : PeriodicTimer
  checkForRemoteCfg : PeriodicTimer

def advPostTimerRelaunchWithPeriod (timer : PeriodicTimer) (periodMs : UInt32) : PeriodicTimer :=
  let periodTicks := pdMsToTicks periodMs
  if !timer.active ∨ timer.periodTicks ≠ periodTicks then timer.restartWithPeriod periodTicks
  else timer

variable (t : Timers)

def adv2PostTimerSetDefaultPeriod (periodMs : UInt32) : Timers :=
  { t with targets.adv2DefaultIntervalMs := periodMs }

def adv2PostTimerRelaunchWithDefaultPeriod : Timers :=
  { t with
    retransmit2 := advPostTimerRelaunchWithPeriod t.retransmit2 t.targets.adv2DefaultIntervalMs }

/-- The part of `adv_post_on_gw_cfg_change` for the custom target. -/
def setHttpTimer (http : GwCfgHttp) : Timers :=
  if http.useHttp then
    adv2PostTimerRelaunchWithDefaultPeriod
      (adv2PostTimerSetDefaultPeriod t (http.httpPeriod * msPerSecond))
  else { t with retransmit2 := t.retransmit2.stop }

/-- Its part for MQTT, where the ticks are multiplied. -/
def setMqttTimer (mqtt : GwCfgMqtt) : Timers :=
  if mqtt.useMqtt ∧ mqtt.mqttSendingInterval ≠ 0 then
    { t with
      mqtt := t.mqtt.restartWithPeriod (pdMsToTicks mqtt.mqttSendingInterval * msPerSecond) }
  else { t with mqtt := t.mqtt.stop }

def advPostOnGwCfgChangeTimers (cfg : GwCfgRuuvi P) : Timers :=
  setMqttTimer (setHttpTimer t cfg.http) cfg.mqtt

def mainTaskConfigurePeriodicRemoteCfgCheck (remote : GwCfgRemote) : Timers :=
  if remote.useRemoteCfg ∧ remote.refreshIntervalMinutes ≠ 0 then
    { t with
      checkForRemoteCfg := t.checkForRemoteCfg.restartWithPeriod
        (pdMsToTicks (remote.refreshIntervalMinutes.toUInt32 * secondsPerMinute * msPerSecond)) }
  else { t with checkForRemoteCfg := t.checkForRemoteCfg.stop }

/-- The timers after a configuration has been taken over. -/
def onConfiguration (cfg : GwCfgRuuvi P) : Timers :=
  mainTaskConfigurePeriodicRemoteCfgCheck (advPostOnGwCfgChangeTimers t cfg) cfg.remote

def gatewayRateHeader (value : Bytes) : Header := ⟨ascii "X-Ruuvi-Gateway-Rate", value⟩

/-- The timers after the custom target has sent the header in a successful response. -/
def onGatewayRate (osStrToUint32Cptr : Bytes → ℕ → UInt32 × ℕ) (value : Bytes) : Timers :=
  adv2PostTimerRelaunchWithDefaultPeriod { t with
    targets := httpPostEventHandlerOnHeader osStrToUint32Cptr .postAdvsToCustom
      (gatewayRateHeader value) t.targets }

end Timers

section Property

/-- The timer runs with the given period. -/
structure PeriodicTimer.Programmed (timer : PeriodicTimer) (seconds : ℤ) : Prop where
  active : timer.active = true
  nonzero : timer.periodTicks ≠ 0
  ticks : (timer.periodTicks.toNat : ℤ) = seconds * configTickRateHz.toNat

/-- The number that is configured: the one that is written in the JSON if the getter takes it, and
the one that was stored otherwise. -/
def configured {α : Type} (root : Json) (key : String) (result : Option (Option α)) (stored : ℤ) :
    Option ℤ :=
  match result with
  | some (some _) => (root.getObjectItem key).bind writtenInt
  | _ => some stored

variable (root : Json) (cfg new : GwCfgRuuvi P)

def configuredHttpPeriod : Option ℤ :=
  configured root "http_period" (jsonWrapGetUint32Val P root "http_period")
    cfg.http.httpPeriod.toNat

def configuredMqttSendingInterval : Option ℤ :=
  configured root "mqtt_sending_interval" (jsonWrapGetUint32Val P root "mqtt_sending_interval")
    cfg.mqtt.mqttSendingInterval.toNat

def configuredRefreshInterval : Option ℤ :=
  configured root "remote_cfg_refresh_interval_minutes"
    (jsonWrapGetUint16Val root "remote_cfg_refresh_interval_minutes")
    cfg.remote.refreshIntervalMinutes.toNat

/-- What the header asks for, in seconds. -/
def rateSeconds (osStrToUint32Cptr : Bytes → ℕ → UInt32 × ℕ) (value : Bytes) : ℤ :=
  let seconds := (osStrToUint32Cptr value 10).1
  if 1 ≤ seconds ∧ seconds ≤ maxPeriodSeconds then seconds.toNat
  else advPostDefaultIntervalSeconds.toNat

/-- The timers have the configured periods. A sending interval or a refresh interval of zero stands
for no timer. -/
structure PeriodsProgrammed (osStrToUint32Cptr : Bytes → ℕ → UInt32 × ℕ) (t : Timers) : Prop where
  http : new.http.useHttp = true → ∃ n, configuredHttpPeriod root cfg = some n ∧
    (onConfiguration t new).retransmit2.Programmed n
  mqtt : new.mqtt.useMqtt = true → ∃ n, configuredMqttSendingInterval root cfg = some n ∧
    (n ≠ 0 → (onConfiguration t new).mqtt.Programmed n)
  remote : new.remote.useRemoteCfg = true → ∃ n, configuredRefreshInterval root cfg = some n ∧
    (n ≠ 0 → (onConfiguration t new).checkForRemoteCfg.Programmed (n * 60))
  rate : ∀ value, (onGatewayRate t osStrToUint32Cptr value).retransmit2.Programmed
    (rateSeconds osStrToUint32Cptr value)

/-- The item is not a number that the getter cuts. -/
def NotCut (key : String) : Prop :=
  ∀ q, root.getObjectItem key = some (.number q) → q < 0x10000

/-- The configured numbers are integers for which no product wraps. -/
structure PeriodsFit : Prop where
  http : new.http.useHttp = true → ∃ n, configuredHttpPeriod root cfg = some n ∧ 1 ≤ n ∧ n ≤ 4294
  mqtt : new.mqtt.useMqtt = true → ∃ n, configuredMqttSendingInterval root cfg = some n ∧
    0 ≤ n ∧ n ≤ 4294967 ∧ NotCut root "mqtt_sending_interval"
  remote : new.remote.useRemoteCfg = true →
    ∃ n, configuredRefreshInterval root cfg = some n ∧ n ≤ 71

end Property

section Getters

variable {root : Json} {key : String} {n : ℤ}

theorem cstr_ne_nil_of_writtenInt {s : Bytes} (h : writtenInt (.string s) = some n) :
    cstr s ≠ [] := by
  intro hnil
  rw [writtenInt, hnil] at h
  simp [textBase, prefixHex, ascii, denoted, scanNumber, readSign, readPrefix, hasHexPrefix] at h

/-- A number that the getter of 32 bits takes and does not cut is stored as it is written. -/
theorem stored_of_configured (hP : P.osStrToUint32Cptr = strtoul) {period : Option UInt32}
    {stored : UInt32} (hget : jsonWrapGetUint32Val P root key = some period)
    (hn : configured root key (some period) stored.toNat = some n) (hlow : 0 ≤ n)
    (hhigh : n < 0x100000000)
    (hcut : ∀ q, root.getObjectItem key = some (.number q) → q = n → q < 0x10000) :
    ((period.getD stored).toNat : ℤ) = n := by
  cases period with
  | none => exact Option.some.inj hn
  | some v =>
    have hwritten : (root.getObjectItem key).bind writtenInt = some n := hn
    have hexact : Uint32Exact (root.getObjectItem key) := by
      match hitem : root.getObjectItem key, hwritten with
      | some (.number q), hwritten =>
        rw [Option.bind_some, writtenInt] at hwritten
        split_ifs at hwritten with hden
        have hq : q = n := by
          rw [← Option.some.inj hwritten]
          exact ((Rat.den_eq_one_iff q).mp hden).symm
        exact .inr ⟨hcut q hitem hq, hden⟩
      | some (.string s), hwritten =>
        refine ⟨cstr_ne_nil_of_writtenInt hwritten, fun z hz => ?_⟩
        have hzn : z = n := Option.some.inj (hz.symm.trans hwritten)
        exact ⟨hzn ▸ hlow, hzn ▸ hhigh⟩
    obtain ⟨_, hstored, hvalue⟩ := (uint32_exact_iff hP).mpr hexact
    rw [hget] at hstored
    exact Option.some.inj ((hvalue v (Option.some.inj hstored).symm).symm.trans hwritten)

/-- What is left of a number that the getter cuts is less than the number. -/
theorem lt_of_cut (hcut : ¬NotCut root key) {period : Option UInt32} {stored : ℤ}
    (hget : jsonWrapGetUint32Val P root key = some period)
    (hn : configured root key (some period) stored = some n) :
    ∃ v, period = some v ∧ (v.toNat : ℤ) < 0x10000 ∧ 0x10000 ≤ n := by
  unfold NotCut at hcut
  push Not at hcut
  obtain ⟨q, hitem, hq⟩ := hcut
  have hvalue : 0 ≤ Json.valueint q := by
    rw [Json.le_valueint_iff le_rfl (by decide)]
    have : (0x10000 : ℚ) > 0 := by norm_num
    push_cast
    linarith
  simp only [jsonWrapGetUint32Val, hitem, if_pos hvalue] at hget
  obtain rfl := Option.some.inj hget
  refine ⟨_, rfl, ?_, ?_⟩
  · rw [UInt32.toNat_ofNat']
    omega
  · have hwritten : (root.getObjectItem key).bind writtenInt = some n := hn
    rw [hitem, Option.bind_some, writtenInt] at hwritten
    split_ifs at hwritten with hden
    rw [← Option.some.inj hwritten]
    rw [← (Rat.den_eq_one_iff q).mp hden] at hq
    exact_mod_cast hq

/-- The getter of 16 bits stores the integers that it takes as they are written. -/
theorem stored16_of_configured {period : Option UInt16} {stored : UInt16}
    (hget : jsonWrapGetUint16Val root key = some period)
    (hn : configured root key (some period) stored.toNat = some n) :
    ((period.getD stored).toNat : ℤ) = n := by
  cases period with
  | none => exact Option.some.inj hn
  | some v =>
    have hwritten : (root.getObjectItem key).bind writtenInt = some n := hn
    have hexact : UintExact 0xffff (root.getObjectItem key) := by
      match hitem : root.getObjectItem key, hwritten with
      | some (.number q), hwritten =>
        rw [Option.bind_some, writtenInt] at hwritten
        split_ifs at hwritten with hden
        exact .inr (.inr hden)
      | some (.string s), hwritten =>
        intro hpre _
        rw [Option.bind_some, writtenInt, textBase, if_pos hpre, denoted_of_prefixHex hpre]
          at hwritten
        split_ifs at hwritten with hnumeral
        exact hnumeral
    have hofNat : ∀ k, k ≤ 0xffff → ((UInt16.ofNat k).toNat : ℤ) = k := by
      intro k hk
      rw [UInt16.toNat_ofNat_of_lt' (Nat.lt_succ_of_le hk)]
    have hexact : Exact (fun w : UInt16 => (w.toNat : ℤ)) (root.getObjectItem key)
        (jsonWrapGetUint16Val root key) := by
      refine Iff.mpr (uint_exact_iff (by decide) ?_) hexact
      exact hofNat
    obtain ⟨_, hstored, hvalue⟩ := hexact
    rw [hget] at hstored
    exact Option.some.inj ((hvalue v (Option.some.inj hstored).symm).symm.trans hwritten)

end Getters

section Parsed

variable {root : Json} {default : Option (GwCfgRuuvi P)} {cfg new : GwCfgRuuvi P}

/-- The period is read whenever the custom target is in use afterwards. -/
theorem httpPeriod_of_parse {http : GwCfgHttp}
    (h : gwCfgJsonParseHttp P root cfg.http = some http) (huse : http.useHttp = true) :
    ∃ period, jsonWrapGetUint32Val P root "http_period" = some period ∧
      http.httpPeriod = period.getD cfg.http.httpPeriod := by
  unfold gwCfgJsonParseHttp at h
  dsimp only at h
  split_ifs at h with hflag htarget
  · obtain rfl := Option.some.inj h
    exact absurd huse Bool.false_ne_true
  · obtain ⟨period, hperiod, h⟩ := Option.bind_eq_some_iff.mp h
    obtain rfl := Option.some.inj h
    exact ⟨period, hperiod, rfl⟩
  · obtain rfl := Option.some.inj h
    exact absurd huse hflag

theorem mqttSendingInterval_of_parse {defaultMqtt : Option GwCfgMqtt} {mqtt : GwCfgMqtt}
    (h : gwCfgJsonParseMqtt P root defaultMqtt cfg.mqtt = some mqtt) :
    ∃ interval, jsonWrapGetUint32Val P root "mqtt_sending_interval" = some interval ∧
      mqtt.mqttSendingInterval = interval.getD cfg.mqtt.mqttSendingInterval := by
  obtain ⟨port, -, h⟩ := Option.bind_eq_some_iff.mp h
  obtain ⟨interval, hinterval, h⟩ := Option.bind_eq_some_iff.mp h
  obtain rfl := Option.some.inj h
  exact ⟨interval, hinterval, rfl⟩

theorem refreshInterval_of_parse {remote : GwCfgRemote}
    (h : gwCfgJsonParseRemote root cfg.remote = some remote) :
    ∃ interval, jsonWrapGetUint16Val root "remote_cfg_refresh_interval_minutes" = some interval ∧
      remote.refreshIntervalMinutes = interval.getD cfg.remote.refreshIntervalMinutes := by
  obtain ⟨interval, hinterval, h⟩ := Option.bind_eq_some_iff.mp h
  obtain rfl := Option.some.inj h
  exact ⟨interval, hinterval, rfl⟩

end Parsed

section Programming

variable {timer : PeriodicTimer} {n : ℤ}

/-- However large the product, the quotient is that of 32 bits. -/
theorem quotient_le (x : ℕ) : x % 2 ^ 32 / 1000 ≤ 4294967 := by omega

theorem ticks_of_le {seconds : ℕ} (h : seconds ≤ 4294) :
    seconds * 1000 % 2 ^ 32 * 1000 % 2 ^ 32 / 1000 = seconds * 1000 := by
  have hms : seconds * 1000 % 2 ^ 32 = seconds * 1000 := Nat.mod_eq_of_lt (by omega)
  rw [hms, Nat.mod_eq_of_lt (by omega), Nat.mul_div_cancel _ (by norm_num)]

theorem mqttTicks_of_le {seconds : ℕ} (h : seconds ≤ 4294967) :
    seconds * 1000 % 2 ^ 32 / 1000 * 1000 % 2 ^ 32 = seconds * 1000 := by
  have hticks : seconds * 1000 % 2 ^ 32 / 1000 = seconds := by
    rw [Nat.mod_eq_of_lt (by omega), Nat.mul_div_cancel _ (by norm_num)]
  rw [hticks, Nat.mod_eq_of_lt (by omega)]

theorem relaunchWithPeriod_active (timer : PeriodicTimer) (ms : UInt32) :
    (advPostTimerRelaunchWithPeriod timer ms).active = true := by
  unfold advPostTimerRelaunchWithPeriod
  dsimp only
  split_ifs with h
  · rfl
  · rw [not_or] at h
    simpa using h.1

theorem relaunchWithPeriod_ticks (timer : PeriodicTimer) (ms : UInt32) :
    (advPostTimerRelaunchWithPeriod timer ms).periodTicks = pdMsToTicks ms := by
  unfold advPostTimerRelaunchWithPeriod
  dsimp only
  split_ifs with h
  · rfl
  · exact not_not.mp (not_or.mp h).2

theorem programmed_iff : timer.Programmed n ↔ timer.active = true ∧ 0 < n ∧
    (timer.periodTicks.toNat : ℤ) = n * 1000 := by
  have hrate : configTickRateHz.toNat = 1000 := rfl
  constructor
  · rintro ⟨hactive, hnonzero, hticks⟩
    have hpos : timer.periodTicks.toNat ≠ 0 := fun hzero =>
      hnonzero (UInt32.toNat_inj.mp (hzero.trans rfl))
    rw [hrate] at hticks
    exact ⟨hactive, by omega, hticks⟩
  · rintro ⟨hactive, hpos, hticks⟩
    refine ⟨hactive, ?_, by rw [hrate]; exact hticks⟩
    intro hzero
    rw [hzero] at hticks
    have : (0 : UInt32).toNat = 0 := rfl
    omega

/-- Seconds that become milliseconds before they become ticks. -/
theorem programmed_relaunch_iff {seconds : UInt32} :
    (advPostTimerRelaunchWithPeriod timer (seconds * msPerSecond)).Programmed n ↔
      0 < n ∧ ((seconds.toNat * 1000 % 2 ^ 32 * 1000 % 2 ^ 32 / 1000 : ℕ) : ℤ) = n * 1000 := by
  have hms : msPerSecond.toNat = 1000 := rfl
  rw [programmed_iff, relaunchWithPeriod_ticks, toNat_pdMsToTicks, UInt32.toNat_mul, hms]
  exact and_iff_right (relaunchWithPeriod_active _ _)

/-- Seconds that become ticks as if they were milliseconds, and are multiplied then. -/
theorem programmed_mqtt_iff {seconds : UInt32} :
    (timer.restartWithPeriod (pdMsToTicks seconds * msPerSecond)).Programmed n ↔
      0 < n ∧ ((seconds.toNat * 1000 % 2 ^ 32 / 1000 * 1000 % 2 ^ 32 : ℕ) : ℤ) = n * 1000 := by
  have hms : msPerSecond.toNat = 1000 := rfl
  rw [programmed_iff, PeriodicTimer.restartWithPeriod, UInt32.toNat_mul, toNat_pdMsToTicks, hms]
  exact and_iff_right rfl

theorem programmed_minutes_iff {minutes : UInt16} :
    (timer.restartWithPeriod
      (pdMsToTicks (minutes.toUInt32 * secondsPerMinute * msPerSecond))).Programmed (n * 60) ↔
      0 < n ∧ ((minutes.toNat * 60 * 1000 * 1000 % 2 ^ 32 / 1000 : ℕ) : ℤ) = n * 60 * 1000 := by
  have hms : msPerSecond.toNat = 1000 := rfl
  have hsecs : secondsPerMinute.toNat = 60 := rfl
  have hlt := minutes.toNat_lt
  rw [programmed_iff, PeriodicTimer.restartWithPeriod, toNat_pdMsToTicks, UInt32.toNat_mul,
    UInt32.toNat_mul, hms, hsecs, UInt16.toNat_toUInt32]
  have hnowrap : minutes.toNat * 60 % 2 ^ 32 * 1000 % 2 ^ 32 = minutes.toNat * 60 * 1000 := by omega
  rw [hnowrap]
  constructor
  · rintro ⟨-, hpos, hticks⟩
    exact ⟨by omega, hticks⟩
  · rintro ⟨hpos, hticks⟩
    exact ⟨rfl, by omega, hticks⟩

end Programming

section Main

variable {root : Json} {default : Option (GwCfg P)} {cfg new : GwCfg P}

theorem retransmit2_onConfiguration {ruuvi : GwCfgRuuvi P} (t : Timers)
    (huse : ruuvi.http.useHttp = true) :
    (onConfiguration t ruuvi).retransmit2 =
      advPostTimerRelaunchWithPeriod t.retransmit2 (ruuvi.http.httpPeriod * msPerSecond) := by
  unfold onConfiguration mainTaskConfigurePeriodicRemoteCfgCheck advPostOnGwCfgChangeTimers
    setMqttTimer
    setHttpTimer
  rw [if_pos huse]
  split_ifs <;> rfl

theorem mqtt_onConfiguration (ruuvi : GwCfgRuuvi P) (t : Timers) :
    (onConfiguration t ruuvi).mqtt =
      if ruuvi.mqtt.useMqtt ∧ ruuvi.mqtt.mqttSendingInterval ≠ 0 then
        t.mqtt.restartWithPeriod (pdMsToTicks ruuvi.mqtt.mqttSendingInterval * msPerSecond)
      else t.mqtt.stop := by
  unfold onConfiguration mainTaskConfigurePeriodicRemoteCfgCheck advPostOnGwCfgChangeTimers
    setMqttTimer
    setHttpTimer
  split_ifs <;> rfl

theorem checkForRemoteCfg_onConfiguration (ruuvi : GwCfgRuuvi P) (t : Timers) :
    (onConfiguration t ruuvi).checkForRemoteCfg =
      if ruuvi.remote.useRemoteCfg ∧ ruuvi.remote.refreshIntervalMinutes ≠ 0 then
        t.checkForRemoteCfg.restartWithPeriod
          (pdMsToTicks (ruuvi.remote.refreshIntervalMinutes.toUInt32 * secondsPerMinute *
            msPerSecond))
      else t.checkForRemoteCfg.stop := by
  unfold onConfiguration mainTaskConfigurePeriodicRemoteCfgCheck advPostOnGwCfgChangeTimers
    setMqttTimer
    setHttpTimer
  split_ifs <;> rfl

theorem not_programmed_stop (timer : PeriodicTimer) (n : ℤ) : ¬timer.stop.Programmed n := fun h =>
  Bool.false_ne_true h.active

/-- A period from the server is at most an hour, for which nothing wraps. -/
theorem programmed_onGatewayRate (t : Timers) (osStrToUint32Cptr : Bytes → ℕ → UInt32 × ℕ)
    (value : Bytes) : (onGatewayRate t osStrToUint32Cptr value).retransmit2.Programmed
      (rateSeconds osStrToUint32Cptr value) := by
  have hkey : (gatewayRateHeader value).isHmacKey = false := by
    change strcasecmpEq (ascii "Ruuvi-HMAC-KEY") (ascii "X-Ruuvi-Gateway-Rate") = false
    decide
  have hrate : (gatewayRateHeader value).isGatewayRate = true := by
    change strcasecmpEq (ascii "X-Ruuvi-Gateway-Rate") (ascii "X-Ruuvi-Gateway-Rate") = true
    decide
  have hnext : (onGatewayRate t osStrToUint32Cptr value).retransmit2 =
      advPostTimerRelaunchWithPeriod t.retransmit2
        (periodSecondsOf osStrToUint32Cptr value * msPerSecond) := by
    rw [onGatewayRate, httpPostEventHandlerOnHeader, hkey, hrate]
    rfl
  have hmax : maxPeriodSeconds.toNat = 3600 := rfl
  have hdefault : advPostDefaultIntervalSeconds.toNat = 10 := rfl
  have hone : (1 : UInt32).toNat = 1 := rfl
  rw [hnext, programmed_relaunch_iff, rateSeconds, periodSecondsOf]
  generalize (osStrToUint32Cptr value 10).1 = seconds
  have hzero : seconds = 0 ↔ seconds.toNat = 0 := UInt32.toNat_inj.symm
  simp only [hzero, gt_iff_lt, UInt32.lt_iff_toNat_lt, UInt32.le_iff_toNat_le, hmax, hone]
  split_ifs with hgood hbad hbad
  · omega
  · rw [ticks_of_le (by omega)]
    exact ⟨by omega, by push_cast; rfl⟩
  · rw [hdefault]
    exact ⟨by decide, by decide⟩
  · omega

/-- A period of the custom target does not wrap if and only if it is at most 4294 seconds. -/
theorem httpProgrammed_iff (hP : P.osStrToUint32Cptr = strtoul)
    (hparse : gwCfgJsonParseHttp P root cfg.ruuviCfg.http = some new.ruuviCfg.http)
    (huse : new.ruuviCfg.http.useHttp = true) (t : Timers) (n : ℤ)
    (hn : configuredHttpPeriod root cfg.ruuviCfg = some n) :
    (onConfiguration t new.ruuviCfg).retransmit2.Programmed n ↔ 1 ≤ n ∧ n ≤ 4294 := by
  obtain ⟨period, hget, hstored⟩ := httpPeriod_of_parse hparse huse
  rw [configuredHttpPeriod, hget] at hn
  rw [retransmit2_onConfiguration t huse, programmed_relaunch_iff]
  constructor
  · rintro ⟨hpos, hticks⟩
    have hbound := quotient_le (new.ruuviCfg.http.httpPeriod.toNat * 1000 % 2 ^ 32 * 1000)
    generalize new.ruuviCfg.http.httpPeriod.toNat * 1000 % 2 ^ 32 * 1000 % 2 ^ 32 / 1000 = ticks
      at hticks hbound
    exact ⟨hpos, by omega⟩
  · rintro ⟨hpos, hmax⟩
    have hvalue := stored_of_configured hP hget hn (by omega) (by omega) fun q _ hq => by
      rw [hq]
      exact_mod_cast lt_of_le_of_lt hmax (by norm_num)
    rw [← hstored] at hvalue
    rw [ticks_of_le (by omega)]
    exact ⟨hpos, by omega⟩

theorem mqttProgrammed_iff (hP : P.osStrToUint32Cptr = strtoul) {defaultMqtt : Option GwCfgMqtt}
    (hparse : gwCfgJsonParseMqtt P root defaultMqtt cfg.ruuviCfg.mqtt = some new.ruuviCfg.mqtt)
    (huse : new.ruuviCfg.mqtt.useMqtt = true) (t : Timers) (n : ℤ)
    (hn : configuredMqttSendingInterval root cfg.ruuviCfg = some n) :
    (n ≠ 0 → (onConfiguration t new.ruuviCfg).mqtt.Programmed n) ↔
      0 ≤ n ∧ n ≤ 4294967 ∧ NotCut root "mqtt_sending_interval" := by
  obtain ⟨interval, hget, hstored⟩ := mqttSendingInterval_of_parse hparse
  rw [configuredMqttSendingInterval, hget] at hn
  rw [mqtt_onConfiguration]
  constructor
  · intro hprogrammed
    have hrun (hne : n ≠ 0) : 0 < n ∧
        ((new.ruuviCfg.mqtt.mqttSendingInterval.toNat * 1000 % 2 ^ 32 / 1000 * 1000 % 2 ^ 32 : ℕ) :
          ℤ) = n * 1000 := by
      have h := hprogrammed hne
      split_ifs at h with hrunning
      · exact programmed_mqtt_iff.mp h
      · exact absurd h (not_programmed_stop _ _)
    have hcut : NotCut root "mqtt_sending_interval" := by
      by_contra hcut
      obtain ⟨v, rfl, hv, hlarge⟩ := lt_of_cut hcut hget hn
      have hticks := (hrun (by omega)).2
      rw [hstored, Option.getD_some, mqttTicks_of_le (by omega)] at hticks
      omega
    by_cases hzero : n = 0
    · exact ⟨by omega, by omega, hcut⟩
    · obtain ⟨hpos, hticks⟩ := hrun hzero
      exact ⟨hpos.le, by omega, hcut⟩
  · rintro ⟨hlow, hmax, hcut⟩ hne
    have hvalue := stored_of_configured hP hget hn hlow (by omega) fun q hitem _ => hcut q hitem
    rw [← hstored] at hvalue
    have hrunning : new.ruuviCfg.mqtt.mqttSendingInterval ≠ 0 := by
      intro hzero
      rw [hzero] at hvalue
      exact hne hvalue.symm
    rw [if_pos ⟨huse, hrunning⟩, programmed_mqtt_iff, mqttTicks_of_le (by omega)]
    exact ⟨by omega, by omega⟩

theorem remoteProgrammed_iff
    (hparse : gwCfgJsonParseRemote root cfg.ruuviCfg.remote = some new.ruuviCfg.remote)
    (huse : new.ruuviCfg.remote.useRemoteCfg = true) (t : Timers) (n : ℤ)
    (hn : configuredRefreshInterval root cfg.ruuviCfg = some n) :
    (n ≠ 0 → (onConfiguration t new.ruuviCfg).checkForRemoteCfg.Programmed (n * 60)) ↔ n ≤ 71 := by
  obtain ⟨interval, hget, hstored⟩ := refreshInterval_of_parse hparse
  rw [configuredRefreshInterval, hget] at hn
  have hvalue := stored16_of_configured hget hn
  rw [← hstored] at hvalue
  rw [checkForRemoteCfg_onConfiguration]
  by_cases hzero : n = 0
  · exact iff_of_true (fun hne => absurd hzero hne) (by omega)
  have hrunning : new.ruuviCfg.remote.refreshIntervalMinutes ≠ 0 := by
    intro h
    rw [h] at hvalue
    exact hzero hvalue.symm
  rw [if_pos ⟨huse, hrunning⟩, programmed_minutes_iff, imp_iff_right hzero]
  omega

theorem parse_ruuvi (h : gwCfgJsonParse root default cfg = some new) :
    gwCfgJsonParseCjsonRuuviCfg root (default.map (·.ruuviCfg)) cfg.ruuviCfg =
      some new.ruuviCfg := by
  obtain ⟨ruuviCfg, hruuvi, h⟩ := Option.bind_eq_some_iff.mp h
  obtain ⟨ap, -, h⟩ := Option.bind_eq_some_iff.mp h
  obtain rfl := Option.some.inj h
  exact hruuvi

end Main

section Samples

def periodsDefault : GwCfg strtoulPlatform :=
  (gwCfgDefaultBuiltIn strtoulPlatform sampleParam).withIdentity

/-- A configuration with a custom target, MQTT and a remote configuration. -/
def periodsJson (httpPeriod mqttSendingInterval refreshInterval : ℚ) : Json :=
  .object [("use_http", .bool true), ("http_url", .string (ascii "https://my.server")),
    ("http_period", .number httpPeriod), ("use_mqtt", .bool true),
    ("mqtt_sending_interval", .number mqttSendingInterval), ("remote_cfg_use", .bool true),
    ("remote_cfg_refresh_interval_minutes", .number refreshInterval)]

def noTimers : Timers where
  targets := ⟨⟨[], by decide⟩, ⟨[], by decide⟩, ⟨[], by decide⟩, 10000, 10000⟩
  retransmit2 := ⟨false, 0⟩
  mqtt := ⟨false, 0⟩
  checkForRemoteCfg := ⟨false, 0⟩

end Samples

end RuuviGateway.AdvPost
