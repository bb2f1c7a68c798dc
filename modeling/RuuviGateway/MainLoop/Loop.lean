import RuuviGateway.Config.Types
import RuuviGateway.General.Signals
import RuuviGateway.General.Transition
import RuuviGateway.MainLoop.HeapUsage

/-!
# The main loop

The signals of the main task, their handlers, and the system of the main task with its timers, the
other tasks that signal it and the HTTP server, which works off the requests that it makes. A
handler is one step.
-/

namespace RuuviGateway.MainLoop

open Config General

section Signals

/-- `main_task_sig_e`. -/
inductive MainTaskSig
  | logHeapUsage
  | checkForFwUpdates
  | scheduleNextCheckForFwUpdates
  | scheduleRetryCheckForFwUpdates
  | deferredEthernetActivation
  | wifiApStarted
  | wifiApStopped
  | activateCfgMode
  | deactivateCfgMode
  | taskRestartServices
  | checkForRemoteCfg
  | networkConnected
  | networkDisconnected
  | reconnectNetwork
  | setDefaultConfig
  | onGetHistory
  | onGetHistoryTimeout
  | relayingModeChanged
  | logRuntimeStat
  | taskWatchdogFeed
  deriving DecidableEq, Repr

/-- `main_task_conv_to_sig_num`. -/
def MainTaskSig.num (sig : MainTaskSig) : ℕ := sig.ctorIdx

theorem MainTaskSig.num_injective : Function.Injective num :=
  Function.LeftInverse.injective MainTaskSig.ofNat_ctorIdx

/-- The signals of the check for updates come from its timer and from the HTTP server only, the
others from any task, event or timer. -/
def MainTaskSig.ofUpdateCheck : MainTaskSig → Bool
  | .checkForFwUpdates | .scheduleNextCheckForFwUpdates | .scheduleRetryCheckForFwUpdates => true
  | _ => false

end Signals

section State

/-- `http_server_user_req_code_e`, as far as the main task uses it. -/
inductive UserReqCode
  | downloadLatestReleaseInfo
  | downloadGwCfg
  deriving DecidableEq, Repr

/-- What the handlers call of the other tasks and of the network. -/
inductive Call
  | userReq (code : UserReqCode)
  | gatewayRestart (msg : String)
  | notifyCfgModeActivated
  | notifyCfgModeDeactivated
  | suspendRelaying
  | resumeRelaying
  | clearMqttRelayingCmd
  | mqttAppStop
  | mqttAppStartWithGwCfg
  | disableWps
  | clearWaitingAutoCfgByWps
  | stopAp
  | ethernetStart
  | ethernetStop
  | connectAsync
  | disconnectWifi
  | startMdns
  | stopMdns
  | clearForceStartWifiHotspot
  | gwCfgUpdateDefault
  | simulateNetworkDisconnected
  | stopTimerDeactivateCfgMode
  | deleteTimerDeferredEthernet
  | restartTimerGetHistoryTimeout
  | notifyHttpPollOk
  | notifyHttpPollTimeout
  | logRuntimeStatistics
  | taskWatchdogReset
  deriving DecidableEq, Repr

/-- What a handler reads. -/
structure Env where
  freeHeap : ℕ
  isConnectedToWifiOrEthernet : Bool
  timeIsSynchronized : Bool
  unixTime : ℤ
  autoUpdate : GwCfgAutoUpdate
  isConnectedToEthernet : Bool
  isWaitingAutoCfgByWps : Bool
  gwCfgIsEmpty : Bool
  /-- The same at the end of a handler that reads it again. -/
  gwCfgIsEmptyLater : Bool
  isApActive : Bool
  isNetworkConnected : Bool
  gwCfgGetEthUseEth : Bool
  isStaConfigured : Bool
  isStaActive : Bool
  forceStartWifiHotspot : Bool
  useRemoteCfg : Bool
  remoteCfgRefreshIntervalMinutes : ℕ
  gwCfgGetMqttUseMqtt : Bool
  isRelayingViaMqttEnabled : Bool
  isMqttStarted : Bool
  gwCfgAllocated : Bool

/-- The timers of the checks are the number of ticks that they are armed with. The last field is a
record: the last start of the services found automatic updates on. -/
structure MainTask where
  mailbox : Mailbox MainTaskSig.num
  started : Bool
  restarting : Bool
  timerCheckForFwUpdates : Option ℕ
  timerCheckForRemoteCfg : Option ℕ
  cfgMode : Bool
  flagInitialRequestForRemoteCfgPerformed : Bool
  heapUsage : HeapUsage
  /-- The user requests that the HTTP server has not begun, and the one in progress. -/
  requested : UserReqCode → Bool
  inProgress : Option UserReqCode
  autoUpdating : Bool

def MainTask.initial : MainTask where
  mailbox := .empty
  started := false
  restarting := false
  timerCheckForFwUpdates := none
  timerCheckForRemoteCfg := none
  cfgMode := false
  flagInitialRequestForRemoteCfgPerformed := false
  heapUsage := .initial
  requested := fun _ => false
  inProgress := none
  autoUpdating := false

/-- With 1000 ticks a second. -/
def delayTicks (seconds : ℕ) : ℕ := seconds * 1000 / 1000 * 1000

def checkForFwUpdatesDelayAfterReboot : ℕ := delayTicks (40 * 60)

def checkForFwUpdatesDelayAfterSuccess : ℕ := delayTicks (12 * 60 * 60)

def checkForFwUpdatesDelayBeforeRetry : ℕ := delayTicks (40 * 60)

variable (t : MainTask)

def MainTask.send (sig : MainTaskSig) : MainTask := { t with mailbox := t.mailbox.send sig }

/-- `http_server_user_req`. -/
def MainTask.userReq (code : UserReqCode) : MainTask :=
  { t with requested := fun c => if c = code then true else t.requested c }

end State

section Updates

/-- `tm_wday` of `gmtime_r`: the first of January 1970 was a Thursday. -/
def tmWday (time : ℤ) : ℕ := ((time / 86400 + 4) % 7).toNat

/-- `tm_hour` of `gmtime_r`. -/
def tmHour (time : ℤ) : ℕ := (time % 86400 / 3600).toNat

def checkIfCheckingForFwUpdatesAllowed2 (cfg : GwCfgAutoUpdate) (unixTime : ℤ) : Bool :=
  let curTime := unixTime + cfg.autoUpdateTzOffsetHours.toInt * (60 * 60)
  if cfg.autoUpdateCycle = .manual then false
  else if cfg.autoUpdateWeekdaysBitmask.toNat &&& 1 <<< tmWday curTime = 0 then false
  else if !(decide (cfg.autoUpdateIntervalFrom.toNat ≤ tmHour curTime) &&
      decide (tmHour curTime < cfg.autoUpdateIntervalTo.toNat)) then false
  else true

def checkIfCheckingForFwUpdatesAllowed (env : Env) : Bool :=
  if !env.isConnectedToWifiOrEthernet then false
  else if !env.timeIsSynchronized then false
  else checkIfCheckingForFwUpdatesAllowed2 env.autoUpdate env.unixTime

end Updates

section Handlers

variable (t : MainTask) (env : Env)

def mainTaskHandleSigLogHeapUsage : MainTask × List Call :=
  match t.heapUsage.sample env.freeHeap with
  | none => ({ t with restarting := true }, [.gatewayRestart "Low memory"])
  | some heapUsage => ({ t with heapUsage := heapUsage }, [])

def mainTaskHandleSigCheckForFwUpdates : MainTask × List Call :=
  if checkIfCheckingForFwUpdatesAllowed env then
    (t.userReq .downloadLatestReleaseInfo, [.userReq .downloadLatestReleaseInfo])
  else (t.send .scheduleRetryCheckForFwUpdates, [])

def mainTaskHandleSigScheduleNextCheckForFwUpdates : MainTask × List Call :=
  ({ t with timerCheckForFwUpdates := some checkForFwUpdatesDelayAfterSuccess }, [])

def mainTaskHandleSigScheduleRetryCheckForFwUpdates : MainTask × List Call :=
  ({ t with timerCheckForFwUpdates := some checkForFwUpdatesDelayBeforeRetry }, [])

def mainTaskHandleSigDeferredEthernetActivation : MainTask × List Call :=
  (t, if env.isConnectedToEthernet then [] else [.ethernetStart])

def mainTaskHandleSigActivateCfgMode : MainTask × List Call :=
  if t.cfgMode then
    (t, if env.isWaitingAutoCfgByWps then [.disableWps, .clearWaitingAutoCfgByWps] else [])
  else
    ({ t with cfgMode := true, timerCheckForRemoteCfg := none, timerCheckForFwUpdates := none },
      [.suspendRelaying, .notifyCfgModeActivated])

/-- The network connection at the end of the configuration mode. -/
def startNetwork : List Call :=
  if env.gwCfgIsEmptyLater || env.gwCfgGetEthUseEth || !env.isStaConfigured then
    if env.isConnectedToEthernet then [] else [.ethernetStart]
  else if env.isStaActive then [] else [.connectAsync]

/-- What `main_task_handle_sig_deactivate_cfg_mode` calls before it connects to the network. -/
def leaveCfgMode : List Call :=
  (if env.isApActive then [.stopAp] else []) ++
    (if env.isWaitingAutoCfgByWps then [.disableWps, .clearWaitingAutoCfgByWps] else []) ++
    (if !env.isNetworkConnected then [.simulateNetworkDisconnected] else [])

/-- The configuration mode stays active while there is no configuration. -/
def mainTaskHandleSigDeactivateCfgMode : MainTask × List Call :=
  let stopTimers := [Call.stopTimerDeactivateCfgMode, .deleteTimerDeferredEthernet]
  if !t.cfgMode then (t, stopTimers)
  else if !env.gwCfgIsEmpty then
    (({ t with cfgMode := false }.send .onGetHistory).send .taskRestartServices,
      stopTimers ++ leaveCfgMode env ++ startNetwork env ++
        [.notifyCfgModeDeactivated, .resumeRelaying])
  else (t.send .onGetHistory, stopTimers ++ leaveCfgMode env ++ startNetwork env)

def mainTaskHandleSigCheckForRemoteCfg : MainTask × List Call :=
  (t.userReq .downloadGwCfg, [.userReq .downloadGwCfg])

/-- The first connection asks for the remote configuration. -/
def requestInitialRemoteCfg : MainTask :=
  if env.useRemoteCfg && !t.flagInitialRequestForRemoteCfgPerformed && !env.isApActive then
    { t with flagInitialRequestForRemoteCfgPerformed := true }.send .checkForRemoteCfg
  else t

def mainTaskHandleSigNetworkConnected : MainTask × List Call :=
  (requestInitialRemoteCfg t env,
    (if env.forceStartWifiHotspot then [.clearForceStartWifiHotspot] else []) ++ [.startMdns])

def mainTaskHandleSigNetworkReconnect : List Call :=
  if env.gwCfgGetEthUseEth then [.ethernetStop, .ethernetStart]
  else if env.isStaActive then [.disconnectWifi, .connectAsync] else []

def mainTaskHandleSigSetDefaultConfig : MainTask × List Call :=
  if !env.gwCfgAllocated then (t, [])
  else (t.send .deactivateCfgMode, [.gwCfgUpdateDefault])

def mainTaskConfigurePeriodicRemoteCfgCheck : MainTask :=
  { t with timerCheckForRemoteCfg :=
      if env.useRemoteCfg && decide (env.remoteCfgRefreshIntervalMinutes ≠ 0) then
        some (env.remoteCfgRefreshIntervalMinutes * 60 * 1000 * 1000 / 1000) else none }

/-- The check for updates when the services start. -/
def startCheckForFwUpdates (ticks : ℕ) : MainTask :=
  if env.autoUpdate.autoUpdateCycle ≠ .manual then
    { t with timerCheckForFwUpdates := some ticks, autoUpdating := true }
  else { t with timerCheckForFwUpdates := none, autoUpdating := false }

def mainTaskHandleSigRestartServices : MainTask × List Call :=
  (startCheckForFwUpdates (mainTaskConfigurePeriodicRemoteCfgCheck t env) env
      checkForFwUpdatesDelayBeforeRetry,
    .mqttAppStop :: if env.gwCfgGetMqttUseMqtt && env.isRelayingViaMqttEnabled then
      [.mqttAppStartWithGwCfg] else [])

def mainTaskHandleSigRelayingModeChanged : MainTask × List Call :=
  let calls :=
    if env.gwCfgGetMqttUseMqtt then
      if env.isRelayingViaMqttEnabled then
        if !env.isMqttStarted then [.mqttAppStartWithGwCfg] else []
      else [.mqttAppStop]
    else [.mqttAppStop]
  (t.send .logRuntimeStat, calls ++ [.clearMqttRelayingCmd])

def mainTaskHandleSig : MainTaskSig → MainTask × List Call
  | .logHeapUsage => mainTaskHandleSigLogHeapUsage t env
  | .checkForFwUpdates => mainTaskHandleSigCheckForFwUpdates t env
  | .scheduleNextCheckForFwUpdates => mainTaskHandleSigScheduleNextCheckForFwUpdates t
  | .scheduleRetryCheckForFwUpdates => mainTaskHandleSigScheduleRetryCheckForFwUpdates t
  | .deferredEthernetActivation => mainTaskHandleSigDeferredEthernetActivation t env
  | .wifiApStarted => (t, [])
  | .wifiApStopped => (t, [])
  | .activateCfgMode => mainTaskHandleSigActivateCfgMode t env
  | .deactivateCfgMode => mainTaskHandleSigDeactivateCfgMode t env
  | .taskRestartServices => mainTaskHandleSigRestartServices t env
  | .checkForRemoteCfg => mainTaskHandleSigCheckForRemoteCfg t
  | .networkConnected => mainTaskHandleSigNetworkConnected t env
  | .networkDisconnected => (t, [.stopMdns])
  | .reconnectNetwork => (t, mainTaskHandleSigNetworkReconnect env)
  | .setDefaultConfig => mainTaskHandleSigSetDefaultConfig t env
  | .onGetHistory => (t, [.restartTimerGetHistoryTimeout, .notifyHttpPollOk])
  | .onGetHistoryTimeout => (t, [.notifyHttpPollTimeout])
  | .relayingModeChanged => mainTaskHandleSigRelayingModeChanged t env
  | .logRuntimeStat => (t, [.logRuntimeStatistics])
  | .taskWatchdogFeed => (t, [.taskWatchdogReset])

/-- `main_loop` before its loop. -/
def mainLoopStart : MainTask × List Call :=
  ((startCheckForFwUpdates (mainTaskConfigurePeriodicRemoteCfgCheck { t with started := true } env)
      env checkForFwUpdatesDelayAfterReboot).send .logRuntimeStat,
    (if env.gwCfgGetMqttUseMqtt then [.mqttAppStartWithGwCfg] else []) ++
      [.restartTimerGetHistoryTimeout])

end Handlers

section System

inductive Label
  | start (env : Env)
  /-- The main task takes all pending signals. -/
  | take
  /-- The main task handles the next of the signals that it has taken. -/
  | next (env : Env)
  /-- Another task, an event or a timer. -/
  | signal (sig : MainTaskSig)
  | expireCheckForFwUpdates
  | expireCheckForRemoteCfg
  /-- The HTTP server begins a user request. -/
  | beginUserReq (code : UserReqCode)
  /-- It ends the request in progress: the download has failed or not. -/
  | endUserReq (isError : Bool)

/-- The signal that is handled, and the calls. -/
structure Output where
  handled : Option MainTaskSig
  calls : List Call

/-- The end of `http_server_cb_on_user_req_download_latest_release_info`, as far as the main task is
concerned. The download of a configuration asks for a restart of the services on its own. -/
def MainTask.endUserReq (t : MainTask) (isError : Bool) : UserReqCode → MainTask
  | .downloadLatestReleaseInfo => t.send
      (if isError then .scheduleRetryCheckForFwUpdates else .scheduleNextCheckForFwUpdates)
  | .downloadGwCfg => t

/-- A task that waits for the restart of the gateway handles nothing any more. -/
def MainTask.step (t : MainTask) : Label → Option (MainTask × Output)
  | .start env =>
      if t.started then none
      else some ((mainLoopStart t env).1, ⟨none, (mainLoopStart t env).2⟩)
  | .take =>
      if t.started && !t.restarting then
        t.mailbox.take.map fun m => ({ t with mailbox := m }, ⟨none, []⟩)
      else none
  | .next env =>
      if t.restarting then none
      else t.mailbox.next.map fun r =>
        ((mainTaskHandleSig { t with mailbox := r.2 } env r.1).1,
          ⟨some r.1, (mainTaskHandleSig { t with mailbox := r.2 } env r.1).2⟩)
  | .signal sig => if sig.ofUpdateCheck then none else some (t.send sig, ⟨none, []⟩)
  | .expireCheckForFwUpdates => t.timerCheckForFwUpdates.map fun _ =>
      ({ t with timerCheckForFwUpdates := none }.send .checkForFwUpdates, ⟨none, []⟩)
  | .expireCheckForRemoteCfg => t.timerCheckForRemoteCfg.map fun _ =>
      (t.send .checkForRemoteCfg, ⟨none, []⟩)
  | .beginUserReq code =>
      if t.requested code && t.inProgress.isNone then
        some ({ t with
          requested := fun c => if c = code then false else t.requested c
          inProgress := some code }, ⟨none, []⟩)
      else none
  | .endUserReq isError => t.inProgress.map fun code =>
      ({ t with inProgress := none }.endUserReq isError code, ⟨none, []⟩)

def mainTaskSystem : System MainTask Label Output where
  init := .initial
  step := MainTask.step

end System

section LowMemory

variable {t : MainTask} {h : List (Label × Output)}

/-- The sample of the free heap that a step takes. -/
def heapSample : Label × Output → Option ℕ
  | (.next env, ⟨some .logHeapUsage, _⟩) => some env.freeHeap
  | _ => none

/-- The samples of a run, the first one first. -/
def heapSamples (h : List (Label × Output)) : List ℕ := (h.filterMap heapSample).reverse

/-- The static variables are those of the samples, and the restart is that of the samples. -/
def MainTask.Sampled (h : List (Label × Output)) (t : MainTask) : Prop :=
  HeapUsage.run (heapSamples h) = if t.restarting then none else some t.heapUsage

theorem sampled_of_none {t' : MainTask} {e : Label × Output} (ht : t.Sampled h)
    (he : heapSample e = none) (hheap : t'.heapUsage = t.heapUsage)
    (hrestarting : t'.restarting = t.restarting) : t'.Sampled (e :: h) := by
  simpa [MainTask.Sampled, heapSamples, he, hheap, hrestarting] using ht

theorem sampled_logHeapUsage (ht : t.Sampled h) (hrestarting : t.restarting = false) (env : Env)
    (calls : List Call) : (mainTaskHandleSigLogHeapUsage t env).1.Sampled
      ((.next env, ⟨some .logHeapUsage, calls⟩) :: h) := by
  have hrun : HeapUsage.run (heapSamples h) = some t.heapUsage := by
    simpa [MainTask.Sampled, hrestarting] using ht
  have hconcat : heapSamples ((.next env, ⟨some .logHeapUsage, calls⟩) :: h) =
      heapSamples h ++ [env.freeHeap] := by simp [heapSamples, heapSample]
  rw [MainTask.Sampled, hconcat, HeapUsage.run_concat, hrun, mainTaskHandleSigLogHeapUsage]
  split
  · next hsample => simpa using hsample
  · next heapUsage hsample => simpa [hrestarting] using hsample

/-- Only the handler of the sample touches the static variables. -/
theorem heapUsage_handleSig (t : MainTask) (env : Env) {sig : MainTaskSig}
    (hsig : sig ≠ .logHeapUsage) :
    (mainTaskHandleSig t env sig).1.heapUsage = t.heapUsage ∧
      (mainTaskHandleSig t env sig).1.restarting = t.restarting := by
  cases sig with
  | logHeapUsage => exact absurd rfl hsig
  | checkForFwUpdates =>
    simp only [mainTaskHandleSig, mainTaskHandleSigCheckForFwUpdates]
    split <;> exact ⟨rfl, rfl⟩
  | activateCfgMode =>
    simp only [mainTaskHandleSig, mainTaskHandleSigActivateCfgMode]
    split <;> exact ⟨rfl, rfl⟩
  | deactivateCfgMode =>
    simp only [mainTaskHandleSig, mainTaskHandleSigDeactivateCfgMode]
    split_ifs <;> exact ⟨rfl, rfl⟩
  | taskRestartServices =>
    simp only [mainTaskHandleSig, mainTaskHandleSigRestartServices, startCheckForFwUpdates]
    split <;> exact ⟨rfl, rfl⟩
  | networkConnected =>
    simp only [mainTaskHandleSig, mainTaskHandleSigNetworkConnected, requestInitialRemoteCfg]
    split <;> exact ⟨rfl, rfl⟩
  | setDefaultConfig =>
    simp only [mainTaskHandleSig, mainTaskHandleSigSetDefaultConfig]
    split <;> exact ⟨rfl, rfl⟩
  | _ => exact ⟨rfl, rfl⟩

theorem sampled_step {t' : MainTask} {l : Label} {o : Output} (ht : t.Sampled h)
    (hs : t.step l = some (t', o)) : t'.Sampled ((l, o) :: h) := by
  cases l with
  | start env =>
    simp only [MainTask.step] at hs
    split at hs
    · cases hs
    · cases hs
      refine sampled_of_none ht rfl ?_ ?_ <;>
      · simp only [mainLoopStart, startCheckForFwUpdates]
        split <;> rfl
  | next env =>
    simp only [MainTask.step] at hs
    split at hs
    · cases hs
    · next hrestarting =>
      obtain ⟨⟨sig, m⟩, hm, heq⟩ := Option.map_eq_some_iff.mp hs
      cases heq
      by_cases hsig : sig = .logHeapUsage
      · subst hsig
        exact sampled_logHeapUsage (t := { t with mailbox := m }) ht
          (Bool.eq_false_of_not_eq_true hrestarting) env _
      · obtain ⟨hheap, hrest⟩ := heapUsage_handleSig { t with mailbox := m } env hsig
        refine sampled_of_none ht ?_ hheap hrest
        cases sig <;> first | exact absurd rfl hsig | rfl
  | take =>
    simp only [MainTask.step] at hs
    split at hs
    · obtain ⟨m, -, heq⟩ := Option.map_eq_some_iff.mp hs
      cases heq
      exact sampled_of_none ht rfl rfl rfl
    · cases hs
  | signal sig =>
    simp only [MainTask.step] at hs
    split at hs <;> cases hs
    exact sampled_of_none ht rfl rfl rfl
  | beginUserReq code =>
    simp only [MainTask.step] at hs
    split at hs <;> cases hs
    exact sampled_of_none ht rfl rfl rfl
  | endUserReq isError =>
    obtain ⟨code, -, heq⟩ := Option.map_eq_some_iff.mp hs
    cases heq
    cases code <;> exact sampled_of_none ht rfl rfl rfl
  | _ =>
    obtain ⟨_, -, heq⟩ := Option.map_eq_some_iff.mp hs
    cases heq
    exact sampled_of_none ht rfl rfl rfl

/-- Automatic updates on Sundays from 2 to 4 o'clock, at 2 o'clock of such a day, UTC+1. -/
def sampleEnv : Env where
  freeHeap := 60000
  isConnectedToWifiOrEthernet := true
  timeIsSynchronized := true
  unixTime := 1700960400
  autoUpdate := ⟨.regular, 1, 2, 4, 1⟩
  isConnectedToEthernet := true
  isWaitingAutoCfgByWps := false
  gwCfgIsEmpty := false
  gwCfgIsEmptyLater := false
  isApActive := false
  isNetworkConnected := true
  gwCfgGetEthUseEth := true
  isStaConfigured := false
  isStaActive := false
  forceStartWifiHotspot := false
  useRemoteCfg := false
  remoteCfgRefreshIntervalMinutes := 0
  gwCfgGetMqttUseMqtt := false
  isRelayingViaMqttEnabled := true
  isMqttStarted := false
  gwCfgAllocated := true

/-- The main task has started, its timer has expired, and it asks for the release info. -/
def sampleLabels : List Label :=
  [.start sampleEnv, .expireCheckForFwUpdates, .signal .logHeapUsage, .take, .next sampleEnv,
    .next sampleEnv, .beginUserReq .downloadLatestReleaseInfo, .endUserReq false]

theorem exists_sampleRun : ∃ h t, mainTaskSystem.FreeRun h t ∧
    (decide (t.autoUpdating = true ∧ t.cfgMode = false) &&
      t.mailbox.pending.all (· ≠ .taskRestartServices) &&
      t.mailbox.taken.all (· ≠ .taskRestartServices)) = true :=
  System.exists_run_of_exec sampleLabels (by decide)

/-- The main task restarts the gateway exactly when five windows of samples in a row have stayed
below the limit. -/
theorem restarting_iff_lowHeap (hr : mainTaskSystem.FreeRun h t) : t.restarting = true ↔
    List.replicate ruuviMaxLowHeapMemCnt true <:+: lowHeapWindows (heapSamples h) := by
  have hsampled : t.Sampled h :=
    hr.historyInvariant (I := fun h t => t.Sampled h) rfl fun _ _ _ _ _ ht _ hs =>
      sampled_step ht hs
  rw [← heapUsage_run_eq_none_iff, hsampled]
  cases t.restarting <;> simp

theorem restarting_iff_lowHeap_sample : ∃ h t, mainTaskSystem.FreeRun h t ∧ (t.restarting = true ↔
    List.replicate ruuviMaxLowHeapMemCnt true <:+: lowHeapWindows (heapSamples h)) := by
  obtain ⟨h, t, hr, -⟩ := exists_sampleRun
  exact ⟨h, t, hr, restarting_iff_lowHeap hr⟩

end LowMemory

end RuuviGateway.MainLoop
