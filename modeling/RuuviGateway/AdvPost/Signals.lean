import RuuviGateway.AdvPost.AsyncComm
import RuuviGateway.General.Transition

/-!
# The signal handlers of the posting task

One handler for every signal of `adv_post_signals.c`. The task takes signals in any
order, and other tasks work on the advertisement table in between.
-/

namespace RuuviGateway.AdvPost

open AdvTable General

section Handlers

/-- `adv_post_restart_pending_retransmissions`. -/
def advPostRestartPendingRetransmissions (w : World) : World :=
  let w := if w.state.flagNeedToSendAdvs1 then
    w.emit (.timer .retransmitToHttpRuuvi .relaunch) else w
  let w := if w.state.flagNeedToSendAdvs2 then
    w.emit (.timer .retransmitToHttpCustom .relaunch) else w
  if w.state.flagNeedToSendStatistics then w.emit (.timer .sendStatistics .relaunch) else w

def advPostHandleSigStop (w : World) : World :=
  { w with state := { w.state with flagStop := true } }

def advPostHandleSigNetworkDisconnected (w : World) : World :=
  { w with state := { w.state with flagNetworkConnected := false } }

def advPostHandleSigNetworkConnected (w : World) : World :=
  advPostRestartPendingRetransmissions
    { w with state := { w.state with flagNetworkConnected := true } }

def advPostHandleSigTimeSynchronized (w : World) (env : Env) : World :=
  let w :=
    if !w.state.flagPrimaryTimeSyncIsDone then
      let w := { w with
        state := { w.state with flagPrimaryTimeSyncIsDone := true }
        table := advTableClear w.table }
      if env.gwCfgGetHttpStatUseHttpStat then w.emit (.timer .sendStatistics .postpone) else w
    else w
  advPostRestartPendingRetransmissions w

/-- The handlers of the signals that ask for a transfer: the request counts only while
relaying is enabled and the target is in use. -/
def advPostHandleSigRequest (w : World) (use : Bool) (request : AdvPostState → AdvPostState) :
    World :=
  if w.state.flagRelayingEnabled && use then
    { w with state := request w.state }.emit (.signal .doAsyncComm)
  else w

def advPostHandleSigRetransmit (w : World) (env : Env) : World :=
  advPostHandleSigRequest w env.gwCfgGetHttpUseHttpRuuvi
    fun s => { s with flagNeedToSendAdvs1 := true }

def advPostHandleSigRetransmit2 (w : World) (env : Env) : World :=
  advPostHandleSigRequest w env.gwCfgGetHttpUseHttp
    fun s => { s with flagNeedToSendAdvs2 := true }

def advPostHandleSigRetransmitMqtt (w : World) (env : Env) : World :=
  advPostHandleSigRequest w env.gwCfgGetMqttUseMqtt
    fun s => { s with flagNeedToSendMqttPeriodic := true }

def advPostHandleSigSendStatistics (w : World) (env : Env) : World :=
  advPostHandleSigRequest w env.gwCfgGetHttpStatUseHttpStat
    fun s => { s with flagNeedToSendStatistics := true }

/-- The handler first takes over the relaying mode, ... -/
def advPostSampleRelaying (w : World) (env : Env) : World :=
  { w with state := { w.state with
      flagRelayingEnabled := env.gwStatusIsRelayingViaHttpEnabled } }

/-- ... then ends a transfer in progress if relaying is disabled, ... -/
def advPostAbortTransfer (w : World) : World :=
  if !w.state.flagRelayingEnabled && w.state.flagAsyncCommInProgress then
    let w := (w.emit (.timer .doAsyncComm .stop)).emit .httpAbort
    httpServerMutexUnlock { w with state := { w.state with flagAsyncCommInProgress := false } }
  else w

/-- ... and finally confirms the change. -/
def advPostHandleSigRelayingModeChanged (w : World) (env : Env) : World :=
  (advPostAbortTransfer (advPostSampleRelaying w env)).emit .clearHttpRelayingCmd

def advPostHandleSigNetworkWatchdog (w : World) (env : Env) : World :=
  if env.networkTimeoutCheck then w.emit (.gatewayRestart "Network watchdog") else w

def advPostOnGwCfgChangeHandleScanFilter (cache : CfgCache) (env : Env) : CfgCache × Bool :=
  let cache := { cache with scanFilterAllowListed := env.scanFilterAllowListed }
  if env.scanFilterList.length ≠ 0 then
    if !env.scanFilterAllocated then (cache, false)
    else ({ cache with scanFilterMacs := some env.scanFilterList }, true)
  else (cache, true)

/-- Turn the timer and the request flag of one target on or off with its configuration. -/
def World.setTarget (w : World) (use : Bool) (timer : Timer)
    (request : Bool → AdvPostState → AdvPostState) : World :=
  { w with state := request use w.state }.emit (.timer timer (if use then .relaunch else .stop))

def advPostOnGwCfgChange (w : World) (env : Env) : World :=
  let w := { w with
    state := { w.state with flagUseTimestamps := env.gwCfgGetNtpUse }
    cfgCache := { w.cfgCache with flagUseNtp := env.gwCfgGetNtpUse, scanFilterMacs := none } }
  let filter := advPostOnGwCfgChangeHandleScanFilter w.cfgCache env
  let w := { w with cfgCache := filter.1 }
  if !filter.2 then w.emit (.gatewayRestart "Low memory on gw_cfg_change")
  else
    let w := w.setTarget env.gwCfgGetHttpUseHttpRuuvi .retransmitToHttpRuuvi
      fun use s => { s with flagNeedToSendAdvs1 := use }
    let w := w.setTarget env.gwCfgGetHttpUseHttp .retransmitToHttpCustom
      fun use s => { s with flagNeedToSendAdvs2 := use }
    let w := w.setTarget
      (env.gwCfgGetMqttUseMqtt && decide (env.gwCfgGetMqttSendingInterval ≠ 0)) .retransmitToMqtt
      fun _ s => s
    let w := w.setTarget env.gwCfgGetHttpStatUseHttpStat .sendStatistics
      fun use s => { s with flagNeedToSendStatistics := use }
    { w with table := advTableClear w.table }.emit (.timer .doAsyncComm .start)

/-- Whether incoming connections of the HTTP server use the mutex from now on. -/
def World.useHttpServerMutex (w : World) (env : Env) : World :=
  w.emit (.mutexUsedByHttpServer (env.gwCfgGetMqttUseMqttOverSslOrWss &&
    (env.gwCfgGetHttpUseHttpRuuvi || env.gwCfgGetHttpUseHttp)))

def advPostHandleSigGwCfgReady (w : World) (env : Env) : World :=
  let w := w.emit .sendNrfSettings
  let w := if env.gwCfgGetHttpStatUseHttpStat then
    w.emit (.timer .sendStatistics .postpone) else w
  (advPostOnGwCfgChange w env).useHttpServerMutex env

def advPostHandleSigGwCfgChangedRuuvi (w : World) (env : Env) : World :=
  (advPostOnGwCfgChange (w.emit .sendNrfSettings) env).useHttpServerMutex env

def advPostHandleSigBleScanChanged (w : World) : World :=
  { w with table := advTableClear w.table }

def advPostHandleSigCfgModeActivated (w : World) : World :=
  { w.emit .networkTimeoutUpdate with
    cfgCache := { w.cfgCache with scanFilterMacs := none }
    table := advTableClear w.table }

def advPostHandleSigCfgModeDeactivated (w : World) (env : Env) : World :=
  advPostOnGwCfgChange ((w.emit .networkTimeoutUpdate).emit .sendNrfSettings) env

end Handlers

/-- The table of handlers. The watchdog feed and the green LED do not touch the state. -/
def advPostHandleSig (sig : Sig) (w : World) (env : Env) : World :=
  match sig with
  | .stop => advPostHandleSigStop w
  | .networkDisconnected => advPostHandleSigNetworkDisconnected w
  | .networkConnected => advPostHandleSigNetworkConnected w
  | .timeSynchronized => advPostHandleSigTimeSynchronized w env
  | .retransmit => advPostHandleSigRetransmit w env
  | .retransmit2 => advPostHandleSigRetransmit2 w env
  | .retransmitMqtt => advPostHandleSigRetransmitMqtt w env
  | .sendStatistics => advPostHandleSigSendStatistics w env
  | .doAsyncComm => advPostDoAsyncComm w env
  | .relayingModeChanged => advPostHandleSigRelayingModeChanged w env
  | .networkWatchdog => advPostHandleSigNetworkWatchdog w env
  | .taskWatchdogFeed => w
  | .gwCfgReady => advPostHandleSigGwCfgReady w env
  | .gwCfgChangedRuuvi => advPostHandleSigGwCfgChangedRuuvi w env
  | .bleScanChanged => advPostHandleSigBleScanChanged w
  | .cfgModeActivated => advPostHandleSigCfgModeActivated w
  | .cfgModeDeactivated => advPostHandleSigCfgModeDeactivated w env
  | .greenLedStateChanged => w
  | .greenLedUpdate => w
  | .recvAdvTimeout => w.emit .recvAdvTimeoutEvent

/-- The task handles a signal, or another task uses the advertisement table. -/
inductive Label
  | signal (sig : Sig) (env : Env)
  | table (op : Op)

/-- The posting task among the users of the table. It leaves its loop after `STOP`. -/
def advPost (nonce statNonce : UInt32) : System World Label Unit where
  init := World.initial nonce statNonce
  step w label :=
    match label with
    | .signal sig env =>
        if w.state.flagStop then none else some (advPostHandleSig sig w env, ())
    | .table op => some ({ w with table := (op.apply w.table).1 }, ())

theorem advPost_step {nonce statNonce : UInt32} {w w' : World} {label : Label} {o : Unit}
    (hstep : (advPost nonce statNonce).step w label = some (w', o)) :
    (∃ sig env, label = .signal sig env ∧ w.state.flagStop = false ∧
      w' = advPostHandleSig sig w env) ∨
    (∃ op, label = .table op ∧ w' = { w with table := (op.apply w.table).1 }) := by
  cases label with
  | signal sig env =>
    simp only [advPost] at hstep
    split_ifs at hstep with hstop
    simp only [Option.some.injEq, Prod.mk.injEq] at hstep
    exact .inl ⟨sig, env, rfl, by simpa using hstop, hstep.1.symm⟩
  | table op =>
    simp only [advPost, Option.some.injEq, Prod.mk.injEq] at hstep
    exact .inr ⟨op, rfl, hstep.1.symm⟩

/-- The task may take any signal until it has been stopped. -/
theorem advPost_run_signal {nonce statNonce : UInt32} {G : World → Label → Prop}
    {history : List (Label × Unit)} {w : World} (hr : (advPost nonce statNonce).Run G history w)
    (sig : Sig) (env : Env) (hstop : w.state.flagStop = false) (hG : G w (.signal sig env)) :
    (advPost nonce statNonce).Run G ((.signal sig env, ()) :: history)
      (advPostHandleSig sig w env) :=
  .step hr hG (if_neg (by simp [hstop]))

end RuuviGateway.AdvPost
