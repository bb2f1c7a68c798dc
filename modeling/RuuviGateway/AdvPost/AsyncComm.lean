import RuuviGateway.AdvPost.State

/-!
# Asynchronous transfers of the posting task

The functions of `adv_post_async_comm.c`: starting a transfer to one of the targets and
continuing the one in progress. The two HTTP targets for advertisements differ in their
flag, their action and their retransmission list only.
-/

namespace RuuviGateway.AdvPost

open AdvTable

/-- The targets of `adv_post_do_async_comm_send_advs1` and `..._send_advs2`. -/
inductive AdvsTarget
  | ruuvi
  | custom
  deriving DecidableEq, Repr

def AdvsTarget.action : AdvsTarget → Action
  | .ruuvi => .postAdvsToRuuvi
  | .custom => .postAdvsToCustom

def AdvsTarget.list : AdvsTarget → ListNo
  | .ruuvi => .list1
  | .custom => .list2

def AdvPostState.needToSendAdvs (s : AdvPostState) : AdvsTarget → Bool
  | .ruuvi => s.flagNeedToSendAdvs1
  | .custom => s.flagNeedToSendAdvs2

def AdvPostState.setNeedToSendAdvs (s : AdvPostState) (flag : Bool) : AdvsTarget → AdvPostState
  | .ruuvi => { s with flagNeedToSendAdvs1 := flag }
  | .custom => { s with flagNeedToSendAdvs2 := flag }

section Retransmission

/-- `adv_post_retransmit_advs`; `http_post_advs` sets the action to the value it has. -/
def advPostRetransmitAdvs (w : World) (env : Env) (reports : List AdvReport)
    (flagUseTimestamps flagPostToRuuvi : Bool) : World × Bool :=
  if !env.gwCfgGetHttpCopy then (w, false)
  else
    let effect := Effect.httpPostAdvs reports w.nonce flagUseTimestamps flagPostToRuuvi
      env.httpPostAdvs
    (w.emit effect, env.httpPostAdvs)

def advPostRetransmitToHttp (w : World) (env : Env) (flagUseTimestamps : Bool)
    (target : AdvsTarget) : World × Bool :=
  let drain := advTableReadRetransmissionListAndClear target.list w.table
  advPostRetransmitAdvs { w with table := drain.table } env drain.reports flagUseTimestamps
    (decide (target = .ruuvi))

def advPostDoRetransmission (w : World) (env : Env) (flagUseTimestamps : Bool)
    (action : Action) : World × Bool :=
  if !env.reportsBufAllocated then (w, false)
  else
    match action with
    | .none => (w.emit .assertFailed, false)
    | .postAdvsToRuuvi => advPostRetransmitToHttp w env flagUseTimestamps .ruuvi
    | .postAdvsToCustom => advPostRetransmitToHttp w env flagUseTimestamps .custom
    | .postStats => (w.emit .assertFailed, false)
    | .postAdvsToMqtt =>
        let drain := advTableReadRetransmissionList3AndClear w.table
        let w := { w with
          table := drain.table
          mqttReports := some drain.reports
          mqttIdx := 0
          mqttTimestamp := if env.gwCfgGetNtpUse then env.time else 0 }
        (w.emit (.mqttBuffer drain.reports), true)

end Retransmission

section Start

/-- The time condition that all targets share. -/
def timeConditionMet (w : World) (env : Env) : Bool :=
  !(w.state.flagUseTimestamps && !env.timeIsSynchronized)

def advPostDoAsyncCommSendAdvs (target : AdvsTarget) (w : World) (env : Env) : World :=
  if !w.state.flagNetworkConnected then w
  else if !timeConditionMet w env then w
  else
    let locked := httpServerMutexTryLock w env
    if !locked.2 then locked.1
    else
      let w := { locked.1 with action := target.action }
      let sent := advPostDoRetransmission w env w.state.flagUseTimestamps target.action
      if !sent.2 then httpServerMutexUnlock { sent.1 with action := .none }
      else
        let w := sent.1
        { w with
          nonce := w.nonce + 1
          state := { w.state.setNeedToSendAdvs false target with flagAsyncCommInProgress := true } }

def advPostDoAsyncCommSendAdvs1 : World → Env → World := advPostDoAsyncCommSendAdvs .ruuvi

def advPostDoAsyncCommSendAdvs2 : World → Env → World := advPostDoAsyncCommSendAdvs .custom

/-- `adv_post_stat`: the sample counters are reset by the read of the statistics. -/
def advPostStat (w : World) (env : Env) : World × Bool :=
  if !env.statReportsAllocated then (w, false)
  else
    let read := advTableStatisticsRead w.table
    let w := { w with table := read.1 }
    if !env.resetInfoGet then (w, false)
    else if !env.statInfoGenerated then (w, false)
    else
      let w := { w with statNonce := w.statNonce + 1 }
      (w.emit (.httpPostStat read.2 env.httpPostStat), env.httpPostStat)

def advPostStatisticsDoSend (w : World) (env : Env) : World × Bool :=
  if !env.gwCfgGetHttpStatCopy then (w, false) else advPostStat w env

def advPostDoAsyncCommSendStatistics (w : World) (env : Env) : World :=
  if !env.gwCfgGetHttpStatUseHttpStat then
    { w with state := { w.state with flagNeedToSendStatistics := false } }
  else if !w.state.flagNetworkConnected then w
  else if !timeConditionMet w env then w
  else
    let locked := httpServerMutexTryLock w env
    if !locked.2 then locked.1
    else
      let sent := advPostStatisticsDoSend { locked.1 with action := .postStats } env
      if !sent.2 then httpServerMutexUnlock { sent.1 with action := .none }
      else
        let w := sent.1
        { w with state := { w.state with
            flagNeedToSendStatistics := false
            flagAsyncCommInProgress := true } }

def advPostDoAsyncCommStartSendingPeriodicMqtt (w : World) (env : Env) : World :=
  let notNeeded := { w with state := { w.state with flagNeedToSendMqttPeriodic := false } }
  if !env.gwCfgGetMqttUseMqtt then notNeeded
  else if !w.state.flagNetworkConnected then notNeeded
  else if !env.gwStatusIsMqttConnected then notNeeded
  else if !timeConditionMet w env then w
  else
    let w := { w with action := .postAdvsToMqtt }
    let sent := advPostDoRetransmission w env w.state.flagUseTimestamps .postAdvsToMqtt
    if !sent.2 then { sent.1 with action := .none }.emit .mainRestartServices
    else
      let w := sent.1
      { w with state := { w.state with
          flagNeedToSendMqttPeriodic := false
          flagAsyncCommInProgress := true } }.emit (.signal .doAsyncComm)

end Start

section InProgress

/-- `os_free` of the report buffer of the MQTT transfer. -/
def World.freeMqttReports (w : World) : World :=
  { w with mqttReports := none, mqttIdx := 0 }.emit .mqttFree

/-- The buffer is zero beyond the reports that were drained into it. -/
def advPostDoAsyncCommInProgressMqtt (w : World) (env : Env) : World × Bool :=
  match w.mqttReports with
  | none => (w.emit .assertFailed, true)
  | some reports =>
      let advReport := reports.getD w.mqttIdx AdvReport.zero
      let effect := Effect.mqttPublish advReport env.gwCfgGetNtpUseOnPublish w.mqttTimestamp
        env.mqttPublishAdv
      let w := w.emit effect
      if !env.mqttPublishAdv then (w.freeMqttReports, true)
      else
        let w := { w with mqttIdx := w.mqttIdx + 1 }
        if w.mqttIdx ≥ reports.length then (w.freeMqttReports, true)
        else (w, false)

/-- The flags and the action after an HTTP request has been completed. -/
def World.httpCompleted (w : World) : World :=
  match w.action with
  | .postAdvsToRuuvi =>
      { w with state := { w.state with flagNeedToSendAdvs1 := false }, action := .none }
  | .postAdvsToCustom =>
      { w with state := { w.state with flagNeedToSendAdvs2 := false }, action := .none }
  | .postStats =>
      { w with state := { w.state with flagNeedToSendStatistics := false }, action := .none }
  | .none | .postAdvsToMqtt => w

def advPostDoAsyncCommInProgress (w : World) (env : Env) : World × Bool :=
  if w.action ≠ .postAdvsToMqtt then
    if !env.httpAsyncPoll then (w.emit (.timer .doAsyncComm .start), false)
    else (httpServerMutexUnlock w.httpCompleted, true)
  else
    let sent := advPostDoAsyncCommInProgressMqtt w env
    if !sent.2 then (sent.1.emit (.timer .doAsyncComm .start), false)
    else (sent.1, true)

/-- The part of `adv_post_do_async_comm` that starts a transfer to the first target that
needs one. -/
def advPostStartPending (w : World) (env : Env) : World :=
  if !w.state.flagRelayingEnabled then w
  else if w.state.flagNeedToSendAdvs1 then
    (advPostDoAsyncCommSendAdvs1 w env).emit (.timer .doAsyncComm .start)
  else if w.state.flagNeedToSendAdvs2 then
    (advPostDoAsyncCommSendAdvs2 w env).emit (.timer .doAsyncComm .start)
  else if w.state.flagNeedToSendStatistics then
    (advPostDoAsyncCommSendStatistics w env).emit (.timer .doAsyncComm .start)
  else if w.state.flagNeedToSendMqttPeriodic then
    (advPostDoAsyncCommStartSendingPeriodicMqtt w env).emit (.timer .doAsyncComm .start)
  else w

def advPostDoAsyncComm (w : World) (env : Env) : World :=
  if w.state.flagAsyncCommInProgress then
    let progress := advPostDoAsyncCommInProgress w env
    if !progress.2 then progress.1
    else
      let w := progress.1
      advPostStartPending
        { w with state := { w.state with flagAsyncCommInProgress := false } } env
  else advPostStartPending w env

end InProgress

end RuuviGateway.AdvPost
