import RuuviGateway.AdvTable.Table

/-!
# The state of the posting task

`adv_post` handles one signal after another. Its state consists of the flags of
`adv_post_state_t`, the globals of `adv_post_async_comm.c`, the advertisement table, its
configuration cache and its side of the mutex that it shares with the HTTP server.
Calls into the rest of the firmware appear as outcomes that the environment supplies and
as effects in a log, newest first.
-/

namespace RuuviGateway.AdvPost

open AdvTable

structure AdvPostState where
  flagPrimaryTimeSyncIsDone : Bool
  flagNetworkConnected : Bool
  flagAsyncCommInProgress : Bool
  flagNeedToSendAdvs1 : Bool
  flagNeedToSendAdvs2 : Bool
  flagNeedToSendStatistics : Bool
  flagNeedToSendMqttPeriodic : Bool
  flagRelayingEnabled : Bool
  flagUseTimestamps : Bool
  flagStop : Bool
  deriving DecidableEq, Repr

/-- The state with which `adv_post_task` enters its loop. -/
def AdvPostState.initial : AdvPostState where
  flagPrimaryTimeSyncIsDone := false
  flagNetworkConnected := false
  flagAsyncCommInProgress := false
  flagNeedToSendAdvs1 := false
  flagNeedToSendAdvs2 := false
  flagNeedToSendStatistics := false
  flagNeedToSendMqttPeriodic := false
  flagRelayingEnabled := true
  flagUseTimestamps := false
  flagStop := false

inductive Action
  | none
  | postAdvsToRuuvi
  | postAdvsToCustom
  | postStats
  | postAdvsToMqtt
  deriving DecidableEq, Repr

/-- The actions that run as an HTTP request. -/
def Action.isHttp : Action → Bool
  | .postAdvsToRuuvi | .postAdvsToCustom | .postStats => true
  | .none | .postAdvsToMqtt => false

inductive Sig
  | stop
  | networkDisconnected
  | networkConnected
  | timeSynchronized
  | retransmit
  | retransmit2
  | retransmitMqtt
  | sendStatistics
  | doAsyncComm
  | relayingModeChanged
  | networkWatchdog
  | taskWatchdogFeed
  | gwCfgReady
  | gwCfgChangedRuuvi
  | bleScanChanged
  | cfgModeActivated
  | cfgModeDeactivated
  | greenLedStateChanged
  | greenLedUpdate
  | recvAdvTimeout
  deriving DecidableEq, Repr

inductive Timer
  | retransmitToHttpRuuvi
  | retransmitToHttpCustom
  | retransmitToMqtt
  | sendStatistics
  | doAsyncComm
  deriving DecidableEq, Repr

inductive TimerOp
  | start
  | stop
  | relaunch
  | postpone
  deriving DecidableEq, Repr

/-- What the task does to the rest of the firmware. -/
inductive Effect
  | mutexLocked
  | mutexUnlocked
  /-- `http_server_mutex_unlock` called by the task while it does not hold the mutex. -/
  | mutexUnlockedNotHeld
  | mutexUsedByHttpServer (active : Bool)
  | httpPostAdvs (reports : List AdvReport) (nonce : UInt32)
      (flagUseTimestamps flagPostToRuuvi : Bool) (started : Bool)
  | httpPostStat (reports : List AdvReport) (started : Bool)
  | httpAbort
  /-- A filled report buffer becomes `g_p_adv_post_reports_mqtt`. -/
  | mqttBuffer (reports : List AdvReport)
  | mqttPublish (report : AdvReport) (flagUseTimestamps : Bool) (timestamp : UInt32) (done : Bool)
  | mqttFree
  | signal (sig : Sig)
  | mainRestartServices
  | timer (timer : Timer) (op : TimerOp)
  | clearHttpRelayingCmd
  | networkTimeoutUpdate
  | sendNrfSettings
  | gatewayRestart (reason : String)
  | recvAdvTimeoutEvent
  | assertFailed
  deriving DecidableEq

/-- The part of the configuration that decides which advertisements are accepted. -/
structure CfgCache where
  flagUseNtp : Bool
  scanFilterAllowListed : Bool
  scanFilterMacs : Option (List MacAddressBin)
  deriving DecidableEq

structure World where
  state : AdvPostState
  nonce : UInt32
  action : Action
  mqttReports : Option (List AdvReport)
  mqttIdx : ℕ
  mqttTimestamp : UInt32
  statNonce : UInt32
  table : Table
  cfgCache : CfgCache
  /-- The task holds the mutex `g_http_server_mutex_incoming_connection`. -/
  mutexHeld : Bool
  log : List Effect

/-- The world after `adv_post_async_comm_init`, with the random first nonces. -/
def World.initial (nonce statNonce : UInt32) : World where
  state := AdvPostState.initial
  nonce := nonce
  action := .none
  mqttReports := none
  mqttIdx := 0
  mqttTimestamp := 0
  statNonce := statNonce
  table := advTableInit
  cfgCache := ⟨false, false, none⟩
  mutexHeld := false
  log := []

/-- The outcomes of the calls that the handling of one signal makes: the configuration
that it reads, and what the other parts of the firmware answer. Every call site of a
signal handler has a field of its own where the answers may differ. -/
structure Env where
  gwCfgGetHttpUseHttpRuuvi : Bool := false
  gwCfgGetHttpUseHttp : Bool := false
  gwCfgGetHttpStatUseHttpStat : Bool := false
  gwCfgGetMqttUseMqtt : Bool := false
  gwCfgGetMqttSendingInterval : ℕ := 0
  gwCfgGetMqttUseMqttOverSslOrWss : Bool := false
  gwCfgGetNtpUse : Bool := false
  gwCfgGetNtpUseOnPublish : Bool := false
  scanFilterAllowListed : Bool := false
  scanFilterList : List MacAddressBin := []
  scanFilterAllocated : Bool := true
  timeIsSynchronized : Bool := true
  time : UInt32 := 0
  /-- Another task holds the mutex of the HTTP server. -/
  httpServerMutexBusy : Bool := false
  reportsBufAllocated : Bool := true
  gwCfgGetHttpCopy : Bool := true
  httpPostAdvs : Bool := true
  gwCfgGetHttpStatCopy : Bool := true
  statReportsAllocated : Bool := true
  resetInfoGet : Bool := true
  statInfoGenerated : Bool := true
  httpPostStat : Bool := true
  httpAsyncPoll : Bool := true
  gwStatusIsMqttConnected : Bool := true
  mqttPublishAdv : Bool := true
  gwStatusIsRelayingViaHttpEnabled : Bool := true
  networkTimeoutCheck : Bool := false

def World.emit (w : World) (effect : Effect) : World := { w with log := effect :: w.log }

/-- `http_server_mutex_try_lock` on a mutex that is not recursive. -/
def httpServerMutexTryLock (w : World) (env : Env) : World × Bool :=
  if w.mutexHeld || env.httpServerMutexBusy then (w, false)
  else ({ w with mutexHeld := true }.emit .mutexLocked, true)

def httpServerMutexUnlock (w : World) : World :=
  if w.mutexHeld then { w with mutexHeld := false }.emit .mutexUnlocked
  else w.emit .mutexUnlockedNotHeld

end RuuviGateway.AdvPost
