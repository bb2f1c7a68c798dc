import RuuviGateway.AdvPost.State
import RuuviGateway.AdvTable.Representation
import RuuviGateway.Config.Events

/-!
# Receiving reports while the configuration changes

Reports of the nRF52 reach the advertisement table from one task, and the posting task keeps the
filter and the time mode that they are checked against in a cache of its own. The cache follows the
stored configuration by signals. Four tasks take their steps in any order: the main task, which
starts the store and switches the configuration mode, a task that applies an update, the posting
task, and the one that receives reports. A call that holds a mutex is one step as far as nobody can
see its parts.
-/

namespace RuuviGateway.AdvPost

open AdvTable Config General

variable {P : Platform}

/-- The signals about the configuration. -/
inductive CfgSig
  | gwCfgReady
  | gwCfgChangedRuuvi
  | bleScanChanged
  | cfgModeActivated
  | cfgModeDeactivated
  deriving DecidableEq, Repr

/-- `os_signal_num_get_next` goes by the number of the signal. -/
def CfgSig.ascending : List CfgSig :=
  [.gwCfgReady, .gwCfgChangedRuuvi, .bleScanChanged, .cfgModeActivated, .cfgModeDeactivated]

/-- The signals whose handlers call `adv_post_on_gw_cfg_change`. -/
def CfgSig.refreshes : CfgSig → Bool
  | .gwCfgReady | .gwCfgChangedRuuvi | .cfgModeDeactivated => true
  | .bleScanChanged | .cfgModeActivated => false

section Report

def advPostCheckIfMacFilteredOut (cache : CfgCache) (mac : MacAddressBin) : Bool :=
  match cache.scanFilterMacs with
  | none => false
  | some macs =>
      if macs.length = 0 then false
      else if cache.scanFilterAllowListed then !macs.contains mac
      else macs.contains mac

/-- Where a timestamp comes from. -/
inductive TimeSource
  | wallClock
  | notSynchronized
  | receptionCounter
  deriving DecidableEq, Repr

structure Timestamp where
  value : UInt32
  source : TimeSource
  deriving DecidableEq

/-- What `adv_post_send_report` reads of the clock: `time_is_synchronized()`, `time(NULL)` and
`metrics_received_advs_get()`. -/
structure Clock where
  timeIsSynchronized : Bool
  time : UInt32
  receivedAdvs : UInt32
  deriving DecidableEq

/-- The timestamp of a report received in the given time mode. -/
def Clock.timestamp (clock : Clock) (flagNtpUse : Bool) : Timestamp :=
  if flagNtpUse then
    if clock.timeIsSynchronized then ⟨clock.time, .wallClock⟩ else ⟨0, .notSynchronized⟩
  else ⟨clock.receivedAdvs, .receptionCounter⟩

/-- A report without its timestamp. A payload without data is refused. -/
structure ParsedReport where
  adv : AdvReport
  hasData : adv.dataLen ≠ 0

/-- How a report came into the table. -/
structure Origin where
  mac : MacAddressBin
  timestamp : Timestamp
  deriving DecidableEq

end Report

/-- How far `gw_cfg_set` has come. It notifies of the changes and stores them under
`g_gw_cfg_mutex`, but `g_gw_cfg_ready` is read without it. -/
inductive Setter (P : Platform)
  | free
  | notified (args : GivenSections P)
  | stored (wasReady : Bool)

/-- How far the main task has come in switching the configuration mode. -/
inductive MainStage
  | idle
  | activating
  | deactivating
  deriving DecidableEq, Repr

/-- Where the posting task is. -/
inductive Handling
  | waiting
  | next
  | start (sig : CfgSig)
  /-- `gw_cfg_get_ntp_use` has returned. -/
  | ntpRead (flagUseNtp : Bool)
  /-- The cache is locked and has the new time mode but no filter. -/
  | cacheLocked
  /-- The cache is locked and has the new filter. -/
  | filterRead
  | cacheUnlocked
  /-- `gateway_restart` never returns to this task, which still holds the lock. -/
  | restarting
  deriving DecidableEq, Repr

/-- The posting task holds the mutex of the cache. -/
def Handling.locksCache : Handling → Bool
  | .cacheLocked | .filterRead | .restarting => true
  | _ => false

/-- How far `adv_post_send_report` has come. -/
inductive Reception
  | idle
  | initialized (payload : Option ParsedReport)
  | locked (payload : Option ParsedReport)

structure Receiver (P : Platform) where
  /-- The store of the configuration while `g_gw_cfg_mutex` is not NULL. -/
  session : Option (GwCfgGlobals P)
  /-- `ruuvi_deinit_gw_cfg` has been called. -/
  deinitialized : Bool
  setter : Setter P
  /-- `EVENT_MGR_EV_GW_CFG_READY` has been notified. -/
  readyNotified : Bool
  cfgMode : Bool
  main : MainStage
  pending : CfgSig → Bool
  /-- The signals that `os_signal_wait_with_timeout` returned and that are still to be handled. -/
  batch : CfgSig → Bool
  handling : Handling
  cache : CfgCache
  reception : Reception
  table : Table
  /-- The reports accepted since the table was last cleared. -/
  origins : List Origin

/-- The tasks have been started and no configuration has been read yet. -/
def Receiver.initial : Receiver P where
  session := none
  deinitialized := false
  setter := .free
  readyNotified := false
  cfgMode := false
  main := .idle
  pending := fun _ => false
  batch := fun _ => false
  handling := .waiting
  cache := ⟨false, false, none⟩
  reception := .idle
  table := advTableInit
  origins := []

inductive ReceiverLabel (P : Platform)
  | gwCfgInit
  | gwCfgDeinit
  | setNotify (args : GivenSections P)
  | setStore
  | setFinish
  | updateFwUpdateUrl (url : Bytes)
  | setCfgMode
  | notifyActivated
  | clearCfgMode
  | notifyDeactivated
  | bleScanChanged
  | takeSignals
  /-- The next step of the posting task, and whether it gets the memory for a filter. -/
  | advPost (allocated : Bool)
  | receive (payload : Option ParsedReport)
  | tryLockCache
  | putReport (clock : Clock)
  /-- The table as the senders, the HTTP server and the other signals use it. -/
  | useTable (op : Op)

namespace Receiver

variable (s : Receiver P)

/-- `event_mgr_notify` for an event that the posting task has subscribed to. -/
def raise (sig : CfgSig) : Receiver P :=
  { s with pending := Function.update s.pending sig true }

/-- `gw_cfg_is_initialized`, which does not lock the mutex. -/
def gwCfgIsInitialized : Bool := s.session.any fun g => g.gwCfgReady

/-- The store as a task that locks `g_gw_cfg_mutex` finds it. -/
def lockRo : Option (GwCfgGlobals P) :=
  match s.setter with
  | .free => s.session
  | _ => none

section Store

/-- The first session has no callback, the one after `ruuvi_deinit_gw_cfg` has. -/
def gwCfgInit (default : GwCfg P) : Option (Receiver P) :=
  match s.session with
  | none => some { s with session := some (Config.gwCfgInit default s.deinitialized) }
  | some _ => none

def gwCfgDeinit : Option (Receiver P) :=
  if s.deinitialized then none
  else s.lockRo.map fun _ => { s with session := none, deinitialized := true }

def setNotify (args : GivenSections P) : Option (Receiver P) :=
  s.lockRo.map fun g =>
    let s := { s with setter := .notified args }
    if .gwCfgChangedRuuvi ∈ changedEvents g args then s.raise .gwCfgChangedRuuvi else s

def setStore : Option (Receiver P) :=
  match s.setter with
  | .notified args =>
      s.session.map fun g =>
        { s with session := some (g.set args).1, setter := .stored g.gwCfgReady }
  | _ => none

def setFinish : Option (Receiver P) :=
  match s.setter with
  | .stored wasReady =>
      s.session.map fun g =>
        let s := { s with setter := .free }
        if !wasReady && g.cbOnChangeCfg then { s.raise .gwCfgReady with readyNotified := true }
        else s
  | _ => none

def updateFwUpdateUrl (url : Bytes) : Option (Receiver P) :=
  s.lockRo.map fun g => { s with session := some (g.updateFwUpdateUrl url).1 }

end Store

section Mode

/-- `main_task_handle_sig_activate_cfg_mode` up to `gw_status_set_cfg_mode`. -/
def setCfgMode : Option (Receiver P) :=
  if s.main = .idle ∧ s.cfgMode = false then
    some { s with cfgMode := true, main := .activating }
  else none

def notifyActivated : Option (Receiver P) :=
  if s.main = .activating then some ({ s with main := .idle }.raise .cfgModeActivated) else none

/-- `main_task_handle_sig_deactivate_cfg_mode` up to `gw_status_clear_cfg_mode`, after which the
access point is stopped and the network is started. -/
def clearCfgMode : Option (Receiver P) :=
  s.lockRo.bind fun g =>
    if s.main = .idle ∧ s.cfgMode = true ∧ g.gwCfgIsEmpty = false then
      some { s with cfgMode := false, main := .deactivating }
    else none

def notifyDeactivated : Option (Receiver P) :=
  if s.main = .deactivating then some ({ s with main := .idle }.raise .cfgModeDeactivated)
  else none

end Mode

section Posting

def takeSignals : Option (Receiver P) :=
  if s.handling = .waiting then
    some { s with batch := s.pending, pending := fun _ => false, handling := .next }
  else none

/-- The cache after `adv_post_on_gw_cfg_change_handle_scan_filter` on a cache without a filter, and
whether the memory was there. -/
def handleScanFilter (cache : CfgCache) (filter : GwCfgScanFilter) (allocated : Bool) :
    CfgCache × Bool :=
  let cache := { cache with scanFilterAllowListed := filter.scanFilterAllowListed }
  if filter.scanFilterLength ≠ 0 then
    if !allocated then (cache, false)
    else ({ cache with scanFilterMacs := some filter.addresses }, true)
  else (cache, true)

/-- The reception task holds the mutex of the cache. -/
def receptionLocksCache : Bool :=
  match s.reception with
  | .locked _ => true
  | _ => false

/-- The posting task takes the next signal of its batch, or does the next part of a handler. -/
def advPost (allocated : Bool) : Option (Receiver P) :=
  match s.handling with
  | .waiting | .restarting => none
  | .next =>
      match CfgSig.ascending.find? s.batch with
      | none => some { s with handling := .waiting }
      | some sig =>
          some { s with batch := Function.update s.batch sig false, handling := .start sig }
  | .start .bleScanChanged => some { s with handling := .cacheUnlocked }
  | .start .cfgModeActivated =>
      if s.receptionLocksCache then none
      else some { s with
        cache := { s.cache with scanFilterMacs := none }
        handling := .cacheUnlocked }
  | .start _ =>
      s.lockRo.map fun g => { s with handling := .ntpRead g.gatewayConfig.ruuviCfg.ntp.ntpUse }
  | .ntpRead flagUseNtp =>
      if s.receptionLocksCache then none
      else some { s with
        cache := { s.cache with flagUseNtp := flagUseNtp, scanFilterMacs := none }
        handling := .cacheLocked }
  | .cacheLocked =>
      s.lockRo.map fun g =>
        let r := handleScanFilter s.cache g.gatewayConfig.ruuviCfg.scanFilter allocated
        { s with cache := r.1, handling := if r.2 then .filterRead else .restarting }
  | .filterRead => some { s with handling := .cacheUnlocked }
  | .cacheUnlocked =>
      some { s with table := advTableClear s.table, origins := [], handling := .next }

end Posting

section Reception

/-- `adv_post_send_report` drops a report as long as there is no configuration, ... -/
def receive (payload : Option ParsedReport) : Option (Receiver P) :=
  match s.reception with
  | .idle =>
      some (if s.gwCfgIsInitialized then { s with reception := .initialized payload } else s)
  | _ => none

/-- ... and while the posting task changes the cache, ... -/
def tryLockCache : Option (Receiver P) :=
  match s.reception with
  | .initialized payload =>
      some { s with reception := if s.handling.locksCache then .idle else .locked payload }
  | _ => none

/-- ... and what cannot be parsed, is filtered out or has no valid time. -/
def putReport (clock : Clock) : Option (Receiver P) :=
  match s.reception with
  | .locked none => some { s with reception := .idle }
  | .locked (some report) =>
      let timestamp := clock.timestamp s.cache.flagUseNtp
      let s := { s with reception := .idle }
      if advPostCheckIfMacFilteredOut s.cache report.adv.tagMac then some s
      else if s.cache.flagUseNtp && !clock.timeIsSynchronized then some s
      else
        let r := advTablePut s.table { report.adv with timestamp := timestamp.value }
        some { s with
          table := r.1
          origins := if r.2 then ⟨report.adv.tagMac, timestamp⟩ :: s.origins else s.origins }
  | _ => none

/-- Nobody else puts reports into the table. -/
def useTable : Op → Option (Receiver P)
  | .put _ _ => none
  | .clear => some { s with table := advTableClear s.table, origins := [] }
  | op => some { s with table := (op.apply s.table).1 }

end Reception

def next (default : GwCfg P) : ReceiverLabel P → Option (Receiver P)
  | .gwCfgInit => s.gwCfgInit default
  | .gwCfgDeinit => s.gwCfgDeinit
  | .setNotify args => s.setNotify args
  | .setStore => s.setStore
  | .setFinish => s.setFinish
  | .updateFwUpdateUrl url => s.updateFwUpdateUrl url
  | .setCfgMode => s.setCfgMode
  | .notifyActivated => s.notifyActivated
  | .clearCfgMode => s.clearCfgMode
  | .notifyDeactivated => s.notifyDeactivated
  | .bleScanChanged => some (s.raise .bleScanChanged)
  | .takeSignals => s.takeSignals
  | .advPost allocated => s.advPost allocated
  | .receive payload => s.receive payload
  | .tryLockCache => s.tryLockCache
  | .putReport clock => s.putReport clock
  | .useTable op => s.useTable op

end Receiver

/-- Receiving reports, with the configuration that `gw_cfg_default_get` yields. -/
def receiving (default : GwCfg P) : System (Receiver P) (ReceiverLabel P) Unit where
  init := .initial
  step s label := (s.next default label).map fun s' => (s', ())

end RuuviGateway.AdvPost
