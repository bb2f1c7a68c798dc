import RuuviGateway.AdvPost.Signals
import RuuviGateway.Relaying.Status

/-!
# The threads that take part in suspending relaying

Any number of calls, the posting task and the main task run interleaved. Both tasks take
their pending signals in batches, so two signals of one kind that arrive between two
batches are handled once. The posting task is the one of `AdvPost.Signals`, with its handler of
`RELAYING_MODE_CHANGED` cut at every access to the shared status.
-/

namespace RuuviGateway.Relaying

open AdvPost General

/-- Where the posting task stands. -/
inductive AdvPostPc
  | idle
  /-- `gw_status_is_relaying_via_http_enabled` has returned. -/
  | sampled (enabled : Bool)
  /-- The flag has been stored. -/
  | stored
  /-- A transfer in progress has been aborted if relaying is disabled. -/
  | aborted
  deriving DecidableEq, Repr

/-- Where the main task stands. -/
inductive MainPc
  /-- Before the loop, where `main_loop` starts the MQTT client if it is in use. -/
  | boot
  | idle
  /-- In `main_task_handle_sig_relaying_mode_changed`. -/
  | relayingStart
  | relayingStop
  /-- About to clear the command bit, after `mqtt_app_stop` or without it. -/
  | relayingClear (stopped : Bool)
  /-- In `main_task_handle_sig_restart_services`. -/
  | restartStop
  | restartSample
  | restartStart
  deriving DecidableEq, Repr

structure World where
  status : Status
  calls : List Call
  /-- `RELAYING_MODE_CHANGED` is pending for a task. -/
  pending : Subscriber → Bool
  /-- It is in the batch of signals that the task has taken. -/
  batch : Subscriber → Bool
  advPost : AdvPost.World
  advPostPc : AdvPostPc
  mqttClient : Bool
  mqttStarted : Bool
  mainPc : MainPc

def World.initial (nonce statNonce : UInt32) : World where
  status := gwStatusInit
  calls := []
  pending := fun _ => false
  batch := fun _ => false
  advPost := AdvPost.World.initial nonce statNonce
  advPostPc := .idle
  mqttClient := false
  mqttStarted := false
  mainPc := .boot

/-- The outcomes of the calls that a step of the main task makes. -/
structure MainEnv where
  gwCfgGetMqttUseMqtt : Bool := true
  /-- The configuration is complete and `esp_mqtt_client_start` succeeds. -/
  mqttClientStarts : Bool := true

section Mqtt

/-- `mqtt_app_start_with_gw_cfg`. A client that is already running stays as it is. -/
def mqttAppStartWithGwCfg (w : World) (env : MainEnv) : World :=
  if w.mqttClient then w
  else if env.mqttClientStarts then { w with mqttClient := true, mqttStarted := true }
  else w

def mqttAppStop (w : World) : World := { w with mqttClient := false, mqttStarted := false }

end Mqtt

section Tasks

/-- `os_signal_wait_with_timeout`: a task takes all its pending signals. -/
def World.takeSignals (w : World) (task : Subscriber) : World :=
  { w with
    batch := fun t => if t = task then w.pending task else w.batch t
    pending := fun t => if t = task then false else w.pending t }

/-- The task has taken `RELAYING_MODE_CHANGED` out of its batch. -/
def World.handled (w : World) (task : Subscriber) : World :=
  { w with batch := fun t => if t = task then false else w.batch t }

def World.signal (w : World) (task : Subscriber) : World :=
  { w with pending := fun t => if t = task then true else w.pending t }

/-- The next step of `adv_post_handle_sig_relaying_mode_changed`. -/
def advPostRelayingStep (w : World) : Option World :=
  match w.advPostPc with
  | .idle =>
      if w.batch .advPost && !w.advPost.state.flagStop then
        some { w.handled .advPost with advPostPc := .sampled (w.status.isRelayingEnabled .http) }
      else none
  | .sampled enabled =>
      let env : Env := { gwStatusIsRelayingViaHttpEnabled := enabled }
      some { w with advPost := advPostSampleRelaying w.advPost env, advPostPc := .stored }
  | .stored => some { w with advPost := advPostAbortTransfer w.advPost, advPostPc := .aborted }
  | .aborted =>
      some { w with
        advPost := w.advPost.emit .clearHttpRelayingCmd
        status := w.status.clearCmd .http
        advPostPc := .idle }

/-- The handlers of the other signals run between two signals of the batch. -/
def advPostSignalStep (w : World) (sig : Sig) (env : Env) : Option World :=
  if w.advPostPc = .idle ∧ sig ≠ .relayingModeChanged ∧ w.advPost.state.flagStop = false then
    some { w with advPost := advPostHandleSig sig w.advPost env }
  else none

/-- The first step of `main_task_handle_sig_relaying_mode_changed`, up to its choice. -/
def mainRelayingChoice (w : World) (env : MainEnv) : MainPc :=
  if env.gwCfgGetMqttUseMqtt then
    if w.status.isRelayingEnabled .mqtt then
      if !w.mqttStarted then .relayingStart else .relayingClear false
    else .relayingStop
  else .relayingStop

/-- The next step of the main task; in its loop it takes up `RELAYING_MODE_CHANGED`. -/
def mainStep (w : World) (env : MainEnv) : Option World :=
  match w.mainPc with
  | .boot =>
      let w := if env.gwCfgGetMqttUseMqtt then mqttAppStartWithGwCfg w env else w
      some { w with mainPc := .idle }
  | .idle =>
      if w.batch .main then some { w.handled .main with mainPc := mainRelayingChoice w env }
      else none
  | .relayingStart => some { mqttAppStartWithGwCfg w env with mainPc := .relayingClear false }
  | .relayingStop => some { mqttAppStop w with mainPc := .relayingClear true }
  | .relayingClear _ => some { w with status := w.status.clearCmd .mqtt, mainPc := .idle }
  | .restartStop => some { mqttAppStop w with mainPc := .restartSample }
  | .restartSample =>
      if env.gwCfgGetMqttUseMqtt && w.status.isRelayingEnabled .mqtt then
        some { w with mainPc := .restartStart }
      else some { w with mainPc := .idle }
  | .restartStart => some { mqttAppStartWithGwCfg w env with mainPc := .idle }

end Tasks

/-- What one of the threads does. -/
inductive Label
  | suspend (scope : Scope) (flagWait : Bool)
  /-- A resume that matches the suspension with the given number. -/
  | resume (suspension : ℕ) (flagWait : Bool)
  | call (i : ℕ) (event : CallEvent)
  | takeSignals (task : Subscriber)
  | advPostRelaying
  | advPostSignal (sig : Sig) (env : Env)
  | table (op : AdvTable.Op)
  | main (env : MainEnv)
  | mainRestartServices

def suspendStep (w : World) (scope : Scope) (flagWait : Bool) : Option World :=
  if scope.fits w.status then
    let r := scope.suspend w.status
    some { w with status := r.1, calls := w.calls ++ [.enter .suspend scope flagWait r.2] }
  else none

/-- A suspension has one matching resume, with the same scope. -/
def resumeStep (w : World) (suspension : ℕ) (flagWait : Bool) : Option World :=
  match w.calls[suspension]? with
  | some c =>
      if c.op = .suspend ∧ c.resumed = false then
        let r := c.scope.resume w.status
        some { w with
          status := r.1
          calls := w.calls.set suspension { c with resumed := true } ++
            [.enter .resume c.scope flagWait r.2] }
      else none
  | none => none

def callStep (w : World) (i : ℕ) (event : CallEvent) : Option World :=
  (w.calls[i]?).bind fun c =>
    (c.step w.status event).map fun r =>
      let w := { w with status := r.2.1, calls := w.calls.set i r.1 }
      r.2.2.elim w w.signal

/-- A task waits for signals when it has handled the last batch. -/
def takeSignalsStep (w : World) (task : Subscriber) : Option World :=
  let idle : Bool := match task with
    | .advPost => decide (w.advPostPc = .idle)
    | .main => decide (w.mainPc = .idle)
  if idle && !w.batch task then some (w.takeSignals task) else none

def step (w : World) : Label → Option World
  | .suspend scope flagWait => suspendStep w scope flagWait
  | .resume suspension flagWait => resumeStep w suspension flagWait
  | .call i event => callStep w i event
  | .takeSignals task => takeSignalsStep w task
  | .advPostRelaying => advPostRelayingStep w
  | .advPostSignal sig env => advPostSignalStep w sig env
  | .table op => some { w with advPost := { w.advPost with table := (op.apply w.advPost.table).1 } }
  | .main env => mainStep w env
  | .mainRestartServices =>
      if w.mainPc = .idle then some { w with mainPc := .restartStop } else none

/-- All threads together. -/
def relaying (nonce statNonce : UInt32) : System World Label Unit where
  init := World.initial nonce statNonce
  step w label := (step w label).map fun w' => (w', ())

end RuuviGateway.Relaying
