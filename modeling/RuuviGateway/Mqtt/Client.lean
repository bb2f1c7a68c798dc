import RuuviGateway.Config.Types
import RuuviGateway.General.Ledger
import RuuviGateway.General.Transition

/-!
# The MQTT client

The client is started and stopped under a mutex, in sections between which the task of the client
delivers events. The connected event is handled by another task, after the mutex has been free.
-/

namespace RuuviGateway.Mqtt

open General Config

section State

abbrev mqttQos : ℕ := 0

inductive ObjKind
  | client
  | config
  | cert
  deriving DecidableEq, Repr

/-- The outcomes of the calls that `mqtt_app_start` makes. -/
structure StartOutcome where
  clientCertRead : Bool
  clientKeyRead : Bool
  serverCertRead : Bool
  cliCfgAllocated : Bool
  clientInit : Bool
  clientStart : Bool
  deriving DecidableEq

/-- Where the task stands that has the mutex. -/
inductive Phase
  | free
  | start (cfg : GwCfgMqtt) (o : StartOutcome)
  /-- Before `esp_mqtt_client_init`. -/
  | init (cliCfg : Option ℕ) (o : StartOutcome)
  /-- Before `esp_mqtt_client_start`. -/
  | clientStart (cliCfg : Option ℕ) (o : StartOutcome)
  | stop
  /-- Before `esp_mqtt_client_destroy`. -/
  | destroy

/-- What the `adv_mqtt` task does. -/
inductive AdvMqtt
  | idle
  /-- About to call `mqtt_publish_connect`. -/
  | connected
  /-- About to call `mqtt_publish_adv`. -/
  | publish
  deriving DecidableEq

structure MqttData where
  mqttClient : Option ℕ
  strBufServerCertMqtt : Option ℕ
  strBufClientCert : Option ℕ
  strBufClientKey : Option ℕ

structure World where
  data : MqttData
  phase : Phase
  mqttStarted : Bool
  mqttConnected : Bool
  /-- `ADV_MQTT_SIG_MQTT_CONNECTED` is pending. -/
  sigConnected : Bool
  advMqtt : AdvMqtt
  ledger : Ledger ObjKind

def World.initial : World where
  data := ⟨none, none, none, none⟩
  phase := .free
  mqttStarted := false
  mqttConnected := false
  sigConnected := false
  advMqtt := .idle
  ledger := .empty

/-- The calls of the client library that need an argument that is not NULL, with this argument. -/
inductive EspMqttCall
  | init (config : Option ℕ)
  | start (client : Option ℕ)
  | destroy (client : Option ℕ)
  | publish (client : Option ℕ)
  | getOutboxSize (client : Option ℕ)
  deriving DecidableEq

def EspMqttCall.arg : EspMqttCall → Option ℕ
  | .init config => config
  | .start client => client
  | .destroy client => client
  | .publish client => client
  | .getOutboxSize client => client

end State

section Status

variable (w : World)

def gwStatusSetMqttConnected : World := { w with mqttConnected := true }

def gwStatusClearMqttConnected : World := { w with mqttConnected := false }

/-- The bits of the error are not read by the client. -/
def gwStatusSetMqttError : World := { w with mqttConnected := false }

def gwStatusClearMqttConnectedAndError : World := { w with mqttConnected := false }

def gwStatusSetMqttStarted : World := { w with mqttStarted := true }

def gwStatusClearMqttStarted : World := { w with mqttStarted := false }

end Status

section Memory

variable (w : World)

def World.obtain (kind : ObjKind) (success : Bool) : Option ℕ × World :=
  let r := w.ledger.obtain kind success
  (r.1, { w with ledger := r.2 })

def World.release (kind : ObjKind) (p : Option ℕ) : World :=
  { w with ledger := w.ledger.release kind p }

def World.unlock : World := { w with phase := .free }

def MqttData.noBufs (data : MqttData) : MqttData :=
  { data with strBufServerCertMqtt := none, strBufClientCert := none, strBufClientKey := none }

/-- What the pointers to the buffers hold is freed. -/
def World.freeBufs : World :=
  { ((w.release .cert w.data.strBufServerCertMqtt).release .cert w.data.strBufClientCert).release
      .cert w.data.strBufClientKey with data := w.data.noBufs }

end Memory

section Start

/-- The pointers to the buffers are overwritten, and the buffers are read. -/
def readBufs (cfg : GwCfgMqtt) (o : StartOutcome) (w : World) : World :=
  let (clientCert, w) := w.obtain .cert (cfg.useSslClientCert && o.clientCertRead)
  let (clientKey, w) := w.obtain .cert (cfg.useSslClientCert && o.clientKeyRead)
  let (serverCert, w) := w.obtain .cert (cfg.useSslServerCert && o.serverCertRead)
  { w with data := ⟨w.data.mqttClient, serverCert, clientCert, clientKey⟩ }

def mqttCreateClientConfig (o : StartOutcome) (w : World) : Option ℕ × World :=
  w.obtain .config o.cliCfgAllocated

/-- `mqtt_app_start_internal` up to the call of `esp_mqtt_client_init`. The check for NULL behind
`mqtt_create_client_config` is of another pointer. -/
def mqttAppStartInternal (cfg : GwCfgMqtt) (o : StartOutcome) (w : World) : World :=
  let w := readBufs cfg o (gwStatusClearMqttConnectedAndError w)
  if cfg.mqttServer.val = [] ∨ cfg.mqttPort = 0 then (gwStatusSetMqttError w).unlock
  else
    let (cliCfg, w) := mqttCreateClientConfig o w
    { w with phase := .init cliCfg o }

def mqttAppStart (cfg : GwCfgMqtt) (o : StartOutcome) (w : World) : World × List EspMqttCall :=
  if w.data.mqttClient.isSome then (w.unlock, []) else (mqttAppStartInternal cfg o w, [])

/-- The first call of `mqtt_app_start_internal2`. -/
def clientInit (cliCfg : Option ℕ) (o : StartOutcome) (w : World) : World × List EspMqttCall :=
  let (client, w) := w.obtain .client o.clientInit
  let w := { w with data := { w.data with mqttClient := client } }
  if client.isNone then ((w.release .config cliCfg).unlock, [.init cliCfg])
  else ({ w with phase := .clientStart cliCfg o }, [.init cliCfg])

/-- The second one, and the end of `mqtt_app_start`. -/
def clientStart (cliCfg : Option ℕ) (o : StartOutcome) (w : World) : World × List EspMqttCall :=
  let client := w.data.mqttClient
  if o.clientStart then
    (((gwStatusSetMqttStarted w).release .config cliCfg).unlock, [.start client])
  else
    let w := { w.release .client client with data := { w.data with mqttClient := none } }
    ((w.release .config cliCfg).unlock, [.start client, .destroy client])

end Start

section Stop

/-- The end of `mqtt_app_stop`. -/
def stopEnd (w : World) : World :=
  (gwStatusClearMqttStarted (gwStatusClearMqttConnectedAndError w)).freeBufs.unlock

def mqttAppStop (w : World) : World × List EspMqttCall :=
  if w.data.mqttClient.isSome then
    ({ w with phase := .destroy }, if w.mqttConnected then [.publish w.data.mqttClient] else [])
  else (stopEnd w, [])

def clientDestroy (w : World) : World × List EspMqttCall :=
  let client := w.data.mqttClient
  (stopEnd { w.release .client client with data := { w.data with mqttClient := none } },
    [.destroy client])

end Stop

section Publish

variable (w : World)

/-- The outbox is asked for if messages are acknowledged. -/
def mqttIsBufferAvailableForPublish (outboxFits : Bool) : Bool × List EspMqttCall :=
  if mqttQos = 0 then (true, []) else (outboxFits, [.getOutboxSize w.data.mqttClient])

/-- What a publication depends on: the JSON string, and the length of the message. -/
structure Message where
  jsonCreated : Bool
  fits : Bool
  deriving DecidableEq

def mqttPublishAdv (msg : Message) : List EspMqttCall :=
  if !msg.jsonCreated then []
  else if w.data.mqttClient.isNone then []
  else if !msg.fits then []
  else [.publish w.data.mqttClient]

def mqttPublishConnect : List EspMqttCall := [.publish w.data.mqttClient]

end Publish

section Steps

inductive MqttEvent
  | connected
  | disconnected
  | error

def mqttEventHandler (w : World) : MqttEvent → World
  | .connected => { gwStatusSetMqttConnected w with sigConnected := true }
  | .disconnected => gwStatusClearMqttConnected w
  | .error => gwStatusSetMqttError w

/-- What the handler of `ADV_MQTT_SIG_ON_RECV_ADV` finds. -/
structure RecvAdv where
  relayingViaMqttEnabled : Bool
  mqttInstantModeActive : Bool
  outboxFits : Bool
  reportRead : Bool

/-- `adv_mqtt_handle_sig_recv_adv` up to the call of `mqtt_publish_adv`. -/
def advMqttHandleSigRecvAdv (r : RecvAdv) (w : World) : World × List EspMqttCall :=
  if !w.mqttConnected || !r.relayingViaMqttEnabled then (w, [])
  else if !r.mqttInstantModeActive then (w, [])
  else
    let (available, calls) := mqttIsBufferAvailableForPublish w r.outboxFits
    if available && r.reportRead then ({ w with advMqtt := .publish }, calls) else (w, calls)

inductive Label
  | mqttAppStart (cfg : GwCfgMqtt) (o : StartOutcome)
  /-- `mqtt_app_start_with_gw_cfg` cannot copy the configuration. -/
  | startWithoutCfg
  | mqttAppStop
  /-- The task that has the mutex goes on. -/
  | goOn
  | event (ev : MqttEvent)
  /-- The `adv_mqtt` task takes the signal `ADV_MQTT_SIG_MQTT_CONNECTED`. -/
  | takeConnected
  | recvAdv (r : RecvAdv)
  /-- The `adv_mqtt` task gets the mutex for what it is about to publish. -/
  | advMqttPublish (msg : Message)
  /-- The `adv_post` task publishes. -/
  | advPostPublish (msg : Message)

/-- The next section of the task that has the mutex. -/
def World.goOn (w : World) : Option (World × List EspMqttCall) :=
  match w.phase with
  | .free => none
  | .start cfg o => some (mqttAppStart cfg o w)
  | .init cliCfg o => some (clientInit cliCfg o w)
  | .clientStart cliCfg o => some (clientStart cliCfg o w)
  | .stop => some (mqttAppStop w)
  | .destroy => some (clientDestroy w)

/-- A task that needs the mutex takes it when it is free. -/
def World.lock (w : World) (phase : Phase) : Option (World × List EspMqttCall) :=
  match w.phase with
  | .free => some ({ w with phase := phase }, [])
  | _ => none

/-- A publication, for which the mutex is taken and given back. -/
def World.publish (w : World) (calls : List EspMqttCall) (advMqtt : AdvMqtt) :
    Option (World × List EspMqttCall) :=
  match w.phase with
  | .free => some ({ w with advMqtt := advMqtt }, calls)
  | _ => none

def World.advMqttPublish (w : World) (msg : Message) : Option (World × List EspMqttCall) :=
  match w.advMqtt with
  | .idle => none
  | .connected => w.publish (mqttPublishConnect w) .idle
  | .publish => w.publish (mqttPublishAdv w msg) .idle

def World.step (w : World) : Label → Option (World × List EspMqttCall)
  | .mqttAppStart cfg o => w.lock (.start cfg o)
  | .startWithoutCfg => some (gwStatusSetMqttError w, [])
  | .mqttAppStop => w.lock .stop
  | .goOn => w.goOn
  | .event ev => if w.data.mqttClient.isSome then some (mqttEventHandler w ev, []) else none
  | .takeConnected =>
      if w.advMqtt = .idle ∧ w.sigConnected then
        some ({ w with sigConnected := false, advMqtt := .connected }, [])
      else none
  | .recvAdv r => if w.advMqtt = .idle then some (advMqttHandleSigRecvAdv r w) else none
  | .advMqttPublish msg => w.advMqttPublish msg
  | .advPostPublish msg => w.publish (mqttPublishAdv w msg) w.advMqtt

/-- The tasks in any order. -/
def mqttTasks : System World Label (List EspMqttCall) where
  init := .initial
  step := World.step

end Steps

end RuuviGateway.Mqtt
