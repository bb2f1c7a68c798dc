import RuuviGateway.FwUpdate.ReleaseInfo
import RuuviGateway.Http.RemoteCfg
import RuuviGateway.Http.Senders

/-!
# Checking what the user has typed in

`validate_url` checks a URL with the credentials of a query string while relaying is suspended. The
checks that send a request are those of the HTTP client; the others download something.
-/

namespace RuuviGateway.Http

open Config FwUpdate General General.Bracketed Relaying

variable {P : Platform}

section Query

/-- The rest of the text from the first occurrence on. -/
def strstr (needle : Bytes) : Bytes → Option Bytes
  | [] => if needle = [] then some [] else none
  | b :: s => if needle.isPrefixOf (b :: s) then some (b :: s) else strstr needle s

/-- The value of a key up to the next `&`. -/
def httpServerGetFromParams (params key : Bytes) : Option Bytes :=
  (strstr key params).map fun s => (s.drop key.length).takeWhile (· ≠ 0x26)

/-- `strncmp(value, s, val_len)` is zero if the value begins `s`. -/
def isParamSet (params key : Bytes) : Bool :=
  (httpServerGetFromParams params key).any fun value => value.isPrefixOf (ascii "true")

inductive ValidateUrlType
  | invalid
  | postAdvs
  | postStat
  | checkMqtt
  | checkRemoteCfg
  | checkFwUpdateUrl
  | checkFile
  deriving DecidableEq, Repr

def validateUrlGetValidateTypeFromParams (params : Bytes) : ValidateUrlType :=
  match httpServerGetFromParams params (ascii "validate_type=") with
  | none => .invalid
  | some value =>
    if value.isPrefixOf (ascii "check_post_advs") then .postAdvs
    else if value.isPrefixOf (ascii "check_post_stat") then .postStat
    else if value.isPrefixOf (ascii "check_mqtt") then .checkMqtt
    else if value.isPrefixOf (ascii "check_remote_cfg") then .checkRemoteCfg
    else if value.isPrefixOf (ascii "check_fw_update_url") then .checkFwUpdateUrl
    else if value.isPrefixOf (ascii "check_file") then .checkFile
    else .invalid

/-- The functions that a query string is read with, with the memory that they need. -/
structure QueryReader where
  /-- The allocation of a value and `url_decode_with_alloc`, for the value of a key. -/
  decode : Bytes → Bytes → Option Bytes
  /-- `http_server_decrypt_by_params`. -/
  decrypt : Bytes → Bytes → Bytes → Option Bytes

def QueryReader.getWithDecoding (q : QueryReader) (params key : Bytes) : Option Bytes :=
  (httpServerGetFromParams params key).bind (q.decode key)

def validateUrlGetBoolFromParams (q : QueryReader) (params key : Bytes) : Bool :=
  q.getWithDecoding params key == some (ascii "true")

def validateUrlGetPasswordFromParams (q : QueryReader) (params : Bytes) : Option Bytes := do
  let password ← q.getWithDecoding params (ascii "encrypted_password=")
  let iv ← q.getWithDecoding params (ascii "encrypted_password_iv=")
  let hash ← q.getWithDecoding params (ascii "encrypted_password_hash=")
  q.decrypt password iv hash

def validateUrlGetAuthType (q : QueryReader) (params : Bytes) : Option HttpAuthType :=
  (q.getWithDecoding params (ascii "auth_type=")).bind fun s =>
    if s = ascii "none" then some .none
    else if s = ascii "basic" then some .basic
    else if s = ascii "bearer" then some .bearer
    else if s = ascii "token" then some .token
    else if s = ascii "api_key" then some .apikey
    else none

structure ValidateUrlParams where
  url : Bytes
  user : Option Bytes
  password : Option Bytes
  authType : HttpAuthType
  flagUseSavedPassword : Bool
  useSslClientCert : Bool
  useSslServerCert : Bool

end Query

section Mqtt

def indexOf (needle s : Bytes) : Option ℕ :=
  (strstr needle s).map fun rest => s.length - rest.length

def mqttTransportOf (prefixText : Bytes) : Option Bytes :=
  if prefixText = ascii "mqtt://" then some (ascii "TCP")
  else if prefixText = ascii "mqtts://" then some (ascii "SSL")
  else if prefixText = ascii "mqttws://" then some (ascii "WS")
  else if prefixText = ascii "mqttwss://" then some (ascii "WSS")
  else none

def mqttUrlPrefixLen : ℕ := 20

/-- `validate_url_parse_mqtt_url`: the transport, the server and the port. -/
def validateUrlParseMqttUrl (P : Platform) (url : Bytes) : Option (Bytes × Bytes × UInt16) := do
  let separator ← indexOf (ascii "://") url
  let transport ← mqttTransportOf ((url.take (separator + 3)).take (mqttUrlPrefixLen - 1))
  let server := url.drop (separator + 3)
  let serverLen ← indexOf (ascii ":") server
  if gwCfgMaxMqttServerLen ≤ serverLen then failure
  let (port, rest) := P.osStrToUint32Cptr (server.drop (serverLen + 1)) 10
  if rest ≠ [] then failure
  if port = 0 ∨ 0xffff < port then failure
  pure (transport, server.take serverLen, port.toUInt16)

inductive MqttError
  | none
  | dns
  | auth
  | connect
  deriving DecidableEq, Repr

def mqttCheckRespCode (connected : Bool) (error : MqttError) : ℕ :=
  if connected then 200 else match error with
    | .none | .dns | .connect => 502
    | .auth => 401

end Mqtt

section Checks

/-- What the checks depend on. -/
structure ValidateUrlOutcome where
  query : QueryReader
  /-- `http_parser_parse_url` and the memory for it. -/
  urlAccepted : Bool
  /-- The copy of the saved password. -/
  savedPassword : Option Bytes
  postAdvs : CheckOutcome AdvsOutcome
  postStat : CheckOutcome CheckStatOutcome
  mqttCfgAllocated : Bool
  mqttConnected : Bool
  mqttError : MqttError
  remoteCfg : RemoteCfgOutcome
  /-- What the memory of the saved settings holds after it has been freed. -/
  freedPassword : Bytes
  checkedRemoteAllocated : Bool
  releaseInfo : DownloadOutcome Bool
  releaseInfoCopyAllocated : Bool
  files : String → CheckFileOutcome
  authAllocated : Bool
  file : DownloadOutcome Unit

/-- The response, and the state of the HTTP client after the request. -/
abbrev CheckResult := CheckResp × World

variable (osStrToUint32Cptr : Bytes → ℕ → UInt32 × ℕ) (p : ValidateUrlParams)
  (o : ValidateUrlOutcome) (w : World)

def ValidateUrlParams.checkedWith (user pass : Option Bytes) : HttpCheckParams :=
  ⟨some p.url, p.authType, user, pass, p.useSslClientCert, p.useSslServerCert⟩

/-- The password that is checked: the saved one, if the request says so. -/
def ValidateUrlParams.pass (saved : Option Bytes) : Option Bytes :=
  if p.flagUseSavedPassword then saved else p.password

def validateUrlPostAdvs : Request CheckResult :=
  if !o.urlAccepted then pure (.status 400, w)
  else match o.savedPassword with
    | none => pure (.err 500, w)
    | some saved =>
      ofOption (httpCheckPostAdvs osStrToUint32Cptr httpServerTask
        (p.checkedWith p.user (p.pass (some saved))) o.postAdvs w)

/-- A text that is not used without authorization. -/
def unlessNone (authType : HttpAuthType) (s : Option Bytes) : Option Bytes :=
  if authType = .none then some [] else s

def validateUrlPostStat : Request CheckResult :=
  if !o.urlAccepted then pure (.status 400, w)
  else match o.savedPassword with
    | none => pure (.err 500, w)
    | some saved =>
      ofOption (httpCheckPostStat osStrToUint32Cptr httpServerTask
        (p.checkedWith (unlessNone p.authType p.user)
          (unlessNone p.authType (p.pass (some saved)))) o.postStat w)

def httpCheckMqtt : Option CheckResult :=
  (w.lock httpServerTask).map fun w =>
    (.status (mqttCheckRespCode o.mqttConnected o.mqttError), w.unlock)

/-- `validate_url_on_get_check_mqtt`. -/
def validateUrlOnGetCheckMqtt (P : Platform) (params : Bytes) (user pass : Option Bytes) :
    Request CheckResult :=
  if p.authType ≠ .none ∧ (user = none ∨ pass = none) then pure (.err 400, w)
  else match o.query.getWithDecoding params (ascii "mqtt_topic_prefix="),
      o.query.getWithDecoding params (ascii "mqtt_client_id=") with
    | some topicPrefix, some clientId =>
      if !o.mqttCfgAllocated then pure (.err 500, w)
      else if gwCfgMaxMqttPrefixLen ≤ topicPrefix.length ∨
          gwCfgMaxMqttClientIdLen ≤ clientId.length ∨
          !fitsField user gwCfgMaxMqttUserLen ∨ !fitsField pass gwCfgMaxMqttPassLen then
        pure (.err 400, w)
      else if validateUrlParseMqttUrl P p.url = none then pure (.err 400, w)
      else ofOption (httpCheckMqtt o w)
    | _, _ => pure (.err 400, w)

def validateUrlCheckMqtt (P : Platform) (params : Bytes) : Request CheckResult :=
  match o.savedPassword with
  | none => pure (.err 500, w)
  | some saved =>
    validateUrlOnGetCheckMqtt p o w P params (unlessNone p.authType p.user)
      (unlessNone p.authType (p.pass (some saved)))

/-- The settings of the remote configuration with the credentials to be checked, which fit. -/
def setRemoteAuth (authType : HttpAuthType) (user pass : Option Bytes) (remote : GwCfgRemote) :
    Option GwCfgRemote :=
  match authType, user, pass with
  | .none, _, _ => some remote
  | .basic, some user, some pass =>
    if user.length < gwCfgMaxHttpUserLen ∧ pass.length < gwCfgMaxHttpPassLen then
      some { remote with auth :=
        (remote.auth.setUser (.snprintf _ user)).setPassword (.snprintf _ pass) }
    else none
  | .bearer, _, some pass | .token, _, some pass | .apikey, _, some pass =>
    if pass.length < gwCfgMaxHttpBearerTokenLen then
      some { remote with auth := remote.auth.setToken (.snprintf _ pass) }
    else none
  | _, _, _ => none

def validateUrlOnGetCheckRemoteCfg (default cfg : GwCfg P) (params : HttpCheckParams) :
    Request CheckResult :=
  if !o.checkedRemoteAllocated then pure (.err 500, w)
  else match setRemoteAuth params.authType params.user params.pass {
      useRemoteCfg := true
      useSslClientCert := params.useSslClientCert
      useSslServerCert := params.useSslServerCert
      url := .snprintf _ (params.url.getD [])
      authType := params.authType
      auth := .zero
      refreshIntervalMinutes := 0 } with
    | none => pure (.err 400, w)
    | some remote => do
      suspendRelaying .httpOnly
      let r ← httpServerGwCfgDownloadAndParse default cfg remote o.remoteCfg
      resumeRelaying .httpOnly
      pure (.status r.1, w)

/-- The saved password is looked for in the memory of a copy that has been freed. -/
def validateUrlCheckRemoteCfg (default cfg : GwCfg P) : Request CheckResult :=
  if !o.urlAccepted then pure (.status 400, w)
  else do
    gwCfgLockRo
    if !o.remoteCfg.remoteAllocated then pure (.err 500, w)
    else do
      gwCfgUnlockRo
      let saved := if p.authType = .none then none else some o.freedPassword
      validateUrlOnGetCheckRemoteCfg o w default cfg (p.checkedWith p.user (p.pass saved))

def httpDownloadFirmwareUpdateInfo (url : Bytes) (o : DownloadOutcome Bool) (copyAllocated : Bool) :
    Request HttpServerDownloadInfo :=
  httpDownloadJson ⟨url, .none, false, false⟩ o copyAllocated

def validateUrlCheckFwUpdateUrl (cfg : GwCfg P) : Request CheckResult :=
  if !o.urlAccepted then pure (.status 400, w)
  else do
    let info ← httpDownloadFirmwareUpdateInfo p.url o.releaseInfo o.releaseInfoCopyAllocated
    if info.isError then pure (.status info.httpRespCode, w)
    else match info.jsonBuf with
      | none => pure (.status 500, w)
      | some buf =>
        match o.remoteCfg.cjsonParse (cstr buf) with
        | none => pure (.status 502, w)
        | some root =>
          let release := parseFwUpdateInfoJson root cfg.deviceInfo.esp32FwVer
            cfg.ruuviCfg.autoUpdate.autoUpdateCycle
          if !release.isValid then pure (.status 502, w)
          else do
            let r ← httpServerCheckFwUpdateBinaryFiles (release.url.getD []) o.files
            pure (.status r.1, w)

/-- The credentials can be prepared unless one is missing or empty. -/
def validateUrlCheckFilePrepAuth : Bool :=
  let isGiven (s : Option Bytes) : Bool := s.any fun s => s ≠ []
  match p.authType with
  | .none => true
  | .basic => isGiven p.user && isGiven p.password
  | .bearer | .token | .apikey => isGiven p.password

def validateUrlCheckFile : Request CheckResult :=
  if p.authType ≠ .none ∧ o.authAllocated = false then pure (.err 500, w)
  else if !validateUrlCheckFilePrepAuth p then pure (.err 400, w)
  else do
    let code ← httpCheck ⟨p.url, p.authType, decide (p.authType ≠ .none), false⟩ o.file
    pure (.status code, w)

def validateUrlInternal (default cfg : GwCfg P) (params : Bytes) :
    ValidateUrlType → Request CheckResult
  | .invalid => pure (.err 500, w)
  | .postAdvs => validateUrlPostAdvs osStrToUint32Cptr p o w
  | .postStat => validateUrlPostStat osStrToUint32Cptr p o w
  | .checkMqtt => validateUrlCheckMqtt p o w P params
  | .checkRemoteCfg => validateUrlCheckRemoteCfg p o w default cfg
  | .checkFwUpdateUrl => validateUrlCheckFwUpdateUrl p o w cfg
  | .checkFile => validateUrlCheckFile p o w

/-- Relaying is not resumed if there is no URL. -/
def validateUrl (default cfg : GwCfg P) (params : Option Bytes) : Request CheckResult :=
  match params with
  | none => pure (.err 400, w)
  | some params =>
    match validateUrlGetAuthType o.query params with
    | none => pure (.err 400, w)
    | some authType => do
      suspendRelaying .all
      match o.query.getWithDecoding params (ascii "url=") with
      | none => pure (.err 400, w)
      | some url => do
        let p : ValidateUrlParams := {
          url
          user := o.query.getWithDecoding params (ascii "user=")
          password := validateUrlGetPasswordFromParams o.query params
          authType
          flagUseSavedPassword :=
            validateUrlGetBoolFromParams o.query params (ascii "use_saved_password=")
          useSslClientCert := isParamSet params (ascii "use_ssl_client_cert=")
          useSslServerCert := isParamSet params (ascii "use_ssl_server_cert=") }
        let r ← validateUrlInternal osStrToUint32Cptr p o w default cfg params
          (validateUrlGetValidateTypeFromParams params)
        resumeRelaying .all
        pure r

end Checks

end RuuviGateway.Http
