import RuuviGateway.Config.Platform

/-!
# The configuration record

The sections of `gw_cfg_t`. A text field carries the proof that its text fits. The
credentials of an HTTP target are a union: one block of bytes that is read as user and
password or as a token, depending on the type of authentication.
-/

namespace RuuviGateway.Config

open General

abbrev gwCfgMaxHttpBearerTokenLen : ℕ := 256
abbrev gwCfgMaxHttpUrlLen : ℕ := 256
abbrev gwCfgMaxHttpUserLen : ℕ := 51
abbrev gwCfgMaxHttpPassLen : ℕ := 51
abbrev gwCfgMaxMqttTransportLen : ℕ := 8
abbrev gwCfgMaxMqttServerLen : ℕ := 256
abbrev gwCfgMaxMqttPrefixLen : ℕ := 257
abbrev gwCfgMaxMqttUserLen : ℕ := 129
abbrev gwCfgMaxMqttPassLen : ℕ := 257
abbrev gwCfgMaxMqttClientIdLen : ℕ := 51
abbrev gwCfgMaxNtpServerLen : ℕ := 32
abbrev gwCfgMaxCoordinatesStrLen : ℕ := 64
abbrev gwCfgMaxIpAddrStrLen : ℕ := 17

section Sizes

instance : NeZero gwCfgMaxHttpUrlLen := ⟨by decide⟩

instance : NeZero gwCfgMaxHttpUserLen := ⟨by decide⟩

instance : NeZero gwCfgMaxMqttTransportLen := ⟨by decide⟩

instance : NeZero gwCfgMaxMqttPrefixLen := ⟨by decide⟩

instance : NeZero gwCfgMaxMqttUserLen := ⟨by decide⟩

instance : NeZero gwCfgMaxNtpServerLen := ⟨by decide⟩

instance : NeZero gwCfgMaxCoordinatesStrLen := ⟨by decide⟩

instance : NeZero gwCfgMaxIpAddrStrLen := ⟨by decide⟩

instance (priority := high) Platform.neZeroAuthType (P : Platform) :
    NeZero (P.httpServerAuthTypeStrMax + 1) := ⟨Nat.succ_ne_zero _⟩

instance (priority := high) Platform.neZeroAuthUser (P : Platform) :
    NeZero (P.httpServerAuthUserMax + 1) := ⟨Nat.succ_ne_zero _⟩

instance (priority := high) Platform.neZeroAuthPass (P : Platform) :
    NeZero (P.httpServerAuthPassMax + 1) := ⟨Nat.succ_ne_zero _⟩

instance (priority := high) Platform.neZeroAuthApiKey (P : Platform) :
    NeZero (P.httpServerAuthApiKeyMax + 1) := ⟨Nat.succ_ne_zero _⟩

end Sizes

section HttpAuth

inductive HttpAuthType
  | none
  | basic
  | bearer
  | token
  | apikey
  deriving DecidableEq, Repr

/-- `ruuvi_gw_cfg_http_auth_t`. The members for a bearer token, a token and an API key
occupy the whole block, and its last byte is always NUL. -/
@[ext] structure HttpAuth where
  bytes : Bytes
  size : bytes.length = gwCfgMaxHttpBearerTokenLen
  terminated : bytes.getLast? = some 0
  deriving DecidableEq

namespace HttpAuth

variable (auth : HttpAuth)

def zero : HttpAuth where
  bytes := List.replicate gwCfgMaxHttpBearerTokenLen 0
  size := List.length_replicate
  terminated := by simp [List.getLast?_replicate]

/-- The text that `auth_basic.user.buf` points to, which may run beyond its field. -/
def user : Bytes := cstr auth.bytes

/-- The text that `auth_basic.password.buf` points to. -/
def password : Bytes := cstr (auth.bytes.drop gwCfgMaxHttpUserLen)

/-- The text of `auth_bearer.token`, `auth_token.token` and `auth_apikey.api_key`. -/
def token : Bytes := cstr auth.bytes

def write (off : ℕ) {n : ℕ} (s : CStr n) (h : off + n ≤ gwCfgMaxHttpBearerTokenLen) :
    HttpAuth where
  bytes := writeAt auth.bytes off s.val
  size := (length_writeAt (by have := s.fits; rw [auth.size]; omega)).trans auth.size
  terminated := getLast_writeAt auth.terminated

def setUser (s : CStr gwCfgMaxHttpUserLen) : HttpAuth := auth.write 0 s (by decide)

def setPassword (s : CStr gwCfgMaxHttpPassLen) : HttpAuth :=
  auth.write gwCfgMaxHttpUserLen s (by decide)

def setToken (s : CStr gwCfgMaxHttpBearerTokenLen) : HttpAuth := auth.write 0 s (by decide)

@[simp] theorem user_setUser (s : CStr gwCfgMaxHttpUserLen) : (auth.setUser s).user = s.val :=
  cstr_drop_writeAt (Nat.zero_le auth.bytes.length) s.noNul

@[simp] theorem token_setToken (s : CStr gwCfgMaxHttpBearerTokenLen) :
    (auth.setToken s).token = s.val :=
  cstr_drop_writeAt (Nat.zero_le auth.bytes.length) s.noNul

@[simp] theorem password_setPassword (s : CStr gwCfgMaxHttpPassLen) :
    (auth.setPassword s).password = s.val :=
  cstr_drop_writeAt (by rw [auth.size]; decide) s.noNul

@[simp] theorem password_setUser (s : CStr gwCfgMaxHttpUserLen) :
    (auth.setUser s).password = auth.password := by
  have hfits : s.val.length < 51 := s.fits
  have hsize : auth.bytes.length = 256 := auth.size
  have hend : 0 + s.val.length + 1 ≤ 51 := by omega
  exact congrArg cstr (drop_writeAt_of_le (by omega) hend)

/-- A user that ends within its field is not touched by the password. -/
theorem user_setPassword (s : CStr gwCfgMaxHttpPassLen)
    (h : auth.user.length < gwCfgMaxHttpUserLen) : (auth.setPassword s).user = auth.user :=
  cstr_writeAt_of_lt (by rw [auth.size]; decide) h

/-- Writing the user over itself changes nothing if it ends within its field. -/
theorem setUser_user (h : auth.user.length < gwCfgMaxHttpUserLen) :
    auth.setUser (.snprintf _ auth.user) = auth := by
  have hval : (CStr.snprintf gwCfgMaxHttpUserLen auth.user).val = cstr auth.bytes :=
    CStr.val_snprintf (noNul_cstr _) h
  have hnul : 0 ∈ auth.bytes := List.mem_of_getLast? auth.terminated
  ext1
  change writeAt auth.bytes 0 _ = _
  rw [hval]
  exact writeAt_cstr hnul

theorem length_token : auth.token.length < gwCfgMaxHttpBearerTokenLen := by
  have hlen : (cstr (auth.bytes.drop 0)).length < auth.bytes.length - 0 :=
    length_cstr_drop auth.terminated (by rw [auth.size]; decide)
  rw [auth.size] at hlen
  exact hlen

end HttpAuth

end HttpAuth

inductive HttpDataFormat
  | ruuvi
  | ruuviRawAndDecoded
  | ruuviDecoded
  deriving DecidableEq, Repr

inductive MqttDataFormat
  | ruuviRaw
  | ruuviRawAndDecoded
  | ruuviDecoded
  deriving DecidableEq, Repr

inductive AutoUpdateCycleType
  | regular
  | betaTester
  | manual
  deriving DecidableEq, Repr

structure GwCfgDeviceInfo where
  wifiAp : Bytes
  hostname : Bytes
  esp32FwVer : Bytes
  nrf52FwVer : Bytes
  nrf52MacAddr : Bytes
  nrf52DeviceId : Bytes
  esp32MacAddrWifi : Bytes
  esp32MacAddrEth : Bytes
  deriving DecidableEq

structure GwCfgEth where
  useEth : Bool
  ethDhcp : Bool
  ethStaticIp : CStr gwCfgMaxIpAddrStrLen
  ethNetmask : CStr gwCfgMaxIpAddrStrLen
  ethGw : CStr gwCfgMaxIpAddrStrLen
  ethDns1 : CStr gwCfgMaxIpAddrStrLen
  ethDns2 : CStr gwCfgMaxIpAddrStrLen
  deriving DecidableEq

structure GwCfgRemote where
  useRemoteCfg : Bool
  useSslClientCert : Bool
  useSslServerCert : Bool
  url : CStr gwCfgMaxHttpUrlLen
  authType : HttpAuthType
  auth : HttpAuth
  refreshIntervalMinutes : UInt16
  deriving DecidableEq

structure GwCfgHttp where
  useHttpRuuvi : Bool
  useHttp : Bool
  httpUseSslClientCert : Bool
  httpUseSslServerCert : Bool
  httpUrl : CStr gwCfgMaxHttpUrlLen
  httpPeriod : UInt32
  dataFormat : HttpDataFormat
  authType : HttpAuthType
  auth : HttpAuth
  deriving DecidableEq

structure GwCfgHttpStat where
  useHttpStat : Bool
  httpStatUseSslClientCert : Bool
  httpStatUseSslServerCert : Bool
  httpStatUrl : CStr gwCfgMaxHttpUrlLen
  httpStatUser : CStr gwCfgMaxHttpUserLen
  httpStatPass : CStr gwCfgMaxHttpPassLen
  deriving DecidableEq

structure GwCfgMqtt where
  useMqtt : Bool
  mqttDisableRetainedMessages : Bool
  useSslClientCert : Bool
  useSslServerCert : Bool
  mqttTransport : CStr gwCfgMaxMqttTransportLen
  mqttDataFormat : MqttDataFormat
  mqttServer : CStr gwCfgMaxMqttServerLen
  mqttPort : UInt16
  mqttSendingInterval : UInt32
  mqttPrefix : CStr gwCfgMaxMqttPrefixLen
  mqttClientId : CStr gwCfgMaxMqttClientIdLen
  mqttUser : CStr gwCfgMaxMqttUserLen
  mqttPass : CStr gwCfgMaxMqttPassLen
  deriving DecidableEq

structure GwCfgLanAuth (P : Platform) where
  lanAuthType : HttpServerAuthType
  lanAuthUser : CStr (P.httpServerAuthUserMax + 1)
  lanAuthPass : CStr (P.httpServerAuthPassMax + 1)
  lanAuthApiKey : CStr (P.httpServerAuthApiKeyMax + 1)
  lanAuthApiKeyRw : CStr (P.httpServerAuthApiKeyMax + 1)
  deriving DecidableEq

structure GwCfgAutoUpdate where
  autoUpdateCycle : AutoUpdateCycleType
  autoUpdateWeekdaysBitmask : UInt8
  autoUpdateIntervalFrom : UInt8
  autoUpdateIntervalTo : UInt8
  autoUpdateTzOffsetHours : Int8
  deriving DecidableEq

structure GwCfgNtp where
  ntpUse : Bool
  ntpUseDhcp : Bool
  ntpServer1 : CStr gwCfgMaxNtpServerLen
  ntpServer2 : CStr gwCfgMaxNtpServerLen
  ntpServer3 : CStr gwCfgMaxNtpServerLen
  ntpServer4 : CStr gwCfgMaxNtpServerLen
  deriving DecidableEq

structure GwCfgFilter where
  companyId : UInt16
  companyUseFiltering : Bool
  deriving DecidableEq

structure GwCfgScan where
  scanCodedPhy : Bool
  scan1mbitPhy : Bool
  scan2mbitPhy : Bool
  scanChannel37 : Bool
  scanChannel38 : Bool
  scanChannel39 : Bool
  scanDefault : Bool
  deriving DecidableEq

structure GwCfgScanFilter where
  scanFilterAllowListed : Bool
  scanFilterLength : ℕ
  scanFilterList : List MacAddressBin
  size : scanFilterList.length = gwCfgMaxNumSensors
  bounded : scanFilterLength ≤ gwCfgMaxNumSensors
  deriving DecidableEq

structure GwCfgFwUpdate where
  fwUpdateUrl : CStr gwCfgMaxHttpUrlLen
  deriving DecidableEq

structure GwCfgRuuvi (P : Platform) where
  remote : GwCfgRemote
  http : GwCfgHttp
  httpStat : GwCfgHttpStat
  mqtt : GwCfgMqtt
  lanAuth : GwCfgLanAuth P
  autoUpdate : GwCfgAutoUpdate
  ntp : GwCfgNtp
  filter : GwCfgFilter
  scan : GwCfgScan
  scanFilter : GwCfgScanFilter
  coordinates : CStr gwCfgMaxCoordinatesStrLen
  fwUpdate : GwCfgFwUpdate
  deriving DecidableEq

structure GwCfg (P : Platform) where
  deviceInfo : GwCfgDeviceInfo
  ruuviCfg : GwCfgRuuvi P
  ethCfg : GwCfgEth
  wifiCfg : WifimanConfig
  deriving DecidableEq

end RuuviGateway.Config
