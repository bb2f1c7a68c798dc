import RuuviGateway.AdvTable.Report
import RuuviGateway.General.CString

/-!
# What the configuration code uses of other components

The Wi-Fi configuration types, and the functions and buffer sizes that come from the
Wi-Fi manager and from the wrapper library. Texts whose buffer size the configuration code never
uses are represented by their text alone.
-/

namespace RuuviGateway.Config

open General

inductive HttpServerAuthType
  | basic
  | digest
  | ruuvi
  | default
  | allow
  | deny
  | bearer
  deriving DecidableEq, Repr

structure WifiApConfig where
  ssid : CStr 32
  password : CStr 64
  ssidLen : UInt8
  channel : UInt8
  authmode : ℕ
  ssidHidden : UInt8
  maxConnection : UInt8
  beaconInterval : UInt16
  deriving DecidableEq

structure WifiSettingsAp where
  apBandwidth : ℕ
  apIp : Bytes
  apGw : Bytes
  apNetmask : Bytes
  deriving DecidableEq

structure WifimanConfigAp where
  wifiConfigAp : WifiApConfig
  wifiSettingsAp : WifiSettingsAp
  deriving DecidableEq

structure WifiStaConfig where
  ssid : CStr 32
  password : CStr 64
  scanMethod : ℕ
  bssidSet : Bool
  bssid : Vector UInt8 6
  channel : UInt8
  listenInterval : UInt16
  sortMethod : ℕ
  thresholdRssi : Int8
  thresholdAuthmode : ℕ
  pmfCfgCapable : Bool
  pmfCfgRequired : Bool
  deriving DecidableEq

structure WifiSettingsSta where
  staPowerSave : ℕ
  staStaticIp : Bool
  staticIpAddr : UInt32
  staticIpNetmask : UInt32
  staticIpGw : UInt32
  deriving DecidableEq

structure WifimanConfigSta where
  wifiConfigSta : WifiStaConfig
  wifiSettingsSta : WifiSettingsSta
  deriving DecidableEq

structure WifimanConfig where
  ap : WifimanConfigAp
  sta : WifimanConfigSta
  deriving DecidableEq

structure WifimanHostinfo where
  hostname : Bytes
  fwVer : Bytes
  nrf52FwVer : Bytes

structure Platform where
  /-- The number of characters that fit into `http_server_auth_type_str_t`, and so on. -/
  httpServerAuthTypeStrMax : ℕ
  httpServerAuthUserMax : ℕ
  httpServerAuthPassMax : ℕ
  httpServerAuthApiKeyMax : ℕ
  httpServerAuthTypeToStr : HttpServerAuthType → Bytes
  httpServerAuthTypeFromStr : Bytes → HttpServerAuthType
  macAddressToStr : MacAddressBin → Bytes
  /-- The address buffer after the call. The text is absent if the pointer is NULL. -/
  macAddrFromStr : Option Bytes → MacAddressBin → MacAddressBin
  /-- The value and the text behind the end pointer. -/
  osStrToUint32Cptr : Bytes → ℕ → UInt32 × Bytes
  wifimanMd5CalcHexStr : Bytes → Bytes
  wifiManagerDefaultConfigInit : Bytes → WifimanHostinfo → WifimanConfig

/-- The conversions to text are inverted by those from text. -/
structure Platform.Lawful (P : Platform) : Prop where
  authTypeNoNul : ∀ t, 0 ∉ P.httpServerAuthTypeToStr t
  authTypeFits : ∀ t, (P.httpServerAuthTypeToStr t).length ≤ P.httpServerAuthTypeStrMax
  authType : ∀ t, P.httpServerAuthTypeFromStr (P.httpServerAuthTypeToStr t) = t
  macNoNul : ∀ m, 0 ∉ P.macAddressToStr m
  mac : ∀ m old, P.macAddrFromStr (some (P.macAddressToStr m)) old = m

end RuuviGateway.Config
