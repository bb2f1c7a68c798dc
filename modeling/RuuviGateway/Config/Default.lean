import RuuviGateway.Config.Parse

/-!
# The default configuration

It is built from constants and from the identity of the gateway. A stored JSON, if there is one,
is parsed over it before the parameters that depend on the identity are set.
-/

namespace RuuviGateway.Config

open General

def gatewayConfigDefaultEth : GwCfgEth where
  useEth := true
  ethDhcp := true
  ethStaticIp := .empty
  ethNetmask := .empty
  ethGw := .empty
  ethDns1 := .empty
  ethDns2 := .empty

def ruuviGatewayAuthDefaultUser : Bytes := ascii "Admin"

def gatewayConfigDefaultRuuvi (P : Platform) : GwCfgRuuvi P where
  remote := {
    useRemoteCfg := false
    useSslClientCert := false
    useSslServerCert := false
    url := .empty
    authType := .none
    auth := .zero
    refreshIntervalMinutes := 0 }
  http := {
    useHttpRuuvi := true
    useHttp := false
    httpUseSslClientCert := false
    httpUseSslServerCert := false
    httpUrl := .snprintf _ ruuviGatewayHttpDefaultUrl
    httpPeriod := 10
    dataFormat := .ruuvi
    authType := .none
    auth := .zero }
  httpStat := {
    useHttpStat := true
    httpStatUseSslClientCert := false
    httpStatUseSslServerCert := false
    httpStatUrl := .snprintf _ (ascii "https://network.ruuvi.com/status")
    httpStatUser := .empty
    httpStatPass := .empty }
  mqtt := {
    useMqtt := false
    mqttDisableRetainedMessages := false
    useSslClientCert := false
    useSslServerCert := false
    mqttTransport := .snprintf _ (ascii "TCP")
    mqttDataFormat := .ruuviRaw
    mqttServer := .snprintf _ (ascii "test.mosquitto.org")
    mqttPort := 1883
    mqttSendingInterval := 0
    mqttPrefix := .empty
    mqttClientId := .empty
    mqttUser := .empty
    mqttPass := .empty }
  lanAuth := {
    lanAuthType := .default
    lanAuthUser := .snprintf _ ruuviGatewayAuthDefaultUser
    lanAuthPass := .empty
    lanAuthApiKey := .empty
    lanAuthApiKeyRw := .empty }
  autoUpdate := {
    autoUpdateCycle := .regular
    autoUpdateWeekdaysBitmask := 0x7f
    autoUpdateIntervalFrom := 0
    autoUpdateIntervalTo := 24
    autoUpdateTzOffsetHours := 3 }
  ntp := {
    ntpUse := true
    ntpUseDhcp := false
    ntpServer1 := .snprintf _ (ascii "time.google.com")
    ntpServer2 := .snprintf _ (ascii "time.cloudflare.com")
    ntpServer3 := .snprintf _ (ascii "pool.ntp.org")
    ntpServer4 := .snprintf _ (ascii "time.ruuvi.com") }
  filter := {
    companyId := 0x0499
    companyUseFiltering := true }
  scan := {
    scanCodedPhy := false
    scan1mbitPhy := true
    scan2mbitPhy := true
    scanChannel37 := true
    scanChannel38 := true
    scanChannel39 := true
    scanDefault := true }
  scanFilter := {
    scanFilterAllowListed := false
    scanFilterLength := 0
    scanFilterList := List.replicate gwCfgMaxNumSensors ⟨Vector.replicate _ 0⟩
    size := List.length_replicate
    bounded := Nat.zero_le _ }
  coordinates := .empty
  fwUpdate := { fwUpdateUrl := .snprintf _ (ascii "https://network.ruuvi.com/firmwareupdate") }

structure GwCfgDefaultInitParam where
  wifiApSsid : Bytes
  hostname : Bytes
  deviceId : Vector UInt8 8
  esp32FwVer : Bytes
  nrf52FwVer : Bytes
  nrf52MacAddr : MacAddressBin
  esp32MacAddrWifi : MacAddressBin
  esp32MacAddrEth : MacAddressBin

def hexUpperDigit (digit : UInt8) : UInt8 :=
  if digit < 10 then 0x30 + digit else 0x41 + (digit - 10)

def hexUpper (b : UInt8) : Bytes := [hexUpperDigit (b / 16), hexUpperDigit (b % 16)]

def gwCfgDefaultNrf52DeviceIdToStr (deviceId : Vector UInt8 8) : Bytes :=
  (ascii ":").intercalate (deviceId.toList.map hexUpper)

def gwCfgDefaultGenerateLanAuthPassword (P : Platform) (hostname deviceId : Bytes) : Bytes :=
  P.wifimanMd5CalcHexStr
    (ruuviGatewayAuthDefaultUser ++ ascii ":" ++ hostname ++ ascii ":" ++ deviceId)

/-- The default configuration before a stored JSON is parsed. -/
def gwCfgDefaultBuiltIn (P : Platform) (param : GwCfgDefaultInitParam) : GwCfg P where
  ruuviCfg := gatewayConfigDefaultRuuvi P
  ethCfg := gatewayConfigDefaultEth
  wifiCfg := P.wifiManagerDefaultConfigInit param.wifiApSsid
    ⟨param.hostname, param.esp32FwVer, param.nrf52FwVer⟩
  deviceInfo := {
    wifiAp := param.wifiApSsid
    hostname := param.hostname
    esp32FwVer := param.esp32FwVer
    nrf52FwVer := param.nrf52FwVer
    nrf52MacAddr := P.macAddressToStr param.nrf52MacAddr
    nrf52DeviceId := gwCfgDefaultNrf52DeviceIdToStr param.deviceId
    esp32MacAddrWifi := P.macAddressToStr param.esp32MacAddrWifi
    esp32MacAddrEth := P.macAddressToStr param.esp32MacAddrEth }

/-- The parameters that depend on the identity of the gateway. -/
def GwCfg.withIdentity {P : Platform} (cfg : GwCfg P) : GwCfg P :=
  let nrf52MacAddr := cfg.deviceInfo.nrf52MacAddr
  let lanAuthPass :=
    gwCfgDefaultGenerateLanAuthPassword P cfg.deviceInfo.hostname cfg.deviceInfo.nrf52DeviceId
  { cfg with
    ruuviCfg.mqtt.mqttPrefix := .snprintf _ (ascii "ruuvi/" ++ nrf52MacAddr ++ ascii "/")
    ruuviCfg.mqtt.mqttClientId := .snprintf _ nrf52MacAddr
    ruuviCfg.lanAuth.lanAuthUser := .snprintf _ ruuviGatewayAuthDefaultUser
    ruuviCfg.lanAuth.lanAuthPass := .snprintf _ lanAuthPass }

def gwCfgDefaultInit (P : Platform) (param : GwCfgDefaultInitParam) (stored : Option Json) :
    Option (GwCfg P) :=
  let cfg := gwCfgDefaultBuiltIn P param
  match stored with
  | none => some cfg.withIdentity
  | some root => (gwCfgJsonParse root none cfg).map GwCfg.withIdentity

end RuuviGateway.Config
