import RuuviGateway.Config.CjsonWrap

/-!
# Parsing a configuration

Each section reads its keys over the section as it was, and a key that is absent keeps the
value unless the section says otherwise. Three sections take values from the default
configuration. While the default configuration itself is parsed, that is the section
being written: then there is no other one, and the argument is `none`.
-/

namespace RuuviGateway.Config

open General

variable {P : Platform}

def ruuviGatewayHttpDefaultUrl : Bytes := ascii "https://network.ruuvi.com/record"

def gwCfgHttpAuthTypeStrSize : ℕ := 8

def gwCfgHttpDataFormatStrSize : ℕ := 22

def gwCfgMqttDataFormatStrSize : ℕ := 22

def autoUpdateCycleTypeStrMaxLen : ℕ := 20

instance : NeZero gwCfgHttpAuthTypeStrSize := ⟨by decide⟩

instance : NeZero gwCfgHttpDataFormatStrSize := ⟨by decide⟩

instance : NeZero gwCfgMqttDataFormatStrSize := ⟨by decide⟩

instance : NeZero autoUpdateCycleTypeStrMaxLen := ⟨by decide⟩

/-- User and password are read over those that the block holds. -/
def parseAuthBasic (userKey passKey : String) (root : Json) (auth : HttpAuth) : HttpAuth :=
  let auth := ((jsonWrapCopyStringVal _ root userKey).map auth.setUser).getD auth
  ((jsonWrapCopyStringVal _ root passKey).map auth.setPassword).getD auth

def parseAuthToken (tokenKey : String) (root : Json) (auth : HttpAuth) : HttpAuth :=
  ((jsonWrapCopyStringVal _ root tokenKey).map auth.setToken).getD auth

section Remote

def gwCfgJsonParseRemoteAuthTypeBasic : Json → HttpAuth → HttpAuth :=
  parseAuthBasic "remote_cfg_auth_basic_user" "remote_cfg_auth_basic_pass"

def gwCfgJsonParseRemoteAuthTypeBearer : Json → HttpAuth → HttpAuth :=
  parseAuthToken "remote_cfg_auth_bearer_token"

def gwCfgJsonParseRemoteAuthType (s : Bytes) : HttpAuthType :=
  if s = ascii "none" then .none
  else if s = ascii "no" then .none
  else if s = ascii "basic" then .basic
  else if s = ascii "bearer" then .bearer
  else .none

/-- The part of `gw_cfg_json_parse_remote` that handles `remote_cfg_auth_type`. The stored
credentials are cleared when the type changes. -/
def gwCfgJsonParseRemoteAuth (root : Json) (cfg : GwCfgRemote) : HttpAuthType × HttpAuth :=
  match jsonWrapCopyStringVal gwCfgHttpAuthTypeStrSize root "remote_cfg_auth_type" with
  | none => (cfg.authType, cfg.auth)
  | some authTypeStr =>
    let authType := gwCfgJsonParseRemoteAuthType authTypeStr.val
    let auth := if cfg.authType ≠ authType then HttpAuth.zero else cfg.auth
    match authType with
    | .basic => (authType, gwCfgJsonParseRemoteAuthTypeBasic root auth)
    | .bearer => (authType, gwCfgJsonParseRemoteAuthTypeBearer root auth)
    | .none | .token | .apikey => (authType, auth)

def gwCfgJsonParseRemote (root : Json) (cfg : GwCfgRemote) : Option GwCfgRemote := do
  let interval ← jsonWrapGetUint16Val root "remote_cfg_refresh_interval_minutes"
  return {
    useRemoteCfg := (jsonWrapGetBoolVal root "remote_cfg_use").getD cfg.useRemoteCfg
    useSslClientCert :=
      (jsonWrapGetBoolVal root "remote_cfg_use_ssl_client_cert").getD cfg.useSslClientCert
    useSslServerCert :=
      (jsonWrapGetBoolVal root "remote_cfg_use_ssl_server_cert").getD cfg.useSslServerCert
    url := (jsonWrapCopyStringVal _ root "remote_cfg_url").getD cfg.url
    authType := (gwCfgJsonParseRemoteAuth root cfg).1
    auth := (gwCfgJsonParseRemoteAuth root cfg).2
    refreshIntervalMinutes := interval.getD cfg.refreshIntervalMinutes }

end Remote

section Http

def gwCfgJsonParseHttpDataFormat (root : Json) : HttpDataFormat :=
  match jsonWrapCopyStringVal gwCfgHttpDataFormatStrSize root "http_data_format" with
  | none => .ruuvi
  | some s =>
    if s.val = ascii "ruuvi" then .ruuvi
    else if s.val = ascii "ruuvi_raw_and_decoded" then .ruuviRawAndDecoded
    else if s.val = ascii "ruuvi_decoded" then .ruuviDecoded
    else .ruuvi

def gwCfgJsonParseHttpAuthType (root : Json) : HttpAuthType :=
  match jsonWrapCopyStringVal gwCfgHttpAuthTypeStrSize root "http_auth" with
  | none => .none
  | some s =>
    if s.val = ascii "none" then .none
    else if s.val = ascii "basic" then .basic
    else if s.val = ascii "bearer" then .bearer
    else if s.val = ascii "token" then .token
    else if s.val = ascii "api_key" then .apikey
    else .none

def gwCfgJsonParseHttpAuthBasic : Json → HttpAuth → HttpAuth :=
  parseAuthBasic "http_user" "http_pass"

def gwCfgJsonParseHttpAuthBearer : Json → HttpAuth → HttpAuth := parseAuthToken "http_bearer_token"

def gwCfgJsonParseHttpAuthToken : Json → HttpAuth → HttpAuth := parseAuthToken "http_api_key"

def gwCfgJsonParseHttpAuthApikey : Json → HttpAuth → HttpAuth := parseAuthToken "http_api_key"

def gwCfgJsonParseHttpAuth (root : Json) (authType : HttpAuthType) (auth : HttpAuth) : HttpAuth :=
  match authType with
  | .none => auth
  | .basic => gwCfgJsonParseHttpAuthBasic root auth
  | .bearer => gwCfgJsonParseHttpAuthBearer root auth
  | .token => gwCfgJsonParseHttpAuthToken root auth
  | .apikey => gwCfgJsonParseHttpAuthApikey root auth

/-- The target that every gateway has unless another one is configured. -/
def GwCfgHttp.isDefaultTarget (cfg : GwCfgHttp) : Bool :=
  cfg.dataFormat == .ruuvi && cfg.authType == .none && cfg.httpUrl.val == ruuviGatewayHttpDefaultUrl

/-- What is read first if HTTP is in use. -/
def gwCfgJsonParseHttpTarget (root : Json) (cfg : GwCfgHttp) : GwCfgHttp :=
  { cfg with
    dataFormat := gwCfgJsonParseHttpDataFormat root
    authType := gwCfgJsonParseHttpAuthType root
    httpUrl := (jsonWrapCopyStringVal _ root "http_url").getD cfg.httpUrl
    auth := gwCfgJsonParseHttpAuth root (gwCfgJsonParseHttpAuthType root) cfg.auth }

/-- The default target is not kept as a custom one. -/
def gwCfgJsonParseHttp (P : Platform) (root : Json) (cfg : GwCfgHttp) : Option GwCfgHttp :=
  let flags := { cfg with
    useHttpRuuvi := (jsonWrapGetBoolVal root "use_http_ruuvi").getD cfg.useHttpRuuvi
    useHttp := (jsonWrapGetBoolVal root "use_http").getD cfg.useHttp }
  if flags.useHttp then
    let target := gwCfgJsonParseHttpTarget root flags
    if target.isDefaultTarget then
      return { target with useHttpRuuvi := true, useHttp := false }
    else do
      let period ← jsonWrapGetUint32Val P root "http_period"
      return { target with
        httpPeriod := period.getD cfg.httpPeriod
        httpUseSslClientCert :=
          (jsonWrapGetBoolVal root "http_use_ssl_client_cert").getD cfg.httpUseSslClientCert
        httpUseSslServerCert :=
          (jsonWrapGetBoolVal root "http_use_ssl_server_cert").getD cfg.httpUseSslServerCert }
  else
    return flags

end Http

def gwCfgJsonParseHttpStat (root : Json) (cfg : GwCfgHttpStat) : GwCfgHttpStat :=
  let useHttpStat := (jsonWrapGetBoolVal root "use_http_stat").getD cfg.useHttpStat
  { useHttpStat
    httpStatUseSslClientCert :=
      if useHttpStat then
        (jsonWrapGetBoolVal root "http_stat_use_ssl_client_cert").getD cfg.httpStatUseSslClientCert
      else cfg.httpStatUseSslClientCert
    httpStatUseSslServerCert :=
      if useHttpStat then
        (jsonWrapGetBoolVal root "http_stat_use_ssl_server_cert").getD cfg.httpStatUseSslServerCert
      else cfg.httpStatUseSslServerCert
    httpStatUrl := (jsonWrapCopyStringVal _ root "http_stat_url").getD cfg.httpStatUrl
    httpStatUser := (jsonWrapCopyStringVal _ root "http_stat_user").getD cfg.httpStatUser
    httpStatPass := (jsonWrapCopyStringVal _ root "http_stat_pass").getD cfg.httpStatPass }

section Mqtt

def gwCfgJsonParseMqttDataFormat (root : Json) : MqttDataFormat :=
  match jsonWrapCopyStringVal gwCfgMqttDataFormatStrSize root "mqtt_data_format" with
  | none => .ruuviRaw
  | some s =>
    if s.val = ascii "ruuvi_raw" then .ruuviRaw
    else if s.val = ascii "ruuvi_raw_and_decoded" then .ruuviRawAndDecoded
    else if s.val = ascii "ruuvi_decoded" then .ruuviDecoded
    else .ruuviRaw

/-- A prefix or a client id that is absent or empty is the default one. -/
def gwCfgJsonParseMqttNonEmpty {n : ℕ} [NeZero n] (root : Json) (key : String)
    (default : Option (CStr n)) (cfg : CStr n) : CStr n :=
  let s := (jsonWrapCopyStringVal n root key).getD (default.getD cfg)
  if s.val = [] then default.getD s else s

def gwCfgJsonParseMqtt (P : Platform) (root : Json) (default : Option GwCfgMqtt)
    (cfg : GwCfgMqtt) : Option GwCfgMqtt := do
  let port ← jsonWrapGetUint16Val root "mqtt_port"
  let interval ← jsonWrapGetUint32Val P root "mqtt_sending_interval"
  let useMqtt := (jsonWrapGetBoolVal root "use_mqtt").getD cfg.useMqtt
  return {
    useMqtt
    mqttDisableRetainedMessages :=
      (jsonWrapGetBoolVal root "mqtt_disable_retained_messages").getD
        cfg.mqttDisableRetainedMessages
    useSslClientCert :=
      if useMqtt then
        (jsonWrapGetBoolVal root "mqtt_use_ssl_client_cert").getD cfg.useSslClientCert
      else cfg.useSslClientCert
    useSslServerCert :=
      if useMqtt then
        (jsonWrapGetBoolVal root "mqtt_use_ssl_server_cert").getD cfg.useSslServerCert
      else cfg.useSslServerCert
    mqttTransport := (jsonWrapCopyStringVal _ root "mqtt_transport").getD cfg.mqttTransport
    mqttDataFormat := gwCfgJsonParseMqttDataFormat root
    mqttServer := (jsonWrapCopyStringVal _ root "mqtt_server").getD cfg.mqttServer
    mqttPort := port.getD cfg.mqttPort
    mqttSendingInterval := interval.getD cfg.mqttSendingInterval
    mqttPrefix :=
      gwCfgJsonParseMqttNonEmpty root "mqtt_prefix" (default.map (·.mqttPrefix)) cfg.mqttPrefix
    mqttClientId :=
      gwCfgJsonParseMqttNonEmpty root "mqtt_client_id" (default.map (·.mqttClientId))
        cfg.mqttClientId
    mqttUser := (jsonWrapCopyStringVal _ root "mqtt_user").getD cfg.mqttUser
    mqttPass := (jsonWrapCopyStringVal _ root "mqtt_pass").getD cfg.mqttPass }

end Mqtt

section LanAuth

def GwCfgLanAuth.sameCredentials (cfg other : GwCfgLanAuth P) : Bool :=
  cfg.lanAuthUser.val == other.lanAuthUser.val && cfg.lanAuthPass.val == other.lanAuthPass.val

theorem GwCfgLanAuth.sameCredentials_comm (a b : GwCfgLanAuth P) :
    a.sameCredentials b = b.sameCredentials a := by
  simp only [sameCredentials, Bool.beq_comm]

def gwCfgJsonParseLanAuthUserPassword (root : Json) (cfg : GwCfgLanAuth P) : GwCfgLanAuth P :=
  { cfg with
    lanAuthUser := (jsonWrapCopyStringVal _ root "lan_auth_user").getD cfg.lanAuthUser
    lanAuthPass := (jsonWrapCopyStringVal _ root "lan_auth_pass").getD cfg.lanAuthPass }

/-- What `gw_cfg_json_parse_lan_auth` does once the type is read. -/
def gwCfgJsonParseLanAuthCredentials (root : Json) (default : Option (GwCfgLanAuth P))
    (cfg : GwCfgLanAuth P) : GwCfgLanAuth P :=
  match cfg.lanAuthType with
  | .basic | .digest => gwCfgJsonParseLanAuthUserPassword root cfg
  | .ruuvi =>
    let cfg := gwCfgJsonParseLanAuthUserPassword root cfg
    if (default.getD cfg).sameCredentials cfg then { cfg with lanAuthType := .default } else cfg
  | .default =>
    { cfg with
      lanAuthUser := (default.getD cfg).lanAuthUser
      lanAuthPass := (default.getD cfg).lanAuthPass }
  | .allow | .deny | .bearer => { cfg with lanAuthUser := .empty, lanAuthPass := .empty }

def gwCfgJsonParseLanAuth (root : Json) (default : Option (GwCfgLanAuth P))
    (cfg : GwCfgLanAuth P) : GwCfgLanAuth P :=
  let cfg :=
    match jsonWrapCopyStringVal (P.httpServerAuthTypeStrMax + 1) root "lan_auth_type" with
    | none => cfg
    | some s =>
      gwCfgJsonParseLanAuthCredentials root default
        { cfg with lanAuthType := P.httpServerAuthTypeFromStr s.val }
  { cfg with
    lanAuthApiKey := (jsonWrapCopyStringVal _ root "lan_auth_api_key").getD cfg.lanAuthApiKey
    lanAuthApiKeyRw :=
      (jsonWrapCopyStringVal _ root "lan_auth_api_key_rw").getD cfg.lanAuthApiKeyRw }

end LanAuth

section AutoUpdate

def gwCfgJsonParseAutoUpdateCycle (root : Json) (cycle : AutoUpdateCycleType) :
    AutoUpdateCycleType :=
  match jsonWrapCopyStringVal autoUpdateCycleTypeStrMaxLen root "auto_update_cycle" with
  | none => cycle
  | some s =>
    if s.val = ascii "regular" then .regular
    else if s.val = ascii "beta" then .betaTester
    else if s.val = ascii "manual" then .manual
    else .regular

def gwCfgJsonParseAutoUpdate (root : Json) (cfg : GwCfgAutoUpdate) : Option GwCfgAutoUpdate := do
  let weekdaysBitmask ← jsonWrapGetUint8Val root "auto_update_weekdays_bitmask"
  let intervalFrom ← jsonWrapGetUint8Val root "auto_update_interval_from"
  let intervalTo ← jsonWrapGetUint8Val root "auto_update_interval_to"
  let tzOffsetHours ← jsonWrapGetInt8Val root "auto_update_tz_offset_hours"
  return {
    autoUpdateCycle := gwCfgJsonParseAutoUpdateCycle root cfg.autoUpdateCycle
    autoUpdateWeekdaysBitmask := weekdaysBitmask.getD cfg.autoUpdateWeekdaysBitmask
    autoUpdateIntervalFrom := intervalFrom.getD cfg.autoUpdateIntervalFrom
    autoUpdateIntervalTo := intervalTo.getD cfg.autoUpdateIntervalTo
    autoUpdateTzOffsetHours := tzOffsetHours.getD cfg.autoUpdateTzOffsetHours }

end AutoUpdate

section Ntp

def gwCfgJsonParseNtpServer (root : Json) (srvName : String) (addr : CStr gwCfgMaxNtpServerLen) :
    CStr gwCfgMaxNtpServerLen :=
  (jsonWrapCopyStringVal _ root srvName).getD addr

def gwCfgJsonParseNtpServers (root : Json) (cfg : GwCfgNtp) : GwCfgNtp :=
  { cfg with
    ntpServer1 := gwCfgJsonParseNtpServer root "ntp_server1" cfg.ntpServer1
    ntpServer2 := gwCfgJsonParseNtpServer root "ntp_server2" cfg.ntpServer2
    ntpServer3 := gwCfgJsonParseNtpServer root "ntp_server3" cfg.ntpServer3
    ntpServer4 := gwCfgJsonParseNtpServer root "ntp_server4" cfg.ntpServer4 }

def gwCfgJsonParseNtp (root : Json) (cfg : GwCfgNtp) : GwCfgNtp :=
  let cfg := { cfg with ntpUse := (jsonWrapGetBoolVal root "ntp_use").getD cfg.ntpUse }
  if cfg.ntpUse then
    let cfg :=
      { cfg with ntpUseDhcp := (jsonWrapGetBoolVal root "ntp_use_dhcp").getD cfg.ntpUseDhcp }
    if cfg.ntpUseDhcp then cfg else gwCfgJsonParseNtpServers root cfg
  else { cfg with ntpUseDhcp := false }

end Ntp

def gwCfgJsonParseFilter (root : Json) (cfg : GwCfgFilter) : Option GwCfgFilter := do
  let companyId ← jsonWrapGetUint16Val root "company_id"
  return {
    companyId := companyId.getD cfg.companyId
    companyUseFiltering :=
      (jsonWrapGetBoolVal root "company_use_filtering").getD cfg.companyUseFiltering }

section Scan

/-- The deprecated key `scan_extended_payload` was replaced with `scan_2mbit_phy`. -/
def gwCfgJsonParseScanFlags (root : Json) (cfg : GwCfgScan) : GwCfgScan :=
  { cfg with
    scanCodedPhy := (jsonWrapGetBoolVal root "scan_coded_phy").getD cfg.scanCodedPhy
    scan1mbitPhy := (jsonWrapGetBoolVal root "scan_1mbit_phy").getD cfg.scan1mbitPhy
    scan2mbitPhy :=
      (jsonWrapGetBoolVal root "scan_2mbit_phy").getD
        ((jsonWrapGetBoolVal root "scan_extended_payload").getD cfg.scan2mbitPhy)
    scanChannel37 := (jsonWrapGetBoolVal root "scan_channel_37").getD cfg.scanChannel37
    scanChannel38 := (jsonWrapGetBoolVal root "scan_channel_38").getD cfg.scanChannel38
    scanChannel39 := (jsonWrapGetBoolVal root "scan_channel_39").getD cfg.scanChannel39 }

def GwCfgScan.isDefault (cfg : GwCfgScan) : Bool :=
  !cfg.scanCodedPhy && cfg.scan1mbitPhy && cfg.scan2mbitPhy && cfg.scanChannel37 &&
    cfg.scanChannel38 && cfg.scanChannel39

def gwCfgJsonParseScan (root : Json) (default : Option GwCfgScan) (cfg : GwCfgScan) : GwCfgScan :=
  let scanDefault := jsonWrapGetBoolVal root "scan_default"
  let cfg := { cfg with scanDefault := scanDefault.getD cfg.scanDefault }
  if cfg.scanDefault then default.getD cfg
  else
    let cfg := gwCfgJsonParseScanFlags root cfg
    if (jsonWrapGetBoolVal root "scan_extended_payload").isSome ∧ scanDefault = none then
      if cfg.isDefault then { default.getD cfg with scanDefault := true }
      else { cfg with scanDefault := false }
    else cfg

end Scan

section ScanFilter

/-- The loop over the items, each of which is written to the entry of its index. -/
def gwCfgJsonParseScanFilterList (P : Platform) :
    List Json → List MacAddressBin → List MacAddressBin
  | item :: items, mac :: macs =>
    P.macAddrFromStr item.stringValue mac :: gwCfgJsonParseScanFilterList P items macs
  | _, macs => macs

theorem length_gwCfgJsonParseScanFilterList (items : List Json) (macs : List MacAddressBin) :
    (gwCfgJsonParseScanFilterList P items macs).length = macs.length := by
  induction items generalizing macs with
  | nil => simp [gwCfgJsonParseScanFilterList]
  | cons item items ih =>
    cases macs with
    | nil => rfl
    | cons mac macs => simp [gwCfgJsonParseScanFilterList, ih]

/-- The number of items is not limited: too many are written beyond the list. -/
def gwCfgJsonParseScanFilter (P : Platform) (root : Json) (cfg : GwCfgScanFilter) :
    Option GwCfgScanFilter :=
  let cfg := { cfg with
    scanFilterAllowListed :=
      (jsonWrapGetBoolVal root "scan_filter_allow_listed").getD cfg.scanFilterAllowListed }
  match root.getObjectItem "scan_filter_list" with
  | none => some cfg
  | some list =>
    if h : list.children.length ≤ gwCfgMaxNumSensors then
      some { cfg with
        scanFilterLength := list.children.length
        scanFilterList := gwCfgJsonParseScanFilterList P list.children cfg.scanFilterList
        size := (length_gwCfgJsonParseScanFilterList _ _).trans cfg.size
        bounded := h }
    else none

end ScanFilter

def gwCfgJsonParseFwUpdate (root : Json) (cfg : GwCfgFwUpdate) : GwCfgFwUpdate where
  fwUpdateUrl := (jsonWrapCopyStringVal _ root "fw_update_url").getD cfg.fwUpdateUrl

section Eth

def gwCfgJsonParseIp (root : Json) (attrName : String) (ipAddr : CStr gwCfgMaxIpAddrStrLen) :
    CStr gwCfgMaxIpAddrStrLen :=
  (jsonWrapCopyStringVal _ root attrName).getD ipAddr

/-- The static addresses, which are read if DHCP is off. -/
def gwCfgJsonParseEthDhcp (root : Json) (cfg : GwCfgEth) : GwCfgEth :=
  { cfg with
    ethStaticIp := gwCfgJsonParseIp root "eth_static_ip" cfg.ethStaticIp
    ethNetmask := gwCfgJsonParseIp root "eth_netmask" cfg.ethNetmask
    ethGw := gwCfgJsonParseIp root "eth_gw" cfg.ethGw
    ethDns1 := gwCfgJsonParseIp root "eth_dns1" cfg.ethDns1
    ethDns2 := gwCfgJsonParseIp root "eth_dns2" cfg.ethDns2 }

def gwCfgJsonParseEth (root : Json) (cfg : GwCfgEth) : GwCfgEth :=
  let cfg := { cfg with useEth := (jsonWrapGetBoolVal root "use_eth").getD cfg.useEth }
  if cfg.useEth then
    let cfg := { cfg with ethDhcp := (jsonWrapGetBoolVal root "eth_dhcp").getD cfg.ethDhcp }
    if cfg.ethDhcp then cfg else gwCfgJsonParseEthDhcp root cfg
  else cfg

end Eth

section Wifi

def gwCfgJsonParseWifiStaConfig (json : Json) (cfg : WifiStaConfig) : WifiStaConfig :=
  { cfg with
    ssid := (jsonWrapCopyStringVal _ json "ssid").getD cfg.ssid
    password := (jsonWrapCopyStringVal _ json "password").getD cfg.password }

def gwCfgJsonParseWifiApConfig (json : Json) (cfg : WifiApConfig) : Option WifiApConfig := do
  let channel ← jsonWrapGetUint8Val json "channel"
  let channel := channel.getD cfg.channel
  return { cfg with
    password := (jsonWrapCopyStringVal _ json "password").getD cfg.password
    channel := if channel = 0 then 1 else channel }

def gwCfgJsonParseWifiAp (root : Json) (cfg : WifimanConfigAp) : Option WifimanConfigAp :=
  match root.getObjectItem "wifi_ap_config" with
  | none => some cfg
  | some json => do
    let wifiConfigAp ← gwCfgJsonParseWifiApConfig json cfg.wifiConfigAp
    return { cfg with wifiConfigAp }

def gwCfgJsonParseWifiSta (root : Json) (cfg : WifimanConfigSta) : WifimanConfigSta :=
  match root.getObjectItem "wifi_sta_config" with
  | none => cfg
  | some json => { cfg with wifiConfigSta := gwCfgJsonParseWifiStaConfig json cfg.wifiConfigSta }

end Wifi

def gwCfgJsonParseCjsonRuuviCfg (root : Json) (default : Option (GwCfgRuuvi P))
    (cfg : GwCfgRuuvi P) : Option (GwCfgRuuvi P) := do
  let remote ← gwCfgJsonParseRemote root cfg.remote
  let http ← gwCfgJsonParseHttp P root cfg.http
  let mqtt ← gwCfgJsonParseMqtt P root (default.map (·.mqtt)) cfg.mqtt
  let autoUpdate ← gwCfgJsonParseAutoUpdate root cfg.autoUpdate
  let filter ← gwCfgJsonParseFilter root cfg.filter
  let scanFilter ← gwCfgJsonParseScanFilter P root cfg.scanFilter
  return {
    remote
    http
    httpStat := gwCfgJsonParseHttpStat root cfg.httpStat
    mqtt
    lanAuth := gwCfgJsonParseLanAuth root (default.map (·.lanAuth)) cfg.lanAuth
    autoUpdate
    ntp := gwCfgJsonParseNtp root cfg.ntp
    filter
    scan := gwCfgJsonParseScan root (default.map (·.scan)) cfg.scan
    scanFilter
    coordinates := (jsonWrapCopyStringVal _ root "coordinates").getD cfg.coordinates
    fwUpdate := gwCfgJsonParseFwUpdate root cfg.fwUpdate }

/-- The sections that a call of the parser is given. -/
structure Sections where
  ruuvi : Bool
  eth : Bool
  wifiAp : Bool
  wifiSta : Bool

/-- The log title and the device information are not modelled: no caller passes the latter. -/
def gwCfgJsonParseCjson (sections : Sections) (root : Json) (default : Option (GwCfg P))
    (cfg : GwCfg P) : Option (GwCfg P) := do
  let ruuviCfg ← (if sections.ruuvi then
      gwCfgJsonParseCjsonRuuviCfg root (default.map (·.ruuviCfg)) cfg.ruuviCfg
    else some cfg.ruuviCfg)
  let ap ← (if sections.wifiAp then gwCfgJsonParseWifiAp root cfg.wifiCfg.ap
    else some cfg.wifiCfg.ap)
  return { cfg with
    ruuviCfg
    ethCfg := if sections.eth then gwCfgJsonParseEth root cfg.ethCfg else cfg.ethCfg
    wifiCfg.ap := ap
    wifiCfg.sta :=
      if sections.wifiSta then gwCfgJsonParseWifiSta root cfg.wifiCfg.sta else cfg.wifiCfg.sta }

def gwCfgJsonParseCjsonRuuvi (root : Json) (default : GwCfg P) (cfg : GwCfg P) :
    Option (GwCfg P) :=
  gwCfgJsonParseCjson ⟨true, false, false, false⟩ root (some default) cfg

def gwCfgJsonParseCjsonEth (root : Json) (default : GwCfg P) (cfg : GwCfg P) :
    Option (GwCfg P) :=
  gwCfgJsonParseCjson ⟨false, true, false, false⟩ root (some default) cfg

def gwCfgJsonParseCjsonWifiAp (root : Json) (default : GwCfg P) (cfg : GwCfg P) :
    Option (GwCfg P) :=
  gwCfgJsonParseCjson ⟨false, true, true, false⟩ root (some default) cfg

/-- The text is represented by the JSON value that it parses to. -/
def gwCfgJsonParse (root : Json) (default : Option (GwCfg P)) (cfg : GwCfg P) :
    Option (GwCfg P) :=
  gwCfgJsonParseCjson ⟨true, true, true, true⟩ root default cfg

/-- The configuration after the call, and the flag for a network configuration. Access from the
local network passes no pointer for that flag. -/
def jsonRuuviParseHttpBody (root : Json) (flagAccessFromLan : Bool) (default : GwCfg P)
    (cfg : GwCfg P) : Option (GwCfg P × Bool) :=
  match (if flagAccessFromLan then none else jsonWrapGetBoolVal root "use_eth") with
  | none => (gwCfgJsonParseCjsonRuuvi root default cfg).map fun cfg => (cfg, false)
  | some useEth =>
    let cfg := { cfg with ethCfg := { default.ethCfg with useEth } }
    if useEth then (gwCfgJsonParseCjsonEth root default cfg).map fun cfg => (cfg, true)
    else (gwCfgJsonParseCjsonWifiAp root default cfg).map fun cfg => (cfg, true)

end RuuviGateway.Config
