import RuuviGateway.Config.Default

/-!
# Generating the JSON of a configuration

Every generator returns the items that it adds, in their order. With `hide` the items are those
for the browser: without the passwords, and with information about the device.
-/

namespace RuuviGateway.Config

open General

variable {P : Platform}

abbrev Items := List (String × Json)

def gwCfgAuthTypeToStr (default cfg : GwCfgLanAuth P) : Bytes :=
  P.httpServerAuthTypeToStr <|
    if cfg.lanAuthType = .ruuvi ∧ cfg.sameCredentials default then .default else cfg.lanAuthType

/-- What the storage with the certificates answers. -/
structure GwCfgStorage where
  check : Bool
  checkFile : String → Bool

def gwCfgStorageListOfAllowedFiles : List String :=
  ["http_cli_cert", "http_cli_key", "stat_cli_cert", "stat_cli_key", "mqtt_cli_cert",
    "mqtt_cli_key", "rcfg_cli_cert", "rcfg_cli_key", "http_srv_cert", "stat_srv_cert",
    "mqtt_srv_cert", "rcfg_srv_cert"]

def gwCfgJsonAddItemsDeviceInfoStorageFiles (storage : GwCfgStorage) : Items :=
  gwCfgStorageListOfAllowedFiles.map fun fileName => (fileName, .bool (storage.checkFile fileName))

def gwCfgJsonAddItemsDeviceInfo (storage : GwCfgStorage) (devInfo : GwCfgDeviceInfo) : Items :=
  [("fw_ver", .string devInfo.esp32FwVer),
    ("nrf52_fw_ver", .string devInfo.nrf52FwVer),
    ("gw_mac", .string devInfo.nrf52MacAddr),
    ("storage", .object (("storage_ready", .bool storage.check) ::
      if storage.check then gwCfgJsonAddItemsDeviceInfoStorageFiles storage else []))]

def gwCfgJsonAddItemsWifiStaConfig (cfg : WifimanConfig) (hide : Bool) : Items :=
  [("wifi_sta_config", .object (("ssid", .string cfg.sta.wifiConfigSta.ssid.val) ::
    if hide then [] else [("password", .string cfg.sta.wifiConfigSta.password.val)]))]

def gwCfgJsonAddItemsWifiApConfig (cfg : WifimanConfig) (hide : Bool) : Items :=
  let ap := cfg.ap.wifiConfigAp
  let channel : UInt8 := if ap.channel ≠ 0 then ap.channel else 1
  [("wifi_ap_config", .object ((if hide then [] else [("password", .string ap.password.val)]) ++
    [("channel", .number channel.toNat)]))]

def gwCfgJsonAddItemsEth (cfg : GwCfgEth) : Items :=
  [("use_eth", .bool cfg.useEth),
    ("eth_dhcp", .bool cfg.ethDhcp),
    ("eth_static_ip", .string cfg.ethStaticIp.val),
    ("eth_netmask", .string cfg.ethNetmask.val),
    ("eth_gw", .string cfg.ethGw.val),
    ("eth_dns1", .string cfg.ethDns1.val),
    ("eth_dns2", .string cfg.ethDns2.val)]

def addItemsAuthBasic (typeKey userKey passKey : String) (auth : HttpAuth) (hide : Bool) : Items :=
  [(typeKey, .string (ascii "basic")), (userKey, .string auth.user)] ++
    if hide then [] else [(passKey, .string auth.password)]

def addItemsAuthToken (typeKey typeStr tokenKey : String) (auth : HttpAuth) (hide : Bool) : Items :=
  (typeKey, .string (ascii typeStr)) :: if hide then [] else [(tokenKey, .string auth.token)]

section Remote

def gwCfgJsonAddItemsRemoteAuthBasic : HttpAuth → Bool → Items :=
  addItemsAuthBasic "remote_cfg_auth_type" "remote_cfg_auth_basic_user" "remote_cfg_auth_basic_pass"

def gwCfgJsonAddItemsRemoteAuthBearer : HttpAuth → Bool → Items :=
  addItemsAuthToken "remote_cfg_auth_type" "bearer" "remote_cfg_auth_bearer_token"

def gwCfgJsonAddItemsRemoteAuthToken : HttpAuth → Bool → Items :=
  addItemsAuthToken "remote_cfg_auth_type" "token" "remote_cfg_auth_token"

def gwCfgJsonAddItemsRemoteAuthApikey : HttpAuth → Bool → Items :=
  addItemsAuthToken "remote_cfg_auth_type" "api_key" "remote_cfg_auth_apikey"

def gwCfgJsonAddItemsRemoteAuth (authType : HttpAuthType) (auth : HttpAuth) (hide : Bool) :
    Items :=
  match authType with
  | .none => [("remote_cfg_auth_type", .string (ascii "none"))]
  | .basic => gwCfgJsonAddItemsRemoteAuthBasic auth hide
  | .bearer => gwCfgJsonAddItemsRemoteAuthBearer auth hide
  | .token => gwCfgJsonAddItemsRemoteAuthToken auth hide
  | .apikey => gwCfgJsonAddItemsRemoteAuthApikey auth hide

def gwCfgJsonAddItemsRemote (cfg : GwCfgRemote) (hide : Bool) : Items :=
  [("remote_cfg_use", .bool cfg.useRemoteCfg),
    ("remote_cfg_url", .string cfg.url.val)] ++
  gwCfgJsonAddItemsRemoteAuth cfg.authType cfg.auth hide ++
  [("remote_cfg_use_ssl_client_cert", .bool cfg.useSslClientCert),
    ("remote_cfg_use_ssl_server_cert", .bool cfg.useSslServerCert),
    ("remote_cfg_refresh_interval_minutes", .number cfg.refreshIntervalMinutes.toNat)]

end Remote

section Http

def gwCfgJsonAddItemsHttpDefault : Items :=
  [("use_http_ruuvi", .bool true),
    ("use_http", .bool true),
    ("http_url", .string ruuviGatewayHttpDefaultUrl),
    ("http_data_format", .string (ascii "ruuvi")),
    ("http_auth", .string (ascii "none"))]

def gwCfgJsonAddItemsHttpCustomAuthBasic : HttpAuth → Bool → Items :=
  addItemsAuthBasic "http_auth" "http_user" "http_pass"

def gwCfgJsonAddItemsHttpCustomAuthBearer : HttpAuth → Bool → Items :=
  addItemsAuthToken "http_auth" "bearer" "http_bearer_token"

def gwCfgJsonAddItemsHttpCustomAuthToken : HttpAuth → Bool → Items :=
  addItemsAuthToken "http_auth" "token" "http_api_key"

def gwCfgJsonAddItemsHttpCustomAuthApikey : HttpAuth → Bool → Items :=
  addItemsAuthToken "http_auth" "api_key" "http_api_key"

def gwCfgJsonAddItemsHttpCustomAuth (authType : HttpAuthType) (auth : HttpAuth) (hide : Bool) :
    Items :=
  match authType with
  | .none => [("http_auth", .string (ascii "none"))]
  | .basic => gwCfgJsonAddItemsHttpCustomAuthBasic auth hide
  | .bearer => gwCfgJsonAddItemsHttpCustomAuthBearer auth hide
  | .token => gwCfgJsonAddItemsHttpCustomAuthToken auth hide
  | .apikey => gwCfgJsonAddItemsHttpCustomAuthApikey auth hide

def httpDataFormatStr : HttpDataFormat → Bytes
  | .ruuvi => ascii "ruuvi"
  | .ruuviRawAndDecoded => ascii "ruuvi_raw_and_decoded"
  | .ruuviDecoded => ascii "ruuvi_decoded"

def gwCfgJsonAddItemsHttpCustomParams (cfg : GwCfgHttp) (hide : Bool) : Items :=
  [("http_use_ssl_client_cert", .bool cfg.httpUseSslClientCert),
    ("http_use_ssl_server_cert", .bool cfg.httpUseSslServerCert),
    ("http_url", .string cfg.httpUrl.val),
    ("http_period", .number cfg.httpPeriod.toNat),
    ("http_data_format", .string (httpDataFormatStr cfg.dataFormat))] ++
  gwCfgJsonAddItemsHttpCustomAuth cfg.authType cfg.auth hide

def gwCfgJsonAddItemsHttp (cfg : GwCfgHttp) (hide : Bool) : Items :=
  if cfg.useHttpRuuvi ∧ ¬cfg.useHttp then gwCfgJsonAddItemsHttpDefault
  else if cfg.useHttp ∧ cfg.isDefaultTarget then gwCfgJsonAddItemsHttpDefault
  else
    [("use_http_ruuvi", .bool cfg.useHttpRuuvi),
      ("use_http", .bool cfg.useHttp)] ++
      if cfg.useHttp then gwCfgJsonAddItemsHttpCustomParams cfg hide else []

end Http

def gwCfgJsonAddItemsHttpStat (cfg : GwCfgHttpStat) (hide : Bool) : Items :=
  [("use_http_stat", .bool cfg.useHttpStat),
    ("http_stat_url", .string cfg.httpStatUrl.val),
    ("http_stat_user", .string cfg.httpStatUser.val)] ++
  (if hide then [] else [("http_stat_pass", .string cfg.httpStatPass.val)]) ++
  [("http_stat_use_ssl_client_cert", .bool cfg.httpStatUseSslClientCert),
    ("http_stat_use_ssl_server_cert", .bool cfg.httpStatUseSslServerCert)]

def mqttDataFormatStr : MqttDataFormat → Bytes
  | .ruuviRaw => ascii "ruuvi_raw"
  | .ruuviRawAndDecoded => ascii "ruuvi_raw_and_decoded"
  | .ruuviDecoded => ascii "ruuvi_decoded"

def gwCfgJsonAddItemsMqtt (cfg : GwCfgMqtt) (hide : Bool) : Items :=
  [("use_mqtt", .bool cfg.useMqtt),
    ("mqtt_disable_retained_messages", .bool cfg.mqttDisableRetainedMessages),
    ("mqtt_transport", .string cfg.mqttTransport.val),
    ("mqtt_data_format", .string (mqttDataFormatStr cfg.mqttDataFormat)),
    ("mqtt_server", .string cfg.mqttServer.val),
    ("mqtt_port", .number cfg.mqttPort.toNat),
    ("mqtt_sending_interval", .number cfg.mqttSendingInterval.toNat),
    ("mqtt_prefix", .string cfg.mqttPrefix.val),
    ("mqtt_client_id", .string cfg.mqttClientId.val),
    ("mqtt_user", .string cfg.mqttUser.val)] ++
  (if hide then [] else [("mqtt_pass", .string cfg.mqttPass.val)]) ++
  [("mqtt_use_ssl_client_cert", .bool cfg.useSslClientCert),
    ("mqtt_use_ssl_server_cert", .bool cfg.useSslServerCert)]

section LanAuth

def gwCfgJsonAddItemsLanAuthPass (cfg : GwCfgLanAuth P) : Items :=
  match cfg.lanAuthType with
  | .basic | .digest | .ruuvi => [("lan_auth_pass", .string cfg.lanAuthPass.val)]
  | .default | .allow | .deny | .bearer => []

def gwCfgJsonAddItemsLanAuth (default cfg : GwCfgLanAuth P) (hide : Bool) : Items :=
  [("lan_auth_type", .string (gwCfgAuthTypeToStr default cfg)),
    ("lan_auth_user", .string cfg.lanAuthUser.val)] ++
  if hide then
    [("lan_auth_api_key_use", .bool (cfg.lanAuthApiKey.val != [])),
      ("lan_auth_api_key_rw_use", .bool (cfg.lanAuthApiKeyRw.val != []))]
  else
    gwCfgJsonAddItemsLanAuthPass cfg ++
    [("lan_auth_api_key", .string cfg.lanAuthApiKey.val),
      ("lan_auth_api_key_rw", .string cfg.lanAuthApiKeyRw.val)]

end LanAuth

def gwCfgJsonConvAutoUpdateCycleToStr : AutoUpdateCycleType → Bytes
  | .regular => ascii "regular"
  | .betaTester => ascii "beta"
  | .manual => ascii "manual"

def gwCfgJsonAddItemsAutoUpdate (cfg : GwCfgAutoUpdate) : Items :=
  [("auto_update_cycle", .string (gwCfgJsonConvAutoUpdateCycleToStr cfg.autoUpdateCycle)),
    ("auto_update_weekdays_bitmask", .number cfg.autoUpdateWeekdaysBitmask.toNat),
    ("auto_update_interval_from", .number cfg.autoUpdateIntervalFrom.toNat),
    ("auto_update_interval_to", .number cfg.autoUpdateIntervalTo.toNat),
    ("auto_update_tz_offset_hours", .number cfg.autoUpdateTzOffsetHours.toInt)]

def gwCfgJsonAddItemsNtp (cfg : GwCfgNtp) : Items :=
  [("ntp_use", .bool cfg.ntpUse),
    ("ntp_use_dhcp", .bool cfg.ntpUseDhcp),
    ("ntp_server1", .string cfg.ntpServer1.val),
    ("ntp_server2", .string cfg.ntpServer2.val),
    ("ntp_server3", .string cfg.ntpServer3.val),
    ("ntp_server4", .string cfg.ntpServer4.val)]

def gwCfgJsonAddItemsFilter (cfg : GwCfgFilter) : Items :=
  [("company_id", .number cfg.companyId.toNat),
    ("company_use_filtering", .bool cfg.companyUseFiltering)]

def gwCfgJsonAddItemsScan (cfg : GwCfgScan) : Items :=
  [("scan_coded_phy", .bool cfg.scanCodedPhy),
    ("scan_1mbit_phy", .bool cfg.scan1mbitPhy),
    ("scan_2mbit_phy", .bool cfg.scan2mbitPhy),
    ("scan_channel_37", .bool cfg.scanChannel37),
    ("scan_channel_38", .bool cfg.scanChannel38),
    ("scan_channel_39", .bool cfg.scanChannel39),
    ("scan_default", .bool cfg.scanDefault)]

/-- The addresses in use, the first `scan_filter_length` of the list. -/
def GwCfgScanFilter.addresses (cfg : GwCfgScanFilter) : List MacAddressBin :=
  cfg.scanFilterList.take cfg.scanFilterLength

def gwCfgJsonAddItemsScanFilter (P : Platform) (cfg : GwCfgScanFilter) : Items :=
  [("scan_filter_allow_listed", .bool cfg.scanFilterAllowListed),
    ("scan_filter_list", .array (cfg.addresses.map fun mac => .string (P.macAddressToStr mac)))]

def gwCfgJsonAddItemsFwUpdate (cfg : GwCfgFwUpdate) : Items :=
  [("fw_update_url", .string cfg.fwUpdateUrl.val)]

def gwCfgJsonAddItemsRuuvi (default : GwCfgLanAuth P) (cfg : GwCfgRuuvi P) (hide : Bool) : Items :=
  gwCfgJsonAddItemsRemote cfg.remote hide ++
  gwCfgJsonAddItemsHttp cfg.http hide ++
  gwCfgJsonAddItemsHttpStat cfg.httpStat hide ++
  gwCfgJsonAddItemsMqtt cfg.mqtt hide ++
  gwCfgJsonAddItemsLanAuth default cfg.lanAuth hide ++
  gwCfgJsonAddItemsAutoUpdate cfg.autoUpdate ++
  gwCfgJsonAddItemsNtp cfg.ntp ++
  gwCfgJsonAddItemsFilter cfg.filter ++
  gwCfgJsonAddItemsScan cfg.scan ++
  gwCfgJsonAddItemsScanFilter P cfg.scanFilter ++
  ("coordinates", .string cfg.coordinates.val) ::
  gwCfgJsonAddItemsFwUpdate cfg.fwUpdate

def gwCfgJsonAddItems (storage : GwCfgStorage) (default cfg : GwCfg P) (hide : Bool) : Items :=
  (if hide then gwCfgJsonAddItemsDeviceInfo storage cfg.deviceInfo else []) ++
  gwCfgJsonAddItemsWifiStaConfig cfg.wifiCfg hide ++
  gwCfgJsonAddItemsWifiApConfig cfg.wifiCfg hide ++
  gwCfgJsonAddItemsEth cfg.ethCfg ++
  gwCfgJsonAddItemsRuuvi default.ruuviCfg.lanAuth cfg.ruuviCfg hide

def gwCfgJsonGenerateForSaving (storage : GwCfgStorage) (default cfg : GwCfg P) : Json :=
  .object (gwCfgJsonAddItems storage default cfg false)

def gwCfgJsonGenerateForUiClient (storage : GwCfgStorage) (default cfg : GwCfg P) : Json :=
  .object (gwCfgJsonAddItems storage default cfg true)

end RuuviGateway.Config
