import RuuviGateway.Config.Generate

/-!
# Comparing configurations

The comparisons decide what has to be applied and stored after a change. Each of them is
equality of what the configuration says: the credentials of an HTTP target count as far as its
type of authentication uses them, and the filter list counts up to its length.
-/

namespace RuuviGateway.Config

open General

variable {P : Platform}

section Model

/-- `ruuvi_gw_cfg_remote_cmp_auth_basic` and `ruuvi_gw_cfg_http_cmp_auth_basic`. -/
def cmpAuthBasic (a b : HttpAuth) : Bool := a.user == b.user && a.password == b.password

/-- The switch over the type of authentication. -/
def cmpAuth (authType : HttpAuthType) (a b : HttpAuth) : Bool :=
  match authType with
  | .none => true
  | .basic => cmpAuthBasic a b
  | .bearer | .token | .apikey => a.token == b.token

def ruuviGwCfgRemoteCmp (a b : GwCfgRemote) : Bool :=
  a.useRemoteCfg == b.useRemoteCfg && a.url.val == b.url.val && a.authType == b.authType &&
  cmpAuth a.authType a.auth b.auth && a.refreshIntervalMinutes == b.refreshIntervalMinutes &&
  a.useSslClientCert == b.useSslClientCert && a.useSslServerCert == b.useSslServerCert

def ruuviGwCfgHttpCmp (a b : GwCfgHttp) : Bool :=
  a.useHttpRuuvi == b.useHttpRuuvi && a.useHttp == b.useHttp &&
  a.httpUseSslClientCert == b.httpUseSslClientCert &&
  a.httpUseSslServerCert == b.httpUseSslServerCert && a.httpUrl.val == b.httpUrl.val &&
  a.httpPeriod == b.httpPeriod && a.dataFormat == b.dataFormat && a.authType == b.authType &&
  cmpAuth a.authType a.auth b.auth

def ruuviGwCfgHttpStatCmp (a b : GwCfgHttpStat) : Bool :=
  a.useHttpStat == b.useHttpStat && a.httpStatUseSslClientCert == b.httpStatUseSslClientCert &&
  a.httpStatUseSslServerCert == b.httpStatUseSslServerCert &&
  a.httpStatUrl.val == b.httpStatUrl.val && a.httpStatUser.val == b.httpStatUser.val &&
  a.httpStatPass.val == b.httpStatPass.val

def ruuviGwCfgMqttCmp (a b : GwCfgMqtt) : Bool :=
  a.useMqtt == b.useMqtt && a.mqttDisableRetainedMessages == b.mqttDisableRetainedMessages &&
  a.mqttTransport.val == b.mqttTransport.val && a.mqttDataFormat == b.mqttDataFormat &&
  a.mqttServer.val == b.mqttServer.val && a.mqttPort == b.mqttPort &&
  a.mqttSendingInterval == b.mqttSendingInterval && a.mqttPrefix.val == b.mqttPrefix.val &&
  a.mqttClientId.val == b.mqttClientId.val && a.mqttUser.val == b.mqttUser.val &&
  a.mqttPass.val == b.mqttPass.val && a.useSslClientCert == b.useSslClientCert &&
  a.useSslServerCert == b.useSslServerCert

def ruuviGwCfgLanAuthCmp (a b : GwCfgLanAuth P) : Bool :=
  a.lanAuthType == b.lanAuthType && a.lanAuthUser.val == b.lanAuthUser.val &&
  a.lanAuthPass.val == b.lanAuthPass.val && a.lanAuthApiKey.val == b.lanAuthApiKey.val &&
  a.lanAuthApiKeyRw.val == b.lanAuthApiKeyRw.val

def ruuviGwCfgAutoUpdateCmp (a b : GwCfgAutoUpdate) : Bool :=
  a.autoUpdateCycle == b.autoUpdateCycle &&
  a.autoUpdateWeekdaysBitmask == b.autoUpdateWeekdaysBitmask &&
  a.autoUpdateIntervalFrom == b.autoUpdateIntervalFrom &&
  a.autoUpdateIntervalTo == b.autoUpdateIntervalTo &&
  a.autoUpdateTzOffsetHours == b.autoUpdateTzOffsetHours

def ruuviGwCfgNtpCmp (a b : GwCfgNtp) : Bool :=
  a.ntpUse == b.ntpUse && a.ntpUseDhcp == b.ntpUseDhcp && a.ntpServer1.val == b.ntpServer1.val &&
  a.ntpServer2.val == b.ntpServer2.val && a.ntpServer3.val == b.ntpServer3.val &&
  a.ntpServer4.val == b.ntpServer4.val

def ruuviGwCfgFilterCmp (a b : GwCfgFilter) : Bool :=
  a.companyUseFiltering == b.companyUseFiltering && a.companyId == b.companyId

def ruuviGwCfgScanCmp (a b : GwCfgScan) : Bool :=
  a.scanCodedPhy == b.scanCodedPhy && a.scan1mbitPhy == b.scan1mbitPhy &&
  a.scan2mbitPhy == b.scan2mbitPhy && a.scanChannel37 == b.scanChannel37 &&
  a.scanChannel38 == b.scanChannel38 && a.scanChannel39 == b.scanChannel39 &&
  a.scanDefault == b.scanDefault

/-- The loop over the entries below the length, which both lists have. -/
def ruuviGwCfgScanFilterCmp (a b : GwCfgScanFilter) : Bool :=
  a.scanFilterAllowListed == b.scanFilterAllowListed && a.scanFilterLength == b.scanFilterLength &&
  (List.range a.scanFilterLength).all fun i => a.scanFilterList[i]? == b.scanFilterList[i]?

def ruuviGwCfgCoordinatesCmp (a b : CStr gwCfgMaxCoordinatesStrLen) : Bool := a.val == b.val

def ruuviGwCfgFwUpdateCmp (a b : GwCfgFwUpdate) : Bool := a.fwUpdateUrl.val == b.fwUpdateUrl.val

def gwCfgRuuviCmp (a b : GwCfgRuuvi P) : Bool :=
  ruuviGwCfgRemoteCmp a.remote b.remote && ruuviGwCfgHttpCmp a.http b.http &&
  ruuviGwCfgHttpStatCmp a.httpStat b.httpStat && ruuviGwCfgMqttCmp a.mqtt b.mqtt &&
  ruuviGwCfgLanAuthCmp a.lanAuth b.lanAuth && ruuviGwCfgAutoUpdateCmp a.autoUpdate b.autoUpdate &&
  ruuviGwCfgNtpCmp a.ntp b.ntp && ruuviGwCfgFilterCmp a.filter b.filter &&
  ruuviGwCfgScanCmp a.scan b.scan && ruuviGwCfgScanFilterCmp a.scanFilter b.scanFilter &&
  ruuviGwCfgCoordinatesCmp a.coordinates b.coordinates &&
    ruuviGwCfgFwUpdateCmp a.fwUpdate b.fwUpdate

def gwCfgEthCmp (a b : GwCfgEth) : Bool :=
  a.useEth == b.useEth && a.ethDhcp == b.ethDhcp && a.ethStaticIp.val == b.ethStaticIp.val &&
  a.ethNetmask.val == b.ethNetmask.val && a.ethGw.val == b.ethGw.val &&
  a.ethDns1.val == b.ethDns1.val && a.ethDns2.val == b.ethDns2.val

def wifimanConfigCmpConfigAp (a b : WifiApConfig) : Bool :=
  a.ssid.val == b.ssid.val && a.password.val == b.password.val && a.ssidLen == b.ssidLen &&
  a.channel == b.channel && a.authmode == b.authmode && a.ssidHidden == b.ssidHidden &&
  a.maxConnection == b.maxConnection && a.beaconInterval == b.beaconInterval

def wifimanConfigCmpSettingsAp (a b : WifiSettingsAp) : Bool :=
  a.apBandwidth == b.apBandwidth && a.apIp == b.apIp && a.apGw == b.apGw &&
  a.apNetmask == b.apNetmask

def wifimanConfigCmpStaConfig (a b : WifiStaConfig) : Bool :=
  a.ssid.val == b.ssid.val && a.password.val == b.password.val && a.scanMethod == b.scanMethod &&
  a.bssidSet == b.bssidSet && a.bssid == b.bssid && a.channel == b.channel &&
  a.listenInterval == b.listenInterval && a.sortMethod == b.sortMethod &&
  a.thresholdRssi == b.thresholdRssi && a.thresholdAuthmode == b.thresholdAuthmode &&
  a.pmfCfgCapable == b.pmfCfgCapable && a.pmfCfgRequired == b.pmfCfgRequired

def wifimanConfigCmpSettingsSta (a b : WifiSettingsSta) : Bool :=
  a.staPowerSave == b.staPowerSave && a.staStaticIp == b.staStaticIp &&
  a.staticIpAddr == b.staticIpAddr && a.staticIpNetmask == b.staticIpNetmask &&
  a.staticIpGw == b.staticIpGw

def wifimanConfigApCmp (a b : WifimanConfigAp) : Bool :=
  wifimanConfigCmpConfigAp a.wifiConfigAp b.wifiConfigAp &&
  wifimanConfigCmpSettingsAp a.wifiSettingsAp b.wifiSettingsAp

def wifimanConfigStaCmp (a b : WifimanConfigSta) : Bool :=
  wifimanConfigCmpStaConfig a.wifiConfigSta b.wifiConfigSta &&
  wifimanConfigCmpSettingsSta a.wifiSettingsSta b.wifiSettingsSta

end Model

section Significant

/-- The texts that a type of authentication uses. -/
def HttpAuth.credentials (auth : HttpAuth) : HttpAuthType → List Bytes
  | .none => []
  | .basic => [auth.user, auth.password]
  | .bearer | .token | .apikey => [auth.token]

def GwCfgRemote.significant (cfg : GwCfgRemote) : GwCfgRemote × List Bytes :=
  ({ cfg with auth := .zero }, cfg.auth.credentials cfg.authType)

def GwCfgHttp.significant (cfg : GwCfgHttp) : GwCfgHttp × List Bytes :=
  ({ cfg with auth := .zero }, cfg.auth.credentials cfg.authType)

def GwCfgScanFilter.significant (cfg : GwCfgScanFilter) : Bool × List MacAddressBin :=
  (cfg.scanFilterAllowListed, cfg.addresses)

theorem GwCfgScanFilter.length_addresses (cfg : GwCfgScanFilter) :
    cfg.addresses.length = cfg.scanFilterLength := by
  have hbounded : cfg.scanFilterLength ≤ 100 := cfg.bounded
  have hsize : cfg.scanFilterList.length = 100 := cfg.size
  rw [addresses, List.length_take]
  omega

/-- What a configuration says, which the comparison compares. -/
def GwCfgRuuvi.significant (cfg : GwCfgRuuvi P) :=
  ((cfg.remote.significant, cfg.http.significant, cfg.httpStat, cfg.mqtt, cfg.lanAuth),
    (cfg.autoUpdate, cfg.ntp, cfg.filter, cfg.scan, cfg.scanFilter.significant),
    cfg.coordinates, cfg.fwUpdate)

end Significant

section Iff

theorem cmpAuth_iff {authType : HttpAuthType} {a b : HttpAuth} :
    cmpAuth authType a b ↔ a.credentials authType = b.credentials authType := by
  cases authType <;> simp [cmpAuth, cmpAuthBasic, HttpAuth.credentials]

theorem ruuviGwCfgRemoteCmp_iff {a b : GwCfgRemote} :
    ruuviGwCfgRemoteCmp a b ↔ a.significant = b.significant := by
  cases a
  cases b
  simp only [ruuviGwCfgRemoteCmp, GwCfgRemote.significant, Bool.and_eq_true, beq_iff_eq,
    cmpAuth_iff, ← CStr.ext_iff, Prod.mk.injEq, GwCfgRemote.mk.injEq]
  grind

theorem ruuviGwCfgHttpCmp_iff {a b : GwCfgHttp} :
    ruuviGwCfgHttpCmp a b ↔ a.significant = b.significant := by
  cases a
  cases b
  simp only [ruuviGwCfgHttpCmp, GwCfgHttp.significant, Bool.and_eq_true, beq_iff_eq, cmpAuth_iff,
    ← CStr.ext_iff, Prod.mk.injEq, GwCfgHttp.mk.injEq]
  grind

theorem ruuviGwCfgHttpStatCmp_iff {a b : GwCfgHttpStat} : ruuviGwCfgHttpStatCmp a b ↔ a = b := by
  cases a
  cases b
  simp [ruuviGwCfgHttpStatCmp, ← CStr.ext_iff, and_assoc]

theorem ruuviGwCfgMqttCmp_iff {a b : GwCfgMqtt} : ruuviGwCfgMqttCmp a b ↔ a = b := by
  cases a
  cases b
  simp only [ruuviGwCfgMqttCmp, Bool.and_eq_true, beq_iff_eq, ← CStr.ext_iff, GwCfgMqtt.mk.injEq]
  tauto

theorem ruuviGwCfgLanAuthCmp_iff {a b : GwCfgLanAuth P} : ruuviGwCfgLanAuthCmp a b ↔ a = b := by
  cases a
  cases b
  simp [ruuviGwCfgLanAuthCmp, ← CStr.ext_iff, and_assoc]

theorem ruuviGwCfgAutoUpdateCmp_iff {a b : GwCfgAutoUpdate} :
    ruuviGwCfgAutoUpdateCmp a b ↔ a = b := by
  cases a
  cases b
  simp [ruuviGwCfgAutoUpdateCmp, and_assoc]

theorem ruuviGwCfgNtpCmp_iff {a b : GwCfgNtp} : ruuviGwCfgNtpCmp a b ↔ a = b := by
  cases a
  cases b
  simp [ruuviGwCfgNtpCmp, ← CStr.ext_iff, and_assoc]

theorem ruuviGwCfgFilterCmp_iff {a b : GwCfgFilter} : ruuviGwCfgFilterCmp a b ↔ a = b := by
  cases a
  cases b
  simp [ruuviGwCfgFilterCmp, and_comm]

theorem ruuviGwCfgScanCmp_iff {a b : GwCfgScan} : ruuviGwCfgScanCmp a b ↔ a = b := by
  cases a
  cases b
  simp [ruuviGwCfgScanCmp, and_assoc]

/-- The entries beyond the length are not compared. -/
theorem ruuviGwCfgScanFilterCmp_iff {a b : GwCfgScanFilter} :
    ruuviGwCfgScanFilterCmp a b ↔ a.significant = b.significant := by
  have hentries (n : ℕ) (s t : List MacAddressBin) :
      (∀ i < n, s[i]? = t[i]?) ↔ s.take n = t.take n := by
    rw [List.ext_getElem?_iff]
    simp only [List.getElem?_take]
    constructor
    · intro h i
      by_cases hi : i < n <;> simp [hi, h]
    · intro h i hi
      simpa [hi] using h i
  simp only [ruuviGwCfgScanFilterCmp, GwCfgScanFilter.significant, Bool.and_eq_true, beq_iff_eq,
    List.all_eq_true, List.mem_range, Prod.mk.injEq, hentries, and_assoc, GwCfgScanFilter.addresses]
  constructor
  · rintro ⟨hallow, hlen, hlist⟩
    exact ⟨hallow, hlen ▸ hlist⟩
  · rintro ⟨hallow, hlist⟩
    have hlen : a.scanFilterLength = b.scanFilterLength := by
      rw [← a.length_addresses, ← b.length_addresses]
      exact congrArg List.length hlist
    exact ⟨hallow, hlen, hlen.symm ▸ hlist⟩

theorem gwCfgRuuviCmp_iff {a b : GwCfgRuuvi P} :
    gwCfgRuuviCmp a b ↔ a.significant = b.significant := by
  simp only [gwCfgRuuviCmp, GwCfgRuuvi.significant, Bool.and_eq_true, Prod.mk.injEq,
    ruuviGwCfgRemoteCmp_iff, ruuviGwCfgHttpCmp_iff, ruuviGwCfgHttpStatCmp_iff,
    ruuviGwCfgMqttCmp_iff, ruuviGwCfgLanAuthCmp_iff, ruuviGwCfgAutoUpdateCmp_iff,
    ruuviGwCfgNtpCmp_iff, ruuviGwCfgFilterCmp_iff, ruuviGwCfgScanCmp_iff,
    ruuviGwCfgScanFilterCmp_iff, ruuviGwCfgCoordinatesCmp, ruuviGwCfgFwUpdateCmp, beq_iff_eq,
    ← CStr.ext_iff, and_assoc]
  have hurl : a.fwUpdate.fwUpdateUrl = b.fwUpdate.fwUpdateUrl ↔ a.fwUpdate = b.fwUpdate := by
    cases a.fwUpdate
    cases b.fwUpdate
    simp
  rw [hurl]

theorem gwCfgEthCmp_iff {a b : GwCfgEth} : gwCfgEthCmp a b ↔ a = b := by
  cases a
  cases b
  simp [gwCfgEthCmp, ← CStr.ext_iff, and_assoc]

theorem wifimanConfigApCmp_iff {a b : WifimanConfigAp} : wifimanConfigApCmp a b ↔ a = b := by
  rcases a with ⟨⟨⟩, ⟨⟩⟩
  rcases b with ⟨⟨⟩, ⟨⟩⟩
  simp [wifimanConfigApCmp, wifimanConfigCmpConfigAp, wifimanConfigCmpSettingsAp, ← CStr.ext_iff,
    and_assoc]

theorem wifimanConfigStaCmp_iff {a b : WifimanConfigSta} : wifimanConfigStaCmp a b ↔ a = b := by
  rcases a with ⟨⟨⟩, ⟨⟩⟩
  rcases b with ⟨⟨⟩, ⟨⟩⟩
  simp [wifimanConfigStaCmp, wifimanConfigCmpStaConfig, wifimanConfigCmpSettingsSta,
    ← CStr.ext_iff, and_assoc]

end Iff

end RuuviGateway.Config
