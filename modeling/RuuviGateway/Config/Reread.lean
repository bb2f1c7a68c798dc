import RuuviGateway.Config.Compare
import RuuviGateway.Config.Keys

/-!
# Reading back what was generated

For each section, the result of parsing the items of `cfg` over a section `old`. A
secret comes from `cfg` if it was written and from `old` if it was hidden.
-/

namespace RuuviGateway.Config

open General

variable {P : Platform} {root : Json}

section Common

theorem reread_autoUpdateCycle {cycle old : AutoUpdateCycleType}
    (h : root.getObjectItem "auto_update_cycle" =
      some (.string (gwCfgJsonConvAutoUpdateCycleToStr cycle))) :
    gwCfgJsonParseAutoUpdateCycle root old = cycle := by
  rw [gwCfgJsonParseAutoUpdateCycle, copyStringVal_string h]
  cases cycle <;> rfl

theorem reread_autoUpdate {cfg old : GwCfgAutoUpdate}
    (h : root.Contains (gwCfgJsonAddItemsAutoUpdate cfg)) :
    gwCfgJsonParseAutoUpdate root old = some cfg := by
  simp only [gwCfgJsonAddItemsAutoUpdate, Json.contains_cons] at h
  obtain ⟨hcycle, hdays, hfrom, hto, htz, -⟩ := h
  simp [gwCfgJsonParseAutoUpdate, reread_autoUpdateCycle hcycle, getUint8Val_number hdays,
    getUint8Val_number hfrom, getUint8Val_number hto, getInt8Val_number htz]

theorem reread_filter {cfg old : GwCfgFilter} (h : root.Contains (gwCfgJsonAddItemsFilter cfg)) :
    gwCfgJsonParseFilter root old = some cfg := by
  simp only [gwCfgJsonAddItemsFilter, Json.contains_cons] at h
  obtain ⟨hcompany, huse, -⟩ := h
  simp [gwCfgJsonParseFilter, getUint16Val_number hcompany, getBoolVal_bool huse]

/-- The servers are read only if they are in use. -/
def GwCfgNtp.parsedOver (cfg old : GwCfgNtp) : GwCfgNtp :=
  if cfg.ntpUse then
    if cfg.ntpUseDhcp then { old with ntpUse := true, ntpUseDhcp := true } else cfg
  else { old with ntpUse := false, ntpUseDhcp := false }

theorem reread_ntp {cfg old : GwCfgNtp} (h : root.Contains (gwCfgJsonAddItemsNtp cfg)) :
    gwCfgJsonParseNtp root old = cfg.parsedOver old := by
  simp only [gwCfgJsonAddItemsNtp, Json.contains_cons] at h
  obtain ⟨huse, hdhcp, h1, h2, h3, h4, -⟩ := h
  cases cfg with
  | mk ntpUse ntpUseDhcp server1 server2 server3 server4 =>
    cases ntpUse <;> cases ntpUseDhcp <;>
      simp [gwCfgJsonParseNtp, gwCfgJsonParseNtpServers, gwCfgJsonParseNtpServer,
        GwCfgNtp.parsedOver,
        getBoolVal_bool huse, getBoolVal_bool hdhcp, copyStringVal_val h1, copyStringVal_val h2,
        copyStringVal_val h3, copyStringVal_val h4]

def GwCfgScan.parsedOver (default cfg : GwCfgScan) : GwCfgScan :=
  if cfg.scanDefault then default else cfg

theorem reread_scan {default cfg old : GwCfgScan} (h : root.Contains (gwCfgJsonAddItemsScan cfg))
    (hdeprecated : root.getObjectItem "scan_extended_payload" = none) :
    gwCfgJsonParseScan root (some default) old = GwCfgScan.parsedOver default cfg := by
  simp only [gwCfgJsonAddItemsScan, Json.contains_cons] at h
  obtain ⟨hcoded, h1m, h2m, h37, h38, h39, hdefault, -⟩ := h
  cases cfg with
  | mk coded p1 p2 c37 c38 c39 scanDefault =>
    cases scanDefault <;>
      simp [gwCfgJsonParseScan, gwCfgJsonParseScanFlags, GwCfgScan.parsedOver,
        getBoolVal_bool hdefault,
        getBoolVal_bool hcoded, getBoolVal_bool h1m, getBoolVal_bool h2m, getBoolVal_bool h37,
        getBoolVal_bool h38, getBoolVal_bool h39, getBoolVal_none hdeprecated]

/-- The addresses are read only if they are in use. -/
def GwCfgEth.parsedOver (cfg old : GwCfgEth) : GwCfgEth :=
  if cfg.useEth then
    if cfg.ethDhcp then { old with useEth := true, ethDhcp := true } else cfg
  else { old with useEth := false }

theorem reread_eth {cfg old : GwCfgEth} (h : root.Contains (gwCfgJsonAddItemsEth cfg)) :
    gwCfgJsonParseEth root old = cfg.parsedOver old := by
  simp only [gwCfgJsonAddItemsEth, Json.contains_cons] at h
  obtain ⟨huse, hdhcp, hip, hmask, hgw, hdns1, hdns2, -⟩ := h
  cases cfg with
  | mk useEth ethDhcp ip mask gw dns1 dns2 =>
    cases useEth <;> cases ethDhcp <;>
      simp [gwCfgJsonParseEth, gwCfgJsonParseEthDhcp, gwCfgJsonParseIp, GwCfgEth.parsedOver,
        getBoolVal_bool huse, getBoolVal_bool hdhcp, copyStringVal_val hip, copyStringVal_val hmask,
        copyStringVal_val hgw, copyStringVal_val hdns1, copyStringVal_val hdns2]

end Common

section ScanFilter

theorem reread_scanFilterList (hP : P.Lawful) {macs olds : List MacAddressBin}
    (h : macs.length ≤ olds.length) :
    gwCfgJsonParseScanFilterList P (macs.map fun mac => .string (P.macAddressToStr mac)) olds =
      macs ++ olds.drop macs.length := by
  induction macs generalizing olds with
  | nil => simp [gwCfgJsonParseScanFilterList]
  | cons mac macs ih =>
    cases olds with
    | nil => simp at h
    | cons old olds =>
      have htail : macs.length ≤ olds.length := by simpa using h
      simp [gwCfgJsonParseScanFilterList, Json.stringValue, cstr_of_noNul (hP.macNoNul mac), hP.mac,
        ih htail]

/-- The addresses in use, followed by what stands behind them in another list. -/
def GwCfgScanFilter.parsedOver (cfg old : GwCfgScanFilter) : GwCfgScanFilter :=
  { cfg with
    scanFilterList := cfg.addresses ++ old.scanFilterList.drop cfg.scanFilterLength
    size := by
      rw [List.length_append, List.length_drop, cfg.length_addresses, old.size]
      exact Nat.add_sub_cancel' cfg.bounded }

theorem GwCfgScanFilter.significant_parsedOver (cfg old : GwCfgScanFilter) :
    (cfg.parsedOver old).significant = cfg.significant := by
  have haddresses : (cfg.parsedOver old).addresses = cfg.addresses :=
    List.take_left' cfg.length_addresses
  rw [significant, haddresses]
  rfl

theorem GwCfgScanFilter.parsedOver_self (cfg : GwCfgScanFilter) : cfg.parsedOver cfg = cfg := by
  simp [parsedOver, addresses]

theorem reread_scanFilter (hP : P.Lawful) {cfg old : GwCfgScanFilter}
    (h : root.Contains (gwCfgJsonAddItemsScanFilter P cfg)) :
    gwCfgJsonParseScanFilter P root old = some (cfg.parsedOver old) := by
  simp only [gwCfgJsonAddItemsScanFilter, Json.contains_cons] at h
  obtain ⟨hallow, hlist, -⟩ := h
  have hlen := cfg.length_addresses
  have hle : cfg.addresses.length ≤ old.scanFilterList.length := by
    rw [hlen, old.size]
    exact cfg.bounded
  simp [gwCfgJsonParseScanFilter, hlist, Json.children, hlen, cfg.bounded, getBoolVal_bool hallow,
    reread_scanFilterList hP hle, GwCfgScanFilter.parsedOver]

end ScanFilter

section Targets

/-- A secret that is written unless it is hidden. -/
theorem copyStringVal_secret {n : ℕ} [NeZero n] {key : String} {hide : Bool} {s old : CStr n}
    (h : root.Contains (if hide then [] else [(key, .string s.val)]))
    (hlacks : hide = true → root.getObjectItem key = none) :
    (jsonWrapCopyStringVal n root key).getD old = if hide then old else s := by
  cases hide
  · simp [copyStringVal_val (Json.contains_cons.mp h).1]
  · simp [copyStringVal_none (hlacks rfl)]

def GwCfgHttpStat.parsedOver (cfg old : GwCfgHttpStat) (hide : Bool) : GwCfgHttpStat :=
  { cfg with
    httpStatUseSslClientCert :=
      if cfg.useHttpStat then cfg.httpStatUseSslClientCert else old.httpStatUseSslClientCert
    httpStatUseSslServerCert :=
      if cfg.useHttpStat then cfg.httpStatUseSslServerCert else old.httpStatUseSslServerCert
    httpStatPass := if hide then old.httpStatPass else cfg.httpStatPass }

theorem reread_httpStat {cfg old : GwCfgHttpStat} {hide : Bool}
    (h : root.Contains (gwCfgJsonAddItemsHttpStat cfg hide))
    (hlacks : hide = true → root.getObjectItem "http_stat_pass" = none) :
    gwCfgJsonParseHttpStat root old = cfg.parsedOver old hide := by
  simp only [gwCfgJsonAddItemsHttpStat, Json.contains_append, Json.contains_cons] at h
  obtain ⟨⟨⟨huse, hurl, huser, -⟩, hpass⟩, hclient, hserver, -⟩ := h
  simp [gwCfgJsonParseHttpStat, GwCfgHttpStat.parsedOver, getBoolVal_bool huse,
    getBoolVal_bool hclient,
    getBoolVal_bool hserver, copyStringVal_val hurl, copyStringVal_val huser,
    copyStringVal_secret hpass hlacks]

/-- The default stands in for an empty text. -/
def CStr.orDefault {n : ℕ} (s default : CStr n) : CStr n := if s.val = [] then default else s

def GwCfgMqtt.parsedOver (default cfg old : GwCfgMqtt) (hide : Bool) : GwCfgMqtt :=
  { cfg with
    useSslClientCert := if cfg.useMqtt then cfg.useSslClientCert else old.useSslClientCert
    useSslServerCert := if cfg.useMqtt then cfg.useSslServerCert else old.useSslServerCert
    mqttPrefix := CStr.orDefault cfg.mqttPrefix default.mqttPrefix
    mqttClientId := CStr.orDefault cfg.mqttClientId default.mqttClientId
    mqttPass := if hide then old.mqttPass else cfg.mqttPass }

theorem reread_mqttDataFormat {format : MqttDataFormat}
    (h : root.getObjectItem "mqtt_data_format" = some (.string (mqttDataFormatStr format))) :
    gwCfgJsonParseMqttDataFormat root = format := by
  rw [gwCfgJsonParseMqttDataFormat, copyStringVal_string h]
  cases format <;> rfl

theorem reread_mqttNonEmpty {n : ℕ} [NeZero n] {key : String} {s default old : CStr n}
    (h : root.getObjectItem key = some (.string s.val)) :
    gwCfgJsonParseMqttNonEmpty root key (some default) old = CStr.orDefault s default := by
  simp [gwCfgJsonParseMqttNonEmpty, copyStringVal_val h, CStr.orDefault]

theorem reread_mqtt {default cfg old : GwCfgMqtt} {hide : Bool}
    (h : root.Contains (gwCfgJsonAddItemsMqtt cfg hide))
    (hlacks : hide = true → root.getObjectItem "mqtt_pass" = none)
    (hinterval : cfg.mqttSendingInterval.toNat < 0x10000) :
    gwCfgJsonParseMqtt P root (some default) old =
      some (GwCfgMqtt.parsedOver default cfg old hide) := by
  simp only [gwCfgJsonAddItemsMqtt, Json.contains_append, Json.contains_cons] at h
  obtain ⟨⟨⟨huse, hretained, htransport, hformat, hserver, hport, hint, hpre, hid, huser, -⟩,
    hpass⟩, hclient, hcert, -⟩ := h
  simp [gwCfgJsonParseMqtt, GwCfgMqtt.parsedOver, getBoolVal_bool huse, getBoolVal_bool hretained,
    copyStringVal_val htransport, reread_mqttDataFormat hformat, copyStringVal_val hserver,
    getUint16Val_number hport, getUint32Val_number hinterval hint, reread_mqttNonEmpty hpre,
    reread_mqttNonEmpty hid, copyStringVal_val huser, getBoolVal_bool hclient,
    getBoolVal_bool hcert, copyStringVal_secret hpass hlacks]

end Targets

section LanAuth

/-- User and password depend on the type. -/
def GwCfgLanAuth.parsedOver (default cfg old : GwCfgLanAuth P) (hide : Bool) : GwCfgLanAuth P :=
  let user := match cfg.lanAuthType with
    | .basic | .digest | .ruuvi => (cfg.lanAuthUser, cfg.lanAuthPass)
    | .default => (default.lanAuthUser, default.lanAuthPass)
    | .allow | .deny | .bearer => (.empty, .empty)
  { lanAuthType := cfg.lanAuthType
    lanAuthUser := user.1
    lanAuthPass := user.2
    lanAuthApiKey := if hide then old.lanAuthApiKey else cfg.lanAuthApiKey
    lanAuthApiKeyRw := if hide then old.lanAuthApiKeyRw else cfg.lanAuthApiKeyRw }

theorem reread_lanAuthType (hP : P.Lawful) {default cfg : GwCfgLanAuth P}
    (hruuvi : cfg.lanAuthType = .ruuvi → cfg.sameCredentials default = false)
    (h : root.getObjectItem "lan_auth_type" = some (.string (gwCfgAuthTypeToStr default cfg))) :
    (jsonWrapCopyStringVal (P.httpServerAuthTypeStrMax + 1) root "lan_auth_type").map
      (fun s => P.httpServerAuthTypeFromStr s.val) = some cfg.lanAuthType := by
  have htype : gwCfgAuthTypeToStr default cfg = P.httpServerAuthTypeToStr cfg.lanAuthType := by
    unfold gwCfgAuthTypeToStr
    split_ifs with hdefault
    · rw [hruuvi hdefault.1] at hdefault
      simp at hdefault
    · rfl
  have hfits :
      (P.httpServerAuthTypeToStr cfg.lanAuthType).length < P.httpServerAuthTypeStrMax + 1 :=
    Nat.lt_succ_of_le (hP.authTypeFits _)
  rw [copyStringVal_string h, htype, Option.map_some,
    CStr.val_snprintf (hP.authTypeNoNul cfg.lanAuthType) hfits, hP.authType]

theorem reread_lanAuth (hP : P.Lawful) {default cfg old : GwCfgLanAuth P} {hide : Bool}
    (h : root.Contains (gwCfgJsonAddItemsLanAuth default cfg hide))
    (hlacks : hide = true → ∀ key ∈ secretKeys, root.getObjectItem key = none)
    (hruuvi : cfg.lanAuthType = .ruuvi → cfg.sameCredentials default = false)
    (hpass : hide = true → old.lanAuthPass = cfg.lanAuthPass) :
    gwCfgJsonParseLanAuth root (some default) old =
      GwCfgLanAuth.parsedOver default cfg old hide := by
  simp only [gwCfgJsonAddItemsLanAuth, Json.contains_append, Json.contains_cons] at h
  obtain ⟨⟨htype, huser, -⟩, hitems⟩ := h
  obtain ⟨str, hstr, hfrom⟩ := Option.map_eq_some_iff.mp (reread_lanAuthType hP hruuvi htype)
  have hkey : (jsonWrapCopyStringVal _ root "lan_auth_api_key").getD old.lanAuthApiKey =
      if hide then old.lanAuthApiKey else cfg.lanAuthApiKey := by
    cases hide
    · have hkeys := (Json.contains_append.mp hitems).2
      simp [copyStringVal_val (Json.contains_cons.mp hkeys).1]
    · simp [copyStringVal_none (hlacks rfl "lan_auth_api_key" (by simp [secretKeys]))]
  have hkeyRw : (jsonWrapCopyStringVal _ root "lan_auth_api_key_rw").getD old.lanAuthApiKeyRw =
      if hide then old.lanAuthApiKeyRw else cfg.lanAuthApiKeyRw := by
    cases hide
    · have hkeys := (Json.contains_cons.mp (Json.contains_append.mp hitems).2).2
      simp [copyStringVal_val (Json.contains_cons.mp hkeys).1]
    · simp [copyStringVal_none (hlacks rfl "lan_auth_api_key_rw" (by simp [secretKeys]))]
  have hpassword (hwritten : gwCfgJsonAddItemsLanAuthPass cfg =
        [("lan_auth_pass", .string cfg.lanAuthPass.val)]) :
      (jsonWrapCopyStringVal _ root "lan_auth_pass").getD old.lanAuthPass = cfg.lanAuthPass := by
    cases hide
    · have hwritten' := hwritten ▸ (Json.contains_append.mp hitems).1
      simp [copyStringVal_val (Json.contains_cons.mp hwritten').1]
    · simp [copyStringVal_none (hlacks rfl "lan_auth_pass" (by simp [secretKeys])), hpass rfl]
  cases hcase : cfg.lanAuthType
  case ruuvi =>
    have hsame : default.sameCredentials cfg = false := by
      rw [GwCfgLanAuth.sameCredentials_comm]
      exact hruuvi hcase
    simp only [GwCfgLanAuth.sameCredentials] at hsame
    simp [gwCfgJsonParseLanAuth, hstr, hfrom, hcase, gwCfgJsonParseLanAuthCredentials,
      gwCfgJsonParseLanAuthUserPassword, copyStringVal_val huser, hkey, hkeyRw,
      hpassword (by simp [gwCfgJsonAddItemsLanAuthPass, hcase]), GwCfgLanAuth.parsedOver,
      GwCfgLanAuth.sameCredentials, hsame]
  case basic | digest =>
    simp [gwCfgJsonParseLanAuth, hstr, hfrom, hcase, gwCfgJsonParseLanAuthCredentials,
      gwCfgJsonParseLanAuthUserPassword, copyStringVal_val huser, hkey, hkeyRw,
      hpassword (by simp [gwCfgJsonAddItemsLanAuthPass, hcase]), GwCfgLanAuth.parsedOver]
  all_goals
    simp [gwCfgJsonParseLanAuth, hstr, hfrom, hcase, gwCfgJsonParseLanAuthCredentials, hkey,
      hkeyRw, GwCfgLanAuth.parsedOver]

end LanAuth

section Auth

/-- The credentials written over a block, as far as the type of authentication uses them. -/
def HttpAuth.parsedOver (auth old : HttpAuth) (hide : Bool) : HttpAuthType → HttpAuth
  | .none => old
  | .basic =>
    let old := old.setUser (.snprintf _ auth.user)
    if hide then old else old.setPassword (.snprintf _ auth.password)
  | .bearer | .token | .apikey => if hide then old else old.setToken (.snprintf _ auth.token)

theorem reread_authBasic {userKey passKey : String} {auth old : HttpAuth} {hide : Bool}
    (huser : root.getObjectItem userKey = some (.string auth.user))
    (hpass : root.Contains (if hide then [] else [(passKey, .string auth.password)]))
    (hlacks : hide = true → root.getObjectItem passKey = none) :
    parseAuthBasic userKey passKey root old = auth.parsedOver old hide .basic := by
  cases hide
  · simp [parseAuthBasic, HttpAuth.parsedOver, copyStringVal_string huser,
      copyStringVal_string (Json.contains_cons.mp hpass).1]
  · simp [parseAuthBasic, HttpAuth.parsedOver, copyStringVal_string huser,
      copyStringVal_none (hlacks rfl)]

theorem reread_authToken {tokenKey : String} {auth old : HttpAuth} {hide : Bool}
    (htoken : root.Contains (if hide then [] else [(tokenKey, .string auth.token)]))
    (hlacks : hide = true → root.getObjectItem tokenKey = none) :
    parseAuthToken tokenKey root old =
      if hide then old else old.setToken (.snprintf _ auth.token) := by
  cases hide
  · simp [parseAuthToken, copyStringVal_string (Json.contains_cons.mp htoken).1]
  · simp [parseAuthToken, copyStringVal_none (hlacks rfl)]

end Auth

section Remote

/-- Over credentials of another type the block is cleared first. -/
def GwCfgRemote.parsedOver (cfg old : GwCfgRemote) (hide : Bool) : GwCfgRemote :=
  let base := if old.authType ≠ cfg.authType then HttpAuth.zero else old.auth
  { cfg with auth := cfg.auth.parsedOver base hide cfg.authType }

/-- The types of authentication that a remote configuration server can have. -/
def GwCfgRemote.Supported (cfg : GwCfgRemote) : Prop :=
  cfg.authType = .none ∨ cfg.authType = .basic ∨ cfg.authType = .bearer

theorem reread_remoteAuth {authType : HttpAuthType} {auth : HttpAuth} {old : GwCfgRemote}
    {hide : Bool} (h : root.Contains (gwCfgJsonAddItemsRemoteAuth authType auth hide))
    (hlacks : hide = true → ∀ key ∈ secretKeys, root.getObjectItem key = none)
    (htype : authType = .none ∨ authType = .basic ∨ authType = .bearer) :
    gwCfgJsonParseRemoteAuth root old =
      (authType,
       auth.parsedOver (if old.authType ≠ authType then .zero else old.auth) hide authType) := by
  rcases htype with rfl | rfl | rfl
  · obtain ⟨hstr, -⟩ := Json.contains_cons.mp h
    simp only [gwCfgJsonParseRemoteAuth, copyStringVal_string hstr]
    rfl
  · simp only [gwCfgJsonAddItemsRemoteAuth, gwCfgJsonAddItemsRemoteAuthBasic, addItemsAuthBasic,
      Json.contains_append, Json.contains_cons] at h
    obtain ⟨⟨hstr, huser, -⟩, hpass⟩ := h
    have hlack : hide = true → root.getObjectItem "remote_cfg_auth_basic_pass" = none :=
      fun hhide => hlacks hhide _ (by simp [secretKeys])
    simp only [gwCfgJsonParseRemoteAuth, copyStringVal_string hstr]
    exact congrArg (Prod.mk _) (reread_authBasic huser hpass hlack)
  · simp only [gwCfgJsonAddItemsRemoteAuth, gwCfgJsonAddItemsRemoteAuthBearer, addItemsAuthToken,
      Json.contains_cons] at h
    obtain ⟨hstr, htoken⟩ := h
    have hlack : hide = true → root.getObjectItem "remote_cfg_auth_bearer_token" = none :=
      fun hhide => hlacks hhide _ (by simp [secretKeys])
    simp only [gwCfgJsonParseRemoteAuth, copyStringVal_string hstr]
    exact congrArg (Prod.mk _) (reread_authToken htoken hlack)

theorem reread_remote {cfg old : GwCfgRemote} {hide : Bool}
    (h : root.Contains (gwCfgJsonAddItemsRemote cfg hide))
    (hlacks : hide = true → ∀ key ∈ secretKeys, root.getObjectItem key = none)
    (htype : cfg.Supported) : gwCfgJsonParseRemote root old = some (cfg.parsedOver old hide) := by
  simp only [gwCfgJsonAddItemsRemote, Json.contains_append, Json.contains_cons] at h
  obtain ⟨⟨⟨huse, hurl, -⟩, hauth⟩, hclient, hserver, hinterval, -⟩ := h
  simp [gwCfgJsonParseRemote, reread_remoteAuth hauth hlacks htype, getUint16Val_number hinterval,
    getBoolVal_bool huse, getBoolVal_bool hclient, getBoolVal_bool hserver, copyStringVal_val hurl,
    GwCfgRemote.parsedOver]

end Remote

section Http

def GwCfgHttp.parsedOver (cfg old : GwCfgHttp) (hide : Bool) : GwCfgHttp :=
  if cfg.useHttp then { cfg with auth := cfg.auth.parsedOver old.auth hide cfg.authType }
  else if cfg.useHttpRuuvi then
    { old with
      useHttpRuuvi := true
      useHttp := false
      dataFormat := .ruuvi
      authType := .none
      httpUrl := .snprintf _ ruuviGatewayHttpDefaultUrl }
  else { old with useHttpRuuvi := false, useHttp := false }

theorem reread_httpAuth {authType : HttpAuthType} {auth : HttpAuth} {hide : Bool} (old : HttpAuth)
    (h : root.Contains (gwCfgJsonAddItemsHttpCustomAuth authType auth hide))
    (hlacks : hide = true → ∀ key ∈ secretKeys, root.getObjectItem key = none) :
    gwCfgJsonParseHttpAuthType root = authType ∧
      gwCfgJsonParseHttpAuth root authType old = auth.parsedOver old hide authType := by
  have hlack (key : String) (hkey : key ∈ secretKeys) (hhide : hide = true) :
      root.getObjectItem key = none := hlacks hhide key hkey
  cases authType
  case none =>
    obtain ⟨hstr, -⟩ := Json.contains_cons.mp h
    simp only [gwCfgJsonParseHttpAuthType, copyStringVal_string hstr]
    exact ⟨rfl, rfl⟩
  case basic =>
    simp only [gwCfgJsonAddItemsHttpCustomAuth, gwCfgJsonAddItemsHttpCustomAuthBasic,
      addItemsAuthBasic, Json.contains_append, Json.contains_cons] at h
    obtain ⟨⟨hstr, huser, -⟩, hpass⟩ := h
    simp only [gwCfgJsonParseHttpAuthType, copyStringVal_string hstr]
    exact ⟨rfl, reread_authBasic huser hpass (hlack _ (by simp [secretKeys]))⟩
  all_goals
    obtain ⟨hstr, htoken⟩ := Json.contains_cons.mp h
    simp only [gwCfgJsonParseHttpAuthType, copyStringVal_string hstr]
    exact ⟨rfl, reread_authToken htoken (hlack _ (by simp [secretKeys]))⟩

theorem reread_httpDataFormat {format : HttpDataFormat}
    (h : root.getObjectItem "http_data_format" = some (.string (httpDataFormatStr format))) :
    gwCfgJsonParseHttpDataFormat root = format := by
  rw [gwCfgJsonParseHttpDataFormat, copyStringVal_string h]
  cases format <;> rfl

theorem val_snprintf_defaultUrl :
    (CStr.snprintf gwCfgMaxHttpUrlLen ruuviGatewayHttpDefaultUrl).val =
      ruuviGatewayHttpDefaultUrl := by
  decide

/-- The default target is written as a custom one and recognised again. -/
theorem reread_httpDefault {old : GwCfgHttp} (h : root.Contains gwCfgJsonAddItemsHttpDefault) :
    gwCfgJsonParseHttp P root old = some { old with
      useHttpRuuvi := true
      useHttp := false
      dataFormat := .ruuvi
      authType := .none
      httpUrl := .snprintf _ ruuviGatewayHttpDefaultUrl } := by
  simp only [gwCfgJsonAddItemsHttpDefault, Json.contains_cons] at h
  obtain ⟨hruuvi, huse, hurl, hformat, hauth, -⟩ := h
  have hformat' : gwCfgJsonParseHttpDataFormat root = .ruuvi := reread_httpDataFormat hformat
  have hauth' : gwCfgJsonParseHttpAuthType root = .none := by
    simp only [gwCfgJsonParseHttpAuthType, copyStringVal_string hauth]
    rfl
  simp [gwCfgJsonParseHttp, gwCfgJsonParseHttpTarget, getBoolVal_bool huse, hformat', hauth',
    copyStringVal_string hurl, GwCfgHttp.isDefaultTarget, val_snprintf_defaultUrl,
    gwCfgJsonParseHttpAuth]

theorem reread_httpCustom {cfg old : GwCfgHttp} {hide : Bool} (huse : cfg.useHttp = true)
    (hruuvi : root.getObjectItem "use_http_ruuvi" = some (.bool cfg.useHttpRuuvi))
    (huse' : root.getObjectItem "use_http" = some (.bool cfg.useHttp))
    (h : root.Contains (gwCfgJsonAddItemsHttpCustomParams cfg hide))
    (hlacks : hide = true → ∀ key ∈ secretKeys, root.getObjectItem key = none)
    (htarget : cfg.isDefaultTarget = false) (hperiod : cfg.httpPeriod.toNat < 0x10000) :
    gwCfgJsonParseHttp P root old =
      some { cfg with auth := cfg.auth.parsedOver old.auth hide cfg.authType } := by
  simp only [gwCfgJsonAddItemsHttpCustomParams, Json.contains_append, Json.contains_cons] at h
  obtain ⟨⟨hclient, hserver, hurl, hper, hformat, -⟩, hauth⟩ := h
  obtain ⟨htype, hblock⟩ := reread_httpAuth old.auth hauth hlacks
  rw [huse] at huse'
  simp only [GwCfgHttp.isDefaultTarget] at htarget
  simp [gwCfgJsonParseHttp, gwCfgJsonParseHttpTarget, getBoolVal_bool huse', getBoolVal_bool hruuvi,
    reread_httpDataFormat hformat, htype, hblock, copyStringVal_val hurl, GwCfgHttp.isDefaultTarget,
    htarget, getUint32Val_number hperiod hper, getBoolVal_bool hclient, getBoolVal_bool hserver,
    huse]

theorem reread_http {cfg old : GwCfgHttp} {hide : Bool}
    (h : root.Contains (gwCfgJsonAddItemsHttp cfg hide))
    (hlacks : hide = true → ∀ key ∈ secretKeys, root.getObjectItem key = none)
    (htarget : cfg.useHttp = true → cfg.isDefaultTarget = false)
    (hperiod : cfg.useHttp = true → cfg.httpPeriod.toNat < 0x10000) :
    gwCfgJsonParseHttp P root old = some (cfg.parsedOver old hide) := by
  unfold gwCfgJsonAddItemsHttp at h
  split_ifs at h with hruuvi hdefault huse
  · simp [reread_httpDefault h, GwCfgHttp.parsedOver, hruuvi.1, hruuvi.2]
  · simp [htarget hdefault.1] at hdefault
  · simp only [Json.contains_append, Json.contains_cons] at h
    obtain ⟨⟨hflag, huse', -⟩, hparams⟩ := h
    rw [reread_httpCustom huse hflag huse' hparams hlacks (htarget huse) (hperiod huse),
      GwCfgHttp.parsedOver, if_pos huse]
  · simp only [Json.contains_append, Json.contains_cons] at h
    obtain ⟨⟨hflag, huse', -⟩, -⟩ := h
    have hflag' : cfg.useHttpRuuvi = false := by simpa [huse] using hruuvi
    rw [hflag'] at hflag
    rw [Bool.not_eq_true] at huse
    rw [huse] at huse'
    simp [gwCfgJsonParseHttp, getBoolVal_bool hflag, getBoolVal_bool huse', GwCfgHttp.parsedOver,
      huse, hflag']

end Http

section Wifi

def WifimanConfigAp.parsedOver (cfg old : WifimanConfigAp) (hide : Bool) : WifimanConfigAp :=
  { old with
    wifiConfigAp.password := if hide then old.wifiConfigAp.password else cfg.wifiConfigAp.password
    wifiConfigAp.channel := if cfg.wifiConfigAp.channel ≠ 0 then cfg.wifiConfigAp.channel else 1 }

theorem reread_wifiAp {cfg : WifimanConfig} {old : WifimanConfigAp} {hide : Bool}
    (h : root.Contains (gwCfgJsonAddItemsWifiApConfig cfg hide)) :
    gwCfgJsonParseWifiAp root old = some (cfg.ap.parsedOver old hide) := by
  obtain ⟨hap, -⟩ := Json.contains_cons.mp h
  dsimp only at hap
  set channel : UInt8 := if cfg.ap.wifiConfigAp.channel ≠ 0 then cfg.ap.wifiConfigAp.channel else 1
    with hchannel
  set json := Json.object ((if hide then [] else
      [("password", .string cfg.ap.wifiConfigAp.password.val)]) ++
    [("channel", .number channel.toNat)]) with hjson
  have hkeys : Json.keyText "password" ≠ Json.keyText "channel" := by decide
  have hget : json.getObjectItem "channel" = some (.number channel.toNat) := by
    cases hide <;> simp [hjson, Json.getObjectItem, Json.find, hkeys]
  have hpass : (jsonWrapCopyStringVal _ json "password").getD old.wifiConfigAp.password =
      if hide then old.wifiConfigAp.password else cfg.ap.wifiConfigAp.password := by
    cases hide
    · have hfound : json.getObjectItem "password" =
          some (.string cfg.ap.wifiConfigAp.password.val) := if_pos rfl
      simp [copyStringVal_val hfound]
    · have hnone : json.getObjectItem "password" = none := if_neg hkeys.symm
      simp [copyStringVal_none hnone]
  have hkept : (if channel = 0 then 1 else channel) = channel := by
    rw [hchannel]
    split_ifs <;> rfl
  simp only [gwCfgJsonParseWifiAp, hap, gwCfgJsonParseWifiApConfig, getUint8Val_number hget, hpass,
    Option.bind_eq_bind, Option.bind_some, Option.getD_some, hkept]
  rfl

def WifimanConfigSta.parsedOver (cfg old : WifimanConfigSta) (hide : Bool) : WifimanConfigSta :=
  { old with
    wifiConfigSta.ssid := cfg.wifiConfigSta.ssid
    wifiConfigSta.password :=
      if hide then old.wifiConfigSta.password else cfg.wifiConfigSta.password }

theorem reread_wifiSta {cfg : WifimanConfig} {old : WifimanConfigSta} {hide : Bool}
    (h : root.Contains (gwCfgJsonAddItemsWifiStaConfig cfg hide)) :
    gwCfgJsonParseWifiSta root old = cfg.sta.parsedOver old hide := by
  obtain ⟨hsta, -⟩ := Json.contains_cons.mp h
  dsimp only at hsta
  set json := Json.object (("ssid", .string cfg.sta.wifiConfigSta.ssid.val) ::
    if hide then [] else [("password", .string cfg.sta.wifiConfigSta.password.val)]) with hjson
  have hkeys : Json.keyText "ssid" ≠ Json.keyText "password" := by decide
  have hssid : json.getObjectItem "ssid" = some (.string cfg.sta.wifiConfigSta.ssid.val) :=
    if_pos rfl
  have hpass : (jsonWrapCopyStringVal _ json "password").getD old.wifiConfigSta.password =
      if hide then old.wifiConfigSta.password else cfg.sta.wifiConfigSta.password := by
    cases hide
    · have hfound : json.getObjectItem "password" =
          some (.string cfg.sta.wifiConfigSta.password.val) := by
        simp [hjson, Json.getObjectItem, Json.find, hkeys]
      simp [copyStringVal_val hfound]
    · have hnone : json.getObjectItem "password" = none := if_neg hkeys
      simp [copyStringVal_none hnone]
  simp only [gwCfgJsonParseWifiSta, hsta, gwCfgJsonParseWifiStaConfig, copyStringVal_val hssid,
    hpass, Option.getD_some]
  rfl

end Wifi

section Configuration

def GwCfgRuuvi.parsedOver (default cfg old : GwCfgRuuvi P) (hide : Bool) : GwCfgRuuvi P :=
  { cfg with
    remote := cfg.remote.parsedOver old.remote hide
    http := cfg.http.parsedOver old.http hide
    httpStat := cfg.httpStat.parsedOver old.httpStat hide
    mqtt := GwCfgMqtt.parsedOver default.mqtt cfg.mqtt old.mqtt hide
    lanAuth := GwCfgLanAuth.parsedOver default.lanAuth cfg.lanAuth old.lanAuth hide
    ntp := cfg.ntp.parsedOver old.ntp
    scan := GwCfgScan.parsedOver default.scan cfg.scan
    scanFilter := cfg.scanFilter.parsedOver old.scanFilter }

/-- What the parser relies on to read a configuration back. The numbers of 32 bits are cut to
16 bits when they are read. -/
structure Rereadable (default cfg : GwCfgRuuvi P) : Prop where
  remote : cfg.remote.Supported
  httpTarget : cfg.http.useHttp = true → cfg.http.isDefaultTarget = false
  httpPeriod : cfg.http.useHttp = true → cfg.http.httpPeriod.toNat < 0x10000
  mqttInterval : cfg.mqtt.mqttSendingInterval.toNat < 0x10000
  lanAuth : cfg.lanAuth.lanAuthType = .ruuvi → cfg.lanAuth.sameCredentials default.lanAuth = false

theorem reread_ruuvi (hP : P.Lawful) {default cfg : GwCfg P} {old : GwCfgRuuvi P} {hide : Bool}
    (h : Written root default cfg hide) (hcfg : Rereadable default.ruuviCfg cfg.ruuviCfg)
    (hpass : hide = true → old.lanAuth.lanAuthPass = cfg.ruuviCfg.lanAuth.lanAuthPass) :
    gwCfgJsonParseCjsonRuuviCfg root (some default.ruuviCfg) old =
      some (GwCfgRuuvi.parsedOver default.ruuviCfg cfg.ruuviCfg old hide) := by
  have hitems := h.ruuvi
  simp only [gwCfgJsonAddItemsRuuvi, Json.contains_append, Json.contains_cons] at hitems
  obtain ⟨⟨⟨⟨⟨⟨⟨⟨⟨⟨hremote, hhttp⟩, hstat⟩, hmqtt⟩, hlan⟩, hupdate⟩, hntp⟩, hfilter⟩, hscan⟩,
    hlist⟩, hcoordinates, hurl⟩ := hitems
  have hlack (key : String) (hkey : key ∈ secretKeys) (hhide : hide = true) :
      root.getObjectItem key = none := h.lacksSecrets hhide key hkey
  have hurl' : gwCfgJsonParseFwUpdate root old.fwUpdate = cfg.ruuviCfg.fwUpdate := by
    simp [gwCfgJsonParseFwUpdate, copyStringVal_val (Json.contains_cons.mp hurl).1]
  simp [gwCfgJsonParseCjsonRuuviCfg, GwCfgRuuvi.parsedOver, reread_autoUpdate hupdate,
    reread_filter hfilter, reread_ntp hntp, reread_scan hscan h.lacksDeprecated,
    reread_scanFilter hP hlist, copyStringVal_val hcoordinates, hurl',
    reread_remote hremote h.lacksSecrets hcfg.remote,
    reread_http hhttp h.lacksSecrets hcfg.httpTarget hcfg.httpPeriod,
    reread_httpStat hstat (hlack _ (by simp [secretKeys])),
    reread_mqtt hmqtt (hlack _ (by simp [secretKeys])) hcfg.mqttInterval,
    reread_lanAuth hP hlan h.lacksSecrets hcfg.lanAuth hpass]

def GwCfg.parsedOver (default cfg old : GwCfg P) (hide : Bool) : GwCfg P :=
  { old with
    ruuviCfg := GwCfgRuuvi.parsedOver default.ruuviCfg cfg.ruuviCfg old.ruuviCfg hide
    ethCfg := cfg.ethCfg.parsedOver old.ethCfg
    wifiCfg.ap := cfg.wifiCfg.ap.parsedOver old.wifiCfg.ap hide
    wifiCfg.sta := cfg.wifiCfg.sta.parsedOver old.wifiCfg.sta hide }

theorem reread_cfg (hP : P.Lawful) {default cfg old : GwCfg P} {hide : Bool}
    (h : Written root default cfg hide) (hcfg : Rereadable default.ruuviCfg cfg.ruuviCfg)
    (hpass : hide = true →
      old.ruuviCfg.lanAuth.lanAuthPass = cfg.ruuviCfg.lanAuth.lanAuthPass) :
    gwCfgJsonParse root (some default) old = some (GwCfg.parsedOver default cfg old hide) := by
  simp [gwCfgJsonParse, gwCfgJsonParseCjson, reread_ruuvi hP h hcfg hpass, reread_eth h.eth,
    reread_wifiAp h.wifiAp, reread_wifiSta h.wifiSta, GwCfg.parsedOver]

end Configuration

end RuuviGateway.Config
