import RuuviGateway.Config.Reload
import RuuviGateway.Config.Secrets

/-!
# Posting back an unedited page

The page is generated without secrets, and posting it is parsing it over a copy of the stored
configuration. What the page does not show keeps its value in that copy.
-/

namespace RuuviGateway.Config

open General

variable {P : Platform} {root : Json}

/-- The stored configuration after the request. -/
def httpServerCbOnPostRuuvi (root : Json) (flagAccessFromLan : Bool) (default stored : GwCfg P) :
    Option (GwCfg P) :=
  (jsonRuuviParseHttpBody root flagAccessFromLan default stored).map fun (tmp, flagNetworkCfg) =>
    if flagNetworkCfg then
      gwCfgUpdateWifiApConfig tmp.wifiCfg.ap (gwCfgUpdateEthCfg tmp.ethCfg stored)
    else gwCfgUpdateRuuviCfg tmp.ruuviCfg stored

section PostedBack

/-- The page shows the target of Ruuvi as it was built in. -/
def GwCfgHttp.postedBack (cfg : GwCfgHttp) : GwCfgHttp :=
  if cfg.useHttpRuuvi ∧ ¬cfg.useHttp then
    { cfg with
      dataFormat := .ruuvi
      authType := .none
      httpUrl := .snprintf _ ruuviGatewayHttpDefaultUrl }
  else cfg

def GwCfgRuuvi.postedBack (default cfg : GwCfgRuuvi P) : GwCfgRuuvi P :=
  { cfg with
    http := cfg.http.postedBack
    lanAuth := cfg.lanAuth.restored
    scan := GwCfgScan.parsedOver default.scan cfg.scan }

/-- The configurations that posting back does not change. -/
structure Settled (default cfg : GwCfgRuuvi P) : Prop where
  http : cfg.http.useHttpRuuvi → ¬cfg.http.useHttp → cfg.http.isDefaultTarget
  lanAuth : cfg.lanAuth.restored = cfg.lanAuth
  scan : cfg.scan.scanDefault → cfg.scan = default.scan

/-- Every secret that the page omits has its old value. The types of LAN authentication without
a user have no password. -/
structure SecretsKept (cfg cfg' : GwCfg P) : Prop where
  remote : cfg'.ruuviCfg.remote.auth = cfg.ruuviCfg.remote.auth
  http : cfg'.ruuviCfg.http.auth = cfg.ruuviCfg.http.auth
  httpStat : cfg'.ruuviCfg.httpStat.httpStatPass = cfg.ruuviCfg.httpStat.httpStatPass
  mqtt : cfg'.ruuviCfg.mqtt.mqttPass = cfg.ruuviCfg.mqtt.mqttPass
  lanAuthPass : cfg.ruuviCfg.lanAuth.lanAuthType ∉ [.allow, .deny, .bearer] →
    cfg'.ruuviCfg.lanAuth.lanAuthPass = cfg.ruuviCfg.lanAuth.lanAuthPass
  lanAuthApiKey : cfg'.ruuviCfg.lanAuth.lanAuthApiKey = cfg.ruuviCfg.lanAuth.lanAuthApiKey
  lanAuthApiKeyRw : cfg'.ruuviCfg.lanAuth.lanAuthApiKeyRw = cfg.ruuviCfg.lanAuth.lanAuthApiKeyRw
  wifiAp : cfg'.wifiCfg.ap.wifiConfigAp.password = cfg.wifiCfg.ap.wifiConfigAp.password
  wifiSta : cfg'.wifiCfg.sta.wifiConfigSta.password = cfg.wifiCfg.sta.wifiConfigSta.password

theorem GwCfgHttp.isDefaultTarget_iff {cfg : GwCfgHttp} :
    cfg.isDefaultTarget ↔ cfg.dataFormat = .ruuvi ∧ cfg.authType = .none ∧
      cfg.httpUrl = .snprintf _ ruuviGatewayHttpDefaultUrl := by
  rw [CStr.ext_iff, val_snprintf_defaultUrl]
  simp [isDefaultTarget, and_assoc]

theorem GwCfgHttp.significant_postedBack_iff (cfg : GwCfgHttp) :
    cfg.postedBack.significant = cfg.significant ↔
      (cfg.useHttpRuuvi → ¬cfg.useHttp → cfg.isDefaultTarget) := by
  rw [isDefaultTarget_iff]
  unfold postedBack
  split_ifs with htarget
  · constructor
    · intro h _ _
      simp only [significant, Prod.mk.injEq, GwCfgHttp.mk.injEq] at h
      obtain ⟨⟨-, -, -, -, hurl, -, hformat, hauth, -⟩, -⟩ := h
      exact ⟨hformat.symm, hauth.symm, hurl.symm⟩
    · intro h
      obtain ⟨hformat, hauth, hurl⟩ := h htarget.1 htarget.2
      rw [← hformat, ← hauth, ← hurl]
  · simp only [true_iff]
    exact fun hruuvi huse => absurd ⟨hruuvi, huse⟩ htarget

theorem GwCfgScan.parsedOver_eq_iff (default cfg : GwCfgScan) :
    GwCfgScan.parsedOver default cfg = cfg ↔ (cfg.scanDefault → cfg = default) := by
  unfold parsedOver
  split_ifs with hscan
  · simp [hscan, eq_comm]
  · simp [hscan]

theorem postedBack_cmp_iff {default cfg : GwCfgRuuvi P} :
    gwCfgRuuviCmp (GwCfgRuuvi.postedBack default cfg) cfg ↔ Settled default cfg := by
  have hhttp := cfg.http.significant_postedBack_iff
  have hscan := GwCfgScan.parsedOver_eq_iff default.scan cfg.scan
  rw [gwCfgRuuviCmp_iff]
  simp only [GwCfgRuuvi.significant, GwCfgRuuvi.postedBack, Prod.mk.injEq, true_and, and_true]
  constructor
  · rintro ⟨⟨h1, h2⟩, h3⟩
    exact ⟨hhttp.mp h1, h2, hscan.mp h3⟩
  · intro h
    exact ⟨⟨hhttp.mpr h.http, h.lanAuth⟩, hscan.mpr h.scan⟩

end PostedBack

section Over

theorem HttpAuth.parsedOver_self {auth : HttpAuth} {authType : HttpAuthType}
    (h : auth.UserFits authType) : auth.parsedOver auth true authType = auth := by
  cases authType
  case basic => exact auth.setUser_user (h rfl)
  all_goals rfl

theorem GwCfgRemote.parsedOver_self {cfg : GwCfgRemote} (h : cfg.auth.UserFits cfg.authType) :
    cfg.parsedOver cfg true = cfg := by
  simp [parsedOver, HttpAuth.parsedOver_self h]

theorem GwCfgHttp.parsedOver_self {cfg : GwCfgHttp} (h : cfg.auth.UserFits cfg.authType) :
    cfg.parsedOver cfg true = cfg.postedBack := by
  cases cfg with
  | mk useHttpRuuvi useHttp =>
    cases useHttpRuuvi <;> cases useHttp <;>
      simp [parsedOver, postedBack, HttpAuth.parsedOver_self h]

theorem GwCfgHttpStat.parsedOver_self (cfg : GwCfgHttpStat) : cfg.parsedOver cfg true = cfg := by
  simp [parsedOver]

theorem GwCfgMqtt.parsedOver_self {default cfg : GwCfgMqtt}
    (hpre : cfg.mqttPrefix.val = [] → default.mqttPrefix.val = [])
    (hid : cfg.mqttClientId.val = [] → default.mqttClientId.val = []) :
    GwCfgMqtt.parsedOver default cfg cfg true = cfg := by
  simp [parsedOver, orDefault_eq hpre, orDefault_eq hid]

theorem GwCfgNtp.parsedOver_self {cfg : GwCfgNtp} (h : NtpOk cfg) : cfg.parsedOver cfg = cfg := by
  cases cfg with
  | mk ntpUse ntpUseDhcp =>
    cases ntpUse <;> cases ntpUseDhcp <;> simp_all [parsedOver, NtpOk]

theorem GwCfgLanAuth.parsedOver_self {default cfg : GwCfgLanAuth P} (h : LanAuthOk default cfg) :
    GwCfgLanAuth.parsedOver default cfg cfg true = cfg.restored := by
  have hrestored := parsedOver_eq_restored h
  rw [← hrestored]
  rfl

theorem GwCfgRuuvi.parsedOver_self {default cfg : GwCfgRuuvi P} (h : Normal default cfg)
    (huser : cfg.http.auth.UserFits cfg.http.authType) :
    GwCfgRuuvi.parsedOver default cfg cfg true = GwCfgRuuvi.postedBack default cfg := by
  simp only [parsedOver, postedBack,
    GwCfgRemote.parsedOver_self fun htype => (h.remote.fits htype).1,
    GwCfgHttp.parsedOver_self huser, GwCfgHttpStat.parsedOver_self, GwCfgNtp.parsedOver_self h.ntp,
    GwCfgMqtt.parsedOver_self h.mqttPrefix h.mqttClientId, GwCfgLanAuth.parsedOver_self h.lanAuth,
    GwCfgScanFilter.parsedOver_self]

end Over

section Request

variable {default cfg : GwCfg P}

/-- Access from the local network reads the page as a configuration of the gateway. -/
theorem parse_uiClient_lan (hP : P.Lawful) (h : Written root default cfg true)
    (hnormal : Normal default.ruuviCfg cfg.ruuviCfg)
    (hcfg : Rereadable default.ruuviCfg cfg.ruuviCfg)
    (huser : cfg.ruuviCfg.http.auth.UserFits cfg.ruuviCfg.http.authType) :
    jsonRuuviParseHttpBody root true default cfg =
      some ({ cfg with
        ruuviCfg := GwCfgRuuvi.postedBack default.ruuviCfg cfg.ruuviCfg }, false) := by
  simp [jsonRuuviParseHttpBody, gwCfgJsonParseCjsonRuuvi, gwCfgJsonParseCjson,
    reread_ruuvi hP h hcfg fun _ => rfl, GwCfgRuuvi.parsedOver_self hnormal huser]

/-- Access through the hotspot of the gateway reads it as a network configuration. -/
theorem parse_uiClient_hotspot (h : Written root default cfg true) :
    jsonRuuviParseHttpBody root false default cfg =
      some ({ cfg with
        ethCfg := cfg.ethCfg.parsedOver { default.ethCfg with useEth := cfg.ethCfg.useEth }
        wifiCfg.ap :=
          if cfg.ethCfg.useEth then cfg.wifiCfg.ap
          else cfg.wifiCfg.ap.parsedOver cfg.wifiCfg.ap true }, true) := by
  have huse := getBoolVal_bool (Json.contains_cons.mp h.eth).1
  cases hcase : cfg.ethCfg.useEth <;> rw [hcase] at huse
  case true =>
    simp [jsonRuuviParseHttpBody, huse, gwCfgJsonParseCjsonEth, gwCfgJsonParseCjson,
      reread_eth h.eth]
  case false =>
    simp [jsonRuuviParseHttpBody, huse, gwCfgJsonParseCjsonWifiAp, gwCfgJsonParseCjson,
      reread_wifiAp h.wifiAp, reread_eth h.eth]

theorem GwCfgHttp.auth_postedBack (cfg : GwCfgHttp) : cfg.postedBack.auth = cfg.auth := by
  unfold postedBack
  split_ifs <;> rfl

theorem secretsKept_postedBack (default : GwCfgRuuvi P) (cfg : GwCfg P) :
    SecretsKept cfg { cfg with ruuviCfg := GwCfgRuuvi.postedBack default cfg.ruuviCfg } := by
  have hlan (hpass : cfg.ruuviCfg.lanAuth.lanAuthType ∉ [.allow, .deny, .bearer]) :
      cfg.ruuviCfg.lanAuth.restored = cfg.ruuviCfg.lanAuth := by
    unfold GwCfgLanAuth.restored
    cases htype : cfg.ruuviCfg.lanAuth.lanAuthType <;> simp_all
  have hkeys : cfg.ruuviCfg.lanAuth.restored.lanAuthApiKey = cfg.ruuviCfg.lanAuth.lanAuthApiKey ∧
      cfg.ruuviCfg.lanAuth.restored.lanAuthApiKeyRw = cfg.ruuviCfg.lanAuth.lanAuthApiKeyRw := by
    unfold GwCfgLanAuth.restored
    cases cfg.ruuviCfg.lanAuth.lanAuthType <;> exact ⟨rfl, rfl⟩
  constructor
  case http => exact cfg.ruuviCfg.http.auth_postedBack
  case lanAuthPass => exact fun hpass => congrArg GwCfgLanAuth.lanAuthPass (hlan hpass)
  case lanAuthApiKey => exact hkeys.1
  case lanAuthApiKeyRw => exact hkeys.2
  all_goals rfl

theorem secretsKept_network {eth : GwCfgEth} {ap : WifimanConfigAp}
    (h : ap.wifiConfigAp.password = cfg.wifiCfg.ap.wifiConfigAp.password) :
    SecretsKept cfg { cfg with ethCfg := eth, wifiCfg.ap := ap } := by
  constructor
  case wifiAp => exact h
  case lanAuthPass => exact fun _ => rfl
  all_goals rfl

/-- Posting back the unedited page changes nothing but the target of Ruuvi, the user of a type of
LAN authentication that has none and the flags of a default scan. -/
theorem postBack_keeps (hP : P.Lawful) {param : GwCfgDefaultInitParam} {stored : Option Json}
    {default cfg : GwCfg P} (storage : GwCfgStorage) (flagAccessFromLan : Bool)
    (hdefault : gwCfgDefaultInit P param stored = some default) (hcfg : Reachable default cfg)
    (hperiod : cfg.ruuviCfg.http.useHttp = true → cfg.ruuviCfg.http.httpPeriod.toNat < 0x10000)
    (hinterval : cfg.ruuviCfg.mqtt.mqttSendingInterval.toNat < 0x10000)
    (huser : cfg.ruuviCfg.http.auth.UserFits cfg.ruuviCfg.http.authType) :
    ∃ cfg', jsonRuuviParseHttpBody (gwCfgJsonGenerateForUiClient storage default cfg)
        flagAccessFromLan default cfg = some (cfg', !flagAccessFromLan) ∧
      cfg'.ruuviCfg = (if flagAccessFromLan then
        GwCfgRuuvi.postedBack default.ruuviCfg cfg.ruuviCfg else cfg.ruuviCfg) ∧
      (gwCfgRuuviCmp cfg'.ruuviCfg cfg.ruuviCfg ↔
        (flagAccessFromLan → Settled default.ruuviCfg cfg.ruuviCfg)) ∧
      SecretsKept cfg cfg' := by
  have hnormal := hcfg.normal hdefault
  have hwritten := written storage default cfg true
  cases flagAccessFromLan
  case true =>
    have hparse :=
      parse_uiClient_lan hP hwritten hnormal (hnormal.rereadable hperiod hinterval) huser
    refine ⟨_, hparse, rfl, ?_, secretsKept_postedBack default.ruuviCfg cfg⟩
    simpa using postedBack_cmp_iff
  case false =>
    refine ⟨_, parse_uiClient_hotspot hwritten, rfl, ?_, secretsKept_network ?_⟩
    · simpa using gwCfgRuuviCmp_equivalence.refl cfg.ruuviCfg
    · split_ifs <;> rfl

theorem postBack_keeps_custom : ∃ cfg',
    jsonRuuviParseHttpBody
        (gwCfgJsonGenerateForUiClient ⟨true, fun _ => false⟩ sampleDefault sampleCustom) true
        sampleDefault sampleCustom = some (cfg', false) ∧
      cfg'.ruuviCfg = GwCfgRuuvi.postedBack sampleDefault.ruuviCfg sampleCustom.ruuviCfg ∧
      (gwCfgRuuviCmp cfg'.ruuviCfg sampleCustom.ruuviCfg ↔
        (true → Settled sampleDefault.ruuviCfg sampleCustom.ruuviCfg)) ∧
      SecretsKept sampleCustom cfg' :=
  postBack_keeps samplePlatform_lawful _ true gwCfgDefaultInit_sample reachable_sampleCustom
    (by decide +kernel) (by decide +kernel) (by decide +kernel)

/-- The custom target that is remembered is not shown on the page. -/
theorem postBack_losesRemembered :
    Reachable sampleDefault sampleRemembered ∧ ∃ cfg',
      jsonRuuviParseHttpBody
          (gwCfgJsonGenerateForUiClient ⟨true, fun _ => false⟩ sampleDefault sampleRemembered) true
          sampleDefault sampleRemembered = some (cfg', false) ∧
        gwCfgRuuviCmp cfg'.ruuviCfg sampleRemembered.ruuviCfg = false := by
  have hnormal := reachable_sampleRemembered.normal gwCfgDefaultInit_sample
  have hwritten := written ⟨true, fun _ => false⟩ sampleDefault sampleRemembered true
  have hparse := parse_uiClient_lan samplePlatform_lawful hwritten hnormal
    (hnormal.rereadable (by decide +kernel) (by decide +kernel)) (by decide +kernel)
  exact ⟨reachable_sampleRemembered, _, hparse, by decide +kernel⟩

end Request

/-- The request with the unedited page leaves the other sections of the stored configuration as
they are, and this section up to what posting back changes. -/
theorem httpServerCbOnPostRuuvi_uiClient (hP : P.Lawful) {param : GwCfgDefaultInitParam}
    {stored : Option Json} {default cfg : GwCfg P} (storage : GwCfgStorage)
    (hdefault : gwCfgDefaultInit P param stored = some default) (hcfg : Reachable default cfg)
    (hcut : Rereadable default.ruuviCfg cfg.ruuviCfg)
    (huser : cfg.ruuviCfg.http.auth.UserFits cfg.ruuviCfg.http.authType)
    (hsettled : Settled default.ruuviCfg cfg.ruuviCfg) :
    httpServerCbOnPostRuuvi (gwCfgJsonGenerateForUiClient storage default cfg) true default cfg =
      some cfg := by
  have hwritten := written storage default cfg true
  have hparse := parse_uiClient_lan hP hwritten (hcfg.normal hdefault) hcut huser
  have hcmp : gwCfgRuuviCmp cfg.ruuviCfg (GwCfgRuuvi.postedBack default.ruuviCfg cfg.ruuviCfg) :=
    gwCfgRuuviCmp_equivalence.symm (postedBack_cmp_iff.mpr hsettled)
  simp only [httpServerCbOnPostRuuvi, gwCfgJsonGenerateForUiClient, hparse, Option.map_some]
  simp [gwCfgUpdateRuuviCfg, gwCfgSet, gwCfgSetRuuvi, gwCfgSetEth, gwCfgSetWifiAp, gwCfgSetWifiSta,
    setSection, hcmp]

end RuuviGateway.Config
