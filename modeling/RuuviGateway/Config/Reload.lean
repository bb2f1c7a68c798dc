import RuuviGateway.Config.Reachable
import RuuviGateway.Config.Reread

/-!
# Saving and reloading

The saved configuration is parsed over the default one. Everything that is in use comes back.
Parameters of something that is not in use are written in part and read in part, and come back
as they are in the default configuration.
-/

namespace RuuviGateway.Config

open General

variable {P : Platform}

section Restored

/-- A target that is not in use is not written. -/
def GwCfgHttp.restored (default cfg : GwCfgHttp) : GwCfgHttp :=
  if cfg.useHttp then cfg
  else if cfg.useHttpRuuvi then
    { default with
      useHttpRuuvi := true
      useHttp := false
      dataFormat := .ruuvi
      authType := .none
      httpUrl := .snprintf _ ruuviGatewayHttpDefaultUrl }
  else { default with useHttpRuuvi := false, useHttp := false }

def GwCfgHttpStat.restored (default cfg : GwCfgHttpStat) : GwCfgHttpStat :=
  if cfg.useHttpStat then cfg
  else
    { cfg with
      httpStatUseSslClientCert := default.httpStatUseSslClientCert
      httpStatUseSslServerCert := default.httpStatUseSslServerCert }

def GwCfgMqtt.restored (default cfg : GwCfgMqtt) : GwCfgMqtt :=
  if cfg.useMqtt then cfg
  else
    { cfg with
      useSslClientCert := default.useSslClientCert
      useSslServerCert := default.useSslServerCert }

/-- Some types of authentication have no user. -/
def GwCfgLanAuth.restored (cfg : GwCfgLanAuth P) : GwCfgLanAuth P :=
  match cfg.lanAuthType with
  | .basic | .digest | .ruuvi | .default => cfg
  | .allow | .deny | .bearer => { cfg with lanAuthUser := .empty, lanAuthPass := .empty }

/-- What a configuration is after it was saved and loaded. The NTP servers and the static addresses
count only if they are in use, and a default scan is that of the default configuration. -/
def GwCfgRuuvi.restored (default cfg : GwCfgRuuvi P) : GwCfgRuuvi P :=
  { cfg with
    http := GwCfgHttp.restored default.http cfg.http
    httpStat := GwCfgHttpStat.restored default.httpStat cfg.httpStat
    mqtt := GwCfgMqtt.restored default.mqtt cfg.mqtt
    lanAuth := cfg.lanAuth.restored
    ntp := cfg.ntp.parsedOver default.ntp
    scan := GwCfgScan.parsedOver default.scan cfg.scan }

end Restored

section Significant

theorem HttpAuth.credentials_parsedOver {auth old : HttpAuth} {authType : HttpAuthType}
    (hfits : authType = .basic → auth.Fits) :
    (auth.parsedOver old false authType).credentials authType = auth.credentials authType := by
  have htoken : (CStr.snprintf gwCfgMaxHttpBearerTokenLen auth.token).val = auth.token :=
    CStr.val_snprintf (noNul_cstr _) auth.length_token
  cases authType
  case none => rfl
  case basic =>
    obtain ⟨huser, hpass⟩ := hfits rfl
    have huser' : (CStr.snprintf gwCfgMaxHttpUserLen auth.user).val = auth.user :=
      CStr.val_snprintf (noNul_cstr _) huser
    have hpass' : (CStr.snprintf gwCfgMaxHttpPassLen auth.password).val = auth.password :=
      CStr.val_snprintf (noNul_cstr _) hpass
    have hset : (old.setUser (.snprintf _ auth.user)).user.length < gwCfgMaxHttpUserLen := by
      rw [user_setUser, huser']
      exact huser
    simp [parsedOver, credentials, user_setPassword _ _ hset, huser', hpass']
  all_goals simp [parsedOver, credentials, htoken]

theorem GwCfgRemote.significant_parsedOver {cfg old : GwCfgRemote}
    (hfits : cfg.authType = .basic → cfg.auth.Fits) :
    (cfg.parsedOver old false).significant = cfg.significant := by
  simp [significant, parsedOver, HttpAuth.credentials_parsedOver hfits]

theorem GwCfgHttp.significant_parsedOver {cfg default : GwCfgHttp}
    (hfits : cfg.authType = .basic → cfg.auth.Fits) :
    (cfg.parsedOver default false).significant = (GwCfgHttp.restored default cfg).significant := by
  unfold parsedOver restored
  split_ifs
  · simp [significant, HttpAuth.credentials_parsedOver hfits]
  · rfl
  · rfl

theorem GwCfgHttpStat.parsedOver_eq_restored (default cfg : GwCfgHttpStat) :
    cfg.parsedOver default false = GwCfgHttpStat.restored default cfg := by
  simp only [parsedOver, restored, Bool.false_eq_true, if_false]
  split_ifs <;> rfl

theorem orDefault_eq {n : ℕ} {s default : CStr n} (h : s.val = [] → default.val = []) :
    CStr.orDefault s default = s := by
  unfold CStr.orDefault
  split_ifs with hempty
  · ext1
    rw [h hempty, hempty]
  · rfl

theorem GwCfgMqtt.parsedOver_eq_restored {default cfg : GwCfgMqtt}
    (hpre : cfg.mqttPrefix.val = [] → default.mqttPrefix.val = [])
    (hid : cfg.mqttClientId.val = [] → default.mqttClientId.val = []) :
    GwCfgMqtt.parsedOver default cfg default false = GwCfgMqtt.restored default cfg := by
  simp only [parsedOver, restored, orDefault_eq hpre, orDefault_eq hid, Bool.false_eq_true,
    if_false]
  split_ifs <;> rfl

theorem GwCfgLanAuth.parsedOver_eq_restored {default cfg : GwCfgLanAuth P}
    (h : LanAuthOk default cfg) :
    GwCfgLanAuth.parsedOver default cfg default false = cfg.restored := by
  unfold parsedOver restored
  cases htype : cfg.lanAuthType
  case default =>
    have hsame := h.ofDefault htype
    simp only [sameCredentials, Bool.and_eq_true, beq_iff_eq, ← CStr.ext_iff] at hsame
    cases cfg
    simp_all
  all_goals
    cases cfg
    simp_all

theorem significant_parsedOver {default cfg : GwCfgRuuvi P} (h : Normal default cfg)
    (hfits : cfg.http.authType = .basic → cfg.http.auth.Fits) :
    (GwCfgRuuvi.parsedOver default cfg default false).significant =
      (GwCfgRuuvi.restored default cfg).significant := by
  simp only [GwCfgRuuvi.significant, GwCfgRuuvi.parsedOver, GwCfgRuuvi.restored,
    GwCfgRemote.significant_parsedOver h.remote.fits, GwCfgHttp.significant_parsedOver hfits,
    GwCfgHttpStat.parsedOver_eq_restored,
    GwCfgMqtt.parsedOver_eq_restored h.mqttPrefix h.mqttClientId,
    GwCfgLanAuth.parsedOver_eq_restored h.lanAuth, GwCfgScanFilter.significant_parsedOver]

end Significant

section Reload

theorem Normal.rereadable {default cfg : GwCfgRuuvi P} (h : Normal default cfg)
    (hperiod : cfg.http.useHttp = true → cfg.http.httpPeriod.toNat < 0x10000)
    (hinterval : cfg.mqtt.mqttSendingInterval.toNat < 0x10000) : Rereadable default cfg where
  remote := h.remote.supported
  httpTarget := h.http
  httpPeriod := hperiod
  mqttInterval := hinterval
  lanAuth := h.lanAuth.ofRuuvi

/-- Saving and loading loses nothing that is in use. -/
theorem reload_restores (hP : P.Lawful) {param : GwCfgDefaultInitParam} {stored : Option Json}
    {default cfg : GwCfg P} (storage : GwCfgStorage)
    (hdefault : gwCfgDefaultInit P param stored = some default) (hcfg : Reachable default cfg)
    (hperiod : cfg.ruuviCfg.http.useHttp = true → cfg.ruuviCfg.http.httpPeriod.toNat < 0x10000)
    (hinterval : cfg.ruuviCfg.mqtt.mqttSendingInterval.toNat < 0x10000)
    (hfits : cfg.ruuviCfg.http.authType = .basic → cfg.ruuviCfg.http.auth.Fits) :
    ∃ cfg', gwCfgJsonParse (gwCfgJsonGenerateForSaving storage default cfg) (some default) default =
        some cfg' ∧
      gwCfgRuuviCmp cfg'.ruuviCfg (GwCfgRuuvi.restored default.ruuviCfg cfg.ruuviCfg) ∧
      gwCfgEthCmp cfg'.ethCfg (cfg.ethCfg.parsedOver default.ethCfg) := by
  have hnormal := hcfg.normal hdefault
  have hwritten := written storage default cfg false
  have hread : gwCfgJsonParse _ (some default) default = _ :=
    reread_cfg hP hwritten (hnormal.rereadable hperiod hinterval) nofun
  refine ⟨_, hread, ?_, ?_⟩
  · rw [gwCfgRuuviCmp_iff]
    exact significant_parsedOver hnormal hfits
  · rw [gwCfgEthCmp_iff, GwCfg.parsedOver]

end Reload

section Remembered

/-- Selects a custom target with basic authentication. -/
def sampleCustomJson : Json := .object [
  ("use_http_ruuvi", .bool false),
  ("use_http", .bool true),
  ("http_url", .string (ascii "https://example.com/post")),
  ("http_data_format", .string (ascii "ruuvi_decoded")),
  ("http_auth", .string (ascii "basic")),
  ("http_user", .string (ascii "user")),
  ("http_pass", .string (ascii "password")),
  ("http_period", .number 30)]

/-- Goes back to the target of Ruuvi. -/
def sampleRuuviJson : Json := .object [("use_http_ruuvi", .bool true), ("use_http", .bool false)]

/-- A custom target is in use. -/
def sampleCustom : GwCfg samplePlatform :=
  { sampleDefault with
    ruuviCfg.http := {
      useHttpRuuvi := false
      useHttp := true
      httpUseSslClientCert := false
      httpUseSslServerCert := false
      httpUrl := .snprintf _ (ascii "https://example.com/post")
      httpPeriod := 30
      dataFormat := .ruuviDecoded
      authType := .basic
      auth := (HttpAuth.zero.setUser (.snprintf _ (ascii "user"))).setPassword
        (.snprintf _ (ascii "password")) } }

/-- The custom target is remembered, but not in use. -/
def sampleRemembered : GwCfg samplePlatform :=
  { sampleCustom with
    ruuviCfg.http.useHttpRuuvi := true
    ruuviCfg.http.useHttp := false }

theorem reachable_sampleCustom : Reachable sampleDefault sampleCustom :=
  .parse ⟨true, false, false, false⟩ sampleCustomJson .default (by decide +kernel)

theorem reachable_sampleRemembered : Reachable sampleDefault sampleRemembered :=
  .parse ⟨true, false, false, false⟩ sampleRuuviJson reachable_sampleCustom (by decide +kernel)

theorem reload_restores_custom : ∃ cfg',
    gwCfgJsonParse (gwCfgJsonGenerateForSaving ⟨true, fun _ => false⟩ sampleDefault sampleCustom)
        (some sampleDefault) sampleDefault = some cfg' ∧
      gwCfgRuuviCmp cfg'.ruuviCfg
        (GwCfgRuuvi.restored sampleDefault.ruuviCfg sampleCustom.ruuviCfg) ∧
      gwCfgEthCmp cfg'.ethCfg (sampleCustom.ethCfg.parsedOver sampleDefault.ethCfg) :=
  reload_restores samplePlatform_lawful _ gwCfgDefaultInit_sample reachable_sampleCustom
    (by decide) (by decide) (by decide)

theorem reload_losesRemembered :
    Reachable sampleDefault sampleRemembered ∧ ∃ cfg',
      gwCfgJsonParse
          (gwCfgJsonGenerateForSaving ⟨true, fun _ => false⟩ sampleDefault sampleRemembered)
          (some sampleDefault) sampleDefault = some cfg' ∧
        gwCfgRuuviCmp cfg'.ruuviCfg sampleRemembered.ruuviCfg = false := by
  have hnormal := reachable_sampleRemembered.normal gwCfgDefaultInit_sample
  have hcfg := hnormal.rereadable (by decide) (by decide)
  have hwritten := written ⟨true, fun _ => false⟩ sampleDefault sampleRemembered false
  have hread : gwCfgJsonParse _ (some sampleDefault) sampleDefault = _ :=
    reread_cfg samplePlatform_lawful hwritten hcfg nofun
  exact ⟨reachable_sampleRemembered, _, hread, by decide⟩

end Remembered

end RuuviGateway.Config
