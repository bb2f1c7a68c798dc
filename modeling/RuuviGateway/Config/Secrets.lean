import RuuviGateway.Config.Update

/-!
# Secrets stay in the gateway

The JSON for the browser is a function of the configuration with its secrets erased, of whether
each LAN API key is set and of whether the LAN password is the default one.
-/

namespace RuuviGateway.Config

open General

variable {P : Platform}

/-- Everything in the block is a secret, except the user of basic authentication. -/
def HttpAuth.eraseSecrets (auth : HttpAuth) : HttpAuthType → HttpAuth
  | .basic => HttpAuth.zero.setUser (.snprintf _ auth.user)
  | .none | .bearer | .token | .apikey => .zero

def GwCfgRemote.eraseSecrets (cfg : GwCfgRemote) : GwCfgRemote :=
  { cfg with auth := cfg.auth.eraseSecrets cfg.authType }

def GwCfgHttp.eraseSecrets (cfg : GwCfgHttp) : GwCfgHttp :=
  { cfg with auth := cfg.auth.eraseSecrets cfg.authType }

def GwCfgLanAuth.eraseSecrets (cfg : GwCfgLanAuth P) : GwCfgLanAuth P :=
  { cfg with lanAuthPass := .empty, lanAuthApiKey := .empty, lanAuthApiKeyRw := .empty }

def GwCfg.eraseSecrets (cfg : GwCfg P) : GwCfg P :=
  { cfg with
    ruuviCfg.remote := cfg.ruuviCfg.remote.eraseSecrets
    ruuviCfg.http := cfg.ruuviCfg.http.eraseSecrets
    ruuviCfg.httpStat.httpStatPass := .empty
    ruuviCfg.mqtt.mqttPass := .empty
    ruuviCfg.lanAuth := cfg.ruuviCfg.lanAuth.eraseSecrets
    wifiCfg.ap.wifiConfigAp.password := .empty
    wifiCfg.sta.wifiConfigSta.password := .empty }

/-- The user of basic authentication ends within its field. -/
def HttpAuth.UserFits (auth : HttpAuth) (authType : HttpAuthType) : Prop :=
  authType = .basic → auth.user.length < gwCfgMaxHttpUserLen

instance (auth : HttpAuth) (authType : HttpAuthType) : Decidable (auth.UserFits authType) :=
  inferInstanceAs (Decidable (_ → _))

def GwCfg.Terminated (cfg : GwCfg P) : Prop :=
  cfg.ruuviCfg.remote.auth.UserFits cfg.ruuviCfg.remote.authType ∧
    cfg.ruuviCfg.http.auth.UserFits cfg.ruuviCfg.http.authType

instance (cfg : GwCfg P) : Decidable cfg.Terminated := inferInstanceAs (Decidable (_ ∧ _))

section Sections

theorem HttpAuth.user_eraseSecrets {auth : HttpAuth} (h : auth.UserFits .basic) :
    (auth.eraseSecrets .basic).user = auth.user := by
  rw [eraseSecrets, user_setUser]
  exact CStr.val_snprintf (noNul_cstr _) (h rfl)

theorem gwCfgJsonAddItemsRemote_eraseSecrets {cfg : GwCfgRemote}
    (h : cfg.auth.UserFits cfg.authType) :
    gwCfgJsonAddItemsRemote cfg.eraseSecrets true = gwCfgJsonAddItemsRemote cfg true := by
  unfold gwCfgJsonAddItemsRemote GwCfgRemote.eraseSecrets
  cases htype : cfg.authType
  case basic =>
    have huser := HttpAuth.user_eraseSecrets (htype ▸ h)
    simp [gwCfgJsonAddItemsRemoteAuth, gwCfgJsonAddItemsRemoteAuthBasic, addItemsAuthBasic, huser]
  all_goals rfl

theorem gwCfgJsonAddItemsHttp_eraseSecrets {cfg : GwCfgHttp} (h : cfg.auth.UserFits cfg.authType) :
    gwCfgJsonAddItemsHttp cfg.eraseSecrets true = gwCfgJsonAddItemsHttp cfg true := by
  have hauth :
      gwCfgJsonAddItemsHttpCustomAuth cfg.authType (cfg.auth.eraseSecrets cfg.authType) true =
        gwCfgJsonAddItemsHttpCustomAuth cfg.authType cfg.auth true := by
    cases htype : cfg.authType
    case basic =>
      have huser := HttpAuth.user_eraseSecrets (htype ▸ h)
      simp [gwCfgJsonAddItemsHttpCustomAuth, gwCfgJsonAddItemsHttpCustomAuthBasic,
        addItemsAuthBasic, huser]
    all_goals rfl
  have hparams : gwCfgJsonAddItemsHttpCustomParams cfg.eraseSecrets true =
      gwCfgJsonAddItemsHttpCustomParams cfg true :=
    congrArg (_ ++ ·) hauth
  unfold gwCfgJsonAddItemsHttp
  rw [hparams]
  rfl

/-- The section for the LAN shows of its secrets whether the password is the default one and
whether the keys are set. -/
theorem gwCfgJsonAddItemsLanAuth_eraseSecrets {default a b : GwCfgLanAuth P}
    (h : a.eraseSecrets = b.eraseSecrets)
    (hpass : a.lanAuthPass = default.lanAuthPass ↔ b.lanAuthPass = default.lanAuthPass)
    (hkey : a.lanAuthApiKey.val = [] ↔ b.lanAuthApiKey.val = [])
    (hkeyRw : a.lanAuthApiKeyRw.val = [] ↔ b.lanAuthApiKeyRw.val = []) :
    gwCfgJsonAddItemsLanAuth default a true = gwCfgJsonAddItemsLanAuth default b true := by
  simp only [GwCfgLanAuth.eraseSecrets, GwCfgLanAuth.mk.injEq, and_true] at h
  have hsame : a.sameCredentials default = b.sameCredentials default := by
    rw [Bool.eq_iff_iff]
    simp only [GwCfgLanAuth.sameCredentials, Bool.and_eq_true, beq_iff_eq, h.2, ← CStr.ext_iff,
      hpass]
  have huse : (a.lanAuthApiKey.val != []) = (b.lanAuthApiKey.val != []) := by
    rw [Bool.eq_iff_iff]
    simp only [bne_iff_ne, ne_eq, hkey]
  have huseRw : (a.lanAuthApiKeyRw.val != []) = (b.lanAuthApiKeyRw.val != []) := by
    rw [Bool.eq_iff_iff]
    simp only [bne_iff_ne, ne_eq, hkeyRw]
  simp only [gwCfgJsonAddItemsLanAuth, gwCfgAuthTypeToStr, h.1, h.2, hsame, huse, huseRw, if_true]

end Sections

/-- What the browser is told does not depend on the secrets. -/
theorem uiClient_hidesSecrets (storage : GwCfgStorage) (default a b : GwCfg P)
    (h : a.eraseSecrets = b.eraseSecrets)
    (hpass : a.ruuviCfg.lanAuth.lanAuthPass = default.ruuviCfg.lanAuth.lanAuthPass ↔
      b.ruuviCfg.lanAuth.lanAuthPass = default.ruuviCfg.lanAuth.lanAuthPass)
    (hkey : a.ruuviCfg.lanAuth.lanAuthApiKey.val = [] ↔ b.ruuviCfg.lanAuth.lanAuthApiKey.val = [])
    (hkeyRw : a.ruuviCfg.lanAuth.lanAuthApiKeyRw.val = [] ↔
      b.ruuviCfg.lanAuth.lanAuthApiKeyRw.val = [])
    (ha : a.Terminated) (hb : b.Terminated) :
    gwCfgJsonGenerateForUiClient storage default a =
      gwCfgJsonGenerateForUiClient storage default b := by
  simp only [GwCfg.eraseSecrets, GwCfg.mk.injEq, GwCfgRuuvi.mk.injEq] at h
  obtain ⟨hdevice, ⟨hremote, hhttp, hstat, hmqtt, hlan, hrest⟩, heth, hwifi⟩ := h
  have hremote' : gwCfgJsonAddItemsRemote a.ruuviCfg.remote true =
      gwCfgJsonAddItemsRemote b.ruuviCfg.remote true := by
    rw [← gwCfgJsonAddItemsRemote_eraseSecrets ha.1, hremote,
      gwCfgJsonAddItemsRemote_eraseSecrets hb.1]
  have hhttp' : gwCfgJsonAddItemsHttp a.ruuviCfg.http true =
      gwCfgJsonAddItemsHttp b.ruuviCfg.http true := by
    rw [← gwCfgJsonAddItemsHttp_eraseSecrets ha.2, hhttp, gwCfgJsonAddItemsHttp_eraseSecrets hb.2]
  have hlan' := gwCfgJsonAddItemsLanAuth_eraseSecrets hlan hpass hkey hkeyRw
  simp only [GwCfgHttpStat.mk.injEq, and_true] at hstat
  simp only [GwCfgMqtt.mk.injEq, and_true] at hmqtt
  simp only [WifimanConfig.mk.injEq, WifimanConfigAp.mk.injEq, WifimanConfigSta.mk.injEq,
    WifiApConfig.mk.injEq, WifiStaConfig.mk.injEq] at hwifi
  simp only [gwCfgJsonGenerateForUiClient, gwCfgJsonAddItems, gwCfgJsonAddItemsRuuvi, hremote',
    hhttp', hlan', hdevice, heth, hrest, gwCfgJsonAddItemsHttpStat, gwCfgJsonAddItemsMqtt,
    gwCfgJsonAddItemsWifiStaConfig, gwCfgJsonAddItemsWifiApConfig, hstat, hmqtt, hwifi, if_true]

/-- Basic authentication towards both HTTP targets, with the given secrets. -/
def sampleSecrets (secret : Bytes) : GwCfg samplePlatform :=
  let auth := (HttpAuth.zero.setUser (.snprintf _ (ascii "user"))).setPassword (.snprintf _ secret)
  { sampleDefault with
    ruuviCfg.remote.authType := .basic
    ruuviCfg.remote.auth := auth
    ruuviCfg.http.useHttp := true
    ruuviCfg.http.authType := .basic
    ruuviCfg.http.auth := auth
    ruuviCfg.httpStat.httpStatPass := .snprintf _ secret
    ruuviCfg.mqtt.mqttPass := .snprintf _ secret
    ruuviCfg.lanAuth.lanAuthType := .ruuvi
    ruuviCfg.lanAuth.lanAuthPass := .snprintf _ secret
    ruuviCfg.lanAuth.lanAuthApiKey := .snprintf _ secret
    wifiCfg.sta.wifiConfigSta.password := .snprintf _ secret }

theorem uiClient_hidesSecrets_sample :
    gwCfgJsonGenerateForUiClient ⟨true, fun _ => false⟩ sampleDefault
      (sampleSecrets (ascii "one")) =
      gwCfgJsonGenerateForUiClient ⟨true, fun _ => false⟩ sampleDefault
        (sampleSecrets (ascii "another")) :=
  uiClient_hidesSecrets _ _ _ _ (by decide +kernel) (by decide +kernel) (by decide +kernel)
    (by decide +kernel) (by decide +kernel) (by decide +kernel)

end RuuviGateway.Config
