import RuuviGateway.Config.Update

/-!
# Reachable configurations

The configurations that parsing and updating can lead to from the default one, and what the parser
establishes about all of them.
-/

namespace RuuviGateway.Config

open General

variable {P : Platform}

inductive Reachable (default : GwCfg P) : GwCfg P → Prop
  | default : Reachable default default
  | parse {cfg cfg' : GwCfg P} (sections : Sections) (root : Json) :
    Reachable default cfg → gwCfgJsonParseCjson sections root (some default) cfg = some cfg' →
    Reachable default cfg'
  | httpBody {cfg cfg' : GwCfg P} {flagNetworkCfg : Bool} (root : Json) (flagAccessFromLan : Bool) :
    Reachable default cfg →
    jsonRuuviParseHttpBody root flagAccessFromLan default cfg = some (cfg', flagNetworkCfg) →
    Reachable default cfg'
  | update {new stored : GwCfg P} (sections : Sections) :
    Reachable default new → Reachable default stored →
    Reachable default (gwCfgSet (if sections.ruuvi then some new.ruuviCfg else none)
      (if sections.eth then some new.ethCfg else none)
      (if sections.wifiAp then some new.wifiCfg.ap else none)
      (if sections.wifiSta then some new.wifiCfg.sta else none) stored).1
  | fwUpdateUrl {stored : GwCfg P} (url : Bytes) :
    Reachable default stored → Reachable default (gwCfgUpdateFwUpdateUrl url stored)

section WellFormed

/-- Both texts of basic authentication end within their fields. -/
def HttpAuth.Fits (auth : HttpAuth) : Prop :=
  auth.user.length < gwCfgMaxHttpUserLen ∧ auth.password.length < gwCfgMaxHttpPassLen

instance (auth : HttpAuth) : Decidable auth.Fits := inferInstanceAs (Decidable (_ ∧ _))

theorem HttpAuth.fits_zero : HttpAuth.zero.Fits := by decide +kernel

theorem HttpAuth.Fits.setUser {auth : HttpAuth} (h : auth.Fits) (s : CStr gwCfgMaxHttpUserLen) :
    (auth.setUser s).Fits := by
  rw [Fits, user_setUser, password_setUser]
  exact ⟨s.fits, h.2⟩

theorem HttpAuth.Fits.setPassword {auth : HttpAuth} (h : auth.Fits)
    (s : CStr gwCfgMaxHttpPassLen) : (auth.setPassword s).Fits := by
  rw [Fits, user_setPassword auth s h.1, password_setPassword]
  exact ⟨h.1, s.fits⟩

theorem HttpAuth.Fits.parseAuthBasic {auth : HttpAuth} (h : auth.Fits) (userKey passKey : String)
    (root : Json) : (parseAuthBasic userKey passKey root auth).Fits := by
  unfold Config.parseAuthBasic
  have huser : (((jsonWrapCopyStringVal _ root userKey).map auth.setUser).getD auth).Fits := by
    cases jsonWrapCopyStringVal gwCfgMaxHttpUserLen root userKey with
    | none => exact h
    | some s => exact h.setUser s
  cases jsonWrapCopyStringVal gwCfgMaxHttpPassLen root passKey with
  | none => exact huser
  | some s => exact huser.setPassword s

structure RemoteOk (authType : HttpAuthType) (auth : HttpAuth) : Prop where
  supported : authType = .none ∨ authType = .basic ∨ authType = .bearer
  fits : authType = .basic → auth.Fits

theorem RemoteOk.parse {cfg : GwCfgRemote} (h : RemoteOk cfg.authType cfg.auth) (root : Json) :
    RemoteOk (gwCfgJsonParseRemoteAuth root cfg).1 (gwCfgJsonParseRemoteAuth root cfg).2 := by
  unfold gwCfgJsonParseRemoteAuth
  split
  case h_1 => exact h
  case h_2 s hs =>
    have htype : gwCfgJsonParseRemoteAuthType s.val = .none ∨
        gwCfgJsonParseRemoteAuthType s.val = .basic ∨
        gwCfgJsonParseRemoteAuthType s.val = .bearer := by
      unfold gwCfgJsonParseRemoteAuthType
      split_ifs <;> simp
    rcases htype with hnone | hbasic | hbearer
    · simp only [hnone]
      exact ⟨.inl rfl, nofun⟩
    · have hbase : (if cfg.authType ≠ .basic then HttpAuth.zero else cfg.auth).Fits := by
        split_ifs with hchanged
        · exact HttpAuth.fits_zero
        · exact h.fits (not_not.mp hchanged)
      simp only [hbasic]
      exact ⟨.inr (.inl rfl), fun _ => hbase.parseAuthBasic _ _ root⟩
    · simp only [hbearer]
      exact ⟨.inr (.inr rfl), nofun⟩

def HttpOk (cfg : GwCfgHttp) : Prop := cfg.useHttp = true → cfg.isDefaultTarget = false

/-- The parser leaves the default target as the target of Ruuvi only. -/
theorem httpOk_parse {cfg cfg' : GwCfgHttp} {root : Json}
    (h : gwCfgJsonParseHttp P root cfg = some cfg') : HttpOk cfg' := by
  unfold gwCfgJsonParseHttp at h
  dsimp only at h
  split_ifs at h with huse hdefault
  · obtain rfl := Option.some.inj h
    exact nofun
  · obtain ⟨period, -, hcfg⟩ := Option.bind_eq_some_iff.mp h
    obtain rfl := Option.some.inj hcfg
    intro _
    simpa [GwCfgHttp.isDefaultTarget] using hdefault
  · obtain rfl := Option.some.inj h
    intro huse'
    exact absurd huse' huse

def NtpOk (cfg : GwCfgNtp) : Prop := cfg.ntpUse = false → cfg.ntpUseDhcp = false

theorem ntpOk_parse (root : Json) (cfg : GwCfgNtp) : NtpOk (gwCfgJsonParseNtp root cfg) := by
  unfold gwCfgJsonParseNtp
  dsimp only
  split_ifs with huse hdhcp
  · exact fun hoff => nomatch huse.symm.trans hoff
  · exact fun hoff => nomatch huse.symm.trans hoff
  · exact fun _ => rfl

/-- What parsing establishes whatever the default configuration is. -/
structure WellFormed (cfg : GwCfgRuuvi P) : Prop where
  remote : RemoteOk cfg.remote.authType cfg.remote.auth
  http : HttpOk cfg.http
  ntp : NtpOk cfg.ntp

/-- The sections of a parsed configuration. -/
theorem parse_sections {root : Json} {default : Option (GwCfgRuuvi P)} {cfg cfg' : GwCfgRuuvi P}
    (h : gwCfgJsonParseCjsonRuuviCfg root default cfg = some cfg') :
    gwCfgJsonParseRemote root cfg.remote = some cfg'.remote ∧
      gwCfgJsonParseHttp P root cfg.http = some cfg'.http ∧
      gwCfgJsonParseMqtt P root (default.map (·.mqtt)) cfg.mqtt = some cfg'.mqtt ∧
      cfg'.lanAuth = gwCfgJsonParseLanAuth root (default.map (·.lanAuth)) cfg.lanAuth ∧
      cfg'.ntp = gwCfgJsonParseNtp root cfg.ntp ∧
      cfg'.scan = gwCfgJsonParseScan root (default.map (·.scan)) cfg.scan := by
  simp only [gwCfgJsonParseCjsonRuuviCfg, Option.bind_eq_bind, Option.bind_eq_some_iff] at h
  obtain ⟨remote, hremote, http, hhttp, mqtt, hmqtt, update, -, filter, -, list, -, hcfg⟩ := h
  obtain rfl := Option.some.inj hcfg
  exact ⟨hremote, hhttp, hmqtt, rfl, rfl, rfl⟩

theorem WellFormed.parse {root : Json} {default : Option (GwCfgRuuvi P)} {cfg cfg' : GwCfgRuuvi P}
    (hcfg : WellFormed cfg) (h : gwCfgJsonParseCjsonRuuviCfg root default cfg = some cfg') :
    WellFormed cfg' := by
  obtain ⟨hremote, hhttp, -, -, hntp, -⟩ := parse_sections h
  obtain ⟨interval, -, hremote'⟩ := Option.bind_eq_some_iff.mp hremote
  constructor
  case remote =>
    rw [← Option.some.inj hremote']
    exact hcfg.remote.parse root
  case http => exact httpOk_parse hhttp
  case ntp =>
    rw [hntp]
    exact ntpOk_parse root cfg.ntp

theorem wellFormed_gatewayConfigDefaultRuuvi : WellFormed (gatewayConfigDefaultRuuvi P) where
  remote := ⟨.inl rfl, nofun⟩
  http := nofun
  ntp := nofun

end WellFormed

section Normal

/-- The type of the LAN authentication tells the default credentials from configured ones. -/
structure LanAuthOk (default cfg : GwCfgLanAuth P) : Prop where
  ofDefault : cfg.lanAuthType = .default → cfg.sameCredentials default = true
  ofRuuvi : cfg.lanAuthType = .ruuvi → cfg.sameCredentials default = false

theorem LanAuthOk.other {default cfg : GwCfgLanAuth P} (hdefault : cfg.lanAuthType ≠ .default)
    (hruuvi : cfg.lanAuthType ≠ .ruuvi) : LanAuthOk default cfg :=
  ⟨fun h => absurd h hdefault, fun h => absurd h hruuvi⟩

theorem LanAuthOk.credentials (root : Json) (default cfg : GwCfgLanAuth P) :
    LanAuthOk default (gwCfgJsonParseLanAuthCredentials root (some default) cfg) := by
  unfold gwCfgJsonParseLanAuthCredentials
  cases htype : cfg.lanAuthType
  case ruuvi =>
    dsimp only
    split_ifs with hsame
    · rw [Option.getD_some, GwCfgLanAuth.sameCredentials_comm] at hsame
      exact ⟨fun _ => hsame, nofun⟩
    · rw [Option.getD_some, GwCfgLanAuth.sameCredentials_comm, Bool.not_eq_true] at hsame
      have htype' : (gwCfgJsonParseLanAuthUserPassword root cfg).lanAuthType = .ruuvi := htype
      exact ⟨fun hdefault => (nomatch htype'.symm.trans hdefault), fun _ => hsame⟩
  case default =>
    constructor
    · intro _
      simp [GwCfgLanAuth.sameCredentials]
    · simp
  all_goals
    apply LanAuthOk.other <;> simp [gwCfgJsonParseLanAuthUserPassword, htype]

theorem LanAuthOk.parse {default cfg : GwCfgLanAuth P} (h : LanAuthOk default cfg) (root : Json) :
    LanAuthOk default (gwCfgJsonParseLanAuth root (some default) cfg) := by
  unfold gwCfgJsonParseLanAuth
  cases jsonWrapCopyStringVal (P.httpServerAuthTypeStrMax + 1) root "lan_auth_type" with
  | none => exact ⟨h.ofDefault, h.ofRuuvi⟩
  | some s =>
    have hcred := LanAuthOk.credentials root default
      { cfg with lanAuthType := P.httpServerAuthTypeFromStr s.val }
    exact ⟨hcred.ofDefault, hcred.ofRuuvi⟩

/-- The default configuration itself never gets the type for configured credentials. -/
theorem lanAuth_parse_aliased {cfg : GwCfgLanAuth P} (h : cfg.lanAuthType ≠ .ruuvi) (root : Json) :
    (gwCfgJsonParseLanAuth root none cfg).lanAuthType ≠ .ruuvi := by
  unfold gwCfgJsonParseLanAuth
  cases jsonWrapCopyStringVal (P.httpServerAuthTypeStrMax + 1) root "lan_auth_type" with
  | none => exact h
  | some s =>
    dsimp only
    unfold gwCfgJsonParseLanAuthCredentials
    cases htype : P.httpServerAuthTypeFromStr s.val
    all_goals simp [GwCfgLanAuth.sameCredentials, gwCfgJsonParseLanAuthUserPassword]

/-- The flags of a default scan are those of the default configuration. -/
def ScanOk (default cfg : GwCfgScan) : Prop :=
  cfg.scanDefault = true → cfg = { default with scanDefault := true }

theorem scanOk_parse (root : Json) (default cfg : GwCfgScan) :
    ScanOk default (gwCfgJsonParseScan root (some default) cfg) := by
  unfold gwCfgJsonParseScan
  dsimp only
  split_ifs with hscan hconv hall
  · intro hdefault
    rw [Option.getD_some] at hdefault ⊢
    rw [← hdefault]
  · exact fun _ => rfl
  · exact nofun
  · exact fun hdefault => absurd hdefault hscan

structure Normal (default cfg : GwCfgRuuvi P) : Prop extends WellFormed cfg where
  lanAuth : LanAuthOk default.lanAuth cfg.lanAuth
  scan : ScanOk default.scan cfg.scan
  mqttPrefix : cfg.mqtt.mqttPrefix.val = [] → default.mqtt.mqttPrefix.val = []
  mqttClientId : cfg.mqtt.mqttClientId.val = [] → default.mqtt.mqttClientId.val = []

theorem mqttNonEmpty_parse {n : ℕ} [NeZero n] (root : Json) (key : String) (default cfg : CStr n)
    (h : (gwCfgJsonParseMqttNonEmpty root key (some default) cfg).val = []) :
    default.val = [] := by
  unfold gwCfgJsonParseMqttNonEmpty at h
  dsimp only at h
  split_ifs at h with hempty
  · exact h
  · exact absurd h hempty

theorem Normal.parse {root : Json} {default cfg cfg' : GwCfgRuuvi P} (hcfg : Normal default cfg)
    (h : gwCfgJsonParseCjsonRuuviCfg root (some default) cfg = some cfg') :
    Normal default cfg' := by
  obtain ⟨-, -, hmqtt, hlan, -, hscan⟩ := parse_sections h
  simp only [gwCfgJsonParseMqtt, Option.bind_eq_bind, Option.bind_eq_some_iff] at hmqtt
  obtain ⟨port, -, interval, -, hmqtt'⟩ := hmqtt
  constructor
  case toWellFormed => exact hcfg.toWellFormed.parse h
  case lanAuth =>
    rw [hlan]
    exact hcfg.lanAuth.parse root
  case scan =>
    rw [hscan]
    exact scanOk_parse root default.scan cfg.scan
  case mqttPrefix =>
    rw [← Option.some.inj hmqtt']
    exact mqttNonEmpty_parse root _ default.mqtt.mqttPrefix cfg.mqtt.mqttPrefix
  case mqttClientId =>
    rw [← Option.some.inj hmqtt']
    exact mqttNonEmpty_parse root _ default.mqtt.mqttClientId cfg.mqtt.mqttClientId

theorem Normal.parseCjson {root : Json} {sections : Sections} {default cfg cfg' : GwCfg P}
    (hcfg : Normal default.ruuviCfg cfg.ruuviCfg)
    (h : gwCfgJsonParseCjson sections root (some default) cfg = some cfg') :
    Normal default.ruuviCfg cfg'.ruuviCfg := by
  simp only [gwCfgJsonParseCjson, Option.bind_eq_bind, Option.bind_eq_some_iff] at h
  obtain ⟨ruuvi, hruuvi, ap, -, hcfg'⟩ := h
  rw [← Option.some.inj hcfg']
  split_ifs at hruuvi
  · exact hcfg.parse hruuvi
  · rw [← Option.some.inj hruuvi]
    exact hcfg

end Normal

section Default

theorem gatewayConfigDefaultRuuvi_lanAuthType :
    (gatewayConfigDefaultRuuvi P).lanAuth.lanAuthType ≠ .ruuvi := by
  change HttpServerAuthType.default ≠ .ruuvi
  decide

/-- The default configuration is reachable from itself only if it has what parsing establishes. -/
theorem normal_default {param : GwCfgDefaultInitParam} {stored : Option Json} {default : GwCfg P}
    (h : gwCfgDefaultInit P param stored = some default) :
    Normal default.ruuviCfg default.ruuviCfg := by
  have hidentity {cfg : GwCfg P} (hcfg : WellFormed cfg.ruuviCfg)
      (hlan : cfg.ruuviCfg.lanAuth.lanAuthType ≠ .ruuvi) :
      Normal cfg.withIdentity.ruuviCfg cfg.withIdentity.ruuviCfg := by
    constructor
    case toWellFormed => exact ⟨hcfg.remote, hcfg.http, hcfg.ntp⟩
    case lanAuth => exact ⟨fun _ => by simp [GwCfgLanAuth.sameCredentials], fun h => absurd h hlan⟩
    case scan =>
      intro hdefault
      rw [← hdefault]
    case mqttPrefix => exact id
    case mqttClientId => exact id
  unfold gwCfgDefaultInit at h
  cases stored with
  | none =>
    rw [← Option.some.inj h]
    exact hidentity wellFormed_gatewayConfigDefaultRuuvi gatewayConfigDefaultRuuvi_lanAuthType
  | some root =>
    obtain ⟨cfg, hparse, hcfg⟩ := Option.map_eq_some_iff.mp h
    simp only [gwCfgJsonParse, gwCfgJsonParseCjson, if_true, Option.bind_eq_bind,
      Option.bind_eq_some_iff] at hparse
    obtain ⟨ruuvi, hruuvi, ap, -, hcfg'⟩ := hparse
    obtain ⟨-, -, -, hlan, -⟩ := parse_sections hruuvi
    rw [← hcfg, ← Option.some.inj hcfg']
    apply hidentity
    · exact wellFormed_gatewayConfigDefaultRuuvi.parse hruuvi
    · rw [hlan]
      exact lanAuth_parse_aliased gatewayConfigDefaultRuuvi_lanAuthType root

theorem normal_setRuuvi {default new dst : GwCfgRuuvi P} (hnew : Normal default new)
    (hdst : Normal default dst) : Normal default (gwCfgSetRuuvi (some new) dst).1 := by
  rcases setSection_cases gwCfgRuuviCmp new dst with ⟨-, hkept⟩ | hset
  · rw [gwCfgSetRuuvi, hkept]
    exact hdst
  · rw [gwCfgSetRuuvi, hset]
    exact hnew

theorem Reachable.normal {param : GwCfgDefaultInitParam} {stored : Option Json}
    {default cfg : GwCfg P} (hdefault : gwCfgDefaultInit P param stored = some default)
    (h : Reachable default cfg) : Normal default.ruuviCfg cfg.ruuviCfg := by
  induction h with
  | default => exact normal_default hdefault
  | parse sections root _ hparse ih => exact ih.parseCjson hparse
  | httpBody root flagAccessFromLan _ hparse ih =>
    unfold jsonRuuviParseHttpBody at hparse
    split at hparse
    case h_1 =>
      obtain ⟨cfg, hcfg, heq⟩ := Option.map_eq_some_iff.mp hparse
      obtain ⟨rfl, -⟩ := Prod.mk.inj heq
      exact ih.parseCjson hcfg
    case h_2 useEth _ =>
      dsimp only at hparse
      split_ifs at hparse
      all_goals
        obtain ⟨cfg, hcfg, heq⟩ := Option.map_eq_some_iff.mp hparse
        obtain ⟨rfl, -⟩ := Prod.mk.inj heq
        apply Normal.parseCjson _ hcfg
        exact ih
  | update sections _ _ ihnew ihstored =>
    cases hruuvi : sections.ruuvi
    · simpa [gwCfgSet, gwCfgSetRuuvi, setSection, hruuvi] using ihstored
    · simpa [gwCfgSet, hruuvi] using normal_setRuuvi ihnew ihstored
  | fwUpdateUrl url _ ih =>
    exact ⟨⟨ih.remote, ih.http, ih.ntp⟩, ih.lanAuth, ih.scan, ih.mqttPrefix, ih.mqttClientId⟩

end Default

end RuuviGateway.Config
