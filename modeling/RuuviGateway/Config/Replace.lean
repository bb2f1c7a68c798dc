import RuuviGateway.Config.Events

/-!
# Storing a configuration that was parsed over the stored one

A section that says the same as the stored one is not replaced. If it was parsed over the stored one
it is the same in every byte, so that the stored configuration is the parsed one in either case.
-/

namespace RuuviGateway.Config

open General

variable {P : Platform} {root : Json}

section Credentials

variable {auth : HttpAuth}

theorem setUser_of_user {s : CStr gwCfgMaxHttpUserLen} (h : auth.user = s.val) :
    auth.setUser s = auth := by
  have hsame : CStr.snprintf gwCfgMaxHttpUserLen auth.user = s := by rw [h, CStr.snprintf_val]
  rw [← hsame]
  exact auth.setUser_user (by rw [h]; exact s.fits)

theorem setPassword_of_password {s : CStr gwCfgMaxHttpPassLen} (h : auth.password = s.val) :
    auth.setPassword s = auth := by
  have hnul : 0 ∈ auth.bytes.drop gwCfgMaxHttpUserLen := by
    have hlast : (auth.bytes.drop gwCfgMaxHttpUserLen).getLast? = some 0 := by
      rw [List.getLast?_drop, if_neg (by rw [auth.size]; decide), auth.terminated]
    exact List.mem_of_getLast? hlast
  ext1
  change writeAt auth.bytes gwCfgMaxHttpUserLen s.val = auth.bytes
  rw [← h]
  exact writeAt_cstr hnul

theorem setToken_of_token {s : CStr gwCfgMaxHttpBearerTokenLen} (h : auth.token = s.val) :
    auth.setToken s = auth := by
  have hnul : 0 ∈ auth.bytes.drop 0 := List.mem_of_getLast? auth.terminated
  ext1
  change writeAt auth.bytes 0 s.val = auth.bytes
  rw [← h]
  exact writeAt_cstr hnul

theorem parseAuthBasic_same {userKey passKey : String}
    (huser : (parseAuthBasic userKey passKey root auth).user = auth.user)
    (hpass : (parseAuthBasic userKey passKey root auth).password = auth.password) :
    parseAuthBasic userKey passKey root auth = auth := by
  unfold parseAuthBasic at huser hpass ⊢
  cases hu : jsonWrapCopyStringVal gwCfgMaxHttpUserLen root userKey with
  | none =>
    cases hp : jsonWrapCopyStringVal gwCfgMaxHttpPassLen root passKey with
    | none => rfl
    | some p =>
      simp only [hu, hp, Option.map_none, Option.map_some, Option.getD_none, Option.getD_some,
        HttpAuth.password_setPassword] at hpass ⊢
      exact setPassword_of_password hpass.symm
  | some u =>
    have hlen : (auth.setUser u).user.length < gwCfgMaxHttpUserLen := by
      rw [HttpAuth.user_setUser]
      exact u.fits
    cases hp : jsonWrapCopyStringVal gwCfgMaxHttpPassLen root passKey with
    | none =>
      simp only [hu, hp, Option.map_none, Option.map_some, Option.getD_none, Option.getD_some,
        HttpAuth.user_setUser] at huser ⊢
      exact setUser_of_user huser.symm
    | some p =>
      simp only [hu, hp, Option.map_some, Option.getD_some, HttpAuth.user_setPassword _ _ hlen,
        HttpAuth.user_setUser, HttpAuth.password_setPassword] at huser hpass ⊢
      rw [setUser_of_user huser.symm]
      exact setPassword_of_password hpass.symm

theorem parseAuthBasic_of_credentials {userKey passKey : String}
    (h : auth.credentials .basic = (parseAuthBasic userKey passKey root auth).credentials .basic) :
    parseAuthBasic userKey passKey root auth = auth := by
  obtain ⟨huser, hpass⟩ := List.cons.inj h
  exact parseAuthBasic_same huser.symm (List.cons.inj hpass).1.symm

theorem parseAuthToken_same {tokenKey : String}
    (h : (parseAuthToken tokenKey root auth).token = auth.token) :
    parseAuthToken tokenKey root auth = auth := by
  unfold parseAuthToken at h ⊢
  cases ht : jsonWrapCopyStringVal gwCfgMaxHttpBearerTokenLen root tokenKey with
  | none => rfl
  | some t =>
    simp only [ht, Option.map_some, Option.getD_some, HttpAuth.token_setToken] at h ⊢
    exact setToken_of_token h.symm

end Credentials

section Same

theorem parseRemote_same {new old : GwCfgRemote} (h : gwCfgJsonParseRemote root old = some new)
    (hsame : old.significant = new.significant) : new = old := by
  obtain ⟨interval, -, hnew⟩ := Option.bind_eq_some_iff.mp h
  simp only [GwCfgRemote.significant, Prod.mk.injEq, GwCfgRemote.mk.injEq, true_and] at hsame
  obtain ⟨⟨huse, hclient, hserver, hurl, htype, hinterval⟩, hcredentials⟩ := hsame
  have hauth : new.auth = old.auth := by
    rw [← htype] at hcredentials
    rw [← Option.some.inj hnew] at htype hcredentials ⊢
    unfold gwCfgJsonParseRemoteAuth at htype hcredentials ⊢
    cases hstr : jsonWrapCopyStringVal gwCfgHttpAuthTypeStrSize root "remote_cfg_auth_type" with
    | none => rfl
    | some authTypeStr =>
      simp only [hstr] at htype hcredentials ⊢
      generalize gwCfgJsonParseRemoteAuthType authTypeStr.val = authType at htype hcredentials ⊢
      have hkept : old.authType = authType := by cases authType <;> exact htype
      rw [hkept] at hcredentials
      simp only [hkept, ne_eq, not_true, if_false] at hcredentials ⊢
      cases authType with
      | none | token | apikey => rfl
      | basic => exact parseAuthBasic_of_credentials hcredentials
      | bearer => exact parseAuthToken_same (List.cons.inj hcredentials).1.symm
  cases new
  cases old
  simp_all

theorem parseHttpAuth_same {authType : HttpAuthType} {auth : HttpAuth}
    (h : auth.credentials authType =
      (gwCfgJsonParseHttpAuth root authType auth).credentials authType) :
    gwCfgJsonParseHttpAuth root authType auth = auth := by
  cases authType with
  | none => rfl
  | basic => exact parseAuthBasic_of_credentials h
  | bearer | token | apikey => exact parseAuthToken_same (List.cons.inj h).1.symm

/-- The credentials after the parser, which are read if HTTP is in use. -/
theorem auth_parseHttp {new old : GwCfgHttp} (h : gwCfgJsonParseHttp P root old = some new) :
    new.auth = old.auth ∨ new.auth = gwCfgJsonParseHttpAuth root new.authType old.auth := by
  unfold gwCfgJsonParseHttp at h
  dsimp only at h
  split_ifs at h with huse hdefault
  · right
    rw [← Option.some.inj h]
    rfl
  · obtain ⟨period, -, hnew⟩ := Option.bind_eq_some_iff.mp h
    right
    rw [← Option.some.inj hnew]
    rfl
  · left
    rw [← Option.some.inj h]

theorem parseHttp_same {new old : GwCfgHttp} (h : gwCfgJsonParseHttp P root old = some new)
    (hsame : old.significant = new.significant) : new = old := by
  simp only [GwCfgHttp.significant, Prod.mk.injEq, GwCfgHttp.mk.injEq, and_true] at hsame
  obtain ⟨⟨hruuvi, huse, hclient, hserver, hurl, hperiod, hformat, htype⟩, hcredentials⟩ := hsame
  have hauth : new.auth = old.auth := by
    rcases auth_parseHttp h with hkept | hread
    · exact hkept
    · rw [hread, htype] at hcredentials
      rw [hread]
      exact parseHttpAuth_same hcredentials
  cases new
  cases old
  simp_all

theorem drop_parseScanFilterList (items : List Json) (macs : List MacAddressBin) :
    (gwCfgJsonParseScanFilterList P items macs).drop items.length = macs.drop items.length := by
  induction items generalizing macs with
  | nil => simp [gwCfgJsonParseScanFilterList]
  | cons item items ih =>
    cases macs with
    | nil => rfl
    | cons mac macs => simpa [gwCfgJsonParseScanFilterList] using ih macs

theorem parseScanFilter_same {new old : GwCfgScanFilter}
    (h : gwCfgJsonParseScanFilter P root old = some new)
    (hsame : old.significant = new.significant) : new = old := by
  obtain ⟨hallow, haddresses⟩ := Prod.mk.inj hsame
  have hlength : old.scanFilterLength = new.scanFilterLength := by
    rw [← old.length_addresses, ← new.length_addresses]
    exact congrArg List.length haddresses
  have hbehind : new.scanFilterList.drop new.scanFilterLength =
      old.scanFilterList.drop new.scanFilterLength := by
    unfold gwCfgJsonParseScanFilter at h
    dsimp only at h
    cases hlist : root.getObjectItem "scan_filter_list" with
    | none =>
      rw [hlist] at h
      rw [← Option.some.inj h]
    | some list =>
      simp only [hlist] at h
      split_ifs at h with hfits
      rw [← Option.some.inj h]
      exact drop_parseScanFilterList list.children old.scanFilterList
  have hentries : new.scanFilterList = old.scanFilterList := by
    rw [← List.take_append_drop new.scanFilterLength new.scanFilterList, hbehind]
    unfold GwCfgScanFilter.addresses at haddresses
    rw [← haddresses, hlength, List.take_append_drop]
  cases new
  cases old
  simp_all

theorem parseRuuviCfg_same {default : Option (GwCfgRuuvi P)} {new old : GwCfgRuuvi P}
    (h : gwCfgJsonParseCjsonRuuviCfg root default old = some new)
    (hsame : old.significant = new.significant) : new = old := by
  obtain ⟨remote, hremote, h⟩ := Option.bind_eq_some_iff.mp h
  obtain ⟨http, hhttp, h⟩ := Option.bind_eq_some_iff.mp h
  obtain ⟨mqtt, -, h⟩ := Option.bind_eq_some_iff.mp h
  obtain ⟨autoUpdate, -, h⟩ := Option.bind_eq_some_iff.mp h
  obtain ⟨filter, -, h⟩ := Option.bind_eq_some_iff.mp h
  obtain ⟨scanFilter, hscanFilter, h⟩ := Option.bind_eq_some_iff.mp h
  have hnew := Option.some.inj h
  simp only [GwCfgRuuvi.significant, Prod.mk.injEq, and_assoc] at hsame
  obtain ⟨hremote', hhttp', hstat, hmqtt, hlan, hupdate, hntp, hfilter, hscan, hscanFilter',
    hcoordinates, hfw⟩ := hsame
  have hremote₀ := parseRemote_same hremote (hremote'.trans (by rw [← hnew]))
  have hhttp₀ := parseHttp_same hhttp (hhttp'.trans (by rw [← hnew]))
  have hlist₀ := parseScanFilter_same hscanFilter (hscanFilter'.trans (by rw [← hnew]))
  have hremote₁ : new.remote = old.remote := by rw [← hremote₀, ← hnew]
  have hhttp₁ : new.http = old.http := by rw [← hhttp₀, ← hnew]
  have hlist₁ : new.scanFilter = old.scanFilter := by rw [← hlist₀, ← hnew]
  cases new
  cases old
  simp_all

end Same

section Replace

variable {default : GwCfg P}

theorem setSection_of_same {α : Type} {cmp : α → α → Bool} {new dst : α}
    (h : cmp dst new = true → new = dst) : (setSection cmp (some new) dst).1 = new := by
  by_cases hsame : cmp dst new = true
  · have hset : setSection cmp (some new) dst = (dst, false) := if_pos hsame
    rw [hset, h hsame]
  · have hset : setSection cmp (some new) dst = (new, true) := if_neg hsame
    rw [hset]

/-- After the update the stored configuration is the one that was parsed over it. -/
theorem gwCfgUpdate_of_parse {new old : GwCfg P}
    (h : gwCfgJsonParse root (some default) old = some new) :
    (gwCfgUpdate (some new) old).1 = new := by
  obtain ⟨ruuviCfg, hruuvi, h⟩ := Option.bind_eq_some_iff.mp h
  obtain ⟨ap, -, h⟩ := Option.bind_eq_some_iff.mp h
  have hnew := Option.some.inj h
  have hparse : gwCfgJsonParseCjsonRuuviCfg root (some default.ruuviCfg) old.ruuviCfg =
      some new.ruuviCfg := by
    rw [← hnew]
    exact hruuvi
  have hdevice : new.deviceInfo = old.deviceInfo := by rw [← hnew]
  have hruuviCfg : (gwCfgSetRuuvi (some new.ruuviCfg) old.ruuviCfg).1 = new.ruuviCfg :=
    setSection_of_same fun hcmp => parseRuuviCfg_same hparse (gwCfgRuuviCmp_iff.mp hcmp)
  have heth : (gwCfgSetEth (some new.ethCfg) old.ethCfg).1 = new.ethCfg :=
    setSection_of_same fun hcmp => (gwCfgEthCmp_iff.mp hcmp).symm
  have hap : (gwCfgSetWifiAp (some new.wifiCfg.ap) old.wifiCfg.ap).1 = new.wifiCfg.ap :=
    setSection_of_same fun hcmp => (wifimanConfigApCmp_iff.mp hcmp).symm
  have hsta : (gwCfgSetWifiSta (some new.wifiCfg.sta) old.wifiCfg.sta).1 = new.wifiCfg.sta :=
    setSection_of_same fun hcmp => (wifimanConfigStaCmp_iff.mp hcmp).symm
  rw [gwCfgUpdate, gwCfgSet]
  simp only [hruuviCfg, heth, hap, hsta, ← hdevice]

end Replace

section UseRemoteCfg

def GwCfgRemote.setUse (remote : GwCfgRemote) (use : Bool) : GwCfgRemote :=
  { remote with useRemoteCfg := use }

def GwCfg.setUseRemoteCfg (cfg : GwCfg P) (use : Bool) : GwCfg P :=
  { cfg with ruuviCfg.remote.useRemoteCfg := use }

variable (root) (use : Bool)

/-- What the field is after the parser: the value in the JSON, or else the one it had. -/
def remoteCfgUse : Bool := (jsonWrapGetBoolVal root "remote_cfg_use").getD use

theorem parseRemote_setUse (remote : GwCfgRemote) :
    gwCfgJsonParseRemote root (remote.setUse use) =
      (gwCfgJsonParseRemote root remote).map fun new => new.setUse (remoteCfgUse root use) := by
  unfold gwCfgJsonParseRemote
  cases jsonWrapGetUint16Val root "remote_cfg_refresh_interval_minutes" <;> rfl

theorem parseRuuviCfg_setUse (default : Option (GwCfgRuuvi P)) (cfg : GwCfgRuuvi P) :
    gwCfgJsonParseCjsonRuuviCfg root default { cfg with remote := cfg.remote.setUse use } =
      (gwCfgJsonParseCjsonRuuviCfg root default cfg).map fun new =>
        { new with remote := new.remote.setUse (remoteCfgUse root use) } := by
  unfold gwCfgJsonParseCjsonRuuviCfg
  simp only [parseRemote_setUse, Option.bind_eq_bind, Option.map_bind, Option.bind_map,
    Function.comp_def]
  rfl

/-- The parser reads nothing else from the field than its value. -/
theorem gwCfgJsonParse_setUseRemoteCfg (default : Option (GwCfg P)) (cfg : GwCfg P) :
    gwCfgJsonParse root default (cfg.setUseRemoteCfg use) =
      (gwCfgJsonParse root default cfg).map fun new =>
        new.setUseRemoteCfg (remoteCfgUse root use) := by
  have hruuvi := parseRuuviCfg_setUse root use (default.map (·.ruuviCfg)) cfg.ruuviCfg
  unfold gwCfgJsonParse gwCfgJsonParseCjson
  simp only [if_true, Option.bind_eq_bind, Option.map_bind, Function.comp_def]
  change (gwCfgJsonParseCjsonRuuviCfg root _ { cfg.ruuviCfg with
    remote := cfg.ruuviCfg.remote.setUse use }).bind _ = _
  rw [hruuvi, Option.bind_map]
  rfl

/-- A configuration that was parsed over one that does not use a remote configuration, and that
uses one, is what the parser makes of the original. -/
theorem parse_of_useRemoteCfg {root : Json} {default : Option (GwCfg P)} {cfg new : GwCfg P}
    (h : gwCfgJsonParse root default (cfg.setUseRemoteCfg false) = some new)
    (huse : new.ruuviCfg.remote.useRemoteCfg = true) :
    jsonWrapGetBoolVal root "remote_cfg_use" = some true ∧
      gwCfgJsonParse root default cfg = some new := by
  rw [gwCfgJsonParse_setUseRemoteCfg] at h
  obtain ⟨parsed, hparsed, hnew⟩ := Option.map_eq_some_iff.mp h
  have hvalue : remoteCfgUse root false = true := by
    rw [← hnew] at huse
    exact huse
  have hkey : jsonWrapGetBoolVal root "remote_cfg_use" = some true := by
    cases hbool : jsonWrapGetBoolVal root "remote_cfg_use" with
    | none => simp [remoteCfgUse, hbool] at hvalue
    | some b =>
      rw [remoteCfgUse, hbool] at hvalue
      exact congrArg some hvalue
  refine ⟨hkey, ?_⟩
  -- the field is the one of the JSON in either case
  have hsame : cfg.setUseRemoteCfg cfg.ruuviCfg.remote.useRemoteCfg = cfg := rfl
  have hparse := gwCfgJsonParse_setUseRemoteCfg root cfg.ruuviCfg.remote.useRemoteCfg default cfg
  rw [hsame, hparsed] at hparse
  have hvalue' : remoteCfgUse root cfg.ruuviCfg.remote.useRemoteCfg = remoteCfgUse root false := by
    rw [remoteCfgUse, remoteCfgUse, hkey]
    rfl
  rw [hvalue'] at hparse
  rw [hparsed, Option.some.inj hparse]
  exact congrArg some hnew

end UseRemoteCfg

end RuuviGateway.Config
