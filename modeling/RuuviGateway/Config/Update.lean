import RuuviGateway.Config.Compare
import RuuviGateway.Config.Sample

/-!
# Updating the stored configuration

`gw_cfg_set` replaces a section if it differs from the stored one. Since equal sections are written
as the same items, the JSON that is saved afterwards is that of the new configuration.
-/

namespace RuuviGateway.Config

open General

variable {P : Platform}

structure GwCfgUpdateStatus where
  flagRuuviCfgModified : Bool
  flagEthCfgModified : Bool
  flagWifiApCfgModified : Bool
  flagWifiStaCfgModified : Bool
  deriving DecidableEq

/-- The section after the call, and whether it was modified. A section that is not given
stays as it is. -/
def setSection {α : Type} (cmp : α → α → Bool) (new : Option α) (dst : α) : α × Bool :=
  match new with
  | none => (dst, false)
  | some new => if cmp dst new then (dst, false) else (new, true)

def gwCfgSetRuuvi : Option (GwCfgRuuvi P) → GwCfgRuuvi P → GwCfgRuuvi P × Bool :=
  setSection gwCfgRuuviCmp

def gwCfgSetEth : Option GwCfgEth → GwCfgEth → GwCfgEth × Bool := setSection gwCfgEthCmp

def gwCfgSetWifiAp : Option WifimanConfigAp → WifimanConfigAp → WifimanConfigAp × Bool :=
  setSection wifimanConfigApCmp

def gwCfgSetWifiSta : Option WifimanConfigSta → WifimanConfigSta → WifimanConfigSta × Bool :=
  setSection wifimanConfigStaCmp

def gwCfgSet (ruuvi : Option (GwCfgRuuvi P)) (eth : Option GwCfgEth)
    (wifiAp : Option WifimanConfigAp) (wifiSta : Option WifimanConfigSta) (dst : GwCfg P) :
    GwCfg P × GwCfgUpdateStatus :=
  let ruuvi := gwCfgSetRuuvi ruuvi dst.ruuviCfg
  let eth := gwCfgSetEth eth dst.ethCfg
  let wifiAp := gwCfgSetWifiAp wifiAp dst.wifiCfg.ap
  let wifiSta := gwCfgSetWifiSta wifiSta dst.wifiCfg.sta
  ({ dst with
    ruuviCfg := ruuvi.1
    ethCfg := eth.1
    wifiCfg := { ap := wifiAp.1, sta := wifiSta.1 } },
    ⟨ruuvi.2, eth.2, wifiAp.2, wifiSta.2⟩)

def gwCfgUpdateRuuviCfg (new : GwCfgRuuvi P) (dst : GwCfg P) : GwCfg P :=
  (gwCfgSet (some new) none none none dst).1

def gwCfgUpdateEthCfg (new : GwCfgEth) (dst : GwCfg P) : GwCfg P :=
  (gwCfgSet none (some new) none none dst).1

def gwCfgUpdateWifiApConfig (new : WifimanConfigAp) (dst : GwCfg P) : GwCfg P :=
  (gwCfgSet none none (some new) none dst).1

def gwCfgUpdateWifiStaConfig (new : WifimanConfigSta) (dst : GwCfg P) : GwCfg P :=
  (gwCfgSet none none none (some new) dst).1

def gwCfgUpdateFwUpdateUrl (url : Bytes) (dst : GwCfg P) : GwCfg P :=
  { dst with ruuviCfg.fwUpdate.fwUpdateUrl := .snprintf _ url }

def gwCfgUpdate (new : Option (GwCfg P)) (dst : GwCfg P) : GwCfg P × GwCfgUpdateStatus :=
  match new with
  | none => gwCfgSet none none none none dst
  | some new =>
    gwCfgSet (some new.ruuviCfg) (some new.ethCfg) (some new.wifiCfg.ap) (some new.wifiCfg.sta) dst

/-! ## What is written depends on what is compared -/

theorem gwCfgJsonAddItemsRemoteAuth_congr {authType : HttpAuthType} {a b : HttpAuth}
    (h : a.credentials authType = b.credentials authType) (hide : Bool) :
    gwCfgJsonAddItemsRemoteAuth authType a hide = gwCfgJsonAddItemsRemoteAuth authType b hide := by
  cases authType <;>
    simp_all [gwCfgJsonAddItemsRemoteAuth, HttpAuth.credentials, gwCfgJsonAddItemsRemoteAuthBasic,
      gwCfgJsonAddItemsRemoteAuthBearer, gwCfgJsonAddItemsRemoteAuthToken,
      gwCfgJsonAddItemsRemoteAuthApikey, addItemsAuthBasic, addItemsAuthToken]

theorem gwCfgJsonAddItemsRemote_congr {a b : GwCfgRemote} (h : a.significant = b.significant)
    (hide : Bool) : gwCfgJsonAddItemsRemote a hide = gwCfgJsonAddItemsRemote b hide := by
  simp only [GwCfgRemote.significant, Prod.mk.injEq, GwCfgRemote.mk.injEq, true_and] at h
  obtain ⟨⟨huse, hclient, hserver, hurl, htype, hinterval⟩, hauth⟩ := h
  rw [htype] at hauth
  simp only [gwCfgJsonAddItemsRemote, htype, gwCfgJsonAddItemsRemoteAuth_congr hauth, huse, hclient,
    hserver, hurl, hinterval]

theorem gwCfgJsonAddItemsHttpCustomAuth_congr {authType : HttpAuthType} {a b : HttpAuth}
    (h : a.credentials authType = b.credentials authType) (hide : Bool) :
    gwCfgJsonAddItemsHttpCustomAuth authType a hide =
      gwCfgJsonAddItemsHttpCustomAuth authType b hide := by
  cases authType <;>
    simp_all [gwCfgJsonAddItemsHttpCustomAuth, HttpAuth.credentials,
      gwCfgJsonAddItemsHttpCustomAuthBasic, gwCfgJsonAddItemsHttpCustomAuthBearer,
      gwCfgJsonAddItemsHttpCustomAuthToken, gwCfgJsonAddItemsHttpCustomAuthApikey,
      addItemsAuthBasic, addItemsAuthToken]

theorem gwCfgJsonAddItemsHttp_congr {a b : GwCfgHttp} (h : a.significant = b.significant)
    (hide : Bool) : gwCfgJsonAddItemsHttp a hide = gwCfgJsonAddItemsHttp b hide := by
  simp only [GwCfgHttp.significant, Prod.mk.injEq, GwCfgHttp.mk.injEq, and_true] at h
  obtain ⟨⟨hruuvi, huse, hclient, hserver, hurl, hperiod, hformat, htype⟩, hauth⟩ := h
  rw [htype] at hauth
  have hdefault : a.isDefaultTarget = b.isDefaultTarget := by
    simp only [GwCfgHttp.isDefaultTarget, hformat, htype, hurl]
  simp only [gwCfgJsonAddItemsHttp, gwCfgJsonAddItemsHttpCustomParams, htype,
    gwCfgJsonAddItemsHttpCustomAuth_congr hauth, hdefault, hruuvi, huse, hclient, hserver,
    hurl, hperiod, hformat]

theorem gwCfgJsonAddItemsScanFilter_congr {a b : GwCfgScanFilter}
    (h : a.significant = b.significant) :
    gwCfgJsonAddItemsScanFilter P a = gwCfgJsonAddItemsScanFilter P b := by
  simp only [GwCfgScanFilter.significant, Prod.mk.injEq] at h
  simp only [gwCfgJsonAddItemsScanFilter, h.1, h.2]

theorem gwCfgJsonAddItemsRuuvi_congr {a b : GwCfgRuuvi P} (h : a.significant = b.significant)
    (default : GwCfgLanAuth P) (hide : Bool) :
    gwCfgJsonAddItemsRuuvi default a hide = gwCfgJsonAddItemsRuuvi default b hide := by
  simp only [GwCfgRuuvi.significant, Prod.mk.injEq] at h
  obtain ⟨⟨hremote, hhttp, hstat, hmqtt, hlan⟩, ⟨hupdate, hntp, hfilter, hscan, hlist⟩,
    hcoordinates, hurl⟩ := h
  simp only [gwCfgJsonAddItemsRuuvi, gwCfgJsonAddItemsRemote_congr hremote,
    gwCfgJsonAddItemsHttp_congr hhttp, gwCfgJsonAddItemsScanFilter_congr hlist, hstat, hmqtt, hlan,
    hupdate, hntp, hfilter, hscan, hcoordinates, hurl]

theorem setSection_cases {α : Type} (cmp : α → α → Bool) (new dst : α) :
    cmp dst new ∧ (setSection cmp (some new) dst).1 = dst ∨
      (setSection cmp (some new) dst).1 = new := by
  by_cases hcmp : cmp dst new
  · exact .inl ⟨hcmp, by simp [setSection, hcmp]⟩
  · exact .inr (by simp [setSection, hcmp])

theorem setSection_of_iff {α : Type} {cmp : α → α → Bool} (h : ∀ a b, cmp a b ↔ a = b)
    (new dst : α) : (setSection cmp (some new) dst).1 = new := by
  rcases setSection_cases cmp new dst with ⟨hcmp, hkept⟩ | hnew
  · exact hkept.trans ((h dst new).mp hcmp)
  · exact hnew

theorem significant_gwCfgSetRuuvi (new dst : GwCfgRuuvi P) :
    (gwCfgSetRuuvi (some new) dst).1.significant = new.significant := by
  rcases setSection_cases gwCfgRuuviCmp new dst with ⟨hcmp, hkept⟩ | hnew
  · exact (congrArg _ hkept).trans (gwCfgRuuviCmp_iff.mp hcmp)
  · exact congrArg _ hnew

/-- A section that was taken for unchanged is still saved as the new one would be. -/
theorem gwCfgJsonGenerateForSaving_gwCfgUpdate (storage : GwCfgStorage)
    (default new dst : GwCfg P) :
    gwCfgJsonGenerateForSaving storage default (gwCfgUpdate (some new) dst).1 =
      gwCfgJsonGenerateForSaving storage default new := by
  have hruuvi := significant_gwCfgSetRuuvi new.ruuviCfg dst.ruuviCfg
  have heth : (gwCfgSetEth (some new.ethCfg) dst.ethCfg).1 = new.ethCfg :=
    setSection_of_iff (fun _ _ => gwCfgEthCmp_iff) _ _
  have hap : (gwCfgSetWifiAp (some new.wifiCfg.ap) dst.wifiCfg.ap).1 = new.wifiCfg.ap :=
    setSection_of_iff (fun _ _ => wifimanConfigApCmp_iff) _ _
  have hsta : (gwCfgSetWifiSta (some new.wifiCfg.sta) dst.wifiCfg.sta).1 = new.wifiCfg.sta :=
    setSection_of_iff (fun _ _ => wifimanConfigStaCmp_iff) _ _
  simp only [gwCfgJsonGenerateForSaving, gwCfgJsonAddItems, gwCfgUpdate, gwCfgSet,
    gwCfgJsonAddItemsRuuvi_congr hruuvi, heth, hap, hsta, Bool.false_eq_true, if_false]

theorem gwCfgRuuviCmp_equivalence : Equivalence fun a b : GwCfgRuuvi P => gwCfgRuuviCmp a b := by
  simp only [gwCfgRuuviCmp_iff]
  exact eq_equivalence.comap GwCfgRuuvi.significant

theorem gwCfgEthCmp_equivalence : Equivalence fun a b : GwCfgEth => gwCfgEthCmp a b := by
  simp only [gwCfgEthCmp_iff]
  exact eq_equivalence

/-- No change that would have been saved is taken for none. -/
theorem gwCfgCmp_dropsNoChange :
    (∀ default a b : GwCfg P, gwCfgRuuviCmp a.ruuviCfg b.ruuviCfg → gwCfgEthCmp a.ethCfg b.ethCfg →
      gwCfgJsonAddItemsRuuvi default.ruuviCfg.lanAuth a.ruuviCfg false =
          gwCfgJsonAddItemsRuuvi default.ruuviCfg.lanAuth b.ruuviCfg false ∧
        gwCfgJsonAddItemsEth a.ethCfg = gwCfgJsonAddItemsEth b.ethCfg) ∧
    (∀ (storage : GwCfgStorage) (default new dst : GwCfg P),
      gwCfgJsonGenerateForSaving storage default (gwCfgUpdate (some new) dst).1 =
        gwCfgJsonGenerateForSaving storage default new) ∧
    (Equivalence fun a b : GwCfgRuuvi P => gwCfgRuuviCmp a b) ∧
    Equivalence fun a b : GwCfgEth => gwCfgEthCmp a b := by
  refine ⟨?_, gwCfgJsonGenerateForSaving_gwCfgUpdate, gwCfgRuuviCmp_equivalence,
    gwCfgEthCmp_equivalence⟩
  intro default a b hruuvi heth
  have heq : a.ethCfg = b.ethCfg := gwCfgEthCmp_iff.mp heth
  exact ⟨gwCfgJsonAddItemsRuuvi_congr (gwCfgRuuviCmp_iff.mp hruuvi) _ _, by rw [heq]⟩

/-- The default configuration with what remains of a token that is not in use. -/
def sampleStaleToken : GwCfg samplePlatform :=
  { sampleDefault with ruuviCfg.http.auth := HttpAuth.zero.setToken (.snprintf _ (ascii "stale")) }

theorem gwCfgCmp_dropsNoChange_staleToken :
    sampleDefault.ruuviCfg ≠ sampleStaleToken.ruuviCfg ∧
      gwCfgJsonAddItemsRuuvi sampleDefault.ruuviCfg.lanAuth sampleDefault.ruuviCfg false =
        gwCfgJsonAddItemsRuuvi sampleDefault.ruuviCfg.lanAuth sampleStaleToken.ruuviCfg false ∧
      gwCfgJsonAddItemsEth sampleDefault.ethCfg = gwCfgJsonAddItemsEth sampleStaleToken.ethCfg := by
  refine ⟨by decide +kernel, ?_⟩
  exact gwCfgCmp_dropsNoChange.1 sampleDefault sampleDefault sampleStaleToken (by decide +kernel)
    (by decide +kernel)

end RuuviGateway.Config
