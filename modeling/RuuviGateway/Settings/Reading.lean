import RuuviGateway.Settings.Saving

/-!
# The configuration that the NVS gives

The JSON comes before the BLOB of the configuration, and the BLOB of the Wi-Fi settings before both.
What is saved then depends on what the configuration was taken from.
-/

namespace RuuviGateway.Settings

open General Config

variable {P : Platform} (C : SettingsContext P)

section Sources

/-- The BLOB, if its format is the one that is converted. -/
def StoredBlob.known : StoredBlob → Option GatewayConfigBlob
  | .otherSize => none
  | .blob b =>
    if b.header = ruuviGatewayConfigBlobHeader ∧
        b.fmtVersion = ruuviGatewayConfigBlobFmtVersion then some b
    else none

/-- What can be read of the NVS. -/
structure Sources where
  cfgJson : Option Bytes
  cfgBlob : Option GatewayConfigBlob
  wifiBlob : Option (WifimanConfig → WifimanConfig)

def Nvs.sources (nvs : Nvs) (o : GetOutcome) : Sources where
  cfgJson :=
    if o.opened && nvs.initialized && (o.json.sizeGot && o.json.allocated && o.json.got) then
      nvs.cfgJson
    else none
  cfgBlob :=
    if o.opened && nvs.initialized && (o.blob.allocated && o.blob.sizeGot && o.blob.got) then
      nvs.cfgBlob.bind StoredBlob.known
    else none
  wifiBlob := if o.wifiRead then nvs.wifiBlob else none

/-- The configuration of the BLOB, or else the default one. -/
def Sources.withoutJson (src : Sources) : SettingsInNvsStatus × GwCfg P × Bool :=
  match src.cfgBlob with
  | none => (.notExist, C.default, false)
  | some b => (.ok, gwCfgBlobConvert C.default b, true)

/-- The JSON comes before the BLOB. -/
def Sources.withoutWifi (parsed : Bool) (src : Sources) :
    Option (SettingsInNvsStatus × GwCfg P × Bool) :=
  match src.cfgJson with
  | none => some (src.withoutJson C)
  | some text =>
    if text = [] then some (.empty, C.default, false)
    else
      match (if parsed then C.cjsonParse text else none) with
      | none => some (src.withoutJson C)
      | some root =>
        (gwCfgJsonParse root (some C.default) C.default).map fun cfg => (.ok, cfg, false)

/-- The Wi-Fi settings of the BLOB come before all others. -/
def Sources.addWifi (src : Sources) (r : SettingsInNvsStatus × GwCfg P × Bool) : FlashSettings P :=
  match src.wifiBlob with
  | none => ⟨r.1, r.2.1, r.2.2, false⟩
  | some fill => ⟨r.1, { r.2.1 with wifiCfg := fill r.2.1.wifiCfg }, r.2.2, true⟩

def Sources.settings (parsed : Bool) (src : Sources) : Option (FlashSettings P) :=
  (src.withoutWifi C parsed).map src.addWifi

end Sources

section Reading

variable {C} {o : GetOutcome} {nvs : Nvs}

theorem readFromBlob_opened {handle : ℕ} (hopen : handle ∈ nvs.handles.opened) {o : BlobOutcome}
    {cfg : GwCfg P} :
    settingsReadFromBlob C o handle nvs cfg =
      match (if o.allocated && o.sizeGot && o.got then nvs.cfgBlob.bind StoredBlob.known else none)
      with
      | none => (.notExist, cfg)
      | some b => (.ok, gwCfgBlobConvert C.default b) := by
  unfold settingsReadFromBlob settingsGetGwCfgBlobFromNvs
  rw [if_neg (not_not.mpr hopen)]
  cases o.allocated
  · rfl
  cases o.sizeGot
  · rfl
  cases hgot : o.got
  all_goals
    cases nvs.cfgBlob with
    | none => rfl
    | some stored =>
      cases stored with
      | otherSize => rfl
      | blob b =>
        simp only [Option.bind_some, StoredBlob.known]
        by_cases hheader : b.header = ruuviGatewayConfigBlobHeader <;>
          by_cases hversion : b.fmtVersion = ruuviGatewayConfigBlobFmtVersion <;>
          simp [hheader, hversion]

theorem readWithHandle_eq (hopen : (o.opened && nvs.initialized) = true) :
    settingsReadWithHandle C o nvs.handles.next { nvs with handles := nvs.handles.openNext } =
      (nvs.sources o).withoutWifi C o.parsed := by
  set opened : Nvs := { nvs with handles := nvs.handles.openNext }
  have hnext : nvs.handles.next ∈ opened.handles.opened := nvs.handles.next_mem_openNext
  have hjson : settingsReadGwCfgJsonFromNvs o.json nvs.handles.next opened =
      (nvs.sources o).cfgJson := by
    rw [readGwCfgJson_opened hnext, Nvs.sources, hopen, Bool.true_and]
  have hblob (cfg : GwCfg P) : settingsReadFromBlob C o.blob nvs.handles.next opened cfg =
      match (nvs.sources o).cfgBlob with
      | none => (.notExist, cfg)
      | some b => (.ok, gwCfgBlobConvert C.default b) := by
    simp only [readFromBlob_opened hnext, Nvs.sources, hopen, Bool.true_and]
    rfl
  have hwithout : (let r := settingsReadFromBlob C o.blob nvs.handles.next opened C.default
      (r.1, r.2, decide (r.1 = .ok))) = (nvs.sources o).withoutJson C := by
    rw [hblob, Sources.withoutJson]
    cases (nvs.sources o).cfgBlob <;> rfl
  unfold settingsReadWithHandle settingsGetGwCfgFromNvs Sources.withoutWifi
  rw [hjson, ← hwithout]
  cases (nvs.sources o).cfgJson with
  | none => rfl
  | some text =>
    by_cases hempty : text = []
    · simp only [if_pos hempty]
      rfl
    · simp only [if_neg hempty]
      cases (if o.parsed = true then C.cjsonParse text else none) with
      | none => rfl
      | some root =>
        simp only [Option.map_map]
        congr 1

theorem withoutWifi_cases {parsed : Bool} {src : Sources}
    {r : SettingsInNvsStatus × GwCfg P × Bool} (hr : src.withoutWifi C parsed = some r) :
    r = src.withoutJson C ∨ src.cfgJson = some [] ∧ r = (.empty, C.default, false) ∨
      ∃ text root cfg, src.cfgJson = some text ∧ text ≠ [] ∧ C.cjsonParse text = some root ∧
        gwCfgJsonParse root (some C.default) C.default = some cfg ∧ r = (.ok, cfg, false) := by
  unfold Sources.withoutWifi at hr
  cases hjson : src.cfgJson with
  | none =>
    rw [hjson] at hr
    exact .inl (Option.some.inj hr).symm
  | some text =>
    by_cases hempty : text = []
    · simp only [hjson, if_pos hempty] at hr
      exact .inr (.inl ⟨congrArg some hempty, (Option.some.inj hr).symm⟩)
    · simp only [hjson, if_neg hempty] at hr
      cases hroot : (if parsed = true then C.cjsonParse text else none) with
      | none =>
        rw [hroot] at hr
        exact .inl (Option.some.inj hr).symm
      | some root =>
        rw [hroot] at hr
        obtain ⟨cfg, hcfg, hr⟩ := Option.map_eq_some_iff.mp hr
        have hparse : C.cjsonParse text = some root := by
          split_ifs at hroot
          exact hroot
        exact .inr (.inr ⟨text, root, cfg, rfl, hempty, hparse, hcfg, hr.symm⟩)

theorem withoutJson_status {src : Sources} (hstatus : (src.withoutJson C).1 ≠ .ok) :
    src.withoutJson C = (.notExist, C.default, false) := by
  unfold Sources.withoutJson at hstatus ⊢
  cases hblob : src.cfgBlob with
  | none => rfl
  | some b => simp [hblob] at hstatus

theorem cfg_withoutWifi {parsed : Bool} {src : Sources} {r : SettingsInNvsStatus × GwCfg P × Bool}
    (hr : src.withoutWifi C parsed = some r) (hstatus : r.1 ≠ .ok) : r.2.1 = C.default := by
  rcases withoutWifi_cases hr with rfl | ⟨-, rfl⟩ | ⟨-, -, cfg, -, -, -, -, rfl⟩
  · rw [withoutJson_status hstatus]
  · rfl
  · exact absurd rfl hstatus

theorem readWifi_eq {r : SettingsInNvsStatus × GwCfg P × Bool}
    (hr : r.1 ≠ .ok → r.2.1 = C.default) :
    settingsReadWifi C o r nvs = (nvs.sources o).addWifi r := by
  have hcfg : (if r.1 ≠ .ok then C.default else r.2.1) = r.2.1 := by
    split_ifs with hstatus
    · exact (hr hstatus).symm
    · rfl
  unfold settingsReadWifi wifiManagerCfgBlobRead Sources.addWifi Nvs.sources
  simp only [hcfg]
  cases o.wifiRead <;> cases nvs.wifiBlob <;> rfl

/-- The first half of the call changes nothing but the handles, and the one it had is stale. -/
theorem readCfg_eq (C : SettingsContext P) (o : GetOutcome) (nvs : Nvs) :
    ∃ handle handles, handles.Stale handle ∧ settingsReadCfg C o nvs =
      ((nvs.sources o).settings C o.parsed).map fun s => (s, handle, { nvs with handles }) := by
  unfold settingsReadCfg ruuviNvsOpen
  cases hopen : o.opened && nvs.initialized with
  | false =>
    have hnone : (nvs.sources o).withoutWifi C o.parsed = some (.notExist, C.default, false) := by
      simp [Sources.withoutWifi, Sources.withoutJson, Nvs.sources, hopen]
    refine ⟨0, nvs.handles, Handles.stale_zero, ?_⟩
    rw [Sources.settings, hnone]
    simp only [Bool.false_eq_true, if_false, Option.map_some]
    rw [readWifi_eq fun _ => rfl]
  | true =>
    refine ⟨nvs.handles.next, _, Handles.stale_next, ?_⟩
    simp only [if_true, readWithHandle_eq hopen, Sources.settings]
    cases hr : (nvs.sources o).withoutWifi C o.parsed with
    | none => rfl
    | some r =>
      simp only [Option.map_some]
      rw [readWifi_eq fun hstatus => cfg_withoutWifi hr hstatus]
      rfl

end Reading

section Updating

variable (o : GetOutcome) (s : FlashSettings P) (nvs : Nvs)

/-- The text that is saved. -/
def toSave : Option Bytes :=
  if s.status = .notExist then some []
  else if (s.flagCfgBlobUsed || s.flagWifiCfgBlobUsed) && o.generated then some (C.textOf s.cfg)
  else none

/-- A text is saved, and is in the NVS in the end. -/
def stores : Bool := (toSave C o s).any (o.save.stores nvs.initialized nvs.cfgJson)

/-- A text is saved, and the NVS is erased to make space for it. -/
def erases : Bool := (toSave C o s).any (o.save.erases nvs.initialized nvs.cfgJson)

/-- The NVS after the call. The BLOB of the configuration goes only with everything else. -/
structure Updated (nvs' : Nvs) : Prop where
  initialized : o.save.initialized → nvs.initialized → nvs'.initialized
  cfgJson : nvs'.cfgJson =
    if stores C o s nvs then toSave C o s else if erases C o s nvs then none else nvs.cfgJson
  cfgBlob : nvs'.cfgBlob = if erases C o s nvs then none else nvs.cfgBlob
  wifiBlob : nvs'.wifiBlob =
    if erases C o s nvs || (s.flagWifiCfgBlobUsed && o.markDeprecated) then none else nvs.wifiBlob

/-- The save alone. -/
def saveIfNeeded : Nvs :=
  match toSave C o s with
  | none => nvs
  | some text => (settingsSaveToFlashCjson o.save text nvs).2

theorem saveIfNeeded_eq : saveIfNeeded C o s nvs =
    if s.status = .notExist then (settingsSaveToFlashCjson o.save [] nvs).2
    else if s.flagCfgBlobUsed || s.flagWifiCfgBlobUsed then
      settingsSaveToFlash C o.generated o.save (some s.cfg) nvs
    else nvs := by
  unfold saveIfNeeded toSave settingsSaveToFlash
  by_cases hstatus : s.status = .notExist
  · simp only [if_pos hstatus]
  · simp only [if_neg hstatus]
    cases s.flagCfgBlobUsed || s.flagWifiCfgBlobUsed <;> cases o.generated <;> rfl

variable {C o s nvs}

variable (C o s nvs) in
theorem saveIfNeeded_spec :
    (saveIfNeeded C o s nvs).cfgBlob = (if erases C o s nvs then none else nvs.cfgBlob) ∧
      (saveIfNeeded C o s nvs).wifiBlob = (if erases C o s nvs then none else nvs.wifiBlob) ∧
      ∀ h, nvs.handles.Stale h → (saveIfNeeded C o s nvs).handles.Stale h := by
  unfold saveIfNeeded erases
  cases toSave C o s with
  | none => exact ⟨rfl, rfl, fun _ hs => hs⟩
  | some text =>
    have hwritten := saveToFlashCjson_written o.save text nvs
    exact ⟨hwritten.cfgBlob, hwritten.wifiBlob, hwritten.stale⟩

theorem saveIfNeeded_cfgJson : (saveIfNeeded C o s nvs).cfgJson =
    if stores C o s nvs then toSave C o s else if erases C o s nvs then none else nvs.cfgJson := by
  unfold saveIfNeeded stores erases
  cases toSave C o s with
  | none => rfl
  | some text => exact (saveToFlashCjson_written o.save text nvs).cfgJson

theorem saveIfNeeded_initialized (hok : o.save.initialized) (hinit : nvs.initialized) :
    (saveIfNeeded C o s nvs).initialized := by
  unfold saveIfNeeded
  cases toSave C o s with
  | none => exact hinit
  | some text => exact (saveToFlashCjson_written o.save text nvs).initialized hok hinit

variable (C o s nvs) in
theorem updateNvs_updated {handle : ℕ} (hstale : nvs.handles.Stale handle) :
    Updated C o s nvs (settingsUpdateNvs C o s handle nvs) := by
  obtain ⟨hcfg, hwifi, hhandles⟩ := saveIfNeeded_spec C o s nvs
  have herase : settingsEraseGwCfgBlobIfExist o.erase handle (saveIfNeeded C o s nvs) =
      saveIfNeeded C o s nvs := if_pos (hhandles handle hstale).2
  have hupdate : settingsUpdateNvs C o s handle nvs =
      if s.flagWifiCfgBlobUsed then
        wifiManagerCfgBlobMarkDeprecated o.markDeprecated (saveIfNeeded C o s nvs)
      else saveIfNeeded C o s nvs := by
    unfold settingsUpdateNvs
    rw [← saveIfNeeded_eq]
    simp only [herase]
  rw [hupdate]
  unfold wifiManagerCfgBlobMarkDeprecated
  cases hused : s.flagWifiCfgBlobUsed <;> cases hmarked : o.markDeprecated
  all_goals
    refine ⟨saveIfNeeded_initialized, saveIfNeeded_cfgJson, hcfg, ?_⟩
    simp [hused, hmarked, hwifi]

theorem toSave_of_notExist (hstatus : s.status = .notExist) : toSave C o s = some [] :=
  if_pos hstatus

theorem toSave_of_stores (hstatus : s.status ≠ .notExist) (hstores : stores C o s nvs) :
    toSave C o s = some (C.textOf s.cfg) := by
  unfold stores toSave at hstores
  unfold toSave
  rw [if_neg hstatus] at hstores ⊢
  split_ifs at hstores ⊢
  · rfl
  · exact absurd hstores Bool.false_ne_true

theorem getFromFlash_eq (C : SettingsContext P) (o : GetOutcome) (nvs : Nvs) :
    ∃ update : FlashSettings P → Nvs, (∀ s, Updated C o s nvs (update s)) ∧
      settingsGetFromFlash C true o nvs =
        if o.allocated then
          ((nvs.sources o).settings C o.parsed).map fun s => (some s, update s)
        else some (none, nvs) := by
  obtain ⟨handle, handles, hstale, hread⟩ := readCfg_eq C o nvs
  refine ⟨fun s => settingsUpdateNvs C o s handle { nvs with handles }, fun s => ?_, ?_⟩
  · have hupdated := updateNvs_updated C o s { nvs with handles } hstale
    exact ⟨hupdated.initialized, hupdated.cfgJson, hupdated.cfgBlob, hupdated.wifiBlob⟩
  · unfold settingsGetFromFlash
    rw [hread]
    cases o.allocated
    · rfl
    · simp only [Bool.not_true, Bool.false_eq_true, if_false, if_true, Option.map_map]
      congr 1

theorem getFromFlash_updated {s : FlashSettings P} (halloc : o.allocated)
    (hs : (nvs.sources o).settings C o.parsed = some s) :
    ∃ nvs', settingsGetFromFlash C true o nvs = some (some s, nvs') ∧ Updated C o s nvs nvs' := by
  obtain ⟨update, hupdated, heq⟩ := getFromFlash_eq C o nvs
  refine ⟨update s, ?_, hupdated s⟩
  rw [heq, if_pos halloc, hs]
  rfl

theorem updated_of_getFromFlash {s : FlashSettings P} {nvs' : Nvs}
    (h : settingsGetFromFlash C true o nvs = some (some s, nvs')) :
    (nvs.sources o).settings C o.parsed = some s ∧ Updated C o s nvs nvs' := by
  obtain ⟨update, hupdated, heq⟩ := getFromFlash_eq C o nvs
  rw [heq] at h
  split_ifs at h with halloc
  · obtain ⟨s', hs, hresult⟩ := Option.map_eq_some_iff.mp h
    obtain ⟨hsame, rfl⟩ := Prod.mk.inj hresult
    obtain rfl := Option.some.inj hsame
    exact ⟨hs, hupdated s'⟩
  · exact absurd (congrArg Prod.fst (Option.some.inj h)) (Option.some_ne_none s).symm

end Updating

end RuuviGateway.Settings
