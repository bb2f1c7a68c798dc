import RuuviGateway.Config.Reread
import RuuviGateway.Config.Sample
import RuuviGateway.Settings.Reading

/-!
# Migrating an old configuration

The first call after an update of the firmware takes the configuration from the BLOBs and saves it
as JSON. The result of the save is not looked at before the BLOBs are given up, and the handle that
the BLOB of the configuration is to be erased with has been closed.
-/

namespace RuuviGateway.Settings

open General Config

variable {P : Platform} (C : SettingsContext P)

section Claim

/-- The configuration that a text is read as. -/
def SettingsContext.readsAs (text : Bytes) : Option (GwCfg P) :=
  if text = [] then some C.default
  else (C.cjsonParse text).bind fun root => gwCfgJsonParse root (some C.default) C.default

def Nvs.Represents (nvs : Nvs) (cfg : GwCfg P) : Prop := nvs.cfgJson.bind C.readsAs = some cfg

/-- The BLOBs that the configuration was taken from are in the NVS. -/
structure BlobsKept (s : FlashSettings P) (nvs nvs' : Nvs) : Prop where
  cfgBlob : s.flagCfgBlobUsed → nvs'.cfgBlob = nvs.cfgBlob
  wifiBlob : s.flagWifiCfgBlobUsed → nvs'.wifiBlob = nvs.wifiBlob

structure SaveOutcome.NvsOk (o : SaveOutcome) : Prop where
  opened : o.opened
  sizeGot : o.read.sizeGot
  got : o.read.got
  set : o.set = .ok
  commit : o.commit = .ok

structure RetryOutcome.NvsOk (o : RetryOutcome) : Prop where
  first : o.first.NvsOk
  erased : o.erased
  initialized : o.initialized
  second : o.second.NvsOk

/-- Every call of the NVS succeeds. An allocation may fail. -/
structure GetOutcome.NvsOk (o : GetOutcome) : Prop where
  opened : o.opened
  json : o.json.sizeGot ∧ o.json.got
  blob : o.blob.sizeGot ∧ o.blob.got
  wifiRead : o.wifiRead
  save : o.save.NvsOk
  erase : o.erase.sizeGot ∧ o.erase.erased
  markDeprecated : o.markDeprecated

def ReadOutcome.noFailures : ReadOutcome := ⟨true, true, true⟩

def SaveOutcome.noFailures : SaveOutcome := ⟨true, .noFailures, .ok, .ok, true⟩

def RetryOutcome.noFailures : RetryOutcome := ⟨.noFailures, true, true, .noFailures⟩

def GetOutcome.noFailures : GetOutcome where
  allocated := true
  opened := true
  json := .noFailures
  parsed := true
  blob := ⟨true, true, true⟩
  wifiRead := true
  generated := true
  save := .noFailures
  erase := ⟨true, true⟩
  markDeprecated := true

/-- The next call takes the same configuration from the JSON alone, and the BLOBs are gone. -/
def Migrated (cfg : GwCfg P) (nvs : Nvs) : Prop :=
  ∃ s nvs', settingsGetFromFlash C true .noFailures nvs = some (some s, nvs') ∧
    s.cfg = cfg ∧ s.status ≠ .notExist ∧
    s.flagCfgBlobUsed = false ∧ s.flagWifiCfgBlobUsed = false ∧
    nvs'.cfgBlob = none ∧ nvs'.wifiBlob = none

/-- The configuration that is returned is not lost, and if the NVS works it is migrated. -/
def Migrates (o : GetOutcome) (nvs : Nvs) : Prop :=
  ∃ r nvs', settingsGetFromFlash C true o nvs = some (r, nvs') ∧
    ∀ s, r = some s →
      (nvs'.Represents C s.cfg ∨ BlobsKept s nvs nvs') ∧
        (o.NvsOk → nvs.initialized → Migrated C s.cfg nvs')

/-- What keeps the configuration. -/
inductive Preserved (o : GetOutcome) (nvs : Nvs) (s : FlashSettings P) : Prop
  | noBlobUsed (hcfg : s.flagCfgBlobUsed = false) (hwifi : s.flagWifiCfgBlobUsed = false)
  | kept (herases : erases C o s nvs = false)
      (hwifi : s.flagWifiCfgBlobUsed → o.markDeprecated = false)
  | empty (hstatus : s.status = .notExist) (hstores : stores C o s nvs) (hcfg : s.cfg = C.default)
  | saved (hstatus : s.status ≠ .notExist) (hstores : stores C o s nvs)
      (hreads : C.readsAs (C.textOf s.cfg) = some s.cfg)
  | unchanged (hstores : stores C o s nvs = false) (herases : erases C o s nvs = false)
      (hreads : nvs.Represents C s.cfg)

/-- The parser has to be able to handle a JSON that is read. A BLOB that was there stays there. -/
def MigratesWhen (o : GetOutcome) (nvs : Nvs) : Prop :=
  o.allocated → ∃ s, (nvs.sources o).settings C o.parsed = some s ∧ Preserved C o nvs s ∧
    (o.NvsOk → nvs.initialized → nvs.cfgBlob = none)

end Claim

section NvsOk

variable {C} {o : GetOutcome} {nvs : Nvs} {s : FlashSettings P}

theorem SaveOutcome.NvsOk.err {o : SaveOutcome} (h : o.NvsOk) {prev : Option Bytes} {text : Bytes} :
    o.err true prev text = .ok := by
  unfold SaveOutcome.err SaveOutcome.setAndCommit
  simp [h.opened, h.set, h.commit]

theorem RetryOutcome.NvsOk.erases {o : RetryOutcome} (h : o.NvsOk) {prev : Option Bytes}
    {text : Bytes} : o.erases true prev text = false := by
  simp [RetryOutcome.erases, h.first.err]

theorem RetryOutcome.NvsOk.stores {o : RetryOutcome} (h : o.NvsOk) {prev : Option Bytes}
    {text : Bytes} : o.stores true prev text = true := by
  simp [RetryOutcome.stores, SaveOutcome.stores, h.first.err, h.first.opened, EspErr.stores]

theorem GetOutcome.NvsOk.erases (h : o.NvsOk) (hinit : nvs.initialized) :
    erases C o s nvs = false := by
  unfold Settings.erases
  rw [hinit]
  cases toSave C o s with
  | none => rfl
  | some text => exact h.save.erases

theorem GetOutcome.NvsOk.stores (h : o.NvsOk) (hinit : nvs.initialized) {text : Bytes}
    (hsave : toSave C o s = some text) : stores C o s nvs = true := by
  unfold Settings.stores
  rw [hinit, hsave]
  exact h.save.stores

theorem GetOutcome.nvsOk_noFailures : GetOutcome.noFailures.NvsOk :=
  have hsave : SaveOutcome.noFailures.NvsOk := ⟨rfl, rfl, rfl, rfl, rfl⟩
  ⟨rfl, ⟨rfl, rfl⟩, ⟨rfl, rfl⟩, rfl, ⟨hsave, rfl, rfl, hsave⟩, ⟨rfl, rfl⟩, rfl⟩

end NvsOk

section Flags

variable {C} {src : Sources} {parsed : Bool} {s : FlashSettings P}

theorem flagWifi_eq (hs : src.settings C parsed = some s) :
    s.flagWifiCfgBlobUsed = src.wifiBlob.isSome := by
  obtain ⟨r, -, rfl⟩ := Option.map_eq_some_iff.mp hs
  unfold Sources.addWifi
  cases src.wifiBlob <;> rfl

theorem cfgBlob_of_flag (hs : src.settings C parsed = some s) (hflag : s.flagCfgBlobUsed) :
    src.cfgBlob ≠ none := by
  obtain ⟨r, hr, rfl⟩ := Option.map_eq_some_iff.mp hs
  have hused : r.2.2 = true := by
    unfold Sources.addWifi at hflag
    cases hwifi : src.wifiBlob <;> simpa [hwifi] using hflag
  rcases withoutWifi_cases hr with rfl | ⟨-, rfl⟩ | ⟨-, -, cfg, -, -, -, -, rfl⟩
  · intro hnone
    simp [Sources.withoutJson, hnone] at hused
  · exact absurd hused Bool.false_ne_true
  · exact absurd hused Bool.false_ne_true

/-- Without a BLOB the configuration is the default one or that of the JSON. -/
theorem cfg_of_noBlob (hs : src.settings C parsed = some s) (hcfg : s.flagCfgBlobUsed = false)
    (hwifi : s.flagWifiCfgBlobUsed = false) :
    s.status = .notExist ∧ s.cfg = C.default ∨
      s.status ≠ .notExist ∧ ∃ text, src.cfgJson = some text ∧ C.readsAs text = some s.cfg := by
  have hnone : src.wifiBlob = none := by
    rw [flagWifi_eq hs] at hwifi
    simpa using hwifi
  obtain ⟨r, hr, rfl⟩ := Option.map_eq_some_iff.mp hs
  unfold Sources.addWifi at hcfg ⊢
  simp only [hnone] at hcfg ⊢
  rcases withoutWifi_cases hr with rfl | ⟨hjson, rfl⟩ |
    ⟨text, root, cfg, hjson, hne, hroot, hparse, rfl⟩
  · left
    have hstatus : (src.withoutJson C).1 ≠ .ok := by
      unfold Sources.withoutJson at hcfg ⊢
      cases hblob : src.cfgBlob <;> simp [hblob] at hcfg ⊢
    rw [withoutJson_status hstatus]
    exact ⟨rfl, rfl⟩
  · exact .inr ⟨SettingsInNvsStatus.noConfusion, [], hjson, rfl⟩
  · refine .inr ⟨SettingsInNvsStatus.noConfusion, text, hjson, ?_⟩
    rw [SettingsContext.readsAs, if_neg hne, hroot]
    exact hparse

end Flags

section Lossless

variable {C} {o : GetOutcome} {nvs nvs' : Nvs} {s : FlashSettings P}

theorem cfgJson_of_sources {text : Bytes} (h : (nvs.sources o).cfgJson = some text) :
    nvs.cfgJson = some text := by
  unfold Nvs.sources at h
  simp only at h
  split_ifs at h
  exact h

theorem cfgBlob_of_sources (h : (nvs.sources o).cfgBlob ≠ none) : nvs.cfgBlob ≠ none := by
  intro hnone
  simp [Nvs.sources, hnone] at h

theorem wifiBlob_of_sources (h : (nvs.sources o).wifiBlob.isSome) : nvs.wifiBlob ≠ none := by
  intro hnone
  simp [Nvs.sources, hnone] at h

theorem preserved_of_represents (hupd : Updated C o s nvs nvs') (h : nvs'.Represents C s.cfg) :
    Preserved C o nvs s := by
  unfold Nvs.Represents at h
  rw [hupd.cfgJson] at h
  cases hstores : stores C o s nvs with
  | true =>
    rw [hstores, if_pos rfl] at h
    by_cases hstatus : s.status = .notExist
    · rw [toSave_of_notExist hstatus] at h
      exact .empty hstatus hstores (Option.some.inj h).symm
    · rw [toSave_of_stores hstatus hstores] at h
      exact .saved hstatus hstores h
  | false =>
    cases herases : erases C o s nvs with
    | true => simp [hstores, herases] at h
    | false =>
      refine .unchanged hstores herases ?_
      simpa [Nvs.Represents, hstores, herases] using h

theorem preserved_of_blobsKept (hs : (nvs.sources o).settings C o.parsed = some s)
    (hupd : Updated C o s nvs nvs') (h : BlobsKept s nvs nvs') : Preserved C o nvs s := by
  have hwifi (hflag : s.flagWifiCfgBlobUsed = true) : nvs'.wifiBlob ≠ none := by
    rw [h.wifiBlob hflag]
    exact wifiBlob_of_sources (o := o) (flagWifi_eq hs ▸ hflag)
  have hcfg (hflag : s.flagCfgBlobUsed = true) : nvs'.cfgBlob ≠ none := by
    rw [h.cfgBlob hflag]
    exact cfgBlob_of_sources (cfgBlob_of_flag hs hflag)
  cases herases : erases C o s nvs with
  | false =>
    refine .kept herases fun hflag => ?_
    have hkept := hwifi hflag
    rw [hupd.wifiBlob, herases, hflag] at hkept
    cases hmarked : o.markDeprecated with
    | false => rfl
    | true => exact absurd (by simp [hmarked]) hkept
  | true =>
    have hnone : nvs'.cfgBlob = none ∧ nvs'.wifiBlob = none := by
      simp [hupd.cfgBlob, hupd.wifiBlob, herases]
    refine .noBlobUsed ?_ ?_
    · exact Bool.eq_false_iff.mpr fun hflag => hcfg hflag hnone.1
    · exact Bool.eq_false_iff.mpr fun hflag => hwifi hflag hnone.2

theorem Preserved.lossless (h : Preserved C o nvs s) (hupd : Updated C o s nvs nvs') :
    nvs'.Represents C s.cfg ∨ BlobsKept s nvs nvs' := by
  cases h with
  | noBlobUsed hcfg hwifi => exact .inr ⟨by simp [hcfg], by simp [hwifi]⟩
  | kept herases hwifi =>
    refine .inr ⟨fun _ => by simp [hupd.cfgBlob, herases], fun hflag => ?_⟩
    simp [hupd.wifiBlob, herases, hwifi hflag]
  | empty hstatus hstores hcfg =>
    left
    simp [Nvs.Represents, hupd.cfgJson, hstores, toSave_of_notExist hstatus,
      SettingsContext.readsAs, hcfg]
  | saved hstatus hstores hreads =>
    left
    simpa [Nvs.Represents, hupd.cfgJson, hstores, toSave_of_stores hstatus hstores] using hreads
  | unchanged hstores herases hreads =>
    left
    simpa [Nvs.Represents, hupd.cfgJson, hstores, herases] using hreads

end Lossless

section SecondCall

variable {C} {o : GetOutcome} {nvs nvs' : Nvs} {s : FlashSettings P} {cfg : GwCfg P}

/-- Without a BLOB of the Wi-Fi settings, a text that reads as a configuration is taken from. -/
theorem settings_of_reads {src : Sources} {text : Bytes} (hjson : src.cfgJson = some text)
    (hwifi : src.wifiBlob = none) (hreads : C.readsAs text = some cfg) :
    ∃ status, status ≠ .notExist ∧ src.settings C true = some ⟨status, cfg, false, false⟩ := by
  unfold SettingsContext.readsAs at hreads
  unfold Sources.settings Sources.addWifi Sources.withoutWifi
  simp only [hjson, hwifi]
  by_cases hempty : text = []
  · rw [if_pos hempty] at hreads
    refine ⟨.empty, SettingsInNvsStatus.noConfusion, ?_⟩
    rw [if_pos hempty, ← Option.some.inj hreads]
    rfl
  · rw [if_neg hempty] at hreads
    obtain ⟨root, hroot, hparse⟩ := Option.bind_eq_some_iff.mp hreads
    refine ⟨.ok, SettingsInNvsStatus.noConfusion, ?_⟩
    simp [if_neg hempty, hroot, hparse]

theorem migrated_of_represents (hinit : nvs.initialized) (hrep : nvs.Represents C cfg)
    (hcfg : nvs.cfgBlob = none) (hwifi : nvs.wifiBlob = none) : Migrated C cfg nvs := by
  obtain ⟨text, hjson, hreads⟩ := Option.bind_eq_some_iff.mp hrep
  have hsrc : (nvs.sources .noFailures).cfgJson = some text := by
    simpa [Nvs.sources, GetOutcome.noFailures, ReadOutcome.noFailures, hinit] using hjson
  have hnone : (nvs.sources .noFailures).wifiBlob = none := by
    simpa [Nvs.sources, GetOutcome.noFailures] using hwifi
  obtain ⟨status, hstatus, hs⟩ := settings_of_reads hsrc hnone hreads
  obtain ⟨nvs', hget, hupd⟩ := getFromFlash_updated (o := .noFailures) rfl hs
  have herases := GetOutcome.nvsOk_noFailures.erases (C := C)
    (s := ⟨status, cfg, false, false⟩) hinit
  refine ⟨_, nvs', hget, rfl, hstatus, rfl, rfl, ?_, ?_⟩
  · simp [hupd.cfgBlob, hcfg]
  · simp [hupd.wifiBlob, hwifi]

theorem Migrated.cfgBlob (h : Migrated C cfg nvs) (hinit : nvs.initialized) :
    nvs.cfgBlob = none := by
  obtain ⟨s, nvs', hget, -, -, -, -, hnone, -⟩ := h
  obtain ⟨-, hupd⟩ := updated_of_getFromFlash hget
  have herases := GetOutcome.nvsOk_noFailures.erases (C := C) (s := s) hinit
  simpa [hupd.cfgBlob, herases] using hnone

/-- If the NVS works, what is preserved is in the JSON. -/
theorem Preserved.represents (h : Preserved C o nvs s) (hok : o.NvsOk) (hinit : nvs.initialized)
    (hs : (nvs.sources o).settings C o.parsed = some s) (hcfg : nvs.cfgBlob = none)
    (hupd : Updated C o s nvs nvs') : nvs'.Represents C s.cfg := by
  have herases := hok.erases (C := C) (s := s) hinit
  have hflag : s.flagCfgBlobUsed = false :=
    Bool.eq_false_iff.mpr fun hused => cfgBlob_of_sources (cfgBlob_of_flag hs hused) hcfg
  have hnoBlob (hwifi : s.flagWifiCfgBlobUsed = false) : nvs'.Represents C s.cfg := by
    rcases cfg_of_noBlob hs hflag hwifi with ⟨hstatus, hdefault⟩ | ⟨hstatus, text, hjson, hreads⟩
    · have hsave := toSave_of_notExist (C := C) (o := o) hstatus
      have hstores := hok.stores hinit hsave
      simp [Nvs.Represents, hupd.cfgJson, hstores, hsave, SettingsContext.readsAs, hdefault]
    · have hsave : toSave C o s = none := by simp [toSave, hstatus, hflag, hwifi]
      have hstores : stores C o s nvs = false := by simp [stores, hsave]
      have hold := cfgJson_of_sources hjson
      simpa [Nvs.Represents, hupd.cfgJson, hstores, herases, hold] using hreads
  cases h with
  | noBlobUsed _ hwifi => exact hnoBlob hwifi
  | kept _ hwifi =>
    refine hnoBlob (Bool.eq_false_iff.mpr fun hused => ?_)
    rw [hok.markDeprecated] at hwifi
    exact Bool.noConfusion (hwifi hused)
  | empty hstatus hstores hdefault =>
    simp [Nvs.Represents, hupd.cfgJson, hstores, toSave_of_notExist hstatus,
      SettingsContext.readsAs, hdefault]
  | saved hstatus hstores hreads =>
    simpa [Nvs.Represents, hupd.cfgJson, hstores, toSave_of_stores hstatus hstores] using hreads
  | unchanged hstores _ hreads =>
    simpa [Nvs.Represents, hupd.cfgJson, hstores, herases] using hreads

theorem initialized_of_nvsOk (hok : o.NvsOk) (hinit : nvs.initialized)
    (hupd : Updated C o s nvs nvs') : nvs'.initialized :=
  hupd.initialized hok.save.initialized hinit

theorem wifiBlob_of_nvsOk (hok : o.NvsOk) (hs : (nvs.sources o).settings C o.parsed = some s)
    (hupd : Updated C o s nvs nvs') : nvs'.wifiBlob = none := by
  rw [hupd.wifiBlob, hok.markDeprecated, Bool.and_true]
  cases hused : s.flagWifiCfgBlobUsed with
  | true => rw [Bool.or_true, if_pos rfl]
  | false =>
    have hnone : nvs.wifiBlob = none := by
      rw [flagWifi_eq hs] at hused
      simpa [Nvs.sources, hok.wifiRead] using hused
    rw [hnone, ite_self]

/-- The BLOB of the configuration stays where it is, also if everything succeeds. -/
theorem cfgBlob_of_nvsOk (hok : o.NvsOk) (hinit : nvs.initialized)
    (hupd : Updated C o s nvs nvs') : nvs'.cfgBlob = nvs.cfgBlob := by
  rw [hupd.cfgBlob, hok.erases hinit]
  rfl

end SecondCall

section Migration

variable {C} {o : GetOutcome} {nvs : Nvs}

theorem Migrates.when (h : Migrates C o nvs) : MigratesWhen C o nvs := by
  intro halloc
  obtain ⟨r, nvs', hget, hr⟩ := h
  obtain ⟨update, -, heq⟩ := getFromFlash_eq C o nvs
  rw [if_pos halloc] at heq
  obtain ⟨s, -, hresult⟩ := Option.map_eq_some_iff.mp (heq.symm.trans hget)
  obtain ⟨rfl, -⟩ := Prod.mk.inj hresult
  obtain ⟨hlossless, hmigrated⟩ := hr s rfl
  obtain ⟨hs, hupd⟩ := updated_of_getFromFlash hget
  refine ⟨s, hs, ?_, fun hok hinit => ?_⟩
  · rcases hlossless with hrep | hkept
    · exact preserved_of_represents hupd hrep
    · exact preserved_of_blobsKept hs hupd hkept
  · have hnone := (hmigrated hok hinit).cfgBlob (initialized_of_nvsOk hok hinit hupd)
    rw [← cfgBlob_of_nvsOk hok hinit hupd, hnone]

theorem MigratesWhen.migrates (h : MigratesWhen C o nvs) : Migrates C o nvs := by
  cases halloc : o.allocated with
  | false =>
    refine ⟨none, nvs, ?_, fun s hs => absurd hs.symm (Option.some_ne_none s)⟩
    simp [settingsGetFromFlash, halloc]
  | true =>
    obtain ⟨s, hs, hpreserved, hblob⟩ := h halloc
    obtain ⟨nvs', hget, hupd⟩ := getFromFlash_updated halloc hs
    refine ⟨some s, nvs', hget, fun s' hs' => ?_⟩
    obtain rfl := Option.some.inj hs'
    refine ⟨hpreserved.lossless hupd, fun hok hinit => ?_⟩
    have hnone := hblob hok hinit
    refine migrated_of_represents (initialized_of_nvsOk hok hinit hupd) ?_ ?_
      (wifiBlob_of_nvsOk hok hs hupd)
    · exact hpreserved.represents hok hinit hs hnone hupd
    · rw [cfgBlob_of_nvsOk hok hinit hupd, hnone]

/-- The JSON library reads what it has written. -/
theorem readsAs_textOf (hP : P.Lawful) {cfg : GwCfg P}
    (hcfg : Rereadable C.default.ruuviCfg cfg.ruuviCfg) (hne : C.textOf cfg ≠ [])
    (hparse : C.cjsonParse (C.textOf cfg) =
      some (gwCfgJsonGenerateForSaving C.storage C.default cfg)) :
    C.readsAs (C.textOf cfg) = some (GwCfg.parsedOver C.default cfg C.default false) := by
  rw [SettingsContext.readsAs, if_neg hne, hparse]
  exact reread_cfg hP (written C.storage C.default cfg false) hcfg nofun

end Migration

section Samples

def sampleBlob : GatewayConfigBlob where
  header := ruuviGatewayConfigBlobHeader
  fmtVersion := ruuviGatewayConfigBlobFmtVersion
  eth := ⟨true, true, [], [], [], [], []⟩
  mqtt := ⟨false, true, [], 1883, [], [], [], []⟩
  http := ⟨true, ascii "https://example.com/post", [], []⟩
  lanAuth := ⟨ascii "lan_auth_deny", [], []⟩
  autoUpdate := ⟨0, 0x7f, 0, 24, 3⟩
  filter := ⟨0x0499, true⟩
  scan := ⟨false, true, true, true, true, true⟩
  coordinates := []

/-- The configuration of older firmware, and no JSON. -/
def sampleOldNvs : Nvs := ⟨.start, true, none, some (.blob sampleBlob), none⟩

def sampleFill (cfg : WifimanConfig) : WifimanConfig :=
  { cfg with sta.wifiConfigSta.ssid := .snprintf _ (ascii "home") }

def sampleWithWifi : GwCfg samplePlatform :=
  { sampleDefault with wifiCfg := sampleFill sampleDefault.wifiCfg }

theorem sampleFill_ne : sampleFill sampleDefault.wifiCfg ≠ sampleDefault.wifiCfg := by
  decide +kernel

/-- The Wi-Fi settings alone. -/
def sampleWifiNvs : Nvs := ⟨.start, true, none, none, some sampleFill⟩

def sampleContext (cjsonParse : Bytes → Option Json) (cjsonPrint : Json → Bytes) :
    SettingsContext samplePlatform :=
  ⟨sampleDefault, ⟨true, fun _ => false⟩, cjsonParse, cjsonPrint⟩

end Samples

end RuuviGateway.Settings
