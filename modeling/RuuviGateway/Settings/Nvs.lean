import RuuviGateway.Config.Generate
import RuuviGateway.General.Handles
import RuuviGateway.Settings.Blob

/-!
# The settings in the NVS

The configuration is kept as a JSON text. Older firmware kept it in two BLOBs, one for the Wi-Fi
settings and one for the rest, which are read once and then given up. Every call may fail, and a
call with a handle that is not open fails.
-/

namespace RuuviGateway.Settings

open General Config

section Store

inductive StoredBlob
  | otherSize
  | blob (b : GatewayConfigBlob)

/-- The NVS partition. The Wi-Fi manager makes a configuration of its BLOB as long as it has not
marked it as deprecated. -/
structure Nvs where
  handles : Handles
  initialized : Bool
  cfgJson : Option Bytes
  cfgBlob : Option StoredBlob
  wifiBlob : Option (WifimanConfig → WifimanConfig)

inductive EspErr
  | ok
  | fail
  | nvsNotEnoughSpace
  deriving DecidableEq

def ruuviNvsOpen (success : Bool) (nvs : Nvs) : Option ℕ × Nvs :=
  if success && nvs.initialized then
    (some nvs.handles.next, { nvs with handles := nvs.handles.openNext })
  else (none, nvs)

def nvsClose (handle : ℕ) (nvs : Nvs) : Nvs := { nvs with handles := nvs.handles.close handle }

def ruuviNvsDeinit (nvs : Nvs) : Nvs :=
  { nvs with initialized := false, handles := nvs.handles.closeAll }

def ruuviNvsErase (success : Bool) (nvs : Nvs) : Nvs :=
  if success then { nvs with cfgJson := none, cfgBlob := none, wifiBlob := none } else nvs

def ruuviNvsInit (success : Bool) (nvs : Nvs) : Nvs := { nvs with initialized := success }

/-- `wifi_manager_cfg_blob_read`. -/
def wifiManagerCfgBlobRead (success : Bool) (cfg : WifimanConfig) (nvs : Nvs) :
    Option WifimanConfig :=
  if success then nvs.wifiBlob.map fun fill => fill cfg else none

/-- `wifi_manager_cfg_blob_mark_deprecated`. -/
def wifiManagerCfgBlobMarkDeprecated (success : Bool) (nvs : Nvs) : Nvs :=
  if success then { nvs with wifiBlob := none } else nvs

end Store

section Json

/-- What the calls that read the text return. -/
structure ReadOutcome where
  sizeGot : Bool
  allocated : Bool
  got : Bool

def settingsReadGwCfgJsonFromNvs (o : ReadOutcome) (handle : ℕ) (nvs : Nvs) : Option Bytes :=
  if handle ∉ nvs.handles.opened then none
  else if !o.sizeGot then none
  else if !o.allocated then none
  else if !o.got then none
  else nvs.cfgJson

/-- What the calls that save the text return, and whether a text is stored if they fail. -/
structure SaveOutcome where
  opened : Bool
  read : ReadOutcome
  set : EspErr
  commit : EspErr
  stored : Bool

/-- `nvs_set_str`, and `nvs_commit` if it succeeds. -/
def SaveOutcome.setAndCommit (o : SaveOutcome) : EspErr :=
  if o.set ≠ .ok then o.set else o.commit

/-- After a failure the text may be stored or not, unless there was not enough space for it. -/
def EspErr.stores (stored : Bool) : EspErr → Bool
  | .ok => true
  | .fail => stored
  | .nvsNotEnoughSpace => false

def settingsSaveToFlashCjsonRetErr (o : SaveOutcome) (jsonStr : Bytes) (nvs : Nvs) :
    EspErr × Nvs :=
  match ruuviNvsOpen o.opened nvs with
  | (none, nvs) => (.fail, nvs)
  | (some handle, nvs) =>
    if settingsReadGwCfgJsonFromNvs o.read handle nvs = some jsonStr then (.ok, nvsClose handle nvs)
    else
      let err := o.setAndCommit
      (err, nvsClose handle
        { nvs with cfgJson := if err.stores o.stored then some jsonStr else nvs.cfgJson })

/-- The attempt after the NVS was erased counts if it is made. -/
structure RetryOutcome where
  first : SaveOutcome
  erased : Bool
  initialized : Bool
  second : SaveOutcome

def settingsSaveToFlashCjson (o : RetryOutcome) (jsonStr : Bytes) (nvs : Nvs) : Bool × Nvs :=
  let (err, nvs) := settingsSaveToFlashCjsonRetErr o.first jsonStr nvs
  let (err, nvs) :=
    if err = .nvsNotEnoughSpace then
      settingsSaveToFlashCjsonRetErr o.second jsonStr
        (ruuviNvsInit o.initialized (ruuviNvsErase o.erased (ruuviNvsDeinit nvs)))
    else (err, nvs)
  (err = .ok, nvs)

end Json

section Settings

variable {P : Platform}

/-- What the settings are read with: the default configuration, the storage with the certificates,
and the two functions of the JSON library. -/
structure SettingsContext (P : Platform) where
  default : GwCfg P
  storage : GwCfgStorage
  cjsonParse : Bytes → Option Json
  cjsonPrint : Json → Bytes

variable (C : SettingsContext P)

/-- The text of the JSON for a configuration. -/
def SettingsContext.textOf (cfg : GwCfg P) : Bytes :=
  C.cjsonPrint (gwCfgJsonGenerateForSaving C.storage C.default cfg)

/-- Without a configuration the text is empty. -/
def settingsSaveToFlash (generated : Bool) (o : RetryOutcome) (cfg : Option (GwCfg P)) (nvs : Nvs) :
    Nvs :=
  match cfg with
  | none => (settingsSaveToFlashCjson o [] nvs).2
  | some cfg => if !generated then nvs else (settingsSaveToFlashCjson o (C.textOf cfg) nvs).2

inductive SettingsInNvsStatus
  | ok
  | notExist
  | empty
  deriving DecidableEq

/-- There is no result if the parser reads through a null pointer. -/
def settingsGetGwCfgFromNvs (o : ReadOutcome) (parsed : Bool) (handle : ℕ) (nvs : Nvs) :
    Option (SettingsInNvsStatus × GwCfg P) :=
  match settingsReadGwCfgJsonFromNvs o handle nvs with
  | none => some (.notExist, C.default)
  | some cfgJson =>
    if cfgJson = [] then some (.empty, C.default)
    else
      match (if parsed then C.cjsonParse cfgJson else none) with
      | none => some (.notExist, C.default)
      | some root => (gwCfgJsonParse root (some C.default) C.default).map fun cfg => (.ok, cfg)

structure EraseOutcome where
  sizeGot : Bool
  erased : Bool

def settingsEraseGwCfgBlobIfExist (o : EraseOutcome) (handle : ℕ) (nvs : Nvs) : Nvs :=
  if handle ∉ nvs.handles.opened then nvs
  else if !o.sizeGot then nvs
  else if o.erased then { nvs with cfgBlob := none }
  else nvs

structure BlobOutcome where
  allocated : Bool
  sizeGot : Bool
  got : Bool

def settingsGetGwCfgBlobFromNvs (o : BlobOutcome) (handle : ℕ) (nvs : Nvs) :
    Option GatewayConfigBlob :=
  if handle ∉ nvs.handles.opened then none
  else if !o.sizeGot then none
  else
    match nvs.cfgBlob with
    | none => none
    | some .otherSize => none
    | some (.blob b) =>
      if !o.got then none
      else if b.header ≠ ruuviGatewayConfigBlobHeader then none
      else if b.fmtVersion ≠ ruuviGatewayConfigBlobFmtVersion then none
      else some b

def settingsReadFromBlob (o : BlobOutcome) (handle : ℕ) (nvs : Nvs) (cfg : GwCfg P) :
    SettingsInNvsStatus × GwCfg P :=
  if !o.allocated then (.notExist, cfg)
  else
    match settingsGetGwCfgBlobFromNvs o handle nvs with
    | none => (.notExist, cfg)
    | some b => (.ok, gwCfgBlobConvert C.default b)

/-- The configuration that is returned, its status and the flags for the BLOBs it was taken from. -/
structure FlashSettings (P : Platform) where
  status : SettingsInNvsStatus
  cfg : GwCfg P
  flagCfgBlobUsed : Bool
  flagWifiCfgBlobUsed : Bool

structure GetOutcome where
  allocated : Bool
  opened : Bool
  json : ReadOutcome
  parsed : Bool
  blob : BlobOutcome
  wifiRead : Bool
  generated : Bool
  save : RetryOutcome
  erase : EraseOutcome
  markDeprecated : Bool

/-- The part that reads from the NVS with a handle. -/
def settingsReadWithHandle (o : GetOutcome) (handle : ℕ) (nvs : Nvs) :
    Option (SettingsInNvsStatus × GwCfg P × Bool) :=
  (settingsGetGwCfgFromNvs C o.json o.parsed handle nvs).map fun (status, cfg) =>
    if status = .notExist then
      let (status, cfg) := settingsReadFromBlob C o.blob handle nvs cfg
      (status, cfg, decide (status = .ok))
    else (status, cfg, false)

/-- The Wi-Fi settings of the BLOB replace those of the configuration. -/
def settingsReadWifi (o : GetOutcome) (r : SettingsInNvsStatus × GwCfg P × Bool) (nvs : Nvs) :
    FlashSettings P :=
  let cfg := if r.1 ≠ .ok then C.default else r.2.1
  match wifiManagerCfgBlobRead o.wifiRead cfg.wifiCfg nvs with
  | none => ⟨r.1, cfg, r.2.2, false⟩
  | some wifiCfg => ⟨r.1, { cfg with wifiCfg }, r.2.2, true⟩

/-- The first half of `settings_get_from_flash`. The handle is zero if it could not be opened, and
has been closed otherwise. -/
def settingsReadCfg (o : GetOutcome) (nvs : Nvs) : Option (FlashSettings P × ℕ × Nvs) :=
  match ruuviNvsOpen o.opened nvs with
  | (none, nvs) => some (settingsReadWifi C o (.notExist, C.default, false) nvs, 0, nvs)
  | (some handle, nvs) =>
    (settingsReadWithHandle C o handle nvs).map fun r =>
      let nvs := nvsClose handle nvs
      (settingsReadWifi C o r nvs, handle, nvs)

/-- The second half, which brings the NVS up to date. -/
def settingsUpdateNvs (o : GetOutcome) (s : FlashSettings P) (handle : ℕ) (nvs : Nvs) : Nvs :=
  let nvs :=
    if s.status = .notExist then (settingsSaveToFlashCjson o.save [] nvs).2
    else if s.flagCfgBlobUsed || s.flagWifiCfgBlobUsed then
      settingsSaveToFlash C o.generated o.save (some s.cfg) nvs
    else nvs
  let nvs := settingsEraseGwCfgBlobIfExist o.erase handle nvs
  if s.flagWifiCfgBlobUsed then wifiManagerCfgBlobMarkDeprecated o.markDeprecated nvs else nvs

/-- Nothing is returned if there is no memory for the configuration. -/
def settingsGetFromFlash (flagAllowCfgUpdating : Bool) (o : GetOutcome) (nvs : Nvs) :
    Option (Option (FlashSettings P) × Nvs) :=
  if !o.allocated then some (none, nvs)
  else
    (settingsReadCfg C o nvs).map fun (s, handle, nvs) =>
      (some s, if flagAllowCfgUpdating then settingsUpdateNvs C o s handle nvs else nvs)

end Settings

end RuuviGateway.Settings
