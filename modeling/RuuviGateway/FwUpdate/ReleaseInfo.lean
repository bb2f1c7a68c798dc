import RuuviGateway.Config.CjsonWrap
import RuuviGateway.Http.Download

/-!
# Finding a firmware release

The description of the latest releases, the base URL of the release that is to be installed, and the
check that its three files can be downloaded from there.
-/

namespace RuuviGateway.FwUpdate

open Config General General.Bracketed Http Relaying

section Info

structure FwUpdateInfo where
  isValid : Bool
  isUpdateRequired : Bool
  flagUseBetaVersion : Bool
  url : Option Bytes
  latestUrl : Option Bytes
  betaUrl : Option Bytes
  deriving DecidableEq

def FwUpdateInfo.none : FwUpdateInfo := ⟨false, false, false, .none, .none, .none⟩

/-- The URL of the beta release, if the release is described completely. -/
def betaRelease (root : Json) : Option (Bytes × Bytes) := do
  let beta ← root.getObjectItem "beta"
  let version ← jsonWrapGetStringVal beta "version"
  let url ← jsonWrapGetStringVal beta "url"
  if version = [] ∨ url = [] ∨ httpDownloadIsUrlValid url = false then failure
  else pure (version, url)

/-- `parse_fw_update_info_json`. -/
def parseFwUpdateInfoJson (root : Json) (esp32FwVer : Bytes) (cycle : AutoUpdateCycleType) :
    FwUpdateInfo :=
  match root.getObjectItem "latest" with
  | .none => .none
  | some latest =>
    let latestUrl := jsonWrapGetStringVal latest "url"
    let invalid := { FwUpdateInfo.none with latestUrl }
    match jsonWrapGetStringVal latest "version", latestUrl with
    | some version, some url =>
      if version = [] ∨ url = [] ∨ httpDownloadIsUrlValid url = false then invalid
      else
        let beta := betaRelease root
        let info := { invalid with isValid := true, betaUrl := beta.map Prod.snd }
        match cycle, beta with
        | .regular, _ | .betaTester, .none =>
          { info with url := some url, isUpdateRequired := decide (esp32FwVer ≠ version) }
        | .betaTester, some (betaVersion, betaUrl) =>
          { info with
            url := some betaUrl
            flagUseBetaVersion := true
            isUpdateRequired := decide (esp32FwVer ≠ betaVersion) }
        | .manual, _ => { info with url := some url }
    | _, _ => invalid

end Info

section Url

abbrev fwUpdateUrlMaxLen : ℕ := 128

instance fwUpdateUrlMaxLen_neZero : NeZero (fwUpdateUrlMaxLen + 1) := ⟨Nat.succ_ne_zero _⟩

/-- `g_fw_update_cfg`. -/
structure FwUpdateConfig where
  binariesUrl : CStr (fwUpdateUrlMaxLen + 1)
  deriving DecidableEq

/-- A text without its last character. -/
def dropLastChar {n : ℕ} (s : CStr n) : CStr n where
  val := s.val.dropLast
  noNul h := s.noNul (List.dropLast_subset s.val h)
  fits := lt_of_le_of_lt (by simp) s.fits

/-- For an empty URL the code looks at the byte in front of the buffer, which is not modelled. -/
def jsonFwUpdateParse (root : Json) (cfg : FwUpdateConfig) : Bool × FwUpdateConfig :=
  match jsonWrapCopyStringVal (fwUpdateUrlMaxLen + 1) root "url" with
  | none => (false, cfg)
  | some url => (true, ⟨if url.val.getLast? = some 0x2f then dropLastChar url else url⟩)

/-- A body that is not JSON is `none`. -/
def jsonFwUpdateParseHttpBody (root : Option Json) (cfg : FwUpdateConfig) : Bool × FwUpdateConfig :=
  match root with
  | none => (false, cfg)
  | some root => jsonFwUpdateParse root cfg

def fwUpdateBinariesIsUrlValid (cfg : FwUpdateConfig) : Bool :=
  httpDownloadIsUrlValid cfg.binariesUrl.val

def fwUpdateSetBinariesUrl (url : Bytes) : FwUpdateConfig := ⟨CStr.snprintf _ url⟩

end Url

section Files

def fwUpdateFileNames : List String :=
  ["ruuvi_gateway_esp.bin", "fatfs_gwui.bin", "fatfs_nrf52.bin"]

/-- The URL of a file. -/
def fileUrl (base : Bytes) (name : String) : Bytes := base ++ ascii "/" ++ ascii name

structure CheckFileOutcome where
  urlAllocated : Bool
  download : DownloadOutcome Unit

def httpServerFwUpdateCheckFile (base : Bytes) (name : String) (o : CheckFileOutcome) : Request ℕ :=
  if !o.urlAllocated then pure 500
  else httpCheck ⟨fileUrl base name, .none, false, false⟩ o.download

/-- The loop over the files, which ends with the first one that cannot be downloaded. -/
def checkFiles (base : Bytes) (o : String → CheckFileOutcome) :
    List String → Request (ℕ × Option String)
  | [] => pure (200, none)
  | name :: names => do
    let code ← httpServerFwUpdateCheckFile base name (o name)
    if code ≠ 200 then pure (code, some name) else checkFiles base o names

def httpServerCheckFwUpdateBinaryFiles (base : Bytes) (o : String → CheckFileOutcome) :
    Request (ℕ × Option String) := checkFiles base o fwUpdateFileNames

variable (base : Bytes) (o : String → CheckFileOutcome)

theorem balanced_checkFile (name : String) (o : CheckFileOutcome) :
    (httpServerFwUpdateCheckFile base name o).Balanced :=
  balanced_ite (fun _ => balanced_pure _) fun _ => balanced_httpCheck _ _

theorem checkFile_ends (name : String) (o : CheckFileOutcome) :
    (httpServerFwUpdateCheckFile base name o).result ≠ none := by
  unfold httpServerFwUpdateCheckFile
  split_ifs
  · exact Option.some_ne_none _
  · exact httpCheck_ends _ _

theorem balanced_checkFiles (names : List String) : (checkFiles base o names).Balanced := by
  induction names with
  | nil => exact balanced_pure _
  | cons name names ih =>
    refine (balanced_checkFile base name _).bind fun code _ => ?_
    exact balanced_ite (fun _ => balanced_pure _) fun _ => ih

theorem checkFiles_ends (names : List String) : (checkFiles base o names).result ≠ none := by
  induction names with
  | nil => exact Option.some_ne_none _
  | cons name names ih =>
    obtain ⟨code, hcode⟩ := Option.ne_none_iff_exists'.mp (checkFile_ends base name (o name))
    by_cases h200 : code = 200
    · simpa [checkFiles, hcode, h200] using ih
    · simp [checkFiles, hcode, h200]

end Files

end RuuviGateway.FwUpdate
