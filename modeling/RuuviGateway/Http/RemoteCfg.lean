import RuuviGateway.Config.Replace
import RuuviGateway.Config.Sample
import RuuviGateway.Http.Download

/-!
# Replacing the configuration by a downloaded one

`http_server_gw_cfg_download_and_update` with all the downloads and allocations that it depends on.
The update is all or nothing: it returns 200 with the downloaded configuration in force, or it has
changed nothing and holds nothing. The exceptions are a copy of the settings that cannot be
allocated and a document on which the parser of the configuration is not defined.
-/

namespace RuuviGateway.Http

open Config General General.Bracketed Relaying

variable {P : Platform}

section Model

/-- What `http_server_download_gw_cfg_by_url` depends on. -/
structure ByUrlOutcome where
  urlAllocated : Bool
  download : DownloadOutcome Bool
  copyAllocated : Bool

structure DownloadGwCfgOutcome where
  first : ByUrlOutcome
  /-- The download from the second URL, if there is one. -/
  second : ByUrlOutcome

/-- What `http_server_gw_cfg_download_and_update` depends on. -/
structure RemoteCfgOutcome where
  /-- `gw_cfg_get_remote_cfg_copy` can allocate its copy. -/
  remoteAllocated : Bool
  download : DownloadGwCfgOutcome
  /-- The configuration that is parsed can be allocated. -/
  tmpAllocated : Bool
  /-- What `cJSON_Parse` makes of a text in this call. -/
  cjsonParse : Bytes → Option Json

def gwCfgRemoteUrlMinLen : ℕ := 3

def strrchr (c : UInt8) : Bytes → Option Bytes
  | [] => none
  | b :: s => (strrchr c s).or (if b = c then some (b :: s) else none)

def httpServerErrDownloadInfo500 : HttpServerDownloadInfo := ⟨true, 500, none, 0⟩

def httpServerDownloadGwCfgByUrl (remote : GwCfgRemote) (url : Bytes) (o : ByUrlOutcome) :
    Request HttpServerDownloadInfo :=
  if !o.urlAllocated then pure httpServerErrDownloadInfo500
  else httpDownloadJson ⟨url, remote.authType, true, true⟩ o.download o.copyAllocated

/-- The digits of a MAC address without the colons. -/
def macDigits (mac : Bytes) : Bytes := (List.range 6).flatMap fun i => (mac.drop (3 * i)).take 2

def httpServerDownloadGwCfgInternal (remote : GwCfgRemote) (nrf52MacAddr : Bytes)
    (o : DownloadGwCfgOutcome) : Request HttpServerDownloadInfo :=
  let url := remote.url.val
  if url.length < gwCfgRemoteUrlMinLen then pure httpServerErrDownloadInfo500
  else if strrchr 0x2e url = some (ascii ".json") then
    httpServerDownloadGwCfgByUrl remote url o.first
  else do
    let base := if url.getLast? = some 0x2f then url.dropLast else url
    let info ← httpServerDownloadGwCfgByUrl remote
      (base ++ ascii "/" ++ macDigits nrf52MacAddr ++ ascii ".json") o.first
    if info.isError then
      httpServerDownloadGwCfgByUrl remote (base ++ ascii "/gw_cfg.json") o.second
    else pure info

/-- The certificates that are read for the download are not modelled. -/
def httpServerDownloadGwCfg (cfg : GwCfg P) (remote : GwCfgRemote) (o : DownloadGwCfgOutcome) :
    Request HttpServerDownloadInfo :=
  httpServerDownloadGwCfgInternal remote cfg.deviceInfo.nrf52MacAddr o

/-- What `http_server_gw_cfg_download_and_parse` makes of a downloaded text, with the configuration
that is parsed over the stored one. Where it is not defined it has no result. -/
def parseDownloaded (default cfg : GwCfg P) (o : RemoteCfgOutcome) (body : Bytes) :
    Request (ℕ × Option (GwCfg P)) :=
  if body.head? ≠ some 0x7b then pure (502, none)
  else if !o.tmpAllocated then pure (502, none)
  else do
    -- `gw_cfg_get_copy`
    gwCfgLockRo
    gwCfgUnlockRo
    match o.cjsonParse (cstr body) with
    | none => pure (502, none)
    | some root => do
      let new ← ofOption (gwCfgJsonParse root (some default) (cfg.setUseRemoteCfg false))
      if !new.ruuviCfg.remote.useRemoteCfg then pure (502, none)
      else pure (200, some new)

def httpServerGwCfgDownloadAndParse (default cfg : GwCfg P) (remote : GwCfgRemote)
    (o : RemoteCfgOutcome) : Request (ℕ × Option (GwCfg P)) := do
  let info ← httpServerDownloadGwCfg cfg remote o.download
  if info.isError then pure (info.httpRespCode, none)
  else do
    let body ← ofOption info.jsonBuf
    parseDownloaded default cfg o body

structure UpdateResult (P : Platform) where
  httpRespCode : ℕ
  globals : GwCfgGlobals P
  flagRebootNeeded : Bool
  flagRestartServices : Bool

def httpServerGwCfgDownloadAndUpdate (default : GwCfg P) (s : GwCfgGlobals P)
    (o : RemoteCfgOutcome) : Request (UpdateResult P) := do
  -- `gw_cfg_get_remote_cfg_copy` returns NULL without unlocking
  gwCfgLockRo
  if !o.remoteAllocated then pure ⟨502, s, false, false⟩
  else do
    gwCfgUnlockRo
    suspendRelaying .httpOnly
    let r ← httpServerGwCfgDownloadAndParse default s.gatewayConfig
      s.gatewayConfig.ruuviCfg.remote o
    if r.1 ≠ 200 then do
      resumeRelaying .httpOnly
      pure ⟨r.1, s, false, false⟩
    else do
      -- `gw_cfg_update`
      gwCfgLockRo
      let (globals, status, _) := s.set (.ofUpdate r.2)
      gwCfgUnlockRo
      let reboot := status.flagEthCfgModified || status.flagWifiApCfgModified ||
        status.flagWifiStaCfgModified
      resumeRelaying .httpOnly
      pure ⟨200, globals, reboot, !reboot && status.flagRuuviCfgModified⟩

end Model

section Download

variable (remote : GwCfgRemote) (cfg : GwCfg P)

theorem balanced_byUrl (url : Bytes) (o : ByUrlOutcome) :
    (httpServerDownloadGwCfgByUrl remote url o).Balanced :=
  balanced_ite (fun _ => balanced_pure _) fun _ => balanced_httpDownloadJson _ _ _

theorem byUrl_ends (url : Bytes) (o : ByUrlOutcome) :
    (httpServerDownloadGwCfgByUrl remote url o).result ≠ none := by
  unfold httpServerDownloadGwCfgByUrl
  split_ifs
  · exact Option.some_ne_none _
  · exact httpDownloadJson_ends _ _ _

theorem consistent_byUrl {url : Bytes} {o : ByUrlOutcome} {info : HttpServerDownloadInfo}
    (h : (httpServerDownloadGwCfgByUrl remote url o).result = some info) : info.Consistent := by
  unfold httpServerDownloadGwCfgByUrl at h
  split_ifs at h
  · rw [← Option.some.inj h]
    exact ⟨fun _ => by decide, nofun⟩
  · exact consistent_httpDownloadJson h

theorem balanced_httpServerDownloadGwCfg (o : DownloadGwCfgOutcome) :
    (httpServerDownloadGwCfg cfg remote o).Balanced := by
  refine balanced_ite (fun _ => balanced_pure _) fun _ => ?_
  refine balanced_ite (fun _ => balanced_byUrl _ _ _) fun _ => ?_
  refine (balanced_byUrl _ _ _).bind fun info _ => ?_
  exact balanced_ite (fun _ => balanced_byUrl _ _ _) fun _ => balanced_pure _

theorem httpServerDownloadGwCfg_ends (o : DownloadGwCfgOutcome) :
    ∃ info, (httpServerDownloadGwCfg cfg remote o).result = some info ∧ info.Consistent := by
  unfold httpServerDownloadGwCfg httpServerDownloadGwCfgInternal
  dsimp only
  split_ifs with hshort hext
  · exact ⟨_, rfl, fun _ => by decide, nofun⟩
  · obtain ⟨info, hinfo⟩ := Option.ne_none_iff_exists'.mp
      (byUrl_ends remote remote.url.val o.first)
    exact ⟨info, hinfo, consistent_byUrl remote hinfo⟩
  all_goals
    generalize (_ ++ _ : Bytes) = url₁
    generalize (_ ++ ascii "/gw_cfg.json" : Bytes) = url₂
    obtain ⟨info₁, hinfo₁⟩ := Option.ne_none_iff_exists'.mp (byUrl_ends remote url₁ o.first)
    obtain ⟨info₂, hinfo₂⟩ := Option.ne_none_iff_exists'.mp (byUrl_ends remote url₂ o.second)
    by_cases herror : info₁.isError = true
    · exact ⟨info₂, by simp [hinfo₁, herror, hinfo₂], consistent_byUrl remote hinfo₂⟩
    · exact ⟨info₁, by simp [hinfo₁, herror], consistent_byUrl remote hinfo₁⟩

end Download

section Parse

variable {default cfg : GwCfg P} {o : RemoteCfgOutcome} {body : Bytes}

theorem balanced_parseDownloaded : (parseDownloaded default cfg o body).Balanced := by
  refine balanced_ite (fun _ => balanced_pure _) fun _ => ?_
  refine balanced_ite (fun _ => balanced_pure _) fun _ => ?_
  intro held
  refine (leaves_acquire _ held).bind fun _ _ => ?_
  refine (leaves_release _ held).bind fun _ _ => ?_
  cases o.cjsonParse (cstr body) with
  | none => exact balanced_pure _ held
  | some root =>
    refine (balanced_ofOption _ held).bind fun new _ => ?_
    exact balanced_ite (fun _ => balanced_pure _) (fun _ => balanced_pure _) held

/-- The code is 200 only with the configuration that the JSON describes. -/
theorem parseDownloaded_ok {new : Option (GwCfg P)}
    (h : (parseDownloaded default cfg o body).result = some (200, new)) :
    ∃ root parsed, new = some parsed ∧ o.cjsonParse (cstr body) = some root ∧
      jsonWrapGetBoolVal root "remote_cfg_use" = some true ∧
      gwCfgJsonParse root (some default) cfg = some parsed := by
  unfold parseDownloaded at h
  split_ifs at h
  · simp at h
  · simp at h
  cases hroot : o.cjsonParse (cstr body) with
  | none => simp [gwCfgLockRo, gwCfgUnlockRo, hroot] at h
  | some root =>
    simp only [gwCfgLockRo, gwCfgUnlockRo, hroot, result_bind, result_acquire, result_release,
      result_ofOption, Option.bind_some] at h
    obtain ⟨parsed, hparsed, h⟩ := Option.bind_eq_some_iff.mp h
    split_ifs at h with huse
    · simp at h
    · have hnew : some parsed = new := (Prod.mk.inj (Option.some.inj h)).2
      have huse : parsed.ruuviCfg.remote.useRemoteCfg = true := by simpa using huse
      obtain ⟨hkey, hparse⟩ := parse_of_useRemoteCfg hparsed huse
      exact ⟨root, parsed, hnew.symm, rfl, hkey, hparse⟩

/-- The text can be handled unless it is JSON on which the parser is not defined. -/
theorem parseDownloaded_ends : (parseDownloaded default cfg o body).result ≠ none ↔
    (body.head? = some 0x7b → o.tmpAllocated = true → ∀ root, o.cjsonParse (cstr body) = some root →
      gwCfgJsonParse root (some default) cfg ≠ none) := by
  unfold parseDownloaded
  split_ifs with hhead htmp
  · simp [hhead]
  · have htmp : o.tmpAllocated = false := by simpa using htmp
    simp [htmp]
  have htmp : o.tmpAllocated = true := by simpa using htmp
  have hhead := not_not.mp hhead
  cases hroot : o.cjsonParse (cstr body) with
  | none => simp [gwCfgLockRo, gwCfgUnlockRo]
  | some root =>
    simp only [gwCfgLockRo, gwCfgUnlockRo, result_bind, result_acquire, result_release,
      result_ofOption, Option.bind_some, hhead, htmp, true_imp_iff, Option.some.injEq,
      forall_eq']
    rw [gwCfgJsonParse_setUseRemoteCfg]
    cases gwCfgJsonParse root (some default) cfg with
    | none => simp
    | some parsed =>
      simp only [Option.map_some, Option.bind_some]
      split_ifs <;> simp

end Parse

section AllOrNothing

variable (default : GwCfg P) (s : GwCfgGlobals P) (o : RemoteCfgOutcome)

/-- The text that is downloaded without an error. -/
def downloadedBody : Option Bytes :=
  (httpServerDownloadGwCfg s.gatewayConfig s.gatewayConfig.ruuviCfg.remote o.download).result.bind
    fun info => if info.isError then none else info.jsonBuf

/-- The stored configuration is the downloaded one, parsed over the configuration before. -/
def Replaced (cfg : GwCfg P) : Prop :=
  ∃ body root, downloadedBody s o = some body ∧ o.cjsonParse (cstr body) = some root ∧
    jsonWrapGetBoolVal root "remote_cfg_use" = some true ∧
    gwCfgJsonParse root (some default) s.gatewayConfig = some cfg

/-- The call returns, and holds nothing afterwards. With 200 it has replaced the stored
configuration, and with any other code it has changed nothing. -/
def AllOrNothing : Prop :=
  ∃ r, (httpServerGwCfgDownloadAndUpdate default s o).result = some r ∧
    (∀ c : Counter → ℕ,
      applyAll Resource.covers c (httpServerGwCfgDownloadAndUpdate default s o).trace = c) ∧
    (r.httpRespCode = 200 → Replaced default s o r.globals.gatewayConfig) ∧
    (r.httpRespCode ≠ 200 → r.globals = s)

/-- The parser is defined on the downloaded text if it comes to parsing it. -/
def ParserDefined : Prop :=
  ∀ body, downloadedBody s o = some body → body.head? = some 0x7b → o.tmpAllocated = true →
    ∀ root, o.cjsonParse (cstr body) = some root →
      gwCfgJsonParse root (some default) s.gatewayConfig ≠ none

theorem balanced_downloadAndParse (cfg : GwCfg P) (remote : GwCfgRemote) :
    (httpServerGwCfgDownloadAndParse default cfg remote o).Balanced := by
  refine (balanced_httpServerDownloadGwCfg _ _ _).bind fun info _ => ?_
  refine balanced_ite (fun _ => balanced_pure _) fun _ => ?_
  exact (balanced_ofOption _).bind fun _ _ => balanced_parseDownloaded

/-- What downloading and parsing comes to: the code of a failed download, or what becomes of the
text. -/
theorem downloadAndParse_cases :
    (∃ code, (httpServerGwCfgDownloadAndParse default s.gatewayConfig
        s.gatewayConfig.ruuviCfg.remote o).result = some (code, none) ∧ code ≠ 200 ∧
      downloadedBody s o = none) ∨
    ∃ body, downloadedBody s o = some body ∧
      (httpServerGwCfgDownloadAndParse default s.gatewayConfig
        s.gatewayConfig.ruuviCfg.remote o).result =
        (parseDownloaded default s.gatewayConfig o body).result := by
  obtain ⟨info, hinfo, hconsistent⟩ := httpServerDownloadGwCfg_ends
    s.gatewayConfig.ruuviCfg.remote s.gatewayConfig o.download
  cases herror : info.isError with
  | true =>
    left
    refine ⟨info.httpRespCode, ?_, hconsistent.error herror, ?_⟩
    · simp [httpServerGwCfgDownloadAndParse, hinfo, herror]
    · simp [downloadedBody, hinfo, herror]
  | false =>
    obtain ⟨-, body, hbody⟩ := hconsistent.body herror
    right
    refine ⟨body, ?_, ?_⟩
    · simp [downloadedBody, hinfo, herror, hbody]
    · simp [httpServerGwCfgDownloadAndParse, hinfo, herror, hbody]

theorem downloadAndParse_ends :
    (httpServerGwCfgDownloadAndParse default s.gatewayConfig
      s.gatewayConfig.ruuviCfg.remote o).result ≠ none ↔ ParserDefined default s o := by
  rcases downloadAndParse_cases default s o with ⟨code, hresult, -, hbody⟩ | ⟨body, hbody, hresult⟩
  · simp [hresult, ParserDefined, hbody]
  · rw [hresult, parseDownloaded_ends]
    simp [ParserDefined, hbody]

theorem downloadAndParse_ok {new : Option (GwCfg P)}
    (h : (httpServerGwCfgDownloadAndParse default s.gatewayConfig
      s.gatewayConfig.ruuviCfg.remote o).result = some (200, new)) :
    ∃ parsed, new = some parsed ∧ Replaced default s o parsed := by
  rcases downloadAndParse_cases default s o with ⟨code, hresult, hcode, -⟩ | ⟨body, hbody, hresult⟩
  · rw [hresult] at h
    exact absurd (Prod.mk.inj (Option.some.inj h)).1 hcode
  · rw [hresult] at h
    obtain ⟨root, parsed, hnew, hroot, hkey, hparse⟩ := parseDownloaded_ok h
    exact ⟨parsed, hnew, body, root, hbody, hroot, hkey, hparse⟩

/-- Without a copy of the settings the configuration stays locked. -/
theorem update_not_allocated (h : o.remoteAllocated = false) :
    httpServerGwCfgDownloadAndUpdate default s o =
      ⟨some ⟨502, s, false, false⟩, [.acquire .gwCfgMutex]⟩ := by
  unfold httpServerGwCfgDownloadAndUpdate
  rw [h]
  rfl

theorem balanced_update (h : o.remoteAllocated = true) :
    (httpServerGwCfgDownloadAndUpdate default s o).Balanced := by
  intro held
  unfold httpServerGwCfgDownloadAndUpdate
  rw [h]
  refine (leaves_acquire _ held).bind fun _ _ => ?_
  refine (leaves_release _ held).bind fun _ _ => ?_
  refine (leaves_acquire _ held).bind fun _ _ => ?_
  refine (balanced_downloadAndParse default o _ _ _).bind fun r _ => ?_
  dsimp only
  split_ifs
  · exact (leaves_release _ held).bind fun _ _ => balanced_pure _ held
  · refine (leaves_acquire _ _).bind fun _ _ => ?_
    refine (leaves_release _ _).bind fun _ _ => ?_
    exact (leaves_release _ held).bind fun _ _ => balanced_pure _ held

/-- The result of the call, by what downloading and parsing has come to. -/
theorem update_result (h : o.remoteAllocated = true) :
    ∀ r, (httpServerGwCfgDownloadAndParse default s.gatewayConfig
        s.gatewayConfig.ruuviCfg.remote o).result = some r →
      ∃ u, (httpServerGwCfgDownloadAndUpdate default s o).result = some u ∧
        u.httpRespCode = r.1 ∧ (r.1 ≠ 200 → u.globals = s) ∧
        (r.1 = 200 → u.globals = (s.set (.ofUpdate r.2)).1) := by
  intro r hr
  by_cases hcode : r.1 = 200
  · simp [httpServerGwCfgDownloadAndUpdate, h, hr, hcode, gwCfgLockRo, gwCfgUnlockRo,
      suspendRelaying, resumeRelaying]
  · simp [httpServerGwCfgDownloadAndUpdate, h, hr, hcode, gwCfgLockRo, gwCfgUnlockRo,
      suspendRelaying, resumeRelaying]

theorem downloadAndParse_of_update {u : UpdateResult P} (h : o.remoteAllocated = true)
    (hu : (httpServerGwCfgDownloadAndUpdate default s o).result = some u) :
    (httpServerGwCfgDownloadAndParse default s.gatewayConfig
      s.gatewayConfig.ruuviCfg.remote o).result ≠ none := by
  intro hnone
  simp [httpServerGwCfgDownloadAndUpdate, h, hnone, gwCfgLockRo, gwCfgUnlockRo,
    suspendRelaying] at hu

/-- A remote update for which no memory is left. -/
def sampleNoMemory : RemoteCfgOutcome where
  remoteAllocated := false
  download :=
    ⟨⟨true, ⟨true, true, true, true, true, true, .completed [] 404⟩, true⟩,
      ⟨true, ⟨true, true, true, true, true, true, .completed [] 404⟩, true⟩⟩
  tmpAllocated := true
  cjsonParse := fun _ => none

end AllOrNothing

end RuuviGateway.Http
