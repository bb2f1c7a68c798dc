import RuuviGateway.General.Transition
import RuuviGateway.Http.ValidateUrl

/-!
# Giving relaying back

Every request that suspends relaying resumes it, with two exceptions: the check of a query string
without a URL, and a firmware update whose task cannot be created. The main task suspends relaying
when it activates the configuration mode, and holds that suspension as long as the mode is active.
-/

namespace RuuviGateway.Relaying

open Config FwUpdate General General.Bracketed Http

variable {P : Platform}

section Requests

structure PostFwUpdateResult where
  httpRespCode : ℕ
  taskStarted : Bool
  cfg : FwUpdateConfig

/-- Relaying is not resumed if the task cannot be created. -/
def httpServerCbOnPostFwUpdate (body : Option Json) (files : String → CheckFileOutcome)
    (taskCreated : Bool) (cfg : FwUpdateConfig) : Request PostFwUpdateResult :=
  let r := jsonFwUpdateParseHttpBody body cfg
  if !r.1 then pure ⟨400, false, r.2⟩
  else if !fwUpdateBinariesIsUrlValid r.2 then pure ⟨400, false, r.2⟩
  else do
    suspendRelaying .all
    let checked ← httpServerCheckFwUpdateBinaryFiles r.2.binariesUrl.val files
    if checked.1 ≠ 200 then do
      resumeRelaying .all
      pure ⟨checked.1, false, r.2⟩
    else pure ⟨if taskCreated then 200 else 503, taskCreated, r.2⟩

def httpServerCbOnPostGwCfgDownload (default : GwCfg P) (s : GwCfgGlobals P)
    (o : RemoteCfgOutcome) : Request ℕ := do
  let r ← httpServerGwCfgDownloadAndUpdate default s o
  pure r.httpRespCode

/-- The requests that suspend relaying, with all that they depend on. -/
inductive GatewayRequest (P : Platform) : Type 1
  | validateUrl (cfg : GwCfg P) (params : Option Bytes) (o : ValidateUrlOutcome) (w : Http.World)
  | postFwUpdate (body : Option Json) (files : String → CheckFileOutcome) (taskCreated : Bool)
      (cfg : FwUpdateConfig)
  | postGwCfgDownload (s : GwCfgGlobals P) (o : RemoteCfgOutcome)
  | httpDownload {σ ω : Type} (p : HttpDownloadParamWithAuth) (cb : CbOnData σ ω)
      (o : DownloadOutcome ω) (userData : σ)
  | httpCheck (p : HttpDownloadParamWithAuth) (o : DownloadOutcome Unit)

variable (osStrToUint32Cptr : Bytes → ℕ → UInt32 × ℕ) (default : GwCfg P)

/-- The request, with the flag that it has started a firmware update as its result. -/
def GatewayRequest.run : GatewayRequest P → Request Bool
  | .validateUrl cfg params o w => do
    let _ ← Http.validateUrl osStrToUint32Cptr o w default cfg params
    pure false
  | .postFwUpdate body files taskCreated cfg => do
    let r ← httpServerCbOnPostFwUpdate body files taskCreated cfg
    pure r.taskStarted
  | .postGwCfgDownload s o => do
    let _ ← httpServerCbOnPostGwCfgDownload default s o
    pure false
  | .httpDownload p cb o userData => do
    let _ ← Http.httpDownload p cb o userData
    pure false
  | .httpCheck p o => do
    let _ ← Http.httpCheck p o
    pure false

/-- The body has a valid URL, and the three files are there. -/
def FwUpdateReady (body : Option Json) (files : String → CheckFileOutcome) (cfg : FwUpdateConfig) :
    Prop :=
  (jsonFwUpdateParseHttpBody body cfg).1 = true ∧
    fwUpdateBinariesIsUrlValid (jsonFwUpdateParseHttpBody body cfg).2 = true ∧
    (httpServerCheckFwUpdateBinaryFiles (jsonFwUpdateParseHttpBody body cfg).2.binariesUrl.val
      files).result.map Prod.fst = some 200

/-- The two ways to forget the resume. -/
def GatewayRequest.Forgets : GatewayRequest P → Prop
  | .validateUrl _ params o _ => ∃ text, params = some text ∧
      validateUrlGetAuthType o.query text ≠ none ∧
      o.query.getWithDecoding text (ascii "url=") = none
  | .postFwUpdate body files taskCreated cfg => taskCreated = false ∧ FwUpdateReady body files cfg
  | .postGwCfgDownload _ _ | .httpDownload _ _ _ _ | .httpCheck _ _ => False

/-- The status after one operation of a request. -/
def Status.bracket (s : Status) : Bracket Resource → Status
  | .acquire (.relaying scope) => (scope.suspend s).1
  | .release (.relaying scope) => (scope.resume s).1
  | .acquire .gwCfgMutex | .release .gwCfgMutex => s

/-- A request that ends without having started an update leaves the counters as they were. -/
def GatewayRequest.GivesBack (r : GatewayRequest P) : Prop :=
  (r.run osStrToUint32Cptr default).result = some false → ∀ (s : Status) (via : Via),
    ((r.run osStrToUint32Cptr default).trace.foldl Status.bracket s).cntSuspended via =
      s.cntSuspended via

end Requests

section Counters

theorem counters_bracket (s : Status) (depth : ℕ) (op : Bracket Resource) :
    counters (s.bracket op) (Bracket.apply Resource.covers (counters s depth) op .gwCfgMutexDepth) =
      Bracket.apply Resource.covers (counters s depth) op := by
  cases op with
  | acquire k =>
    cases k with
    | relaying scope =>
      rw [Status.bracket, Scope.suspend_eq, ← counters_suspend]
      rfl
    | gwCfgMutex =>
      funext i
      cases i <;> rfl
  | release k =>
    cases k with
    | relaying scope =>
      rw [Status.bracket, Scope.resume_eq, ← counters_resume]
      rfl
    | gwCfgMutex =>
      funext i
      cases i <;> rfl

/-- The counters of the status count what the operations of a trace do. -/
theorem exists_counters_foldl (s : Status) (depth : ℕ) (t : List (Bracket Resource)) :
    ∃ depth', counters (t.foldl Status.bracket s) depth' =
      applyAll Resource.covers (counters s depth) t := by
  induction t generalizing s depth with
  | nil => exact ⟨depth, rfl⟩
  | cons op t ih =>
    obtain ⟨depth', h⟩ := ih (s.bracket op) _
    rw [counters_bracket s depth op] at h
    exact ⟨depth', h⟩

theorem cntSuspended_foldl {t : List (Bracket Resource)} {held : List Resource}
    (h : walk [] t = some held) (s : Status) (via : Via) :
    (t.foldl Status.bracket s).cntSuspended via =
      s.cntSuspended via + heldCount Resource.covers held (.suspended via) := by
  obtain ⟨depth, hcounters⟩ := exists_counters_foldl s 0 t
  have hall := applyAll_of_walk Resource.covers h (counters s 0)
  exact (congrFun hcounters (.suspended via)).trans (congrFun hall (.suspended via))

theorem heldCount_mutexes (n : ℕ) (held : List Resource) (via : Via) :
    heldCount Resource.covers (List.replicate n .gwCfgMutex ++ held) (.suspended via) =
      heldCount Resource.covers held (.suspended via) := by
  simp [heldCount, List.countP_append, List.countP_replicate, Resource.covers]

end Counters

section Checks

variable (osStrToUint32Cptr : Bytes → ℕ → UInt32 × ℕ) (p : ValidateUrlParams)
  (o : ValidateUrlOutcome) (w : Http.World) (default cfg : GwCfg P)

theorem keepsRelaying_postAdvs : KeepsRelaying (validateUrlPostAdvs osStrToUint32Cptr p o w) := by
  refine keepsRelaying_ite (fun _ => keepsRelaying_pure _) fun _ => ?_
  cases o.savedPassword with
  | none => exact keepsRelaying_pure _
  | some saved => exact keepsRelaying_of_balanced (balanced_ofOption _)

theorem keepsRelaying_postStat : KeepsRelaying (validateUrlPostStat osStrToUint32Cptr p o w) := by
  refine keepsRelaying_ite (fun _ => keepsRelaying_pure _) fun _ => ?_
  cases o.savedPassword with
  | none => exact keepsRelaying_pure _
  | some saved => exact keepsRelaying_of_balanced (balanced_ofOption _)

theorem keepsRelaying_onGetCheckMqtt (params : Bytes) (user pass : Option Bytes) :
    KeepsRelaying (validateUrlOnGetCheckMqtt p o w P params user pass) := by
  refine keepsRelaying_ite (fun _ => keepsRelaying_pure _) fun _ => ?_
  split
  · refine keepsRelaying_ite (fun _ => keepsRelaying_pure _) fun _ => ?_
    refine keepsRelaying_ite (fun _ => keepsRelaying_pure _) fun _ => ?_
    refine keepsRelaying_ite (fun _ => keepsRelaying_pure _) fun _ => ?_
    exact keepsRelaying_of_balanced (balanced_ofOption _)
  · exact keepsRelaying_pure _

theorem keepsRelaying_checkMqtt (params : Bytes) :
    KeepsRelaying (validateUrlCheckMqtt p o w P params) := by
  unfold validateUrlCheckMqtt
  cases o.savedPassword with
  | none => exact keepsRelaying_pure _
  | some saved => exact keepsRelaying_onGetCheckMqtt _ _ _ _ _ _

theorem keepsRelaying_onGetCheckRemoteCfg (params : HttpCheckParams) :
    KeepsRelaying (validateUrlOnGetCheckRemoteCfg o w default cfg params) := by
  refine keepsRelaying_ite (fun _ => keepsRelaying_pure _) fun _ => ?_
  split
  · exact keepsRelaying_pure _
  · exact (keepsRelaying_of_balanced (balanced_downloadAndParse _ _ _ _)).around .httpOnly
      fun _ _ => keepsRelaying_pure _

theorem keepsRelaying_lockRo {α : Type} {m : Request α} (h : KeepsRelaying m) :
    KeepsRelaying (gwCfgLockRo >>= fun _ => m) := by
  intro hresult
  obtain ⟨n, hn⟩ := h (by simpa [gwCfgLockRo] using hresult)
  refine ⟨n + 1, fun held => ?_⟩
  have htrace : (gwCfgLockRo >>= fun _ => m).trace = .acquire .gwCfgMutex :: m.trace := rfl
  rw [htrace, walk, hn, List.replicate_succ', List.append_assoc]
  rfl

/-- The configuration stays locked if the saved settings cannot be copied. -/
theorem keepsRelaying_checkRemoteCfg :
    KeepsRelaying (validateUrlCheckRemoteCfg p o w default cfg) := by
  refine keepsRelaying_ite (fun _ => keepsRelaying_pure _) fun _ => ?_
  by_cases hcopied : o.remoteCfg.remoteAllocated = true
  · rw [hcopied]
    intro hresult
    obtain ⟨n, hn⟩ := keepsRelaying_onGetCheckRemoteCfg o w default cfg
      (p.checkedWith p.user (p.pass (if p.authType = .none then none else some o.freedPassword)))
      (by simpa [gwCfgLockRo, gwCfgUnlockRo] using hresult)
    refine ⟨n, fun held => ?_⟩
    refine walk_trans (leaves_acquire _ held (by simp)) ?_
    exact walk_trans (leaves_release _ held (by simp)) (hn held)
  · rw [Bool.eq_false_iff.mpr hcopied]
    exact keepsRelaying_lockRo (keepsRelaying_pure _)

theorem keepsRelaying_checkFwUpdateUrl : KeepsRelaying (validateUrlCheckFwUpdateUrl p o w cfg) := by
  apply keepsRelaying_of_balanced
  refine balanced_ite (fun _ => balanced_pure _) fun _ => ?_
  refine (balanced_httpDownloadJson _ _ _).bind fun info _ => ?_
  refine balanced_ite (fun _ => balanced_pure _) fun _ => ?_
  cases info.jsonBuf with
  | none => exact balanced_pure _
  | some buf =>
    dsimp only
    cases o.remoteCfg.cjsonParse (cstr buf) with
    | none => exact balanced_pure _
    | some root =>
      refine balanced_ite (fun _ => balanced_pure _) fun _ => ?_
      exact (balanced_checkFiles _ _ _).bind fun _ _ => balanced_pure _

theorem keepsRelaying_checkFile : KeepsRelaying (validateUrlCheckFile p o w) := by
  apply keepsRelaying_of_balanced
  refine balanced_ite (fun _ => balanced_pure _) fun _ => ?_
  refine balanced_ite (fun _ => balanced_pure _) fun _ => ?_
  exact (balanced_httpCheck _ _).bind fun _ _ => balanced_pure _

theorem keepsRelaying_validateUrlInternal (params : Bytes) (validateType : ValidateUrlType) :
    KeepsRelaying
      (validateUrlInternal osStrToUint32Cptr p o w default cfg params validateType) := by
  cases validateType with
  | invalid => exact keepsRelaying_pure _
  | postAdvs => exact keepsRelaying_postAdvs _ _ _ _
  | postStat => exact keepsRelaying_postStat _ _ _ _
  | checkMqtt => exact keepsRelaying_checkMqtt _ _ _ _
  | checkRemoteCfg => exact keepsRelaying_checkRemoteCfg _ _ _ _ _
  | checkFwUpdateUrl => exact keepsRelaying_checkFwUpdateUrl _ _ _ _
  | checkFile => exact keepsRelaying_checkFile _ _ _

end Checks

section Requests

variable (osStrToUint32Cptr : Bytes → ℕ → UInt32 × ℕ) (default : GwCfg P)

/-- A query string with a URL is checked with relaying suspended and then resumed. -/
theorem keepsRelaying_validateUrl (cfg : GwCfg P) (params : Option Bytes) (o : ValidateUrlOutcome)
    (w : Http.World)
    (h : ¬(GatewayRequest.validateUrl cfg params o w).Forgets) :
    KeepsRelaying (Http.validateUrl osStrToUint32Cptr o w default cfg params) := by
  unfold Http.validateUrl
  cases params with
  | none => exact keepsRelaying_pure _
  | some text =>
    dsimp only
    cases hauth : validateUrlGetAuthType o.query text with
    | none => exact keepsRelaying_pure _
    | some authType =>
      cases hurl : o.query.getWithDecoding text (ascii "url=") with
      | none =>
        exact absurd ⟨text, rfl, by rw [hauth]; exact Option.some_ne_none _, hurl⟩ h
      | some url =>
        exact (keepsRelaying_validateUrlInternal _ _ _ _ _ _ _ _).around .all
          fun _ _ => keepsRelaying_pure _

/-- A firmware update that does not come to its task resumes relaying; one that does, or whose
task cannot be created, leaves it suspended. -/
theorem postFwUpdate_cases (body : Option Json) (files : String → CheckFileOutcome)
    (taskCreated : Bool) (cfg : FwUpdateConfig) :
    ∃ r, (httpServerCbOnPostFwUpdate body files taskCreated cfg).result = some r ∧
      ((¬FwUpdateReady body files cfg ∧ r.taskStarted = false ∧
        walk [] (httpServerCbOnPostFwUpdate body files taskCreated cfg).trace = some []) ∨
      (FwUpdateReady body files cfg ∧ r.taskStarted = taskCreated ∧
        walk [] (httpServerCbOnPostFwUpdate body files taskCreated cfg).trace =
          some [.relaying .all])) := by
  unfold httpServerCbOnPostFwUpdate FwUpdateReady
  dsimp only
  generalize jsonFwUpdateParseHttpBody body cfg = parsed
  cases hparsed : parsed.1 with
  | false => exact ⟨_, rfl, .inl ⟨by simp, rfl, rfl⟩⟩
  | true =>
    cases hvalid : fwUpdateBinariesIsUrlValid parsed.2 with
    | false => exact ⟨_, rfl, .inl ⟨by simp, rfl, rfl⟩⟩
    | true =>
      obtain ⟨checked, hchecked⟩ := Option.ne_none_iff_exists'.mp
        (checkFiles_ends parsed.2.binariesUrl.val files fwUpdateFileNames)
      have hends : (httpServerCheckFwUpdateBinaryFiles parsed.2.binariesUrl.val files).result =
          some checked := hchecked
      have hbalanced := balanced_checkFiles parsed.2.binariesUrl.val files fwUpdateFileNames
        [.relaying .all] (by rw [hchecked]; exact Option.some_ne_none _)
      by_cases hcode : checked.1 = 200
      · refine ⟨⟨if taskCreated then 200 else 503, taskCreated, parsed.2⟩, ?_, .inr ⟨?_, rfl, ?_⟩⟩
        · simp [suspendRelaying, hends, hcode]
        · simp [hends, hcode]
        · refine walk_trans (leaves_acquire (Resource.relaying .all) [] (by simp)) ?_
          rw [bind_some hends, if_neg (not_not.mpr hcode)]
          exact walk_trans hbalanced rfl
      · refine ⟨⟨checked.1, false, parsed.2⟩, ?_, .inl ⟨?_, rfl, ?_⟩⟩
        · simp [suspendRelaying, resumeRelaying, hends, hcode]
        · simp [hends, hcode]
        · refine walk_trans (leaves_acquire (Resource.relaying .all) [] (by simp)) ?_
          rw [bind_some hends, if_pos hcode]
          exact walk_trans hbalanced (leaves_release _ [] (by simp))

theorem trace_map {α β : Type} (m : Request α) (f : α → β) :
    (do let a ← m; pure (f a) : Request β).trace = m.trace := by
  cases hm : m.result with
  | none => exact congrArg Bracketed.trace (bind_none hm)
  | some a => exact (congrArg Bracketed.trace (bind_some hm)).trans (List.append_nil _)

theorem result_map {α β : Type} (m : Request α) (f : α → β) :
    (do let a ← m; pure (f a) : Request β).result = m.result.map f := by
  rw [result_bind]
  cases m.result <;> rfl

variable (r : GatewayRequest P)

/-- A request that forgets to resume relaying holds one suspension of both kinds at its end. -/
theorem leaves_of_forgets (h : r.Forgets) :
    (r.run osStrToUint32Cptr default).result = some false ∧
      walk [] (r.run osStrToUint32Cptr default).trace = some [.relaying .all] := by
  cases r with
  | validateUrl cfg params o w =>
    obtain ⟨text, rfl, hauth, hurl⟩ := h
    obtain ⟨authType, hauth⟩ := Option.ne_none_iff_exists'.mp hauth
    have hrun : Http.validateUrl osStrToUint32Cptr o w default cfg (some text) =
        ⟨some (.err 400, w), [.acquire (.relaying .all)]⟩ := by
      unfold Http.validateUrl
      dsimp only
      rw [hauth]
      dsimp only
      rw [hurl]
      rfl
    dsimp only [GatewayRequest.run]
    rw [hrun]
    exact ⟨rfl, rfl⟩
  | postFwUpdate body files taskCreated cfg =>
    obtain ⟨rfl, hreached⟩ := h
    obtain ⟨r, hr, hcases⟩ := postFwUpdate_cases body files false cfg
    rcases hcases with ⟨hnot, -, -⟩ | ⟨-, hstarted, hwalk⟩
    · exact absurd hreached hnot
    · dsimp only [GatewayRequest.run]
      rw [result_map, trace_map, hr, Option.map_some, hstarted]
      exact ⟨rfl, hwalk⟩
  | postGwCfgDownload | httpDownload | httpCheck => exact h.elim

/-- Any other request that does not start an update holds no suspension at its end. -/
theorem leaves_of_not_forgets (h : ¬r.Forgets)
    (hresult : (r.run osStrToUint32Cptr default).result = some false) :
    ∃ n, walk [] (r.run osStrToUint32Cptr default).trace = some (List.replicate n .gwCfgMutex) := by
  have hkeeps {α : Type} {m : Request α} {f : α → Bool} (hm : KeepsRelaying m)
      (hends : (do let a ← m; pure (f a) : Request Bool).result = some false) :
      ∃ n, walk [] (do let a ← m; pure (f a) : Request Bool).trace =
        some (List.replicate n .gwCfgMutex) := by
    rw [result_map] at hends
    obtain ⟨a, ha, -⟩ := Option.map_eq_some_iff.mp hends
    obtain ⟨n, hn⟩ := hm (by rw [ha]; exact Option.some_ne_none a)
    rw [trace_map]
    exact ⟨n, by simpa using hn []⟩
  cases r with
  | validateUrl cfg params o w => exact hkeeps (keepsRelaying_validateUrl _ _ _ _ _ _ h) hresult
  | postFwUpdate body files taskCreated cfg =>
    obtain ⟨r, hr, hcases⟩ := postFwUpdate_cases body files taskCreated cfg
    dsimp only [GatewayRequest.run] at hresult ⊢
    rw [result_map, hr] at hresult
    rw [trace_map]
    rcases hcases with ⟨-, -, hwalk⟩ | ⟨hreached, hstarted, -⟩
    · exact ⟨0, hwalk⟩
    · have hcreated : taskCreated = false := hstarted.symm.trans (Option.some.inj hresult)
      exact absurd ⟨hcreated, hreached⟩ h
  | postGwCfgDownload s o =>
    refine hkeeps (f := fun _ => false) ?_ hresult
    refine KeepsRelaying.bind ?_ fun _ _ => keepsRelaying_pure _
    by_cases hcopied : o.remoteAllocated = true
    · exact keepsRelaying_of_balanced (balanced_update default s o hcopied)
    · rw [update_not_allocated default s o (Bool.eq_false_iff.mpr hcopied)]
      exact fun _ => ⟨1, fun held => rfl⟩
  | httpDownload p cb o userData =>
    exact hkeeps (f := fun _ => false) (keepsRelaying_of_balanced (balanced_httpDownload _ _ _ _))
      hresult
  | httpCheck p o =>
    exact hkeeps (f := fun _ => false) (keepsRelaying_of_balanced (balanced_httpCheck _ _)) hresult

/-- A request gives relaying back if and only if it does not forget to. -/
theorem givesBack_iff : r.GivesBack osStrToUint32Cptr default ↔ ¬r.Forgets := by
  constructor
  · intro hgives hforgets
    obtain ⟨hresult, hwalk⟩ := leaves_of_forgets osStrToUint32Cptr default r hforgets
    have hsame := hgives hresult gwStatusInit .http
    rw [cntSuspended_foldl hwalk] at hsame
    exact Nat.one_ne_zero hsame
  · intro hnot hresult s via
    obtain ⟨n, hwalk⟩ := leaves_of_not_forgets osStrToUint32Cptr default r hnot hresult
    rw [cntSuspended_foldl hwalk]
    have hnone := heldCount_mutexes n [] via
    rw [List.append_nil] at hnone
    rw [hnone]
    rfl

end Requests

section CfgMode

/-- Where the main task stands with the signals that activate and deactivate the configuration
mode. -/
inductive CfgModePc
  | idle
  /-- The flag has been set. -/
  | activating
  /-- The flag has been cleared if the configuration is not empty. -/
  | deactivating
  deriving DecidableEq

/-- A request that is being handled: what it holds, and what it has still to do. -/
structure Handling where
  held : List Resource
  rest : List (Bracket Resource)

/-- The flag of the configuration mode and the counters, beside what the main task and the requests
hold. -/
structure CfgModeWorld where
  status : Status
  cfgMode : Bool
  gwCfgIsEmpty : Bool
  pc : CfgModePc
  mainHeld : List Resource
  requests : List Handling

/-- The steps of the main task, of `gw_cfg_is_empty` and of the requests. -/
inductive CfgModeStep (P : Platform) : Type 1
  | activateCfgMode
  | suspendRelaying
  | deactivateCfgMode
  | resumeRelaying
  | cfgChanged (gwCfgIsEmpty : Bool)
  | begin (r : GatewayRequest P)
  | proceed (i : ℕ)

variable (osStrToUint32Cptr : Bytes → ℕ → UInt32 × ℕ) (default : GwCfg P)

/-- An operation of the main task. -/
def CfgModeWorld.main (w : CfgModeWorld) (op : Bracket Resource) : CfgModeWorld :=
  { w with status := w.status.bracket op, mainHeld := heldAfter w.mainHeld op, pc := .idle }

def CfgModeWorld.step (w : CfgModeWorld) : CfgModeStep P → Option CfgModeWorld
  | .activateCfgMode =>
    if w.pc ≠ .idle then none
    else if w.cfgMode then some w
    else some { w with cfgMode := true, pc := .activating }
  | .suspendRelaying =>
    if w.pc ≠ .activating then none else some (w.main (.acquire (.relaying .all)))
  | .deactivateCfgMode =>
    if w.pc ≠ .idle then none
    else if !w.cfgMode then some w
    else some { w with cfgMode := w.gwCfgIsEmpty, pc := .deactivating }
  | .resumeRelaying =>
    if w.pc ≠ .deactivating then none
    else if w.cfgMode then some { w with pc := .idle }
    else some (w.main (.release (.relaying .all)))
  | .cfgChanged gwCfgIsEmpty => some { w with gwCfgIsEmpty }
  | .begin r =>
    -- a request without a result has run into undefined behaviour
    if (r.run osStrToUint32Cptr default).result = none then none
    else some { w with requests := w.requests ++ [⟨[], (r.run osStrToUint32Cptr default).trace⟩] }
  | .proceed i =>
    match w.requests[i]? with
    | some ⟨held, op :: rest⟩ =>
      some { w with
        status := w.status.bracket op
        requests := w.requests.set i ⟨heldAfter held op, rest⟩ }
    | _ => none

/-- The gateway from its start on, with a configuration that may be empty. -/
def cfgModeSystem (gwCfgIsEmpty : Bool) : System CfgModeWorld (CfgModeStep P) Unit where
  init := ⟨gwStatusInit, false, gwCfgIsEmpty, .idle, [], []⟩
  step w l := (w.step osStrToUint32Cptr default l).map fun w => (w, ())

/-- What the main task holds, by its place in the two handlers. -/
def CfgModeWorld.mainHolds (w : CfgModeWorld) : List Resource :=
  match w.pc with
  | .idle => if w.cfgMode then [.relaying .all] else []
  | .activating => []
  | .deactivating => [.relaying .all]

/-- All that the main task and the requests hold. -/
def CfgModeWorld.held (w : CfgModeWorld) : List Resource :=
  w.mainHeld ++ w.requests.flatMap Handling.held

structure CfgModeInvariant (w : CfgModeWorld) : Prop where
  main : w.mainHeld = w.mainHolds
  mode : w.pc = .activating → w.cfgMode = true
  requests : ∀ r ∈ w.requests, walk r.held r.rest ≠ none
  counters : ∀ via, w.status.cntSuspended via =
    heldCount Resource.covers w.held (.suspended via)

theorem cntSuspended_bracket {s : Status} {op : Bracket Resource} {held held' : List Resource}
    {via : Via} {n : ℕ} (h : walk held [op] = some held')
    (hcount : s.cntSuspended via = n + heldCount Resource.covers held (.suspended via)) :
    (s.bracket op).cntSuspended via = n + heldCount Resource.covers held' (.suspended via) := by
  have happly : Bracket.apply Resource.covers (counters s 0) op (.suspended via) =
      n + heldCount Resource.covers held' (.suspended via) := apply_of_walk h hcount
  exact (congrFun (counters_bracket s 0 op) (.suspended via)).trans happly

theorem heldCount_append (held held' : List Resource) (i : Counter) :
    heldCount Resource.covers (held ++ held') i =
      heldCount Resource.covers held i + heldCount Resource.covers held' i :=
  List.countP_append

theorem heldCount_set {l : List Handling} {i : ℕ} {r : Handling} (h : l[i]? = some r)
    (r' : Handling) (c : Counter) :
    heldCount Resource.covers ((l.set i r').flatMap Handling.held) c +
        heldCount Resource.covers r.held c =
      heldCount Resource.covers (l.flatMap Handling.held) c +
        heldCount Resource.covers r'.held c := by
  induction l generalizing i with
  | nil => simp at h
  | cons a l ih =>
    cases i with
    | zero =>
      have ha : a = r := by simpa using h
      rw [List.set_cons_zero, List.flatMap_cons, List.flatMap_cons, heldCount_append,
        heldCount_append, ha]
      omega
    | succ i =>
      have hrest := ih (by simpa using h)
      rw [List.set_cons_succ, List.flatMap_cons, List.flatMap_cons, heldCount_append,
        heldCount_append]
      omega

variable {osStrToUint32Cptr : Bytes → ℕ → UInt32 × ℕ} {default : GwCfg P} {w w' : CfgModeWorld}

/-- An operation of the main task moves what it holds to what its place asks for. -/
theorem CfgModeInvariant.mainOp (h : CfgModeInvariant w) {op : Bracket Resource}
    (hwalk : walk w.mainHeld [op] = some (heldAfter w.mainHeld op))
    (hmain : (w.main op).mainHeld = (w.main op).mainHolds) : CfgModeInvariant (w.main op) where
  main := hmain
  mode := nofun
  requests := h.requests
  counters := by
    intro via
    have hcount := h.counters via
    rw [CfgModeWorld.held, heldCount_append, Nat.add_comm] at hcount
    have hafter := cntSuspended_bracket hwalk hcount
    rw [CfgModeWorld.held, heldCount_append, Nat.add_comm]
    exact hafter

/-- An operation of a request. -/
theorem CfgModeInvariant.requestOp (h : CfgModeInvariant w) {i : ℕ} {held : List Resource}
    {op : Bracket Resource} {rest : List (Bracket Resource)}
    (hi : w.requests[i]? = some ⟨held, op :: rest⟩) :
    CfgModeInvariant { w with
      status := w.status.bracket op
      requests := w.requests.set i ⟨heldAfter held op, rest⟩ } where
  main := h.main
  mode := h.mode
  requests := by
    intro r hr
    rcases List.mem_or_eq_of_mem_set hr with hmem | rfl
    · exact h.requests r hmem
    · exact (walk_cons (h.requests _ (List.mem_of_getElem? hi))).2
  counters := by
    intro via
    have hwalk : walk held [op] = some (heldAfter held op) :=
      (walk_cons (h.requests _ (List.mem_of_getElem? hi))).1
    have hset := heldCount_set hi ⟨heldAfter held op, rest⟩ (.suspended via)
    have hcount := h.counters via
    dsimp only at hset
    rw [CfgModeWorld.held, heldCount_append] at hcount ⊢
    -- what the main task and the other requests hold
    obtain ⟨n, hn⟩ : ∃ n, w.status.cntSuspended via =
        n + heldCount Resource.covers held (.suspended via) := by
      have hle : heldCount Resource.covers held (.suspended via) ≤
          heldCount Resource.covers (w.requests.flatMap Handling.held) (.suspended via) := by
        have hremoved := heldCount_set hi ⟨[], []⟩ (.suspended via)
        have hnone : heldCount Resource.covers [] (.suspended via) = 0 := rfl
        dsimp only at hremoved
        omega
      exact ⟨w.status.cntSuspended via - heldCount Resource.covers held (.suspended via), by omega⟩
    have hafter := cntSuspended_bracket hwalk hn
    dsimp only
    omega

theorem CfgModeInvariant.begin (h : CfgModeInvariant w) {t : List (Bracket Resource)}
    (ht : walk [] t ≠ none) :
    CfgModeInvariant { w with requests := w.requests ++ [⟨[], t⟩] } where
  main := h.main
  mode := h.mode
  requests := by
    intro r hr
    rcases List.mem_append.mp hr with hmem | hnew
    · exact h.requests r hmem
    · rw [List.mem_singleton.mp hnew]
      exact ht
  counters := by
    intro via
    have hsame :
        w.mainHeld ++ (w.requests ++ [Handling.mk [] t]).flatMap Handling.held = w.held := by
      simp [CfgModeWorld.held]
    exact (h.counters via).trans
      (congrArg (fun held => heldCount Resource.covers held (.suspended via)) hsame.symm)

/-- Every request that comes to a result releases only what it holds. -/
theorem walk_run_ne_none (r : GatewayRequest P)
    (hresult : (r.run osStrToUint32Cptr default).result ≠ none) :
    walk [] (r.run osStrToUint32Cptr default).trace ≠ none := by
  by_cases hforgets : r.Forgets
  · rw [(leaves_of_forgets osStrToUint32Cptr default r hforgets).2]
    exact Option.some_ne_none _
  · obtain ⟨started, hstarted⟩ := Option.ne_none_iff_exists'.mp hresult
    cases started with
    | false =>
      obtain ⟨n, hn⟩ := leaves_of_not_forgets osStrToUint32Cptr default r hforgets hstarted
      rw [hn]
      exact Option.some_ne_none _
    | true =>
      cases r with
      | postFwUpdate body files taskCreated cfg =>
        obtain ⟨r, -, hcases⟩ := postFwUpdate_cases body files taskCreated cfg
        dsimp only [GatewayRequest.run]
        rw [trace_map]
        rcases hcases with ⟨-, -, hwalk⟩ | ⟨-, -, hwalk⟩ <;>
          exact hwalk ▸ Option.some_ne_none _
      | validateUrl | postGwCfgDownload | httpDownload | httpCheck =>
        dsimp only [GatewayRequest.run] at hstarted
        rw [result_map] at hstarted
        obtain ⟨_, -, hfalse⟩ := Option.map_eq_some_iff.mp hstarted
        exact absurd hfalse Bool.false_ne_true

theorem CfgModeInvariant.step (h : CfgModeInvariant w) {l : CfgModeStep P}
    (hstep : w.step osStrToUint32Cptr default l = some w') : CfgModeInvariant w' := by
  cases l with
  | activateCfgMode =>
    dsimp only [CfgModeWorld.step] at hstep
    split_ifs at hstep with hpc hmode
    · exact Option.some.inj hstep ▸ h
    · have hnone : w.mainHeld = [] := by
        rw [h.main, CfgModeWorld.mainHolds, not_not.mp hpc]
        exact if_neg hmode
      rw [← Option.some.inj hstep]
      exact ⟨hnone, fun _ => rfl, h.requests, h.counters⟩
  | suspendRelaying =>
    dsimp only [CfgModeWorld.step] at hstep
    split_ifs at hstep with hpc
    have hpc := not_not.mp hpc
    have hnone : w.mainHeld = [] := by rw [h.main, CfgModeWorld.mainHolds, hpc]
    rw [← Option.some.inj hstep]
    refine h.mainOp rfl ?_
    simp [CfgModeWorld.main, CfgModeWorld.mainHolds, heldAfter, hnone, h.mode hpc]
  | deactivateCfgMode =>
    dsimp only [CfgModeWorld.step] at hstep
    split_ifs at hstep with hpc hmode
    · exact Option.some.inj hstep ▸ h
    · have hone : w.mainHeld = [.relaying .all] := by
        rw [h.main, CfgModeWorld.mainHolds, not_not.mp hpc]
        exact if_pos (by simpa using hmode)
      rw [← Option.some.inj hstep]
      exact ⟨hone, nofun, h.requests, h.counters⟩
  | resumeRelaying =>
    dsimp only [CfgModeWorld.step] at hstep
    split_ifs at hstep with hpc hmode
    · have hone : w.mainHeld = [.relaying .all] := by
        rw [h.main, CfgModeWorld.mainHolds, not_not.mp hpc]
      rw [← Option.some.inj hstep]
      refine ⟨?_, nofun, h.requests, h.counters⟩
      exact hone.trans (if_pos hmode).symm
    · have hone : w.mainHeld = [.relaying .all] := by
        rw [h.main, CfgModeWorld.mainHolds, not_not.mp hpc]
      rw [← Option.some.inj hstep]
      refine h.mainOp (by rw [hone]; rfl) ?_
      simp [CfgModeWorld.main, CfgModeWorld.mainHolds, heldAfter, hone, hmode]
  | cfgChanged gwCfgIsEmpty =>
    rw [← Option.some.inj hstep]
    exact ⟨h.main, h.mode, h.requests, h.counters⟩
  | begin r =>
    dsimp only [CfgModeWorld.step] at hstep
    split_ifs at hstep with hresult
    rw [← Option.some.inj hstep]
    exact h.begin (walk_run_ne_none r hresult)
  | proceed i =>
    dsimp only [CfgModeWorld.step] at hstep
    split at hstep
    next held op rest hi =>
      rw [← Option.some.inj hstep]
      exact h.requestOp hi
    next => exact absurd hstep (by simp)

theorem cfgModeInvariant_run {gwCfgIsEmpty : Bool} {history : List (CfgModeStep P × Unit)}
    (hrun : (cfgModeSystem osStrToUint32Cptr default gwCfgIsEmpty).FreeRun history w) :
    CfgModeInvariant w := by
  refine hrun.invariant ⟨rfl, nofun, nofun, fun _ => rfl⟩ ?_
  intro w l w' o h _ hstep
  obtain ⟨w₁, hw₁, hw'⟩ := Option.map_eq_some_iff.mp hstep
  rw [← (Prod.mk.inj hw').1]
  exact h.step hw₁

/-- Between two signals, the flag tells what the main task holds. -/
theorem CfgModeInvariant.cfgMode_iff (h : CfgModeInvariant w) (hpc : w.pc = .idle) :
    (w.cfgMode = true ↔ w.mainHeld = [.relaying .all]) ∧ (w.cfgMode = false ↔ w.mainHeld = []) := by
  rw [h.main, CfgModeWorld.mainHolds, hpc]
  cases w.cfgMode <;> simp

end CfgMode

section Main

variable (osStrToUint32Cptr : Bytes → ℕ → UInt32 × ℕ) (default : GwCfg P)

/-- Requests give relaying back unless they forget to, and in every run the configuration mode is
active if and only if the main task holds exactly one suspension of both kinds. -/
theorem relaying_givenBack :
    (∀ r : GatewayRequest P, r.GivesBack osStrToUint32Cptr default ↔ ¬r.Forgets) ∧
      ∀ gwCfgIsEmpty history w,
        (cfgModeSystem osStrToUint32Cptr default gwCfgIsEmpty).FreeRun history w → w.pc = .idle →
          (w.cfgMode = true ↔ w.mainHeld = [.relaying .all]) ∧
          (w.cfgMode = false ↔ w.mainHeld = []) ∧
          ∀ via, w.status.cntSuspended via = heldCount Resource.covers w.held (.suspended via) := by
  refine ⟨givesBack_iff osStrToUint32Cptr default, fun gwCfgIsEmpty history w hrun hpc => ?_⟩
  have h := cfgModeInvariant_run hrun
  exact ⟨(h.cfgMode_iff hpc).1, (h.cfgMode_iff hpc).2, h.counters⟩

/-- After the configuration mode has been activated, the main task holds its suspension. -/
theorem relaying_givenBack_activated :
    (GatewayRequest.httpCheck (P := samplePlatform) ⟨[], .none, false, false⟩
      ⟨true, true, true, true, true, true, .completed [] 200⟩).GivesBack (fun _ _ => (0, 0))
        sampleDefault ∧
      ∃ history w, (cfgModeSystem (fun _ _ => (0, 0)) sampleDefault true).FreeRun history w ∧
        w.cfgMode = true ∧ w.mainHeld = [.relaying .all] := by
  have h := relaying_givenBack (fun _ _ => (0, 0)) sampleDefault
  refine ⟨(h.1 _).mpr id, ?_⟩
  have hrun : (cfgModeSystem (fun _ _ => (0, 0)) sampleDefault true).FreeRun
      [(.suspendRelaying, ()), (.activateCfgMode, ())] _ :=
    .step (.step .init trivial rfl) trivial rfl
  exact ⟨_, _, hrun, rfl, (h.2 _ _ _ hrun rfl).1.mp rfl⟩

/-- A valid URL whose three files are found. -/
def sampleReleaseBody : Json := .object [("url", .string (ascii "https://fw.example.com/v1"))]

def sampleFound (_ : String) : CheckFileOutcome :=
  ⟨true, ⟨true, true, true, true, true, true, .completed [] 200⟩⟩

/-- A firmware update for whose task there is no memory keeps relaying suspended. -/
theorem postFwUpdate_keepsSuspension :
    ¬(GatewayRequest.postFwUpdate (P := samplePlatform) (some sampleReleaseBody) sampleFound false
      (fwUpdateSetBinariesUrl [])).GivesBack (fun _ _ => (0, 0)) sampleDefault := by
  intro hgives
  have hrun := hgives (by decide +kernel) gwStatusInit .http
  revert hrun
  decide +kernel

end Main

end RuuviGateway.Relaying
