import RuuviGateway.General.CString
import RuuviGateway.Http.AsyncRequest
import RuuviGateway.Relaying.Holding

/-!
# Downloading and checking a URL

`http_download.c` hands what the HTTP client receives to a callback, chunk by chunk, while relaying
via HTTP is suspended. The events of the client and the failures of its calls are inputs.
-/

namespace RuuviGateway.Http

open Config General General.Bracketed Relaying

section Client

/-- The fields of `http_download_param_with_auth_t` that decide what is done. A pointer is told by
whether it is NULL. -/
structure HttpDownloadParamWithAuth where
  url : Bytes
  authType : HttpAuthType
  httpAuth : Bool
  extraHeaderItem : Bool

/-- `http_server_resp_t`, with the text of a response in memory. -/
structure HttpServerResp where
  httpRespCode : ℕ
  content : Option Bytes
  deriving DecidableEq

def httpServerResp (code : ℕ) : HttpServerResp := ⟨code, none⟩

def httpUrlPrefix : Bytes := ascii "http://"

def httpsUrlPrefix : Bytes := ascii "https://"

def httpMinDomainNameLen : ℕ := 3

/-- `http_download_is_url_valid`. -/
def httpDownloadIsUrlValid (url : Bytes) : Bool :=
  let isHostValid (host : Bytes) : Bool :=
    !decide (host.length < httpMinDomainNameLen) && host.contains 0x2e
  if httpUrlPrefix.isPrefixOf url then isHostValid (url.drop httpUrlPrefix.length)
  else if httpsUrlPrefix.isPrefixOf url then isHostValid (url.drop httpsUrlPrefix.length)
  else false

/-- An event of the HTTP client. A chunk comes with the status code of its response, and with what
the calls of the callback for it come to. -/
inductive ClientEvent (ω : Type)
  | onConnected
  | onContentLength (value : UInt32)
  | onData (data : Bytes) (statusCode : ℕ) (o : ω)
  | other

/-- `http_download_cb_on_data_t`: the data, the offset, the content length and the status code. -/
abbrev CbOnData (σ ω : Type) := Bytes → UInt32 → UInt32 → ℕ → ω → σ → σ × Bool

/-- `http_download_cb_info_t`. -/
structure HttpDownloadCbInfo where
  contentLength : UInt32
  offset : UInt32

variable {σ ω : Type}

/-- The callback may be NULL, and its user data are kept beside the other state. -/
def httpDownloadEventHandler (cb : Option (CbOnData σ ω)) (s : HttpDownloadCbInfo × σ) :
    ClientEvent ω → HttpDownloadCbInfo × σ
  | .onConnected => ({ s.1 with offset := 0 }, s.2)
  | .onContentLength value => (⟨value, 0⟩, s.2)
  | .onData data statusCode o =>
    match cb with
    | none => ({ s.1 with offset := s.1.offset + UInt32.ofNat data.length }, s.2)
    | some cb =>
      let r := cb data s.1.offset s.1.contentLength statusCode o s.2
      if r.2 then
        ({ s.1 with offset := s.1.offset + UInt32.ofNat data.length }, r.1)
      else (s.1, r.1)
  | .other => s

/-- What `esp_http_client_perform`, the calls before it and the waiting after it come to. -/
inductive Performed (ω : Type)
  | headerNotSet
  | completed (events : List (ClientEvent ω)) (statusCode : ℕ)
  | failed (events : List (ClientEvent ω))
  | waited (events : List (ClientEvent ω)) (resp : HttpServerResp)

def Performed.events : Performed ω → List (ClientEvent ω)
  | .headerNotSet => []
  | .completed events _ | .failed events | .waited events _ => events

/-- `http_download_by_handle`. -/
def httpDownloadByHandle : Performed ω → HttpServerResp
  | .headerNotSet => httpServerResp 500
  | .completed _ statusCode => httpServerResp statusCode
  | .failed _ => httpServerResp 502
  | .waited _ resp => resp

structure DownloadOutcome (ω : Type) where
  networkConnected : Bool
  cbInfoAllocated : Bool
  configAllocated : Bool
  clientCreated : Bool
  authAllocated : Bool
  extraHeaderSet : Bool
  performed : Performed ω

/-- `http_client_init`. -/
def httpClientInit (p : HttpDownloadParamWithAuth) (o : DownloadOutcome ω) : Bool :=
  o.clientCreated && httpHandleAddAuthorizationIfNeeded p.authType o.authAllocated &&
    (!p.extraHeaderItem || o.extraHeaderSet)

def httpDownloadOrCheck (p : HttpDownloadParamWithAuth) (cb : Option (CbOnData σ ω))
    (o : DownloadOutcome ω) (userData : σ) : Request (HttpServerResp × σ) :=
  if !httpDownloadIsUrlValid p.url then pure (httpServerResp 400, userData)
  else if p.authType ≠ .none ∧ p.httpAuth = false then pure (httpServerResp 400, userData)
  else if !o.networkConnected then pure (httpServerResp 503, userData)
  else if !o.cbInfoAllocated then pure (httpServerResp 500, userData)
  else if !o.configAllocated then pure (httpServerResp 500, userData)
  else do
    suspendRelaying .httpOnly
    if !httpClientInit p o then do
      resumeRelaying .httpOnly
      pure (httpServerResp 500, userData)
    else do
      let received := o.performed.events.foldl (httpDownloadEventHandler cb) (⟨0, 0⟩, userData)
      resumeRelaying .httpOnly
      pure (httpDownloadByHandle o.performed, received.2)

def httpDownloadWithAuth (p : HttpDownloadParamWithAuth) (cb : CbOnData σ ω)
    (o : DownloadOutcome ω) (userData : σ) : Request (HttpServerResp × σ) :=
  httpDownloadOrCheck p (some cb) o userData

/-- The flag tells whether the code of the response is 200. -/
def httpDownload (p : HttpDownloadParamWithAuth) (cb : CbOnData σ ω) (o : DownloadOutcome ω)
    (userData : σ) : Request (Bool × σ) := do
  let r ← httpDownloadWithAuth p cb o userData
  return (decide (r.1.httpRespCode = 200), r.2)

def httpCheck (p : HttpDownloadParamWithAuth) (o : DownloadOutcome Unit) : Request ℕ := do
  let r ← httpDownloadOrCheck p (none : Option (CbOnData Unit Unit)) o ()
  return r.1.httpRespCode

end Client

section Json

structure HttpServerDownloadInfo where
  isError : Bool
  httpRespCode : ℕ
  jsonBuf : Option Bytes
  jsonBufSize : UInt32
  deriving DecidableEq

/-- The outcome says whether the buffer could be allocated or extended for this chunk. -/
def cbOnHttpDownloadJsonData : CbOnData HttpServerDownloadInfo Bool :=
  fun data offset contentLength httpRespCode allocated info =>
    if info.isError then (info, false)
    else if httpRespCode = 301 ∨ httpRespCode = 302 then (info, true)
    else
      let len := UInt32.ofNat data.length
      let size := match info.jsonBuf with
        | none => if contentLength = 0 then len + 1 else contentLength + 1
        | some _ => if contentLength = 0 then info.jsonBufSize + len else info.jsonBufSize
      let buf := match info.jsonBuf with
        | none => if allocated then some (List.replicate size.toNat 0) else none
        | some buf =>
          if contentLength = 0 then
            if allocated then some (buf ++ List.replicate (size.toNat - buf.length) 0) else none
          else some buf
      match buf with
      | none => (⟨true, httpRespCode, none, size⟩, false)
      | some buf =>
        if size ≤ offset ∨ size ≤ offset + len then (⟨true, httpRespCode, none, size⟩, false)
        else (⟨false, httpRespCode, some (writeAt buf offset.toNat data), size⟩, true)

/-- What the response says about the download. The text of an error response is copied to the
buffer. -/
def HttpServerDownloadInfo.ofResp (resp : HttpServerResp) (copyAllocated : Bool)
    (info : HttpServerDownloadInfo) : HttpServerDownloadInfo :=
  if resp.httpRespCode ≠ 200 then
    { info with
      isError := true
      httpRespCode := resp.httpRespCode
      jsonBuf := match resp.content with
        | some text => if copyAllocated then some text else none
        | none => info.jsonBuf }
  else if info.httpRespCode ≠ 200 then { info with isError := true }
  else if info.jsonBuf = none then { info with isError := true }
  else info

def HttpServerDownloadInfo.replaceCode (info : HttpServerDownloadInfo) : HttpServerDownloadInfo :=
  if info.isError ∧ info.httpRespCode = 200 then { info with httpRespCode := 400 } else info

def httpDownloadJson (p : HttpDownloadParamWithAuth) (o : DownloadOutcome Bool)
    (copyAllocated : Bool) : Request HttpServerDownloadInfo := do
  let r ← httpDownloadWithAuth p cbOnHttpDownloadJsonData o ⟨false, 200, none, 0⟩
  pure (r.2.ofResp r.1 copyAllocated).replaceCode

end Json

section Balance

variable {σ ω : Type} (p : HttpDownloadParamWithAuth)

/-- Relaying via HTTP is resumed on every way out. -/
theorem balanced_httpDownloadOrCheck (cb : Option (CbOnData σ ω)) (o : DownloadOutcome ω)
    (userData : σ) : (httpDownloadOrCheck p cb o userData).Balanced := by
  refine balanced_ite (fun _ => balanced_pure _) fun _ => ?_
  refine balanced_ite (fun _ => balanced_pure _) fun _ => ?_
  refine balanced_ite (fun _ => balanced_pure _) fun _ => ?_
  refine balanced_ite (fun _ => balanced_pure _) fun _ => ?_
  refine balanced_ite (fun _ => balanced_pure _) fun _ => ?_
  intro held
  refine (leaves_acquire _ held).bind fun _ _ => ?_
  split_ifs
  · exact (leaves_release _ held).bind fun _ _ => balanced_pure _ held
  · exact (leaves_release _ held).bind fun _ _ => balanced_pure _ held

theorem httpDownloadOrCheck_ends (cb : Option (CbOnData σ ω)) (o : DownloadOutcome ω)
    (userData : σ) : (httpDownloadOrCheck p cb o userData).result ≠ none := by
  unfold httpDownloadOrCheck
  split_ifs <;> simp [suspendRelaying, resumeRelaying]

theorem balanced_httpDownload (cb : CbOnData σ ω) (o : DownloadOutcome ω) (userData : σ) :
    (httpDownload p cb o userData).Balanced :=
  (balanced_httpDownloadOrCheck p _ o userData).bind fun _ _ => balanced_pure _

theorem httpDownload_ends (cb : CbOnData σ ω) (o : DownloadOutcome ω) (userData : σ) :
    (httpDownload p cb o userData).result ≠ none := by
  obtain ⟨r, hr⟩ := Option.ne_none_iff_exists'.mp (httpDownloadOrCheck_ends p (some cb) o userData)
  simp [httpDownload, httpDownloadWithAuth, hr]

theorem balanced_httpCheck (o : DownloadOutcome Unit) : (httpCheck p o).Balanced :=
  (balanced_httpDownloadOrCheck p _ o ()).bind fun _ _ => balanced_pure _

theorem httpCheck_ends (o : DownloadOutcome Unit) : (httpCheck p o).result ≠ none := by
  obtain ⟨r, hr⟩ := Option.ne_none_iff_exists'.mp
    (httpDownloadOrCheck_ends p (none : Option (CbOnData Unit Unit)) o ())
  simp [httpCheck, hr]

theorem balanced_httpDownloadJson (o : DownloadOutcome Bool) (copyAllocated : Bool) :
    (httpDownloadJson p o copyAllocated).Balanced :=
  (balanced_httpDownloadOrCheck p _ o _).bind fun _ _ => balanced_pure _

theorem httpDownloadJson_ends (o : DownloadOutcome Bool) (copyAllocated : Bool) :
    (httpDownloadJson p o copyAllocated).result ≠ none := by
  obtain ⟨r, hr⟩ := Option.ne_none_iff_exists'.mp
    (httpDownloadOrCheck_ends p (some cbOnHttpDownloadJsonData) o ⟨false, 200, none, 0⟩)
  simp [httpDownloadJson, httpDownloadWithAuth, hr]

end Balance

section Received

variable {σ ω : Type}

/-- The chunks of responses with code 200, in their order. -/
def okChunks (events : List (ClientEvent ω)) : List Bytes :=
  events.filterMap fun
    | .onData data 200 _ => some data
    | _ => none

theorem okChunks_cons_data (data : Bytes) (statusCode : ℕ) (o : ω) (events : List (ClientEvent ω)) :
    okChunks (.onData data statusCode o :: events) =
      if statusCode = 200 then data :: okChunks events else okChunks events := by
  unfold okChunks
  split_ifs with hcode
  · subst hcode
    rfl
  · rw [List.filterMap_cons]
    split
    · rfl
    · rename_i hsome
      split at hsome
      · rename_i heq
        cases heq
        exact absurd rfl hcode
      · cases hsome

/-- What the callback keeps for each chunk holds of its data after all events. -/
theorem foldl_eventHandler {cb : CbOnData σ ω} {I : List Bytes → σ → Prop}
    (hcb : ∀ chunks data offset contentLength statusCode o userData, I chunks userData →
      I (chunks ++ if statusCode = 200 then [data] else [])
        (cb data offset contentLength statusCode o userData).1)
    (events : List (ClientEvent ω)) (chunks : List Bytes) {s : HttpDownloadCbInfo × σ}
    (h : I chunks s.2) :
    I (chunks ++ okChunks events) (events.foldl (httpDownloadEventHandler (some cb)) s).2 := by
  induction events generalizing chunks s with
  | nil => simpa [okChunks] using h
  | cons event events ih =>
    rw [List.foldl_cons]
    cases event with
    | onConnected => exact ih chunks h
    | onContentLength value => exact ih chunks h
    | other => exact ih chunks h
    | onData data statusCode o =>
      have hdata := hcb chunks data s.1.offset s.1.contentLength statusCode o s.2 h
      have hnext : (httpDownloadEventHandler (some cb) s (.onData data statusCode o)).2 =
          (cb data s.1.offset s.1.contentLength statusCode o s.2).1 := by
        dsimp only [httpDownloadEventHandler]
        split_ifs <;> rfl
      rw [← hnext] at hdata
      refine cast ?_ (ih _ hdata)
      rw [okChunks_cons_data, List.append_assoc]
      split_ifs <;> rfl

/-- A download that is refused early leaves the data of the callback alone. Otherwise the callback
has seen all events, and the flag tells the code of the response. -/
theorem httpDownload_cases {p : HttpDownloadParamWithAuth} {cb : CbOnData σ ω}
    {o : DownloadOutcome ω} {userData : σ} {r : Bool × σ}
    (h : (httpDownload p cb o userData).result = some r) :
    r = (false, userData) ∨
      r = (decide ((httpDownloadByHandle o.performed).httpRespCode = 200),
        (o.performed.events.foldl (httpDownloadEventHandler (some cb)) (⟨0, 0⟩, userData)).2) := by
  unfold httpDownload httpDownloadWithAuth httpDownloadOrCheck at h
  split_ifs at h
  all_goals simp only [result_bind, result_pure, suspendRelaying, resumeRelaying, result_acquire,
    result_release, Option.bind_some, Option.some.injEq] at h
  all_goals obtain rfl := h
  all_goals first | exact .inl rfl | exact .inr rfl

end Received

section JsonInfo

/-- The result of a download is an error with a code other than 200, or a text with code 200. -/
structure HttpServerDownloadInfo.Consistent (info : HttpServerDownloadInfo) : Prop where
  error : info.isError = true → info.httpRespCode ≠ 200
  body : info.isError = false → info.httpRespCode = 200 ∧ ∃ buf, info.jsonBuf = some buf

theorem HttpServerDownloadInfo.ofResp_ok {resp : HttpServerResp} {copyAllocated : Bool}
    {info : HttpServerDownloadInfo} (h : (info.ofResp resp copyAllocated).isError = false) :
    (info.ofResp resp copyAllocated).httpRespCode = 200 ∧
      ∃ buf, (info.ofResp resp copyAllocated).jsonBuf = some buf := by
  unfold ofResp at h ⊢
  split_ifs at h ⊢ with hresp hcode hbuf
  exact ⟨not_not.mp hcode, Option.ne_none_iff_exists'.mp hbuf⟩

theorem HttpServerDownloadInfo.consistent_replaceCode {info : HttpServerDownloadInfo}
    (h : info.isError = false → info.httpRespCode = 200 ∧ ∃ buf, info.jsonBuf = some buf) :
    info.replaceCode.Consistent := by
  unfold replaceCode
  split_ifs with herror
  · constructor
    · intro _ hcode
      exact absurd hcode (by simp)
    · intro hok
      exact absurd (hok.symm.trans herror.1) Bool.false_ne_true
  · exact ⟨fun he hcode => herror ⟨he, hcode⟩, h⟩

theorem consistent_httpDownloadJson {p : HttpDownloadParamWithAuth} {o : DownloadOutcome Bool}
    {copyAllocated : Bool} {info : HttpServerDownloadInfo}
    (h : (httpDownloadJson p o copyAllocated).result = some info) : info.Consistent := by
  unfold httpDownloadJson at h
  rw [result_bind] at h
  obtain ⟨r, -, h⟩ := Option.bind_eq_some_iff.mp h
  rw [← Option.some.inj h]
  exact HttpServerDownloadInfo.consistent_replaceCode HttpServerDownloadInfo.ofResp_ok

end JsonInfo

end RuuviGateway.Http
