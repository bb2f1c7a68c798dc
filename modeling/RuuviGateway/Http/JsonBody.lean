import RuuviGateway.General.AlongFold
import RuuviGateway.Http.Download

/-!
# The body of a downloaded document

An exchange consists of redirections and a final response, each with its headers before its chunks.
The offset and the content length that the event handler keeps are those of the last headers, which
a response without a content length over a connection that is kept does not replace.
-/

namespace RuuviGateway.Http

open Config General General.Bracketed Relaying

section Exchange

/-- The length of the data of an event is an `int`. The flag says whether an allocation that is made
for the chunk succeeds. -/
structure Chunk where
  data : Bytes
  allocated : Bool
  length_lt : data.length < 2 ^ 31

/-- The content length is the value that the header has for `os_str_to_uint32_cptr`. -/
structure HttpResponse where
  reopened : Bool
  contentLength : Option UInt32
  chunks : List Chunk

namespace HttpResponse

variable (r : HttpResponse)

def body : Bytes := (r.chunks.map Chunk.data).flatten

def headers : List (ClientEvent Bool) :=
  (if r.reopened then [.onConnected] else []) ++ (r.contentLength.map .onContentLength).toList

def events (statusCode : ℕ) : List (ClientEvent Bool) :=
  r.headers ++ r.chunks.map fun c => .onData c.data statusCode c.allocated

/-- What the headers make of the offset and the content length. -/
def afterHeaders (s : HttpDownloadCbInfo) : HttpDownloadCbInfo where
  contentLength := r.contentLength.getD s.contentLength
  offset := if r.reopened || r.contentLength.isSome then 0 else s.offset

end HttpResponse

structure Redirect extends HttpResponse where
  statusCode : ℕ
  redirects : statusCode = 301 ∨ statusCode = 302

structure Exchange where
  redirects : List Redirect
  final : HttpResponse
  statusCode : ℕ

namespace Exchange

variable (e : Exchange)

def events : List (ClientEvent Bool) :=
  (e.redirects.flatMap fun r => r.events r.statusCode) ++ e.final.events e.statusCode

theorem events_eq : e.events =
    ((e.redirects.flatMap fun r => r.events r.statusCode) ++ e.final.headers) ++
      e.final.chunks.map fun c => .onData c.data e.statusCode c.allocated :=
  (List.append_assoc _ _ _).symm

/-- The offset and the content length that the redirections leave. -/
def leftOver : HttpDownloadCbInfo :=
  e.redirects.foldl (fun s r =>
    { r.afterHeaders s with
      offset := (r.afterHeaders s).offset + UInt32.ofNat r.body.length }) ⟨0, 0⟩

end Exchange

end Exchange

section Steps

abbrev JsonDownload := HttpDownloadCbInfo × HttpServerDownloadInfo

def jsonStep : JsonDownload → ClientEvent Bool → JsonDownload :=
  httpDownloadEventHandler (some cbOnHttpDownloadJsonData)

def jsonStart : JsonDownload := (⟨0, 0⟩, ⟨false, 200, none, 0⟩)

def IsRedirect (statusCode : ℕ) : Prop := statusCode = 301 ∨ statusCode = 302

instance (statusCode : ℕ) : Decidable (IsRedirect statusCode) :=
  inferInstanceAs (Decidable (statusCode = 301 ∨ statusCode = 302))

variable (s : JsonDownload) (data : Bytes) (allocated : Bool)

/-- The size that is recorded before a chunk is written. -/
def preparedSize : UInt32 :=
  match s.2.jsonBuf with
  | none =>
    if s.1.contentLength = 0 then UInt32.ofNat data.length + 1 else s.1.contentLength + 1
  | some _ =>
    if s.1.contentLength = 0 then s.2.jsonBufSize + UInt32.ofNat data.length else s.2.jsonBufSize

/-- The buffer in which a chunk is written. -/
def preparedBuf : Option Bytes :=
  match s.2.jsonBuf with
  | none => if allocated then some (List.replicate (preparedSize s data).toNat 0) else none
  | some buf =>
    if s.1.contentLength = 0 then
      if allocated then some (buf ++ List.replicate ((preparedSize s data).toNat - buf.length) 0)
      else none
    else some buf

/-- `Buffer overflow while downloading json file`. -/
def Overflows : Prop :=
  preparedSize s data ≤ s.1.offset ∨ preparedSize s data ≤ s.1.offset + UInt32.ofNat data.length

instance : Decidable (Overflows s data) := inferInstanceAs (Decidable (_ ∨ _))

/-- The size and the outcome of the allocation that is made for an event. -/
def allocationFor : ClientEvent Bool → Option (UInt32 × Bool)
  | .onData data statusCode allocated =>
    if s.2.isError = true ∨ IsRedirect statusCode then none
    else if s.2.jsonBuf = none ∨ s.1.contentLength = 0 then some (preparedSize s data, allocated)
    else none
  | _ => none

/-- The buffer, the offset and the data of the write that is made for an event. -/
def writeFor : ClientEvent Bool → Option (Bytes × ℕ × Bytes)
  | .onData data statusCode allocated =>
    if s.2.isError = true ∨ IsRedirect statusCode ∨ Overflows s data then none
    else (preparedBuf s data allocated).map (·, s.1.offset.toNat, data)
  | _ => none

end Steps

section Property

variable (e : Exchange)

/-- Memory of no bytes or of more than `PTRDIFF_MAX` bytes cannot be had. -/
def Plausible (s : JsonDownload) (event : ClientEvent Bool) : Prop :=
  ∀ a, allocationFor s event = some a → a.2 = true → 0 < a.1.toNat ∧ a.1.toNat < 2 ^ 31

instance (s : JsonDownload) (event : ClientEvent Bool) : Decidable (Plausible s event) :=
  (Option.decidableForallMem _ : Decidable (∀ a ∈ allocationFor s event, a.2 = true →
    0 < a.1.toNat ∧ a.1.toNat < 2 ^ 31))

def PlausibleMemory : Prop := AlongFold jsonStep Plausible jsonStart e.events

instance : Decidable (PlausibleMemory e) := AlongFold.decidable _ _ _

def AllocationsSucceed : Prop :=
  AlongFold jsonStep (fun s event => ∀ a, allocationFor s event = some a → a.2 = true) jsonStart
    e.events

instance : Decidable (AllocationsSucceed e) :=
  have (s : JsonDownload) (event : ClientEvent Bool) :
      Decidable (∀ a ∈ allocationFor s event, a.2 = true) := Option.decidableForallMem _
  inferInstanceAs (Decidable (AlongFold jsonStep (fun s event =>
    ∀ a ∈ allocationFor s event, a.2 = true) jsonStart e.events))

def HttpServerDownloadInfo.SizeRecorded (info : HttpServerDownloadInfo) : Prop :=
  ∀ buf, info.jsonBuf = some buf → buf.length = info.jsonBufSize.toNat

/-- The data and the NUL behind them are written into the buffer, and the recorded size of the
buffer is its size. -/
def BufferKept : Prop :=
  AlongFold jsonStep (fun s event =>
    (∀ w, writeFor s event = some w → w.2.1 + w.2.2.length + 1 ≤ w.1.length) ∧
      (jsonStep s event).2.SizeRecorded) jsonStart e.events

/-- The client has delivered the exchange. The code that it reports is 200 for every successful
response, and any code if the callback has failed. -/
structure Performs (o : DownloadOutcome Bool) : Prop where
  events : o.performed.events = e.events
  code : (httpDownloadByHandle o.performed).httpRespCode = e.statusCode ∨
    200 ≤ e.statusCode ∧ e.statusCode ≤ 299 ∧
      (httpDownloadByHandle o.performed).httpRespCode = 200 ∨
    (e.events.foldl jsonStep jsonStart).2.isError = true

/-- Nothing fails before the request is sent. -/
def Started (p : HttpDownloadParamWithAuth) (o : DownloadOutcome Bool) : Prop :=
  httpDownloadIsUrlValid p.url = true ∧ (p.authType ≠ .none → p.httpAuth = true) ∧
    o.networkConnected = true ∧ o.cbInfoAllocated = true ∧ o.configAllocated = true ∧
    httpClientInit p o = true

/-- A document that is there, in a download in which nothing fails. -/
structure Delivers (p : HttpDownloadParamWithAuth) (o : DownloadOutcome Bool) : Prop where
  started : Started p o
  statusCode : e.statusCode = 200
  body : e.final.body ≠ []
  agrees : ∀ n, e.final.contentLength = some n → n.toNat = e.final.body.length
  allocations : AllocationsSucceed e

/-- The buffer is the body and a NUL. -/
structure HttpServerDownloadInfo.Holds (info : HttpServerDownloadInfo) (body : Bytes) : Prop where
  ok : info.isError = false
  buf : info.jsonBuf = some (body ++ [0])
  size : info.jsonBufSize.toNat = body.length + 1

/-- The final response has a content length, or nothing that matters is left of the redirections. -/
def Clean : Prop :=
  e.final.contentLength.isSome = true ∨
    (e.final.reopened = true ∨ e.leftOver.offset = 0) ∧
      (e.leftOver.contentLength = 0 ∨ e.leftOver.contentLength.toNat = e.final.body.length)

end Property

section StepSpec

variable {s : JsonDownload} {data : Bytes} {allocated : Bool} {statusCode : ℕ}

/-- The offset and the content length after a chunk that the callback has accepted. -/
def HttpDownloadCbInfo.advance (s : HttpDownloadCbInfo) (n : ℕ) : HttpDownloadCbInfo :=
  { s with offset := s.offset + UInt32.ofNat n }

theorem cbOnHttpDownloadJsonData_eq (s : JsonDownload) (data : Bytes) (statusCode : ℕ)
    (allocated : Bool) :
    cbOnHttpDownloadJsonData data s.1.offset s.1.contentLength statusCode allocated s.2 =
      if s.2.isError = true then (s.2, false)
      else if IsRedirect statusCode then (s.2, true)
      else match preparedBuf s data allocated with
        | none => (⟨true, statusCode, none, preparedSize s data⟩, false)
        | some buf =>
          if Overflows s data then (⟨true, statusCode, none, preparedSize s data⟩, false)
          else (⟨false, statusCode, some (writeAt buf s.1.offset.toNat data), preparedSize s data⟩,
            true) := rfl

theorem jsonStep_data (s : JsonDownload) (data : Bytes) (statusCode : ℕ) (allocated : Bool) :
    jsonStep s (.onData data statusCode allocated) =
      let r := cbOnHttpDownloadJsonData data s.1.offset s.1.contentLength statusCode allocated s.2
      if r.2 = true then (s.1.advance data.length, r.1) else (s.1, r.1) := rfl

theorem jsonStep_error (h : s.2.isError = true) :
    jsonStep s (.onData data statusCode allocated) = s := by
  rw [jsonStep_data, cbOnHttpDownloadJsonData_eq, if_pos h]
  rfl

theorem jsonStep_redirect (h : s.2.isError = false) (hcode : IsRedirect statusCode) :
    jsonStep s (.onData data statusCode allocated) = (s.1.advance data.length, s.2) := by
  rw [jsonStep_data, cbOnHttpDownloadJsonData_eq, if_neg (ne_true_of_eq_false h), if_pos hcode]
  rfl

theorem jsonStep_refused (h : s.2.isError = false) (hcode : ¬IsRedirect statusCode)
    (hrefused : preparedBuf s data allocated = none ∨ Overflows s data) :
    jsonStep s (.onData data statusCode allocated) =
      (s.1, ⟨true, statusCode, none, preparedSize s data⟩) := by
  rw [jsonStep_data, cbOnHttpDownloadJsonData_eq, if_neg (ne_true_of_eq_false h), if_neg hcode]
  cases hbuf : preparedBuf s data allocated with
  | none => rfl
  | some buf =>
    have hoverflow := hrefused.resolve_left (by rw [hbuf]; exact Option.some_ne_none _)
    simp only [if_pos hoverflow]
    rfl

theorem jsonStep_written {buf : Bytes} (h : s.2.isError = false) (hcode : ¬IsRedirect statusCode)
    (hbuf : preparedBuf s data allocated = some buf) (hfits : ¬Overflows s data) :
    jsonStep s (.onData data statusCode allocated) = (s.1.advance data.length,
      ⟨false, statusCode, some (writeAt buf s.1.offset.toNat data), preparedSize s data⟩) := by
  rw [jsonStep_data, cbOnHttpDownloadJsonData_eq, if_neg (ne_true_of_eq_false h), if_neg hcode,
    hbuf]
  simp only [if_neg hfits, if_true]

end StepSpec

section Writes

variable {s : JsonDownload} {event : ClientEvent Bool}

/-- The buffer after an event is the one that was written in. -/
theorem jsonBuf_of_writeFor {w : Bytes × ℕ × Bytes} (h : writeFor s event = some w) :
    (jsonStep s event).2.jsonBuf = some (writeAt w.1 w.2.1 w.2.2) := by
  cases event with
  | onConnected => cases h
  | onContentLength n => cases h
  | other => cases h
  | onData data statusCode allocated =>
    unfold writeFor at h
    dsimp only at h
    split_ifs at h with hcases
    simp only [not_or] at hcases
    obtain ⟨herror, hcode, hfits⟩ := hcases
    obtain ⟨buf, hbuf, rfl⟩ := Option.map_eq_some_iff.mp h
    rw [jsonStep_written (eq_false_of_ne_true herror) hcode hbuf hfits]

/-- Without a write the buffer is as it was, or is freed. -/
theorem jsonBuf_of_no_write (h : writeFor s event = none) :
    (jsonStep s event).2.jsonBuf = s.2.jsonBuf ∨ (jsonStep s event).2.jsonBuf = none := by
  cases event with
  | onConnected => exact .inl rfl
  | onContentLength n => exact .inl rfl
  | other => exact .inl rfl
  | onData data statusCode allocated =>
    cases herror : s.2.isError with
    | true =>
      rw [jsonStep_error herror]
      exact .inl rfl
    | false =>
      by_cases hcode : IsRedirect statusCode
      · rw [jsonStep_redirect herror hcode]
        exact .inl rfl
      · refine .inr ?_
        have hrefused : preparedBuf s data allocated = none ∨ Overflows s data := by
          unfold writeFor at h
          by_cases hfits : Overflows s data
          · exact .inr hfits
          · simp only [herror, Bool.false_eq_true, hcode, hfits, or_self, if_false] at h
            exact .inl (Option.map_eq_none_iff.mp h)
        rw [jsonStep_refused herror hcode hrefused]

end Writes

section Kept

variable {s : JsonDownload} {data : Bytes} {allocated : Bool} {statusCode : ℕ}
  {event : ClientEvent Bool}

def Short : ClientEvent Bool → Prop
  | .onData data _ _ => data.length < 2 ^ 31
  | _ => True

theorem short_of_mem {e : Exchange} (h : event ∈ e.events) : Short event := by
  have hresponse (r : HttpResponse) (statusCode : ℕ) (h : event ∈ r.events statusCode) :
      Short event := by
    rcases List.mem_append.mp h with hheader | hchunk
    · unfold HttpResponse.headers at hheader
      rcases List.mem_append.mp hheader with hconnected | hlength
      · split_ifs at hconnected
        · rw [List.mem_singleton.mp hconnected]
          trivial
        · exact absurd hconnected List.not_mem_nil
      · obtain ⟨n, -, rfl⟩ := Option.map_eq_some_iff.mp (Option.mem_toList.mp hlength)
        trivial
    · obtain ⟨c, -, rfl⟩ := List.mem_map.mp hchunk
      exact c.length_lt
  rcases List.mem_append.mp h with hredirect | hfinal
  · obtain ⟨r, -, hr⟩ := List.mem_flatMap.mp hredirect
    exact hresponse _ _ hr
  · exact hresponse _ _ hfinal

/-- The recorded size of the buffer, which is less than the bound of the allocations. -/
def Recorded (s : JsonDownload) : Prop :=
  ∀ buf, s.2.jsonBuf = some buf →
    buf.length = s.2.jsonBufSize.toNat ∧ s.2.jsonBufSize.toNat < 2 ^ 31

theorem toNat_add_ofNat {x : UInt32} {n : ℕ} (hx : x.toNat < 2 ^ 31) (hn : n < 2 ^ 31) :
    (x + UInt32.ofNat n).toNat = x.toNat + n := by
  rw [UInt32.toNat_add, UInt32.toNat_ofNat']
  omega

theorem allocationFor_data (h : s.2.isError = false) (hcode : ¬IsRedirect statusCode) :
    allocationFor s (.onData data statusCode allocated) =
      if s.2.jsonBuf = none ∨ s.1.contentLength = 0 then some (preparedSize s data, allocated)
      else none :=
  if_neg (not_or.mpr ⟨ne_true_of_eq_false h, hcode⟩)

theorem writeFor_data (h : s.2.isError = false) (hcode : ¬IsRedirect statusCode) :
    writeFor s (.onData data statusCode allocated) =
      if Overflows s data then none
      else (preparedBuf s data allocated).map (·, s.1.offset.toNat, data) := by
  unfold writeFor
  simp only [ne_true_of_eq_false h, hcode, false_or, Bool.false_eq_true]

/-- The buffer has the size that is recorded. -/
theorem length_preparedBuf {buf : Bytes} (hs : Recorded s) (h : s.2.isError = false)
    (hcode : ¬IsRedirect statusCode) (hlen : data.length < 2 ^ 31)
    (hp : Plausible s (.onData data statusCode allocated))
    (hbuf : preparedBuf s data allocated = some buf) :
    buf.length = (preparedSize s data).toNat ∧ (preparedSize s data).toNat < 2 ^ 31 := by
  have hplausible (hcase : s.2.jsonBuf = none ∨ s.1.contentLength = 0) (ha : allocated = true) :
      (preparedSize s data).toNat < 2 ^ 31 :=
    (hp _ ((allocationFor_data h hcode).trans (if_pos hcase)) ha).2
  cases hold : s.2.jsonBuf with
  | none =>
    unfold preparedBuf at hbuf
    rw [hold] at hbuf
    dsimp only at hbuf
    split_ifs at hbuf with ha
    obtain rfl := Option.some.inj hbuf
    exact ⟨List.length_replicate, hplausible (.inl hold) ha⟩
  | some old =>
    obtain ⟨hlength, hsize⟩ := hs old hold
    unfold preparedBuf at hbuf
    rw [hold] at hbuf
    dsimp only at hbuf
    by_cases hzero : s.1.contentLength = 0
    · have hprepared : (preparedSize s data).toNat = s.2.jsonBufSize.toNat + data.length := by
        unfold preparedSize
        rw [hold]
        dsimp only
        rw [if_pos hzero, toNat_add_ofNat hsize hlen]
      rw [if_pos hzero] at hbuf
      split_ifs at hbuf with ha
      obtain rfl := Option.some.inj hbuf
      refine ⟨?_, hplausible (.inr hzero) ha⟩
      rw [List.length_append, List.length_replicate]
      omega
    · have hprepared : preparedSize s data = s.2.jsonBufSize := by
        unfold preparedSize
        rw [hold]
        exact if_neg hzero
      rw [if_neg hzero] at hbuf
      obtain rfl := Option.some.inj hbuf
      rw [hprepared]
      exact ⟨hlength, hsize⟩

/-- A write that is not refused stays in the buffer. -/
theorem write_inside {n : ℕ} (hfits : ¬Overflows s data) (hlen : data.length < 2 ^ 31)
    (hsize : n = (preparedSize s data).toNat ∧ (preparedSize s data).toNat < 2 ^ 31) :
    s.1.offset.toNat + data.length + 1 ≤ n ∧
      (s.1.advance data.length).offset.toNat = s.1.offset.toNat + data.length := by
  obtain ⟨hoffset, hlast⟩ := not_or.mp hfits
  rw [UInt32.not_le, UInt32.lt_iff_toNat_lt] at hoffset hlast
  have hadd := toNat_add_ofNat (x := s.1.offset) (by omega) hlen
  exact ⟨by omega, hadd⟩

theorem recorded_step (hshort : Short event) (hs : Recorded s) (hp : Plausible s event) :
    ((∀ w, writeFor s event = some w → w.2.1 + w.2.2.length + 1 ≤ w.1.length) ∧
      (jsonStep s event).2.SizeRecorded) ∧ Recorded (jsonStep s event) := by
  have hunchanged (hwrite : writeFor s event = none) (hbuf : (jsonStep s event).2 = s.2) :
      ((∀ w, writeFor s event = some w → w.2.1 + w.2.2.length + 1 ≤ w.1.length) ∧
        (jsonStep s event).2.SizeRecorded) ∧ Recorded (jsonStep s event) := by
    unfold Recorded
    rw [hwrite, hbuf]
    exact ⟨⟨fun w hw => by simp at hw, fun buf h => (hs buf h).1⟩, hs⟩
  cases event with
  | onConnected => exact hunchanged rfl rfl
  | onContentLength n => exact hunchanged rfl rfl
  | other => exact hunchanged rfl rfl
  | onData data statusCode allocated =>
    cases herror : s.2.isError with
    | true =>
      refine hunchanged (if_pos (.inl herror)) ?_
      rw [jsonStep_error herror]
    | false =>
      by_cases hcode : IsRedirect statusCode
      · refine hunchanged (if_pos (.inr (.inl hcode))) ?_
        rw [jsonStep_redirect herror hcode]
      · by_cases hrefused : preparedBuf s data allocated = none ∨ Overflows s data
        · have hwrite : writeFor s (.onData data statusCode allocated) = none := by
            rw [writeFor_data herror hcode]
            split_ifs with hoverflow
            · rfl
            · rw [hrefused.resolve_right hoverflow]
              rfl
          rw [jsonStep_refused herror hcode hrefused, hwrite]
          exact ⟨⟨fun w hw => by simp at hw, fun buf h => by simp at h⟩,
            fun buf h => by simp at h⟩
        · obtain ⟨hbuf, hfits⟩ := not_or.mp hrefused
          obtain ⟨buf, hbuf⟩ := Option.ne_none_iff_exists'.mp hbuf
          have hlength := length_preparedBuf hs herror hcode hshort hp hbuf
          have hinside := (write_inside hfits hshort hlength).1
          have hwritten : (writeAt buf s.1.offset.toNat data).length =
              (preparedSize s data).toNat := (length_writeAt hinside).trans hlength.1
          rw [jsonStep_written herror hcode hbuf hfits]
          refine ⟨⟨fun w hw => ?_, fun buf' h => ?_⟩, fun buf' h => ?_⟩
          · rw [writeFor_data herror hcode, if_neg hfits, hbuf] at hw
            obtain rfl := Option.some.inj hw
            exact hinside
          · obtain rfl := Option.some.inj h
            exact hwritten
          · obtain rfl := Option.some.inj h
            exact ⟨hwritten, hlength.2⟩

theorem bufferKept {e : Exchange} (hmem : PlausibleMemory e) : BufferKept e := by
  have hstart : Recorded jsonStart := fun buf h => by cases h
  exact (AlongFold.of_invariant (fun s event hevent hs hp =>
    recorded_step (short_of_mem hevent) hs hp) hstart hmem).1

end Kept

section Redirections

variable {s : JsonDownload}

theorem advance_advance (c : HttpDownloadCbInfo) (m n : ℕ) :
    (c.advance m).advance n = c.advance (m + n) := by
  unfold HttpDownloadCbInfo.advance
  rw [UInt32.ofNat_add, UInt32.add_assoc]

theorem foldl_headers (r : HttpResponse) (s : JsonDownload) :
    r.headers.foldl jsonStep s = (r.afterHeaders s.1, s.2) := by
  unfold HttpResponse.headers HttpResponse.afterHeaders
  cases r.reopened with
  | false => cases r.contentLength <;> rfl
  | true => cases r.contentLength <;> rfl

/-- The chunks of a redirection move the offset only. -/
theorem foldl_redirectChunks {statusCode : ℕ} (hcode : IsRedirect statusCode)
    (chunks : List Chunk) (hs : s.2.isError = false) :
    (chunks.map fun c => ClientEvent.onData c.data statusCode c.allocated).foldl jsonStep s =
      (s.1.advance (chunks.map Chunk.data).flatten.length, s.2) := by
  induction chunks generalizing s with
  | nil =>
    have hzero : s.1.advance 0 = s.1 := by
      unfold HttpDownloadCbInfo.advance
      rw [show UInt32.ofNat 0 = 0 from rfl, UInt32.add_zero]
    exact Prod.ext hzero.symm rfl
  | cons c chunks ih =>
    rw [List.map_cons, List.foldl_cons, jsonStep_redirect hs hcode,
      ih (s := (s.1.advance c.data.length, s.2)) hs, List.map_cons, List.flatten_cons,
      List.length_append, advance_advance]

theorem foldl_redirects (redirects : List Redirect) (hs : s.2.isError = false) :
    (redirects.flatMap fun r => r.events r.statusCode).foldl jsonStep s =
      (redirects.foldl (fun c r =>
        { r.afterHeaders c with
          offset := (r.afterHeaders c).offset + UInt32.ofNat r.body.length }) s.1, s.2) := by
  induction redirects generalizing s with
  | nil => rfl
  | cons r redirects ih =>
    rw [List.flatMap_cons, List.foldl_append, HttpResponse.events, List.foldl_append, foldl_headers,
      foldl_redirectChunks (s := (r.afterHeaders s.1, s.2)) r.redirects _ hs]
    exact ih (s := ((r.afterHeaders s.1).advance r.body.length, s.2)) hs

/-- Before its first chunk the final response has a fresh download with the offset and the content
length that its headers leave. -/
theorem foldl_beforeFinal (e : Exchange) :
    ((e.redirects.flatMap fun r => r.events r.statusCode) ++ e.final.headers).foldl jsonStep
      jsonStart = (e.final.afterHeaders e.leftOver, jsonStart.2) := by
  rw [List.foldl_append, foldl_redirects _ rfl, foldl_headers]
  rfl

end Redirections

section Final

/-- What the final chunks make of a fresh download with content length `cl` and offset `k`, when
they have brought `t`. A download is refused for a reason that does not go away. -/
inductive JsonState (cl k : UInt32) (t : Bytes) : JsonDownload → Prop
  | waiting (hnil : t = []) : JsonState cl k t (⟨cl, k⟩, jsonStart.2)
  | stored {offset size : UInt32}
      (hoffset : offset.toNat = k.toNat + t.length)
      (hfits : offset.toNat < size.toNat) (hsize : size.toNat < 2 ^ 31)
      (hunknown : cl = 0 → k = 0 ∧ size.toNat = t.length + 1)
      (hknown : cl ≠ 0 → size.toNat = cl.toNat + 1) :
      JsonState cl k t (⟨cl, offset⟩, ⟨false, 200, some (List.replicate k.toNat 0 ++ t ++
        List.replicate (size.toNat - offset.toNat) 0), size⟩)
  | refused {s : JsonDownload} (herror : s.2.isError = true)
      (hwhy : k = 0 → cl ≠ 0 ∧ cl.toNat < t.length) : JsonState cl k t s

variable {cl k : UInt32} {t data : Bytes} {allocated : Bool} {s : JsonDownload}

/-- An allocation for the event succeeds with memory that can be had. -/
def Allocates (s : JsonDownload) (event : ClientEvent Bool) : Prop :=
  ∀ a, allocationFor s event = some a → a.2 = true ∧ 0 < a.1.toNat ∧ a.1.toNat < 2 ^ 31

theorem writeAt_zeros {buf : Bytes} {n : ℕ} (hn : data.length < n) :
    writeAt (buf ++ List.replicate n 0) buf.length data =
      buf ++ data ++ List.replicate (n - data.length) 0 := by
  obtain ⟨m, rfl⟩ := Nat.exists_eq_add_of_lt hn
  have hdrop : (buf ++ List.replicate (data.length + m + 1) (0 : UInt8)).drop
      (buf.length + data.length + 1) = List.replicate m 0 := by
    rw [Nat.add_assoc, List.drop_append, List.drop_eq_nil_of_le (by omega), List.nil_append,
      List.drop_replicate]
    congr 1
    omega
  unfold writeAt
  rw [List.take_left, hdrop, show data.length + m + 1 - data.length = m + 1 by omega,
    List.replicate_succ]

/-- A chunk in a buffer that has what came before. -/
theorem JsonState.step_prepared (herror : s.2.isError = false) (hlength : s.1.contentLength = cl)
    (hoffset : s.1.offset.toNat = k.toNat + t.length)
    (hbound : k = 0 → s.1.offset.toNat < 2 ^ 31) (hlen : data.length < 2 ^ 31)
    (hsize : (preparedSize s data).toNat < 2 ^ 31)
    (hbuf : s.1.offset.toNat < (preparedSize s data).toNat → preparedBuf s data allocated =
      some (List.replicate k.toNat 0 ++ t ++
        List.replicate ((preparedSize s data).toNat - s.1.offset.toNat) 0))
    (hunknown : cl = 0 → (preparedSize s data).toNat = t.length + data.length + 1)
    (hknown : cl ≠ 0 → (preparedSize s data).toNat = cl.toNat + 1) :
    JsonState cl k (t ++ data) (jsonStep s (.onData data 200 allocated)) := by
  have hcode : ¬IsRedirect 200 := by decide
  by_cases hfits : Overflows s data
  · rw [jsonStep_refused herror hcode (.inr hfits)]
    refine .refused rfl fun hzero => ?_
    have hk : k.toNat = 0 := by rw [hzero]; rfl
    have hadd := toNat_add_ofNat (hbound hzero) hlen
    have hle : (preparedSize s data).toNat ≤ t.length + data.length := by
      rcases hfits with hle | hle
      · rw [UInt32.le_iff_toNat_le] at hle
        omega
      · rw [UInt32.le_iff_toNat_le, hadd] at hle
        omega
    have hcl : cl ≠ 0 := fun h => by
      have := hunknown h
      omega
    refine ⟨hcl, ?_⟩
    have := hknown hcl
    rw [List.length_append]
    omega
  · obtain ⟨hinside, hadvance⟩ := write_inside hfits hlen ⟨rfl, hsize⟩
    have hlt : s.1.offset.toNat < (preparedSize s data).toNat := by omega
    have hprefix : (List.replicate k.toNat (0 : UInt8) ++ t).length = s.1.offset.toNat := by
      rw [List.length_append, List.length_replicate, hoffset]
    have hwritten : writeAt (List.replicate k.toNat 0 ++ t ++
          List.replicate ((preparedSize s data).toNat - s.1.offset.toNat) 0) s.1.offset.toNat data =
        List.replicate k.toNat 0 ++ (t ++ data) ++ List.replicate
          ((preparedSize s data).toNat - (s.1.advance data.length).offset.toNat) 0 := by
      rw [← hprefix, writeAt_zeros (by omega), hprefix, hadvance, List.append_assoc _ t data]
      congr 2
      omega
    rw [jsonStep_written herror hcode (hbuf hlt) hfits, hwritten]
    have hcb : s.1.advance data.length = ⟨cl, (s.1.advance data.length).offset⟩ := by
      rw [← hlength]
      rfl
    rw [hcb]
    refine .stored ?_ ?_ hsize ?_ ?_
    · rw [hadvance, List.length_append]
      omega
    · omega
    · intro h
      have := hunknown h
      refine ⟨UInt32.toNat_inj.mp ?_, ?_⟩
      · show k.toNat = 0
        omega
      · rw [List.length_append]
        omega
    · exact hknown

theorem JsonState.step (h : JsonState cl k t s) (hlen : data.length < 2 ^ 31)
    (ha : Allocates s (.onData data 200 allocated)) :
    JsonState cl k (t ++ data) (jsonStep s (.onData data 200 allocated)) := by
  cases h with
  | waiting hnil =>
    subst hnil
    obtain ⟨hallocated, hpos, hsize⟩ := ha _ rfl
    have hprepared : preparedSize (⟨cl, k⟩, jsonStart.2) data =
        if cl = 0 then UInt32.ofNat data.length + 1 else cl + 1 := rfl
    refine .step_prepared rfl rfl rfl ?_ hlen hsize ?_ ?_ ?_
    · intro hzero
      show k.toNat < 2 ^ 31
      rw [hzero]
      decide
    · intro hlt
      have hk : k.toNat ≤ (preparedSize (⟨cl, k⟩, jsonStart.2) data).toNat := hlt.le
      refine (if_pos hallocated).trans (congrArg some ?_)
      rw [List.append_nil, List.replicate_append_replicate, Nat.add_sub_cancel' hk]
    · intro hzero
      rw [hprepared, if_pos hzero, UInt32.add_comm, toNat_add_ofNat (by decide) hlen]
      exact (Nat.add_comm 1 _).trans (Nat.zero_add _ ▸ rfl)
    · intro hne
      rw [hprepared, if_neg hne, UInt32.toNat_add] at hpos ⊢
      have hone : (1 : UInt32).toNat = 1 := rfl
      have hcl := cl.toNat_lt
      omega
  | @stored offset size hoffset hfits hsize hunknown hknown =>
    by_cases hzero : cl = 0
    · obtain ⟨hallocated, -, hsize'⟩ := ha _ (if_pos (.inr hzero))
      obtain ⟨hk, hlast⟩ := hunknown hzero
      have hsum : (size + UInt32.ofNat data.length).toNat = size.toNat + data.length :=
        toNat_add_ofNat hsize hlen
      have hprepared : preparedSize (⟨cl, offset⟩,
          ⟨false, 200, some (List.replicate k.toNat 0 ++ t ++
          List.replicate (size.toNat - offset.toNat) 0), size⟩) data =
          size + UInt32.ofNat data.length := if_pos hzero
      have hlength : (List.replicate k.toNat (0 : UInt8) ++ t ++
          List.replicate (size.toNat - offset.toNat) 0).length = size.toNat := by
        rw [List.length_append, List.length_append, List.length_replicate, List.length_replicate]
        omega
      refine .step_prepared rfl rfl hoffset (fun _ => hfits.trans hsize) hlen hsize' ?_ ?_ ?_
      · intro _
        refine (if_pos hzero).trans ((if_pos hallocated).trans (congrArg some ?_))
        rw [hlength, hprepared, List.append_assoc, List.replicate_append_replicate]
        congr 2
        show size.toNat - offset.toNat + ((size + UInt32.ofNat data.length).toNat - size.toNat) =
          (size + UInt32.ofNat data.length).toNat - offset.toNat
        omega
      · intro _
        rw [hprepared, hsum, hlast]
        omega
      · exact fun h => absurd hzero h
    · have hprepared : preparedSize (⟨cl, offset⟩,
          ⟨false, 200, some (List.replicate k.toNat 0 ++ t ++
          List.replicate (size.toNat - offset.toNat) 0), size⟩) data = size := if_neg hzero
      refine .step_prepared rfl rfl hoffset (fun _ => hfits.trans hsize) hlen ?_ ?_ ?_ ?_
      · rw [hprepared]
        exact hsize
      · rw [hprepared]
        exact fun _ => if_neg hzero
      · exact fun h => absurd h hzero
      · rw [hprepared]
        exact hknown
  | refused herror hwhy =>
    rw [jsonStep_error herror]
    refine .refused herror fun hzero => ⟨(hwhy hzero).1, ?_⟩
    rw [List.length_append]
    exact Nat.lt_add_right _ (hwhy hzero).2

theorem JsonState.run (chunks : List Chunk) (h : JsonState cl k t s)
    (ha : AlongFold jsonStep Allocates s
      (chunks.map fun c => .onData c.data 200 c.allocated)) :
    JsonState cl k (t ++ (chunks.map Chunk.data).flatten)
      ((chunks.map fun c => ClientEvent.onData c.data 200 c.allocated).foldl jsonStep s) := by
  induction chunks generalizing s t with
  | nil =>
    rw [List.map_nil, List.flatten_nil, List.append_nil]
    exact h
  | cons c chunks ih =>
    rw [List.map_cons, List.flatten_cons, ← List.append_assoc]
    exact ih (h.step c.length_lt ha.1) ha.2

theorem jsonState_final {e : Exchange} (hmem : PlausibleMemory e) (hallocs : AllocationsSucceed e)
    (hcode : e.statusCode = 200) :
    JsonState (e.final.afterHeaders e.leftOver).contentLength
      (e.final.afterHeaders e.leftOver).offset e.final.body
      (e.events.foldl jsonStep jsonStart) := by
  have hall : AlongFold jsonStep Allocates jsonStart e.events :=
    AlongFold.map₂ (fun s event hp hs a ha => ⟨hs a ha, hp a ha (hs a ha)⟩) hmem hallocs
  rw [Exchange.events_eq, hcode, AlongFold.append_iff, foldl_beforeFinal] at hall
  rw [Exchange.events_eq, hcode, List.foldl_append, foldl_beforeFinal]
  exact JsonState.run _ (.waiting rfl) hall.2

/-- The body is there exactly if it was written from the start into a buffer of its size. -/
theorem JsonState.holds_iff (h : JsonState cl k t s) (ht : t ≠ []) :
    s.2.Holds t ↔ k = 0 ∧ (cl = 0 ∨ cl.toNat = t.length) := by
  cases h with
  | waiting hnil => exact absurd hnil ht
  | @stored offset size hoffset hfits hsize hunknown hknown =>
    constructor
    · rintro ⟨-, -, hlast⟩
      change size.toNat = t.length + 1 at hlast
      refine ⟨UInt32.toNat_inj.mp (show k.toNat = 0 by omega), ?_⟩
      refine or_iff_not_imp_left.mpr fun hcl => ?_
      have := hknown hcl
      omega
    · rintro ⟨rfl, hcl⟩
      have hzero : (0 : UInt32).toNat = 0 := rfl
      have hlast : size.toNat = t.length + 1 := by
        by_cases h : cl = 0
        · exact (hunknown h).2
        · rw [hknown h, hcl.resolve_left h]
      refine ⟨rfl, ?_, hlast⟩
      rw [hlast, hoffset, hzero, Nat.zero_add, Nat.add_sub_cancel_left]
      rfl
  | refused herror hwhy =>
    refine iff_of_false (fun h => ?_) ?_
    · exact absurd (herror.symm.trans h.ok) (by decide)
    · rintro ⟨hk, hcl⟩
      obtain ⟨hne, hlt⟩ := hwhy hk
      rw [hcl.resolve_left hne] at hlt
      exact Nat.lt_irrefl _ hlt

theorem afterHeaders_iff (e : Exchange) (ht : ∀ n, e.final.contentLength = some n →
      n.toNat = e.final.body.length) :
    ((e.final.afterHeaders e.leftOver).offset = 0 ∧
      ((e.final.afterHeaders e.leftOver).contentLength = 0 ∨
        (e.final.afterHeaders e.leftOver).contentLength.toNat = e.final.body.length)) ↔
      Clean e := by
  unfold HttpResponse.afterHeaders Clean
  cases hlength : e.final.contentLength with
  | none => cases e.final.reopened <;> simp
  | some n => simp [ht n hlength]

end Final

section Result

variable {p : HttpDownloadParamWithAuth} {o : DownloadOutcome Bool} {copyAllocated : Bool}
  {info : HttpServerDownloadInfo}

theorem isError_replaceCode : info.replaceCode.isError = info.isError := by
  unfold HttpServerDownloadInfo.replaceCode
  split_ifs <;> rfl

theorem isError_ofResp {resp : HttpServerResp}
    (h : resp.httpRespCode ≠ 200 ∨ info.isError = true ∨ info.httpRespCode ≠ 200 ∨
      info.jsonBuf = none) :
    (info.ofResp resp copyAllocated).replaceCode.isError = true := by
  rw [isError_replaceCode]
  unfold HttpServerDownloadInfo.ofResp
  by_cases hresp : resp.httpRespCode ≠ 200
  · rw [if_pos hresp]
  · rw [if_neg hresp]
    by_cases hcode : info.httpRespCode ≠ 200
    · rw [if_pos hcode]
    · rw [if_neg hcode]
      by_cases hbuf : info.jsonBuf = none
      · rw [if_pos hbuf]
      · rw [if_neg hbuf]
        exact ((h.resolve_left hresp).resolve_right (not_or.mpr ⟨hcode, hbuf⟩))

/-- A download that is started ends with what the response says about what the callback has left. -/
theorem httpDownloadJson_cases
    (h : (httpDownloadJson p o copyAllocated).result = some info) :
    ¬Started p o ∧ info.isError = true ∨
      Started p o ∧ info = ((o.performed.events.foldl jsonStep jsonStart).2.ofResp
        (httpDownloadByHandle o.performed) copyAllocated).replaceCode := by
  have hrefused {code : ℕ} (hcode : code ≠ 200) (h : (HttpServerDownloadInfo.ofResp
      (httpServerResp code) copyAllocated jsonStart.2).replaceCode = info) :
      info.isError = true := by
    rw [← h]
    exact isError_ofResp (.inl hcode)
  unfold httpDownloadJson httpDownloadWithAuth httpDownloadOrCheck at h
  unfold Started
  split_ifs at h with hurl hauth hnet hcb hcfg hinit
  all_goals simp only [result_bind, result_pure, suspendRelaying, resumeRelaying, result_acquire,
    result_release, Option.bind_some, Option.some.injEq] at h
  · exact .inl ⟨fun hs => by simp_all, hrefused (by decide) h⟩
  · exact .inl ⟨fun hs => by simp_all, hrefused (by decide) h⟩
  · exact .inl ⟨fun hs => by simp_all, hrefused (by decide) h⟩
  · exact .inl ⟨fun hs => by simp_all, hrefused (by decide) h⟩
  · exact .inl ⟨fun hs => by simp_all, hrefused (by decide) h⟩
  · exact .inl ⟨fun hs => by simp_all, hrefused (by decide) h⟩
  · exact .inr ⟨by simp_all, h.symm⟩

variable {e : Exchange}

theorem isError_stays {s : JsonDownload} {event : ClientEvent Bool} (h : s.2.isError = true) :
    (jsonStep s event).2.isError = true := by
  cases event with
  | onConnected => exact h
  | onContentLength n => exact h
  | other => exact h
  | onData data statusCode allocated =>
    rw [jsonStep_error h]
    exact h

/-- An allocation that fails is an error. -/
theorem isError_of_allocation {s : JsonDownload} {event : ClientEvent Bool}
    (h : ¬∀ a, allocationFor s event = some a → a.2 = true) :
    (jsonStep s event).2.isError = true := by
  push Not at h
  obtain ⟨a, ha, hfalse⟩ := h
  cases event with
  | onConnected => cases ha
  | onContentLength n => cases ha
  | other => cases ha
  | onData data statusCode allocated =>
    have hcases : ¬(s.2.isError = true ∨ IsRedirect statusCode) := by
      intro hcases
      cases (if_pos hcases).symm.trans ha
    obtain ⟨herror, hcode⟩ := not_or.mp hcases
    have herror' : s.2.isError = false := eq_false_of_ne_true herror
    rw [allocationFor_data herror' hcode] at ha
    split_ifs at ha with hneeded
    obtain rfl := Option.some.inj ha
    have hrefused : preparedBuf s data allocated = none := by
      obtain rfl : allocated = false := eq_false_of_ne_true hfalse
      unfold preparedBuf
      cases hbuf : s.2.jsonBuf with
      | none => rfl
      | some buf =>
        have hzero := hneeded.resolve_left (by rw [hbuf]; exact Option.some_ne_none _)
        exact if_pos hzero
    rw [jsonStep_refused herror' hcode (.inl hrefused)]

theorem isError_of_not_allocationsSucceed (h : ¬AllocationsSucceed e) :
    (e.events.foldl jsonStep jsonStart).2.isError = true :=
  foldl_of_not_alongFold (J := fun s => s.2.isError = true) (fun _ _ => isError_of_allocation)
    (fun _ _ => isError_stays) h

theorem statusCode_of_mem {data : Bytes} {statusCode : ℕ} {allocated : Bool}
    (h : .onData data statusCode allocated ∈ e.events) :
    IsRedirect statusCode ∨ statusCode = e.statusCode := by
  have hresponse {r : HttpResponse} {code : ℕ} (h : .onData data statusCode allocated ∈
      r.events code) : statusCode = code := by
    rcases List.mem_append.mp h with hheader | hchunk
    · unfold HttpResponse.headers at hheader
      cases hreopened : r.reopened <;> cases hlength : r.contentLength <;>
        simp [hreopened, hlength] at hheader
    · obtain ⟨c, -, hc⟩ := List.mem_map.mp hchunk
      cases hc
      rfl
  rcases List.mem_append.mp h with hredirect | hfinal
  · obtain ⟨r, -, hr⟩ := List.mem_flatMap.mp hredirect
    rw [hresponse hr]
    exact .inl r.redirects
  · exact .inr (hresponse hfinal)

/-- A buffer that is there belongs to the final response. -/
theorem httpRespCode_of_jsonBuf (h : (e.events.foldl jsonStep jsonStart).2.jsonBuf ≠ none) :
    (e.events.foldl jsonStep jsonStart).2.httpRespCode = e.statusCode := by
  refine foldl_keeps
    (I := fun (s : JsonDownload) => s.2.jsonBuf ≠ none → s.2.httpRespCode = e.statusCode)
    (fun s event hevent hs => ?_) (fun h => absurd rfl h) h
  cases event with
  | onConnected => exact hs
  | onContentLength n => exact hs
  | other => exact hs
  | onData data statusCode allocated =>
    cases herror : s.2.isError with
    | true =>
      rw [jsonStep_error herror]
      exact hs
    | false =>
      by_cases hcode : IsRedirect statusCode
      · rw [jsonStep_redirect herror hcode]
        exact hs
      · by_cases hrefused : preparedBuf s data allocated = none ∨ Overflows s data
        · rw [jsonStep_refused herror hcode hrefused]
          exact fun h => absurd rfl h
        · obtain ⟨hbuf, hfits⟩ := not_or.mp hrefused
          obtain ⟨buf, hbuf⟩ := Option.ne_none_iff_exists'.mp hbuf
          rw [jsonStep_written herror hcode hbuf hfits]
          exact fun _ => (statusCode_of_mem hevent).resolve_left hcode

/-- A status code other than 200 and a failure are errors. -/
theorem isError_of_failure (hperf : Performs e o)
    (hinfo : (httpDownloadJson p o copyAllocated).result = some info)
    (h : e.statusCode ≠ 200 ∨ ¬Started p o ∨ ¬AllocationsSucceed e) :
    info.isError = true ∧ info.httpRespCode ≠ 200 := by
  have herror : info.isError = true := by
    rcases httpDownloadJson_cases hinfo with ⟨-, herror⟩ | ⟨hstarted, rfl⟩
    · exact herror
    · rw [hperf.events]
      apply isError_ofResp
      rcases h with hcode | hrefused | hfailed
      · by_cases hbuf : (e.events.foldl jsonStep jsonStart).2.jsonBuf = none
        · exact .inr (.inr (.inr hbuf))
        · rw [httpRespCode_of_jsonBuf hbuf]
          exact .inr (.inr (.inl hcode))
      · exact absurd hstarted hrefused
      · exact .inr (.inl (isError_of_not_allocationsSucceed hfailed))
  exact ⟨herror, (consistent_httpDownloadJson hinfo).error herror⟩

/-- A document is delivered as it is exactly if nothing is left of the redirections. -/
theorem holds_iff_clean (hperf : Performs e o) (hmem : PlausibleMemory e)
    (hinfo : (httpDownloadJson p o copyAllocated).result = some info) (h : Delivers e p o) :
    info.Holds e.final.body ↔ Clean e := by
  have hfinal := jsonState_final hmem h.allocations h.statusCode
  rw [← afterHeaders_iff e h.agrees, ← hfinal.holds_iff h.body]
  obtain ⟨-, rfl⟩ := (httpDownloadJson_cases hinfo).resolve_left fun hrefused =>
    hrefused.1 h.started
  rw [hperf.events]
  have hcode := hperf.code
  rw [h.statusCode] at hcode
  generalize e.events.foldl jsonStep jsonStart = s at hfinal hcode ⊢
  cases hfinal with
  | waiting hnil => exact absurd hnil h.body
  | stored hoffset hfits hsize hunknown hknown =>
    have hresp : (httpDownloadByHandle o.performed).httpRespCode = 200 := by
      rcases hcode with hcode | hcode | herror
      · exact hcode
      · exact hcode.2.2
      · cases herror
    unfold HttpServerDownloadInfo.ofResp
    rw [if_neg (not_not.mpr hresp), if_neg (by simp), if_neg (by simp)]
    unfold HttpServerDownloadInfo.replaceCode
    rw [if_neg (by simp)]
  | refused herror hwhy =>
    refine iff_of_false (fun hholds => ?_) fun hholds => ?_
    · cases (isError_ofResp (.inr (.inl herror))).symm.trans hholds.ok
    · cases herror.symm.trans hholds.ok

/-- Whatever the exchange, the buffer is kept and failures are errors. A document that is there is
delivered as it is if and only if the final response has a content length or nothing that matters is
left of the redirections. -/
theorem httpDownloadJson_right_iff (e : Exchange) (p : HttpDownloadParamWithAuth)
    (o : DownloadOutcome Bool) (copyAllocated : Bool) (info : HttpServerDownloadInfo)
    (hperf : Performs e o) (hmem : PlausibleMemory e)
    (hinfo : (httpDownloadJson p o copyAllocated).result = some info) :
    (BufferKept e ∧ (Delivers e p o → info.Holds e.final.body) ∧
      (e.statusCode ≠ 200 ∨ ¬Started p o ∨ ¬AllocationsSucceed e →
        info.isError = true ∧ info.httpRespCode ≠ 200)) ↔
    (Delivers e p o → Clean e) := by
  constructor
  · exact fun h hdelivers => (holds_iff_clean hperf hmem hinfo hdelivers).mp (h.2.1 hdelivers)
  · intro h
    refine ⟨bufferKept hmem, fun hdelivers => ?_, isError_of_failure hperf hinfo⟩
    exact (holds_iff_clean hperf hmem hinfo hdelivers).mpr (h hdelivers)

end Result

section Sample

def sampleChunk (s : String) (h : (ascii s).length < 2 ^ 31) : Chunk := ⟨ascii s, true, h⟩

/-- A redirection with a content length. -/
def sampleRedirect : Redirect where
  reopened := true
  contentLength := some 5
  chunks := [sampleChunk "Moved" (by decide)]
  statusCode := 302
  redirects := .inr rfl

/-- The document over the connection that is kept. -/
def sampleExchange (contentLength : Option UInt32) : Exchange where
  redirects := [sampleRedirect]
  final := ⟨false, contentLength, [sampleChunk "\x7b" (by decide), sampleChunk "\x7d" (by decide)]⟩
  statusCode := 200

def sampleDownload : HttpDownloadParamWithAuth :=
  ⟨ascii "http://gw.ruuvi.com/", .none, false, false⟩

def sampleDownloadOutcome (contentLength : Option UInt32) : DownloadOutcome Bool where
  networkConnected := true
  cbInfoAllocated := true
  configAllocated := true
  clientCreated := true
  authAllocated := true
  extraHeaderSet := true
  performed := .waited (sampleExchange contentLength).events ⟨200, some (ascii "\x7b\x7d")⟩

theorem performs_sample (contentLength : Option UInt32) :
    Performs (sampleExchange contentLength) (sampleDownloadOutcome contentLength) := ⟨rfl, .inl rfl⟩

/-- A final response with a content length. -/
theorem httpDownloadJson_right_sample :
    BufferKept (sampleExchange (some 2)) ∧
      (Delivers (sampleExchange (some 2)) sampleDownload (sampleDownloadOutcome (some 2)) →
        HttpServerDownloadInfo.Holds ⟨false, 200, some (ascii "\x7b\x7d" ++ [0]), 3⟩
          (sampleExchange (some 2)).final.body) ∧
      ((sampleExchange (some 2)).statusCode ≠ 200 ∨
          ¬Started sampleDownload (sampleDownloadOutcome (some 2)) ∨
          ¬AllocationsSucceed (sampleExchange (some 2)) →
        HttpServerDownloadInfo.isError ⟨false, 200, some (ascii "\x7b\x7d" ++ [0]), 3⟩ = true ∧
          HttpServerDownloadInfo.httpRespCode ⟨false, 200, some (ascii "\x7b\x7d" ++ [0]), 3⟩ ≠
            200) :=
  (httpDownloadJson_right_iff (sampleExchange (some 2)) sampleDownload
    (sampleDownloadOutcome (some 2)) false _ (performs_sample _) (by decide +kernel)
    (by decide +kernel)).mpr fun _ => .inl rfl

/-- Without a content length the chunks are written behind the text of the redirection, and do not
fit. -/
theorem httpDownloadJson_not_right :
    ¬∀ info, (httpDownloadJson sampleDownload (sampleDownloadOutcome none) false).result =
        some info →
      Delivers (sampleExchange none) sampleDownload (sampleDownloadOutcome none) →
      info.Holds (sampleExchange none).final.body := by
  have hresult : (httpDownloadJson sampleDownload (sampleDownloadOutcome none) false).result =
      some ⟨true, 400, none, 6⟩ := by
    decide +kernel
  have hdelivers : Delivers (sampleExchange none) sampleDownload (sampleDownloadOutcome none) := by
    refine ⟨?_, rfl, by decide, (fun n hn => by cases hn), by decide +kernel⟩
    exact ⟨by decide +kernel, fun h => absurd rfl h, rfl, rfl, rfl, rfl⟩
  intro h
  exact absurd (h _ hresult hdelivers).ok (by decide)

end Sample

end RuuviGateway.Http
