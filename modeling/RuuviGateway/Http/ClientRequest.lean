import RuuviGateway.General.ByteSink
import RuuviGateway.General.Transition
import RuuviGateway.Http.HeaderList

/-!
# How a request gets onto the wire

The client sends a request in non-blocking mode: each call goes on where the one before stopped,
and the transport may take any part of what it is given. The body is one text, or it comes in
chunks from a callback that is asked for the next one when the last one has been sent.
-/

namespace RuuviGateway.Http

open General

namespace Client

section Transport

/-- What `esp_transport_write` works on; `errno` is `EAGAIN` where a later attempt may succeed. -/
abbrev Transport := Sink

def espTransportWrite (t : Transport) (data : Bytes) : Option ℕ × Transport := t.write data

/-- `esp_http_client_write` in non-blocking mode. -/
def espHttpClientWrite (t : Transport) (data : Bytes) : Option ℕ × Transport :=
  if data = [] then (some 0, t) else espTransportWrite t data

end Transport

section Request

/-- One text, or the size of all chunks with what `cb_on_post_get_chunk` returns at each call. -/
inductive Body
  | field (data : Bytes)
  | stream (len : ℕ) (getChunk : ℕ → Option Bytes)

def Body.postLen : Body → ℕ
  | .field data => data.length
  | .stream len _ => len

def Body.postData : Body → Option Bytes
  | .field data => some data
  | .stream _ _ => none

/-- A request as it is set up, with the answer of the authentication that its user and password
give. -/
structure Request where
  method : Bytes
  path : Bytes
  query : Option Bytes
  headers : List Header
  authResponse : Option Bytes
  bufferSizeTx : ℕ
  body : Body

/-- `esp_http_state_t` up to the end of the request. -/
inductive HttpState
  | init
  | connecting
  | connected
  | reqCompleteHeader
  | reqCompleteData
  deriving DecidableEq, Repr

/-- `esp_http_client`, with the text in the transmit buffer and the number of calls of the
callback. -/
structure EspHttpClient where
  request : Request
  state : HttpState
  headers : List Header
  buffer : Bytes
  firstLinePrepared : Bool
  headerIndex : ℕ
  dataWrittenIndex : ℕ
  dataWriteLeft : ℕ
  postData : Option Bytes
  postLen : ℕ
  numCalls : ℕ
  transport : Transport

def espHttpClientInit (request : Request) : EspHttpClient where
  request := request
  state := .init
  headers := request.headers
  buffer := []
  firstLinePrepared := false
  headerIndex := 0
  dataWrittenIndex := 0
  dataWriteLeft := 0
  postData := request.body.postData
  postLen := request.body.postLen
  numCalls := 0
  transport := ⟨[], [], false⟩

variable (c : EspHttpClient)

def espHttpClientPrepare : EspHttpClient :=
  { c with
    firstLinePrepared := false
    headers := match c.request.authResponse with
      | none => c.headers
      | some authResponse => httpHeaderSet c.headers (ascii "Authorization") (some authResponse) }

def contentLengthKey : Bytes := ascii "Content-Length"

def setContentLength (headers : List Header) (writeLen : ℕ) : List Header :=
  httpHeaderSet headers contentLengthKey (some (ascii (toString writeLen)))

def Request.firstLine (request : Request) : Bytes :=
  request.method ++ ascii " " ++ request.path ++
    (request.query.elim [] fun query => ascii "?" ++ query) ++ ascii " HTTP/1.1\r\n"

/-- The buffer also takes the NUL of the first line. -/
def httpClientPrepareFirstLine : Option Bytes :=
  if c.request.firstLine.length < c.request.bufferSizeTx then some c.request.firstLine else none

end Request

section Sending

variable (c : EspHttpClient)

/-- What is left of the buffer from an earlier call. -/
def sendLeftover : Bool × EspHttpClient :=
  if c.dataWriteLeft = 0 then (true, c)
  else
    match espHttpClientWrite c.transport
        ((c.buffer.drop c.dataWrittenIndex).take c.dataWriteLeft) with
    | (none, t) => (false, { c with transport := t })
    | (some wret, t) =>
        (decide (c.dataWriteLeft - wret = 0),
          { c with
            transport := t
            dataWriteLeft := c.dataWriteLeft - wret
            dataWrittenIndex := c.dataWrittenIndex + wret })

/-- One write of a text that has just been put into the buffer. An error other than `EAGAIN` closes
the connection. -/
def writeBuffer (text : Bytes) : Bool × EspHttpClient :=
  let c := { c with buffer := text, dataWriteLeft := text.length, dataWrittenIndex := 0 }
  match espTransportWrite c.transport text with
  | (none, t) =>
      (false, { c with transport := t, state := if t.again then c.state else .init })
  | (some wret, t) =>
      (decide (text.length - wret = 0),
        { c with
          transport := t
          dataWriteLeft := text.length - wret
          dataWrittenIndex := wret })

/-- The rounds in which the headers are written, the first one behind the first line. -/
def sendHeaders : ℕ → EspHttpClient → Bytes → Bool × EspHttpClient
  | 0, c, _ => (false, c)
  | rounds + 1, c, firstLine =>
      let (index, text) := httpHeaderGenerateString c.headers c.headerIndex
        (c.request.bufferSizeTx - firstLine.length)
      let c := { c with headerIndex := index }
      if index = 0 ∨ text = [] then (true, c)
      else
        match writeBuffer c (firstLine ++ text) with
        | (false, c) => (false, c)
        | (true, c) => sendHeaders rounds c []

/-- `esp_http_client_request_send` behind the first line. -/
def sendPrepared (firstLine : Bytes) : Bool × EspHttpClient :=
  match sendLeftover c with
  | (false, c) => (false, c)
  | (true, c) =>
      match sendHeaders (c.headers.length + 1) c firstLine with
      | (false, c) => (false, c)
      | (true, c) =>
          (true, { c with
            dataWrittenIndex := 0
            dataWriteLeft := c.postLen
            state := .reqCompleteHeader })

def espHttpClientRequestSend (writeLen : ℕ) : Bool × EspHttpClient :=
  if c.firstLinePrepared then sendPrepared c []
  else
    let c := { c with headers := setContentLength c.headers writeLen }
    match httpClientPrepareFirstLine c with
    | none => (false, c)
    | some firstLine =>
        sendPrepared { c with
          firstLinePrepared := true
          headerIndex := 0
          dataWrittenIndex := 0
          dataWriteLeft := 0 } firstLine

/-- The callback gives the next chunk, and `errno` tells the caller to come again. -/
def postNextChunk : Bool × EspHttpClient :=
  match c.request.body with
  | .field _ => (true, { c with state := .reqCompleteData })
  | .stream _ getChunk =>
      let chunk := getChunk c.numCalls
      let c := { c with numCalls := c.numCalls + 1 }
      match chunk with
      | none => (false, c)
      | some [] => (true, { c with state := .reqCompleteData })
      | some data =>
          (false, { c with
            postData := some data
            postLen := data.length
            dataWriteLeft := data.length
            dataWrittenIndex := 0
            transport := { c.transport with again := true } })

/-- A write of what is left of the text or of the chunk. -/
def writePostData : Bool × EspHttpClient :=
  match c.postData with
  | none => (true, { c with dataWriteLeft := 0 })
  | some data =>
      match espHttpClientWrite c.transport
          ((data.drop c.dataWrittenIndex).take c.dataWriteLeft) with
      | (none, t) => (false, { c with transport := t })
      | (some wret, t) =>
          (decide (c.dataWriteLeft - wret = 0),
            { c with
              transport := t
              dataWriteLeft := c.dataWriteLeft - wret
              dataWrittenIndex := c.dataWrittenIndex + wret })

def espHttpClientSendPostData : Bool × EspHttpClient :=
  if c.postLen = 0 then (true, { c with state := .reqCompleteData })
  else
    match writePostData c with
    | (false, c) => (false, c)
    | (true, c) => postNextChunk c

/-- The result of `esp_http_client_perform`; the response is waited for once all is sent. -/
inductive Performed
  | eagain
  | failed
  | sent
  deriving DecidableEq, Repr

/-- The states fall through as long as nothing has to be waited for. -/
def performed (next : EspHttpClient → Performed × EspHttpClient) :
    Bool × EspHttpClient → Performed × EspHttpClient
  | (true, c) => next c
  | (false, c) => (if c.transport.again then .eagain else .failed, c)

def performBody : Performed × EspHttpClient := performed (.sent, ·) (espHttpClientSendPostData c)

def performRequest : Performed × EspHttpClient :=
  performed performBody (espHttpClientRequestSend c c.postLen)

/-- The result of `esp_transport_connect_async`, a failure also where there is no transport. -/
inductive ConnectAsync
  | fail
  | connecting
  | pass
  deriving DecidableEq, Repr

def performConnect : ConnectAsync → Performed × EspHttpClient
  | .fail => (.failed, c)
  | .connecting => (.eagain, c)
  | .pass => performRequest { c with state := .connected }

/-- What the transport does during one call, and `errno` before it. -/
structure Call where
  connect : ConnectAsync
  writes : List SinkWrite
  eagain : Bool
  deriving DecidableEq

def EspHttpClient.withCall (call : Call) : EspHttpClient :=
  { c with transport := ⟨c.transport.wire, call.writes, call.eagain⟩ }

def performState (connect : ConnectAsync) : Performed × EspHttpClient :=
  match c.state with
  | .init => performConnect { espHttpClientPrepare c with state := .connecting } connect
  | .connecting => performConnect c connect
  | .connected => performRequest c
  | .reqCompleteHeader => performBody c
  | .reqCompleteData => (.sent, c)

/-- `esp_http_client_perform` up to the response. -/
def espHttpClientPerform (call : Call) : Performed × EspHttpClient :=
  performState (c.withCall call) call.connect

end Sending

section Spec

/-- What the calls of the callback so far have given. -/
def Body.upTo : Body → ℕ → Bytes
  | .field data, _ => data
  | .stream _ getChunk, k => (List.range k).flatMap fun i => (getChunk i).getD []

/-- The callback has been asked until it had nothing left. -/
def Body.IsWhole : Body → ℕ → Prop
  | .field _, _ => True
  | .stream len getChunk, k => len = 0 ∨ ∃ i, k = i + 1 ∧ getChunk i = some []

variable (request : Request)

def Request.preparedHeaders : List Header :=
  (espHttpClientPrepare (espHttpClientInit request)).headers

def Request.sentHeaders : List Header :=
  setContentLength request.preparedHeaders request.body.postLen

/-- The first line with the headers up to an index. -/
def Request.textTo (index : ℕ) : Bytes :=
  request.firstLine ++ headerLines (request.sentHeaders.take index) ++
    if index = request.sentHeaders.length then crlf else []

/-- All that is sent before the body. -/
def Request.head : Bytes := request.firstLine ++ headerLines request.sentHeaders ++ crlf

/-- The first header fits into the buffer behind the first line, and each of them on its own. -/
structure Request.Fits (request : Request) : Prop where
  first : ∀ item ∈ request.sentHeaders.head?,
    request.firstLine.length + item.line.length + 3 ≤ request.bufferSizeTx
  each : ∀ item ∈ request.sentHeaders, item.line.length + 3 ≤ request.bufferSizeTx

/-- A client that is used for one request: it is called again as long as it has to wait. -/
structure Session where
  client : EspHttpClient
  waiting : Bool

def requestSystem : System Session Call Performed where
  init := ⟨espHttpClientInit request, true⟩
  step s call :=
    if s.waiting then
      let (performed, client) := espHttpClientPerform s.client call
      some (⟨client, performed = .eagain⟩, performed)
    else none

end Spec

section Head

variable {c c' c'' : EspHttpClient} {request : Request} {index k : ℕ}

theorem sentHeaders_ne_nil (request : Request) : request.sentHeaders ≠ [] := by
  intro hnil
  have hget : httpHeaderGet request.sentHeaders contentLengthKey =
      some (httpUtilsTrimWhitespace (ascii (toString request.body.postLen))) :=
    httpHeaderGet_set (by decide)
  simp [hnil, httpHeaderGet, httpHeaderGetItem] at hget

theorem textTo_zero (request : Request) : request.textTo 0 = request.firstLine := by
  have hpos := List.length_pos_of_ne_nil (sentHeaders_ne_nil request)
  simp [Request.textTo, hpos.ne, headerLines]

theorem textTo_length (request : Request) :
    request.textTo request.sentHeaders.length = request.head := by
  simp [Request.textTo, Request.head]

/-- A further round of headers. -/
theorem textTo_add (h : index < request.sentHeaders.length) :
    request.textTo index ++ (headerLines ((request.sentHeaders.drop index).take k) ++
      if index + k = request.sentHeaders.length then crlf else []) =
        request.textTo (index + k) := by
  simp [Request.textTo, h.ne, List.take_add, headerLines_append]

theorem textTo_prefix (h : index ≤ request.sentHeaders.length) :
    request.textTo index <+: request.head := by
  rcases h.lt_or_eq with hlt | rfl
  · have hadd := textTo_add (k := request.sentHeaders.length - index) hlt
    rw [show index + (request.sentHeaders.length - index) = request.sentHeaders.length by omega,
      textTo_length] at hadd
    exact ⟨_, hadd⟩
  · exact (textTo_length request).symm ▸ List.prefix_rfl

theorem espHttpClientWrite_cases (t : Transport) (data : Bytes) :
    (∃ t', espHttpClientWrite t data = (none, t') ∧ t'.wire = t.wire) ∨
      ∃ n t', espHttpClientWrite t data = (some n, t') ∧ n ≤ data.length ∧
        t'.wire = t.wire ++ data.take n := by
  simp only [espHttpClientWrite]
  split_ifs with hnil
  · exact .inr ⟨0, t, rfl, Nat.zero_le _, by simp⟩
  · exact t.write_cases data

/-- What sending the headers leaves alone. -/
structure Keeps (c c' : EspHttpClient) : Prop where
  request : c'.request = c.request
  headers : c'.headers = c.headers
  postData : c'.postData = c.postData
  postLen : c'.postLen = c.postLen
  numCalls : c'.numCalls = c.numCalls
  firstLinePrepared : c'.firstLinePrepared = c.firstLinePrepared

theorem Keeps.trans (h : Keeps c c') (h' : Keeps c' c'') : Keeps c c'' where
  request := h'.request.trans h.request
  headers := h'.headers.trans h.headers
  postData := h'.postData.trans h.postData
  postLen := h'.postLen.trans h.postLen
  numCalls := h'.numCalls.trans h.numCalls
  firstLinePrepared := h'.firstLinePrepared.trans h.firstLinePrepared

theorem Keeps.of_headerIndex {index : ℕ} (h : Keeps { c with headerIndex := index } c') :
    Keeps c c' :=
  ⟨h.request, h.headers, h.postData, h.postLen, h.numCalls, h.firstLinePrepared⟩

/-- The wire has the text up to the index, but for what is left in the buffer. -/
structure HeadSending (c : EspHttpClient) : Prop where
  state : c.state ≠ .reqCompleteData
  headers : c.headers = c.request.sentHeaders
  index_pos : 0 < c.headerIndex
  index_le : c.headerIndex ≤ c.request.sentHeaders.length
  left : c.dataWrittenIndex + c.dataWriteLeft = c.buffer.length
  wire : c.transport.wire ++ (c.buffer.drop c.dataWrittenIndex).take c.dataWriteLeft =
    c.request.textTo c.headerIndex

theorem HeadSending.begun (h : HeadSending c) : c.transport.wire <+: c.request.head :=
  (List.prefix_append _ _).trans (h.wire ▸ textTo_prefix h.index_le)

theorem sendLeftover_spec (h : HeadSending c) :
    HeadSending (sendLeftover c).2 ∧ Keeps c (sendLeftover c).2 ∧
      (sendLeftover c).2.state = c.state ∧ (sendLeftover c).2.headerIndex = c.headerIndex ∧
        ((sendLeftover c).1 = true →
          (sendLeftover c).2.transport.wire = c.request.textTo c.headerIndex) := by
  have hlen := h.left
  have hwire := h.wire
  simp only [sendLeftover]
  split_ifs with hleft
  · refine ⟨h, ⟨rfl, rfl, rfl, rfl, rfl, rfl⟩, rfl, rfl, fun _ => ?_⟩
    simpa [hleft] using hwire
  rcases espHttpClientWrite_cases c.transport
    ((c.buffer.drop c.dataWrittenIndex).take c.dataWriteLeft) with
    ⟨t, heq, ht⟩ | ⟨n, t, heq, hn, ht⟩
  · rw [heq]
    refine ⟨⟨h.state, h.headers, h.index_pos, h.index_le, hlen, ?_⟩,
      ⟨rfl, rfl, rfl, rfl, rfl, rfl⟩, rfl, rfl, by simp⟩
    simpa only [ht] using hwire
  · simp only [List.length_take, List.length_drop] at hn
    have hrest := append_take_drop_left n hwire
    rw [← ht] at hrest
    rw [heq]
    refine ⟨⟨h.state, h.headers, h.index_pos, h.index_le, by simp only; omega, hrest⟩,
      ⟨rfl, rfl, rfl, rfl, rfl, rfl⟩, rfl, rfl, fun hdone => ?_⟩
    rw [of_decide_eq_true hdone] at hrest
    simpa using hrest

/-- A text that continues the wire is put into the buffer and written. -/
theorem writeBuffer_spec {text : Bytes} (hstate : c.state ≠ .reqCompleteData)
    (hheaders : c.headers = c.request.sentHeaders)
    (hpos : 0 < c.headerIndex) (hle : c.headerIndex ≤ c.request.sentHeaders.length)
    (hwire : c.transport.wire ++ text = c.request.textTo c.headerIndex) :
    HeadSending (writeBuffer c text).2 ∧ Keeps c (writeBuffer c text).2 ∧
      (writeBuffer c text).2.headerIndex = c.headerIndex ∧
      ((writeBuffer c text).1 = true ∨ (writeBuffer c text).2.transport.again = true →
        (writeBuffer c text).2.state = c.state) ∧
      ((writeBuffer c text).1 = true →
        (writeBuffer c text).2.transport.wire = c.request.textTo c.headerIndex) := by
  simp only [writeBuffer, espTransportWrite]
  rcases c.transport.write_cases text with ⟨t, heq, ht⟩ | ⟨n, t, heq, hn, ht⟩
  · rw [heq]
    refine ⟨⟨?_, hheaders, hpos, hle, by simp, by simpa [ht] using hwire⟩,
      ⟨rfl, rfl, rfl, rfl, rfl, rfl⟩, rfl, by simp +contextual, by simp⟩
    simp only
    split_ifs
    · exact hstate
    · simp
  · have hrest := append_take_drop_left n
      (show c.transport.wire ++ (text.drop 0).take text.length = _ by simpa using hwire)
    rw [List.drop_zero, List.take_length, Nat.zero_add, ← ht] at hrest
    rw [heq]
    refine ⟨⟨hstate, hheaders, hpos, hle, by simp only; omega, hrest⟩,
      ⟨rfl, rfl, rfl, rfl, rfl, rfl⟩, rfl, fun _ => rfl, fun hdone => ?_⟩
    rw [of_decide_eq_true hdone] at hrest
    simpa using hrest

/-- What a round starts from: the wire ends where the next header begins, or it is empty and the
first line is still to be written. -/
structure RoundStart (c : EspHttpClient) (firstLine : Bytes) : Prop where
  state : c.state ≠ .reqCompleteData
  headers : c.headers = c.request.sentHeaders
  index_le : c.headerIndex ≤ c.request.sentHeaders.length
  wire : c.transport.wire ++ firstLine = c.request.textTo c.headerIndex
  firstLine : firstLine = [] ∨ c.headerIndex = 0 ∧ firstLine = c.request.firstLine

theorem RoundStart.room {firstLine : Bytes} (h : RoundStart c firstLine) (hfits : c.request.Fits)
    (hlt : c.headerIndex < c.request.sentHeaders.length) :
    c.request.sentHeaders[c.headerIndex].line.length + 3 ≤
      c.request.bufferSizeTx - firstLine.length := by
  rcases h.firstLine with rfl | ⟨hzero, rfl⟩
  · exact hfits.each _ (List.getElem_mem hlt)
  · have hfirst := hfits.first c.request.sentHeaders[c.headerIndex] (by
      simp [List.head?_eq_getElem?, hzero, List.getElem?_eq_getElem (hzero ▸ hlt)])
    omega

/-- Every round takes a header, so there are enough of them. -/
theorem sendHeaders_spec {rounds : ℕ} {firstLine : Bytes} (h : RoundStart c firstLine)
    (hfits : c.request.Fits)
    (hrounds : c.request.sentHeaders.length < c.headerIndex + rounds) :
    Keeps c (sendHeaders rounds c firstLine).2 ∧
      ((sendHeaders rounds c firstLine).1 = true ∨
          (sendHeaders rounds c firstLine).2.transport.again = true →
        (sendHeaders rounds c firstLine).2.state = c.state) ∧
      ((sendHeaders rounds c firstLine).1 = true →
        (sendHeaders rounds c firstLine).2.transport.wire = c.request.head) ∧
      ((sendHeaders rounds c firstLine).1 = false →
        HeadSending (sendHeaders rounds c firstLine).2) := by
  induction rounds generalizing c firstLine with
  | zero => exact absurd h.index_le (by omega)
  | succ rounds ih =>
    rcases h.index_le.lt_or_eq with hlt | heq
    · obtain ⟨k, hk, hle, hgenerate⟩ :=
        httpHeaderGenerateString_next hlt (h.room hfits hlt)
      have htext : headerLines ((c.request.sentHeaders.drop c.headerIndex).take k) ≠ [] := by
        rw [List.drop_eq_getElem_cons hlt, ← Nat.succ_pred_eq_of_pos hk, List.take_succ_cons,
          headerLines_cons]
        exact List.append_ne_nil_of_left_ne_nil
          (List.ne_nil_of_length_pos (length_line_pos _)) _
      have hwire := h.wire
      rw [← congrArg (httpHeaderGenerateString · _ _) h.headers] at hgenerate
      simp only [sendHeaders, hgenerate]
      rw [if_neg (by simp [htext]; omega)]
      generalize htext' : (headerLines ((c.request.sentHeaders.drop c.headerIndex).take k) ++
        if c.headerIndex + k = c.request.sentHeaders.length then crlf else []) = text
      have hbuffer : { c with headerIndex := c.headerIndex + k }.transport.wire ++
          (firstLine ++ text) = c.request.textTo (c.headerIndex + k) := by
        rw [← List.append_assoc, hwire, ← htext', textTo_add hlt]
      obtain ⟨hsending, hkeeps, hindex, hstate, hdone⟩ :=
        writeBuffer_spec (c := { c with headerIndex := c.headerIndex + k }) h.state h.headers
          (Nat.lt_of_lt_of_le hk (Nat.le_add_left _ _)) hle hbuffer
      rcases hwrite : writeBuffer { c with headerIndex := c.headerIndex + k }
        (firstLine ++ text) with ⟨ok, c'⟩
      rw [hwrite] at hsending hkeeps hindex hstate hdone
      cases ok with
      | false =>
        exact ⟨hkeeps.of_headerIndex, hstate, by simp, fun _ => hsending⟩
      | true =>
        have hstart : RoundStart c' [] := by
          refine ⟨hsending.state, hsending.headers, hsending.index_le, ?_, .inl rfl⟩
          rw [List.append_nil, hdone rfl, hindex, hkeeps.request]
        have hih := ih hstart (hkeeps.request ▸ hfits)
          (by
            rw [hkeeps.request, hindex]
            change c.request.sentHeaders.length < c.headerIndex + k + rounds
            omega)
        refine ⟨hkeeps.of_headerIndex.trans hih.1,
          fun hor => (hih.2.1 hor).trans (hstate (.inl rfl)), ?_, hih.2.2.2⟩
        rw [← hkeeps.request]
        exact hih.2.2.1
    · have hgenerate : httpHeaderGenerateString c.headers c.headerIndex
          (c.request.bufferSizeTx - firstLine.length) = (0, []) :=
        httpHeaderGenerateString_end (by rw [h.headers, heq])
      have hpos := List.length_pos_of_ne_nil (sentHeaders_ne_nil c.request)
      have hempty : firstLine = [] := by
        rcases h.firstLine with hnil | ⟨hzero, -⟩
        · exact hnil
        · omega
      have hwire := h.wire
      rw [hempty, List.append_nil, heq, textTo_length] at hwire
      simp only [sendHeaders, hgenerate, true_or, if_true]
      exact ⟨⟨rfl, rfl, rfl, rfl, rfl, rfl⟩, by simp, fun _ => hwire, by simp⟩

end Head

section Run

variable {c : EspHttpClient} {request : Request} {h : List (Call × Performed)} {t : Session}

/-- Nothing of the body has been asked for. -/
structure BodyUntouched (c : EspHttpClient) : Prop where
  postData : c.postData = c.request.body.postData
  postLen : c.postLen = c.request.body.postLen
  numCalls : c.numCalls = 0

theorem BodyUntouched.keeps {c c' : EspHttpClient} (h : BodyUntouched c) (hkeeps : Keeps c c') :
    BodyUntouched c' where
  postData := by rw [hkeeps.postData, hkeeps.request, h.postData]
  postLen := by rw [hkeeps.postLen, hkeeps.request, h.postLen]
  numCalls := hkeeps.numCalls.trans h.numCalls

/-- What is left of the text or of the chunk. -/
def EspHttpClient.pending (c : EspHttpClient) : Bytes :=
  (c.postData.getD []).drop c.dataWrittenIndex |>.take c.dataWriteLeft

/-- The wire has the headers and the body up to the last chunk, but for what is pending of it. -/
structure BodySending (c : EspHttpClient) : Prop where
  state : c.state = .reqCompleteHeader
  left : ∀ data ∈ c.postData, c.dataWrittenIndex + c.dataWriteLeft = data.length
  wire : c.transport.wire ++ c.pending = c.request.head ++ c.request.body.upTo c.numCalls
  empty : c.postLen = 0 → c.pending = [] ∧ c.request.body.IsWhole c.numCalls

/-- All is on the wire. -/
def AllOnWire (c : EspHttpClient) : Prop :=
  c.transport.wire = c.request.head ++ c.request.body.upTo c.numCalls ∧
    c.request.body.IsWhole c.numCalls

/-- What holds after every call. -/
structure OnWire (c : EspHttpClient) : Prop where
  begun : c.transport.wire <+: c.request.head ++ c.request.body.upTo c.numCalls
  all : c.state = .reqCompleteData → AllOnWire c

/-- What holds of a client that is called again. -/
def Resumable (c : EspHttpClient) : Prop :=
  match c.state with
  | .init => c.headers = c.request.headers ∧ c.transport.wire = [] ∧ BodyUntouched c
  | .connecting => c.headers = c.request.preparedHeaders ∧ c.transport.wire = [] ∧
      c.firstLinePrepared = false ∧ BodyUntouched c
  | .connected => c.firstLinePrepared = true ∧ HeadSending c ∧ BodyUntouched c
  | .reqCompleteHeader => BodySending c
  | .reqCompleteData => AllOnWire c

theorem sendPrepared_spec {firstLine : Bytes} (hfits : c.request.Fits)
    (h : (RoundStart c firstLine ∧ c.dataWriteLeft = 0) ∨ (HeadSending c ∧ firstLine = [])) :
    Keeps c (sendPrepared c firstLine).2 ∧
      ((sendPrepared c firstLine).1 = true →
        (sendPrepared c firstLine).2.state = .reqCompleteHeader ∧
          (sendPrepared c firstLine).2.dataWrittenIndex = 0 ∧
          (sendPrepared c firstLine).2.dataWriteLeft = c.postLen ∧
          (sendPrepared c firstLine).2.transport.wire = c.request.head) ∧
      ((sendPrepared c firstLine).1 = false → HeadSending (sendPrepared c firstLine).2 ∧
        ((sendPrepared c firstLine).2.transport.again = true →
          (sendPrepared c firstLine).2.state = c.state)) := by
  obtain ⟨ok, c', hleftover⟩ : ∃ ok c', sendLeftover c = (ok, c') := ⟨_, _, rfl⟩
  have hcases : Keeps c c' ∧ c'.state = c.state ∧ ((ok = true ∧ RoundStart c' firstLine) ∨
      (ok = false ∧ HeadSending c')) := by
    rcases h with ⟨hstart, hleft⟩ | ⟨hsending, rfl⟩
    · simp only [sendLeftover, if_pos hleft, Prod.mk.injEq] at hleftover
      obtain ⟨rfl, rfl⟩ := hleftover
      exact ⟨⟨rfl, rfl, rfl, rfl, rfl, rfl⟩, rfl, .inl ⟨rfl, hstart⟩⟩
    · obtain ⟨hsending', hkeeps, hstate, hindex, hdone⟩ := sendLeftover_spec hsending
      rw [hleftover] at hsending' hkeeps hstate hindex hdone
      cases ok with
      | false => exact ⟨hkeeps, hstate, .inr ⟨rfl, hsending'⟩⟩
      | true =>
        refine ⟨hkeeps, hstate, .inl ⟨rfl, hsending'.state, hsending'.headers,
          hsending'.index_le, ?_, .inl rfl⟩⟩
        rw [List.append_nil, hdone rfl, hkeeps.request, hindex]
  obtain ⟨hkeeps, hstate, ⟨rfl, hstart⟩ | ⟨rfl, hsending⟩⟩ := hcases
  · have hrounds : c'.request.sentHeaders.length < c'.headerIndex + (c'.headers.length + 1) := by
      rw [hstart.headers]
      omega
    obtain ⟨hkeeps', hstate', hdone, hfailed⟩ :=
      sendHeaders_spec hstart (hkeeps.request ▸ hfits) hrounds
    simp only [sendPrepared, hleftover]
    obtain ⟨ok, c'', hheaders⟩ : ∃ ok c'', sendHeaders (c'.headers.length + 1) c' firstLine =
      (ok, c'') := ⟨_, _, rfl⟩
    rw [hheaders] at hkeeps' hstate' hdone hfailed ⊢
    have hall := hkeeps.trans hkeeps'
    cases ok with
    | false =>
      exact ⟨hall, by simp, fun _ => ⟨hfailed rfl, fun hagain =>
        (hstate' (.inr hagain)).trans hstate⟩⟩
    | true =>
      refine ⟨⟨hall.request, hall.headers, hall.postData, hall.postLen, hall.numCalls,
        hall.firstLinePrepared⟩, fun _ => ⟨rfl, rfl, hall.postLen, ?_⟩, by simp⟩
      rw [← hkeeps.request]
      exact hdone rfl
  · simp only [sendPrepared, hleftover]
    exact ⟨hkeeps, by simp, fun _ => ⟨hsending, fun _ => hstate⟩⟩

theorem writePostData_spec (h : BodySending c) (hpost : c.postLen ≠ 0) :
    BodySending (writePostData c).2 ∧ (writePostData c).2.request = c.request ∧
      (writePostData c).2.postLen = c.postLen ∧
      ((writePostData c).1 = true → (writePostData c).2.dataWriteLeft = 0) := by
  have hwire := h.wire
  simp only [EspHttpClient.pending] at hwire
  unfold writePostData
  split
  next hdata =>
    refine ⟨⟨h.state, by simp [hdata], ?_, fun hzero => absurd hzero hpost⟩, rfl, rfl,
      fun _ => rfl⟩
    simpa [EspHttpClient.pending, hdata] using hwire
  next data hdata =>
    have hleft := h.left data hdata
    rw [hdata, Option.getD_some] at hwire
    rcases espHttpClientWrite_cases c.transport ((data.drop c.dataWrittenIndex).take
      c.dataWriteLeft) with ⟨t, heq, ht⟩ | ⟨n, t, heq, hn, ht⟩
    · rw [heq]
      refine ⟨⟨h.state, h.left, ?_, fun hzero => absurd hzero hpost⟩, rfl, rfl, by simp⟩
      simpa [EspHttpClient.pending, hdata, ht] using hwire
    · simp only [List.length_take, List.length_drop] at hn
      have hrest := append_take_drop_left n hwire
      rw [← ht] at hrest
      rw [heq]
      refine ⟨⟨h.state, ?_, ?_, fun hzero => absurd hzero hpost⟩, rfl, rfl,
        of_decide_eq_true⟩
      · intro data' hdata'
        obtain rfl := Option.some.inj (hdata.symm.trans hdata')
        change c.dataWrittenIndex + n + (c.dataWriteLeft - n) = data.length
        omega
      · simpa [EspHttpClient.pending, hdata] using hrest

theorem upTo_succ (len : ℕ) (getChunk : ℕ → Option Bytes) (k : ℕ) :
    (Body.stream len getChunk).upTo (k + 1) =
      (Body.stream len getChunk).upTo k ++ (getChunk k).getD [] := by
  simp [Body.upTo, List.range_succ]

theorem postNextChunk_spec (h : BodySending c) (hpost : c.postLen ≠ 0)
    (hleft : c.dataWriteLeft = 0) :
    (postNextChunk c).2.request = c.request ∧
      ((postNextChunk c).1 = true →
        (postNextChunk c).2.state = .reqCompleteData ∧ AllOnWire (postNextChunk c).2) ∧
      ((postNextChunk c).1 = false → BodySending (postNextChunk c).2) := by
  have hwire := h.wire
  simp only [EspHttpClient.pending, hleft, List.take_zero, List.append_nil] at hwire
  simp only [postNextChunk]
  split
  next data hbody =>
    exact ⟨rfl, fun _ => ⟨rfl, hwire, by rw [hbody]; trivial⟩, by simp⟩
  next len getChunk hbody =>
    rw [hbody] at hwire
    split
    next hchunk =>
      refine ⟨rfl, by simp, fun _ => ⟨h.state, h.left, ?_, fun hzero => absurd hzero hpost⟩⟩
      simp [EspHttpClient.pending, hleft, hwire, hbody, upTo_succ, hchunk]
    next hchunk =>
      refine ⟨rfl, fun _ => ⟨rfl, ?_, ?_⟩, by simp⟩
      · simp [hwire, hbody, upTo_succ, hchunk]
      · rw [hbody]
        exact .inr ⟨_, rfl, hchunk⟩
    next data hne hchunk =>
      refine ⟨rfl, by simp, fun _ => ⟨h.state, ?_, ?_, ?_⟩⟩
      · intro data' hdata'
        obtain rfl := Option.some.inj hdata'
        exact Nat.zero_add _
      · simp [EspHttpClient.pending, hwire, hbody, upTo_succ, hchunk]
      · intro hzero
        exact absurd (List.length_eq_zero_iff.mp hzero) hne

theorem espHttpClientSendPostData_spec (h : BodySending c) :
    (espHttpClientSendPostData c).2.request = c.request ∧
      ((espHttpClientSendPostData c).1 = true →
        (espHttpClientSendPostData c).2.state = .reqCompleteData ∧
          AllOnWire (espHttpClientSendPostData c).2) ∧
      ((espHttpClientSendPostData c).1 = false →
        BodySending (espHttpClientSendPostData c).2) := by
  simp only [espHttpClientSendPostData]
  split_ifs with hpost
  · obtain ⟨hpending, hwhole⟩ := h.empty hpost
    have hwire := h.wire
    rw [hpending, List.append_nil] at hwire
    exact ⟨rfl, fun _ => ⟨rfl, hwire, hwhole⟩, by simp⟩
  · obtain ⟨hsending, hrequest, hlen, hleft⟩ := writePostData_spec h hpost
    obtain ⟨ok, c', hwrite⟩ : ∃ ok c', writePostData c = (ok, c') := ⟨_, _, rfl⟩
    rw [hwrite] at hsending hrequest hlen hleft ⊢
    cases ok with
    | false => exact ⟨hrequest, by simp, fun _ => hsending⟩
    | true =>
      obtain ⟨hrequest', hdone, hmore⟩ :=
        postNextChunk_spec hsending (hlen ▸ hpost) (hleft rfl)
      exact ⟨hrequest'.trans hrequest, hdone, hmore⟩

/-- What a call leaves: the data are on the wire in order, and if it has to be repeated, it
continues there. -/
structure PerformedRight (request : Request) (r : Performed × EspHttpClient) : Prop where
  request : r.2.request = request
  onWire : OnWire r.2
  resumable : r.1 = .eagain → Resumable r.2

theorem BodySending.onWire (h : BodySending c) : OnWire c where
  begun := h.wire ▸ List.prefix_append _ _
  all hstate := by simp [h.state] at hstate

theorem BodySending.resumable (h : BodySending c) : Resumable c := by
  rw [Resumable, h.state]
  exact h

theorem HeadSending.onWire (h : HeadSending c) : OnWire c where
  begun := h.begun.trans (List.prefix_append _ _)
  all hstate := absurd hstate h.state

theorem performBody_right (h : BodySending c) : PerformedRight c.request (performBody c) := by
  obtain ⟨hrequest, hdone, hmore⟩ := espHttpClientSendPostData_spec h
  simp only [performBody]
  obtain ⟨ok, c', hsent⟩ : ∃ ok c', espHttpClientSendPostData c = (ok, c') := ⟨_, _, rfl⟩
  rw [hsent] at hrequest hdone hmore ⊢
  cases ok with
  | true =>
    obtain ⟨-, hall⟩ := hdone rfl
    exact ⟨hrequest, ⟨hall.1 ▸ List.prefix_rfl, fun _ => hall⟩, by simp [performed]⟩
  | false =>
    exact ⟨hrequest, (hmore rfl).onWire, fun _ => (hmore rfl).resumable⟩

theorem BodyUntouched.bodySending (h : BodyUntouched c) (hstate : c.state = .reqCompleteHeader)
    (hindex : c.dataWrittenIndex = 0) (hleft : c.dataWriteLeft = c.postLen)
    (hwire : c.transport.wire = c.request.head) : BodySending c := by
  have hlen := h.postLen
  have hdata := h.postData
  cases hbody : c.request.body with
  | field data =>
    rw [hbody] at hlen hdata
    refine ⟨hstate, ?_, ?_, fun hzero => ?_⟩
    · intro data' hdata'
      rw [hdata] at hdata'
      obtain rfl := Option.some.inj hdata'
      simp [hindex, hleft, hlen, Body.postLen]
    · simp [EspHttpClient.pending, hdata, hindex, hleft, hlen, hwire, hbody, Body.postData,
        Body.postLen, Body.upTo]
    · simp [EspHttpClient.pending, hleft, hzero, hbody, Body.IsWhole]
  | stream len getChunk =>
    rw [hbody] at hlen hdata
    refine ⟨hstate, by simp [hdata, Body.postData], ?_, fun hzero => ?_⟩
    · simp [EspHttpClient.pending, hdata, hwire, hbody, h.numCalls, Body.postData, Body.upTo]
    · simp only [EspHttpClient.pending, hleft, hzero, List.take_zero, hbody, true_and]
      exact .inl (hlen.symm.trans hzero)

theorem performPrepared_right {firstLine : Bytes} (hfits : c.request.Fits)
    (hstate : c.state = .connected) (hprepared : c.firstLinePrepared = true)
    (hbody : BodyUntouched c)
    (h : (RoundStart c firstLine ∧ c.dataWriteLeft = 0) ∨ (HeadSending c ∧ firstLine = [])) :
    PerformedRight c.request (performed performBody (sendPrepared c firstLine)) := by
  obtain ⟨hkeeps, hdone, hmore⟩ := sendPrepared_spec hfits h
  obtain ⟨ok, c', hsent⟩ : ∃ ok c', sendPrepared c firstLine = (ok, c') := ⟨_, _, rfl⟩
  rw [hsent] at hkeeps hdone hmore ⊢
  have hbody' := hbody.keeps hkeeps
  cases ok with
  | true =>
    obtain ⟨hstate', hindex, hleft, hwire⟩ := hdone rfl
    rw [← hkeeps.request] at hwire ⊢
    exact performBody_right (hbody'.bodySending hstate' hindex
      (hleft.trans hkeeps.postLen.symm) hwire)
  | false =>
    obtain ⟨hsending, hstate'⟩ := hmore rfl
    refine ⟨hkeeps.request, hsending.onWire, fun hagain => ?_⟩
    have hconnected : c'.state = .connected := by
      simp only [performed] at hagain
      split_ifs at hagain with heagain
      exact (hstate' heagain).trans hstate
    simp only [performed, Resumable, hconnected]
    exact ⟨hkeeps.firstLinePrepared.trans hprepared, hsending, hbody'⟩

theorem Request.Fits.firstLine (hfits : request.Fits) :
    request.firstLine.length < request.bufferSizeTx := by
  have hne := sentHeaders_ne_nil request
  have hfirst := hfits.first _ (List.head?_eq_some_head hne)
  omega

/-- The first line is prepared once, when the connection has been made. -/
theorem performRequest_right (hfits : c.request.Fits) (hstate : c.state = .connected)
    (hheaders : c.headers = c.request.preparedHeaders) (hwire : c.transport.wire = [])
    (hprepared : c.firstLinePrepared = false) (hbody : BodyUntouched c) :
    PerformedRight c.request (performRequest c) := by
  have hline : httpClientPrepareFirstLine
      { c with headers := setContentLength c.headers c.postLen } = some c.request.firstLine :=
    if_pos hfits.firstLine
  rw [performRequest, espHttpClientRequestSend, if_neg (by simp [hprepared])]
  dsimp only
  rw [hline]
  refine performPrepared_right (c := { c with
    headers := setContentLength c.headers c.postLen
    firstLinePrepared := true
    headerIndex := 0
    dataWrittenIndex := 0
    dataWriteLeft := 0 }) hfits hstate rfl ⟨hbody.postData, hbody.postLen, hbody.numCalls⟩
    (.inl ⟨⟨by simp [hstate], ?_, Nat.zero_le _, ?_, .inr ⟨rfl, rfl⟩⟩, rfl⟩)
  · simp [Request.sentHeaders, hheaders, hbody.postLen]
  · simp [hwire, textTo_zero]

theorem performConnect_right (hfits : c.request.Fits) (hstate : c.state = .connecting)
    (hheaders : c.headers = c.request.preparedHeaders) (hwire : c.transport.wire = [])
    (hprepared : c.firstLinePrepared = false) (hbody : BodyUntouched c)
    (connect : ConnectAsync) : PerformedRight c.request (performConnect c connect) := by
  have honWire : OnWire c := ⟨by simp [hwire], by simp [hstate]⟩
  cases connect with
  | fail => exact ⟨rfl, honWire, by simp [performConnect]⟩
  | connecting =>
    refine ⟨rfl, honWire, fun _ => ?_⟩
    simp only [performConnect, Resumable, hstate]
    exact ⟨hheaders, hwire, hprepared, hbody⟩
  | pass =>
    exact performRequest_right (c := { c with state := .connected }) hfits rfl hheaders hwire
      hprepared ⟨hbody.postData, hbody.postLen, hbody.numCalls⟩

theorem performState_right (hfits : c.request.Fits) (h : Resumable c) (connect : ConnectAsync) :
    PerformedRight c.request (performState c connect) := by
  rw [Resumable] at h
  rw [performState]
  split
  next hstate =>
    rw [hstate] at h
    obtain ⟨hheaders, hwire, hbody⟩ := h
    refine performConnect_right (c := { espHttpClientPrepare c with state := .connecting }) hfits
      rfl ?_ hwire rfl ⟨hbody.postData, hbody.postLen, hbody.numCalls⟩ connect
    simp [espHttpClientPrepare, Request.preparedHeaders, espHttpClientInit, hheaders]
  next hstate =>
    rw [hstate] at h
    obtain ⟨hheaders, hwire, hprepared, hbody⟩ := h
    exact performConnect_right hfits hstate hheaders hwire hprepared hbody connect
  next hstate =>
    rw [hstate] at h
    obtain ⟨hprepared, hsending, hbody⟩ := h
    rw [performRequest, espHttpClientRequestSend, if_pos hprepared]
    exact performPrepared_right hfits hstate hprepared hbody (.inr ⟨hsending, rfl⟩)
  next hstate =>
    rw [hstate] at h
    exact performBody_right h
  next hstate =>
    rw [hstate] at h
    exact ⟨rfl, ⟨h.1 ▸ List.prefix_rfl, fun _ => h⟩, by simp⟩

theorem Resumable.withCall (h : Resumable c) (call : Call) : Resumable (c.withCall call) := by
  rw [Resumable] at h ⊢
  have hstate : (c.withCall call).state = c.state := rfl
  rw [hstate]
  split at h
  next =>
    obtain ⟨hheaders, hwire, hbody⟩ := h
    exact ⟨hheaders, hwire, hbody.postData, hbody.postLen, hbody.numCalls⟩
  next =>
    obtain ⟨hheaders, hwire, hprepared, hbody⟩ := h
    exact ⟨hheaders, hwire, hprepared, hbody.postData, hbody.postLen, hbody.numCalls⟩
  next =>
    obtain ⟨hprepared, hsending, hbody⟩ := h
    exact ⟨hprepared, ⟨hsending.state, hsending.headers, hsending.index_pos, hsending.index_le,
      hsending.left, hsending.wire⟩, hbody.postData, hbody.postLen, hbody.numCalls⟩
  next => exact ⟨h.state, h.left, h.wire, h.empty⟩
  next => exact h

theorem client_run (hfits : request.Fits) (hr : (requestSystem request).FreeRun h t) :
    t.client.request = request ∧ OnWire t.client ∧ (t.waiting = true → Resumable t.client) := by
  refine hr.invariant (I := fun t => t.client.request = request ∧ OnWire t.client ∧
    (t.waiting = true → Resumable t.client)) ?_ ?_
  · exact ⟨rfl, ⟨List.nil_prefix, by simp [requestSystem, espHttpClientInit]⟩,
      fun _ => ⟨rfl, rfl, rfl, rfl, rfl⟩⟩
  · rintro t call t' performed ⟨hrequest, -, hresumable⟩ - hs
    simp only [requestSystem] at hs
    split_ifs at hs with hwaiting
    obtain ⟨rfl, rfl⟩ := Prod.mk.inj (Option.some.inj hs)
    have hright := performState_right (c := t.client.withCall call)
      (show t.client.request.Fits from hrequest ▸ hfits) ((hresumable hwaiting).withCall call)
      call.connect
    exact ⟨hright.request.trans hrequest, hright.onWire, fun hagain =>
      hright.resumable (of_decide_eq_true hagain)⟩

theorem httpUtilsTrimWhitespace_toString (n : ℕ) :
    httpUtilsTrimWhitespace (ascii (toString n)) = ascii (toString n) := by
  have hspace : ∀ b ∈ ascii (toString n), ¬isSpace b = true := by
    intro b hb
    simp only [ascii, List.mem_map, Nat.toString_eq_ofList_toDigits, String.toList_ofList] at hb
    obtain ⟨c, hc, rfl⟩ := hb
    have hdigit := Nat.isDigit_of_mem_toDigits (by decide) (le_refl 10) hc
    simp only [Char.isDigit, Bool.and_eq_true, decide_eq_true_eq, UInt32.le_iff_toNat_le] at hdigit
    have hle : c.toNat ≤ 57 := hdigit.2
    have hge : 48 ≤ c.toNat := hdigit.1
    simp only [isSpace, UInt8.toNat_ofNat', Bool.or_eq_true, Bool.and_eq_true, beq_iff_eq,
      decide_eq_true_eq]
    omega
  rw [httpUtilsTrimWhitespace, List.dropWhile_eq_self_iff.mpr, List.rdropWhile_eq_self_iff.mpr]
  · exact fun hl => hspace _ (List.getLast_mem hl)
  · exact fun hl => hspace _ (List.getElem_mem hl)

theorem keysDistinct_sentHeaders (hkeys : KeysDistinct request.headers) :
    KeysDistinct request.sentHeaders := by
  have hprepared : KeysDistinct request.preparedHeaders := by
    cases hauth : request.authResponse with
    | none => simpa [Request.preparedHeaders, espHttpClientPrepare, espHttpClientInit, hauth]
        using hkeys
    | some authResponse =>
      simpa [Request.preparedHeaders, espHttpClientPrepare, espHttpClientInit, hauth] using
        hkeys.set (show httpUtilsTrimWhitespace (ascii "Authorization") = ascii "Authorization" by
          decide) (some authResponse)
  exact hprepared.set (show httpUtilsTrimWhitespace contentLengthKey = contentLengthKey by decide)
    (some (ascii (toString request.body.postLen)))

/-- A request with two headers, whose body comes in two chunks. -/
def sampleRequest : Request where
  method := ascii "POST"
  path := ascii "/a"
  query := none
  headers := [⟨ascii "Host", ascii "h"⟩]
  authResponse := none
  bufferSizeTx := 64
  body := .stream 3 fun k => [ascii "xy", ascii "z"][k]?.getD []

/-- The connection takes two calls, and the transport takes 7, 50, 1, 1 and 1 bytes. -/
def sampleCalls : List Call :=
  [⟨.connecting, [], false⟩, ⟨.pass, [⟨some 7, true⟩], false⟩,
    ⟨.pass, [⟨some 50, false⟩], false⟩, ⟨.pass, [⟨some 1, true⟩], false⟩,
    ⟨.pass, [⟨none, true⟩], false⟩, ⟨.pass, [⟨some 1, false⟩], false⟩,
    ⟨.pass, [⟨some 1, false⟩], false⟩]

theorem sampleRequest_fits : sampleRequest.Fits where
  first := by
    rintro item hitem
    obtain rfl := Option.some.inj hitem
    decide
  each := by
    intro item hitem
    have hall : (sampleRequest.sentHeaders.all fun item => decide (item.line.length + 3 ≤ 64)) =
        true := by decide
    exact of_decide_eq_true (List.all_eq_true.mp hall item hitem)

end Run

end Client

end RuuviGateway.Http
