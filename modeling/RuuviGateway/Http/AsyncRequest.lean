import RuuviGateway.Config.Types
import RuuviGateway.General.Ledger
import RuuviGateway.General.Transition
import RuuviGateway.Http.Headers

/-!
# The asynchronous HTTP request

There is one request at a time. A semaphore is taken when it starts and signalled when it has ended,
which may be in another call: a request that was posted goes on until it is polled to its end or
aborted, and a check that the user asks for ends in the call that began it. A call fails an
assertion if the semaphore is taken when it wants to start a request, or if another task started the
request that it goes on with, so a call that is executing excludes the others.
-/

namespace RuuviGateway.Http

open General AdvPost Config

section State

/-- What a request owns. -/
inductive ObjKind
  | client
  | generator
  | jsonStr
  | cert
  deriving DecidableEq

structure HttpAsyncInfo where
  /-- The semaphore is created when it is first used. -/
  httpAsyncSemaTaken : Bool
  task : ℕ
  recipient : Recipient
  useJsonStreamGen : Bool
  /-- The union of the generator and the JSON string. -/
  select : Option ℕ
  httpClientHandle : Option ℕ
  certPem : Option ℕ
  clientCertPem : Option ℕ
  clientKeyPem : Option ℕ
  deriving DecidableEq

def HttpAsyncInfo.zero : HttpAsyncInfo := ⟨false, 0, .stats, false, none, none, none, none, none⟩

/-- A header that was handled during a request to the recipient. -/
structure Handled where
  recipient : Recipient
  header : Header
  before : Targets
  after : Targets

/-- The headers that were handled are listed with the last one first. -/
structure World where
  info : HttpAsyncInfo
  ledger : Ledger ObjKind
  /-- The recipient of the requests of the last client. -/
  clientFor : Recipient
  action : Action
  targets : Targets
  handled : List Handled

def World.initial (targets : Targets) : World := ⟨.zero, .empty, .stats, .none, targets, []⟩

def HttpAsyncInfo.selectKind (info : HttpAsyncInfo) : ObjKind :=
  if info.useJsonStreamGen then .generator else .jsonStr

def World.obtain (kind : ObjKind) (success : Bool) (w : World) : Option ℕ × World :=
  let (p, ledger) := w.ledger.obtain kind success
  (p, { w with ledger := ledger })

/-- The recipient is set, and the generator or the JSON string is created. -/
def World.createSelect (recipient : Recipient) (useJsonStreamGen created : Bool) (w : World) :
    World :=
  let info := { w.info with recipient := recipient, useJsonStreamGen := useJsonStreamGen }
  let (p, w) := w.obtain info.selectKind created
  { w with info := { info with select := p } }

end State

section Outcomes

structure CertsOutcome where
  clientCertRead : Bool
  clientKeyRead : Bool
  serverCertRead : Bool

/-- The headers that arrive before the first call of `esp_http_client_perform` returns, and whether
it wants to be called again. -/
structure SendOutcome where
  postDataSet : Bool
  headers : List Header
  again : Bool

structure AdvsOutcome where
  genCreated : Bool
  urlAllocated : Bool
  certs : CertsOutcome
  clientInit : Bool
  authAllocated : Bool
  send : SendOutcome

structure StatOutcome where
  jsonCreated : Bool
  certs : CertsOutcome
  clientInit : Bool
  send : SendOutcome

structure PollOutcome where
  headers : List Header
  again : Bool

/-- The headers that arrive until the wait ends, and the code of the response it ends with. -/
structure WaitOutcome where
  headers : List Header
  respCode : ℕ
  respGenerated : Bool

end Outcomes

section Functions

variable (osStrToUint32Cptr : Bytes → ℕ → UInt32 × ℕ)

def World.handleHeader (w : World) (h : Header) : World :=
  let after := httpPostEventHandlerOnHeader osStrToUint32Cptr w.action h w.targets
  { w with targets := after, handled := ⟨w.clientFor, h, w.targets, after⟩ :: w.handled }

/-- `esp_http_client_perform`. Headers arrive only for a request. -/
def World.perform (headers : List Header) (w : World) : World :=
  if w.info.httpClientHandle.isSome then
    headers.foldl (World.handleHeader osStrToUint32Cptr) w
  else w

/-- `esp_http_client_cleanup`, after which the handle is always cleared. -/
def World.cleanup (w : World) : World :=
  { w with
    ledger := w.ledger.release .client w.info.httpClientHandle
    info := { w.info with httpClientHandle := none } }

def World.freeCerts (w : World) : World :=
  { w with
    ledger := ((w.ledger.release .cert w.info.certPem).release .cert w.info.clientCertPem).release
      .cert w.info.clientKeyPem
    info := { w.info with certPem := none, clientCertPem := none, clientKeyPem := none } }

def httpAsyncInfoFreeData (w : World) : World :=
  let w := w.freeCerts
  { w with
    ledger := w.ledger.release w.info.selectKind w.info.select
    info := { w.info with select := none } }

/-- The certificates are read and become part of the configuration of the client. -/
def httpInitClientConfig (useSslClientCert useSslServerCert : Bool) (o : CertsOutcome) (w : World) :
    World :=
  let (clientCert, w) := w.obtain .cert (useSslClientCert && o.clientCertRead)
  let (clientKey, w) := w.obtain .cert (useSslClientCert && o.clientKeyRead)
  let (serverCert, w) := w.obtain .cert (useSslServerCert && o.serverCertRead)
  { w with
    info := { w.info with
      certPem := serverCert
      clientCertPem := clientCert
      clientKeyPem := clientKey } }

/-- `esp_http_client_init`. -/
def World.clientInit (success : Bool) (w : World) : World :=
  let (handle, w) := w.obtain .client success
  { w with info := { w.info with httpClientHandle := handle }, clientFor := w.info.recipient }

def httpHandleAddAuthorizationIfNeeded (authType : HttpAuthType) (allocated : Bool) : Bool :=
  match authType with
  | .bearer => allocated
  | .token => allocated
  | .apikey => allocated
  | .none => true
  | .basic => true

def httpSendAsync (o : SendOutcome) (w : World) : Bool × World :=
  if !o.postDataSet then (false, w)
  else
    let w := w.perform osStrToUint32Cptr o.headers
    if !o.again then (false, w.freeCerts.cleanup) else (true, w)

/-- What follows a failure of `http_send_async`, and what ends a request. -/
def World.cleanupAndFreeData (w : World) : World := httpAsyncInfoFreeData w.cleanup

def World.send (o : SendOutcome) (w : World) : Bool × World :=
  let (started, w) := httpSendAsync osStrToUint32Cptr o w
  (started, if started then w else w.cleanupAndFreeData)

structure AdvsParams where
  flagPostToRuuvi : Bool
  useSslClientCert : Bool
  useSslServerCert : Bool
  authType : HttpAuthType

def AdvsParams.recipient (p : AdvsParams) : Recipient :=
  if p.flagPostToRuuvi then .advs1 else .advs2

def advPostSetAdvPostHttpAction (flagPostToRuuvi : Bool) (w : World) : World :=
  { w with action := if flagPostToRuuvi then .postAdvsToRuuvi else .postAdvsToCustom }

def httpSendAdvsInternal (p : AdvsParams) (o : AdvsOutcome) (w : World) : Bool × World :=
  let w := w.createSelect p.recipient true o.genCreated
  if !o.genCreated then (false, w)
  else if !o.urlAllocated then (false, httpAsyncInfoFreeData w)
  else
    let w := httpInitClientConfig p.useSslClientCert p.useSslServerCert o.certs w
    let w := w.clientInit o.clientInit
    if !o.clientInit then (false, httpAsyncInfoFreeData w)
    else if !p.flagPostToRuuvi &&
        !httpHandleAddAuthorizationIfNeeded p.authType o.authAllocated then
      (false, httpAsyncInfoFreeData w)
    else (advPostSetAdvPostHttpAction p.flagPostToRuuvi w).send osStrToUint32Cptr o.send

def httpSendStatisticsInternal (useSslClientCert useSslServerCert : Bool) (o : StatOutcome)
    (w : World) : Bool × World :=
  let w := w.createSelect .stats false o.jsonCreated
  if !o.jsonCreated then (false, w)
  else
    let w := httpInitClientConfig useSslClientCert useSslServerCert o.certs w
    let w := w.clientInit o.clientInit
    if !o.clientInit then (false, httpAsyncInfoFreeData w) else w.send osStrToUint32Cptr o.send

/-- `os_sema_wait_immediate` with the assertion that it succeeds. -/
def World.lock (task : ℕ) (w : World) : Option World :=
  if w.info.httpAsyncSemaTaken then none
  else some { w with info := { w.info with httpAsyncSemaTaken := true, task := task } }

/-- `os_sema_signal`. -/
def World.unlock (w : World) : World :=
  { w with info := { w.info with httpAsyncSemaTaken := false } }

/-- The semaphore stays taken if the request was started. -/
def World.unlockUnless (started : Bool) (w : World) : World := if started then w else w.unlock

def httpPostAdvs (task : ℕ) (p : AdvsParams) (o : AdvsOutcome) (w : World) :
    Option (Bool × World) :=
  (w.lock task).map fun w =>
    let (started, w) := httpSendAdvsInternal osStrToUint32Cptr p o w
    (started, w.unlockUnless started)

def httpPostStat (task : ℕ) (useSslClientCert useSslServerCert : Bool) (o : StatOutcome)
    (w : World) : Option (Bool × World) :=
  (w.lock task).map fun w =>
    let (started, w) := httpSendStatisticsInternal osStrToUint32Cptr useSslClientCert
      useSslServerCert o w
    (started, w.unlockUnless started)

/-- The end of a request. -/
def World.endRequest (w : World) : World := w.cleanupAndFreeData.unlock

/-- The result tells whether the request has ended. -/
def httpAsyncPoll (task : ℕ) (o : PollOutcome) (w : World) : Option (Bool × World) :=
  if w.info.task ≠ task then none
  else
    let w := w.perform osStrToUint32Cptr o.headers
    if o.again then some (false, w) else some (true, w.endRequest)

def httpAbortAnyReqDuringProcessing (task : ℕ) (w : World) : Option World :=
  if !w.info.httpAsyncSemaTaken then some w
  else if w.info.task ≠ task then none
  else some w.endRequest

end Functions

section Checks

structure HttpCheckParams where
  url : Option Bytes
  authType : HttpAuthType
  user : Option Bytes
  pass : Option Bytes
  useSslClientCert : Bool
  useSslServerCert : Bool

/-- An error, or a response that tells the status of the server. -/
inductive CheckResp
  | err (code : ℕ)
  | status (code : ℕ)
  deriving DecidableEq

/-- The text is there and shorter than the field. -/
def fitsField (s : Option Bytes) (size : ℕ) : Bool := s.any fun s => s.length < size

/-- The check that begins with the allocation of the configuration that is used for it. -/
structure CheckOutcome (α : Type) where
  cfgAllocated : Bool
  send : α
  wait : WaitOutcome

variable (osStrToUint32Cptr : Bytes → ℕ → UInt32 × ℕ)

/-- A started check goes on until its request has ended, whose code 429 counts as success. -/
def World.waitAndCleanup (o : WaitOutcome) (w : World) : CheckResp × World :=
  let w := w.perform osStrToUint32Cptr o.headers
  let respCode := if o.respCode = 429 then 200 else o.respCode
  (if o.respGenerated then .status respCode else .err 500, w.cleanupAndFreeData)

def httpCheckPostAdvsPrepAuth (p : HttpCheckParams) : Bool :=
  match p.authType with
  | .none => true
  | .basic => fitsField p.user gwCfgMaxHttpUserLen && fitsField p.pass gwCfgMaxHttpPassLen
  | .bearer => fitsField p.pass gwCfgMaxHttpBearerTokenLen
  | .token => fitsField p.pass gwCfgMaxHttpBearerTokenLen
  | .apikey => fitsField p.pass gwCfgMaxHttpBearerTokenLen

def HttpCheckParams.advs (p : HttpCheckParams) : AdvsParams :=
  ⟨false, p.useSslClientCert, p.useSslServerCert, p.authType⟩

def httpCheckPostAdvsInternal3 (p : HttpCheckParams) (o : CheckOutcome AdvsOutcome) (w : World) :
    CheckResp × World :=
  if !fitsField p.url gwCfgMaxHttpUrlLen then (.err 400, w)
  else if !httpCheckPostAdvsPrepAuth p then (.err 400, w)
  else
    match httpSendAdvsInternal osStrToUint32Cptr p.advs o.send w with
    | (false, w) => (.err 500, w)
    | (true, w) => w.waitAndCleanup osStrToUint32Cptr o.wait

def httpCheckPostAdvsInternal2 (p : HttpCheckParams) (o : CheckOutcome AdvsOutcome) (w : World) :
    CheckResp × World :=
  if !o.cfgAllocated then (.err 500, w) else httpCheckPostAdvsInternal3 osStrToUint32Cptr p o w

def httpCheckPostAdvs (task : ℕ) (p : HttpCheckParams) (o : CheckOutcome AdvsOutcome) (w : World) :
    Option (CheckResp × World) :=
  (w.lock task).map fun w =>
    let (resp, w) := httpCheckPostAdvsInternal2 osStrToUint32Cptr p o w
    (resp, w.unlock)

/-- Unlike for the advertisements, a token is bounded by the size of a password. -/
def httpCheckPostStatPrepAuth (p : HttpCheckParams) : Bool :=
  match p.authType with
  | .none => true
  | .basic => fitsField p.user gwCfgMaxHttpUserLen && fitsField p.pass gwCfgMaxHttpPassLen
  | .bearer => fitsField p.pass gwCfgMaxHttpPassLen
  | .token => fitsField p.pass gwCfgMaxHttpPassLen
  | .apikey => fitsField p.pass gwCfgMaxHttpPassLen

/-- The statistics are generated before they are sent. -/
structure CheckStatOutcome where
  statInfoGenerated : Bool
  stat : StatOutcome

def httpCheckPostStatInternal3 (p : HttpCheckParams) (o : CheckOutcome CheckStatOutcome)
    (w : World) : CheckResp × World :=
  if !fitsField p.url gwCfgMaxHttpUrlLen then (.err 400, w)
  else if !httpCheckPostStatPrepAuth p then (.err 400, w)
  else if !o.send.statInfoGenerated then (.err 500, w)
  else
    match httpSendStatisticsInternal osStrToUint32Cptr p.useSslClientCert p.useSslServerCert
        o.send.stat w with
    | (false, w) => (.err 500, w)
    | (true, w) => w.waitAndCleanup osStrToUint32Cptr o.wait

def httpCheckPostStatInternal2 (p : HttpCheckParams) (o : CheckOutcome CheckStatOutcome)
    (w : World) : CheckResp × World :=
  if !o.cfgAllocated then (.err 500, w) else httpCheckPostStatInternal3 osStrToUint32Cptr p o w

def httpCheckPostStat (task : ℕ) (p : HttpCheckParams) (o : CheckOutcome CheckStatOutcome)
    (w : World) : Option (CheckResp × World) :=
  (w.lock task).map fun w =>
    let (resp, w) := httpCheckPostStatInternal2 osStrToUint32Cptr p o w
    (resp, w.unlock)

end Checks

end RuuviGateway.Http
