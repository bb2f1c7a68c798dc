import RuuviGateway.Http.AsyncRequest

/-!
# The life cycle of the asynchronous request

While no call is executing, the semaphore is taken exactly while a request is in flight, and what is
not owned by that request has been released once. The one exit that does not undo what was done is
taken when the memory for the authorization header cannot be allocated.
-/

namespace RuuviGateway.Http

open General AdvPost Config

section Held

variable {w : World}

/-- The data of a request, without its client. -/
def HttpAsyncInfo.data (info : HttpAsyncInfo) : List (ObjKind × ℕ) :=
  Ledger.heldAt .cert info.certPem ++ (Ledger.heldAt .cert info.clientKeyPem ++
    (Ledger.heldAt .cert info.clientCertPem ++ Ledger.heldAt info.selectKind info.select))

/-- All that the request owns. -/
def HttpAsyncInfo.held (info : HttpAsyncInfo) : List (ObjKind × ℕ) :=
  info.data ++ Ledger.heldAt .client info.httpClientHandle

def World.Balanced (w : World) : Prop := w.ledger.Settled w.info.held

/-- There are no data of a request. -/
structure HttpAsyncInfo.NoData (info : HttpAsyncInfo) : Prop where
  certPem : info.certPem = none
  clientCertPem : info.clientCertPem = none
  clientKeyPem : info.clientKeyPem = none
  select : info.select = none

theorem HttpAsyncInfo.NoData.data (h : w.info.NoData) : w.info.data = [] := by
  rw [HttpAsyncInfo.data, h.certPem, h.clientCertPem, h.clientKeyPem, h.select]
  rfl

/-- Between requests nothing is owned. -/
structure World.Clear (w : World) : Prop where
  balanced : w.Balanced
  noData : w.info.NoData
  noClient : w.info.httpClientHandle = none

/-- The request has a client. -/
structure World.Started (w : World) : Prop where
  balanced : w.Balanced
  client : w.info.httpClientHandle.isSome = true

theorem World.Clear.settled (h : w.Clear) : w.ledger.Settled [] := by
  have hsettled := h.balanced
  rwa [World.Balanced, HttpAsyncInfo.held, h.noData.data, h.noClient] at hsettled

theorem World.Balanced.cleanup (h : w.Balanced) : w.cleanup.Balanced := by
  have hperm := h.of_perm List.perm_append_comm
  exact hperm.release.of_perm (List.Perm.of_eq (List.append_nil _).symm)

theorem World.Balanced.freeCerts (h : w.Balanced) : w.freeCerts.Balanced := by
  have hassoc := h
  rw [World.Balanced, HttpAsyncInfo.held, HttpAsyncInfo.data, List.append_assoc, List.append_assoc,
    List.append_assoc] at hassoc
  exact (hassoc.release.of_perm (List.perm_append_comm_assoc ..)).release.release

theorem World.Balanced.freeData (h : w.Balanced) : (httpAsyncInfoFreeData w).Balanced := by
  have hfree := h.freeCerts
  rw [World.Balanced] at hfree
  exact hfree.release

theorem freeData_noData (w : World) : (httpAsyncInfoFreeData w).info.NoData := ⟨rfl, rfl, rfl, rfl⟩

/-- What is done at the end of a request leaves nothing. -/
theorem World.Balanced.cleanupAndFreeData (h : w.Balanced) : w.cleanupAndFreeData.Clear :=
  ⟨h.cleanup.freeData, freeData_noData _, rfl⟩

end Held

section Send

variable {osStrToUint32Cptr : Bytes → ℕ → UInt32 × ℕ} {w : World}

variable (osStrToUint32Cptr) in
theorem handleHeaders_info (headers : List Header) (w : World) :
    (headers.foldl (World.handleHeader osStrToUint32Cptr) w).info = w.info ∧
      (headers.foldl (World.handleHeader osStrToUint32Cptr) w).ledger = w.ledger := by
  induction headers generalizing w with
  | nil => exact ⟨rfl, rfl⟩
  | cons h headers ih => exact ih (w.handleHeader osStrToUint32Cptr h)

variable (osStrToUint32Cptr) in
theorem perform_info (headers : List Header) (w : World) :
    (w.perform osStrToUint32Cptr headers).info = w.info ∧
      (w.perform osStrToUint32Cptr headers).ledger = w.ledger := by
  unfold World.perform
  split_ifs
  · exact handleHeaders_info osStrToUint32Cptr headers w
  · exact ⟨rfl, rfl⟩

theorem World.Balanced.perform (h : w.Balanced) (headers : List Header) :
    (w.perform osStrToUint32Cptr headers).Balanced := by
  obtain ⟨hinfo, hledger⟩ := perform_info osStrToUint32Cptr headers w
  rwa [World.Balanced, hinfo, hledger]

/-- A request that is being prepared, whose client does not exist yet. -/
structure World.Prepared (w : World) : Prop where
  balanced : w.Balanced
  noClient : w.info.httpClientHandle = none

theorem World.Prepared.freeData (h : w.Prepared) : (httpAsyncInfoFreeData w).Clear :=
  ⟨h.balanced.freeData, freeData_noData w, h.noClient⟩

/-- The data to be sent exist, and no certificates have been read. -/
structure World.Selected (w : World) : Prop extends w.Prepared where
  certPem : w.info.certPem = none
  clientCertPem : w.info.clientCertPem = none
  clientKeyPem : w.info.clientKeyPem = none

theorem World.Clear.createSelect (h : w.Clear) (r : Recipient) (useJsonStreamGen created : Bool) :
    (w.createSelect r useJsonStreamGen created).Selected := by
  refine ⟨⟨?_, h.noClient⟩, h.noData.certPem, h.noData.clientCertPem, h.noData.clientKeyPem⟩
  have hsettled := h.settled.obtain
    (HttpAsyncInfo.selectKind { w.info with useJsonStreamGen := useJsonStreamGen }) created
  refine hsettled.of_perm (List.Perm.of_eq ?_)
  simp [World.createSelect, World.obtain, HttpAsyncInfo.held, HttpAsyncInfo.data,
    HttpAsyncInfo.selectKind, h.noData.certPem, h.noData.clientCertPem, h.noData.clientKeyPem,
    h.noClient]

/-- Without the data there is nothing to undo. -/
theorem World.Clear.createSelect_failed (h : w.Clear) (r : Recipient) (useJsonStreamGen : Bool) :
    (w.createSelect r useJsonStreamGen false).Clear := by
  have hselected := h.createSelect r useJsonStreamGen false
  exact ⟨hselected.balanced,
    ⟨hselected.certPem, hselected.clientCertPem, hselected.clientKeyPem, rfl⟩,
    hselected.noClient⟩

theorem World.Selected.initClientConfig (h : w.Selected) (useSslClientCert useSslServerCert : Bool)
    (o : CertsOutcome) : (httpInitClientConfig useSslClientCert useSslServerCert o w).Prepared := by
  refine ⟨?_, h.noClient⟩
  have hcert := h.balanced.obtain .cert (useSslClientCert && o.clientCertRead)
  have hkey := hcert.obtain .cert (useSslClientCert && o.clientKeyRead)
  have hserver := hkey.obtain .cert (useSslServerCert && o.serverCertRead)
  refine hserver.of_perm (List.Perm.of_eq ?_)
  simp only [httpInitClientConfig, World.obtain, HttpAsyncInfo.held, HttpAsyncInfo.data,
    HttpAsyncInfo.selectKind, h.certPem, h.clientCertPem, h.clientKeyPem, Ledger.heldAt_none,
    List.nil_append, List.append_assoc]
  rfl

theorem World.Prepared.clientInit (h : w.Prepared) : (w.clientInit true).Started := by
  refine ⟨?_, rfl⟩
  have hsettled := h.balanced.obtain .client true
  rw [HttpAsyncInfo.held, h.noClient, Ledger.heldAt_none, List.append_nil] at hsettled
  exact hsettled.of_perm List.perm_append_comm

theorem World.Prepared.clientInit_failed (h : w.Prepared) : (w.clientInit false).Prepared := by
  refine ⟨?_, rfl⟩
  have hbalanced := h.balanced
  rwa [World.Balanced, HttpAsyncInfo.held, h.noClient] at hbalanced

theorem World.Started.setAction (h : w.Started) (flagPostToRuuvi : Bool) :
    (advPostSetAdvPostHttpAction flagPostToRuuvi w).Started := ⟨h.balanced, h.client⟩

variable (osStrToUint32Cptr) in
theorem send_eq (o : SendOutcome) (w : World) :
    w.send osStrToUint32Cptr o =
      if !o.postDataSet then (false, w.cleanupAndFreeData)
      else if !o.again then
        (false, (w.perform osStrToUint32Cptr o.headers).freeCerts.cleanup.cleanupAndFreeData)
      else (true, w.perform osStrToUint32Cptr o.headers) := by
  unfold World.send httpSendAsync
  cases o.postDataSet with
  | false => rfl
  | true => cases o.again <;> rfl

/-- After an attempt to send there is a started request, or nothing. -/
def World.StartedOrClear (r : Bool × World) : Prop := if r.1 then r.2.Started else r.2.Clear

theorem World.Started.send (h : w.Started) (o : SendOutcome) :
    World.StartedOrClear (w.send osStrToUint32Cptr o) := by
  rw [send_eq]
  split_ifs with hset hagain
  · exact h.balanced.cleanupAndFreeData
  · exact (h.balanced.perform o.headers).freeCerts.cleanup.cleanupAndFreeData
  · have hinfo := (perform_info osStrToUint32Cptr o.headers w).1
    have hclient := congrArg (fun info => info.httpClientHandle.isSome) hinfo
    exact ⟨h.balanced.perform o.headers, hclient.trans h.client⟩

/-- Whether the semaphore is taken, and the task that took it last. -/
def HttpAsyncInfo.owner (info : HttpAsyncInfo) : Bool × ℕ := (info.httpAsyncSemaTaken, info.task)

@[simp] theorem freeCerts_owner (w : World) : w.freeCerts.info.owner = w.info.owner := rfl

@[simp] theorem cleanup_owner (w : World) : w.cleanup.info.owner = w.info.owner := rfl

@[simp] theorem cleanupAndFreeData_owner (w : World) :
    w.cleanupAndFreeData.info.owner = w.info.owner := rfl

variable (osStrToUint32Cptr) in
theorem send_owner (o : SendOutcome) (w : World) :
    (w.send osStrToUint32Cptr o).2.info.owner = w.info.owner := by
  have hinfo := (perform_info osStrToUint32Cptr o.headers w).1
  have howner := congrArg HttpAsyncInfo.owner hinfo
  rw [send_eq]
  split_ifs
  · exact cleanupAndFreeData_owner w
  · simpa only [cleanupAndFreeData_owner, cleanup_owner, freeCerts_owner] using howner
  · exact howner

end Send

section Internal

variable {osStrToUint32Cptr : Bytes → ℕ → UInt32 × ℕ} {w : World}

/-- The header for the authorization is needed and cannot be allocated, after all before it has
succeeded. -/
def AdvsOutcome.Leaks (p : AdvsParams) (o : AdvsOutcome) : Prop :=
  o.genCreated = true ∧ o.urlAllocated = true ∧ o.clientInit = true ∧ p.flagPostToRuuvi = false ∧
    httpHandleAddAuthorizationIfNeeded p.authType o.authAllocated = false

variable (osStrToUint32Cptr) in
theorem httpSendAdvsInternal_spec (h : w.Clear) {p : AdvsParams} {o : AdvsOutcome}
    (hleaks : ¬ o.Leaks p) :
    World.StartedOrClear (httpSendAdvsInternal osStrToUint32Cptr p o w) := by
  have hselected := h.createSelect p.recipient true o.genCreated
  have hprepared := hselected.initClientConfig p.useSslClientCert p.useSslServerCert o.certs
  unfold httpSendAdvsInternal
  dsimp only
  split_ifs with hgen hurl hclient hauth
  · rw [Bool.not_eq_true', Bool.eq_false_iff] at hgen
    rw [Bool.eq_false_iff.mpr hgen]
    exact h.createSelect_failed _ _
  · exact hselected.toPrepared.freeData
  · rw [Bool.not_eq_true'] at hclient
    rw [hclient]
    exact hprepared.clientInit_failed.freeData
  · refine absurd ⟨?_, ?_, ?_, ?_, ?_⟩ hleaks <;> simp_all
  · rw [Bool.not_eq_true', Bool.not_eq_false] at hclient
    rw [hclient]
    exact (hprepared.clientInit.setAction p.flagPostToRuuvi).send o.send

variable (osStrToUint32Cptr) in
/-- The client stays behind without its data. -/
theorem httpSendAdvsInternal_leaks (h : w.Clear) {p : AdvsParams} {o : AdvsOutcome}
    (hleaks : o.Leaks p) :
    (httpSendAdvsInternal osStrToUint32Cptr p o w).1 = false ∧
      (httpSendAdvsInternal osStrToUint32Cptr p o w).2.Started := by
  obtain ⟨hgen, hurl, hclient, hcustom, hauth⟩ := hleaks
  have hselected := h.createSelect p.recipient true o.genCreated
  have hprepared := hselected.initClientConfig p.useSslClientCert p.useSslServerCert o.certs
  have hstarted := hprepared.clientInit
  unfold httpSendAdvsInternal
  simp only [hgen, hurl, hclient, hcustom, hauth, Bool.not_true, Bool.not_false, Bool.and_self,
    Bool.false_eq_true, if_false, if_true]
  rw [hgen] at hstarted
  exact ⟨trivial, hstarted.balanced.freeData, hstarted.client⟩

variable (osStrToUint32Cptr) in
theorem httpSendStatisticsInternal_spec (h : w.Clear) (useSslClientCert useSslServerCert : Bool)
    (o : StatOutcome) :
    World.StartedOrClear (httpSendStatisticsInternal osStrToUint32Cptr useSslClientCert
      useSslServerCert o w) := by
  have hselected := h.createSelect .stats false o.jsonCreated
  have hprepared := hselected.initClientConfig useSslClientCert useSslServerCert o.certs
  unfold httpSendStatisticsInternal
  dsimp only
  split_ifs with hjson hclient
  · rw [Bool.not_eq_true'] at hjson
    rw [hjson]
    exact h.createSelect_failed _ _
  · rw [Bool.not_eq_true'] at hclient
    rw [hclient]
    exact hprepared.clientInit_failed.freeData
  · rw [Bool.not_eq_true', Bool.not_eq_false] at hclient
    rw [hclient]
    exact hprepared.clientInit.send o.send

variable (osStrToUint32Cptr) in
theorem httpSendAdvsInternal_owner (p : AdvsParams) (o : AdvsOutcome) (w : World) :
    (httpSendAdvsInternal osStrToUint32Cptr p o w).2.info.owner = w.info.owner := by
  unfold httpSendAdvsInternal
  dsimp only
  split_ifs
  · rfl
  · rfl
  · rfl
  · rfl
  · exact send_owner osStrToUint32Cptr o.send _

variable (osStrToUint32Cptr) in
theorem httpSendStatisticsInternal_owner (useSslClientCert useSslServerCert : Bool)
    (o : StatOutcome) (w : World) :
    (httpSendStatisticsInternal osStrToUint32Cptr useSslClientCert useSslServerCert o
      w).2.info.owner = w.info.owner := by
  unfold httpSendStatisticsInternal
  dsimp only
  split_ifs
  · rfl
  · rfl
  · exact send_owner osStrToUint32Cptr o.send _

end Internal

section Runs

inductive Call
  | postAdvs (task : ℕ) (p : AdvsParams) (o : AdvsOutcome)
  | postStat (task : ℕ) (useSslClientCert useSslServerCert : Bool) (o : StatOutcome)
  | poll (task : ℕ) (o : PollOutcome)
  | abort (task : ℕ)
  | checkPostAdvs (task : ℕ) (p : HttpCheckParams) (o : CheckOutcome AdvsOutcome)
  | checkPostStat (task : ℕ) (p : HttpCheckParams) (o : CheckOutcome CheckStatOutcome)

inductive CallResult
  | started (success : Bool)
  | polled (ended : Bool)
  | aborted
  | checked (resp : CheckResp)
  deriving DecidableEq

variable (osStrToUint32Cptr : Bytes → ℕ → UInt32 × ℕ)

/-- A call has no successor if an assertion fails in it. -/
def Call.exec (w : World) : Call → Option (World × CallResult)
  | .postAdvs task p o =>
      (httpPostAdvs osStrToUint32Cptr task p o w).map fun r => (r.2, .started r.1)
  | .postStat task useSslClientCert useSslServerCert o =>
      (httpPostStat osStrToUint32Cptr task useSslClientCert useSslServerCert o w).map fun r =>
        (r.2, .started r.1)
  | .poll task o => (httpAsyncPoll osStrToUint32Cptr task o w).map fun r => (r.2, .polled r.1)
  | .abort task => (httpAbortAnyReqDuringProcessing task w).map fun w => (w, .aborted)
  | .checkPostAdvs task p o =>
      (httpCheckPostAdvs osStrToUint32Cptr task p o w).map fun r => (r.2, .checked r.1)
  | .checkPostStat task p o =>
      (httpCheckPostStat osStrToUint32Cptr task p o w).map fun r => (r.2, .checked r.1)

/-- The calls in any order, from any keys and periods on. -/
def httpCalls (targets : Targets) : System World Call CallResult where
  init := .initial targets
  step w c := c.exec osStrToUint32Cptr w

/-- The requests that were started and have neither been polled to their end nor aborted. -/
def inFlight : List (Call × CallResult) → ℕ
  | [] => 0
  | (_, .started success) :: history => if success then inFlight history + 1 else inFlight history
  | (_, .polled ended) :: history => if ended then inFlight history - 1 else inFlight history
  | (_, .aborted) :: _ => 0
  | (_, .checked _) :: history => inFlight history

/-- What holds while no call is executing. -/
structure LifeCycle (history : List (Call × CallResult)) (w : World) : Prop where
  sema : w.info.httpAsyncSemaTaken = true ↔
    inFlight history = 1 ∧ w.info.httpClientHandle.isSome = true
  /-- What the request in flight owns has not been released. -/
  inUse : w.info.httpAsyncSemaTaken = true → ∀ o ∈ w.info.held, w.ledger.released.count o = 0
  /-- All else was released once. -/
  ended : ∀ o ∈ w.ledger.obtained, ¬ (w.info.httpAsyncSemaTaken = true ∧ o ∈ w.info.held) →
    w.ledger.released.count o = 1
  /-- Nothing is released that was not obtained. -/
  owned : ∀ o ∈ w.ledger.released, o ∈ w.ledger.obtained

/-- The request in flight, or nothing. -/
inductive Phase (history : List (Call × CallResult)) (w : World) : Prop
  | busy (hsema : w.info.httpAsyncSemaTaken = true) (hflight : inFlight history = 1)
      (hstarted : w.Started)
  | idle (hsema : w.info.httpAsyncSemaTaken = false) (hflight : inFlight history = 0)
      (hclear : w.Clear)

/-- The call gives up a client that it has initialised. -/
def Call.Leaks : Call → Prop
  | .postAdvs _ p o => o.Leaks p
  | .checkPostAdvs _ p o => o.cfgAllocated = true ∧ fitsField p.url gwCfgMaxHttpUrlLen = true ∧
      httpCheckPostAdvsPrepAuth p = true ∧ o.send.Leaks p.advs
  | .postStat _ _ _ _ => False
  | .poll _ _ => False
  | .abort _ => False
  | .checkPostStat _ _ _ => False

end Runs

section Steps

variable {osStrToUint32Cptr : Bytes → ℕ → UInt32 × ℕ} {w w' : World}
variable {history : List (Call × CallResult)}

theorem Phase.lifeCycle (h : Phase history w) : LifeCycle history w := by
  cases h with
  | busy hsema hflight hstarted =>
    have hsettled : w.ledger.Settled w.info.held := hstarted.balanced
    constructor
    · exact iff_of_true hsema ⟨hflight, hstarted.client⟩
    · exact fun _ o ho => hsettled.count_of_held ho
    · exact fun o ho hnot => hsettled.count_of_not_held ho fun hmem => hnot ⟨hsema, hmem⟩
    · exact fun o ho => hsettled.obtained_of_released ho
  | idle hsema hflight hclear =>
    have hnot : ¬ w.info.httpAsyncSemaTaken = true := Bool.eq_false_iff.mp hsema
    constructor
    · refine iff_of_false hnot fun hboth => ?_
      rw [hflight] at hboth
      exact absurd hboth.1 Nat.zero_ne_one
    · exact fun htaken => absurd htaken hnot
    · exact fun o ho _ => hclear.settled.count_of_not_held ho List.not_mem_nil
    · exact fun o ho => hclear.settled.obtained_of_released ho

theorem lock_some {task : ℕ} {w₁ : World} (h : w.lock task = some w₁) :
    w.info.httpAsyncSemaTaken = false ∧ w₁.info.httpAsyncSemaTaken = true ∧
      (w.Clear → w₁.Clear) := by
  unfold World.lock at h
  split_ifs at h with htaken
  obtain rfl := Option.some.inj h
  refine ⟨Bool.eq_false_iff.mpr htaken, rfl, fun hclear => ?_⟩
  obtain ⟨hbalanced, hdata, hclient⟩ := hclear
  exact ⟨hbalanced, ⟨hdata.certPem, hdata.clientCertPem, hdata.clientKeyPem, hdata.select⟩, hclient⟩

theorem World.Clear.unlock (h : w.Clear) : w.unlock.Clear :=
  ⟨h.balanced, ⟨h.noData.certPem, h.noData.clientCertPem, h.noData.clientKeyPem, h.noData.select⟩,
    h.noClient⟩

/-- A call that gets the semaphore finds nothing in flight. -/
theorem Phase.lock (h : Phase history w) {task : ℕ} {w₁ : World} (hlock : w.lock task = some w₁) :
    inFlight history = 0 ∧ w₁.info.httpAsyncSemaTaken = true ∧ w₁.Clear := by
  obtain ⟨hfree, htaken, hclear⟩ := lock_some hlock
  cases h with
  | busy hsema hflight hstarted =>
    rw [hfree] at hsema
    cases hsema
  | idle hsema hflight hidle => exact ⟨hflight, htaken, hclear hidle⟩

/-- An attempt to start a request that had the semaphore. -/
theorem phase_started {c : Call} {r : Bool × World} (hflight : inFlight history = 0)
    (hsema : r.2.info.httpAsyncSemaTaken = true) (hr : World.StartedOrClear r) :
    Phase ((c, .started r.1) :: history) (r.2.unlockUnless r.1) := by
  obtain ⟨success, w⟩ := r
  cases success with
  | true =>
    refine .busy hsema ?_ hr
    simp [inFlight, hflight]
  | false => exact .idle rfl hflight hr.unlock

theorem World.Started.waitAndCleanup (h : w.Started) (o : WaitOutcome) :
    (w.waitAndCleanup osStrToUint32Cptr o).2.Clear :=
  (h.balanced.perform o.headers).cleanupAndFreeData

theorem httpCheckPostAdvsInternal2_clear (h : w.Clear) {p : HttpCheckParams}
    {o : CheckOutcome AdvsOutcome} {task : ℕ} (hleaks : ¬ (Call.checkPostAdvs task p o).Leaks) :
    (httpCheckPostAdvsInternal2 osStrToUint32Cptr p o w).2.Clear := by
  unfold httpCheckPostAdvsInternal2 httpCheckPostAdvsInternal3
  split_ifs with hcfg hurl hauth
  · exact h
  · exact h
  · exact h
  · have hsend : ¬ o.send.Leaks p.advs := fun hsend =>
      hleaks ⟨by simpa using hcfg, by simpa using hurl, by simpa using hauth, hsend⟩
    have hspec := httpSendAdvsInternal_spec osStrToUint32Cptr h hsend
    split
    case h_1 w₁ hfailed =>
      rw [hfailed] at hspec
      exact hspec
    case h_2 w₁ hstarted =>
      rw [hstarted] at hspec
      exact World.Started.waitAndCleanup hspec o.wait

theorem httpCheckPostStatInternal2_clear (h : w.Clear) (p : HttpCheckParams)
    (o : CheckOutcome CheckStatOutcome) :
    (httpCheckPostStatInternal2 osStrToUint32Cptr p o w).2.Clear := by
  unfold httpCheckPostStatInternal2 httpCheckPostStatInternal3
  split_ifs
  · exact h
  · exact h
  · exact h
  · exact h
  · have hspec := httpSendStatisticsInternal_spec osStrToUint32Cptr h
      p.useSslClientCert p.useSslServerCert o.send.stat
    split
    case h_1 w₁ hfailed =>
      rw [hfailed] at hspec
      exact hspec
    case h_2 w₁ hstarted =>
      rw [hstarted] at hspec
      exact World.Started.waitAndCleanup hspec o.wait

theorem Phase.poll (h : Phase history w) {task : ℕ} {o : PollOutcome} {ended : Bool}
    (hpoll : httpAsyncPoll osStrToUint32Cptr task o w = some (ended, w')) :
    Phase ((.poll task o, .polled ended) :: history) w' := by
  obtain ⟨hinfo, hledger⟩ := perform_info osStrToUint32Cptr o.headers w
  unfold httpAsyncPoll at hpoll
  dsimp only at hpoll
  split_ifs at hpoll with htask hagain
  · simp only [Option.some.injEq, Prod.mk.injEq] at hpoll
    obtain ⟨rfl, rfl⟩ := hpoll
    cases h with
    | busy hsema hflight hstarted =>
      refine .busy ?_ hflight ⟨hstarted.balanced.perform _, ?_⟩
      · rwa [hinfo]
      · rw [hinfo]
        exact hstarted.client
    | idle hsema hflight hclear =>
      refine .idle ?_ hflight ⟨hclear.balanced.perform _, ?_, ?_⟩
      · rwa [hinfo]
      · rw [hinfo]
        exact hclear.noData
      · rw [hinfo]
        exact hclear.noClient
  · simp only [Option.some.injEq, Prod.mk.injEq] at hpoll
    obtain ⟨rfl, rfl⟩ := hpoll
    cases h with
    | busy hsema hflight hstarted =>
      refine .idle rfl ?_ (hstarted.balanced.perform o.headers).cleanupAndFreeData.unlock
      simp [inFlight, hflight]
    | idle hsema hflight hclear =>
      refine .idle rfl ?_ (hclear.balanced.perform o.headers).cleanupAndFreeData.unlock
      simp [inFlight, hflight]

theorem Phase.abort (h : Phase history w) {task : ℕ}
    (habort : httpAbortAnyReqDuringProcessing task w = some w') :
    Phase ((.abort task, .aborted) :: history) w' := by
  unfold httpAbortAnyReqDuringProcessing at habort
  cases h with
  | busy hsema hflight hstarted =>
    rw [hsema] at habort
    split_ifs at habort with hfree htask
    · cases hfree
    · obtain rfl := Option.some.inj habort
      exact .idle rfl rfl hstarted.balanced.cleanupAndFreeData.unlock
  | idle hsema hflight hclear =>
    rw [hsema] at habort
    obtain rfl := Option.some.inj habort
    exact .idle hsema rfl hclear

theorem Phase.exec (h : Phase history w) {c : Call} {r : CallResult} (hleaks : ¬ c.Leaks)
    (hexec : c.exec osStrToUint32Cptr w = some (w', r)) : Phase ((c, r) :: history) w' := by
  cases c with
  | postAdvs task p o =>
    simp only [Call.exec, httpPostAdvs, Option.map_map, Option.map_eq_some_iff] at hexec
    obtain ⟨w₁, hlock, hr⟩ := hexec
    obtain ⟨hflight, hsema, hclear⟩ := h.lock hlock
    obtain ⟨rfl, rfl⟩ := Prod.mk.inj hr
    have howner := congrArg Prod.fst (httpSendAdvsInternal_owner osStrToUint32Cptr p o w₁)
    exact phase_started hflight (howner.trans hsema)
      (httpSendAdvsInternal_spec osStrToUint32Cptr hclear hleaks)
  | postStat task useSslClientCert useSslServerCert o =>
    simp only [Call.exec, httpPostStat, Option.map_map, Option.map_eq_some_iff] at hexec
    obtain ⟨w₁, hlock, hr⟩ := hexec
    obtain ⟨hflight, hsema, hclear⟩ := h.lock hlock
    obtain ⟨rfl, rfl⟩ := Prod.mk.inj hr
    have howner := congrArg Prod.fst (httpSendStatisticsInternal_owner osStrToUint32Cptr
      useSslClientCert useSslServerCert o w₁)
    exact phase_started hflight (howner.trans hsema)
      (httpSendStatisticsInternal_spec osStrToUint32Cptr hclear useSslClientCert useSslServerCert o)
  | poll task o =>
    simp only [Call.exec, Option.map_eq_some_iff] at hexec
    obtain ⟨⟨ended, w₁⟩, hpoll, hr⟩ := hexec
    obtain ⟨rfl, rfl⟩ := Prod.mk.inj hr
    exact h.poll hpoll
  | abort task =>
    simp only [Call.exec, Option.map_eq_some_iff] at hexec
    obtain ⟨w₁, habort, hr⟩ := hexec
    obtain ⟨rfl, rfl⟩ := Prod.mk.inj hr
    exact h.abort habort
  | checkPostAdvs task p o =>
    simp only [Call.exec, httpCheckPostAdvs, Option.map_map, Option.map_eq_some_iff] at hexec
    obtain ⟨w₁, hlock, hr⟩ := hexec
    obtain ⟨hflight, -, hclear⟩ := h.lock hlock
    obtain ⟨rfl, rfl⟩ := Prod.mk.inj hr
    exact .idle rfl hflight (httpCheckPostAdvsInternal2_clear hclear hleaks).unlock
  | checkPostStat task p o =>
    simp only [Call.exec, httpCheckPostStat, Option.map_map, Option.map_eq_some_iff] at hexec
    obtain ⟨w₁, hlock, hr⟩ := hexec
    obtain ⟨hflight, -, hclear⟩ := h.lock hlock
    obtain ⟨rfl, rfl⟩ := Prod.mk.inj hr
    exact .idle rfl hflight (httpCheckPostStatInternal2_clear hclear p o).unlock

/-- A client that is left behind without the semaphore is never cleaned up. -/
theorem World.Started.not_lifeCycle (h : w.Started) : ¬ LifeCycle history w.unlock := by
  intro hlife
  obtain ⟨n, hn⟩ := Option.isSome_iff_exists.mp h.client
  have hheld : (ObjKind.client, n) ∈ w.info.held := by
    rw [HttpAsyncInfo.held, hn]
    exact List.mem_append_right _ List.mem_cons_self
  have hsettled : w.ledger.Settled w.info.held := h.balanced
  have hreleased := hlife.ended _ (hsettled.perm.mem_iff.mpr (List.mem_append_right _ hheld))
    fun htaken => Bool.false_ne_true htaken.1
  have hnone : w.unlock.ledger.released.count (ObjKind.client, n) = 0 :=
    hsettled.count_of_held hheld
  rw [hnone] at hreleased
  cases hreleased

theorem Phase.exec_leaks (h : Phase history w) {c : Call} {r : CallResult} (hleaks : c.Leaks)
    (hexec : c.exec osStrToUint32Cptr w = some (w', r)) : ¬ LifeCycle ((c, r) :: history) w' := by
  cases c with
  | postAdvs task p o =>
    simp only [Call.exec, httpPostAdvs, Option.map_map, Option.map_eq_some_iff] at hexec
    obtain ⟨w₁, hlock, hr⟩ := hexec
    obtain ⟨-, -, hclear⟩ := h.lock hlock
    obtain ⟨hfailed, hstarted⟩ :=
      httpSendAdvsInternal_leaks osStrToUint32Cptr hclear hleaks
    obtain ⟨rfl, rfl⟩ := Prod.mk.inj hr
    dsimp only
    rw [hfailed]
    exact hstarted.not_lifeCycle
  | checkPostAdvs task p o =>
    obtain ⟨hcfg, hurl, hauth, hsend⟩ := hleaks
    simp only [Call.exec, httpCheckPostAdvs, Option.map_map, Option.map_eq_some_iff] at hexec
    obtain ⟨w₁, hlock, hr⟩ := hexec
    obtain ⟨-, -, hclear⟩ := h.lock hlock
    obtain ⟨hfailed, hstarted⟩ :=
      httpSendAdvsInternal_leaks osStrToUint32Cptr hclear hsend
    obtain ⟨rfl, rfl⟩ := Prod.mk.inj hr
    have hinternal : (httpCheckPostAdvsInternal2 osStrToUint32Cptr p o w₁).2 =
        (httpSendAdvsInternal osStrToUint32Cptr p.advs o.send w₁).2 := by
      unfold httpCheckPostAdvsInternal2 httpCheckPostAdvsInternal3
      rw [hcfg, hurl, hauth]
      simp only [Bool.not_true, Bool.false_eq_true, if_false]
      split
      case h_1 w₂ hresult => rw [hresult]
      case h_2 w₂ hresult =>
        rw [hresult] at hfailed
        cases hfailed
    dsimp only
    rw [hinternal]
    exact hstarted.not_lifeCycle
  | postStat task useSslClientCert useSslServerCert o => exact hleaks.elim
  | poll task o => exact hleaks.elim
  | abort task => exact hleaks.elim
  | checkPostStat task p o => exact hleaks.elim

/-- The life cycle in every run without a call that gives up its client, which is the only call
that breaks it. -/
theorem httpCalls_lifeCycle {targets : Targets}
    (hr : (httpCalls osStrToUint32Cptr targets).Run (fun _ c => ¬ c.Leaks) history w) :
    LifeCycle history w ∧ ∀ c w' r, c.Leaks → c.exec osStrToUint32Cptr w = some (w', r) →
      ¬ LifeCycle ((c, r) :: history) w' := by
  have hphase : Phase history w := by
    refine hr.historyInvariant (I := Phase) ?_ ?_
    · exact .idle rfl rfl ⟨Ledger.settled_empty, ⟨rfl, rfl, rfl, rfl⟩, rfl⟩
    · intro history w c w' r hphase hleaks hstep
      exact hphase.exec hleaks hstep
  exact ⟨hphase.lifeCycle, fun c w' r hleaks hexec => hphase.exec_leaks hleaks hexec⟩

end Steps

section Samples

def sampleTargets : Targets :=
  ⟨⟨ascii "key", by decide⟩, ⟨ascii "key", by decide⟩, ⟨ascii "key", by decide⟩, 10000, 10000⟩

/-- Every call succeeds but for the allocation of the header, and the request goes on. -/
def sampleAdvs (authAllocated : Bool) : AdvsOutcome :=
  ⟨true, true, ⟨true, true, true⟩, true, authAllocated, ⟨true, [], true⟩⟩

/-- The custom server wants a bearer token and has certificates. -/
def sampleParams : AdvsParams := ⟨false, true, true, .bearer⟩

instance (p : AdvsParams) (o : AdvsOutcome) : Decidable (o.Leaks p) :=
  inferInstanceAs (Decidable (_ ∧ _ ∧ _ ∧ _ ∧ _))

instance : DecidablePred Call.Leaks
  | .postAdvs _ p o => inferInstanceAs (Decidable (o.Leaks p))
  | .checkPostAdvs _ p o => inferInstanceAs (Decidable (_ ∧ _ ∧ _ ∧ o.send.Leaks p.advs))
  | .postStat _ _ _ _ => inferInstanceAs (Decidable False)
  | .poll _ _ => inferInstanceAs (Decidable False)
  | .abort _ => inferInstanceAs (Decidable False)
  | .checkPostStat _ _ _ => inferInstanceAs (Decidable False)

/-- Numbers are not needed here. -/
def sampleNumber (_ : Bytes) (_ : ℕ) : UInt32 × ℕ := (0, 0)

/-- A request owns five objects, all of which are released in the end. -/
theorem httpCalls_lifeCycle_sample : ∃ history w,
    (httpCalls sampleNumber sampleTargets).Run (fun _ c => ¬ c.Leaks) history w ∧
      LifeCycle history w ∧ w.ledger.released.length = 5 := by
  obtain ⟨history, w, hrun, hw⟩ := System.exists_run_of_exec
    [.postAdvs 1 sampleParams (sampleAdvs true), .poll 1 ⟨[], true⟩, .poll 1 ⟨[], false⟩]
    (S := httpCalls sampleNumber sampleTargets) (G := fun _ c => ¬ c.Leaks)
    (P := fun w => w.ledger.released.length == 5) (by decide +kernel)
  exact ⟨history, w, hrun, (httpCalls_lifeCycle hrun).1, by simpa using hw⟩

/-- Without the memory for the authorization header the client is never cleaned up. -/
theorem httpCalls_leaksClient : ¬ ∀ history w,
    (httpCalls sampleNumber sampleTargets).FreeRun history w → LifeCycle history w := by
  intro hall
  obtain ⟨history, w, hrun, hw⟩ := System.exists_run_of_exec
    [.postAdvs 1 sampleParams (sampleAdvs false)] (S := httpCalls sampleNumber sampleTargets)
    (G := fun _ _ => True)
    (P := fun w => !w.info.httpAsyncSemaTaken && decide ((.client, 4) ∈ w.ledger.obtained) &&
      decide (w.ledger.released.count (.client, 4) = 0)) (by decide +kernel)
  simp only [Bool.and_eq_true, Bool.not_eq_true', decide_eq_true_eq] at hw
  obtain ⟨⟨hsema, hobtained⟩, hreleased⟩ := hw
  have hended := (hall history w hrun).ended _ hobtained fun hheld => by
    rw [hsema] at hheld
    cases hheld.1
  rw [hreleased] at hended
  cases hended

end Samples

end RuuviGateway.Http
