import RuuviGateway.Http.LifeCycle

/-!
# The sender of a header

The action of the posting task is set when the task starts a transfer and cleared when it has polled
the request to its end, but it outlives an aborted transfer. A check of the custom server sets it as
well and leaves it so, and a check of the server for the statistics takes it as it is.
-/

namespace RuuviGateway.Http

open General AdvPost Config

section Acts

/-- The headers, the last one first, have led from the first targets to the present ones. -/
def LedTo (first : Targets) : List Handled → Targets → Prop
  | [], targets => targets = first
  | e :: handled, targets => targets = e.after ∧ LedTo first handled e.before

/-- Only headers have changed the targets, each of them only the target that had sent it. -/
structure ActsOnSenders (first : Targets) (w : World) : Prop where
  acts : ∀ e ∈ w.handled, ActsOn e.recipient e.header e.before e.after
  ledTo : LedTo first w.handled w.targets

/-- The header is one that the handler acts on. -/
def Header.Acts (h : Header) : Prop := h.isHmacKey = true ∨ h.isGatewayRate = true

variable {osStrToUint32Cptr : Bytes → ℕ → UInt32 × ℕ} {w : World} {first : Targets}

/-- No header is handled that acts on another target than its sender. -/
def World.Ready (w : World) (headers : List Header) : Prop :=
  Serves w.action w.clientFor ∨ ∀ h ∈ headers, ¬ h.Acts

theorem ActsOnSenders.handleHeader (hw : ActsOnSenders first w) {h : Header}
    (hready : Serves w.action w.clientFor ∨ ¬ h.Acts) :
    ActsOnSenders first (w.handleHeader osStrToUint32Cptr h) := by
  refine ⟨List.forall_mem_cons.mpr ⟨?_, hw.acts⟩, rfl, hw.ledTo⟩
  rcases hready with hserves | hother
  · exact onHeader_actsOn osStrToUint32Cptr hserves h w.targets
  · have hnone := not_or.mp hother
    dsimp only
    rw [onHeader_other osStrToUint32Cptr w.action (Bool.eq_false_iff.mpr hnone.1)
      (Bool.eq_false_iff.mpr hnone.2)]
    exact .refl _ h w.targets

theorem ActsOnSenders.handleHeaders (hw : ActsOnSenders first w) {headers : List Header}
    (hready : w.Ready headers) :
    ActsOnSenders first (headers.foldl (World.handleHeader osStrToUint32Cptr) w) := by
  induction headers generalizing w with
  | nil => exact hw
  | cons h headers ih =>
    have hfirst : Serves w.action w.clientFor ∨ ¬ h.Acts :=
      hready.imp id fun hother => hother h List.mem_cons_self
    have hrest : (w.handleHeader osStrToUint32Cptr h).Ready headers :=
      hready.imp id fun hother h' hmem => hother h' (List.mem_cons_of_mem _ hmem)
    exact ih (hw.handleHeader hfirst) hrest

variable (osStrToUint32Cptr) in
/-- A client is needed for headers to arrive. -/
theorem ActsOnSenders.perform (hw : ActsOnSenders first w) {headers : List Header}
    (hready : w.Ready headers) : ActsOnSenders first (w.perform osStrToUint32Cptr headers) := by
  unfold World.perform
  split_ifs
  · exact hw.handleHeaders hready
  · exact hw

/-- The action, and the recipient of the last client. -/
def World.addressed (w : World) : Action × Recipient := (w.action, w.clientFor)

variable (osStrToUint32Cptr) in
/-- The action and the recipient stay as they are while headers arrive. -/
theorem perform_addressed (headers : List Header) (w : World) :
    (w.perform osStrToUint32Cptr headers).addressed = w.addressed := by
  have hfold (w : World) :
      (headers.foldl (World.handleHeader osStrToUint32Cptr) w).addressed = w.addressed := by
    induction headers generalizing w with
    | nil => rfl
    | cons h headers ih => exact ih (w.handleHeader osStrToUint32Cptr h)
  unfold World.perform
  split_ifs
  · exact hfold w
  · rfl

/-- What changes neither the targets nor what was handled. -/
theorem ActsOnSenders.of_eq {w' : World} (hw : ActsOnSenders first w)
    (hhandled : w'.handled = w.handled) (htargets : w'.targets = w.targets) :
    ActsOnSenders first w' := by
  constructor
  · rw [hhandled]
    exact hw.acts
  · rw [hhandled, htargets]
    exact hw.ledTo

theorem ActsOnSenders.freeCerts (hw : ActsOnSenders first w) : ActsOnSenders first w.freeCerts :=
  hw.of_eq rfl rfl

theorem ActsOnSenders.cleanup (hw : ActsOnSenders first w) : ActsOnSenders first w.cleanup :=
  hw.of_eq rfl rfl

theorem ActsOnSenders.freeData (hw : ActsOnSenders first w) :
    ActsOnSenders first (httpAsyncInfoFreeData w) := hw.freeCerts.of_eq rfl rfl

theorem ActsOnSenders.cleanupAndFreeData (hw : ActsOnSenders first w) :
    ActsOnSenders first w.cleanupAndFreeData := hw.cleanup.freeData

theorem ActsOnSenders.createSelect (hw : ActsOnSenders first w) (r : Recipient)
    (useJsonStreamGen created : Bool) :
    ActsOnSenders first (w.createSelect r useJsonStreamGen created) := hw.of_eq rfl rfl

theorem ActsOnSenders.initClientConfig (hw : ActsOnSenders first w)
    (useSslClientCert useSslServerCert : Bool) (o : CertsOutcome) :
    ActsOnSenders first (httpInitClientConfig useSslClientCert useSslServerCert o w) :=
  hw.of_eq rfl rfl

theorem ActsOnSenders.clientInit (hw : ActsOnSenders first w) (success : Bool) :
    ActsOnSenders first (w.clientInit success) := hw.of_eq rfl rfl

theorem ActsOnSenders.setHttpAction (hw : ActsOnSenders first w) (flagPostToRuuvi : Bool) :
    ActsOnSenders first (advPostSetAdvPostHttpAction flagPostToRuuvi w) := hw.of_eq rfl rfl

end Acts

section Requests

variable {osStrToUint32Cptr : Bytes → ℕ → UInt32 × ℕ} {w : World} {first : Targets}

/-- The headers that arrive in an attempt to send. -/
def SendOutcome.arrived (o : SendOutcome) : List Header := if o.postDataSet then o.headers else []

theorem ActsOnSenders.send (hw : ActsOnSenders first w) {o : SendOutcome}
    (hready : w.Ready o.arrived) : ActsOnSenders first (w.send osStrToUint32Cptr o).2 := by
  rw [SendOutcome.arrived] at hready
  rw [send_eq]
  split_ifs with hset hagain
  · exact hw.cleanupAndFreeData
  · rw [Bool.not_eq_true', Bool.not_eq_false] at hset
    rw [if_pos hset] at hready
    exact (hw.perform osStrToUint32Cptr hready).freeCerts.cleanup.cleanupAndFreeData
  · rw [Bool.not_eq_true', Bool.not_eq_false] at hset
    rw [if_pos hset] at hready
    exact hw.perform osStrToUint32Cptr hready

@[simp] theorem freeCerts_addressed (w : World) : w.freeCerts.addressed = w.addressed := rfl

@[simp] theorem cleanup_addressed (w : World) : w.cleanup.addressed = w.addressed := rfl

@[simp] theorem cleanupAndFreeData_addressed (w : World) :
    w.cleanupAndFreeData.addressed = w.addressed := rfl

variable (osStrToUint32Cptr) in
theorem send_addressed (o : SendOutcome) (w : World) :
    (w.send osStrToUint32Cptr o).2.addressed = w.addressed := by
  have hperform := perform_addressed osStrToUint32Cptr o.headers w
  rw [send_eq]
  split_ifs
  · exact cleanupAndFreeData_addressed w
  · simpa only [cleanupAndFreeData_addressed, cleanup_addressed, freeCerts_addressed] using hperform
  · exact hperform

theorem AdvsParams.action_eq (p : AdvsParams) (w : World) :
    (advPostSetAdvPostHttpAction p.flagPostToRuuvi w).action = p.recipient.action := by
  unfold advPostSetAdvPostHttpAction AdvsParams.recipient
  cases p.flagPostToRuuvi <;> rfl

variable (osStrToUint32Cptr) in
theorem ActsOnSenders.sendAdvs (hw : ActsOnSenders first w) (p : AdvsParams) (o : AdvsOutcome) :
    ActsOnSenders first (httpSendAdvsInternal osStrToUint32Cptr p o w).2 := by
  have hselected := hw.createSelect p.recipient true o.genCreated
  have hprepared := hselected.initClientConfig p.useSslClientCert p.useSslServerCert o.certs
  have hclient := hprepared.clientInit o.clientInit
  unfold httpSendAdvsInternal
  dsimp only
  split_ifs
  · exact hselected
  · exact hselected.freeData
  · exact hclient.freeData
  · exact hclient.freeData
  · exact (hclient.setHttpAction p.flagPostToRuuvi).send (.inl (.inl (p.action_eq _)))

variable (osStrToUint32Cptr) in
/-- While advertisements are posted the action is that of the target. -/
theorem httpSendAdvsInternal_addressed (p : AdvsParams) (o : AdvsOutcome) (w : World)
    (hstarted : (httpSendAdvsInternal osStrToUint32Cptr p o w).1 = true) :
    (httpSendAdvsInternal osStrToUint32Cptr p o w).2.addressed =
      (p.recipient.action, p.recipient) := by
  unfold httpSendAdvsInternal at hstarted ⊢
  dsimp only at hstarted ⊢
  split_ifs at hstarted ⊢
  rw [send_addressed, World.addressed, p.action_eq]
  rfl

/-- The headers that arrive in an attempt to send the statistics. -/
def StatOutcome.arrived (o : StatOutcome) : List Header :=
  if o.jsonCreated ∧ o.clientInit then o.send.arrived else []

variable (osStrToUint32Cptr) in
theorem ActsOnSenders.sendStatistics (hw : ActsOnSenders first w)
    (useSslClientCert useSslServerCert : Bool) {o : StatOutcome}
    (hready : Serves w.action .stats ∨ ∀ h ∈ o.arrived, ¬ h.Acts) :
    ActsOnSenders first (httpSendStatisticsInternal osStrToUint32Cptr useSslClientCert
      useSslServerCert o w).2 := by
  have hselected := hw.createSelect .stats false o.jsonCreated
  have hprepared := hselected.initClientConfig useSslClientCert useSslServerCert o.certs
  have hclient := hprepared.clientInit o.clientInit
  unfold httpSendStatisticsInternal
  dsimp only
  split_ifs with hjson hinit
  · exact hselected
  · exact hclient.freeData
  · rw [Bool.not_eq_true', Bool.not_eq_false] at hjson hinit
    rw [StatOutcome.arrived, if_pos ⟨hjson, hinit⟩] at hready
    exact hclient.send hready

variable (osStrToUint32Cptr) in
/-- The statistics are sent with the action that is found. -/
theorem httpSendStatisticsInternal_addressed (useSslClientCert useSslServerCert : Bool)
    (o : StatOutcome) (w : World)
    (hstarted : (httpSendStatisticsInternal osStrToUint32Cptr useSslClientCert useSslServerCert o
      w).1 = true) :
    (httpSendStatisticsInternal osStrToUint32Cptr useSslClientCert useSslServerCert o
      w).2.addressed = (w.action, .stats) := by
  unfold httpSendStatisticsInternal at hstarted ⊢
  dsimp only at hstarted ⊢
  split_ifs at hstarted ⊢
  rw [send_addressed]
  rfl

end Requests

section Checks

variable {osStrToUint32Cptr : Bytes → ℕ → UInt32 × ℕ} {w : World} {first : Targets}

theorem ActsOnSenders.waitAndCleanup (hw : ActsOnSenders first w) {o : WaitOutcome}
    (hready : w.Ready o.headers) :
    ActsOnSenders first (w.waitAndCleanup osStrToUint32Cptr o).2 :=
  (hw.perform osStrToUint32Cptr hready).cleanupAndFreeData

/-- A check of the custom server sets the action before headers arrive. -/
theorem ActsOnSenders.checkAdvs (hw : ActsOnSenders first w) (p : HttpCheckParams)
    (o : CheckOutcome AdvsOutcome) :
    ActsOnSenders first (httpCheckPostAdvsInternal2 osStrToUint32Cptr p o w).2 := by
  unfold httpCheckPostAdvsInternal2 httpCheckPostAdvsInternal3
  split_ifs
  · exact hw
  · exact hw
  · exact hw
  · have hsent := hw.sendAdvs osStrToUint32Cptr p.advs o.send
    have haddressed := httpSendAdvsInternal_addressed osStrToUint32Cptr p.advs o.send w
    split
    case h_1 w₁ hfailed =>
      rw [hfailed] at hsent
      exact hsent
    case h_2 w₁ hstarted =>
      rw [hstarted] at hsent haddressed
      obtain ⟨hcustom, hclient⟩ := Prod.mk.inj (haddressed rfl)
      refine hsent.waitAndCleanup (.inl (.inl ?_))
      rw [hcustom, hclient]

/-- The headers that arrive in a check of the server for the statistics. -/
def CheckOutcome.arrived (p : HttpCheckParams) (o : CheckOutcome CheckStatOutcome) : List Header :=
  if o.cfgAllocated ∧ fitsField p.url gwCfgMaxHttpUrlLen ∧ httpCheckPostStatPrepAuth p ∧
      o.send.statInfoGenerated then
    o.send.stat.arrived ++ if o.send.stat.send.again then o.wait.headers else []
  else []

theorem send_again {o : SendOutcome} (hstarted : (w.send osStrToUint32Cptr o).1 = true) :
    o.again = true := by
  rw [send_eq] at hstarted
  split_ifs at hstarted with hset hagain
  rwa [Bool.not_eq_true', Bool.not_eq_false] at hagain

variable (osStrToUint32Cptr) in
/-- The statistics are on their way only if the request wants to go on. -/
theorem sendStatistics_again (useSslClientCert useSslServerCert : Bool) (o : StatOutcome)
    (w : World) (hstarted : (httpSendStatisticsInternal osStrToUint32Cptr useSslClientCert
      useSslServerCert o w).1 = true) : o.send.again = true := by
  unfold httpSendStatisticsInternal at hstarted
  dsimp only at hstarted
  split_ifs at hstarted
  exact send_again hstarted

/-- A check of the server for the statistics acts on the target of the action that it finds. -/
theorem ActsOnSenders.checkStat (hw : ActsOnSenders first w) {p : HttpCheckParams}
    {o : CheckOutcome CheckStatOutcome}
    (hready : Serves w.action .stats ∨ ∀ h ∈ o.arrived p, ¬ h.Acts) :
    ActsOnSenders first (httpCheckPostStatInternal2 osStrToUint32Cptr p o w).2 := by
  unfold httpCheckPostStatInternal2 httpCheckPostStatInternal3
  split_ifs with hcfg hurl hauth hinfo
  · exact hw
  · exact hw
  · exact hw
  · exact hw
  · simp only [Bool.not_eq_true', Bool.not_eq_false] at hcfg hurl hauth hinfo
    rw [CheckOutcome.arrived, if_pos ⟨hcfg, hurl, hauth, hinfo⟩] at hready
    have hfirst : Serves w.action .stats ∨ ∀ h ∈ o.send.stat.arrived, ¬ h.Acts :=
      hready.imp id fun hother h hmem => hother h (List.mem_append_left _ hmem)
    have hsent := hw.sendStatistics osStrToUint32Cptr p.useSslClientCert
      p.useSslServerCert hfirst
    have haddressed := httpSendStatisticsInternal_addressed osStrToUint32Cptr p.useSslClientCert
      p.useSslServerCert o.send.stat w
    have hagain := sendStatistics_again osStrToUint32Cptr p.useSslClientCert p.useSslServerCert
      o.send.stat w
    split
    case h_1 w₁ hfailed =>
      rw [hfailed] at hsent
      exact hsent
    case h_2 w₁ hstarted =>
      rw [hstarted] at hsent haddressed hagain
      obtain ⟨hsame, hclient⟩ := Prod.mk.inj (haddressed rfl)
      rw [if_pos (hagain rfl)] at hready
      refine hsent.waitAndCleanup ?_
      rw [World.Ready, hsame, hclient]
      exact hready.imp id fun hother h hmem => hother h (List.mem_append_right _ hmem)

end Checks

section Runs

/-- The task that posts, and the task that serves the user. -/
abbrev advPostTask : ℕ := 0

abbrev httpServerTask : ℕ := 1

structure Posting where
  http : World
  flagAsyncCommInProgress : Bool

/-- What is needed for a transfer may be prepared or not before the request for it is made. -/
inductive Event
  | sendAdvs (prepared : Bool) (p : AdvsParams) (o : AdvsOutcome)
  | sendStatistics (prepared useSslClientCert useSslServerCert : Bool) (o : StatOutcome)
  | startSendingMqtt (prepared : Bool)
  | inProgress (o : PollOutcome) (mqttEnded : Bool)
  | relayingSuspended
  | checkPostAdvs (p : HttpCheckParams) (o : CheckOutcome AdvsOutcome)
  | checkPostStat (p : HttpCheckParams) (o : CheckOutcome CheckStatOutcome)

def World.setAction (action : Action) (w : World) : World := { w with action := action }

/-- A transfer that did not start leaves no action behind. -/
def Posting.started (r : Bool × World) : Posting := ⟨if r.1 then r.2 else r.2.setAction .none, r.1⟩

variable (osStrToUint32Cptr : Bytes → ℕ → UInt32 × ℕ)

/-- The functions for the two targets differ in the action only. -/
def advPostDoAsyncCommSendAdvs (prepared : Bool) (p : AdvsParams) (o : AdvsOutcome) (w : World) :
    Option Posting :=
  let w := w.setAction p.recipient.action
  (if prepared then httpPostAdvs osStrToUint32Cptr advPostTask p o w else some (false, w)).map
    Posting.started

def advPostDoAsyncCommSendStatistics (prepared useSslClientCert useSslServerCert : Bool)
    (o : StatOutcome) (w : World) : Option Posting :=
  let w := w.setAction .postStats
  (if prepared then
      httpPostStat osStrToUint32Cptr advPostTask useSslClientCert useSslServerCert o w
    else some (false, w)).map Posting.started

def advPostDoAsyncCommStartSendingPeriodicMqtt (prepared : Bool) (w : World) : Posting :=
  .started (prepared, w.setAction .postAdvsToMqtt)

/-- The action after a request has been polled to its end. -/
def actionAfterRequest : Action → Action
  | .postAdvsToRuuvi => .none
  | .postAdvsToCustom => .none
  | .postStats => .none
  | .none => .none
  | .postAdvsToMqtt => .postAdvsToMqtt

def advPostDoAsyncCommInProgress (o : PollOutcome) (mqttEnded : Bool) (w : World) :
    Option Posting :=
  if w.action ≠ .postAdvsToMqtt then
    (httpAsyncPoll osStrToUint32Cptr advPostTask o w).map fun (ended, w) =>
      if ended then ⟨w.setAction (actionAfterRequest w.action), false⟩ else ⟨w, true⟩
  else some ⟨w, !mqttEnded⟩

/-- The relaying has been suspended. The action of an aborted transfer stays. -/
def advPostHandleSigRelayingModeChanged (s : Posting) : Option Posting :=
  if s.flagAsyncCommInProgress then
    (httpAbortAnyReqDuringProcessing advPostTask s.http).map fun w => ⟨w, false⟩
  else some s

/-- A transfer is started only if none is in progress. -/
def Posting.exec (s : Posting) : Event → Option Posting
  | .sendAdvs prepared p o =>
      if s.flagAsyncCommInProgress then none
      else advPostDoAsyncCommSendAdvs osStrToUint32Cptr prepared p o s.http
  | .sendStatistics prepared useSslClientCert useSslServerCert o =>
      if s.flagAsyncCommInProgress then none
      else advPostDoAsyncCommSendStatistics osStrToUint32Cptr prepared useSslClientCert
        useSslServerCert o s.http
  | .startSendingMqtt prepared =>
      if s.flagAsyncCommInProgress then none
      else some (advPostDoAsyncCommStartSendingPeriodicMqtt prepared s.http)
  | .inProgress o mqttEnded =>
      if s.flagAsyncCommInProgress then
        advPostDoAsyncCommInProgress osStrToUint32Cptr o mqttEnded s.http
      else none
  | .relayingSuspended => advPostHandleSigRelayingModeChanged s
  | .checkPostAdvs p o => (httpCheckPostAdvs osStrToUint32Cptr httpServerTask p o s.http).map
      fun r => { s with http := r.2 }
  | .checkPostStat p o => (httpCheckPostStat osStrToUint32Cptr httpServerTask p o s.http).map
      fun r => { s with http := r.2 }

/-- The requests in any order, from any keys and periods on. -/
def posting (targets : Targets) : System Posting Event Unit where
  init := ⟨.initial targets, false⟩
  step s e := (s.exec osStrToUint32Cptr e).map fun s => (s, ())

/-- A header arrives in a check of the server for the statistics while the action is that of posting
advertisements. -/
def Event.FindsOtherAction (s : Posting) : Event → Prop
  | .checkPostStat p o => ¬ Serves s.http.action .stats ∧ ∃ h ∈ o.arrived p, h.Acts
  | .sendAdvs _ _ _ => False
  | .sendStatistics _ _ _ _ => False
  | .startSendingMqtt _ => False
  | .inProgress _ _ => False
  | .relayingSuspended => False
  | .checkPostAdvs _ _ => False

end Runs

section Steps

variable {osStrToUint32Cptr : Bytes → ℕ → UInt32 × ℕ} {w w' : World} {s s' : Posting}
variable {first : Targets}

/-- What is in progress while no step is taken. A transfer of advertisements to the broker goes on
while the user checks a server, but the posting task cannot poll a request of another task. -/
inductive InProgress (s : Posting) : Prop
  | nothing (hprogress : s.flagAsyncCommInProgress = false)
      (hsema : s.http.info.httpAsyncSemaTaken = false)
  | request (hprogress : s.flagAsyncCommInProgress = true)
      (hsema : s.http.info.httpAsyncSemaTaken = true)
      (haction : s.http.action = s.http.clientFor.action)
  | mqtt (hprogress : s.flagAsyncCommInProgress = true)
      (hsema : s.http.info.httpAsyncSemaTaken = false)
      (hserver : s.http.action = .postAdvsToMqtt ∨ s.http.info.task = httpServerTask)

/-- The invariant of the steps. -/
structure Posting.Ok (first : Targets) (s : Posting) : Prop where
  acts : ActsOnSenders first s.http
  inProgress : InProgress s

theorem lock_eq {task : ℕ} (h : w.lock task = some w') :
    w.info.httpAsyncSemaTaken = false ∧
      w' = { w with info := { w.info with httpAsyncSemaTaken := true, task := task } } := by
  unfold World.lock at h
  split_ifs at h with htaken
  exact ⟨Bool.eq_false_iff.mpr htaken, (Option.some.inj h).symm⟩

theorem ActsOnSenders.setAction (hw : ActsOnSenders first w) (action : Action) :
    ActsOnSenders first (w.setAction action) := hw.of_eq rfl rfl

theorem ActsOnSenders.unlock (hw : ActsOnSenders first w) : ActsOnSenders first w.unlock :=
  hw.of_eq rfl rfl

/-- A request that was attempted with the semaphore is in progress, or it has been given up. -/
theorem started_ok {r : Bool × World} (hw : ActsOnSenders first r.2)
    (hsema : r.2.info.httpAsyncSemaTaken = true)
    (haction : r.1 = true → r.2.action = r.2.clientFor.action) :
    (Posting.started (r.1, r.2.unlockUnless r.1)).Ok first := by
  obtain ⟨success, w⟩ := r
  cases success with
  | true => exact ⟨hw, .request rfl hsema (haction rfl)⟩
  | false => exact ⟨hw.unlock.setAction .none, .nothing rfl rfl⟩

/-- Nothing was started. -/
theorem notStarted_ok (hw : ActsOnSenders first w) (hsema : w.info.httpAsyncSemaTaken = false) :
    (Posting.started (false, w)).Ok first := ⟨hw.setAction .none, .nothing rfl hsema⟩

theorem ActsOnSenders.doSendAdvs (hw : ActsOnSenders first w)
    (hsema : w.info.httpAsyncSemaTaken = false) {prepared : Bool} {p : AdvsParams} {o : AdvsOutcome}
    (h : advPostDoAsyncCommSendAdvs osStrToUint32Cptr prepared p o w = some s') : s'.Ok first := by
  have hset := hw.setAction p.recipient.action
  unfold advPostDoAsyncCommSendAdvs at h
  cases prepared with
  | false =>
    obtain rfl := Option.some.inj h
    exact notStarted_ok hset hsema
  | true =>
    simp only [if_true, httpPostAdvs, Option.map_map, Option.map_eq_some_iff] at h
    obtain ⟨w₁, hlock, rfl⟩ := h
    obtain ⟨-, hlocked⟩ := lock_eq hlock
    have hw₁ : ActsOnSenders first w₁ := by
      rw [hlocked]
      exact hset.of_eq rfl rfl
    have hsema₁ : w₁.info.httpAsyncSemaTaken = true := by rw [hlocked]
    have howner := congrArg Prod.fst (httpSendAdvsInternal_owner osStrToUint32Cptr p o w₁)
    refine started_ok (hw₁.sendAdvs osStrToUint32Cptr p o) (howner.trans hsema₁) fun hstarted => ?_
    obtain ⟨haction, hclient⟩ :=
      Prod.mk.inj (httpSendAdvsInternal_addressed osStrToUint32Cptr p o w₁ hstarted)
    rw [haction, hclient]

theorem ActsOnSenders.doSendStatistics (hw : ActsOnSenders first w)
    (hsema : w.info.httpAsyncSemaTaken = false)
    {prepared useSslClientCert useSslServerCert : Bool} {o : StatOutcome}
    (h : advPostDoAsyncCommSendStatistics osStrToUint32Cptr prepared useSslClientCert
      useSslServerCert o w = some s') : s'.Ok first := by
  have hset := hw.setAction .postStats
  unfold advPostDoAsyncCommSendStatistics at h
  cases prepared with
  | false =>
    obtain rfl := Option.some.inj h
    exact notStarted_ok hset hsema
  | true =>
    simp only [if_true, httpPostStat, Option.map_map, Option.map_eq_some_iff] at h
    obtain ⟨w₁, hlock, rfl⟩ := h
    obtain ⟨-, hlocked⟩ := lock_eq hlock
    have hw₁ : ActsOnSenders first w₁ := by
      rw [hlocked]
      exact hset.of_eq rfl rfl
    have hsema₁ : w₁.info.httpAsyncSemaTaken = true := by rw [hlocked]
    have hstats : w₁.action = .postStats := by rw [hlocked]; rfl
    have howner := congrArg Prod.fst (httpSendStatisticsInternal_owner osStrToUint32Cptr
      useSslClientCert useSslServerCert o w₁)
    refine started_ok (hw₁.sendStatistics osStrToUint32Cptr useSslClientCert useSslServerCert
      (.inl (.inl hstats))) (howner.trans hsema₁) fun hstarted => ?_
    obtain ⟨haction, hclient⟩ := Prod.mk.inj (httpSendStatisticsInternal_addressed
      osStrToUint32Cptr useSslClientCert useSslServerCert o w₁ hstarted)
    rw [haction, hclient, hstats]
    rfl

theorem ActsOnSenders.endRequest (hw : ActsOnSenders first w) : ActsOnSenders first w.endRequest :=
  hw.cleanupAndFreeData.unlock

theorem Posting.Ok.poll (h : s.Ok first) (hprogress : s.flagAsyncCommInProgress = true)
    {o : PollOutcome} {mqttEnded : Bool}
    (hstep : advPostDoAsyncCommInProgress osStrToUint32Cptr o mqttEnded s.http = some s') :
    s'.Ok first := by
  unfold advPostDoAsyncCommInProgress at hstep
  cases h.inProgress with
  | nothing hnone hsema =>
    rw [hnone] at hprogress
    cases hprogress
  | request _ hsema haction =>
    have hhttp : s.http.action ≠ .postAdvsToMqtt := by
      rw [haction]
      cases s.http.clientFor <;> decide
    have hready : s.http.Ready o.headers := .inl (.inl haction)
    have hperform := h.acts.perform osStrToUint32Cptr hready
    obtain ⟨hsame, hclient⟩ := Prod.mk.inj (perform_addressed osStrToUint32Cptr o.headers s.http)
    have howner := congrArg HttpAsyncInfo.owner
      (perform_info osStrToUint32Cptr o.headers s.http).1
    rw [if_pos hhttp] at hstep
    obtain ⟨⟨ended, w⟩, hpoll, rfl⟩ := Option.map_eq_some_iff.mp hstep
    unfold httpAsyncPoll at hpoll
    dsimp only at hpoll
    split_ifs at hpoll with htask hagain
    · obtain ⟨rfl, rfl⟩ := Prod.mk.inj (Option.some.inj hpoll)
      refine ⟨hperform, .request rfl ((congrArg Prod.fst howner).trans hsema) ?_⟩
      exact hsame.trans (haction.trans (congrArg Recipient.action hclient.symm))
    · obtain ⟨rfl, rfl⟩ := Prod.mk.inj (Option.some.inj hpoll)
      exact ⟨hperform.endRequest.setAction _, .nothing rfl rfl⟩
  | mqtt _ hsema hserver =>
    split_ifs at hstep with hhttp
    · -- a check has set the action, and the posting task fails an assertion
      have htask := hserver.resolve_left hhttp
      obtain ⟨r, hpoll, -⟩ := Option.map_eq_some_iff.mp hstep
      rw [httpAsyncPoll, htask, if_pos Nat.one_ne_zero] at hpoll
      cases hpoll
    · obtain rfl := Option.some.inj hstep
      rw [not_not] at hhttp
      cases mqttEnded with
      | true => exact ⟨h.acts, .nothing rfl hsema⟩
      | false => exact ⟨h.acts, .mqtt rfl hsema (.inl hhttp)⟩

theorem Posting.Ok.suspend (h : s.Ok first)
    (hstep : advPostHandleSigRelayingModeChanged s = some s') : s'.Ok first := by
  unfold advPostHandleSigRelayingModeChanged at hstep
  split_ifs at hstep
  · obtain ⟨w, habort, rfl⟩ := Option.map_eq_some_iff.mp hstep
    unfold httpAbortAnyReqDuringProcessing at habort
    split_ifs at habort with hfree htask
    · obtain rfl := Option.some.inj habort
      rw [Bool.not_eq_true'] at hfree
      exact ⟨h.acts, .nothing rfl hfree⟩
    · obtain rfl := Option.some.inj habort
      exact ⟨h.acts.endRequest, .nothing rfl rfl⟩
  · obtain rfl := Option.some.inj hstep
    exact h

variable (osStrToUint32Cptr) in
theorem waitAndCleanup_owner (o : WaitOutcome) (w : World) :
    (w.waitAndCleanup osStrToUint32Cptr o).2.info.owner = w.info.owner := by
  have howner := congrArg HttpAsyncInfo.owner (perform_info osStrToUint32Cptr o.headers w).1
  exact howner

variable (osStrToUint32Cptr) in
theorem httpCheckPostAdvsInternal2_owner (p : HttpCheckParams) (o : CheckOutcome AdvsOutcome)
    (w : World) :
    (httpCheckPostAdvsInternal2 osStrToUint32Cptr p o w).2.info.owner = w.info.owner := by
  have howner := httpSendAdvsInternal_owner osStrToUint32Cptr p.advs o.send w
  unfold httpCheckPostAdvsInternal2 httpCheckPostAdvsInternal3
  split_ifs
  · rfl
  · rfl
  · rfl
  · split
    case h_1 w₁ hfailed =>
      rw [hfailed] at howner
      exact howner
    case h_2 w₁ hstarted =>
      rw [hstarted] at howner
      exact (waitAndCleanup_owner osStrToUint32Cptr o.wait w₁).trans howner

variable (osStrToUint32Cptr) in
theorem httpCheckPostStatInternal2_owner (p : HttpCheckParams) (o : CheckOutcome CheckStatOutcome)
    (w : World) :
    (httpCheckPostStatInternal2 osStrToUint32Cptr p o w).2.info.owner = w.info.owner := by
  have howner := httpSendStatisticsInternal_owner osStrToUint32Cptr p.useSslClientCert
    p.useSslServerCert o.send.stat w
  unfold httpCheckPostStatInternal2 httpCheckPostStatInternal3
  split_ifs
  · rfl
  · rfl
  · rfl
  · rfl
  · split
    case h_1 w₁ hfailed =>
      rw [hfailed] at howner
      exact howner
    case h_2 w₁ hstarted =>
      rw [hstarted] at howner
      exact (waitAndCleanup_owner osStrToUint32Cptr o.wait w₁).trans howner

/-- A check needs the semaphore, and signals it in the end. -/
theorem InProgress.check (h : InProgress s) {w₁ w₂ : World}
    (hlock : s.http.lock httpServerTask = some w₁) (howner : w₂.info.owner = w₁.info.owner) :
    InProgress { s with http := w₂.unlock } := by
  obtain ⟨hfree, hlocked⟩ := lock_eq hlock
  have htask : w₂.info.task = httpServerTask := by
    rw [hlocked] at howner
    exact congrArg Prod.snd howner
  cases h with
  | nothing hprogress _ => exact .nothing hprogress rfl
  | request _ hsema _ =>
    rw [hfree] at hsema
    cases hsema
  | mqtt hprogress _ _ => exact .mqtt hprogress rfl (.inr htask)

theorem Posting.Ok.exec (h : s.Ok first) {e : Event} (he : ¬ e.FindsOtherAction s)
    (hstep : s.exec osStrToUint32Cptr e = some s') : s'.Ok first := by
  -- without a transfer in progress the semaphore is free
  have hfree (hnone : ¬ s.flagAsyncCommInProgress = true) :
      s.http.info.httpAsyncSemaTaken = false := by
    cases h.inProgress with
    | nothing _ hsema => exact hsema
    | request hprogress _ _ => exact absurd hprogress hnone
    | mqtt hprogress _ _ => exact absurd hprogress hnone
  cases e with
  | sendAdvs prepared p o =>
    simp only [Posting.exec] at hstep
    split_ifs at hstep with hnone
    exact h.acts.doSendAdvs (hfree hnone) hstep
  | sendStatistics prepared useSslClientCert useSslServerCert o =>
    simp only [Posting.exec] at hstep
    split_ifs at hstep with hnone
    exact h.acts.doSendStatistics (hfree hnone) hstep
  | startSendingMqtt prepared =>
    simp only [Posting.exec] at hstep
    split_ifs at hstep with hnone
    obtain rfl := Option.some.inj hstep
    have hset := h.acts.setAction .postAdvsToMqtt
    cases prepared with
    | false => exact notStarted_ok hset (hfree hnone)
    | true => exact ⟨hset, .mqtt rfl (hfree hnone) (.inl rfl)⟩
  | inProgress o mqttEnded =>
    simp only [Posting.exec] at hstep
    split_ifs at hstep with hprogress
    exact h.poll hprogress hstep
  | relayingSuspended => exact h.suspend hstep
  | checkPostAdvs p o =>
    simp only [Posting.exec, httpCheckPostAdvs, Option.map_map, Option.map_eq_some_iff] at hstep
    obtain ⟨w₁, hlock, rfl⟩ := hstep
    have hw₁ : ActsOnSenders first w₁ := by
      rw [(lock_eq hlock).2]
      exact h.acts.of_eq rfl rfl
    exact ⟨(hw₁.checkAdvs p o).unlock,
      h.inProgress.check hlock (httpCheckPostAdvsInternal2_owner osStrToUint32Cptr p o w₁)⟩
  | checkPostStat p o =>
    simp only [Posting.exec, httpCheckPostStat, Option.map_map, Option.map_eq_some_iff] at hstep
    obtain ⟨w₁, hlock, rfl⟩ := hstep
    have hw₁ : ActsOnSenders first w₁ := by
      rw [(lock_eq hlock).2]
      exact h.acts.of_eq rfl rfl
    have haction : w₁.action = s.http.action := by rw [(lock_eq hlock).2]
    have hready : Serves w₁.action .stats ∨ ∀ h ∈ o.arrived p, ¬ h.Acts := by
      rw [haction]
      exact or_iff_not_imp_left.mpr fun hother h hmem hacts => he ⟨hother, h, hmem, hacts⟩
    exact ⟨(hw₁.checkStat hready).unlock,
      h.inProgress.check hlock (httpCheckPostStatInternal2_owner osStrToUint32Cptr p o w₁)⟩

/-- Headers act on their senders in every run in which no check of the server for the statistics
finds the action of another target. -/
theorem posting_actsOnSenders {targets : Targets} {history : List (Event × Unit)}
    (hr : (posting osStrToUint32Cptr targets).Run (fun s e => ¬ e.FindsOtherAction s) history s) :
    ActsOnSenders targets s.http := by
  refine (hr.invariant (I := Posting.Ok targets) ?_ ?_).acts
  · exact ⟨⟨List.forall_mem_nil _, rfl⟩, .nothing rfl rfl⟩
  · intro s e s' _ hs he hstep
    obtain ⟨s₁, hexec, hs₁⟩ := Option.map_eq_some_iff.mp hstep
    obtain ⟨rfl, -⟩ := Prod.mk.inj hs₁
    exact hs.exec he hexec

end Steps

section Samples

instance (h : Header) : Decidable h.Acts := inferInstanceAs (Decidable (_ ∨ _))

instance (action : Action) (r : Recipient) : Decidable (Serves action r) :=
  inferInstanceAs (Decidable (_ ∨ _ ∨ _))

instance (s : Posting) : DecidablePred (Event.FindsOtherAction s)
  | .checkPostStat p o => inferInstanceAs (Decidable (¬ _ ∧ ∃ h ∈ o.arrived p, h.Acts))
  | .sendAdvs _ _ _ => inferInstanceAs (Decidable False)
  | .sendStatistics _ _ _ _ => inferInstanceAs (Decidable False)
  | .startSendingMqtt _ => inferInstanceAs (Decidable False)
  | .inProgress _ _ => inferInstanceAs (Decidable False)
  | .relayingSuspended => inferInstanceAs (Decidable False)
  | .checkPostAdvs _ _ => inferInstanceAs (Decidable False)

def sampleHeader : Header := ⟨ascii "ruuvi-hmac-key", ascii "new"⟩

/-- The server is checked without authorization, and answers with a key. -/
def sampleCheck : Event :=
  .checkPostStat ⟨some (ascii "https://stat"), .none, none, none, false, false⟩
    ⟨true, ⟨true, true, ⟨false, false, false⟩, true, ⟨true, [], true⟩⟩, ⟨[sampleHeader], 200, true⟩⟩

/-- Advertisements are posted to the first target. -/
def sampleSendAdvs : Event := .sendAdvs true ⟨true, false, false, .none⟩ (sampleAdvs true)

/-- A key arrives from the first target, and one from the server for the statistics. -/
theorem posting_actsOnSenders_sample : ∃ history s,
    (posting sampleNumber sampleTargets).Run (fun s e => ¬ e.FindsOtherAction s) history s ∧
      ActsOnSenders sampleTargets s.http ∧ s.http.handled.length = 2 := by
  obtain ⟨history, s, hrun, hs⟩ := System.exists_run_of_exec
    [sampleSendAdvs, .inProgress ⟨[sampleHeader], false⟩ true, sampleCheck]
    (S := posting sampleNumber sampleTargets) (G := fun s e => ¬ e.FindsOtherAction s)
    (P := fun s => s.http.handled.length == 2) (by decide +kernel)
  exact ⟨history, s, hrun, posting_actsOnSenders hrun, by simpa using hs⟩

/-- After an aborted transfer to the first target the server for the statistics changes its key. -/
theorem posting_changesOtherKey : ¬ ∀ history s,
    (posting sampleNumber sampleTargets).FreeRun history s →
      ActsOnSenders sampleTargets s.http := by
  intro hall
  obtain ⟨history, s, hrun, hs⟩ := System.exists_run_of_exec
    [sampleSendAdvs, .relayingSuspended, sampleCheck]
    (S := posting sampleNumber sampleTargets) (G := fun _ _ => True)
    (P := fun s => s.http.handled.any fun e => decide (e.recipient = .stats) &&
      decide (e.after.key .advs1 ≠ e.before.key .advs1)) (by decide +kernel)
  simp only [List.any_eq_true, Bool.and_eq_true, decide_eq_true_eq] at hs
  obtain ⟨e, he, hstats, hchanged⟩ := hs
  have hsender := (((hall history s hrun).acts e he).key .advs1 hchanged).1
  rw [hstats] at hsender
  cases hsender

end Samples

end RuuviGateway.Http
