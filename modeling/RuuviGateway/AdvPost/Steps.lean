import RuuviGateway.AdvPost.Signals

/-!
# What one step of the posting task can do

Most handlers leave the transfer in progress, the mutex and the report buffer alone. The
remaining ones start, continue or abort a transfer; each has a lemma that lists its
outcomes, so that later proofs need not look into the handlers again.
-/

namespace RuuviGateway.AdvPost

open AdvTable General

variable {w w' w'' : World} {env : Env}

/-! ## Handlers that leave a transfer alone -/

/-- Effects that concern neither the mutex nor the report buffer of the MQTT transfer. -/
def Effect.isQuiet : Effect → Bool
  | .mutexLocked | .mutexUnlocked | .mutexUnlockedNotHeld | .httpAbort | .mqttBuffer _
  | .mqttPublish _ _ _ _ | .mqttFree | .assertFailed => false
  | _ => true

/-- The transfer in progress, the mutex and the relaying mode are the same in both worlds. -/
structure Quiet (w w' : World) : Prop where
  inProgress : w'.state.flagAsyncCommInProgress = w.state.flagAsyncCommInProgress
  relaying : w'.state.flagRelayingEnabled = w.state.flagRelayingEnabled
  action : w'.action = w.action
  mqttReports : w'.mqttReports = w.mqttReports
  mqttIdx : w'.mqttIdx = w.mqttIdx
  held : w'.mutexHeld = w.mutexHeld
  log : ∃ effects, w'.log = effects ++ w.log ∧ ∀ effect ∈ effects, effect.isQuiet = true

theorem Quiet.refl (w : World) : Quiet w w := ⟨rfl, rfl, rfl, rfl, rfl, rfl, [], rfl, by simp⟩

theorem Quiet.trans (h : Quiet w w') (h' : Quiet w' w'') : Quiet w w'' := by
  obtain ⟨es, hes, hquiet⟩ := h.log
  obtain ⟨es', hes', hquiet'⟩ := h'.log
  refine ⟨h'.inProgress.trans h.inProgress, h'.relaying.trans h.relaying,
    h'.action.trans h.action, h'.mqttReports.trans h.mqttReports, h'.mqttIdx.trans h.mqttIdx,
    h'.held.trans h.held, es' ++ es, ?_, ?_⟩
  · rw [hes', hes, List.append_assoc]
  · intro effect hmem
    exact (List.mem_append.mp hmem).elim (hquiet' effect) (hquiet effect)

theorem quiet_emit (w : World) {effect : Effect} (he : effect.isQuiet = true) :
    Quiet w (w.emit effect) :=
  ⟨rfl, rfl, rfl, rfl, rfl, rfl, [effect], rfl, by simpa using he⟩

theorem Quiet.emit (h : Quiet w w') {effect : Effect} (he : effect.isQuiet = true) :
    Quiet w (w'.emit effect) :=
  h.trans (quiet_emit w' he)

theorem Quiet.table (h : Quiet w w') (t : Table) : Quiet w { w' with table := t } :=
  ⟨h.inProgress, h.relaying, h.action, h.mqttReports, h.mqttIdx, h.held, h.log⟩

theorem Quiet.cfgCache (h : Quiet w w') (cache : CfgCache) :
    Quiet w { w' with cfgCache := cache } :=
  ⟨h.inProgress, h.relaying, h.action, h.mqttReports, h.mqttIdx, h.held, h.log⟩

theorem Quiet.state (h : Quiet w w') {s : AdvPostState}
    (hprogress : s.flagAsyncCommInProgress = w'.state.flagAsyncCommInProgress)
    (hrelaying : s.flagRelayingEnabled = w'.state.flagRelayingEnabled) :
    Quiet w { w' with state := s } :=
  ⟨hprogress.trans h.inProgress, hrelaying.trans h.relaying, h.action, h.mqttReports, h.mqttIdx,
    h.held, h.log⟩

theorem quiet_ite {p : Prop} [Decidable p] {a b : World} (ha : Quiet w a) (hb : Quiet w b) :
    Quiet w (if p then a else b) := by
  split_ifs
  · exact ha
  · exact hb

theorem quiet_restartPending (w : World) : Quiet w (advPostRestartPendingRetransmissions w) := by
  have hstep : ∀ (w : World) (b : Bool) (timer : Timer),
      Quiet w (if b then w.emit (.timer timer .relaunch) else w) :=
    fun w b timer => quiet_ite (quiet_emit w rfl) (Quiet.refl w)
  exact ((hstep w _ _).trans (hstep _ _ _)).trans (hstep _ _ _)

theorem quiet_timeSynchronized (w : World) (env : Env) :
    Quiet w (advPostHandleSigTimeSynchronized w env) := by
  have hclear : Quiet w { w with
      state := { w.state with flagPrimaryTimeSyncIsDone := true }
      table := advTableClear w.table } :=
    ((Quiet.refl w).table (advTableClear w.table)).state rfl rfl
  refine Quiet.trans ?_ (quiet_restartPending _)
  exact quiet_ite (quiet_ite (hclear.emit rfl) hclear) (Quiet.refl w)

theorem Quiet.request (h : Quiet w w') (use : Bool) {request : AdvPostState → AdvPostState}
    (hprogress : ∀ s, (request s).flagAsyncCommInProgress = s.flagAsyncCommInProgress)
    (hrelaying : ∀ s, (request s).flagRelayingEnabled = s.flagRelayingEnabled) :
    Quiet w (advPostHandleSigRequest w' use request) := by
  refine quiet_ite (Quiet.emit ?_ rfl) h
  exact h.state (hprogress _) (hrelaying _)

theorem Quiet.setTarget (h : Quiet w w') (use : Bool) (timer : Timer)
    {request : Bool → AdvPostState → AdvPostState}
    (hprogress : ∀ s, (request use s).flagAsyncCommInProgress = s.flagAsyncCommInProgress)
    (hrelaying : ∀ s, (request use s).flagRelayingEnabled = s.flagRelayingEnabled) :
    Quiet w (w'.setTarget use timer request) := by
  refine Quiet.emit ?_ rfl
  exact h.state (hprogress _) (hrelaying _)

theorem Quiet.onGwCfgChange (h : Quiet w w') (env : Env) :
    Quiet w (advPostOnGwCfgChange w' env) := by
  have hcache : ∀ cache, Quiet w { w' with
      state := { w'.state with flagUseTimestamps := env.gwCfgGetNtpUse }
      cfgCache := cache } := fun cache => (h.cfgCache cache).state rfl rfl
  refine quiet_ite (Quiet.emit (hcache _) rfl) (Quiet.emit (Quiet.table ?_ _) rfl)
  refine Quiet.setTarget ?_ _ _ (fun _ => rfl) fun _ => rfl
  refine Quiet.setTarget ?_ _ _ (fun _ => rfl) fun _ => rfl
  refine Quiet.setTarget ?_ _ _ (fun _ => rfl) fun _ => rfl
  refine Quiet.setTarget ?_ _ _ (fun _ => rfl) fun _ => rfl
  exact hcache _

/-- Only `DO_ASYNC_COMM` and `RELAYING_MODE_CHANGED` touch a transfer. -/
theorem quiet_handleSig {sig : Sig} (w : World) (env : Env) (hcomm : sig ≠ .doAsyncComm)
    (hrelaying : sig ≠ .relayingModeChanged) : Quiet w (advPostHandleSig sig w env) := by
  have h := Quiet.refl w
  cases sig with
  | doAsyncComm => exact absurd rfl hcomm
  | relayingModeChanged => exact absurd rfl hrelaying
  | stop => exact h.state rfl rfl
  | networkDisconnected => exact h.state rfl rfl
  | networkConnected =>
    refine Quiet.trans (h.state ?_ ?_) (quiet_restartPending _) <;> rfl
  | timeSynchronized => exact quiet_timeSynchronized w env
  | retransmit =>
    unfold advPostHandleSig advPostHandleSigRetransmit
    exact h.request _ (fun _ => rfl) fun _ => rfl
  | retransmit2 =>
    unfold advPostHandleSig advPostHandleSigRetransmit2
    exact h.request _ (fun _ => rfl) fun _ => rfl
  | retransmitMqtt =>
    unfold advPostHandleSig advPostHandleSigRetransmitMqtt
    exact h.request _ (fun _ => rfl) fun _ => rfl
  | sendStatistics =>
    unfold advPostHandleSig advPostHandleSigSendStatistics
    exact h.request _ (fun _ => rfl) fun _ => rfl
  | networkWatchdog => exact quiet_ite (quiet_emit w rfl) h
  | gwCfgReady =>
    refine Quiet.emit (Quiet.onGwCfgChange (quiet_ite ?_ ?_) env) rfl
    · exact (quiet_emit w rfl).emit rfl
    · exact quiet_emit w rfl
  | gwCfgChangedRuuvi =>
    refine Quiet.emit (Quiet.onGwCfgChange ?_ env) rfl
    exact quiet_emit w rfl
  | bleScanChanged => exact h.table _
  | cfgModeActivated =>
    have hemit : Quiet w (w.emit .networkTimeoutUpdate) := quiet_emit w rfl
    exact (hemit.cfgCache { w.cfgCache with scanFilterMacs := none }).table
      (advTableClear w.table)
  | cfgModeDeactivated =>
    refine Quiet.onGwCfgChange ?_ env
    exact (quiet_emit w rfl).emit rfl
  | taskWatchdogFeed => exact h
  | greenLedStateChanged => exact h
  | greenLedUpdate => exact h
  | recvAdvTimeout => exact quiet_emit w rfl

/-! ## Starting an HTTP request -/

/-- The world in which the mutex has just been taken for a request. -/
def World.lockFor (w : World) (action : Action) : World :=
  { w.emit .mutexLocked with mutexHeld := true, action := action }

/-- The world in which a request that was prepared in `w` is in progress. -/
def World.setInProgress (w : World) : World :=
  { w with state := { w.state with flagAsyncCommInProgress := true } }

/-- Starting an HTTP request does nothing, fails with the mutex unlocked again, or leaves
the request in progress with the mutex held. -/
inductive HttpStart (w : World) (action : Action) : World → Prop
  | refused {w' : World} : Quiet w w' → HttpStart w action w'
  | failed {w₁ : World} : w.mutexHeld = false → Quiet (w.lockFor action) w₁ →
      HttpStart w action (httpServerMutexUnlock { w₁ with action := .none })
  | started {w₁ w' : World} : w.mutexHeld = false → Quiet (w.lockFor action) w₁ →
      Quiet w₁.setInProgress w' → HttpStart w action w'

theorem unlock_fields (w : World) : (httpServerMutexUnlock w).state = w.state ∧
    (httpServerMutexUnlock w).action = w.action ∧
    (httpServerMutexUnlock w).table = w.table := by
  unfold httpServerMutexUnlock
  split_ifs <;> exact ⟨rfl, rfl, rfl⟩

theorem tryLock_cases (w : World) (env : Env) :
    httpServerMutexTryLock w env = (w, false) ∨
      w.mutexHeld = false ∧
        httpServerMutexTryLock w env = ({ w with mutexHeld := true }.emit .mutexLocked, true) := by
  unfold httpServerMutexTryLock
  split_ifs with hbusy
  · exact .inl rfl
  · exact .inr ⟨by simp_all, rfl⟩

theorem quiet_retransmitToHttp (w : World) (env : Env) (ts : Bool) (target : AdvsTarget) :
    Quiet w (advPostRetransmitToHttp w env ts target).1 := by
  have hdrain := (Quiet.refl w).table
    (advTableReadRetransmissionListAndClear target.list w.table).table
  unfold advPostRetransmitToHttp advPostRetransmitAdvs
  dsimp only
  split_ifs
  · exact hdrain
  · exact hdrain.emit rfl

theorem quiet_doRetransmission (w : World) (env : Env) (ts : Bool) (target : AdvsTarget) :
    Quiet w (advPostDoRetransmission w env ts target.action).1 := by
  unfold advPostDoRetransmission
  cases target <;>
  · dsimp only [AdvsTarget.action]
    split_ifs
    · exact Quiet.refl w
    · exact quiet_retransmitToHttp w env ts _

theorem quiet_statisticsDoSend (w : World) (env : Env) :
    Quiet w (advPostStatisticsDoSend w env).1 := by
  have hread := (Quiet.refl w).table (advTableStatisticsRead w.table).1
  have hnonce : Quiet w { w with
      table := (advTableStatisticsRead w.table).1
      statNonce := w.statNonce + 1 } :=
    ⟨rfl, rfl, rfl, rfl, rfl, rfl, [], rfl, by simp⟩
  unfold advPostStatisticsDoSend advPostStat
  dsimp only
  split_ifs
  · exact Quiet.refl w
  · exact Quiet.refl w
  · exact hread
  · exact hread
  · exact hnonce.emit rfl

theorem httpStart_sendAdvs (target : AdvsTarget) (w : World) (env : Env) :
    HttpStart w target.action (advPostDoAsyncCommSendAdvs target w env) := by
  unfold advPostDoAsyncCommSendAdvs
  split_ifs
  · exact .refused (Quiet.refl w)
  · exact .refused (Quiet.refl w)
  rcases tryLock_cases w env with hlock | ⟨hfree, hlock⟩
  · simp only [hlock, Bool.not_false, if_true]
    exact .refused (Quiet.refl w)
  · simp only [hlock, Bool.not_true, Bool.false_eq_true, if_false]
    have hprepared := quiet_doRetransmission (w.lockFor target.action) env
      w.state.flagUseTimestamps target
    split_ifs
    · exact .failed hfree hprepared
    · refine .started hfree hprepared ?_
      cases target <;> exact ⟨rfl, rfl, rfl, rfl, rfl, rfl, [], rfl, by simp⟩

theorem httpStart_sendStatistics (w : World) (env : Env) :
    HttpStart w .postStats (advPostDoAsyncCommSendStatistics w env) := by
  unfold advPostDoAsyncCommSendStatistics
  split_ifs
  · exact .refused ((Quiet.refl w).state rfl rfl)
  · exact .refused (Quiet.refl w)
  · exact .refused (Quiet.refl w)
  rcases tryLock_cases w env with hlock | ⟨hfree, hlock⟩
  · simp only [hlock, Bool.not_false, if_true]
    exact .refused (Quiet.refl w)
  · simp only [hlock, Bool.not_true, Bool.false_eq_true, if_false]
    have hprepared := quiet_statisticsDoSend (w.lockFor .postStats) env
    split_ifs
    · exact .failed hfree hprepared
    · exact .started hfree hprepared ⟨rfl, rfl, rfl, rfl, rfl, rfl, [], rfl, by simp⟩

/-! ## Starting an MQTT transfer -/

/-- The world in which list 3 has just been drained into the report buffer. -/
def World.mqttDrained (w : World) (env : Env) : World :=
  let drain := advTableReadRetransmissionList3AndClear w.table
  { w with
    action := .postAdvsToMqtt
    table := drain.table
    mqttReports := some drain.reports
    mqttIdx := 0
    mqttTimestamp := if env.gwCfgGetNtpUse then env.time else 0 }.emit (.mqttBuffer drain.reports)

/-- The conditions under which a pending MQTT transfer is started. -/
structure MqttReady (w : World) (env : Env) : Prop where
  use : env.gwCfgGetMqttUseMqtt = true
  network : w.state.flagNetworkConnected = true
  connected : env.gwStatusIsMqttConnected = true
  time : timeConditionMet w env = true
  buffer : env.reportsBufAllocated = true

inductive MqttStart (w : World) (env : Env) : World → Prop
  | refused {w' : World} : Quiet w w' → MqttStart w env w'
  | failed {w' : World} : Quiet { w with action := .none } w' → MqttStart w env w'
  | started {w' : World} : MqttReady w env → Quiet (w.mqttDrained env).setInProgress w' →
      MqttStart w env w'

theorem mqttStart_periodic (w : World) (env : Env) :
    MqttStart w env (advPostDoAsyncCommStartSendingPeriodicMqtt w env) := by
  have hnot : Quiet w { w with
      state := { w.state with flagNeedToSendMqttPeriodic := false } } :=
    (Quiet.refl w).state rfl rfl
  unfold advPostDoAsyncCommStartSendingPeriodicMqtt
  split_ifs with huse hnet hconn htime
  · exact .refused hnot
  · exact .refused hnot
  · exact .refused hnot
  · exact .refused (Quiet.refl w)
  dsimp only [advPostDoRetransmission]
  by_cases hbuf : env.reportsBufAllocated = true
  · simp only [hbuf, Bool.not_true, Bool.false_eq_true, if_false]
    refine .started ⟨by simpa using huse, by simpa using hnet, by simpa using hconn,
      by simpa using htime, hbuf⟩ ?_
    exact ⟨rfl, rfl, rfl, rfl, rfl, rfl, [.signal .doAsyncComm], rfl, by simp [Effect.isQuiet]⟩
  · simp only [hbuf, Bool.not_false, if_true]
    exact .failed (quiet_emit _ rfl)

/-- An MQTT transfer is due when no other target is. -/
structure MqttDue (w : World) (env : Env) : Prop extends MqttReady w env where
  relaying : w.state.flagRelayingEnabled = true
  noAdvs1 : w.state.flagNeedToSendAdvs1 = false
  noAdvs2 : w.state.flagNeedToSendAdvs2 = false
  noStatistics : w.state.flagNeedToSendStatistics = false
  needed : w.state.flagNeedToSendMqttPeriodic = true

inductive PendingStart (w : World) (env : Env) : World → Prop
  | quiet {w' : World} : Quiet w w' → PendingStart w env w'
  | http {action : Action} {w₁ w' : World} : w.state.flagRelayingEnabled = true →
      action.isHttp = true → HttpStart w action w₁ → Quiet w₁ w' → PendingStart w env w'
  | mqttFailed {w' : World} : Quiet { w with action := .none } w' → PendingStart w env w'
  | mqtt {w' : World} : MqttDue w env → Quiet (w.mqttDrained env).setInProgress w' →
      PendingStart w env w'

theorem startPending_cases (w : World) (env : Env) :
    PendingStart w env (advPostStartPending w env) := by
  unfold advPostStartPending
  split_ifs with hrelaying hadvs1 hadvs2 hstat hmqtt
  · exact .quiet (Quiet.refl w)
  · exact .http (by simpa using hrelaying) rfl (httpStart_sendAdvs .ruuvi w env)
      (quiet_emit _ rfl)
  · exact .http (by simpa using hrelaying) rfl (httpStart_sendAdvs .custom w env)
      (quiet_emit _ rfl)
  · exact .http (by simpa using hrelaying) rfl (httpStart_sendStatistics w env)
      (quiet_emit _ rfl)
  · cases mqttStart_periodic w env with
    | refused hq => exact .quiet (hq.emit rfl)
    | failed hq => exact .mqttFailed (hq.emit rfl)
    | started hready hq =>
      exact .mqtt ⟨hready, by simpa using hrelaying, by simpa using hadvs1,
        by simpa using hadvs2, by simpa using hstat, hmqtt⟩ (hq.emit rfl)
  · exact .quiet (Quiet.refl w)

/-! ## Continuing a transfer -/

/-- The world in which the next report of the buffer has been handed to MQTT. -/
def World.published (w : World) (env : Env) (reports : List AdvReport) : World :=
  w.emit (.mqttPublish (reports.getD w.mqttIdx AdvReport.zero) env.gwCfgGetNtpUseOnPublish
    w.mqttTimestamp env.mqttPublishAdv)

/-- Publishing the next report ends the transfer. -/
def EndsMqtt (w : World) (env : Env) (reports : List AdvReport) : Prop :=
  env.mqttPublishAdv = false ∨ reports.length ≤ w.mqttIdx + 1

inductive Progress (w : World) (env : Env) : World → Bool → Prop
  | httpPending {w' : World} : w.action ≠ .postAdvsToMqtt → Quiet w w' → Progress w env w' false
  | httpDone : w.action ≠ .postAdvsToMqtt → env.httpAsyncPoll = true →
      Progress w env (httpServerMutexUnlock w.httpCompleted) true
  | mqttMissing : w.action = .postAdvsToMqtt → w.mqttReports = none →
      Progress w env (w.emit .assertFailed) true
  | mqttNext {reports : List AdvReport} {w' : World} : w.action = .postAdvsToMqtt →
      w.mqttReports = some reports → ¬EndsMqtt w env reports →
      Quiet { w.published env reports with mqttIdx := w.mqttIdx + 1 } w' →
      Progress w env w' false
  | mqttDone {reports : List AdvReport} : w.action = .postAdvsToMqtt →
      w.mqttReports = some reports → EndsMqtt w env reports →
      Progress w env (w.published env reports).freeMqttReports true

theorem progress_cases (w : World) (env : Env) :
    Progress w env (advPostDoAsyncCommInProgress w env).1
      (advPostDoAsyncCommInProgress w env).2 := by
  unfold advPostDoAsyncCommInProgress
  by_cases hmqtt : w.action = .postAdvsToMqtt
  · rw [if_neg (not_not.mpr hmqtt)]
    unfold advPostDoAsyncCommInProgressMqtt
    split
    · rename_i hnone
      exact .mqttMissing hmqtt hnone
    · rename_i reports hreports
      dsimp only
      by_cases hpublish : env.mqttPublishAdv = true
      · by_cases hlast : w.mqttIdx + 1 ≥ reports.length
        · simp only [World.emit, hpublish, hlast, Bool.not_true, Bool.false_eq_true, if_false,
            if_true]
          have hdone := Progress.mqttDone hmqtt hreports (.inr hlast : EndsMqtt w env reports)
          simpa only [World.published, World.freeMqttReports, World.emit, hpublish] using hdone
        · simp only [World.emit, hpublish, hlast, Bool.not_true, Bool.not_false, Bool.false_eq_true,
            if_false, if_true]
          refine .mqttNext hmqtt hreports (by simpa [EndsMqtt, hpublish] using hlast) ?_
          exact ⟨rfl, rfl, rfl, rfl, rfl, rfl, [.timer .doAsyncComm .start],
            by simp [World.published, World.emit, hpublish], by simp [Effect.isQuiet]⟩
      · rw [Bool.not_eq_true] at hpublish
        simp only [World.emit, hpublish, Bool.not_false, Bool.not_true, Bool.false_eq_true,
          if_false, if_true]
        have hdone := Progress.mqttDone hmqtt hreports (.inl hpublish : EndsMqtt w env reports)
        simpa only [World.published, World.freeMqttReports, World.emit, hpublish] using hdone
  · rw [if_pos hmqtt]
    split_ifs with hpoll
    · exact .httpPending hmqtt (quiet_emit w rfl)
    · exact .httpDone hmqtt (by simpa using hpoll)

/-! ## The whole step -/

/-- The world in which a transfer has ended and the next one may be started. -/
def World.setIdle (w : World) : World :=
  { w with state := { w.state with flagAsyncCommInProgress := false } }

theorem doAsyncComm_eq (w : World) (env : Env) :
    advPostDoAsyncComm w env =
      if w.state.flagAsyncCommInProgress then
        if (advPostDoAsyncCommInProgress w env).2 then
          advPostStartPending (advPostDoAsyncCommInProgress w env).1.setIdle env
        else (advPostDoAsyncCommInProgress w env).1
      else advPostStartPending w env := by
  unfold advPostDoAsyncComm World.setIdle
  dsimp only
  cases (advPostDoAsyncCommInProgress w env).2 <;> simp

theorem relayingModeChanged_cases (w : World) (env : Env) :
    let w₁ := advPostSampleRelaying w env
    (env.gwStatusIsRelayingViaHttpEnabled = false ∧ w.state.flagAsyncCommInProgress = true ∧
      advPostAbortTransfer w₁ = httpServerMutexUnlock
        ((w₁.emit (.timer .doAsyncComm .stop)).emit .httpAbort).setIdle) ∨
    ((env.gwStatusIsRelayingViaHttpEnabled = true ∨ w.state.flagAsyncCommInProgress = false) ∧
      advPostAbortTransfer w₁ = w₁) := by
  intro w₁
  unfold advPostAbortTransfer
  by_cases hoff : (!w₁.state.flagRelayingEnabled && w₁.state.flagAsyncCommInProgress) = true
  · rw [if_pos hoff]
    rw [Bool.and_eq_true, Bool.not_eq_true'] at hoff
    exact .inl ⟨hoff.1, hoff.2, rfl⟩
  · rw [if_neg hoff]
    rw [Bool.and_eq_true, Bool.not_eq_true', not_and_or, Bool.not_eq_false,
      Bool.not_eq_true] at hoff
    exact .inr ⟨hoff, rfl⟩

end RuuviGateway.AdvPost
