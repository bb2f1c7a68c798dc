import RuuviGateway.AdvPost.LockOwnership

/-!
# Requests for a transfer

A request for a transfer sets the flag of its target. It waits until a transfer to the target has
been started, is then served by that transfer, and waits again if the transfer is aborted. No
request is forgotten as long as no transfer completes while a newer request for its target waits,
and none is aborted without one. -/

namespace RuuviGateway.AdvPost

open AdvTable General

section Model

/-- The targets whose flags are set by requests. -/
inductive Target
  | advs (target : AdvsTarget)
  | statistics
  deriving DecidableEq, Repr

def Target.action : Target → Action
  | .advs target => target.action
  | .statistics => .postStats

def Target.sig : Target → Sig
  | .advs .ruuvi => .retransmit
  | .advs .custom => .retransmit2
  | .statistics => .sendStatistics

/-- The target is enabled in the configuration. -/
def Target.use (env : Env) : Target → Bool
  | .advs .ruuvi => env.gwCfgGetHttpUseHttpRuuvi
  | .advs .custom => env.gwCfgGetHttpUseHttp
  | .statistics => env.gwCfgGetHttpStatUseHttpStat

/-- The flag of the target. -/
def AdvPostState.needToSend (s : AdvPostState) : Target → Bool
  | .advs target => s.needToSendAdvs target
  | .statistics => s.flagNeedToSendStatistics

/-- The requests for each target: those that no transfer has been started for, and those that the
transfer in progress serves. -/
structure Requests where
  waiting : Target → Bool
  inTransfer : Target → Bool

def Requests.none : Requests := ⟨fun _ => false, fun _ => false⟩

/-- The signals that apply a changed configuration. -/
def Sig.appliesCfg : Sig → Bool
  | .gwCfgReady | .gwCfgChangedRuuvi | .cfgModeDeactivated => true
  | _ => false

/-- A changed configuration is applied unless there is no memory for the scan filter. -/
def Env.scanFilterCopied (env : Env) : Bool :=
  decide (env.scanFilterList.length = 0) || env.scanFilterAllocated

/-- The step completes the transfer in progress. -/
def completes (w : World) (env : Env) : Bool :=
  w.state.flagAsyncCommInProgress && (advPostDoAsyncCommInProgress w env).2

/-- The step starts a transfer to the target. -/
def starts (w : World) (env : Env) (t : Target) : Bool :=
  (advPostDoAsyncComm w env).state.flagAsyncCommInProgress &&
    decide ((advPostDoAsyncComm w env).action = t.action) &&
    (!w.state.flagAsyncCommInProgress || completes w env)

/-- Statistics are found to be disabled when they are about to be sent. -/
def isDisabled (env : Env) : Target → Bool
  | .advs _ => false
  | .statistics => !env.gwCfgGetHttpStatUseHttpStat

def Requests.afterAsyncComm (g : Requests) (w : World) (env : Env) : Requests where
  waiting t := g.waiting t && !starts w env t && !isDisabled env t
  inTransfer t :=
    if starts w env t then g.waiting t
    else g.inTransfer t && !(completes w env && decide (w.action = t.action))

/-- The transfer in progress is aborted because relaying has been suspended. -/
def aborts (w : World) (env : Env) : Bool :=
  !env.gwStatusIsRelayingViaHttpEnabled && w.state.flagAsyncCommInProgress

/-- What was served by an aborted transfer waits again. -/
def Requests.afterRelayingModeChanged (g : Requests) (w : World) (env : Env) : Requests where
  waiting t := g.waiting t || (aborts w env && g.inTransfer t)
  inTransfer t := g.inTransfer t && !aborts w env

/-- A changed configuration requests a transfer to each target that is enabled, and takes the
requests of the others back. -/
def Requests.afterCfgChange (g : Requests) (env : Env) : Requests where
  waiting t := if env.scanFilterCopied then t.use env else g.waiting t
  inTransfer t := g.inTransfer t && (!env.scanFilterCopied || t.use env)

/-- The signal of a target is a request if relaying and the target are enabled. -/
def Requests.afterSignal (g : Requests) (sig : Sig) (w : World) (env : Env) : Requests :=
  { g with waiting := fun t =>
      g.waiting t || (decide (sig = t.sig) && w.state.flagRelayingEnabled && t.use env) }

def Requests.after (g : Requests) (w : World) : Label → Requests
  | .table _ => g
  | .signal .doAsyncComm env => g.afterAsyncComm w env
  | .signal .relayingModeChanged env => g.afterRelayingModeChanged w env
  | .signal sig env => if sig.appliesCfg then g.afterCfgChange env else g.afterSignal sig w env

/-- The posting task, with the requests that it has been given. -/
def advPostRequests (nonce statNonce : UInt32) : System (World × Requests) Label Unit where
  init := (World.initial nonce statNonce, .none)
  step s label :=
    ((advPost nonce statNonce).step s.1 label).map fun r => ((r.1, s.2.after s.1 label), ())

/-- No request is forgotten: the flag of a target stays set while a request for it waits, and what
is being served is served by the transfer in progress. -/
structure Remembered (s : World × Requests) : Prop where
  waiting : ∀ t, s.2.waiting t = true → s.1.state.needToSend t = true
  inTransfer : ∀ t, s.2.inTransfer t = true →
    s.1.state.flagAsyncCommInProgress = true ∧ s.1.action = t.action

/-- The step completes a transfer while its target, which is still enabled, has been requested
again, or aborts a transfer that serves a request which has not been made again. -/
def ForgetsRequest (s : World × Requests) : Label → Prop
  | .signal .doAsyncComm env => completes s.1 env = true ∧ ∃ t, s.1.action = t.action ∧
      s.1.state.needToSend t = true ∧ isDisabled env t = false
  | .signal .relayingModeChanged env => aborts s.1 env = true ∧ ∃ t, s.2.inTransfer t = true ∧
      s.1.state.needToSend t = false
  | _ => False

end Model

section Flags

variable {w : World} {env : Env}

theorem needToSend_setNeedToSendAdvs (s : AdvPostState) {target : AdvsTarget} {t : Target}
    (h : t ≠ .advs target) : (s.setNeedToSendAdvs false target).needToSend t = s.needToSend t := by
  cases target <;> cases t with
  | statistics => rfl
  | advs target' => cases target' <;> first | rfl | exact absurd rfl h

theorem doRetransmission_state (w : World) (env : Env) (ts : Bool) (target : AdvsTarget) :
    (advPostDoRetransmission w env ts target.action).1.state = w.state := by
  unfold advPostDoRetransmission
  cases target <;>
  · dsimp only [AdvsTarget.action]
    split_ifs
    · rfl
    · unfold advPostRetransmitToHttp advPostRetransmitAdvs
      dsimp only
      split_ifs <;> rfl

theorem statisticsDoSend_state (w : World) (env : Env) :
    (advPostStatisticsDoSend w env).1.state = w.state := by
  unfold advPostStatisticsDoSend advPostStat
  dsimp only
  split_ifs <;> rfl

theorem tryLock_state (w : World) (env : Env) :
    (httpServerMutexTryLock w env).1.state = w.state := by
  unfold httpServerMutexTryLock
  split_ifs <;> rfl

/-- Sending advertisements leaves the state alone or starts a transfer. -/
theorem sendAdvs_state (target : AdvsTarget) (w : World) (env : Env) :
    (advPostDoAsyncCommSendAdvs target w env).state = w.state ∨
      ((advPostDoAsyncCommSendAdvs target w env).state =
          { w.state.setNeedToSendAdvs false target with flagAsyncCommInProgress := true } ∧
        (advPostDoAsyncCommSendAdvs target w env).action = target.action) := by
  have hlocked := tryLock_state w env
  have hstate := (doRetransmission_state
    { (httpServerMutexTryLock w env).1 with action := target.action } env
    (httpServerMutexTryLock w env).1.state.flagUseTimestamps target).trans hlocked
  have haction := (quiet_doRetransmission
    { (httpServerMutexTryLock w env).1 with action := target.action } env
    (httpServerMutexTryLock w env).1.state.flagUseTimestamps target).action
  unfold advPostDoAsyncCommSendAdvs
  dsimp only at hstate haction ⊢
  split_ifs
  · exact .inl rfl
  · exact .inl rfl
  · exact .inl hlocked
  · exact .inl ((unlock_fields _).1.trans hstate)
  · exact .inr ⟨by rw [hstate], haction⟩

/-- Sending statistics leaves the state alone, finds them disabled, or starts a transfer. -/
theorem sendStatistics_state (w : World) (env : Env) :
    (advPostDoAsyncCommSendStatistics w env).state = w.state ∨
      (env.gwCfgGetHttpStatUseHttpStat = false ∧ (advPostDoAsyncCommSendStatistics w env).state =
        { w.state with flagNeedToSendStatistics := false }) ∨
      ((advPostDoAsyncCommSendStatistics w env).state = { w.state with
          flagNeedToSendStatistics := false
          flagAsyncCommInProgress := true } ∧
        (advPostDoAsyncCommSendStatistics w env).action = .postStats) := by
  have hlocked := tryLock_state w env
  have hstate := statisticsDoSend_state
    { (httpServerMutexTryLock w env).1 with action := .postStats } env
  have haction := (quiet_statisticsDoSend
    { (httpServerMutexTryLock w env).1 with action := .postStats } env).action
  unfold advPostDoAsyncCommSendStatistics
  dsimp only at hstate haction ⊢
  split_ifs with huse
  · exact .inr (.inl ⟨by simpa using huse, rfl⟩)
  · exact .inl rfl
  · exact .inl rfl
  · exact .inl hlocked
  · exact .inl ((unlock_fields _).1.trans (hstate.trans hlocked))
  · exact .inr (.inr ⟨by rw [hstate, hlocked], haction⟩)

theorem startMqtt_needToSend (w : World) (env : Env) (t : Target) :
    (advPostDoAsyncCommStartSendingPeriodicMqtt w env).state.needToSend t =
      w.state.needToSend t := by
  unfold advPostDoAsyncCommStartSendingPeriodicMqtt advPostDoRetransmission
  dsimp only
  split_ifs <;> cases t with
  | statistics => rfl
  | advs target => cases target <;> rfl

/-- What starting a transfer can do to the flag of a target. -/
theorem startPending_needToSend (w : World) (env : Env) (t : Target) :
    (advPostStartPending w env).state.needToSend t = w.state.needToSend t ∨
      isDisabled env t = true ∨
      ((advPostStartPending w env).state.flagAsyncCommInProgress = true ∧
        (advPostStartPending w env).action = t.action) := by
  have hadvs (target : AdvsTarget) :
      (advPostDoAsyncCommSendAdvs target w env).state.needToSend t = w.state.needToSend t ∨
        isDisabled env t = true ∨
        ((advPostDoAsyncCommSendAdvs target w env).state.flagAsyncCommInProgress = true ∧
          (advPostDoAsyncCommSendAdvs target w env).action = t.action) := by
    rcases sendAdvs_state target w env with hsame | ⟨hstarted, haction⟩
    · exact .inl (by rw [hsame])
    · by_cases ht : t = .advs target
      · exact .inr (.inr ⟨by rw [hstarted], by rw [haction, ht]; rfl⟩)
      · rw [hstarted]
        have hother := needToSend_setNeedToSendAdvs w.state ht
        left
        rw [← hother]
        cases t with
        | statistics => rfl
        | advs target' => cases target' <;> rfl
  unfold advPostStartPending
  split_ifs
  · exact .inl rfl
  · exact hadvs .ruuvi
  · exact hadvs .custom
  · rcases sendStatistics_state w env with hsame | ⟨hoff, hcleared⟩ | ⟨hstarted, haction⟩
    · exact .inl (congrArg (AdvPostState.needToSend · t) hsame)
    · cases t with
      | statistics => exact .inr (.inl (by simp [isDisabled, hoff]))
      | advs target =>
        left
        refine (congrArg (AdvPostState.needToSend · (.advs target)) hcleared).trans ?_
        cases target <;> rfl
    · cases t with
      | statistics =>
        exact .inr (.inr ⟨congrArg AdvPostState.flagAsyncCommInProgress hstarted, haction⟩)
      | advs target =>
        left
        refine (congrArg (AdvPostState.needToSend · (.advs target)) hstarted).trans ?_
        cases target <;> rfl
  · exact .inl (startMqtt_needToSend w env t)
  · exact .inl rfl

end Flags

section Transfer

variable {w : World} {env : Env} {t : Target}

theorem Target.action_ne_mqtt (t : Target) : t.action ≠ .postAdvsToMqtt := by
  cases t with
  | statistics => exact nofun
  | advs target => cases target <;> exact nofun

theorem inProgressMqtt_state (w : World) (env : Env) :
    (advPostDoAsyncCommInProgressMqtt w env).1.state = w.state := by
  unfold advPostDoAsyncCommInProgressMqtt
  split
  · rfl
  · dsimp only
    split_ifs <;> rfl

theorem httpCompleted_needToSend (h : w.action ≠ t.action) :
    w.httpCompleted.state.needToSend t = w.state.needToSend t := by
  unfold World.httpCompleted
  cases t with
  | statistics =>
    split <;> first | rfl | contradiction
  | advs target =>
    cases target <;> split <;> first | rfl | contradiction

/-- Continuing a transfer clears no flag but that of the transfer it completes. -/
theorem progress_needToSend (env : Env) (h : w.action ≠ t.action) :
    (advPostDoAsyncCommInProgress w env).1.state.needToSend t = w.state.needToSend t := by
  have hmqtt := congrArg (AdvPostState.needToSend · t) (inProgressMqtt_state w env)
  unfold advPostDoAsyncCommInProgress
  dsimp only
  split_ifs
  · rfl
  · rw [(unlock_fields _).1]
    exact httpCompleted_needToSend h
  · exact hmqtt
  · exact hmqtt

theorem progress_state_of_pending (h : (advPostDoAsyncCommInProgress w env).2 = false) :
    (advPostDoAsyncCommInProgress w env).1.state = w.state := by
  have hmqtt := inProgressMqtt_state w env
  unfold advPostDoAsyncCommInProgress at h ⊢
  dsimp only at h ⊢
  split_ifs at h ⊢
  · rfl
  · exact hmqtt

/-- An HTTP transfer that is not complete stays the transfer in progress. -/
theorem Progress.action_of_pending {w' : World} {done : Bool} (hcase : Progress w env w' done)
    (hdone : done = false) (ht : w.action = t.action) : w'.action = w.action := by
  cases hcase with
  | httpPending _ hquiet => exact hquiet.action
  | mqttNext hmqtt _ _ _ => exact absurd (ht.symm.trans hmqtt) t.action_ne_mqtt
  | httpDone _ _ => cases hdone
  | mqttMissing _ _ => cases hdone
  | mqttDone _ _ _ => cases hdone

end Transfer

section Signals

variable {w : World} {env : Env} {sig : Sig} {t : Target} {g : Requests}

@[simp] theorem World.emit_state (w : World) (effect : Effect) : (w.emit effect).state = w.state :=
  rfl

theorem restartPending_state (w : World) :
    (advPostRestartPendingRetransmissions w).state = w.state := by
  unfold advPostRestartPendingRetransmissions
  dsimp only
  split_ifs <;> rfl

theorem onGwCfgChange_needToSend (w : World) (env : Env) (t : Target) :
    (advPostOnGwCfgChange w env).state.needToSend t =
      if env.scanFilterCopied then t.use env else w.state.needToSend t := by
  have hfilter (cache : CfgCache) :
      (advPostOnGwCfgChangeHandleScanFilter cache env).2 = env.scanFilterCopied := by
    unfold advPostOnGwCfgChangeHandleScanFilter Env.scanFilterCopied
    by_cases hlength : env.scanFilterList.length = 0
    · simp [hlength]
    · cases hallocated : env.scanFilterAllocated <;> simp [hlength]
  unfold advPostOnGwCfgChange
  dsimp only
  rw [hfilter]
  cases env.scanFilterCopied with
  | false => cases t with
    | statistics => rfl
    | advs target => cases target <;> rfl
  | true => cases t with
    | statistics => rfl
    | advs target => cases target <;> rfl

theorem needToSend_congr {s s' : AdvPostState} (t : Target)
    (hadvs1 : s'.flagNeedToSendAdvs1 = s.flagNeedToSendAdvs1)
    (hadvs2 : s'.flagNeedToSendAdvs2 = s.flagNeedToSendAdvs2)
    (hstatistics : s'.flagNeedToSendStatistics = s.flagNeedToSendStatistics) :
    s'.needToSend t = s.needToSend t := by
  cases t with
  | statistics => exact hstatistics
  | advs target =>
    cases target with
    | ruuvi => exact hadvs1
    | custom => exact hadvs2

/-- A request sets the flag of its target, if relaying and the target are enabled. -/
theorem request_needToSend {use requested : Bool} {request : AdvPostState → AdvPostState}
    (hset : (request w.state).needToSend t = (w.state.needToSend t || requested))
    (huse : requested = true → use = t.use env) :
    (advPostHandleSigRequest w use request).state.needToSend t =
      (w.state.needToSend t || (requested && w.state.flagRelayingEnabled && t.use env)) := by
  unfold advPostHandleSigRequest
  cases hrequested : requested with
  | false =>
    rw [hrequested, Bool.or_false] at hset
    split_ifs
    · simpa using hset
    · rw [Bool.false_and, Bool.false_and, Bool.or_false]
  | true =>
    rw [hrequested] at hset
    rw [huse hrequested]
    cases hcond : w.state.flagRelayingEnabled && t.use env with
    | false => simp [hcond]
    | true => simpa [hcond] using hset

theorem Target.sig_cases (t : Target) :
    t.sig = .retransmit ∨ t.sig = .retransmit2 ∨ t.sig = .sendStatistics := by
  cases t with
  | statistics => exact .inr (.inr rfl)
  | advs target =>
    cases target with
    | ruuvi => exact .inl rfl
    | custom => exact .inr (.inl rfl)

/-- A changed configuration decides on the flags of all targets, a request sets the flag of its
target, and other signals leave the flags alone. -/
theorem handleSig_needToSend (w : World) (env : Env) (t : Target) (hcomm : sig ≠ .doAsyncComm)
    (hrelaying : sig ≠ .relayingModeChanged) :
    (advPostHandleSig sig w env).state.needToSend t =
      if sig.appliesCfg then (if env.scanFilterCopied then t.use env else w.state.needToSend t)
      else (w.state.needToSend t ||
        (decide (sig = t.sig) && w.state.flagRelayingEnabled && t.use env)) := by
  have hother {w' : World} (hsame : w'.state.needToSend t = w.state.needToSend t)
      (hsig : sig ≠ t.sig) : w'.state.needToSend t = (w.state.needToSend t ||
        (decide (sig = t.sig) && w.state.flagRelayingEnabled && t.use env)) := by
    simp [hsame, hsig]
  cases sig with
  | doAsyncComm => exact absurd rfl hcomm
  | relayingModeChanged => exact absurd rfl hrelaying
  | retransmit =>
    refine request_needToSend ?_ ?_ <;> cases t with
    | statistics => simp [Target.sig, AdvPostState.needToSend]
    | advs target => cases target <;> simp [Target.sig, AdvPostState.needToSend,
        AdvPostState.needToSendAdvs, Target.use]
  | retransmit2 =>
    refine request_needToSend ?_ ?_ <;> cases t with
    | statistics => simp [Target.sig, AdvPostState.needToSend]
    | advs target => cases target <;> simp [Target.sig, AdvPostState.needToSend,
        AdvPostState.needToSendAdvs, Target.use]
  | sendStatistics =>
    refine request_needToSend ?_ ?_ <;> cases t with
    | statistics => simp [Target.sig, AdvPostState.needToSend, Target.use]
    | advs target => cases target <;> simp [Target.sig, AdvPostState.needToSend,
        AdvPostState.needToSendAdvs]
  | gwCfgReady =>
    refine (onGwCfgChange_needToSend _ env t).trans ?_
    cases env.gwCfgGetHttpStatUseHttpStat <;> rfl
  | gwCfgChangedRuuvi => exact onGwCfgChange_needToSend _ env t
  | cfgModeDeactivated => exact onGwCfgChange_needToSend _ env t
  | networkConnected =>
    refine hother ?_ (by rcases t.sig_cases with h | h | h <;> simp [h])
    refine (congrArg (AdvPostState.needToSend · t) (restartPending_state _)).trans ?_
    exact needToSend_congr t rfl rfl rfl
  | timeSynchronized =>
    refine hother ?_ (by rcases t.sig_cases with h | h | h <;> simp [h])
    refine (congrArg (AdvPostState.needToSend · t) (restartPending_state _)).trans ?_
    dsimp only
    split_ifs <;> exact needToSend_congr t rfl rfl rfl
  | retransmitMqtt =>
    refine request_needToSend ?_ ?_ <;> rcases t.sig_cases with h | h | h <;> simp [h] <;>
      exact needToSend_congr t rfl rfl rfl
  | networkWatchdog =>
    refine hother ?_ (by rcases t.sig_cases with h | h | h <;> simp [h])
    dsimp only [advPostHandleSig, advPostHandleSigNetworkWatchdog]
    split_ifs <;> rfl
  | _ =>
    refine hother (needToSend_congr t rfl rfl rfl) ?_
    rcases t.sig_cases with h | h | h <;> simp [h]

end Signals

section Steps

variable {s : World × Requests} {env : Env}

/-- A flag stays set unless a transfer to its target is started or the target is disabled. -/
theorem doAsyncComm_needToSend (hkeeps : ¬ForgetsRequest s (.signal .doAsyncComm env)) {t : Target}
    (hneed : s.1.state.needToSend t = true) (hstarts : starts s.1 env t = false)
    (henabled : isDisabled env t = false) :
    (advPostDoAsyncComm s.1 env).state.needToSend t = true := by
  -- what starting the next transfer leaves of the flag
  have hpending (w : World) (hw : w.state.needToSend t = true)
      (hstep : advPostDoAsyncComm s.1 env = advPostStartPending w env)
      (hends : s.1.state.flagAsyncCommInProgress = false ∨ completes s.1 env = true) :
      (advPostDoAsyncComm s.1 env).state.needToSend t = true := by
    rcases startPending_needToSend w env t with hsame | hdisabled | ⟨hprogress, haction⟩
    · rw [hstep, hsame, hw]
    · rw [henabled] at hdisabled
      cases hdisabled
    · have hstarted : starts s.1 env t = true := by
        rcases hends with hidle | hdone
        · simp [starts, hstep, hprogress, haction, hidle]
        · simp [starts, hstep, hprogress, haction, hdone]
      rw [hstarts] at hstarted
      cases hstarted
  have heq := doAsyncComm_eq s.1 env
  cases hprogress : s.1.state.flagAsyncCommInProgress with
  | false =>
    rw [hprogress, if_neg Bool.false_ne_true] at heq
    exact hpending s.1 hneed heq (.inl hprogress)
  | true =>
    rw [hprogress, if_pos rfl] at heq
    cases hdone : (advPostDoAsyncCommInProgress s.1 env).2 with
    | false =>
      rw [hdone, if_neg Bool.false_ne_true] at heq
      rw [heq, progress_state_of_pending hdone, hneed]
    | true =>
      rw [hdone, if_pos rfl] at heq
      have hcompletes : completes s.1 env = true := by rw [completes, hprogress, hdone]; rfl
      have hother : s.1.action ≠ t.action :=
        fun ht => hkeeps ⟨hcompletes, t, ht, hneed, henabled⟩
      refine hpending _ ?_ heq (.inr hcompletes)
      refine Eq.trans ?_ ((progress_needToSend env hother).trans hneed)
      exact needToSend_congr t rfl rfl rfl

/-- A transfer that serves a request goes on until it completes. -/
theorem doAsyncComm_inTransfer {t : Target} (hprogress : s.1.state.flagAsyncCommInProgress = true)
    (haction : s.1.action = t.action) (hpending : completes s.1 env = false) :
    (advPostDoAsyncComm s.1 env).state.flagAsyncCommInProgress = true ∧
      (advPostDoAsyncComm s.1 env).action = t.action := by
  rw [completes, hprogress, Bool.true_and] at hpending
  rw [doAsyncComm_eq, if_pos hprogress, hpending, if_neg Bool.false_ne_true]
  refine ⟨?_, ((progress_cases s.1 env).action_of_pending hpending haction).trans haction⟩
  rw [progress_state_of_pending hpending, hprogress]

theorem Remembered.doAsyncComm (h : Remembered s)
    (hkeeps : ¬ForgetsRequest s (.signal .doAsyncComm env)) :
    Remembered (advPostDoAsyncComm s.1 env, s.2.afterAsyncComm s.1 env) := by
  refine ⟨fun t hwaiting => ?_, fun t htransfer => ?_⟩
  · simp only [Requests.afterAsyncComm, Bool.and_eq_true, Bool.not_eq_true'] at hwaiting
    obtain ⟨⟨hwaiting, hstarts⟩, henabled⟩ := hwaiting
    exact doAsyncComm_needToSend hkeeps (h.waiting t hwaiting) hstarts henabled
  · simp only [Requests.afterAsyncComm] at htransfer
    split_ifs at htransfer with hstarts
    · simp only [starts, Bool.and_eq_true, decide_eq_true_eq] at hstarts
      exact hstarts.1
    · rw [Bool.and_eq_true, Bool.not_eq_true', Bool.and_eq_false_iff] at htransfer
      obtain ⟨hprogress, haction⟩ := h.inTransfer t htransfer.1
      have hpending := htransfer.2.resolve_right (by simp [haction])
      exact doAsyncComm_inTransfer hprogress haction hpending

theorem relayingModeChanged_needToSend (w : World) (env : Env) (t : Target) :
    (advPostHandleSigRelayingModeChanged w env).state.needToSend t = w.state.needToSend t := by
  unfold advPostHandleSigRelayingModeChanged
  rw [World.emit_state]
  rcases relayingModeChanged_cases w env with ⟨-, -, heq⟩ | ⟨-, heq⟩
  · rw [heq, (unlock_fields _).1]
    exact needToSend_congr t rfl rfl rfl
  · rw [heq]
    exact needToSend_congr t rfl rfl rfl

theorem Remembered.relayingModeChanged (h : Remembered s)
    (hkeeps : ¬ForgetsRequest s (.signal .relayingModeChanged env)) :
    Remembered (advPostHandleSigRelayingModeChanged s.1 env,
      s.2.afterRelayingModeChanged s.1 env) := by
  refine ⟨fun t hwaiting => ?_, fun t htransfer => ?_⟩
  · rw [relayingModeChanged_needToSend]
    simp only [Requests.afterRelayingModeChanged, Bool.or_eq_true, Bool.and_eq_true] at hwaiting
    rcases hwaiting with hwaiting | ⟨haborts, htransfer⟩
    · exact h.waiting t hwaiting
    · by_contra hforgotten
      exact hkeeps ⟨haborts, t, htransfer, by simpa using hforgotten⟩
  · simp only [Requests.afterRelayingModeChanged, Bool.and_eq_true, Bool.not_eq_true'] at htransfer
    obtain ⟨hprogress, haction⟩ := h.inTransfer t htransfer.1
    have hgoesOn := htransfer.2
    rcases relayingModeChanged_cases s.1 env with ⟨hoff, -, -⟩ | ⟨-, heq⟩
    · rw [aborts, hoff, hprogress] at hgoesOn
      cases hgoesOn
    · unfold advPostHandleSigRelayingModeChanged
      rw [heq]
      exact ⟨hprogress, haction⟩

/-- The other signals neither clear a flag, unless the configuration says so, nor touch a transfer.
-/
theorem Remembered.handleSig {sig : Sig} (h : Remembered s) (hcomm : sig ≠ .doAsyncComm)
    (hrelaying : sig ≠ .relayingModeChanged) :
    Remembered (advPostHandleSig sig s.1 env, s.2.after s.1 (.signal sig env)) := by
  have hquiet := quiet_handleSig s.1 env hcomm hrelaying
  have hflag (t : Target) := handleSig_needToSend s.1 env t hcomm hrelaying
  have hafter : s.2.after s.1 (.signal sig env) =
      if sig.appliesCfg then s.2.afterCfgChange env else s.2.afterSignal sig s.1 env := by
    cases sig <;> first | rfl | contradiction
  have htransfer {t : Target} (ht : s.2.inTransfer t = true) :
      (advPostHandleSig sig s.1 env).state.flagAsyncCommInProgress = true ∧
        (advPostHandleSig sig s.1 env).action = t.action :=
    ⟨hquiet.inProgress.trans (h.inTransfer t ht).1, hquiet.action.trans (h.inTransfer t ht).2⟩
  rw [hafter]
  by_cases hcfg : sig.appliesCfg = true
  · rw [if_pos hcfg]
    refine ⟨fun t hwaiting => ?_, fun t ht => ?_⟩
    · rw [hflag t, if_pos hcfg]
      simp only [Requests.afterCfgChange] at hwaiting
      split_ifs at hwaiting ⊢
      · exact hwaiting
      · exact h.waiting t hwaiting
    · simp only [Requests.afterCfgChange, Bool.and_eq_true] at ht
      exact htransfer ht.1
  · rw [if_neg hcfg]
    refine ⟨fun t hwaiting => ?_, fun t ht => htransfer ht⟩
    rw [hflag t, if_neg hcfg]
    simp only [Requests.afterSignal, Bool.or_eq_true] at hwaiting ⊢
    exact hwaiting.imp_left (h.waiting t)

end Steps

section Runs

/-- The task may take any signal until it has been stopped. -/
theorem requests_run_signal {nonce statNonce : UInt32} {G : World × Requests → Label → Prop}
    {history : List (Label × Unit)} {s : World × Requests}
    (hr : (advPostRequests nonce statNonce).Run G history s) (sig : Sig) (env : Env)
    (hstop : s.1.state.flagStop = false) (hG : G s (.signal sig env)) :
    (advPostRequests nonce statNonce).Run G ((.signal sig env, ()) :: history)
      (advPostHandleSig sig s.1 env, s.2.after s.1 (.signal sig env)) := by
  refine .step hr hG (Option.map_eq_some_iff.mpr ⟨(advPostHandleSig sig s.1 env, ()), ?_, rfl⟩)
  exact if_neg (by simp [hstop])

/-- The task handles a signal, which may be a request. -/
def handleSigWith (sig : Sig) (env : Env) (s : World × Requests) : World × Requests :=
  (advPostHandleSig sig s.1 env, s.2.after s.1 (.signal sig env))

/-- A transfer to Ruuvi has been requested and started. -/
def servedRuuvi : World × Requests :=
  handleSigWith .doAsyncComm envRuuvi (handleSigWith .retransmit envRuuvi
    (handleSigWith .networkConnected envRuuvi (World.initial 0 0, .none)))

theorem run_servedRuuvi : ∃ history, (advPostRequests 0 0).FreeRun history servedRuuvi := by
  have hconnected := requests_run_signal (G := System.anyStep)
    (.init : (advPostRequests 0 0).Run _ [] _) .networkConnected envRuuvi rfl trivial
  have hrequested := requests_run_signal hconnected .retransmit envRuuvi rfl trivial
  exact ⟨_, requests_run_signal hrequested .doAsyncComm envRuuvi rfl trivial⟩

end Runs

end RuuviGateway.AdvPost
