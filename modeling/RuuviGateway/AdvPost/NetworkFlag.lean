import RuuviGateway.AdvPost.Signals

/-!
# The network flag of the posting task

The handlers of all signals look at the flag, and two of them change it.
-/

namespace RuuviGateway.AdvPost

open AdvTable General

variable (w : World) (env : Env)

def World.networkFlag (w : World) : Bool := w.state.flagNetworkConnected

theorem networkFlag_unlock : (httpServerMutexUnlock w).networkFlag = w.networkFlag := by
  unfold httpServerMutexUnlock
  split_ifs <;> rfl

theorem networkFlag_tryLock : (httpServerMutexTryLock w env).1.networkFlag = w.networkFlag := by
  unfold httpServerMutexTryLock
  split_ifs <;> rfl

theorem networkFlag_restart :
    (advPostRestartPendingRetransmissions w).networkFlag = w.networkFlag := by
  unfold advPostRestartPendingRetransmissions
  dsimp only
  split_ifs <;> rfl

theorem networkFlag_doRetransmission (ts : Bool) (action : Action) :
    (advPostDoRetransmission w env ts action).1.networkFlag = w.networkFlag := by
  unfold advPostDoRetransmission
  by_cases hbuf : (!env.reportsBufAllocated) = true
  · rw [if_pos hbuf]
  · rw [if_neg hbuf]
    cases action with
    | none => rfl
    | postStats => rfl
    | postAdvsToMqtt => rfl
    | postAdvsToRuuvi =>
      unfold advPostRetransmitToHttp advPostRetransmitAdvs
      dsimp only
      split_ifs <;> rfl
    | postAdvsToCustom =>
      unfold advPostRetransmitToHttp advPostRetransmitAdvs
      dsimp only
      split_ifs <;> rfl

theorem networkFlag_sendAdvs (target : AdvsTarget) :
    (advPostDoAsyncCommSendAdvs target w env).networkFlag = w.networkFlag := by
  unfold advPostDoAsyncCommSendAdvs
  dsimp only
  split_ifs
  · rfl
  · rfl
  · exact networkFlag_tryLock w env
  · exact (networkFlag_unlock _).trans
      ((networkFlag_doRetransmission _ env _ _).trans (networkFlag_tryLock w env))
  · cases target <;>
      exact (networkFlag_doRetransmission _ env _ _).trans (networkFlag_tryLock w env)

theorem networkFlag_sendStatistics :
    (advPostDoAsyncCommSendStatistics w env).networkFlag = w.networkFlag := by
  have hsend : ∀ w : World, (advPostStatisticsDoSend w env).1.networkFlag = w.networkFlag := by
    intro w
    unfold advPostStatisticsDoSend advPostStat
    dsimp only
    split_ifs <;> rfl
  unfold advPostDoAsyncCommSendStatistics
  dsimp only
  split_ifs
  · rfl
  · rfl
  · rfl
  · exact networkFlag_tryLock w env
  · exact (networkFlag_unlock _).trans ((hsend _).trans (networkFlag_tryLock w env))
  · exact (hsend _).trans (networkFlag_tryLock w env)

theorem networkFlag_startMqtt :
    (advPostDoAsyncCommStartSendingPeriodicMqtt w env).networkFlag = w.networkFlag := by
  unfold advPostDoAsyncCommStartSendingPeriodicMqtt
  dsimp only
  split_ifs
  · rfl
  · rfl
  · rfl
  · rfl
  · exact networkFlag_doRetransmission _ env _ _
  · exact networkFlag_doRetransmission _ env _ _

theorem networkFlag_startPending : (advPostStartPending w env).networkFlag = w.networkFlag := by
  unfold advPostStartPending
  split_ifs
  · rfl
  · exact networkFlag_sendAdvs w env .ruuvi
  · exact networkFlag_sendAdvs w env .custom
  · exact networkFlag_sendStatistics w env
  · exact networkFlag_startMqtt w env
  · rfl

theorem networkFlag_inProgress :
    (advPostDoAsyncCommInProgress w env).1.networkFlag = w.networkFlag := by
  have hmqtt : (advPostDoAsyncCommInProgressMqtt w env).1.networkFlag = w.networkFlag := by
    unfold advPostDoAsyncCommInProgressMqtt
    split
    · rfl
    · dsimp only
      split_ifs <;> rfl
  have hcompleted : w.httpCompleted.networkFlag = w.networkFlag := by
    unfold World.httpCompleted
    split <;> rfl
  unfold advPostDoAsyncCommInProgress
  dsimp only
  split_ifs
  · rfl
  · exact (networkFlag_unlock _).trans hcompleted
  · exact hmqtt
  · exact hmqtt

theorem networkFlag_doAsyncComm : (advPostDoAsyncComm w env).networkFlag = w.networkFlag := by
  unfold advPostDoAsyncComm
  dsimp only
  split_ifs
  · exact networkFlag_inProgress w env
  · exact (networkFlag_startPending _ env).trans (networkFlag_inProgress w env)
  · exact networkFlag_startPending w env

theorem networkFlag_onGwCfgChange : (advPostOnGwCfgChange w env).networkFlag = w.networkFlag := by
  unfold advPostOnGwCfgChange
  dsimp only
  split_ifs <;> rfl

/-- Only the two signals about the network change the flag. -/
theorem networkFlag_handleSig (sig : Sig) : (advPostHandleSig sig w env).networkFlag =
    match sig with
    | .networkDisconnected => false
    | .networkConnected => true
    | _ => w.networkFlag := by
  have hrequest : ∀ (use : Bool) (request : AdvPostState → AdvPostState),
      (∀ s, (request s).flagNetworkConnected = s.flagNetworkConnected) →
      (advPostHandleSigRequest w use request).networkFlag = w.networkFlag := by
    intro use request h
    unfold advPostHandleSigRequest
    split_ifs
    · exact h _
    · rfl
  cases sig with
  | networkConnected => exact networkFlag_restart _
  | timeSynchronized =>
    refine (networkFlag_restart _).trans ?_
    split_ifs <;> rfl
  | retransmit => exact hrequest _ _ fun _ => rfl
  | retransmit2 => exact hrequest _ _ fun _ => rfl
  | retransmitMqtt => exact hrequest _ _ fun _ => rfl
  | sendStatistics => exact hrequest _ _ fun _ => rfl
  | doAsyncComm => exact networkFlag_doAsyncComm w env
  | relayingModeChanged =>
    change (advPostAbortTransfer (advPostSampleRelaying w env)).networkFlag = w.networkFlag
    unfold advPostAbortTransfer
    split_ifs
    · exact networkFlag_unlock _
    · rfl
  | networkWatchdog =>
    change (advPostHandleSigNetworkWatchdog w env).networkFlag = w.networkFlag
    unfold advPostHandleSigNetworkWatchdog
    split_ifs <;> rfl
  | gwCfgReady =>
    refine (networkFlag_onGwCfgChange _ env).trans ?_
    split_ifs <;> rfl
  | gwCfgChangedRuuvi => exact networkFlag_onGwCfgChange _ env
  | cfgModeDeactivated => exact networkFlag_onGwCfgChange _ env
  | _ => rfl

end RuuviGateway.AdvPost
