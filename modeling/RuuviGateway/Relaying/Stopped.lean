import RuuviGateway.AdvPost.Steps
import RuuviGateway.Relaying.Threads

/-!
# When relaying has stopped

A way of relaying has stopped for good if it has stopped and the task that serves it is
not about to enable it again from an old sample of the counter. While the counter is
positive, no thread can undo that.
-/

namespace RuuviGateway.AdvPost

variable {w w' : World} {env : Env}

/-- The task does not relay via HTTP: it has taken over that relaying is disabled, and no
HTTP transfer is in progress. -/
def World.httpStopped (w : World) : Bool :=
  !w.state.flagRelayingEnabled && !(w.state.flagAsyncCommInProgress && w.action.isHttp)

theorem httpStopped_iff : w.httpStopped = true ↔ w.state.flagRelayingEnabled = false ∧
    (w.state.flagAsyncCommInProgress = true → w.action.isHttp = false) := by
  unfold World.httpStopped
  cases w.state.flagRelayingEnabled <;> cases w.state.flagAsyncCommInProgress <;> simp

theorem Quiet.httpStopped (hq : Quiet w w') (h : w.httpStopped = true) :
    w'.httpStopped = true := by
  rw [World.httpStopped, hq.relaying, hq.inProgress, hq.action]
  exact h

theorem httpStopped_idle (hrelaying : w.state.flagRelayingEnabled = false)
    (hidle : w.state.flagAsyncCommInProgress = false) : w.httpStopped = true := by
  rw [httpStopped_iff, hidle]
  exact ⟨hrelaying, nofun⟩

/-- The end of a transfer keeps the relaying mode. -/
theorem relaying_progress {done : Bool} (hcase : Progress w env w' done) :
    w'.state.flagRelayingEnabled = w.state.flagRelayingEnabled := by
  cases hcase with
  | httpPending _ hq => exact hq.relaying
  | httpDone _ _ =>
    rw [(unlock_fields _).1]
    unfold World.httpCompleted
    split <;> rfl
  | mqttMissing _ _ => rfl
  | mqttNext _ _ _ hq => exact hq.relaying
  | mqttDone _ _ _ => rfl

/-- A transfer that goes on is not an HTTP transfer, and stays what it is. -/
theorem httpStopped_progress (h : w.httpStopped = true) (hcase : Progress w env w' false) :
    w'.httpStopped = true := by
  cases hcase with
  | httpPending _ hq => exact hq.httpStopped h
  | mqttNext _ _ _ hq =>
    refine Quiet.httpStopped hq ?_
    exact httpStopped_iff.mpr (httpStopped_iff.mp h)

theorem httpStopped_doAsyncComm (h : w.httpStopped = true) (env : Env) :
    (advPostDoAsyncComm w env).httpStopped = true := by
  have hrelaying := (httpStopped_iff.mp h).1
  have hstart : ∀ w : World, w.state.flagRelayingEnabled = false →
      advPostStartPending w env = w := by
    intro w hoff
    unfold advPostStartPending
    rw [hoff]
    rfl
  have hcase := progress_cases w env
  rw [doAsyncComm_eq]
  split_ifs with hprogress hdone
  · have hoff : (advPostDoAsyncCommInProgress w env).1.setIdle.state.flagRelayingEnabled = false :=
      (relaying_progress hcase).trans hrelaying
    rw [hstart _ hoff]
    exact httpStopped_idle hoff rfl
  · rw [Bool.not_eq_true] at hdone
    rw [hdone] at hcase
    exact httpStopped_progress h hcase
  · rw [hstart w hrelaying]
    exact h

/-- Only `RELAYING_MODE_CHANGED` makes the task relay via HTTP again. -/
theorem httpStopped_handleSig (h : w.httpStopped = true) {sig : Sig} (env : Env)
    (hsig : sig ≠ .relayingModeChanged) : (advPostHandleSig sig w env).httpStopped = true := by
  by_cases hcomm : sig = .doAsyncComm
  · subst hcomm
    exact httpStopped_doAsyncComm h env
  · exact (quiet_handleSig w env hcomm hsig).httpStopped h

theorem relaying_abort (w : World) :
    (advPostAbortTransfer w).state.flagRelayingEnabled = w.state.flagRelayingEnabled := by
  unfold advPostAbortTransfer
  split_ifs
  · rw [(unlock_fields _).1]
    rfl
  · rfl

/-- After the handler has aborted a transfer, disabled relaying has stopped. -/
theorem httpStopped_abort (hrelaying : w.state.flagRelayingEnabled = false) :
    (advPostAbortTransfer w).httpStopped = true := by
  refine httpStopped_idle ((relaying_abort w).trans hrelaying) ?_
  unfold advPostAbortTransfer
  rw [hrelaying, Bool.not_false, Bool.true_and]
  split_ifs with hprogress
  · rw [(unlock_fields _).1]
  · simpa using hprogress

end RuuviGateway.AdvPost

namespace RuuviGateway.Relaying

open AdvPost General

variable {w w' : World}

/-- What a suspension promises about one way of relaying. -/
def World.stopped (w : World) : Via → Bool
  | .http => w.advPost.httpStopped
  | .mqtt => !w.mqttClient

/-- The main task is going to start an MQTT client without looking at the counter again. -/
def MainPc.startsClient : MainPc → Bool
  | .boot | .relayingStart | .restartStart => true
  | _ => false

/-- The way of relaying has stopped for good. -/
def World.settled (w : World) : Via → Bool
  | .http => w.stopped .http && decide (w.advPostPc ≠ .sampled true)
  | .mqtt => w.stopped .mqtt && !w.mainPc.startsClient

theorem stopped_of_settled {via : Via} (h : w.settled via = true) : w.stopped via = true := by
  cases via <;> exact (Bool.and_eq_true_iff.mp h).1

theorem settled_http_iff : w.settled .http = true ↔
    w.advPost.httpStopped = true ∧ w.advPostPc ≠ .sampled true := by
  simp [World.settled, World.stopped]

theorem settled_mqtt_iff : w.settled .mqtt = true ↔
    w.mqttClient = false ∧ w.mainPc.startsClient = false := by
  simp [World.settled, World.stopped]

/-! ## The posting task -/

/-- What a step of the handler of the posting task leaves alone. -/
structure AdvPostFrame (w w' : World) : Prop where
  calls : w'.calls = w.calls
  mqttClient : w'.mqttClient = w.mqttClient
  mainPc : w'.mainPc = w.mainPc
  status : w'.status = w.status ∨
    w.advPostPc = .aborted ∧ w'.status = w.status.clearCmd .http

theorem advPostRelaying_frame (hstep : advPostRelayingStep w = some w') : AdvPostFrame w w' := by
  unfold advPostRelayingStep at hstep
  split at hstep
  · split_ifs at hstep
    cases hstep
    exact ⟨rfl, rfl, rfl, .inl rfl⟩
  · cases hstep
    exact ⟨rfl, rfl, rfl, .inl rfl⟩
  · cases hstep
    exact ⟨rfl, rfl, rfl, .inl rfl⟩
  · rename_i haborted
    cases hstep
    exact ⟨rfl, rfl, rfl, .inr ⟨haborted, rfl⟩⟩

theorem advPostRelaying_settled (hstep : advPostRelayingStep w = some w') {via : Via}
    (hcnt : w.status.cntSuspended via ≠ 0) (h : w.settled via = true) :
    w'.settled via = true := by
  have hframe := advPostRelaying_frame hstep
  cases via with
  | mqtt =>
    rw [settled_mqtt_iff] at h ⊢
    rw [hframe.mqttClient, hframe.mainPc]
    exact h
  | http =>
    obtain ⟨hstopped, hpc⟩ := settled_http_iff.mp h
    rw [settled_http_iff]
    unfold advPostRelayingStep at hstep
    split at hstep
    · split_ifs at hstep
      cases hstep
      refine ⟨hstopped, ?_⟩
      simp [Status.isRelayingEnabled, hcnt]
    · rename_i enabled hsampled
      cases hstep
      refine ⟨?_, nofun⟩
      have hoff : enabled = false := by
        cases enabled
        · rfl
        · exact absurd hsampled hpc
      subst hoff
      exact httpStopped_iff.mpr ⟨rfl, (httpStopped_iff.mp hstopped).2⟩
    · cases hstep
      exact ⟨httpStopped_abort (httpStopped_iff.mp hstopped).1, nofun⟩
    · cases hstep
      exact ⟨hstopped, nofun⟩

theorem advPostSignal_settled {sig : Sig} {env : Env}
    (hstep : advPostSignalStep w sig env = some w') {via : Via} (h : w.settled via = true) :
    w'.settled via = true := by
  unfold advPostSignalStep at hstep
  split_ifs at hstep with hidle
  cases hstep
  cases via with
  | mqtt => exact h
  | http =>
    obtain ⟨hstopped, hpc⟩ := settled_http_iff.mp h
    exact settled_http_iff.mpr ⟨httpStopped_handleSig hstopped env hidle.2.1, hpc⟩

/-! ## The main task -/

theorem mainChoice_suspended (env : MainEnv) (hcnt : w.status.cntSuspended .mqtt ≠ 0) :
    mainRelayingChoice w env = .relayingStop := by
  unfold mainRelayingChoice Status.isRelayingEnabled
  split_ifs with huse hzero
  · exact absurd (of_decide_eq_true hzero) hcnt
  · exact absurd (of_decide_eq_true hzero) hcnt
  · rfl
  · rfl

/-- What a step of the main task leaves alone. -/
structure MainFrame (w w' : World) : Prop where
  calls : w'.calls = w.calls
  advPost : w'.advPost = w.advPost
  advPostPc : w'.advPostPc = w.advPostPc
  status : w'.status = w.status ∨
    ∃ stopped, w.mainPc = .relayingClear stopped ∧ w'.status = w.status.clearCmd .mqtt

theorem mainFrame_start (w : World) (env : MainEnv) (pc : MainPc) :
    MainFrame w { mqttAppStartWithGwCfg w env with mainPc := pc } := by
  unfold mqttAppStartWithGwCfg
  split_ifs <;> exact ⟨rfl, rfl, rfl, .inl rfl⟩

theorem main_frame {env : MainEnv} (hstep : mainStep w env = some w') : MainFrame w w' := by
  unfold mainStep at hstep
  split at hstep
  case h_1 =>
    cases hstep
    split_ifs
    · exact mainFrame_start w env .idle
    · exact ⟨rfl, rfl, rfl, .inl rfl⟩
  case h_2 =>
    split_ifs at hstep
    cases hstep
    exact ⟨rfl, rfl, rfl, .inl rfl⟩
  case h_3 => cases hstep; exact mainFrame_start w env _
  case h_4 => cases hstep; exact ⟨rfl, rfl, rfl, .inl rfl⟩
  case h_5 stopped hclear => cases hstep; exact ⟨rfl, rfl, rfl, .inr ⟨stopped, hclear, rfl⟩⟩
  case h_6 => cases hstep; exact ⟨rfl, rfl, rfl, .inl rfl⟩
  case h_7 => split_ifs at hstep <;> cases hstep <;> exact ⟨rfl, rfl, rfl, .inl rfl⟩
  case h_8 => cases hstep; exact mainFrame_start w env _

theorem main_settled {env : MainEnv} (hstep : mainStep w env = some w') {via : Via}
    (hcnt : w.status.cntSuspended via ≠ 0) (h : w.settled via = true) :
    w'.settled via = true := by
  have hframe := main_frame hstep
  cases via with
  | http =>
    rw [settled_http_iff] at h ⊢
    rw [hframe.advPost, hframe.advPostPc]
    exact h
  | mqtt =>
    obtain ⟨hclient, hpc⟩ := settled_mqtt_iff.mp h
    rw [settled_mqtt_iff]
    unfold mainStep at hstep
    split at hstep
    case h_1 hboot => rw [hboot] at hpc; cases hpc
    case h_2 =>
      split_ifs at hstep
      cases hstep
      refine ⟨hclient, ?_⟩
      rw [mainChoice_suspended env hcnt]
      rfl
    case h_3 hstart => rw [hstart] at hpc; cases hpc
    case h_4 => cases hstep; exact ⟨rfl, rfl⟩
    case h_5 => cases hstep; exact ⟨hclient, rfl⟩
    case h_6 => cases hstep; exact ⟨rfl, rfl⟩
    case h_7 =>
      have hoff : w.status.isRelayingEnabled .mqtt = false := by
        simp [Status.isRelayingEnabled, hcnt]
      rw [hoff, Bool.and_false, if_neg Bool.false_ne_true] at hstep
      cases hstep
      exact ⟨hclient, rfl⟩
    case h_8 hstart => rw [hstart] at hpc; cases hpc

end RuuviGateway.Relaying
