import RuuviGateway.AdvPost.Steps

/-!
# Ownership of the HTTP-server mutex

The posting task takes the mutex when it starts an HTTP request and gives it back when
the request ends. An MQTT transfer never takes it, but the handler of
`RELAYING_MODE_CHANGED` gives it back for every transfer that it aborts.
-/

namespace RuuviGateway.AdvPost

open AdvTable General

variable {w w' : World} {env : Env}

/-- An HTTP request of the task is in progress. -/
def World.HttpInProgress (w : World) : Prop :=
  w.state.flagAsyncCommInProgress = true ∧ w.action.isHttp = true

/-- Between two signals the task holds the mutex exactly while an HTTP request is in
progress, and it has never unlocked a mutex that it did not hold. -/
structure OwnsLock (w : World) : Prop where
  held : w.mutexHeld = true ↔ w.HttpInProgress
  balanced : Effect.mutexUnlockedNotHeld ∉ w.log

/-- The step makes `RELAYING_MODE_CHANGED` abort an MQTT transfer. -/
def AbortsMqtt (w : World) : Label → Prop
  | .signal sig env =>
      sig = .relayingModeChanged ∧ env.gwStatusIsRelayingViaHttpEnabled = false ∧
        w.state.flagAsyncCommInProgress = true ∧ w.action = .postAdvsToMqtt
  | .table _ => False

/-- The working invariant: a transfer in progress has an action. -/
structure LockInvariant (w : World) : Prop extends OwnsLock w where
  hasAction : w.state.flagAsyncCommInProgress = true → w.action ≠ .none

theorem lockInvariant_initial (nonce statNonce : UInt32) :
    LockInvariant (World.initial nonce statNonce) := by
  refine ⟨⟨?_, ?_⟩, ?_⟩ <;> simp [World.initial, AdvPostState.initial, World.HttpInProgress]

theorem LockInvariant.quiet (h : LockInvariant w) (hq : Quiet w w') : LockInvariant w' := by
  obtain ⟨effects, hlog, hquiet⟩ := hq.log
  refine ⟨⟨?_, ?_⟩, ?_⟩
  · rw [hq.held, h.held]
    simp only [World.HttpInProgress, hq.inProgress, hq.action]
  · rw [hlog, List.mem_append]
    rintro (hmem | hmem)
    · exact absurd (hquiet _ hmem) (by simp [Effect.isQuiet])
    · exact h.balanced hmem
  · rw [hq.inProgress, hq.action]
    exact h.hasAction

theorem LockInvariant.emit (h : LockInvariant w) {effect : Effect} (he : effect.isQuiet = true) :
    LockInvariant (w.emit effect) :=
  h.quiet (quiet_emit w he)

/-- The invariant of a task that is about to start a transfer. -/
structure LockFree (w : World) : Prop where
  idle : w.state.flagAsyncCommInProgress = false
  free : w.mutexHeld = false
  balanced : Effect.mutexUnlockedNotHeld ∉ w.log

theorem LockFree.lockInvariant (h : LockFree w) : LockInvariant w := by
  refine ⟨⟨?_, h.balanced⟩, ?_⟩ <;> simp [World.HttpInProgress, h.idle, h.free]

theorem LockInvariant.lockFree (h : LockInvariant w)
    (hidle : w.state.flagAsyncCommInProgress = false) : LockFree w := by
  refine ⟨hidle, ?_, h.balanced⟩
  by_contra hheld
  have hprogress := h.held.mp (by simpa using hheld)
  rw [hprogress.1] at hidle
  cases hidle

/-! ## Steps -/

theorem LockFree.quiet (h : LockFree w) (hq : Quiet w w') : LockFree w' := by
  obtain ⟨effects, hlog, hquiet⟩ := hq.log
  refine ⟨hq.inProgress.trans h.idle, hq.held.trans h.free, ?_⟩
  rw [hlog, List.mem_append]
  rintro (hmem | hmem)
  · exact absurd (hquiet _ hmem) (by simp [Effect.isQuiet])
  · exact h.balanced hmem

theorem unlock_of_held (hheld : w.mutexHeld = true)
    (hidle : w.state.flagAsyncCommInProgress = false)
    (hbalanced : Effect.mutexUnlockedNotHeld ∉ w.log) : LockFree (httpServerMutexUnlock w) := by
  unfold httpServerMutexUnlock
  rw [if_pos hheld]
  exact ⟨hidle, rfl, by simpa [World.emit] using hbalanced⟩

/-- A prepared request holds the mutex although it is not in progress yet. -/
theorem LockFree.locked (h : LockFree w) (action : Action) {w₁ : World}
    (hq : Quiet (w.lockFor action) w₁) :
    w₁.state.flagAsyncCommInProgress = false ∧ w₁.mutexHeld = true ∧ w₁.action = action ∧
      Effect.mutexUnlockedNotHeld ∉ w₁.log := by
  obtain ⟨effects, hlog, hquiet⟩ := hq.log
  refine ⟨hq.inProgress.trans h.idle, hq.held, hq.action, ?_⟩
  rw [hlog, List.mem_append]
  rintro (hmem | hmem)
  · exact absurd (hquiet _ hmem) (by simp [Effect.isQuiet])
  · exact h.balanced (by simpa [World.lockFor, World.emit] using hmem)

theorem LockFree.httpStart (h : LockFree w) {action : Action} (hhttp : action.isHttp = true)
    (hstart : HttpStart w action w') : LockInvariant w' := by
  cases hstart with
  | refused hq => exact (h.quiet hq).lockInvariant
  | failed _ hq =>
    obtain ⟨hidle, hheld, _, hbalanced⟩ := h.locked action hq
    refine (unlock_of_held ?_ ?_ ?_).lockInvariant
    · exact hheld
    · exact hidle
    · exact hbalanced
  | @started w₁ _ _ hq hq' =>
    obtain ⟨_, hheld, haction, hbalanced⟩ := h.locked action hq
    rw [← haction] at hhttp
    refine LockInvariant.quiet ?_ hq'
    refine ⟨⟨iff_of_true hheld ⟨rfl, hhttp⟩, hbalanced⟩, fun _ hnone => ?_⟩
    have hnone' : w₁.action = .none := hnone
    rw [hnone'] at hhttp
    cases hhttp

theorem LockFree.mqttStarted (h : LockFree w) (env : Env) :
    LockInvariant (w.mqttDrained env).setInProgress := by
  refine ⟨⟨iff_of_false ?_ ?_, ?_⟩, ?_⟩
  · exact Bool.eq_false_iff.mp h.free
  · rintro ⟨-, hhttp⟩
    cases hhttp
  · simpa [World.setInProgress, World.mqttDrained, World.emit] using h.balanced
  · rintro - hnone
    cases hnone

theorem LockFree.startPending (h : LockFree w) (env : Env) :
    LockInvariant (advPostStartPending w env) := by
  cases startPending_cases w env with
  | quiet hq => exact (h.quiet hq).lockInvariant
  | http _ hhttp hstart hq => exact (h.httpStart hhttp hstart).quiet hq
  | mqttFailed hq =>
    have hfree : LockFree { w with action := .none } := ⟨h.idle, h.free, h.balanced⟩
    exact (hfree.quiet hq).lockInvariant
  | mqtt _ hq => exact (h.mqttStarted env).quiet hq

/-- Which transfer is in progress tells whether the mutex is held. -/
theorem LockInvariant.held_iff (h : LockInvariant w)
    (hprogress : w.state.flagAsyncCommInProgress = true) :
    w.mutexHeld = true ↔ w.action ≠ .postAdvsToMqtt := by
  have hsome := h.hasAction hprogress
  rw [h.held]
  simp only [World.HttpInProgress, hprogress, true_and]
  cases haction : w.action <;> simp_all [Action.isHttp]

theorem LockInvariant.inProgress (h : LockInvariant w) (env : Env)
    (hprogress : w.state.flagAsyncCommInProgress = true) {done : Bool}
    (hcase : Progress w env w' done) : if done then LockFree w'.setIdle else LockInvariant w' := by
  have hfree : w.action = .postAdvsToMqtt → w.mutexHeld = false := fun hmqtt =>
    Bool.eq_false_iff.mpr fun hheld => (h.held_iff hprogress).mp hheld hmqtt
  cases hcase with
  | httpPending _ hq => exact h.quiet hq
  | httpDone hhttp _ =>
    have hdone : w.httpCompleted.mutexHeld = true ∧ w.httpCompleted.log = w.log := by
      unfold World.httpCompleted
      split <;> exact ⟨(h.held_iff hprogress).mpr hhttp, rfl⟩
    unfold httpServerMutexUnlock
    rw [if_pos hdone.1]
    exact ⟨rfl, rfl, by simpa [World.setIdle, World.emit, hdone.2] using h.balanced⟩
  | mqttMissing hmqtt _ =>
    exact ⟨rfl, hfree hmqtt, by simpa [World.setIdle, World.emit] using h.balanced⟩
  | mqttNext hmqtt _ _ hq =>
    refine LockInvariant.quiet ?_ hq
    refine ⟨⟨h.held, ?_⟩, h.hasAction⟩
    simpa [World.published, World.emit] using h.balanced
  | mqttDone hmqtt _ _ =>
    refine ⟨rfl, hfree hmqtt, ?_⟩
    simpa [World.setIdle, World.freeMqttReports, World.published, World.emit] using h.balanced

theorem LockInvariant.doAsyncComm (h : LockInvariant w) (env : Env) :
    LockInvariant (advPostDoAsyncComm w env) := by
  rw [doAsyncComm_eq]
  split_ifs with hprogress hdone
  · have hfree := h.inProgress env hprogress (progress_cases w env)
    rw [if_pos hdone] at hfree
    exact hfree.startPending env
  · have hsame := h.inProgress env hprogress (progress_cases w env)
    rwa [if_neg hdone] at hsame
  · exact (h.lockFree (by simpa using hprogress)).startPending env

theorem LockInvariant.relayingModeChanged (h : LockInvariant w) (env : Env)
    (habort : ¬AbortsMqtt w (.signal .relayingModeChanged env)) :
    LockInvariant (advPostHandleSigRelayingModeChanged w env) := by
  refine LockInvariant.emit ?_ rfl
  rcases relayingModeChanged_cases w env with ⟨hoff, hprogress, heq⟩ | ⟨_, heq⟩
  · rw [heq]
    refine (unlock_of_held ?_ ?_ ?_).lockInvariant
    · exact (h.held_iff hprogress).mpr fun hmqtt => habort ⟨rfl, hoff, hprogress, hmqtt⟩
    · rfl
    · simpa [World.setIdle, World.emit, advPostSampleRelaying] using h.balanced
  · rw [heq]
    exact ⟨⟨h.held, h.balanced⟩, h.hasAction⟩

theorem LockInvariant.handleSig (h : LockInvariant w) (sig : Sig) (env : Env)
    (habort : ¬AbortsMqtt w (.signal sig env)) : LockInvariant (advPostHandleSig sig w env) := by
  by_cases hcomm : sig = .doAsyncComm
  · subst hcomm
    exact h.doAsyncComm env
  by_cases hrelaying : sig = .relayingModeChanged
  · subst hrelaying
    exact h.relayingModeChanged env habort
  exact h.quiet (quiet_handleSig w env hcomm hrelaying)

/-- An aborted MQTT transfer unlocks a mutex that the task does not hold. -/
theorem LockInvariant.abort_unbalanced (h : LockInvariant w) {sig : Sig}
    (habort : AbortsMqtt w (.signal sig env)) :
    Effect.mutexUnlockedNotHeld ∈ (advPostHandleSig sig w env).log := by
  obtain ⟨rfl, hoff, hprogress, hmqtt⟩ := habort
  have hfree : ¬w.mutexHeld = true := fun hheld => (h.held_iff hprogress).mp hheld hmqtt
  rcases relayingModeChanged_cases w env with ⟨_, _, heq⟩ | ⟨hno, _⟩
  · unfold advPostHandleSig advPostHandleSigRelayingModeChanged
    dsimp only
    rw [heq]
    unfold httpServerMutexUnlock
    rw [if_neg (by exact hfree)]
    simp [World.emit]
  · simp [hoff, hprogress] at hno

/-! ## The log only grows -/

theorem Quiet.log_suffix (hq : Quiet w w') : w.log <:+ w'.log := by
  obtain ⟨effects, hlog, -⟩ := hq.log
  exact ⟨effects, hlog.symm⟩

theorem log_unlock (w : World) : w.log <:+ (httpServerMutexUnlock w).log := by
  unfold httpServerMutexUnlock
  split_ifs <;> exact List.suffix_cons _ _

theorem log_httpStart {action : Action} (hstart : HttpStart w action w') : w.log <:+ w'.log := by
  have hlock : w.log <:+ (w.lockFor action).log := List.suffix_cons _ _
  cases hstart with
  | refused hq => exact hq.log_suffix
  | failed _ hq =>
    refine List.IsSuffix.trans ?_ (log_unlock _)
    exact hlock.trans hq.log_suffix
  | started _ hq hq' =>
    refine List.IsSuffix.trans ?_ hq'.log_suffix
    exact hlock.trans hq.log_suffix

theorem log_startPending (w : World) (env : Env) : w.log <:+ (advPostStartPending w env).log := by
  cases startPending_cases w env with
  | quiet hq => exact hq.log_suffix
  | http _ _ hstart hq => exact (log_httpStart hstart).trans hq.log_suffix
  | mqttFailed hq => exact hq.log_suffix
  | mqtt _ hq =>
    refine List.IsSuffix.trans ?_ hq.log_suffix
    exact List.suffix_cons _ _

theorem log_progress {done : Bool} (hcase : Progress w env w' done) : w.log <:+ w'.log := by
  cases hcase with
  | httpPending _ hq => exact hq.log_suffix
  | httpDone _ _ =>
    have hdone : w.httpCompleted.log = w.log := by
      unfold World.httpCompleted
      split <;> rfl
    exact hdone ▸ log_unlock w.httpCompleted
  | mqttMissing _ _ => exact List.suffix_cons _ _
  | mqttNext _ _ _ hq =>
    refine List.IsSuffix.trans ?_ hq.log_suffix
    exact List.suffix_cons _ _
  | mqttDone _ _ _ => exact (List.suffix_cons _ _).trans (List.suffix_cons _ _)

theorem log_handleSig (sig : Sig) (w : World) (env : Env) :
    w.log <:+ (advPostHandleSig sig w env).log := by
  by_cases hcomm : sig = .doAsyncComm
  · subst hcomm
    unfold advPostHandleSig
    dsimp only
    rw [doAsyncComm_eq]
    split_ifs
    · have hprogress := log_progress (progress_cases w env)
      exact List.IsSuffix.trans hprogress (log_startPending (World.setIdle _) env)
    · exact log_progress (progress_cases w env)
    · exact log_startPending w env
  by_cases hrelaying : sig = .relayingModeChanged
  · subst hrelaying
    refine List.IsSuffix.trans ?_ (List.suffix_cons _ _)
    rcases relayingModeChanged_cases w env with ⟨_, _, heq⟩ | ⟨_, heq⟩
    · rw [heq]
      refine List.IsSuffix.trans ?_ (log_unlock _)
      exact (List.suffix_cons _ _).trans (List.suffix_cons _ _)
    · rw [heq]
      exact List.suffix_refl _
  exact (quiet_handleSig w env hcomm hrelaying).log_suffix

/-! ## Runs -/

/-- In a run of the posting task, the mutex is owned as it should be exactly when no step of
the run let `RELAYING_MODE_CHANGED` abort an MQTT transfer. -/
theorem advPost_ownsLock {nonce statNonce : UInt32} {history : List (Label × Unit)} {w : World}
    (hr : (advPost nonce statNonce).FreeRun history w) :
    OwnsLock w ↔
      (advPost nonce statNonce).Run (fun w label => ¬AbortsMqtt w label) history w := by
  have hgood : ∀ {history w}, (advPost nonce statNonce).Run (fun w l => ¬AbortsMqtt w l) history w →
      LockInvariant w := by
    intro history w hrun
    refine hrun.invariant (lockInvariant_initial _ _) fun s label s' o hs hguard hstep => ?_
    rcases advPost_step hstep with ⟨sig, env, rfl, -, rfl⟩ | ⟨op, rfl, rfl⟩
    · exact hs.handleSig sig env hguard
    · exact hs.quiet ((Quiet.refl s).table _)
  have hbalanced : ∀ {history w}, (advPost nonce statNonce).FreeRun history w →
      Effect.mutexUnlockedNotHeld ∉ w.log →
      (advPost nonce statNonce).Run (fun w l => ¬AbortsMqtt w l) history w := by
    intro history w hrun
    induction hrun with
    | init => exact fun _ => .init
    | @step history s label s' o _ _ hstep ih =>
      intro hclean
      rcases advPost_step hstep with ⟨sig, env, rfl, -, rfl⟩ | ⟨op, rfl, rfl⟩
      · have hprev := ih fun hmem => hclean ((log_handleSig sig s env).subset hmem)
        refine .step hprev (fun habort => ?_) hstep
        exact hclean ((hgood hprev).abort_unbalanced habort)
      · exact .step (ih hclean) (fun habort => habort) hstep
  exact ⟨fun hown => hbalanced hr hown.balanced, fun hrun => (hgood hrun).toOwnsLock⟩

/-- The worlds after the network came up, a target asked for a transfer, and it started. -/
def requested (sig : Sig) (env : Env) : World :=
  advPostHandleSig sig (advPostHandleSig .networkConnected (World.initial 0 0) env) env

def started (sig : Sig) (env : Env) : World :=
  advPostHandleSig .doAsyncComm (requested sig env) env

def envRuuvi : Env := { gwCfgGetHttpUseHttpRuuvi := true }

def envMqtt : Env := { gwCfgGetMqttUseMqtt := true }

def envRelayingOff : Env := { gwStatusIsRelayingViaHttpEnabled := false }

theorem run_started {G : World → Label → Prop} (sig : Sig) (env : Env)
    (hG : ∀ w sig, G w (.signal sig env))
    (hstop : (requested sig env).state.flagStop = false) :
    ∃ history, (advPost 0 0).Run G history (started sig env) := by
  have hconnected := advPost_run_signal (G := G) (.init : (advPost 0 0).Run G [] _)
    .networkConnected env rfl (hG _ _)
  have hrequested := advPost_run_signal hconnected sig env rfl (hG _ _)
  exact ⟨_, advPost_run_signal hrequested .doAsyncComm env hstop (hG _ _)⟩

theorem advPost_ownsLock_http :
    OwnsLock (started .retransmit envRuuvi) ∧ (started .retransmit envRuuvi).mutexHeld = true := by
  obtain ⟨history, hrun⟩ := run_started (G := fun w label => ¬AbortsMqtt w label) .retransmit
    envRuuvi (fun _ _ habort => by simp [AbortsMqtt, envRuuvi] at habort) rfl
  exact ⟨(advPost_ownsLock hrun.free).mpr hrun, by decide⟩

/-- Disabling the relaying during an MQTT transfer unlocks the mutex without holding it. -/
theorem advPost_unlocks_notHeld :
    ¬∀ history w, (advPost 0 0).FreeRun history w → OwnsLock w := by
  intro hall
  obtain ⟨history, hrun⟩ := run_started (G := System.anyStep) .retransmitMqtt envMqtt
    (fun _ _ => trivial) rfl
  have haborted := advPost_run_signal hrun .relayingModeChanged envRelayingOff rfl trivial
  exact (hall _ _ haborted).balanced (by decide)

end RuuviGateway.AdvPost
