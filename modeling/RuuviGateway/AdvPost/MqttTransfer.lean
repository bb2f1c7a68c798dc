import Mathlib.Data.List.GetD
import RuuviGateway.AdvPost.LockOwnership
import RuuviGateway.AdvTable.Representation
import RuuviGateway.General.Monitor

/-!
# The periodic MQTT transfer

A transfer drains list 3 into a buffer, publishes the reports of the buffer one by one
over many signals, and frees the buffer. A monitor over the effects of the task says what
a transfer should look like.
-/

namespace RuuviGateway.AdvPost

open AdvTable General

variable {w w' : World} {env : Env}

/-- No transfer, a transfer with the reports that are still to be published, or a
transfer that has ended early and whose buffer is still to be freed. -/
inductive Transfer
  | idle
  | sending (rest : List AdvReport)
  | ended
  deriving DecidableEq

/-- A transfer publishes the drained reports in their order, may end early when a publish
fails or the transfer is aborted, and frees its buffer once at its end. -/
def Transfer.next (transfer : Transfer) : Effect → Option Transfer
  | .mqttBuffer reports =>
      match transfer with
      | .idle => some (.sending reports)
      | _ => none
  | .mqttPublish published _ _ done =>
      match transfer with
      | .sending (report :: rest) =>
          if published = report then some (if done then .sending rest else .ended) else none
      | _ => none
  | .httpAbort =>
      match transfer with
      | .sending _ => some .ended
      | other => some other
  | .mqttFree =>
      match transfer with
      | .sending [] | .ended => some .idle
      | _ => none
  | _ => some transfer

def mqttTransfers : Monitor Transfer Effect where
  start := .idle
  next := Transfer.next

def World.MqttInProgress (w : World) : Prop :=
  w.state.flagAsyncCommInProgress = true ∧ w.action = .postAdvsToMqtt

/-- Between two signals the effects so far are those of complete transfers, followed by
those of the transfer in progress if there is one. -/
structure CleanMqtt (w : World) : Prop where
  inProgress : w.MqttInProgress → ∃ rest, mqttTransfers.after w.log = some (.sending rest)
  idle : ¬w.MqttInProgress → mqttTransfers.after w.log = some .idle

/-- The conditions under which `DO_ASYNC_COMM` starts an MQTT transfer: a transfer in
progress ends, no other target is pending, and MQTT is ready. -/
structure StartsMqtt (w : World) (env : Env) : Prop extends MqttReady w env where
  ends : w.state.flagAsyncCommInProgress = true →
    if w.action = .postAdvsToMqtt then EndsMqtt w env (w.mqttReports.getD [])
    else env.httpAsyncPoll = true
  relaying : w.state.flagRelayingEnabled = true
  noAdvs1 : w.state.flagNeedToSendAdvs1 = true →
    w.state.flagAsyncCommInProgress = true ∧ w.action = .postAdvsToRuuvi
  noAdvs2 : w.state.flagNeedToSendAdvs2 = true →
    w.state.flagAsyncCommInProgress = true ∧ w.action = .postAdvsToCustom
  noStatistics : w.state.flagNeedToSendStatistics = true →
    w.state.flagAsyncCommInProgress = true ∧ w.action = .postStats
  needed : w.state.flagNeedToSendMqttPeriodic = true

/-- The step starts an MQTT transfer while list 3 is empty. -/
def StartsEmptyMqtt (w : World) : Label → Prop
  | .signal sig env =>
      sig = .doAsyncComm ∧ StartsMqtt w env ∧ w.table.advReportsRetransmissionList .list3 = []
  | .table _ => False

/-- In progress, the buffer holds the reports that remain from the current index on. -/
structure TransferInvariant (w : World) : Prop where
  sending : w.MqttInProgress → ∃ reports, w.mqttReports = some reports ∧
    w.mqttIdx < reports.length ∧
    mqttTransfers.after w.log = some (.sending (reports.drop w.mqttIdx))
  idle : ¬w.MqttInProgress → mqttTransfers.after w.log = some .idle

theorem TransferInvariant.clean (h : TransferInvariant w) : CleanMqtt w := by
  refine ⟨fun hprogress => ?_, h.idle⟩
  obtain ⟨reports, _, _, hafter⟩ := h.sending hprogress
  exact ⟨_, hafter⟩

theorem transferInvariant_initial (nonce statNonce : UInt32) :
    TransferInvariant (World.initial nonce statNonce) := by
  refine ⟨fun hprogress => ?_, fun _ => rfl⟩
  cases hprogress.1

/-! ## Effects that do not concern a transfer -/

theorem ignores_quiet {effect : Effect} (he : effect.isQuiet = true) :
    mqttTransfers.Ignores effect := by
  intro transfer
  cases effect <;> first | rfl | cases he

theorem after_quiet (hq : Quiet w w') :
    mqttTransfers.after w'.log = mqttTransfers.after w.log := by
  obtain ⟨effects, hlog, hquiet⟩ := hq.log
  rw [hlog]
  exact Monitor.after_append_ignored fun effect hmem => ignores_quiet (hquiet effect hmem)

theorem after_unlock (w : World) :
    mqttTransfers.after (httpServerMutexUnlock w).log = mqttTransfers.after w.log := by
  unfold httpServerMutexUnlock
  split_ifs <;> exact Monitor.after_ignored fun _ => rfl

theorem TransferInvariant.quiet (h : TransferInvariant w) (hq : Quiet w w') :
    TransferInvariant w' := by
  have hprogress : w'.MqttInProgress ↔ w.MqttInProgress := by
    simp only [World.MqttInProgress, hq.inProgress, hq.action]
  refine ⟨fun hp => ?_, fun hp => ?_⟩
  · rw [after_quiet hq, hq.mqttReports, hq.mqttIdx]
    exact h.sending (hprogress.mp hp)
  · rw [after_quiet hq]
    exact h.idle fun hp' => hp (hprogress.mpr hp')

/-! ## Steps -/

/-- A world without a transfer in progress. -/
structure NoTransfer (w : World) : Prop where
  idle : w.state.flagAsyncCommInProgress = false
  after : mqttTransfers.after w.log = some .idle

theorem NoTransfer.transferInvariant (h : NoTransfer w) : TransferInvariant w := by
  refine ⟨fun hprogress => ?_, fun _ => h.after⟩
  have hidle := h.idle
  rw [hprogress.1] at hidle
  cases hidle

theorem NoTransfer.quiet (h : NoTransfer w) (hq : Quiet w w') : NoTransfer w' :=
  ⟨hq.inProgress.trans h.idle, (after_quiet hq).trans h.after⟩

theorem transferInvariant_http (hhttp : w.action.isHttp = true)
    (hafter : mqttTransfers.after w.log = some .idle) : TransferInvariant w := by
  refine ⟨fun hprogress => ?_, fun _ => hafter⟩
  rw [hprogress.2] at hhttp
  cases hhttp

theorem NoTransfer.httpStart (h : NoTransfer w) {action : Action} (hhttp : action.isHttp = true)
    (hstart : HttpStart w action w') : TransferInvariant w' := by
  have hlock : mqttTransfers.after (w.lockFor action).log = some .idle :=
    (Monitor.after_ignored fun _ => rfl).trans h.after
  cases hstart with
  | refused hq => exact (h.quiet hq).transferInvariant
  | @failed w₁ _ hq =>
    obtain ⟨hstate, -, -⟩ := unlock_fields { w₁ with action := .none }
    refine NoTransfer.transferInvariant ⟨?_, ?_⟩
    · rw [hstate]
      exact hq.inProgress.trans h.idle
    · rw [after_unlock]
      exact (after_quiet hq).trans hlock
  | @started w₁ _ _ hq hq' =>
    refine TransferInvariant.quiet ?_ hq'
    refine transferInvariant_http ?_ ((after_quiet hq).trans hlock)
    exact (congrArg Action.isHttp hq.action).trans hhttp

/-- The first report of a non-empty list always reaches the output table. -/
theorem drainLoop_nonempty (k : ListNo) (q : List Elem) (t : Table) (reports : List AdvReport)
    (h : q ≠ [] ∧ reports.length < maxAdvsTable ∨ reports ≠ []) :
    (drainLoop k q t reports).reports ≠ [] := by
  induction q generalizing t reports with
  | nil => simpa [drainLoop] using h
  | cons e q ih =>
    unfold drainLoop
    dsimp only
    split_ifs with hfull
    · rcases h with ⟨-, hroom⟩ | hne
      · omega
      · exact hne
    · exact ih _ _ (.inr (by simp))

theorem NoTransfer.mqttStart (h : NoTransfer w) (env : Env)
    (hlist : w.table.advReportsRetransmissionList .list3 ≠ []) :
    TransferInvariant (w.mqttDrained env).setInProgress := by
  have hreports : (advTableReadRetransmissionList3AndClear w.table).reports ≠ [] :=
    drainLoop_nonempty _ _ _ _ (.inl ⟨hlist, by decide⟩)
  refine ⟨fun _ => ⟨_, rfl, List.length_pos_iff.mpr hreports, ?_⟩, fun hno => ?_⟩
  · exact Monitor.after_cons h.after
  · exact absurd ⟨rfl, rfl⟩ hno

theorem NoTransfer.startPending (h : NoTransfer w) (env : Env)
    (hlist : MqttDue w env → w.table.advReportsRetransmissionList .list3 ≠ []) :
    TransferInvariant (advPostStartPending w env) := by
  cases startPending_cases w env with
  | quiet hq => exact (h.quiet hq).transferInvariant
  | http _ hhttp hstart hq => exact (h.httpStart hhttp hstart).quiet hq
  | mqttFailed hq =>
    have hnone : NoTransfer { w with action := .none } := ⟨h.idle, h.after⟩
    exact (hnone.quiet hq).transferInvariant
  | mqtt hdue hq => exact (h.mqttStart env (hlist hdue)).quiet hq

/-- Publishing the report at the current index is what the monitor expects. -/
theorem after_published {reports : List AdvReport} (hidx : w.mqttIdx < reports.length)
    (hafter : mqttTransfers.after w.log = some (.sending (reports.drop w.mqttIdx))) :
    mqttTransfers.after (w.published env reports).log =
      some (if env.mqttPublishAdv then .sending (reports.drop (w.mqttIdx + 1)) else .ended) := by
  have hcons : reports.drop w.mqttIdx =
      reports.getD w.mqttIdx AdvReport.zero :: reports.drop (w.mqttIdx + 1) := by
    rw [List.drop_eq_getElem_cons hidx, List.getD_eq_getElem _ _ hidx]
  rw [hcons] at hafter
  exact (Monitor.after_cons hafter).trans (if_pos rfl)

/-- The transfer that `DO_ASYNC_COMM` finds in progress goes on or ends. -/
theorem TransferInvariant.progress (h : TransferInvariant w) (env : Env)
    (hprogress : w.state.flagAsyncCommInProgress = true) {done : Bool}
    (hcase : Progress w env w' done) :
    if done then NoTransfer w'.setIdle else TransferInvariant w' := by
  have hidle : w.action ≠ .postAdvsToMqtt → mqttTransfers.after w.log = some .idle :=
    fun hhttp => h.idle fun hmqtt => hhttp hmqtt.2
  cases hcase with
  | httpPending _ hq => exact h.quiet hq
  | httpDone hhttp _ =>
    have hlog : w.httpCompleted.log = w.log := by
      unfold World.httpCompleted
      split <;> rfl
    refine ⟨rfl, ?_⟩
    exact (after_unlock _).trans (hlog ▸ hidle hhttp)
  | mqttMissing hmqtt hnone =>
    obtain ⟨reports, hsome, -⟩ := h.sending ⟨hprogress, hmqtt⟩
    rw [hnone] at hsome
    cases hsome
  | @mqttNext reports _ hmqtt hreports hnext hq =>
    obtain ⟨reports', hsome, hidx, hafter⟩ := h.sending ⟨hprogress, hmqtt⟩
    obtain rfl : reports = reports' := by simpa [hreports] using hsome
    simp only [EndsMqtt, not_or, Bool.not_eq_false, not_le] at hnext
    refine TransferInvariant.quiet ?_ hq
    refine ⟨fun _ => ⟨reports, hreports, hnext.2, ?_⟩, fun hno => absurd ⟨hprogress, hmqtt⟩ hno⟩
    have hpublished : mqttTransfers.after (w.published env reports).log = _ :=
      after_published hidx hafter
    simpa [hnext.1] using hpublished
  | @mqttDone reports hmqtt hreports hends =>
    obtain ⟨reports', hsome, hidx, hafter⟩ := h.sending ⟨hprogress, hmqtt⟩
    obtain rfl : reports = reports' := by simpa [hreports] using hsome
    refine ⟨rfl, (Monitor.after_cons (after_published hidx hafter)).trans ?_⟩
    rcases hends with hfailed | hlast
    · simp [mqttTransfers, Transfer.next, hfailed]
    · rw [List.drop_eq_nil_of_le hlast]
      cases env.mqttPublishAdv <;> rfl

/-- What the end of a transfer leaves of the requests: only the request that has been
served may be gone. -/
structure KeepsRequests (w w' : World) : Prop where
  table : w'.table = w.table
  network : w'.state.flagNetworkConnected = w.state.flagNetworkConnected
  timestamps : w'.state.flagUseTimestamps = w.state.flagUseTimestamps
  relaying : w'.state.flagRelayingEnabled = w.state.flagRelayingEnabled
  periodic : w'.state.flagNeedToSendMqttPeriodic = w.state.flagNeedToSendMqttPeriodic
  advs1 : w.state.flagNeedToSendAdvs1 = true →
    w'.state.flagNeedToSendAdvs1 = true ∨ w.action = .postAdvsToRuuvi
  advs2 : w.state.flagNeedToSendAdvs2 = true →
    w'.state.flagNeedToSendAdvs2 = true ∨ w.action = .postAdvsToCustom
  statistics : w.state.flagNeedToSendStatistics = true →
    w'.state.flagNeedToSendStatistics = true ∨ w.action = .postStats

theorem keepsRequests_progress (hcase : Progress w env w' true) : KeepsRequests w w'.setIdle := by
  cases hcase with
  | httpDone hhttp hpoll =>
    obtain ⟨hstate, -, htable⟩ := unlock_fields w.httpCompleted
    constructor <;> simp only [World.setIdle, hstate, htable] <;> unfold World.httpCompleted <;>
      cases haction : w.action <;> simp
  | mqttMissing _ _ => exact ⟨rfl, rfl, rfl, rfl, rfl, .inl, .inl, .inl⟩
  | mqttDone _ _ _ => exact ⟨rfl, rfl, rfl, rfl, rfl, .inl, .inl, .inl⟩

/-- A transfer that is due after the one in progress has ended was due before. -/
theorem startsMqtt_of_due (hprogress : w.state.flagAsyncCommInProgress = true)
    (hcase : Progress w env w' true) (hdue : MqttDue w'.setIdle env) : StartsMqtt w env := by
  have hkeeps := keepsRequests_progress hcase
  have htime : timeConditionMet w env = timeConditionMet w'.setIdle env := by
    unfold timeConditionMet
    rw [hkeeps.timestamps]
  refine
    { use := hdue.use
      network := hkeeps.network ▸ hdue.network
      connected := hdue.connected
      time := htime.trans hdue.time
      buffer := hdue.buffer
      ends := fun _ => ?_
      relaying := hkeeps.relaying ▸ hdue.relaying
      noAdvs1 := fun hneed => ⟨hprogress, ?_⟩
      noAdvs2 := fun hneed => ⟨hprogress, ?_⟩
      noStatistics := fun hneed => ⟨hprogress, ?_⟩
      needed := hkeeps.periodic ▸ hdue.needed }
  · cases hcase with
    | httpDone hhttp hpoll => rwa [if_neg hhttp]
    | mqttMissing hmqtt hnone =>
      rw [if_pos hmqtt, hnone]
      exact .inr (Nat.zero_le _)
    | mqttDone hmqtt hreports hends => rwa [if_pos hmqtt, hreports]
  · simpa [hdue.noAdvs1] using hkeeps.advs1 hneed
  · simpa [hdue.noAdvs2] using hkeeps.advs2 hneed
  · simpa [hdue.noStatistics] using hkeeps.statistics hneed

theorem startsMqtt_of_due_idle (hidle : w.state.flagAsyncCommInProgress = false)
    (hdue : MqttDue w env) : StartsMqtt w env := by
  refine ⟨hdue.toMqttReady, ?_, hdue.relaying, ?_, ?_, ?_, hdue.needed⟩
  · simp [hidle]
  · simp [hdue.noAdvs1]
  · simp [hdue.noAdvs2]
  · simp [hdue.noStatistics]

theorem TransferInvariant.doAsyncComm (h : TransferInvariant w)
    (hguard : ¬StartsEmptyMqtt w (.signal .doAsyncComm env)) :
    TransferInvariant (advPostDoAsyncComm w env) := by
  have hlist : StartsMqtt w env → w.table.advReportsRetransmissionList .list3 ≠ [] :=
    fun hstarts hempty => hguard ⟨rfl, hstarts, hempty⟩
  rw [doAsyncComm_eq]
  split_ifs with hprogress hdone
  · have hcase := progress_cases w env
    rw [hdone] at hcase
    have hnone : NoTransfer _ := h.progress env hprogress hcase
    refine hnone.startPending env fun hdue => ?_
    rw [(keepsRequests_progress hcase).table]
    exact hlist (startsMqtt_of_due hprogress hcase hdue)
  · have hsame := h.progress env hprogress (progress_cases w env)
    rwa [if_neg hdone] at hsame
  · have hidle : w.state.flagAsyncCommInProgress = false := by simpa using hprogress
    have hnone : NoTransfer w := ⟨hidle, h.idle fun hmqtt => hprogress hmqtt.1⟩
    exact hnone.startPending env fun hdue => hlist (startsMqtt_of_due_idle hidle hdue)

theorem TransferInvariant.relayingModeChanged (h : TransferInvariant w)
    (habort : ¬AbortsMqtt w (.signal .relayingModeChanged env)) :
    TransferInvariant (advPostHandleSigRelayingModeChanged w env) := by
  refine TransferInvariant.quiet ?_ (quiet_emit _ rfl)
  rcases relayingModeChanged_cases w env with ⟨hoff, hprogress, heq⟩ | ⟨_, heq⟩
  · have hidle : mqttTransfers.after w.log = some .idle :=
      h.idle fun hmqtt => habort ⟨rfl, hoff, hprogress, hmqtt.2⟩
    have hstopped : mqttTransfers.after (.timer .doAsyncComm .stop :: w.log) = some .idle :=
      (Monitor.after_ignored fun _ => rfl).trans hidle
    rw [heq]
    refine NoTransfer.transferInvariant ⟨?_, ?_⟩
    · rw [(unlock_fields _).1]
      rfl
    · rw [after_unlock]
      exact Monitor.after_cons hstopped
  · rw [heq]
    exact ⟨h.sending, h.idle⟩

/-! ## Runs -/

/-- Disabling the relaying during a transfer leaves its buffer allocated. -/
theorem advPost_abort_keepsBuffer :
    ∃ history w, (advPost 0 0).FreeRun history w ∧ ¬w.MqttInProgress ∧ w.mqttReports ≠ none ∧
      ¬CleanMqtt w := by
  obtain ⟨history, hrun⟩ := run_started (G := System.anyStep) .retransmitMqtt envMqtt
    (fun _ _ => trivial) rfl
  have haborted := advPost_run_signal hrun .relayingModeChanged envRelayingOff rfl trivial
  have hnot : ¬(advPostHandleSig .relayingModeChanged (started .retransmitMqtt envMqtt)
      envRelayingOff).MqttInProgress := fun hprogress => absurd hprogress.1 (by decide)
  exact ⟨_, _, haborted, hnot, by decide, fun hclean => absurd (hclean.idle hnot) (by decide)⟩

end RuuviGateway.AdvPost
