import RuuviGateway.Leds.Notifications

/-!
# Runs of `leds_task`

No assertion of the controller fails as long as an update notifies only when the controller can show
it. An update that is announced while another one is shown restarts the gateway in the middle of the
first one.
-/

namespace RuuviGateway.Leds

open General

section Property

variable (w : World)

/-- The state of the controller after the configuration is one of these, and an update is shown only
if there is one. -/
def World.ShowsReady : Prop :=
  .cfgReady ∈ w.handled →
    w.task.ctrl.ledsSmState = .substate ∨
    w.task.ctrl.ledsSmState = .flashingNrf52Fw ∧ 0 < w.fwUpdates ∨
    w.task.ctrl.ledsSmState = .nrf52Failure ∨ w.task.ctrl.ledsSmState = .beforeReboot

/-- An update notifies while a notification of an update is pending, when the gateway is about to
reboot or the nRF52 has failed, or when the last notification that has been taken is neither that
of an update nor that of the nRF52 being ready. -/
def UpdateSuits (taken pending : List LedsCtrlEvent) : Prop :=
  .nrf52FwUpdating ∈ pending ∨ .reboot ∈ taken ++ pending ∨ .nrf52Failure ∈ taken ∨
    taken.getLast? ≠ some .nrf52FwUpdating ∧ taken.getLast? ≠ some .nrf52Ready

instance (taken pending : List LedsCtrlEvent) : Decidable (UpdateSuits taken pending) :=
  inferInstanceAs (Decidable (_ ∨ _))

/-- Only the notification of an update has to suit. -/
def StepSuits : Label → Prop
  | .fwUpdateRun => UpdateSuits w.taken w.pending
  | _ => True

instance (l : Label) : Decidable (StepSuits w l) :=
  match l with
  | .fwUpdateRun => inferInstanceAs (Decidable (UpdateSuits w.taken w.pending))
  | .boot | .reboot | .signal _ | .take | .next _ => inferInstanceAs (Decidable True)

end Property

section Invariant

/-- What is ahead of the controller when it has handled all that it has taken. -/
inductive Ahead (b : Boot) (taken pending toSend : List LedsCtrlEvent) : LedsCtrlState → Prop
  | rebooted : Ahead b taken pending toSend .beforeReboot
  | reboots {state events} (hpending : pending = .reboot :: events) :
      Ahead b taken pending toSend state
  | failed : Ahead b taken pending toSend .nrf52Failure
  /-- An update that is announced during the boot is handled as that of the boot. -/
  | booting {state} (nrf52FwUpdating : Bool)
      (hboot : taken ++ pending ++ toSend = { b with nrf52FwUpdating }.mainTaskInit) :
      Ahead b taken pending toSend state
  | updates (hpending : pending = [.nrf52FwUpdating]) (htoSend : toSend = [])
      (htaken : .reboot ∉ taken ∧ .nrf52Failure ∉ taken) : Ahead b taken pending toSend .substate
  | updating (hpending : pending = []) (htoSend : toSend = [])
      (htaken : .reboot ∉ taken ∧ .nrf52Failure ∉ taken)
      (hlast : taken.getLast? = some .nrf52FwUpdating) :
      Ahead b taken pending toSend .flashingNrf52Fw

variable {b : Boot} {taken pending toSend : List LedsCtrlEvent} {state : LedsCtrlState}

/-- What is pending can be handled. -/
theorem Ahead.run_pending (h : Ahead b taken pending toSend state)
    (htaken : b.start.run taken = some state) :
    ∃ state', state.run pending = some state' ∧
      Ahead b (taken ++ pending) [] toSend state' := by
  cases h with
  | rebooted => exact ⟨_, LedsCtrlState.run_beforeReboot _, .rebooted⟩
  | reboots hpending =>
    rw [hpending]
    exact ⟨_, LedsCtrlState.run_reboot _ _, .rebooted⟩
  | failed =>
    rcases LedsCtrlState.run_nrf52Failure pending with hfailed | hrebooted
    · exact ⟨_, hfailed, .failed⟩
    · exact ⟨_, hrebooted, .rebooted⟩
  | booting nrf52FwUpdating hboot =>
    have hall : (b.start.run { b with nrf52FwUpdating }.mainTaskInit).isSome = true :=
      run_mainTaskInit { b with nrf52FwUpdating }
    rw [← hboot, LedsCtrlState.run_append, LedsCtrlState.run_append, htaken,
      Option.bind_some] at hall
    cases hpending : state.run pending with
    | none =>
      rw [hpending] at hall
      cases hall
    | some state' =>
      refine ⟨state', rfl, .booting nrf52FwUpdating ?_⟩
      rw [List.append_nil]
      exact hboot
  | updates hpending htoSend hnot =>
    subst hpending
    refine ⟨_, rfl, .updating rfl htoSend ?_ (List.getLast?_append_of_ne_nil _ nofun)⟩
    simpa using hnot
  | updating hpending htoSend hnot hlast =>
    subst hpending
    rw [List.append_nil]
    exact ⟨_, rfl, .updating rfl htoSend hnot hlast⟩

/-- The boot task sends its next notification. -/
theorem Ahead.boot {event : LedsCtrlEvent} {rest : List LedsCtrlEvent}
    (h : Ahead b taken pending (event :: rest) state) :
    Ahead b taken (insertSignal LedsCtrlEvent.num event pending) rest state := by
  by_cases hreboot : event = .reboot
  · subst hreboot
    obtain ⟨events, hevents⟩ := insert_reboot pending
    exact .reboots hevents
  cases h with
  | rebooted => exact .rebooted
  | reboots hpending =>
    subst hpending
    obtain ⟨events, hevents⟩ := insert_behind_reboot event _
    exact .reboots hevents
  | failed => exact .failed
  | booting nrf52FwUpdating hboot =>
    have hlt := num_lt_of_sent hboot hreboot
    refine .booting nrf52FwUpdating ?_
    rw [insertSignal_of_gt fun event' hpending => hlt event' (List.mem_append_right _ hpending),
      ← List.append_assoc, List.append_assoc, List.singleton_append]
    exact hboot
  | updates hpending htoSend => cases htoSend
  | updating hpending htoSend => cases htoSend

/-- A reboot is announced. -/
theorem Ahead.reboot (b : Boot) (taken pending toSend : List LedsCtrlEvent)
    (state : LedsCtrlState) :
    Ahead b taken (insertSignal LedsCtrlEvent.num .reboot pending) toSend state := by
  obtain ⟨events, hevents⟩ := insert_reboot pending
  exact .reboots hevents

/-- What the notification of an update leads to while notifications of the boot are pending. -/
def UpdateDecided (result : Bool) (taken pending : List LedsCtrlEvent) : Prop :=
  let pending' := insertSignal LedsCtrlEvent.num .nrf52FwUpdating pending
  let state := LedsCtrlState.afterReboot.run taken
  if UpdateSuits taken pending then
    taken ++ pending' = (Boot.mk false true result).mainTaskInit ∨
    taken ++ pending' = (Boot.mk false false result).mainTaskInit ∨
    state = some .nrf52Failure ∨
    state = some .substate ∧ pending' = [.nrf52FwUpdating] ∧
      .reboot ∉ taken ∧ .nrf52Failure ∉ taken
  else (state.bind fun state => state.run pending') = none

instance (result : Bool) (taken pending : List LedsCtrlEvent) :
    Decidable (UpdateDecided result taken pending) :=
  inferInstanceAs (Decidable (ite _ _ _))

theorem updateDecided {nrf52FwUpdating result : Bool}
    (h : taken ++ pending = (Boot.mk false nrf52FwUpdating result).mainTaskInit) :
    UpdateDecided result taken pending := by
  have hdecided (n : Fin 5) :
      UpdateDecided result ((Boot.mk false nrf52FwUpdating result).mainTaskInit.take n)
        ((Boot.mk false nrf52FwUpdating result).mainTaskInit.drop n) := by
    revert n
    cases nrf52FwUpdating <;> cases result <;> decide
  have hlength : (taken ++ pending).length ≤ 4 := by
    rw [h]
    cases nrf52FwUpdating <;> cases result <;> decide
  rw [List.length_append] at hlength
  have htaken := hdecided ⟨taken.length, by omega⟩
  rwa [← h, List.take_left, List.drop_left] at htaken

theorem Ahead.fwUpdateRun (hbutton : b.isConfigureButtonPressed = false)
    (h : Ahead b taken pending [] state) (htaken : b.start.run taken = some state)
    (hsuits : UpdateSuits taken pending) :
    Ahead b taken (insertSignal LedsCtrlEvent.num .nrf52FwUpdating pending) [] state := by
  cases h with
  | rebooted => exact .rebooted
  | reboots hpending =>
    subst hpending
    obtain ⟨events, hevents⟩ := insert_behind_reboot .nrf52FwUpdating _
    exact .reboots hevents
  | failed => exact .failed
  | booting nrf52FwUpdating hboot =>
    obtain ⟨_, _, result⟩ := b
    subst hbutton
    rw [List.append_nil] at hboot
    have hdecided := updateDecided hboot
    unfold UpdateDecided at hdecided
    rw [if_pos hsuits, show LedsCtrlState.afterReboot.run taken = _ from htaken] at hdecided
    rcases hdecided with hupdate | hnone | hfailed | ⟨hsubstate, hpending, hnot⟩
    · exact .booting true ((List.append_nil _).trans hupdate)
    · exact .booting false ((List.append_nil _).trans hnone)
    · obtain rfl := Option.some.inj hfailed
      exact .failed
    · obtain rfl := Option.some.inj hsubstate
      exact .updates hpending rfl hnot
  | updates hpending htoSend hnot =>
    subst hpending
    exact .updates rfl rfl hnot
  | updating hpending htoSend hnot hlast =>
    subst hpending
    rcases hsuits with hpending | hreboot | hfailure | ⟨hupdating, -⟩
    · cases hpending
    · rw [List.append_nil] at hreboot
      exact absurd hreboot hnot.1
    · exact absurd hfailure hnot.2
    · exact absurd hlast hupdating

/-- Otherwise an assertion fails when the notification is handled. -/
theorem Ahead.run_none (hbutton : b.isConfigureButtonPressed = false)
    (h : Ahead b taken pending [] state) (htaken : b.start.run taken = some state)
    (hsuits : ¬UpdateSuits taken pending) :
    state.run (insertSignal LedsCtrlEvent.num .nrf52FwUpdating pending) = none := by
  obtain ⟨hpending, hreboot, hfailure, -⟩ : .nrf52FwUpdating ∉ pending ∧
      .reboot ∉ taken ++ pending ∧ .nrf52Failure ∉ taken ∧ _ := by
    unfold UpdateSuits at hsuits
    simpa only [not_or] using hsuits
  cases h with
  | rebooted =>
    have hmem := LedsCtrlState.reboot_mem_of_run htaken (start_ne b nofun nofun)
    exact absurd (List.mem_append_left _ hmem) hreboot
  | reboots hevents =>
    subst hevents
    exact absurd (List.mem_append_right _ List.mem_cons_self) hreboot
  | failed =>
    have hmem := LedsCtrlState.nrf52Failure_mem_of_run htaken (start_ne b nofun nofun)
    exact absurd hmem hfailure
  | booting nrf52FwUpdating hboot =>
    obtain ⟨_, _, result⟩ := b
    subst hbutton
    rw [List.append_nil] at hboot
    have hdecided := updateDecided hboot
    unfold UpdateDecided at hdecided
    rw [if_neg hsuits, show LedsCtrlState.afterReboot.run taken = _ from htaken] at hdecided
    exact hdecided
  | updates hupdates =>
    subst hupdates
    exact absurd List.mem_cons_self hpending
  | updating hnone =>
    subst hnone
    rfl

end Invariant

section Runs

variable {b : Boot} {w w' : World} {l : Label} {sig : LedsTaskSig}

/-- The controller is in the state of the events that it has handled. -/
structure Follows (b : Boot) (w : World) : Prop where
  ok : w.assertFailed = false
  state : b.start.run w.handled = some w.task.ctrl.ledsSmState
  configured : w.task.ctrl.ledsSmState = .substate → w.task.ctrl.flagSubmachineConfigured = true

/-- The task handles what the controller has a next state for. -/
theorem Follows.handle {state : LedsCtrlState} (h : Follows b w) (o : SigOutcome)
    (hrun : b.start.run (w.handled ++ sig.event.toList) = some state) :
    Follows b (w.handle o sig) ∧ (w.handle o sig).mailbox = w.mailbox ∧
      (w.handle o sig).toSend = w.toSend ∧
      (w.handle o sig).handled = w.handled ++ sig.event.toList := by
  obtain ⟨t, ht, hstate, hflag⟩ : ∃ t, ledsTaskHandleSig w.task o sig = some t ∧
      t.ctrl.ledsSmState = state ∧
      (t.ctrl.ledsSmState = .substate → t.ctrl.flagSubmachineConfigured = true) := by
    rw [LedsCtrlState.run_append, h.state, Option.bind_some] at hrun
    cases hevent : sig.event with
    | none =>
      have hinitial := LedsCtrlState.run_ne_initial h.state (start_ne b nofun nofun)
      obtain ⟨t, ht, hsame, hflag⟩ := ledsTaskHandleSig_other (o := o) hevent hinitial h.configured
      rw [hevent] at hrun
      exact ⟨t, ht, hsame.trans (Option.some.inj hrun), hflag⟩
    | some event =>
      rw [hevent] at hrun
      obtain ⟨state', hnext, hlast⟩ := Option.bind_eq_some_iff.mp hrun
      obtain rfl := Option.some.inj hlast
      obtain ⟨t, ht, hsame, hflag⟩ := ledsTaskHandleSig_some (o := o) hevent h.configured hnext
      exact ⟨t, ht, hsame, hsame ▸ hflag⟩
  have hhandle : w.handle o sig =
      { w with task := t, handled := w.handled ++ sig.event.toList } := by
    unfold World.handle
    rw [ht]
  rw [hhandle]
  exact ⟨⟨h.ok, hrun.trans (congrArg some hstate.symm), hflag⟩, rfl, rfl, rfl⟩

/-- An assertion fails where there is no next state. -/
theorem Follows.handle_none (h : Follows b w) (o : SigOutcome)
    (hrun : b.start.run (w.handled ++ sig.event.toList) = none) :
    (w.handle o sig).assertFailed = true := by
  rw [LedsCtrlState.run_append, h.state, Option.bind_some] at hrun
  cases hevent : sig.event with
  | none =>
    rw [hevent] at hrun
    cases hrun
  | some event =>
    rw [hevent] at hrun
    have hnext : w.task.ctrl.ledsSmState.next event = none := by
      cases hnext : w.task.ctrl.ledsSmState.next event with
      | none => rfl
      | some state =>
        rw [Option.toList_some, LedsCtrlState.run, hnext] at hrun
        cases hrun
    unfold World.handle
    rw [ledsTaskHandleSig_none hevent hnext]

/-- The controller can also handle what is taken and what is pending. -/
structure Sound (b : Boot) (w : World) : Prop extends Follows b w where
  ahead : ∃ state, b.start.run w.taken = some state ∧ Ahead b w.taken w.pending w.toSend state

theorem Sound.initial (b : Boot) : Sound b (.initial b) where
  ok := rfl
  state := congrArg some (start_eq b).symm
  configured h := absurd ((start_eq b).symm.trans h) (start_ne b nofun nofun)
  ahead := ⟨b.start, rfl, .booting b.nrf52FwUpdating rfl⟩

/-- A step keeps what the controller has handled and can handle. -/
theorem Sound.step (h : Sound b w) (hsuits : StepSuits w l) (hdoes : w.Does b l w') :
    Sound b w' := by
  obtain ⟨hfollows, state, htaken, hahead⟩ := h
  cases hdoes with
  | boot htoSend =>
    rw [htoSend] at hahead
    refine ⟨⟨hfollows.ok, hfollows.state, hfollows.configured⟩, state, htaken, ?_⟩
    rw [pending_notify]
    exact hahead.boot
  | fwUpdateRun hbutton htoSend =>
    rw [htoSend] at hahead
    refine ⟨⟨hfollows.ok, hfollows.state, hfollows.configured⟩, state, htaken, ?_⟩
    rw [pending_notify, show World.toSend _ = [] from htoSend]
    exact hahead.fwUpdateRun hbutton htaken hsuits
  | reboot =>
    refine ⟨⟨hfollows.ok, hfollows.state, hfollows.configured⟩, state, htaken, ?_⟩
    rw [pending_notify]
    exact .reboot ..
  | signal hevent =>
    refine ⟨⟨hfollows.ok, hfollows.state, hfollows.configured⟩, state, htaken, ?_⟩
    rw [pending_signal hevent]
    exact hahead
  | take hm =>
    obtain ⟨hall, hnone, -⟩ := take_events hm
    obtain ⟨state', hpending, hahead'⟩ := hahead.run_pending htaken
    refine ⟨⟨hfollows.ok, hfollows.state, hfollows.configured⟩, state', ?_, ?_⟩
    · rw [hall, LedsCtrlState.run_append, htaken]
      exact hpending
    · rw [hall, hnone]
      exact hahead'
  | @next o sig m hm =>
    have hrun := htaken
    rw [taken_of_next hm, LedsCtrlState.run_append, Option.bind_eq_some_iff] at hrun
    obtain ⟨state', hstate', -⟩ := hrun
    have hfollows' : Follows b { w with mailbox := m } :=
      ⟨hfollows.ok, hfollows.state, hfollows.configured⟩
    obtain ⟨hnext, hmailbox, htoSend, hhandled⟩ := hfollows'.handle o hstate'
    obtain ⟨htaken', hpending'⟩ := next_events hm hmailbox hhandled
    refine ⟨hnext, state, ?_, ?_⟩
    · rw [htaken']
      exact htaken
    · rw [htaken', hpending', htoSend]
      exact hahead

theorem Sound.run {history : List (Label × Unit)} (hr : (ledsTask b).Run StepSuits history w) :
    Sound b w :=
  hr.invariant (.initial b) fun _ _ _ _ h hsuits hstep => h.step hsuits (step_iff.mp hstep).2

end Runs

section Stream

variable {b : Boot} {w w' : World} {l : Label} {keep : LedsCtrlEvent → Bool}
  {event : LedsCtrlEvent} {history : List (Label × Unit)}

theorem filter_pending_notify (hkeep : keep event = true) :
    (w.notify event).pending.filter keep =
      insertSignal LedsCtrlEvent.num event (w.pending.filter keep) := by
  have hsig : event.sig.event = some event := by cases event <;> rfl
  unfold World.pending eventsOf
  rw [List.filter_filterMap, List.filter_filterMap]
  refine filterMap_insertSignal LedsTaskSig.num_injective (fun sig event' hevent' => ?_) ?_
    w.mailbox.pendingAscending
  · exact num_of_event (Option.filter_eq_some_iff.mp hevent').1
  · rw [hsig, Option.filter_some, if_pos hkeep]

theorem filter_pending_notify_of_not (hkeep : keep event = false) :
    (w.notify event).pending.filter keep = w.pending.filter keep := by
  have hsig : event.sig.event = some event := by cases event <;> rfl
  unfold World.pending eventsOf
  rw [List.filter_filterMap, List.filter_filterMap]
  refine filterMap_insertSignal_of_none ?_ _
  rw [hsig, Option.filter_some, if_neg (Bool.eq_false_iff.mp hkeep)]

/-- The selected notifications are those of the boot in their order. -/
def World.Stream (b : Boot) (keep : LedsCtrlEvent → Bool) (w : World) : Prop :=
  (w.taken ++ w.pending ++ w.toSend).filter keep = b.mainTaskInit.filter keep

theorem World.Stream.sent_lt {rest : List LedsCtrlEvent} (hreboot : keep .reboot = false)
    (h : w.Stream b keep) (htoSend : w.toSend = event :: rest) (hkeep : keep event = true) :
    ∀ event' ∈ w.pending.filter keep, event'.num < event.num := by
  intro event' hevent'
  have hascending := mainTaskInit_keep_ascending b keep hreboot
  unfold World.Stream at h
  rw [htoSend, List.filter_append, List.filter_append, List.filter_cons_of_pos hkeep] at h
  rw [← h] at hascending
  exact (List.pairwise_append.mp hascending).2.2 event' (List.mem_append_right _ hevent') event
    List.mem_cons_self

theorem World.Stream.congr (h : w.Stream b keep) (htaken : w'.taken = w.taken)
    (hpending : w'.pending = w.pending) (htoSend : w'.toSend = w.toSend) : w'.Stream b keep := by
  unfold World.Stream
  rw [htaken, hpending, htoSend]
  exact h

theorem World.Stream.notify (h : w.Stream b keep) (hkeep : keep event = false) :
    (w.notify event).Stream b keep := by
  unfold World.Stream
  rw [List.filter_append, List.filter_append, filter_pending_notify_of_not hkeep,
    ← List.filter_append, ← List.filter_append]
  exact h

theorem World.Stream.boot {rest : List LedsCtrlEvent} (hreboot : keep .reboot = false)
    (h : w.Stream b keep) (htoSend : w.toSend = event :: rest) :
    World.Stream b keep ({ w with toSend := rest }.notify event) := by
  have hsent : (w.taken ++ w.pending ++ event :: rest).filter keep = b.mainTaskInit.filter keep :=
    htoSend ▸ h
  show (w.taken ++ (w.notify event).pending ++ rest).filter keep = b.mainTaskInit.filter keep
  rw [List.filter_append, List.filter_append] at hsent ⊢
  cases hkeep : keep event with
  | false =>
    rw [filter_pending_notify_of_not hkeep]
    rw [List.filter_cons_of_neg (Bool.eq_false_iff.mp hkeep)] at hsent
    exact hsent
  | true =>
    rw [filter_pending_notify hkeep, insertSignal_of_gt (h.sent_lt hreboot htoSend hkeep),
      List.append_assoc, List.append_assoc, List.singleton_append, ← List.append_assoc]
    rw [List.filter_cons_of_pos hkeep] at hsent
    exact hsent

theorem World.Stream.step (hreboot : keep .reboot = false) (h : w.Stream b keep)
    (hdoes : w.Does b l w') (hok : w'.assertFailed = false)
    (hupdates : keep .nrf52FwUpdating = true → w'.fwUpdates = 0) : w'.Stream b keep := by
  cases hdoes with
  | boot htoSend => exact h.boot hreboot htoSend
  | fwUpdateRun =>
    have hkeep : keep .nrf52FwUpdating = false :=
      Bool.eq_false_iff.mpr fun hkeep => Nat.succ_ne_zero _ (hupdates hkeep)
    exact World.Stream.notify (w := { w with fwUpdates := _ }) h hkeep
  | reboot => exact h.notify hreboot
  | signal hevent => exact h.congr rfl (pending_signal hevent) rfl
  | take hm =>
    obtain ⟨hall, hnone, -⟩ := take_events hm
    unfold World.Stream
    rw [hall, hnone, List.append_nil]
    exact h
  | next hm =>
    unfold World.handle at hok ⊢
    dsimp only at hok ⊢
    split at hok
    case h_1 => cases hok
    case h_2 =>
      exact h.congr (next_events hm rfl rfl).1 (next_events hm rfl rfl).2 rfl

theorem fwUpdates_handle (o : SigOutcome) (sig : LedsTaskSig) :
    (w.handle o sig).fwUpdates = w.fwUpdates := by
  unfold World.handle
  split
  · rfl
  · rfl

theorem fwUpdates_step (hdoes : w.Does b l w') : w.fwUpdates ≤ w'.fwUpdates := by
  cases hdoes with
  | fwUpdateRun => exact Nat.le_succ _
  | boot | reboot | signal | take => exact Nat.le_refl _
  | @next o sig m => exact (fwUpdates_handle (w := { w with mailbox := m }) o sig).ge

/-- Every run keeps the stream of the boot. -/
theorem World.Stream.run (hreboot : keep .reboot = false)
    (hr : (ledsTask b).FreeRun history w) (hok : w.assertFailed = false)
    (hupdates : keep .nrf52FwUpdating = true → w.fwUpdates = 0) : w.Stream b keep := by
  induction hr with
  | init => rfl
  | step hr' _ hstep ih =>
    obtain ⟨hrunning, hdoes⟩ := step_iff.mp hstep
    refine World.Stream.step hreboot (ih hrunning fun hkeep => ?_) hdoes hok hupdates
    exact Nat.le_zero.mp (hupdates hkeep ▸ fwUpdates_step hdoes)

theorem World.Stream.handled (h : w.Stream b keep) (hkeep : keep .cfgReady = true)
    (hready : .cfgReady ∈ w.handled) : b.isConfigureButtonPressed = false ∧
      w.handled.filter keep = b.mainTaskInit.filter keep := by
  have hmem : .cfgReady ∈ w.handled.filter keep := List.mem_filter.mpr ⟨hready, hkeep⟩
  have hinitial : w.handled.filter keep <+: b.mainTaskInit.filter keep := by
    refine ⟨(eventsOf w.mailbox.taken ++ w.pending ++ w.toSend).filter keep, ?_⟩
    rw [← h, ← List.filter_append, World.taken, List.append_assoc, List.append_assoc,
      List.append_assoc]
  obtain ⟨hbutton, hlast, hfront⟩ :=
    mainTaskInit_cfgReady (List.mem_of_mem_filter (hinitial.subset hmem))
  refine ⟨hbutton, ?_⟩
  rw [hlast, List.filter_append, List.filter_singleton, hkeep, cond_true] at hinitial ⊢
  rcases List.prefix_concat_iff.mp hinitial with heq | hbefore
  · exact heq
  · exact absurd (List.mem_of_mem_filter (hbefore.subset hmem)) hfront

/-- Neither the reboot nor an update, which any task may notify of at any time. -/
def isBootOnly (event : LedsCtrlEvent) : Bool :=
  event ≠ .reboot ∧ event ≠ .nrf52FwUpdating

/-- Only the reboot and updates follow the configuration. -/
theorem World.Stream.split (h : w.Stream b isBootOnly) {front rest : List LedsCtrlEvent}
    (hsplit : w.handled = front ++ .cfgReady :: rest) :
    .cfgErased ∉ front ∧ ∀ event ∈ rest, event = .reboot ∨ event = .nrf52FwUpdating := by
  have hready : .cfgReady ∈ w.handled := by
    rw [hsplit]
    exact List.mem_append_right _ List.mem_cons_self
  obtain ⟨hbutton, hhandled⟩ := h.handled rfl hready
  have hboot (event : LedsCtrlEvent) (hevent : event ∈ w.handled)
      (hkeep : isBootOnly event = true) :
      event ≠ .cfgErased ∧ event.num ≤ LedsCtrlEvent.cfgReady.num := by
    have hmem := List.mem_filter.mpr ⟨hevent, hkeep⟩
    rw [hhandled] at hmem
    exact (mainTaskInit_subset hbutton event (List.mem_of_mem_filter hmem)).2
  constructor
  · intro herased
    refine (hboot .cfgErased ?_ rfl).1 rfl
    rw [hsplit]
    exact List.mem_append_left _ herased
  · intro event hevent
    by_contra hnot
    have hkeep : isBootOnly event = true := decide_eq_true (not_or.mp hnot)
    have hascending := mainTaskInit_keep_ascending b isBootOnly rfl
    rw [← hhandled, hsplit, List.filter_append, List.filter_cons_of_pos rfl] at hascending
    have hlt := (List.pairwise_cons.mp (List.pairwise_append.mp hascending).2.1).1 event
      (List.mem_filter.mpr ⟨hevent, hkeep⟩)
    have hmem : event ∈ w.handled := by
      rw [hsplit]
      exact List.mem_append_right _ (List.mem_cons_of_mem _ hevent)
    exact Nat.not_le_of_lt hlt (hboot event hmem hkeep).2

/-- Without an update after the boot the controller has handled what the boot notifies of. -/
theorem Sound.booted (h : Sound b w) (hstream : w.Stream b (· ≠ .reboot))
    (hready : .cfgReady ∈ w.handled) :
    w.task.ctrl.ledsSmState = .substate ∨ w.task.ctrl.ledsSmState = .nrf52Failure ∨
      w.task.ctrl.ledsSmState = .beforeReboot := by
  by_cases hreboot : .reboot ∈ w.handled
  · exact .inr (.inr (LedsCtrlState.run_of_reboot_mem h.state hreboot))
  · obtain ⟨hbutton, hhandled⟩ := hstream.handled rfl hready
    have hself {events : List LedsCtrlEvent} (hevents : .reboot ∉ events) :
        events.filter (· ≠ .reboot) = events := by
      refine List.filter_eq_self.mpr fun event hevent => decide_eq_true ?_
      rintro rfl
      exact hevents hevent
    rw [hself hreboot, hself fun hboot => (mainTaskInit_subset hbutton _ hboot).1 rfl] at hhandled
    have hstate := h.state
    rw [hhandled, run_mainTaskInit_booted hbutton] at hstate
    rw [← Option.some.inj hstate]
    cases b.result with
    | true => exact .inl rfl
    | false => exact .inr (.inl rfl)

theorem Sound.afterCfgReady (h : Sound b w) (hstream : w.Stream b isBootOnly)
    (hready : .cfgReady ∈ w.handled) : w.task.ctrl.ledsSmState.AfterCfgReady := by
  obtain ⟨front, rest, hsplit⟩ := List.append_of_mem hready
  obtain ⟨herased, hrest⟩ := hstream.split hsplit
  have hstate := h.state
  rw [hsplit, LedsCtrlState.run_append, Option.bind_eq_some_iff] at hstate
  obtain ⟨middle, hfront, htail⟩ := hstate
  obtain ⟨ready, hnext, hrun⟩ := Option.bind_eq_some_iff.mp htail
  have hinitial := LedsCtrlState.run_ne_initial hfront (start_ne b nofun nofun)
  have hmiddle : middle ≠ .cfgErased := by
    rintro rfl
    exact herased (LedsCtrlState.cfgErased_mem_of_run hfront (start_ne b nofun nofun))
  exact (LedsCtrlState.next_cfgReady hnext hinitial hmiddle).run hrest hrun

theorem Sound.showsReady (h : Sound b w) (hr : (ledsTask b).FreeRun history w) : w.ShowsReady := by
  intro hready
  rcases Nat.eq_zero_or_pos w.fwUpdates with hnone | hupdated
  · rcases h.booted (.run rfl hr h.ok fun _ => hnone) hready with hstate | hstate | hstate
    · exact .inl hstate
    · exact .inr (.inr (.inl hstate))
    · exact .inr (.inr (.inr hstate))
  · rcases h.afterCfgReady (.run rfl hr h.ok nofun) hready with hstate | hstate | hstate | hstate
    · exact .inl hstate
    · exact .inr (.inl ⟨hstate, hupdated⟩)
    · exact .inr (.inr (.inl hstate))
    · exact .inr (.inr (.inr hstate))

end Stream

section Assertion

variable {b : Boot} {w w' : World} {l : Label} {history : List (Label × Unit)}

/-- The steps of `leds_task`. -/
def Label.isHandling : Label → Bool
  | .take | .next _ => true
  | _ => false

/-- After some steps of `leds_task` an assertion fails. -/
def ReachesAssertion (b : Boot) (history : List (Label × Unit)) : Prop :=
  ∃ history' w', (ledsTask b).FreeRun (history' ++ history) w' ∧ w'.assertFailed = true ∧
    ∀ l ∈ history', l.1.isHandling = true

theorem ReachesAssertion.of_step (hl : l.isHandling = true)
    (h : ReachesAssertion b ((l, ()) :: history)) : ReachesAssertion b history := by
  obtain ⟨history', w', hr, hfailed, hhandling⟩ := h
  refine ⟨history' ++ [(l, ())], w', ?_, hfailed, fun l' hl' => ?_⟩
  · rw [List.append_assoc]
    exact hr
  · rcases List.mem_append.mp hl' with hl' | hl'
    · exact hhandling l' hl'
    · rw [List.mem_singleton.mp hl']
      exact hl

/-- The measure is the number of the steps in which the task takes and handles all signals. -/
theorem Follows.reaches_assertion (h : Follows b w) (hr : (ledsTask b).FreeRun history w)
    (hnone : b.start.run (w.taken ++ w.pending) = none) : ReachesAssertion b history := by
  generalize hn : 2 * w.mailbox.pending.length + w.mailbox.taken.length = n
  induction n using Nat.strongRecOn generalizing w history with
  | ind n ih =>
    cases htaken : w.mailbox.taken with
    | nil =>
      obtain ⟨m, hm⟩ := Mailbox.exists_take htaken
      obtain ⟨-, hmpending, hmtaken⟩ := Mailbox.take_spec hm
      obtain ⟨hall, hempty, hhandled⟩ := take_events hm
      have hpos : w.mailbox.pending ≠ [] := by
        intro hnil
        unfold World.pending eventsOf at hnone
        rw [hhandled, hnil, List.filterMap_nil, List.append_nil, h.state] at hnone
        cases hnone
      have hlength := List.length_pos_of_ne_nil hpos
      have hrun' := hr.step trivial (step_iff.mpr ⟨h.ok, .take hm⟩)
      have hfollows : Follows b { w with mailbox := m } := ⟨h.ok, h.state, h.configured⟩
      refine .of_step (l := .take) rfl (ih _ ?_ hfollows hrun' ?_ rfl)
      · rw [htaken, List.length_nil] at hn
        rw [hmpending, hmtaken, List.length_nil]
        omega
      · rw [hall, hempty, List.append_nil]
        exact hnone
    | cons sig sigs =>
      obtain ⟨m, hm⟩ := Mailbox.exists_next htaken
      obtain ⟨hmtaken, hmpending⟩ := Mailbox.next_spec hm
      let o : SigOutcome := ⟨false, ⟨false, 0⟩⟩
      have hrun' := hr.step trivial (step_iff.mpr ⟨h.ok, .next (o := o) hm⟩)
      have hfollows : Follows b { w with mailbox := m } := ⟨h.ok, h.state, h.configured⟩
      refine .of_step (l := .next o) rfl ?_
      cases hrun : b.start.run (w.handled ++ sig.event.toList) with
      | none =>
        exact ⟨[], _, hrun', hfollows.handle_none o hrun, fun _ => nofun⟩
      | some state =>
        obtain ⟨hfollows', (hmailbox : _ = m), -, hhandled⟩ := hfollows.handle o hrun
        obtain ⟨htaken', hpending'⟩ := next_events hm hmailbox hhandled
        refine ih _ ?_ hfollows' hrun' ?_ rfl
        · rw [hmtaken, List.length_cons] at hn
          rw [hmailbox, hmpending]
          omega
        · rw [htaken', hpending']
          exact hnone

/-- In every run whose updates suit no assertion fails. Any other update leads to one that fails, if
`leds_task` goes on before another task notifies. -/
theorem leds_neverAsserts (b : Boot) (history : List (Label × Unit)) (w : World)
    (hr : (ledsTask b).Run StepSuits history w) :
    w.assertFailed = false ∧ w.ShowsReady ∧
      ∀ w', w.step b .fwUpdateRun = some (w', ()) → ¬UpdateSuits w.taken w.pending →
        ∃ history' w'', (ledsTask b).FreeRun (history' ++ (.fwUpdateRun, ()) :: history) w'' ∧
          w''.assertFailed = true ∧ ∀ l ∈ history', l.1.isHandling = true := by
  have hsound := Sound.run hr
  refine ⟨hsound.ok, hsound.showsReady hr.free, fun w' hstep hsuits => ?_⟩
  have hrun : (ledsTask b).FreeRun ((.fwUpdateRun, ()) :: history) w' :=
    .step hr.free trivial hstep
  obtain ⟨state, htaken, hahead⟩ := hsound.ahead
  cases (step_iff.mp hstep).2 with
  | fwUpdateRun hbutton htoSend =>
    rw [htoSend] at hahead
    have hfollows :
        Follows b (World.notify { w with fwUpdates := w.fwUpdates + 1 } .nrf52FwUpdating) :=
      ⟨hsound.ok, hsound.state, hsound.configured⟩
    refine hfollows.reaches_assertion hrun ?_
    rw [pending_notify, LedsCtrlState.run_append]
    show (b.start.run w.taken).bind _ = none
    rw [htaken]
    exact hahead.run_none hbutton htaken hsuits

/-- The task takes the three notifications of the boot at once, and then that of an update. -/
def updateAfterBoot : List Label :=
  let o : SigOutcome := ⟨false, ⟨true, 1⟩⟩
  [.boot, .boot, .boot, .take, .next o, .next o, .next o, .fwUpdateRun, .take, .next o]

theorem leds_neverAsserts_updateAfterBoot :
    ∃ history w, (ledsTask ⟨false, false, true⟩).Run StepSuits history w ∧
      .cfgReady ∈ w.handled ∧ w.task.ctrl.ledsSmState = .flashingNrf52Fw ∧
      w.assertFailed = false ∧ w.ShowsReady := by
  obtain ⟨history, w, hr, hw⟩ := System.exists_run_of_exec (G := StepSuits)
    (S := ledsTask ⟨false, false, true⟩) updateAfterBoot
    (P := fun w => decide (.cfgReady ∈ w.handled ∧ w.task.ctrl.ledsSmState = .flashingNrf52Fw))
    (by decide)
  obtain ⟨hready, hstate⟩ := of_decide_eq_true hw
  have hasserts := leds_neverAsserts ⟨false, false, true⟩ history w hr
  exact ⟨history, w, hr, hready, hstate, hasserts.1, hasserts.2.1⟩

/-- Another update notifies while the first one is shown. -/
theorem leds_secondUpdate_asserts :
    ¬∀ b history w, (ledsTask b).FreeRun history w → w.assertFailed = false ∧ w.ShowsReady := by
  intro h
  obtain ⟨history, w, hr, hw⟩ := System.exists_run_of_exec (G := System.anyStep)
    (S := ledsTask ⟨false, false, true⟩)
    (updateAfterBoot ++ [.fwUpdateRun, .take, .next ⟨false, ⟨true, 1⟩⟩])
    (P := fun w => w.assertFailed) (by decide)
  exact Bool.false_ne_true ((h _ history w hr).1.symm.trans hw)

end Assertion

end RuuviGateway.Leds
