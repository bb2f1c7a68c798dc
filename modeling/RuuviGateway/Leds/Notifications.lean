import RuuviGateway.General.Transition
import RuuviGateway.Leds.Ctrl

/-!
# The notifications of `leds_task`

The boot task notifies of the check of the nRF52 firmware, of an update, of the result and of the
configuration, `fw_update_task` of an update, and any task of a reboot. The signals coalesce, and
`leds_task` handles those that it takes together in the order of their numbers.
-/

namespace RuuviGateway.Leds

open General

section Signals

inductive LedsTaskSig
  | update
  | onEvReboot
  | onEvNrf52FwCheck
  | onEvNrf52FwUpdating
  | onEvNrf52Ready
  | onEvNrf52Failure
  | onEvCfgReady
  | onEvCfgChangedRuuvi
  | onEvCfgErased
  | onEvWifiApStarted
  | onEvWifiApStopped
  | onEvWpsActivated
  | onEvWpsDeactivated
  | onEvNetworkConnected
  | onEvNetworkDisconnected
  | onEvMqtt1Connected
  | onEvMqtt1Disconnected
  | onEvHttp1DataSentSuccessfully
  | onEvHttp1DataSentFail
  | onEvHttp2DataSentSuccessfully
  | onEvHttp2DataSentFail
  | onEvHttpPollOk
  | onEvHttpPollTimeout
  | onEvRecvAdv
  | onEvRecvAdvTimeout
  | taskWatchdogFeed
  deriving DecidableEq, Repr

/-- The signals in the order of their numbers. -/
def LedsTaskSig.all : List LedsTaskSig :=
  [.update, .onEvReboot, .onEvNrf52FwCheck, .onEvNrf52FwUpdating, .onEvNrf52Ready,
    .onEvNrf52Failure, .onEvCfgReady, .onEvCfgChangedRuuvi, .onEvCfgErased, .onEvWifiApStarted,
    .onEvWifiApStopped, .onEvWpsActivated, .onEvWpsDeactivated, .onEvNetworkConnected,
    .onEvNetworkDisconnected, .onEvMqtt1Connected, .onEvMqtt1Disconnected,
    .onEvHttp1DataSentSuccessfully, .onEvHttp1DataSentFail, .onEvHttp2DataSentSuccessfully,
    .onEvHttp2DataSentFail, .onEvHttpPollOk, .onEvHttpPollTimeout, .onEvRecvAdv,
    .onEvRecvAdvTimeout, .taskWatchdogFeed]

/-- `leds_task_conv_to_sig_num`. -/
def LedsTaskSig.num (sig : LedsTaskSig) : ℕ := all.idxOf sig

theorem LedsTaskSig.num_injective : Function.Injective num := by
  intro a b h
  have hmem (sig : LedsTaskSig) : sig ∈ all := by cases sig <;> decide
  exact (List.idxOf_inj (hmem a)).mp h

/-- The event that a signal stands for. -/
def LedsTaskSig.event : LedsTaskSig → Option LedsCtrlEvent
  | .onEvReboot => some .reboot
  | .onEvNrf52FwCheck => some .nrf52FwCheck
  | .onEvNrf52FwUpdating => some .nrf52FwUpdating
  | .onEvNrf52Ready => some .nrf52Ready
  | .onEvNrf52Failure => some .nrf52Failure
  | .onEvCfgReady => some .cfgReady
  | .onEvCfgErased => some .cfgErased
  | _ => none

/-- The signal of a notification. -/
def LedsCtrlEvent.sig : LedsCtrlEvent → LedsTaskSig
  | .reboot => .onEvReboot
  | .nrf52FwCheck => .onEvNrf52FwCheck
  | .nrf52FwUpdating => .onEvNrf52FwUpdating
  | .nrf52Ready => .onEvNrf52Ready
  | .nrf52Failure => .onEvNrf52Failure
  | .cfgReady => .onEvCfgReady
  | .cfgErased => .onEvCfgErased

def LedsCtrlEvent.num (event : LedsCtrlEvent) : ℕ := event.sig.num

end Signals

section Handlers

/-- The state of `leds_task`: the controller, and the sequence that was set last. -/
structure LedsTask where
  ctrl : LedsCtrl
  blinking : Option LedsBlinkingMode

/-- What a handler depends on: the blinking sequence, and the configuration. -/
structure SigOutcome where
  isSequenceFinished : Bool
  params : LedsCtrlParams

variable (t : LedsTask)

def LedsTask.handleEvent (event : LedsCtrlEvent) : Option LedsTask :=
  (ledsCtrlHandleEvent t.ctrl event).map fun c => { t with ctrl := c }

def LedsTask.configure (params : LedsCtrlParams) : LedsTask :=
  { t with ctrl := ledsCtrlConfigureSubMachine t.ctrl params }

/-- The sub-machine handles its events only in its state. -/
def LedsTask.handleEvent2 (event : LedsCtrl2Event) : LedsTask :=
  if ledsCtrlIsInSubstate t.ctrl then
    { t with ctrl.ctrl2 := ledsCtrl2HandleEvent t.ctrl.ctrl2 event }
  else t

/-- `leds_task_handle_sig`, which is `none` where an assertion fails. The colors of the LEDs are
left to the sessions with the analog switch. -/
def ledsTaskHandleSig (o : SigOutcome) : LedsTaskSig → Option LedsTask
  | .update =>
    if o.isSequenceFinished then
      (ledsCtrlGetNewBlinkingSequence t.ctrl).map fun mode => { t with blinking := some mode }
    else some t
  | .onEvReboot => t.handleEvent .reboot
  | .onEvNrf52FwCheck => t.handleEvent .nrf52FwCheck
  | .onEvNrf52FwUpdating => t.handleEvent .nrf52FwUpdating
  | .onEvNrf52Ready => t.handleEvent .nrf52Ready
  | .onEvNrf52Failure => t.handleEvent .nrf52Failure
  | .onEvCfgReady => (t.configure o.params).handleEvent .cfgReady
  | .onEvCfgChangedRuuvi => some (t.configure o.params)
  | .onEvCfgErased => t.handleEvent .cfgErased
  | .onEvWifiApStarted => some (t.handleEvent2 .wifiApStarted)
  | .onEvWifiApStopped => some (t.handleEvent2 .wifiApStopped)
  | .onEvWpsActivated => some (t.handleEvent2 .wpsActivated)
  | .onEvWpsDeactivated => some (t.handleEvent2 .wpsDeactivated)
  | .onEvNetworkConnected => some (t.handleEvent2 .networkConnected)
  | .onEvNetworkDisconnected => some (t.handleEvent2 .networkDisconnected)
  | .onEvMqtt1Connected => some (t.handleEvent2 .mqtt1Connected)
  | .onEvMqtt1Disconnected => some (t.handleEvent2 .mqtt1Disconnected)
  | .onEvHttp1DataSentSuccessfully => some (t.handleEvent2 .http1DataSentSuccessfully)
  | .onEvHttp1DataSentFail => some (t.handleEvent2 .http1DataSentFail)
  | .onEvHttp2DataSentSuccessfully => some (t.handleEvent2 .http2DataSentSuccessfully)
  | .onEvHttp2DataSentFail => some (t.handleEvent2 .http2DataSentFail)
  | .onEvHttpPollOk => some (t.handleEvent2 .httpPollOk)
  | .onEvHttpPollTimeout => some (t.handleEvent2 .httpPollTimeout)
  | .onEvRecvAdv => some (t.handleEvent2 .recvAdv)
  | .onEvRecvAdvTimeout => some (t.handleEvent2 .recvAdvTimeout)
  | .taskWatchdogFeed => some t

end Handlers

section System

/-- What becomes of the boot: the CONFIGURE button is pressed or not, the firmware of the nRF52 is
updated or not, and the result of `nrf52fw_update_fw_if_necessary`. -/
structure Boot where
  isConfigureButtonPressed : Bool
  nrf52FwUpdating : Bool
  result : Bool

/-- The notifications of `main_task_init`. If the firmware can be rolled back they end before the
result. -/
def Boot.mainTaskInit (b : Boot) : List LedsCtrlEvent :=
  if b.isConfigureButtonPressed then [.cfgErased, .reboot]
  else [.nrf52FwCheck] ++ (if b.nrf52FwUpdating then [.nrf52FwUpdating] else []) ++
    [if b.result then .nrf52Ready else .nrf52Failure] ++ [.cfgReady]

/-- The boot task has still to send `toSend`. The last two fields are a record: the number of the
updates that have notified, and the events that the controller has handled. -/
structure World where
  task : LedsTask
  mailbox : Mailbox LedsTaskSig.num
  toSend : List LedsCtrlEvent
  assertFailed : Bool
  fwUpdates : ℕ
  handled : List LedsCtrlEvent

def World.initial (b : Boot) : World where
  task := ⟨ledsCtrlInit b.isConfigureButtonPressed,
    ledsCtrlGetNewBlinkingSequence (ledsCtrlInit b.isConfigureButtonPressed)⟩
  mailbox := .empty
  toSend := b.mainTaskInit
  assertFailed := false
  fwUpdates := 0
  handled := []

inductive Label
  /-- The boot task sends its next notification. -/
  | boot
  /-- `fw_update_task` of an accepted `fw_update_run` notifies, after the boot. -/
  | fwUpdateRun
  /-- Any task announces the reboot. -/
  | reboot
  /-- Any other signal. -/
  | signal (sig : LedsTaskSig)
  /-- The task takes all pending signals. -/
  | take
  /-- The task handles the next of the signals that it has taken. -/
  | next (o : SigOutcome)

variable (w : World)

def World.send (sig : LedsTaskSig) : World := { w with mailbox := w.mailbox.send sig }

def World.notify (event : LedsCtrlEvent) : World := w.send event.sig

/-- `leds_task` handles a signal that it has taken. -/
def World.handle (o : SigOutcome) (sig : LedsTaskSig) : World :=
  match ledsTaskHandleSig w.task o sig with
  | none => { w with assertFailed := true }
  | some task => { w with task := task, handled := w.handled ++ sig.event.toList }

/-- A failed assertion ends the run. -/
def World.step (b : Boot) (l : Label) : Option (World × Unit) :=
  if w.assertFailed then none
  else match l with
    | .boot => match w.toSend with
      | [] => none
      | event :: rest => some ({ w with toSend := rest }.notify event, ())
    | .fwUpdateRun =>
      if b.isConfigureButtonPressed = false ∧ w.toSend = [] then
        some ({ w with fwUpdates := w.fwUpdates + 1 }.notify .nrf52FwUpdating, ())
      else none
    | .reboot => some (w.notify .reboot, ())
    | .signal sig => if sig.event = none then some (w.send sig, ()) else none
    | .take => w.mailbox.take.map fun m => ({ w with mailbox := m }, ())
    | .next o => w.mailbox.next.map fun r => ({ w with mailbox := r.2 }.handle o r.1, ())

def ledsTask (b : Boot) : System World Label Unit where
  init := .initial b
  step w := w.step b

/-- The events among the signals. -/
def eventsOf (sigs : List LedsTaskSig) : List LedsCtrlEvent := sigs.filterMap LedsTaskSig.event

/-- The notifications that `leds_task` has taken, in their order. -/
def World.taken : List LedsCtrlEvent := w.handled ++ eventsOf w.mailbox.taken

def World.pending : List LedsCtrlEvent := eventsOf w.mailbox.pending

/-- What a step can do. -/
inductive World.Does (b : Boot) : Label → World → Prop
  | boot {event rest} (htoSend : w.toSend = event :: rest) :
      Does b .boot ({ w with toSend := rest }.notify event)
  | fwUpdateRun (hbutton : b.isConfigureButtonPressed = false) (htoSend : w.toSend = []) :
      Does b .fwUpdateRun ({ w with fwUpdates := w.fwUpdates + 1 }.notify .nrf52FwUpdating)
  | reboot : Does b .reboot (w.notify .reboot)
  | signal {sig} (hevent : sig.event = none) : Does b (.signal sig) (w.send sig)
  | take {m} (hm : w.mailbox.take = some m) : Does b .take { w with mailbox := m }
  | next {o sig m} (hm : w.mailbox.next = some (sig, m)) :
      Does b (.next o) ({ w with mailbox := m }.handle o sig)

theorem step_iff {b : Boot} {w w' : World} {l : Label} :
    w.step b l = some (w', ()) ↔ w.assertFailed = false ∧ w.Does b l w' := by
  unfold World.step
  constructor
  · intro h
    have hok : w.assertFailed = false := by
      by_contra hfailed
      rw [if_pos (Bool.eq_true_of_not_eq_false hfailed)] at h
      cases h
    rw [if_neg (Bool.eq_false_iff.mp hok)] at h
    refine ⟨hok, ?_⟩
    cases l with
    | boot =>
      dsimp only at h
      split at h
      case h_1 => cases h
      case h_2 event rest htoSend =>
        obtain rfl := (Prod.mk.inj (Option.some.inj h)).1
        exact .boot htoSend
    | fwUpdateRun =>
      dsimp only at h
      split_ifs at h with hready
      obtain rfl := (Prod.mk.inj (Option.some.inj h)).1
      exact .fwUpdateRun hready.1 hready.2
    | reboot =>
      obtain rfl := (Prod.mk.inj (Option.some.inj h)).1
      exact .reboot
    | signal sig =>
      dsimp only at h
      split_ifs at h with hevent
      obtain rfl := (Prod.mk.inj (Option.some.inj h)).1
      exact .signal hevent
    | take =>
      obtain ⟨m, hm, heq⟩ := Option.map_eq_some_iff.mp h
      obtain rfl := (Prod.mk.inj heq).1
      exact .take hm
    | next o =>
      obtain ⟨⟨sig, m⟩, hm, heq⟩ := Option.map_eq_some_iff.mp h
      obtain rfl := (Prod.mk.inj heq).1
      exact .next hm
  · rintro ⟨hok, hdoes⟩
    rw [if_neg (Bool.eq_false_iff.mp hok)]
    cases hdoes with
    | boot htoSend =>
      dsimp only
      rw [htoSend]
    | fwUpdateRun hbutton htoSend => exact if_pos ⟨hbutton, htoSend⟩
    | reboot => rfl
    | signal hevent => exact if_pos hevent
    | take hm => exact Option.map_eq_some_iff.mpr ⟨_, hm, rfl⟩
    | next hm => exact Option.map_eq_some_iff.mpr ⟨_, hm, rfl⟩

end System

section Pending

variable {w : World} {event : LedsCtrlEvent} {sig : LedsTaskSig}

theorem num_of_event {event : LedsCtrlEvent} (h : sig.event = some event) :
    event.num = sig.num := by
  cases sig <;> cases h
  all_goals rfl

theorem num_injective : Function.Injective LedsCtrlEvent.num := by
  intro a b h
  have hsig := LedsTaskSig.num_injective h
  cases a <;> cases b <;> cases hsig
  all_goals rfl

theorem pending_notify (event : LedsCtrlEvent) :
    (w.notify event).pending = insertSignal LedsCtrlEvent.num event w.pending := by
  refine filterMap_insertSignal LedsTaskSig.num_injective (fun sig event => num_of_event) ?_
    w.mailbox.pendingAscending
  cases event <;> rfl

theorem pending_signal (h : sig.event = none) : (w.send sig).pending = w.pending :=
  filterMap_insertSignal_of_none h _

/-- The reboot comes first. -/
theorem insert_reboot (pending : List LedsCtrlEvent) :
    ∃ events, insertSignal LedsCtrlEvent.num .reboot pending = .reboot :: events := by
  cases pending with
  | nil => exact ⟨[], rfl⟩
  | cons head tail =>
    cases head with
    | reboot => exact ⟨tail, rfl⟩
    | _ => exact ⟨_, rfl⟩

theorem insert_behind_reboot (event : LedsCtrlEvent) (pending : List LedsCtrlEvent) :
    ∃ events, insertSignal LedsCtrlEvent.num event (.reboot :: pending) = .reboot :: events := by
  cases event with
  | reboot => exact ⟨pending, rfl⟩
  | _ => exact ⟨_, rfl⟩

end Pending

section Boot

/-- The state in which the controller starts. -/
def Boot.start (b : Boot) : LedsCtrlState :=
  if b.isConfigureButtonPressed then .cfgErasing else .afterReboot

variable {b : Boot} {event : LedsCtrlEvent} {sent rest : List LedsCtrlEvent}

theorem start_eq (b : Boot) :
    (ledsCtrlInit b.isConfigureButtonPressed).ledsSmState = b.start := by
  unfold Boot.start
  cases b.isConfigureButtonPressed <;> rfl

theorem start_ne (b : Boot) {state : LedsCtrlState} (h₁ : state ≠ .cfgErasing)
    (h₂ : state ≠ .afterReboot) : b.start ≠ state := by
  unfold Boot.start
  split_ifs
  · exact h₁.symm
  · exact h₂.symm

/-- All notifications of the boot can be handled. -/
theorem run_mainTaskInit (b : Boot) : (b.start.run b.mainTaskInit).isSome = true := by
  obtain ⟨isConfigureButtonPressed, nrf52FwUpdating, result⟩ := b
  cases isConfigureButtonPressed <;> cases nrf52FwUpdating <;> cases result <;> rfl

/-- The state when the boot is over and nothing else has happened. -/
theorem run_mainTaskInit_booted (hbutton : b.isConfigureButtonPressed = false) :
    b.start.run b.mainTaskInit = some (if b.result then .substate else .nrf52Failure) := by
  obtain ⟨_, nrf52FwUpdating, result⟩ := b
  subst hbutton
  cases nrf52FwUpdating <;> cases result <;> rfl

/-- What the boot notifies of unless the button is pressed. -/
theorem mainTaskInit_subset (hbutton : b.isConfigureButtonPressed = false) :
    ∀ event ∈ b.mainTaskInit, event ≠ .reboot ∧ event ≠ .cfgErased ∧
      event.num ≤ LedsCtrlEvent.cfgReady.num := by
  obtain ⟨_, nrf52FwUpdating, result⟩ := b
  subst hbutton
  cases nrf52FwUpdating <;> cases result <;> decide

/-- But for the reboot, the boot task notifies in the order of the numbers. -/
theorem mainTaskInit_ascending (b : Boot) :
    (b.mainTaskInit.filter (· ≠ .reboot)).Pairwise fun a b => a.num < b.num := by
  obtain ⟨isConfigureButtonPressed, nrf52FwUpdating, result⟩ := b
  cases isConfigureButtonPressed <;> cases nrf52FwUpdating <;> cases result <;> decide

/-- The configuration is the last that is notified. -/
theorem mainTaskInit_cfgReady (h : .cfgReady ∈ b.mainTaskInit) :
    b.isConfigureButtonPressed = false ∧
      b.mainTaskInit = b.mainTaskInit.dropLast ++ [.cfgReady] ∧
      .cfgReady ∉ b.mainTaskInit.dropLast := by
  obtain ⟨isConfigureButtonPressed, nrf52FwUpdating, result⟩ := b
  revert h
  cases isConfigureButtonPressed <;> cases nrf52FwUpdating <;> cases result <;> decide

theorem mainTaskInit_keep_ascending (b : Boot) (keep : LedsCtrlEvent → Bool)
    (hreboot : keep .reboot = false) :
    (b.mainTaskInit.filter keep).Pairwise fun a b => a.num < b.num := by
  refine (mainTaskInit_ascending b).sublist (List.monotone_filter_right _ fun event hkeep => ?_)
  refine decide_eq_true ?_
  rintro rfl
  exact Bool.false_ne_true (hreboot.symm.trans hkeep)

theorem num_lt_of_sent (h : sent ++ event :: rest = b.mainTaskInit) (hevent : event ≠ .reboot) :
    ∀ event' ∈ sent, event'.num < event.num := by
  intro event' hsent
  by_cases hreboot : event' = .reboot
  · subst hreboot
    cases event with
    | reboot => exact absurd rfl hevent
    | _ => decide
  · have hascending := mainTaskInit_ascending b
    rw [← h, List.filter_append] at hascending
    refine (List.pairwise_append.mp hascending).2.2 event' ?_ event ?_
    · exact List.mem_filter.mpr ⟨hsent, decide_eq_true hreboot⟩
    · exact List.mem_filter.mpr ⟨List.mem_cons_self, decide_eq_true hevent⟩

end Boot

section Handling

variable {b : Boot} {w w' : World} {t : LedsTask} {o : SigOutcome} {sig : LedsTaskSig}
  {event : LedsCtrlEvent} {state : LedsCtrlState} {m : Mailbox LedsTaskSig.num}

/-- An event that the controller can handle. -/
theorem ledsTaskHandleSig_some (hevent : sig.event = some event)
    (hconfigured : t.ctrl.ledsSmState = .substate → t.ctrl.flagSubmachineConfigured = true)
    (h : t.ctrl.ledsSmState.next event = some state) : ∃ t', ledsTaskHandleSig t o sig = some t' ∧
      t'.ctrl.ledsSmState = state ∧
      (state = .substate → t'.ctrl.flagSubmachineConfigured = true) := by
  have hhandle (t' : LedsTask) (hstate : t'.ctrl.ledsSmState = t.ctrl.ledsSmState)
      (hflag : t'.ctrl.ledsSmState = .substate → t'.ctrl.flagSubmachineConfigured = true)
      (hready : event = .cfgReady → t'.ctrl.flagSubmachineConfigured = true) :
      ∃ t'', t'.handleEvent event = some t'' ∧ t''.ctrl.ledsSmState = state ∧
        (state = .substate → t''.ctrl.flagSubmachineConfigured = true) := by
    rw [← hstate] at h
    obtain ⟨c, hc, hnext, hsame⟩ := ledsCtrlHandleEvent_some hflag h
    refine ⟨{ t' with ctrl := c }, by rw [LedsTask.handleEvent, hc]; rfl, hnext, ?_⟩
    rintro rfl
    rcases LedsCtrlState.next_substate h with hsubstate | hcfgReady
    · exact hsame.trans (hflag hsubstate)
    · exact hsame.trans (hready hcfgReady)
  cases sig <;> cases hevent
  case onEvCfgReady => exact hhandle (t.configure o.params) rfl (fun _ => rfl) fun _ => rfl
  all_goals exact hhandle t rfl hconfigured nofun

/-- An event that the controller cannot handle. -/
theorem ledsTaskHandleSig_none (hevent : sig.event = some event)
    (h : t.ctrl.ledsSmState.next event = none) : ledsTaskHandleSig t o sig = none := by
  have hhandle (t' : LedsTask) (hstate : t'.ctrl.ledsSmState = t.ctrl.ledsSmState) :
      t'.handleEvent event = none := by
    rw [LedsTask.handleEvent, ledsCtrlHandleEvent_none (hstate ▸ h)]
    rfl
  cases sig <;> cases hevent
  case onEvCfgReady => exact hhandle (t.configure o.params) rfl
  all_goals exact hhandle t rfl

/-- Any other signal leaves the state of the controller. -/
theorem ledsTaskHandleSig_other (hevent : sig.event = none) (ht : t.ctrl.ledsSmState ≠ .initial)
    (hconfigured : t.ctrl.ledsSmState = .substate → t.ctrl.flagSubmachineConfigured = true) :
    ∃ t', ledsTaskHandleSig t o sig = some t' ∧ t'.ctrl.ledsSmState = t.ctrl.ledsSmState ∧
      (t'.ctrl.ledsSmState = .substate → t'.ctrl.flagSubmachineConfigured = true) := by
  have hevent2 (event : LedsCtrl2Event) : ∃ t', some (t.handleEvent2 event) = some t' ∧
      t'.ctrl.ledsSmState = t.ctrl.ledsSmState ∧
      (t'.ctrl.ledsSmState = .substate → t'.ctrl.flagSubmachineConfigured = true) := by
    refine ⟨_, rfl, ?_⟩
    unfold LedsTask.handleEvent2
    split_ifs
    · exact ⟨rfl, hconfigured⟩
    · exact ⟨rfl, hconfigured⟩
  cases sig <;> cases hevent
  case update =>
    unfold ledsTaskHandleSig
    dsimp only
    split_ifs
    · have hmode : (ledsCtrlGetNewBlinkingSequence t.ctrl).isSome = true := by
        unfold ledsCtrlGetNewBlinkingSequence
        split
        case h_1 hinitial => exact absurd hinitial ht
        all_goals rfl
      obtain ⟨mode, hmode⟩ := Option.isSome_iff_exists.mp hmode
      rw [hmode]
      exact ⟨_, rfl, rfl, hconfigured⟩
    · exact ⟨t, rfl, rfl, hconfigured⟩
  case onEvCfgChangedRuuvi => exact ⟨_, rfl, rfl, fun _ => rfl⟩
  case taskWatchdogFeed => exact ⟨t, rfl, rfl, hconfigured⟩
  all_goals exact hevent2 _

/-- Nothing that is taken or pending is lost when the task takes all. -/
theorem take_events (h : w.mailbox.take = some m) :
    World.taken { w with mailbox := m } = w.taken ++ w.pending ∧
      World.pending { w with mailbox := m } = [] ∧ w.taken = w.handled := by
  obtain ⟨htaken, hpending, hm⟩ := Mailbox.take_spec h
  have hnone : w.taken = w.handled := by
    unfold World.taken
    rw [htaken]
    exact List.append_nil _
  refine ⟨?_, ?_, hnone⟩
  · rw [hnone]
    unfold World.taken World.pending
    dsimp only
    rw [hm]
  · unfold World.pending
    dsimp only
    rw [hpending]
    rfl

/-- The next signal is the first of those that are taken. -/
theorem taken_of_next (h : w.mailbox.next = some (sig, m)) :
    w.taken = w.handled ++ sig.event.toList ++ eventsOf m.taken := by
  unfold World.taken eventsOf
  rw [(Mailbox.next_spec h).1, List.filterMap_cons, List.append_assoc]
  cases sig.event <;> rfl

/-- What is handled was taken. -/
theorem next_events (h : w.mailbox.next = some (sig, m)) (hmailbox : w'.mailbox = m)
    (hhandled : w'.handled = w.handled ++ sig.event.toList) :
    w'.taken = w.taken ∧ w'.pending = w.pending := by
  constructor
  · rw [taken_of_next h, ← hhandled, ← hmailbox]
    rfl
  · unfold World.pending
    rw [hmailbox, (Mailbox.next_spec h).2]

end Handling

end RuuviGateway.Leds
