import Mathlib.Data.List.FinRange
import RuuviGateway.General.Signals

/-!
# The controller of the LEDs

`leds_ctrl` is a state machine over the events of the boot, of an update of the nRF52 and of a
reboot. In one of its states a sub-machine over the events of the connections decides what the LEDs
show. An assertion that fails restarts the gateway.
-/

namespace RuuviGateway.Leds

section SubMachine

inductive LedsBlinkingMode
  | afterReboot
  | whileCheckingNrf52Fw
  | controlledByNrf52
  | whileFlashingNrf52Fw
  | nrf52Failure
  | onCfgErasing
  | onCfgErased
  | beforeReboot
  | wifiHotspotActive
  | wifiHotspotActiveAndWps
  | networkProblem
  | notConnectedToAnyTarget
  | noAdvs
  | connectedToAllTargets
  | connectedToSomeTargets
  deriving DecidableEq, Repr

inductive LedsCtrl2Event
  | wifiApStarted
  | wifiApStopped
  | wpsActivated
  | wpsDeactivated
  | networkConnected
  | networkDisconnected
  | mqtt1Connected
  | mqtt1Disconnected
  | http1DataSentSuccessfully
  | http1DataSentFail
  | http2DataSentSuccessfully
  | http2DataSentFail
  | httpPollOk
  | httpPollTimeout
  | recvAdv
  | recvAdvTimeout
  deriving DecidableEq, Repr

structure LedsCtrlParams where
  flagUseMqtt : Bool
  httpTargetsBitmask : UInt32
  deriving DecidableEq

structure LedsCtrl2 where
  params : LedsCtrlParams
  flagWifiApActive : Bool
  flagWpsActive : Bool
  flagNetworkConnected : Bool
  flagHttpConnStatus : Fin 2 → Bool
  flagMqttConnStatus : Bool
  flagHttpPollStatus : Bool
  flagRecvAdvStatus : Bool

/-- The function leaves `flag_wps_active` as it is at the start. -/
def ledsCtrl2Init : LedsCtrl2 where
  params := ⟨false, 0⟩
  flagWifiApActive := false
  flagWpsActive := false
  flagNetworkConnected := true
  flagHttpConnStatus := fun _ => true
  flagMqttConnStatus := true
  flagHttpPollStatus := true
  flagRecvAdvStatus := true

variable (s : LedsCtrl2)

def ledsCtrl2Configure (params : LedsCtrlParams) : LedsCtrl2 := { s with params := params }

def LedsCtrl2.setHttpConnStatus (i : Fin 2) (status : Bool) : LedsCtrl2 :=
  { s with flagHttpConnStatus := Function.update s.flagHttpConnStatus i status }

/-- A connection to the network counts as one to the HTTP targets. -/
def ledsCtrl2HandleEvent : LedsCtrl2Event → LedsCtrl2
  | .wifiApStarted => { s with flagWifiApActive := true }
  | .wifiApStopped => { s with flagWifiApActive := false }
  | .wpsActivated => { s with flagWpsActive := true }
  | .wpsDeactivated => { s with flagWpsActive := false }
  | .networkConnected =>
    { s with flagNetworkConnected := true, flagHttpConnStatus := fun _ => true }
  | .networkDisconnected => { s with flagNetworkConnected := false }
  | .mqtt1Connected => { s with flagMqttConnStatus := true }
  | .mqtt1Disconnected => { s with flagMqttConnStatus := false }
  | .http1DataSentSuccessfully => s.setHttpConnStatus 0 true
  | .http1DataSentFail => s.setHttpConnStatus 0 false
  | .http2DataSentSuccessfully => s.setHttpConnStatus 1 true
  | .http2DataSentFail => s.setHttpConnStatus 1 false
  | .httpPollOk => { s with flagHttpPollStatus := true }
  | .httpPollTimeout => { s with flagHttpPollStatus := false }
  | .recvAdv => { s with flagRecvAdvStatus := true }
  | .recvAdvTimeout => { s with flagRecvAdvStatus := false }

def LedsCtrl2.isHttpTarget (i : Fin 2) : Bool :=
  s.params.httpTargetsBitmask &&& (1 <<< UInt32.ofNat i) != 0

def ledsCtrl2GetNumConfiguredTargets : ℕ :=
  (List.finRange 2).countP s.isHttpTarget + s.params.flagUseMqtt.toNat

def LedsCtrl2.numActiveTargets : ℕ :=
  (List.finRange 2).countP (fun i => s.isHttpTarget i && s.flagHttpConnStatus i) +
    (s.params.flagUseMqtt && s.flagMqttConnStatus).toNat

def ledsCtrl2GetNewBlinkingSequence : LedsBlinkingMode :=
  if s.flagWifiApActive then
    if s.flagWpsActive then .wifiHotspotActiveAndWps else .wifiHotspotActive
  else if !s.flagNetworkConnected then .networkProblem
  else if !s.flagRecvAdvStatus then .noAdvs
  else if ledsCtrl2GetNumConfiguredTargets s = 0 then
    if !s.flagHttpPollStatus then .notConnectedToAnyTarget else .connectedToAllTargets
  else if s.numActiveTargets = 0 then .notConnectedToAnyTarget
  else if ledsCtrl2GetNumConfiguredTargets s ≠ s.numActiveTargets then .connectedToSomeTargets
  else .connectedToAllTargets

end SubMachine

section Controller

inductive LedsCtrlEvent
  | reboot
  | cfgErased
  | nrf52FwCheck
  | nrf52FwUpdating
  | nrf52Ready
  | nrf52Failure
  | cfgReady
  deriving DecidableEq, Repr

inductive LedsCtrlState
  | initial
  | afterReboot
  | checkingNrf52Fw
  | flashingNrf52Fw
  | nrf52Failure
  | cfgErasing
  | cfgErased
  | waitingCfgReady
  | substate
  | beforeReboot
  deriving DecidableEq, Repr

def ledsTaskUpdatePeriodJustAfterRebootMs : ℕ := 25

def ledsTaskUpdatePeriodMs : ℕ := 100

/-- `leds_ctrl_state_t` with the sub-machine and the period of the update timer, which is `none`
while the timer does not run. -/
structure LedsCtrl where
  ledsSmState : LedsCtrlState
  flagConfigureButtonPressed : Bool
  flagSubmachineConfigured : Bool
  ctrl2 : LedsCtrl2
  timerSigUpdate : Option ℕ

variable (c : LedsCtrl)

def ledsCtrlConfigureSubMachine (params : LedsCtrlParams) : LedsCtrl :=
  { c with ctrl2 := ledsCtrl2Configure c.ctrl2 params, flagSubmachineConfigured := true }

/-- Only the initial state has an action. -/
def ledsCtrlDoActionsStep : LedsCtrlState :=
  match c.ledsSmState with
  | .initial => if c.flagConfigureButtonPressed then .cfgErasing else .afterReboot
  | state => state

def ledsCbOnEnterState (c : LedsCtrl) : LedsCtrlState → LedsCtrl
  | .afterReboot => { c with timerSigUpdate := some ledsTaskUpdatePeriodJustAfterRebootMs }
  | .beforeReboot => { c with timerSigUpdate := none }
  | _ => c

def ledsCbOnExitState (c : LedsCtrl) : LedsCtrlState → LedsCtrl
  | .afterReboot => { c with timerSigUpdate := some ledsTaskUpdatePeriodMs }
  | _ => c

def ledsCtrlTransition (newState : LedsCtrlState) : LedsCtrl :=
  { ledsCbOnExitState (ledsCbOnEnterState c newState) c.ledsSmState with ledsSmState := newState }

/-- The loop of `leds_ctrl_do_actions` with a bound on its rounds. -/
def ledsCtrlDoActions : ℕ → LedsCtrl → LedsCtrl
  | 0, c => c
  | rounds + 1, c =>
    if ledsCtrlDoActionsStep c = c.ledsSmState then c
    else ledsCtrlDoActions rounds (ledsCtrlTransition c (ledsCtrlDoActionsStep c))

def ledsCtrlInit (flagConfigureButtonPressed : Bool) : LedsCtrl :=
  ledsCtrlDoActions 2 ⟨.initial, flagConfigureButtonPressed, false, ledsCtrl2Init, none⟩

/-! The handlers of an event, which are `none` where an assertion fails. -/

def ledsCtrlHandleEventInStateAfterReboot : LedsCtrlEvent → Option LedsCtrlState
  | .reboot => some .beforeReboot
  | .nrf52FwCheck => some .checkingNrf52Fw
  | .cfgErased | .nrf52FwUpdating | .nrf52Ready | .nrf52Failure | .cfgReady => none

def ledsCtrlHandleEventInStateCfgErasing : LedsCtrlEvent → Option LedsCtrlState
  | .reboot => some .beforeReboot
  | .cfgErased => some .cfgErased
  | .nrf52FwCheck | .nrf52FwUpdating | .nrf52Ready | .nrf52Failure | .cfgReady => none

def ledsCtrlHandleEventInStateCheckingNrf52Fw : LedsCtrlEvent → Option LedsCtrlState
  | .reboot => some .beforeReboot
  | .nrf52FwUpdating => some .flashingNrf52Fw
  | .nrf52Ready => some .waitingCfgReady
  | .nrf52Failure => some .nrf52Failure
  | .cfgErased | .nrf52FwCheck | .cfgReady => none

def ledsCtrlHandleEventInStateFlashingNrf52Fw : LedsCtrlEvent → Option LedsCtrlState
  | .reboot => some .beforeReboot
  | .nrf52Ready => some .waitingCfgReady
  | .nrf52Failure => some .nrf52Failure
  | .cfgReady => some .flashingNrf52Fw
  | .cfgErased | .nrf52FwCheck | .nrf52FwUpdating => none

def ledsCtrlHandleEventInStateWaitingCfgReady : LedsCtrlEvent → Option LedsCtrlState
  | .reboot => some .beforeReboot
  | .cfgReady => some .substate
  | .cfgErased | .nrf52FwCheck | .nrf52FwUpdating | .nrf52Ready | .nrf52Failure => none

def ledsCtrlHandleEventInStateSubstate : LedsCtrlEvent → Option LedsCtrlState
  | .reboot => some .beforeReboot
  | .nrf52FwUpdating => some .flashingNrf52Fw
  | .nrf52Ready | .nrf52Failure => some .substate
  | .cfgErased | .nrf52FwCheck | .cfgReady => none

/-- The new state of `leds_ctrl_handle_event`, for a sub-machine that is configured. -/
def LedsCtrlState.next (state : LedsCtrlState) (event : LedsCtrlEvent) : Option LedsCtrlState :=
  if event = .reboot then some .beforeReboot
  else match state with
    | .initial | .nrf52Failure | .cfgErased | .beforeReboot => some state
    | .afterReboot => ledsCtrlHandleEventInStateAfterReboot event
    | .checkingNrf52Fw => ledsCtrlHandleEventInStateCheckingNrf52Fw event
    | .flashingNrf52Fw => ledsCtrlHandleEventInStateFlashingNrf52Fw event
    | .cfgErasing => ledsCtrlHandleEventInStateCfgErasing event
    | .waitingCfgReady => ledsCtrlHandleEventInStateWaitingCfgReady event
    | .substate => ledsCtrlHandleEventInStateSubstate event

def ledsCtrlHandleEvent (event : LedsCtrlEvent) : Option LedsCtrl :=
  if event ≠ .reboot ∧ c.ledsSmState = .substate ∧ c.flagSubmachineConfigured = false then none
  else (c.ledsSmState.next event).map fun state =>
    if state ≠ c.ledsSmState then ledsCtrlDoActions 2 (ledsCtrlTransition c state) else c

def ledsCtrlGetNewBlinkingSequence : Option LedsBlinkingMode :=
  match c.ledsSmState with
  | .initial => none
  | .afterReboot => some .afterReboot
  | .checkingNrf52Fw => some .whileCheckingNrf52Fw
  | .flashingNrf52Fw => some .whileFlashingNrf52Fw
  | .nrf52Failure => some .nrf52Failure
  | .cfgErasing => some .onCfgErasing
  | .cfgErased => some .onCfgErased
  | .waitingCfgReady => some .controlledByNrf52
  | .substate => some (ledsCtrl2GetNewBlinkingSequence c.ctrl2)
  | .beforeReboot => some .beforeReboot

def ledsCtrlIsInSubstate : Bool := decide (c.ledsSmState = .substate)

end Controller

section Lemmas

variable {c : LedsCtrl} {state state' : LedsCtrlState} {event : LedsCtrlEvent}

@[simp] theorem ledsCtrlTransition_state : (ledsCtrlTransition c state).ledsSmState = state := rfl

@[simp] theorem ledsCtrlTransition_configured :
    (ledsCtrlTransition c state).flagSubmachineConfigured = c.flagSubmachineConfigured := by
  unfold ledsCtrlTransition ledsCbOnExitState ledsCbOnEnterState
  dsimp only
  split <;> split <;> rfl

theorem ledsCtrlDoActionsStep_of_ne (h : c.ledsSmState ≠ .initial) :
    ledsCtrlDoActionsStep c = c.ledsSmState := by
  unfold ledsCtrlDoActionsStep
  split
  case h_1 hinitial => exact absurd hinitial h
  case h_2 => rfl

theorem ledsCtrlDoActions_of_ne (rounds : ℕ) (h : c.ledsSmState ≠ .initial) :
    ledsCtrlDoActions rounds c = c := by
  cases rounds with
  | zero => rfl
  | succ rounds => exact if_pos (ledsCtrlDoActionsStep_of_ne h)

/-- The loop is over after one round. -/
theorem ledsCtrlDoActions_ended (rounds : ℕ) :
    ledsCtrlDoActionsStep (ledsCtrlDoActions (rounds + 1) c) =
      (ledsCtrlDoActions (rounds + 1) c).ledsSmState := by
  rw [ledsCtrlDoActions]
  split_ifs with hsame
  · exact hsame
  · have hne : (ledsCtrlTransition c (ledsCtrlDoActionsStep c)).ledsSmState ≠ .initial := by
      rw [ledsCtrlTransition_state]
      intro hinitial
      by_cases hc : c.ledsSmState = .initial
      · exact hsame (hinitial.trans hc.symm)
      · exact hc ((ledsCtrlDoActionsStep_of_ne hc).symm.trans hinitial)
    rw [ledsCtrlDoActions_of_ne _ hne]
    exact ledsCtrlDoActionsStep_of_ne hne

theorem LedsCtrlState.next_initial (h : state.next event = some .initial) : state = .initial := by
  cases state <;> cases event <;> cases h
  all_goals rfl

theorem LedsCtrlState.next_substate (h : state.next event = some .substate) :
    state = .substate ∨ event = .cfgReady := by
  cases state <;> cases event <;> cases h
  all_goals first | exact .inl rfl | exact .inr rfl

theorem LedsCtrlState.next_beforeReboot (h : state.next event = some .beforeReboot) :
    state = .beforeReboot ∨ event = .reboot := by
  cases state <;> cases event <;> cases h
  all_goals first | exact .inl rfl | exact .inr rfl

theorem LedsCtrlState.next_nrf52Failure (h : state.next event = some .nrf52Failure) :
    state = .nrf52Failure ∨ event = .nrf52Failure := by
  cases state <;> cases event <;> cases h
  all_goals first | exact .inl rfl | exact .inr rfl

theorem LedsCtrlState.next_cfgErased (h : state.next event = some .cfgErased) :
    state = .cfgErased ∨ event = .cfgErased := by
  cases state <;> cases event <;> cases h
  all_goals first | exact .inl rfl | exact .inr rfl

/-- The controller goes to the next state, and fails where there is none. -/
theorem ledsCtrlHandleEvent_some
    (hconfigured : c.ledsSmState = .substate → c.flagSubmachineConfigured = true)
    (h : c.ledsSmState.next event = some state) : ∃ c', ledsCtrlHandleEvent c event = some c' ∧
      c'.ledsSmState = state ∧ c'.flagSubmachineConfigured = c.flagSubmachineConfigured := by
  have hassert : ¬(event ≠ .reboot ∧ c.ledsSmState = .substate ∧
      c.flagSubmachineConfigured = false) := by
    rintro ⟨-, hsubstate, hflag⟩
    exact Bool.false_ne_true (hflag.symm.trans (hconfigured hsubstate))
  unfold ledsCtrlHandleEvent
  rw [if_neg hassert, h]
  refine ⟨_, rfl, ?_⟩
  dsimp only
  split_ifs with hne
  · have hinitial : state ≠ .initial := by
      rintro rfl
      exact hne (LedsCtrlState.next_initial h).symm
    rw [ledsCtrlDoActions_of_ne 2 hinitial]
    exact ⟨rfl, ledsCtrlTransition_configured⟩
  · exact ⟨(not_not.mp hne).symm, rfl⟩

theorem ledsCtrlHandleEvent_none (h : c.ledsSmState.next event = none) :
    ledsCtrlHandleEvent c event = none := by
  unfold ledsCtrlHandleEvent
  split_ifs
  · rfl
  · rw [h]
    rfl

end Lemmas

section Events

variable {state state' : LedsCtrlState} {events : List LedsCtrlEvent}

/-- The state after a sequence of events, unless an assertion fails. -/
def LedsCtrlState.run (state : LedsCtrlState) : List LedsCtrlEvent → Option LedsCtrlState
  | [] => some state
  | event :: events => (state.next event).bind fun state => state.run events

theorem LedsCtrlState.run_append (state : LedsCtrlState) (events events' : List LedsCtrlEvent) :
    state.run (events ++ events') = (state.run events).bind fun state => state.run events' := by
  induction events generalizing state with
  | nil => rfl
  | cons event events ih =>
    rw [List.cons_append, run, run]
    cases state.next event with
    | none => rfl
    | some state => exact ih state

/-- A state that only some events lead to is reached by one of them. -/
theorem LedsCtrlState.exists_of_run {p : LedsCtrlEvent → Prop}
    (hnext : ∀ state event, state.next event = some state' → state = state' ∨ p event)
    (h : state.run events = some state') (hne : state ≠ state') : ∃ event ∈ events, p event := by
  induction events generalizing state with
  | nil => exact absurd (Option.some.inj h) hne
  | cons head tail ih =>
    obtain ⟨middle, hmiddle, htail⟩ := Option.bind_eq_some_iff.mp h
    by_cases hstate : middle = state'
    · rcases hnext _ _ (hstate ▸ hmiddle) with heq | hp
      · exact absurd heq hne
      · exact ⟨head, List.mem_cons_self, hp⟩
    · obtain ⟨event, hevent, hp⟩ := ih htail hstate
      exact ⟨event, List.mem_cons_of_mem _ hevent, hp⟩

theorem LedsCtrlState.reboot_mem_of_run (h : state.run events = some .beforeReboot)
    (hne : state ≠ .beforeReboot) : .reboot ∈ events := by
  obtain ⟨event, hevent, rfl⟩ := exists_of_run (fun _ _ => next_beforeReboot) h hne
  exact hevent

theorem LedsCtrlState.nrf52Failure_mem_of_run (h : state.run events = some .nrf52Failure)
    (hne : state ≠ .nrf52Failure) : .nrf52Failure ∈ events := by
  obtain ⟨event, hevent, rfl⟩ := exists_of_run (fun _ _ => next_nrf52Failure) h hne
  exact hevent

theorem LedsCtrlState.cfgErased_mem_of_run (h : state.run events = some .cfgErased)
    (hne : state ≠ .cfgErased) : .cfgErased ∈ events := by
  obtain ⟨event, hevent, rfl⟩ := exists_of_run (fun _ _ => next_cfgErased) h hne
  exact hevent

/-- The initial state is left once and for all. -/
theorem LedsCtrlState.run_ne_initial (h : state.run events = some state')
    (hne : state ≠ .initial) : state' ≠ .initial := by
  rintro rfl
  obtain ⟨-, -, hfalse⟩ := exists_of_run (p := fun _ => False)
    (fun _ _ hnext => .inl (next_initial hnext)) h hne
  exact hfalse

/-- Nothing happens before a reboot any more. -/
theorem LedsCtrlState.run_beforeReboot (events : List LedsCtrlEvent) :
    LedsCtrlState.beforeReboot.run events = some .beforeReboot := by
  induction events with
  | nil => rfl
  | cons event events ih =>
    rw [run, show next .beforeReboot event = some .beforeReboot by cases event <;> rfl]
    exact ih

theorem LedsCtrlState.run_reboot (state : LedsCtrlState) (events : List LedsCtrlEvent) :
    state.run (.reboot :: events) = some .beforeReboot := run_beforeReboot events

theorem LedsCtrlState.run_of_reboot_mem (h : state.run events = some state')
    (hreboot : .reboot ∈ events) : state' = .beforeReboot := by
  obtain ⟨front, rest, rfl⟩ := List.append_of_mem hreboot
  rw [run_append, Option.bind_eq_some_iff] at h
  obtain ⟨middle, -, hrest⟩ := h
  exact Option.some.inj (hrest.symm.trans (run_reboot middle rest))

/-- A failure of the nRF52 stays until the reboot. -/
theorem LedsCtrlState.run_nrf52Failure (events : List LedsCtrlEvent) :
    LedsCtrlState.nrf52Failure.run events = some .nrf52Failure ∨
      LedsCtrlState.nrf52Failure.run events = some .beforeReboot := by
  induction events with
  | nil => exact .inl rfl
  | cons event events ih =>
    cases event with
    | reboot => exact .inr (run_reboot _ _)
    | _ => exact ih

/-- The states from the configuration on. -/
def LedsCtrlState.AfterCfgReady (state : LedsCtrlState) : Prop :=
  state = .substate ∨ state = .flashingNrf52Fw ∨ state = .nrf52Failure ∨ state = .beforeReboot

theorem LedsCtrlState.next_cfgReady (h : state.next .cfgReady = some state')
    (hinitial : state ≠ .initial) (herased : state ≠ .cfgErased) : state'.AfterCfgReady := by
  cases state <;> cases h
  case initial => exact absurd rfl hinitial
  case cfgErased => exact absurd rfl herased
  case waitingCfgReady => exact .inl rfl
  case flashingNrf52Fw => exact .inr (.inl rfl)
  case nrf52Failure => exact .inr (.inr (.inl rfl))
  case beforeReboot => exact .inr (.inr (.inr rfl))

/-- Updates and the reboot do not lead out of these states. -/
theorem LedsCtrlState.AfterCfgReady.run (hstate : state.AfterCfgReady)
    (hevents : ∀ event ∈ events, event = .reboot ∨ event = .nrf52FwUpdating)
    (h : state.run events = some state') : state'.AfterCfgReady := by
  induction events generalizing state with
  | nil => exact Option.some.inj h ▸ hstate
  | cons event events ih =>
    obtain ⟨middle, hmiddle, hrun⟩ := Option.bind_eq_some_iff.mp h
    refine ih ?_ (fun event hevent => hevents event (List.mem_cons_of_mem _ hevent)) hrun
    rcases hevents event List.mem_cons_self with rfl | rfl
    · exact .inr (.inr (.inr (Option.some.inj hmiddle).symm))
    · rcases hstate with rfl | rfl | rfl | rfl <;> cases hmiddle
      · exact .inr (.inl rfl)
      · exact .inr (.inr (.inl rfl))
      · exact .inr (.inr (.inr rfl))

end Events

end RuuviGateway.Leds
