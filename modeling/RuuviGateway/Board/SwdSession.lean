import RuuviGateway.General.Interleaving
import RuuviGateway.General.Transition

/-!
# The analog switch and the SWD session

The red LED, the reset line of the nRF52 and the SWD lines are behind one analog switch, which is
counted on and off by the tasks that need it. The main task resets the nRF52 and starts `leds_task`;
the firmware update and the software reset of the nRF52 open an SWD session and close it. All of
them run interleaved, action by action, and every action may fail.
-/

namespace RuuviGateway.Board

open General Prog

section State

/-- `gpio_switch_ctrl.c`. The last field records that `assert(g_switch_ctrl_cnt > 0)` has failed. -/
structure SwitchCtrl where
  cnt : ℕ
  isOutput : Bool
  level : Bool
  assertFailed : Bool

/-- The switch is high if its pin is an output of level 1. -/
def SwitchCtrl.isHigh (c : SwitchCtrl) : Bool := c.isOutput && c.level

/-- A pin has level 0 until it is set. -/
def gpioSwitchCtrlInit (configured : Bool) : SwitchCtrl := ⟨0, configured, false, false⟩

def gpioSwitchCtrlActivate (levelSet : Bool) (c : SwitchCtrl) : SwitchCtrl :=
  { c with
    level := if c.cnt = 0 then c.level || levelSet else c.level
    cnt := c.cnt + 1 }

def gpioSwitchCtrlDeactivate (levelSet : Bool) (c : SwitchCtrl) : SwitchCtrl :=
  if c.cnt = 0 then { c with assertFailed := true }
  else
    { c with
      level := if c.cnt - 1 = 0 then c.level && !levelSet else c.level
      cnt := c.cnt - 1 }

/-- The static flags of `nrf52swd.c`, where the context is a flag that says whether it is set. -/
inductive Flag
  | libswdCtx
  | isSpiDeviceAdded
  | isSpiInitialized
  | switchCtrlActivated
  deriving DecidableEq

/-- The flags, and what is open of the SPI driver and of libswd. -/
structure Session where
  libswdCtx : Bool
  isSpiDeviceAdded : Bool
  isSpiInitialized : Bool
  switchCtrlActivated : Bool
  libswdContexts : ℕ
  spiDevices : ℕ
  spiBus : Bool
  deriving DecidableEq

def Session.closed : Session := ⟨false, false, false, false, 0, 0, false⟩

def Session.get (s : Session) : Flag → Bool
  | .libswdCtx => s.libswdCtx
  | .isSpiDeviceAdded => s.isSpiDeviceAdded
  | .isSpiInitialized => s.isSpiInitialized
  | .switchCtrlActivated => s.switchCtrlActivated

def Session.set (s : Session) (value : Bool) : Flag → Session
  | .libswdCtx => { s with libswdCtx := value }
  | .isSpiDeviceAdded => { s with isSpiDeviceAdded := value }
  | .isSpiInitialized => { s with isSpiInitialized := value }
  | .switchCtrlActivated => { s with switchCtrlActivated := value }

inductive LedsColor
  | off
  | red
  | green
  deriving DecidableEq

/-- `g_leds_state` and `g_green_led_state`, the red LED itself, and whether `leds_ctrl` is in the
state `BEFORE_REBOOT`. -/
structure Leds where
  ledsState : LedsColor
  redLedOn : Bool
  greenLedState : Bool
  beforeReboot : Bool
  deriving DecidableEq

def Leds.initial : Leds := ⟨.off, false, false, false⟩

/-- What the tasks share of the board. -/
structure Pins where
  switchCtrl : SwitchCtrl
  isGpioCfgNresetInitialized : Bool
  nresetLevel : Bool

end State

section Actions

inductive PinAction
  /-- `nrf52swd_init_gpio_cfg_nreset`. -/
  | initGpioCfgNreset
  /-- `nrf52swd_reset`. -/
  | setNreset (level : Bool)
  | activate
  | deactivate

inductive SwdAction
  | get (flag : Flag)
  | set (flag : Flag) (value : Bool)
  | spiBusInitialize
  | spiBusAddDevice
  | spiBusRemoveDevice
  | spiBusFree
  /-- The context is set to what `libswd_init` returns. -/
  | libswdInit
  | libswdDeinit
  | libswdDebugInit
  | checkIdCode
  | debugHalt
  | debugEnableResetVectorCatch
  | debugReset
  | debugRun
  /-- `nrf52fw_update_fw_step1`, which works with the session that is open. -/
  | updateFwStep1
  deriving DecidableEq

inductive LedsAction
  | setLedsState (color : LedsColor)
  | fadeRed (on : Bool)
  | setGreenLedState (on : Bool)

inductive Action
  | pin (a : PinAction)
  | swd (a : SwdAction)
  | leds (a : LedsAction)

variable (ok : Bool)

/-- An action succeeds if `ok` holds and the hardware allows it. -/
def Pins.perform (pins : Pins) : PinAction → Bool × Pins
  | .initGpioCfgNreset =>
      if pins.isGpioCfgNresetInitialized then (true, pins)
      else (ok, { pins with isGpioCfgNresetInitialized := ok })
  | .setNreset level => (ok, if ok then { pins with nresetLevel := level } else pins)
  | .activate => (true, { pins with switchCtrl := gpioSwitchCtrlActivate ok pins.switchCtrl })
  | .deactivate => (true, { pins with switchCtrl := gpioSwitchCtrlDeactivate ok pins.switchCtrl })

/-- A bus is initialized once, a device needs a bus, and a bus with a device on it is not freed. -/
def Session.perform (s : Session) : SwdAction → Bool × Session
  | .get flag => (s.get flag, s)
  | .set flag value => (true, s.set value flag)
  | .spiBusInitialize => (ok && !s.spiBus, { s with spiBus := s.spiBus || ok })
  | .spiBusAddDevice =>
      if ok && s.spiBus then (true, { s with spiDevices := s.spiDevices + 1 }) else (false, s)
  | .spiBusRemoveDevice =>
      if ok && decide (0 < s.spiDevices) then (true, { s with spiDevices := s.spiDevices - 1 })
      else (false, s)
  | .spiBusFree =>
      if ok && s.spiBus && decide (s.spiDevices = 0) then (true, { s with spiBus := false })
      else (false, s)
  | .libswdInit => (ok, { s with
      libswdCtx := ok
      libswdContexts := if ok then s.libswdContexts + 1 else s.libswdContexts })
  | .libswdDeinit => (true, { s with libswdContexts := s.libswdContexts - 1 })
  | .libswdDebugInit | .checkIdCode | .debugHalt | .debugEnableResetVectorCatch | .debugReset
  | .debugRun | .updateFwStep1 => (ok, s)

def Leds.perform (leds : Leds) : LedsAction → Leds
  | .setLedsState color => { leds with ledsState := color }
  | .fadeRed on => { leds with redLedOn := on }
  | .setGreenLedState on => { leds with greenLedState := on }

end Actions

section Programs

def nrf52fwHwResetNrf52 (flagReset : Bool) : Prog Action Unit := do
  call_ (.pin .initGpioCfgNreset)
  whenever (pure flagReset) (call_ (.pin .activate))
  call_ (.pin (.setNreset !flagReset))
  whenever (pure !flagReset) (call_ (.pin .deactivate))

def nrf52swdGpioInit : Prog Action Bool := do
  if !(← call (.pin .initGpioCfgNreset)) then return false
  call_ (.pin .activate)
  call_ (.swd (.set .switchCtrlActivated true))
  return true

def nrf52swdInitInternal : Prog Action Bool := do
  if !(← nrf52swdGpioInit) then return false
  call_ (.pin (.setNreset true))
  if !(← call (.swd .spiBusInitialize)) then return false
  call_ (.swd (.set .isSpiInitialized true))
  if !(← call (.swd .spiBusAddDevice)) then return false
  call_ (.swd (.set .isSpiDeviceAdded true))
  if !(← call (.swd .libswdInit)) then return false
  if !(← call (.swd .libswdDebugInit)) then return false
  return true

def nrf52swdDeinit : Prog Action Unit := do
  whenever (call (.swd (.get .libswdCtx))) do
    call_ (.swd .libswdDeinit)
    call_ (.swd (.set .libswdCtx false))
  whenever (call (.swd (.get .isSpiDeviceAdded))) do
    call_ (.swd (.set .isSpiDeviceAdded false))
    call_ (.swd .spiBusRemoveDevice)
  whenever (call (.swd (.get .isSpiInitialized))) do
    call_ (.swd (.set .isSpiInitialized false))
    call_ (.swd .spiBusFree)
  whenever (call (.swd (.get .switchCtrlActivated))) do
    call_ (.pin .deactivate)
    call_ (.swd (.set .switchCtrlActivated false))

def nrf52swdInit : Prog Action Bool := do
  if !(← nrf52swdInitInternal) then
    nrf52swdDeinit
    return false
  return true

def nrf52fwInitSwd : Prog Action Bool := do
  if !(← nrf52swdInit) then return false
  if !(← call (.swd .checkIdCode)) then return false
  if !(← call (.swd .debugHalt)) then return false
  if !(← call (.swd .debugEnableResetVectorCatch)) then return false
  if !(← call (.swd .debugReset)) then return false
  return true

def nrf52fwDeinitSwd : Prog Action Unit := nrf52swdDeinit

def nrf52fwUpdateFwStep0 : Prog Action Bool := do
  if !(← nrf52fwInitSwd) then return false
  let updated ← call (.swd .updateFwStep1)
  let result ← (if updated then call (.swd .debugRun) else pure false : Prog Action Bool)
  nrf52fwDeinitSwd
  return result

def nrf52fwUpdateFwIfNecessary : Prog Action Bool := do
  nrf52fwHwResetNrf52 true
  nrf52fwHwResetNrf52 false
  let res ← nrf52fwUpdateFwStep0
  nrf52fwHwResetNrf52 true
  nrf52fwHwResetNrf52 false
  return res

def nrf52fwSoftwareReset : Prog Action Bool := do
  if !(← nrf52fwInitSwd) then return false
  if !(← call (.swd .debugRun)) then
    nrf52fwDeinitSwd
    return false
  nrf52fwDeinitSwd
  return true

def ledsTurnOnRed : Prog Action Unit := do
  call_ (.pin .activate)
  call_ (.leds (.fadeRed true))

def ledsTurnOffRed : Prog Action Unit := do
  call_ (.leds (.fadeRed false))
  call_ (.pin .deactivate)

def ledsTurnOnGreen : Prog Action Unit := call_ (.leds (.setGreenLedState true))

def ledsTurnOffGreen : Prog Action Unit := call_ (.leds (.setGreenLedState false))

/-- The transition out of a color. It is not called for the color itself. -/
def ledsTransition : LedsColor → LedsColor → Prog Action Unit
  | .off, .red => ledsTurnOnRed
  | .off, .green => ledsTurnOnGreen
  | .red, .off => ledsTurnOffRed
  | .red, .green => do
      ledsTurnOffRed
      ledsTurnOnGreen
  | .green, .off => ledsTurnOffGreen
  | .green, .red => do
      ledsTurnOffGreen
      ledsTurnOnRed
  | .off, .off | .red, .red | .green, .green => pure ()

/-- `leds_task_handle_sig_update` with the next color of the blinking sequence. -/
def ledsTaskHandleSigUpdate (prevColor newColor : LedsColor) : Prog Action Unit :=
  if prevColor ≠ newColor then do
    call_ (.leds (.setLedsState newColor))
    ledsTransition prevColor newColor
  else pure ()

def ledsCbOnEnterStateBeforeReboot : Prog Action Unit := do
  ledsTurnOffRed
  nrf52fwHwResetNrf52 true

end Programs

section Steps

/-- `main` is what the main task still has to do before it starts `leds_task`, and `workers` are
the tasks that update or reset the nRF52 and have not returned. -/
structure World where
  booted : Bool
  pins : Pins
  session : Session
  leds : Leds
  main : Prog Action Unit
  ledsTask : Prog Action Unit
  workers : List (Prog Action Bool)

def World.initial : World where
  booted := false
  pins := ⟨gpioSwitchCtrlInit false, false, false⟩
  session := .closed
  leds := .initial
  main := pure ()
  ledsTask := pure ()
  workers := []

variable (w : World)

def World.perform (ok : Bool) : Action → Bool × World
  | .pin a => ((w.pins.perform ok a).1, { w with pins := (w.pins.perform ok a).2 })
  | .swd a => ((w.session.perform ok a).1, { w with session := (w.session.perform ok a).2 })
  | .leds a => (true, { w with leds := w.leds.perform a })

inductive Label
  /-- `main_task_init` calls `gpio_init` and gets to `nrf52fw_hw_reset_nrf52`. -/
  | boot (configured : Bool)
  | main (ok : Bool)
  /-- `leds_task` handles an update or the request to reboot. -/
  | update (newColor : LedsColor)
  | reboot
  | leds (ok : Bool)
  /-- `main_task_init` or `fw_update_task` calls `nrf52fw_update_fw_if_necessary`. -/
  | updateFw
  | softwareReset
  | worker (i : ℕ) (ok : Bool)

/-- `leds_task` runs and waits for signals. -/
def World.ledsIdle : Bool := w.booted && w.main.isDone && w.ledsTask.isDone

/-- A task that has returned is gone. -/
def World.setWorker (i : ℕ) (p : Prog Action Bool) : World :=
  { w with workers := if p.isDone then w.workers.eraseIdx i else w.workers.set i p }

def World.step : Label → Option (World × Unit)
  | .boot configured =>
      if w.booted then none
      else some ({ w with
        booted := true
        pins := { w.pins with switchCtrl := gpioSwitchCtrlInit configured }
        main := nrf52fwHwResetNrf52 true }, ())
  | .main ok =>
      match w.main with
      | .ret _ => none
      | .act k next => some ({ (w.perform ok k).2 with main := next (w.perform ok k).1 }, ())
  | .update newColor =>
      if w.ledsIdle then
        some ({ w with ledsTask := ledsTaskHandleSigUpdate w.leds.ledsState newColor }, ())
      else none
  | .reboot =>
      if w.ledsIdle then
        if w.leds.beforeReboot then some (w, ())
        else some ({ w with
          leds := { w.leds with beforeReboot := true }
          ledsTask := ledsCbOnEnterStateBeforeReboot }, ())
      else none
  | .leds ok =>
      match w.ledsTask with
      | .ret _ => none
      | .act k next => some ({ (w.perform ok k).2 with ledsTask := next (w.perform ok k).1 }, ())
  | .updateFw =>
      if w.booted && w.main.isDone then
        some ({ w with workers := w.workers ++ [nrf52fwUpdateFwIfNecessary] }, ())
      else none
  | .softwareReset =>
      if w.booted && w.main.isDone then
        some ({ w with workers := w.workers ++ [nrf52fwSoftwareReset] }, ())
      else none
  | .worker i ok =>
      match w.workers[i]? with
      | none | some (.ret _) => none
      | some (.act k next) =>
          some ((w.perform ok k).2.setWorker i (next (w.perform ok k).1), ())

def board : System World Label Unit where
  init := .initial
  step := World.step

end Steps

section Property

variable (w : World)

def World.isHeldInReset : Bool := w.pins.isGpioCfgNresetInitialized && !w.pins.nresetLevel

/-- No task is within an operation. -/
def World.AtRest : Prop := w.main.isDone = true ∧ w.ledsTask.isDone = true ∧ w.workers = []

def CounterRight : Prop :=
  w.pins.switchCtrl.cnt = w.leds.redLedOn.toNat + w.isHeldInReset.toNat

/-- Nothing is left of an SWD session. -/
structure SessionClosed : Prop where
  spiBus : w.session.spiBus = false
  spiDevices : w.session.spiDevices = 0
  libswdContexts : w.session.libswdContexts = 0
  switchCtrlActivated : w.session.switchCtrlActivated = false

/-- The nRF52 is updated or reset by one task at a time. -/
def OneAtATime : Label → Prop
  | .updateFw | .softwareReset => w.workers = []
  | _ => True

/-- The nRF52 answers in a session that has been opened, and the SPI driver closes what it
opened. -/
def SwdAction.Suits : SwdAction → Bool → Prop
  | .checkIdCode, ok | .debugHalt, ok | .debugEnableResetVectorCatch, ok | .debugReset, ok
  | .spiBusRemoveDevice, ok | .spiBusFree, ok => ok = true
  | _, _ => True

/-- Besides, the switch is set when it has to be. -/
def Action.Suits (ok : Bool) : Action → Prop
  | .pin .activate => w.pins.switchCtrl.cnt = 0 → ok = true
  | .pin .deactivate => w.pins.switchCtrl.cnt = 1 → ok = true
  | .swd a => a.Suits ok
  | _ => True

/-- Besides, the red LED is not on when the reboot is announced. -/
def StepSuits : Label → Prop
  | .boot configured => configured = true
  | .main ok => ∀ k ∈ w.main.first, k.Suits w ok
  | .leds ok => ∀ k ∈ w.ledsTask.first, k.Suits w ok
  | .worker i ok => ∀ p ∈ w.workers[i]?, ∀ k ∈ p.first, k.Suits w ok
  | .reboot => w.leds.beforeReboot = false → w.leds.ledsState ≠ .red
  | .updateFw | .softwareReset => w.workers = []
  | .update _ => True

instance : DecidablePred (OneAtATime w) := fun l =>
  match l with
  | .updateFw | .softwareReset => inferInstanceAs (Decidable (w.workers = []))
  | .boot _ | .main _ | .update _ | .reboot | .leds _ | .worker _ _ =>
      inferInstanceAs (Decidable True)

instance (a : SwdAction) (ok : Bool) : Decidable (a.Suits ok) :=
  match a with
  | .checkIdCode | .debugHalt | .debugEnableResetVectorCatch | .debugReset
  | .spiBusRemoveDevice | .spiBusFree => inferInstanceAs (Decidable (ok = true))
  | .get _ | .set _ _ | .spiBusInitialize | .spiBusAddDevice | .libswdInit | .libswdDeinit
  | .libswdDebugInit | .debugRun | .updateFwStep1 => inferInstanceAs (Decidable True)

instance (ok : Bool) : DecidablePred (Action.Suits w ok) := fun k =>
  match k with
  | .pin .activate => inferInstanceAs (Decidable (w.pins.switchCtrl.cnt = 0 → ok = true))
  | .pin .deactivate => inferInstanceAs (Decidable (w.pins.switchCtrl.cnt = 1 → ok = true))
  | .swd a => inferInstanceAs (Decidable (a.Suits ok))
  | .pin .initGpioCfgNreset | .pin (.setNreset _) | .leds _ => inferInstanceAs (Decidable True)

instance : DecidablePred (StepSuits w) := fun l =>
  match l with
  | .boot configured => inferInstanceAs (Decidable (configured = true))
  | .main ok => inferInstanceAs (Decidable (∀ k ∈ w.main.first, k.Suits w ok))
  | .leds ok => inferInstanceAs (Decidable (∀ k ∈ w.ledsTask.first, k.Suits w ok))
  | .worker i ok =>
      inferInstanceAs (Decidable (∀ p ∈ w.workers[i]?, ∀ k ∈ p.first, k.Suits w ok))
  | .reboot =>
      inferInstanceAs (Decidable (w.leds.beforeReboot = false → w.leds.ledsState ≠ .red))
  | .updateFw | .softwareReset => inferInstanceAs (Decidable (w.workers = []))
  | .update _ => inferInstanceAs (Decidable True)

end Property

end RuuviGateway.Board
