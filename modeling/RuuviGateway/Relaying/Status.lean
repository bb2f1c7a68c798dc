import Mathlib.Data.List.Basic

/-!
# Suspending and resuming relaying

The part of `gw_status.c` that suspends relaying: two counters guarded by a mutex, two
command bits that the tasks clear once they have handled a change of the relaying mode,
and the calls that other threads make. A call is a small program. Its critical section is
one step, and so is every later access to the bits or to the signals of a task.
-/

namespace RuuviGateway.Relaying

/-- The two ways of relaying. Each has a counter, a command bit and a task that serves it. -/
inductive Via
  | http
  | mqtt
  deriving DecidableEq, Repr

/-- What a call refers to: all relaying, or relaying via HTTP only. -/
inductive Scope
  | all
  | httpOnly
  deriving DecidableEq, Repr

def Scope.covers : Scope → Via → Bool
  | .all, _ => true
  | .httpOnly, .http => true
  | .httpOnly, .mqtt => false

structure Status where
  /-- `cnt_relaying_via_http_suspended` and `cnt_relaying_via_mqtt_suspended`. -/
  cntSuspended : Via → ℕ
  /-- `GW_STATUS_HTTP_RELAYING_CMD_BIT` and `GW_STATUS_MQTT_RELAYING_CMD_BIT`. -/
  relayingCmd : Via → Bool

/-- `gw_status_init`. -/
def gwStatusInit : Status where
  cntSuspended := fun _ => 0
  relayingCmd := fun _ => false

/-- `INT32_MAX`, the largest value of a counter. -/
def cntMax : ℕ := 0x7fffffff

section Counters

/-- The critical section of a suspension: the counters after it, and the flags
`flag_notify_change_for_http` and `flag_notify_change_for_mqtt`. -/
def Status.suspend (s : Status) (scope : Scope) : Status × (Via → Bool) :=
  ({ s with cntSuspended := fun via =>
      if scope.covers via then s.cntSuspended via + 1 else s.cntSuspended via },
    fun via => scope.covers via && decide (s.cntSuspended via = 0))

/-- The critical section of a resume. Relaying that is active stays active, with a warning. -/
def Status.resume (s : Status) (scope : Scope) : Status × (Via → Bool) :=
  ({ s with cntSuspended := fun via =>
      if scope.covers via && decide (s.cntSuspended via ≠ 0) then s.cntSuspended via - 1
      else s.cntSuspended via },
    fun via => scope.covers via && decide (s.cntSuspended via ≠ 0) &&
      decide (s.cntSuspended via - 1 = 0))

def gwStatusSuspendRelaying (s : Status) : Status × (Via → Bool) := s.suspend .all

def gwStatusResumeRelaying (s : Status) : Status × (Via → Bool) := s.resume .all

def gwStatusSuspendHttpRelaying (s : Status) : Status × (Via → Bool) := s.suspend .httpOnly

def gwStatusResumeHttpRelaying (s : Status) : Status × (Via → Bool) := s.resume .httpOnly

def Scope.suspend : Scope → Status → Status × (Via → Bool)
  | .all => gwStatusSuspendRelaying
  | .httpOnly => gwStatusSuspendHttpRelaying

def Scope.resume : Scope → Status → Status × (Via → Bool)
  | .all => gwStatusResumeRelaying
  | .httpOnly => gwStatusResumeHttpRelaying

theorem Scope.suspend_eq (scope : Scope) (s : Status) : scope.suspend s = s.suspend scope := by
  cases scope <;> rfl

theorem Scope.resume_eq (scope : Scope) (s : Status) : scope.resume s = s.resume scope := by
  cases scope <;> rfl

/-- A suspension does not overflow the `int32_t` counters that it increments. -/
def Scope.fits (scope : Scope) (s : Status) : Bool :=
  (!scope.covers .http || decide (s.cntSuspended .http < cntMax)) &&
    (!scope.covers .mqtt || decide (s.cntSuspended .mqtt < cntMax))

/-- `gw_status_is_relaying_via_http_enabled` and `gw_status_is_relaying_via_mqtt_enabled`. -/
def Status.isRelayingEnabled (s : Status) (via : Via) : Bool := decide (s.cntSuspended via = 0)

def Status.setCmd (s : Status) (via : Via) : Status :=
  { s with relayingCmd := fun v => if v = via then true else s.relayingCmd v }

def Status.clearCmd (s : Status) (via : Via) : Status :=
  { s with relayingCmd := fun v => if v = via then false else s.relayingCmd v }

def Status.isCmdHandled (s : Status) (via : Via) : Bool := !s.relayingCmd via

@[simp] theorem Status.relayingCmd_suspend (s : Status) (scope : Scope) :
    (s.suspend scope).1.relayingCmd = s.relayingCmd := rfl

@[simp] theorem Status.relayingCmd_resume (s : Status) (scope : Scope) :
    (s.resume scope).1.relayingCmd = s.relayingCmd := rfl

@[simp] theorem Status.cntSuspended_setCmd (s : Status) (via : Via) :
    (s.setCmd via).cntSuspended = s.cntSuspended := rfl

@[simp] theorem Status.cntSuspended_clearCmd (s : Status) (via : Via) :
    (s.clearCmd via).cntSuspended = s.cntSuspended := rfl

theorem Status.relayingCmd_setCmd (s : Status) {v via : Via} (h : s.relayingCmd v = true) :
    (s.setCmd via).relayingCmd v = true := by
  unfold setCmd
  dsimp only
  split_ifs
  · rfl
  · exact h

end Counters

section Calls

inductive Op
  | suspend
  | resume
  deriving DecidableEq, Repr

/-- Where a call stands after its critical section. -/
inductive CallPc
  /-- About to look at its two flags. -/
  | entered
  /-- About to set the command bit of one way of relaying if its flag is set. -/
  | setCmd (via : Via)
  /-- In `event_mgr_notify`, with the tasks that have not been signalled yet. -/
  | notify (advPost main : Bool)
  /-- In the waiting loop for one way of relaying. -/
  | wait (via : Via)
  | returned
  deriving DecidableEq, Repr

structure Call where
  op : Op
  scope : Scope
  flagWait : Bool
  notify : Via → Bool
  pc : CallPc
  /-- A waiting loop was left because of its timeout. -/
  timedOut : Bool
  /-- The matching resume has been called. -/
  resumed : Bool

/-- The call right after its critical section. -/
def Call.enter (op : Op) (scope : Scope) (flagWait : Bool) (notify : Via → Bool) : Call where
  op := op
  scope := scope
  flagWait := flagWait
  notify := notify
  pc := .entered
  timedOut := false
  resumed := false

/-- The two tasks that are subscribed to `EVENT_MGR_EV_RELAYING_MODE_CHANGED` and serve
a command bit. -/
inductive Subscriber
  | advPost
  | main
  deriving DecidableEq, Repr

/-- What a thread inside a call does next. -/
inductive CallEvent
  | proceed
  | signal (task : Subscriber)
  | timeout
  deriving DecidableEq, Repr

/-- A call after the last signal has been sent. -/
def Call.notified (c : Call) : Call :=
  { c with pc := if c.flagWait then .wait .mqtt else .returned }

/-- The end of the waiting loop for one way of relaying. -/
def Call.leaveWait (c : Call) : Via → Call
  | .mqtt => { c with pc := .wait .http }
  | .http => { c with pc := .returned }

/-- One step of `gw_status_notify_relaying_mode_changed_and_wait`: the call and the status
after it, and the task that has been signalled. -/
def Call.step (c : Call) (s : Status) : CallEvent → Option (Call × Status × Option Subscriber)
  | .proceed =>
      match c.pc with
      | .entered =>
          if !c.notify .http && !c.notify .mqtt then some ({ c with pc := .returned }, s, none)
          else some ({ c with pc := .setCmd .http }, s, none)
      | .setCmd .http =>
          some ({ c with pc := .setCmd .mqtt }, if c.notify .http then s.setCmd .http else s, none)
      | .setCmd .mqtt =>
          some ({ c with pc := .notify true true },
            if c.notify .mqtt then s.setCmd .mqtt else s, none)
      | .wait via =>
          if c.notify via && !s.isCmdHandled via then none
          else some (c.leaveWait via, s, none)
      | .notify false false => some (c.notified, s, none)
      | .notify _ _ | .returned => none
  | .signal .advPost =>
      match c.pc with
      | .notify true main => some ({ c with pc := .notify false main }, s, some .advPost)
      | _ => none
  | .signal .main =>
      match c.pc with
      | .notify advPost true => some ({ c with pc := .notify advPost false }, s, some .main)
      | _ => none
  | .timeout =>
      match c.pc with
      | .wait via =>
          if c.notify via && !s.isCmdHandled via then
            some ({ c.leaveWait via with timedOut := true }, s, none)
          else none
      | _ => none

end Calls

end RuuviGateway.Relaying
