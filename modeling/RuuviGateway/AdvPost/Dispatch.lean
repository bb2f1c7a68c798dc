import RuuviGateway.AdvPost.StatisticsLoss
import RuuviGateway.AdvPost.Steps

/-!
# The order of the targets

`adv_post_do_async_comm` looks at the pending targets in a fixed order and stops at the first one.
A target whose transfer cannot be started stays pending, and is the first one again next time.
-/

namespace RuuviGateway.AdvPost

open AdvTable General

section Model

inductive Destination
  | advs (target : AdvsTarget)
  | statistics
  | periodicMqtt
  deriving DecidableEq, Repr

/-- The order in which `adv_post_do_async_comm` looks at the flags. -/
def Destination.all : List Destination := [.advs .ruuvi, .advs .custom, .statistics, .periodicMqtt]

def AdvPostState.needToSendTo (s : AdvPostState) : Destination → Bool
  | .advs target => s.needToSendAdvs target
  | .statistics => s.flagNeedToSendStatistics
  | .periodicMqtt => s.flagNeedToSendMqttPeriodic

def AdvPostState.firstPending (s : AdvPostState) : Option Destination :=
  Destination.all.find? s.needToSendTo

/-- The four functions that start a transfer. -/
def Destination.start : Destination → World → Env → World
  | .advs target => advPostDoAsyncCommSendAdvs target
  | .statistics => advPostDoAsyncCommSendStatistics
  | .periodicMqtt => advPostDoAsyncCommStartSendingPeriodicMqtt

/-- The world in which the pending targets are looked at, unless a transfer is still in progress. -/
def World.idle (w : World) (env : Env) : Option World :=
  if w.state.flagAsyncCommInProgress then
    let progress := advPostDoAsyncCommInProgress w env
    if progress.2 then
      some { progress.1 with state := { progress.1.state with flagAsyncCommInProgress := false } }
    else none
  else some w

/-- The target that a step tries to start. -/
def World.tries (w : World) (env : Env) : Option Destination :=
  (w.idle env).bind fun w => if w.state.flagRelayingEnabled then w.state.firstPending else none

/-- The conditions of a step: those that all targets share, and what becomes of a request to each
of them. -/
structure Conditions where
  env : Env
  authType : Config.HttpAuthType
  advs : AdvsTarget → Http.AdvsOutcome
  stat : Http.StatOutcome

/-- The result of `http_send_advs_internal`. -/
def Conditions.isAdvsPosted (c : Conditions) (target : AdvsTarget) : Bool :=
  let o := c.advs target
  o.genCreated && o.urlAllocated && o.clientInit &&
    (decide (target = .ruuvi) ||
     Http.httpHandleAddAuthorizationIfNeeded c.authType o.authAllocated) &&
    o.send.postDataSet && o.send.again

def Conditions.isStatPosted (c : Conditions) : Bool := StatRequest.isPosted ⟨c.env, c.stat⟩

def Conditions.envFor (c : Conditions) : Option Destination → Env
  | some (.advs target) => { c.env with httpPostAdvs := c.isAdvsPosted target }
  | some .statistics => { c.env with httpPostStat := c.isStatPosted }
  | some .periodicMqtt => c.env
  | none => c.env

/-- Relaying is enabled, the network is connected, the time condition is met, and the lock of the
HTTP server is free. -/
structure Serviceable (c : Conditions) (w : World) : Prop where
  relaying : w.state.flagRelayingEnabled = true
  network : w.state.flagNetworkConnected = true
  time : timeConditionMet w c.env = true
  notHeld : w.mutexHeld = false
  notBusy : c.env.httpServerMutexBusy = false

/-- The request to the target does not come to its first perform, although there is memory for the
reports. -/
def Conditions.FailsFor (c : Conditions) : Destination → Prop
  | .advs target => c.env.reportsBufAllocated = true ∧
      (c.env.gwCfgGetHttpCopy = false ∨ c.isAdvsPosted target = false)
  | .statistics => c.env.gwCfgGetHttpStatUseHttpStat = true ∧
      (c.env.gwCfgGetHttpStatCopy = false ∨ c.env.statReportsAllocated = true ∧
        c.env.resetInfoGet = true ∧ c.env.statInfoGenerated = true ∧ c.isStatPosted = false)
  | .periodicMqtt => False

/-- The JSON generator of the advertisements cannot be created. -/
def Conditions.LacksGenerator (c : Conditions) : Destination → Prop
  | .advs target => c.env.reportsBufAllocated = true ∧ c.env.gwCfgGetHttpCopy = true ∧
      (c.advs target).genCreated = false
  | .statistics | .periodicMqtt => False

instance (c : Conditions) (target : Destination) : Decidable (c.LacksGenerator target) := by
  cases target <;> unfold Conditions.LacksGenerator <;> infer_instance

def ruuviMaxLowHeapMemCnt : ℕ := 5

/-- The posting task with `g_http_post_advs_malloc_fail_cnt`. -/
structure Dispatcher where
  world : World
  mallocFailCnt : ℕ

/-- `http_send_advs_internal` is reached for the target. -/
def Conditions.Reaches (c : Conditions) (w : World) : Destination → Prop
  | .advs _ => w.state.flagNetworkConnected = true ∧ timeConditionMet w c.env = true ∧
      (httpServerMutexTryLock w c.env).2 = true ∧ c.env.reportsBufAllocated = true ∧
      c.env.gwCfgGetHttpCopy = true
  | .statistics | .periodicMqtt => False

instance (c : Conditions) (w : World) (target : Destination) : Decidable (c.Reaches w target) := by
  cases target <;> unfold Conditions.Reaches <;> infer_instance

/-- A step of `DO_ASYNC_COMM`, which ends with a restart of the gateway if there has been no memory
for the JSON generator too often. -/
def Dispatcher.doAsyncComm (s : Dispatcher) (c : Conditions) : Option Dispatcher :=
  let target := s.world.tries c.env
  let world := advPostDoAsyncComm s.world (c.envFor target)
  match s.world.idle c.env, target with
  | some w, some target =>
    if c.Reaches w target then
      if c.LacksGenerator target then
        if ruuviMaxLowHeapMemCnt < s.mallocFailCnt + 1 then none
        else some ⟨world, s.mallocFailCnt + 1⟩
      else some ⟨world, 0⟩
    else some ⟨world, s.mallocFailCnt⟩
  | _, _ => some ⟨world, s.mallocFailCnt⟩

/-- If a start fails for a reason of its target, the next step tries another pending target. -/
def PassesOn (c : Conditions) (s : Dispatcher) : Prop :=
  ∀ target, s.world.tries c.env = some target → c.FailsFor target →
    ∀ s', s.doAsyncComm c = some s' →
      (∃ other, other ≠ target ∧ s'.world.state.needToSendTo other = true) →
      ∃ other, other ≠ target ∧ s'.world.tries c.env = some other

/-- Step after step another target is tried in vain while this one is pending. -/
def Starves (c : Conditions) (s : Dispatcher) (target : Destination) : Prop :=
  ∃ run : ℕ → Dispatcher, run 0 = s ∧ ∀ n, (run n).doAsyncComm c = some (run (n + 1)) ∧
    (run n).world.state.needToSendTo target = true ∧
    ∃ other, other ≠ target ∧ (run n).world.tries c.env = some other ∧ c.FailsFor other

/-- No other target is pending. -/
def OnlyPending (w : World) (target : Destination) : Prop :=
  ∀ other, other ≠ target → w.state.needToSendTo other = false

end Model

section Posting

variable {c : Conditions}

/-- A request for advertisements is posted exactly if `http_post_advs` says so. -/
theorem isAdvsPosted_eq {osStrToUint32Cptr : Bytes → ℕ → UInt32 × ℕ} {task : ℕ}
    {p : Http.AdvsParams} {target : AdvsTarget} {started : Bool} {http http' : Http.World}
    (hp : p.flagPostToRuuvi = decide (target = .ruuvi)) (hauth : p.authType = c.authType)
    (h : Http.httpPostAdvs osStrToUint32Cptr task p (c.advs target) http = some (started, http')) :
    started = c.isAdvsPosted target := by
  obtain ⟨locked, -, hsent⟩ := Option.map_eq_some_iff.mp h
  refine (congrArg Prod.fst hsent).symm.trans ?_
  unfold Http.httpSendAdvsInternal Http.World.send Http.httpSendAsync Conditions.isAdvsPosted
  dsimp only
  rw [← hp, hauth]
  cases (c.advs target).genCreated with
  | false => rfl
  | true =>
    cases (c.advs target).urlAllocated with
    | false => rfl
    | true =>
      cases (c.advs target).clientInit with
      | false => rfl
      | true =>
        cases p.flagPostToRuuvi <;>
          cases Http.httpHandleAddAuthorizationIfNeeded c.authType (c.advs target).authAllocated <;>
          cases (c.advs target).send.postDataSet <;> cases (c.advs target).send.again <;> rfl

end Posting

section Steps

variable {c : Conditions} {w : World} {env : Env} {target : Destination}

/-- The four tests of `adv_post_do_async_comm` are a search for the first pending target. -/
theorem startPending_eq (w : World) (env : Env) : advPostStartPending w env =
    if w.state.flagRelayingEnabled then
      match w.state.firstPending with
      | some target => (target.start w env).emit (.timer .doAsyncComm .start)
      | none => w
    else w := by
  unfold advPostStartPending AdvPostState.firstPending Destination.all
  cases w.state.flagRelayingEnabled with
  | false => rfl
  | true =>
    simp only [List.find?, AdvPostState.needToSendTo, AdvPostState.needToSendAdvs]
    cases w.state.flagNeedToSendAdvs1 with
    | true => rfl
    | false =>
      cases w.state.flagNeedToSendAdvs2 with
      | true => rfl
      | false =>
        cases w.state.flagNeedToSendStatistics with
        | true => rfl
        | false => cases w.state.flagNeedToSendMqttPeriodic <;> rfl

theorem inProgress_envFor (w : World) (c : Conditions) (target : Option Destination) :
    advPostDoAsyncCommInProgress w (c.envFor target) = advPostDoAsyncCommInProgress w c.env := by
  cases target with
  | none => rfl
  | some target => cases target <;> rfl

/-- A step continues the transfer in progress, or looks at the pending targets. -/
theorem doAsyncComm_of_idle {s w : World} (h : s.idle c.env = some w)
    (target : Option Destination) :
    advPostDoAsyncComm s (c.envFor target) = advPostStartPending w (c.envFor target) ∧
      w.state.flagAsyncCommInProgress = false := by
  unfold World.idle at h
  unfold advPostDoAsyncComm
  cases hprogress : s.state.flagAsyncCommInProgress with
  | false =>
    rw [hprogress] at h
    obtain rfl := Option.some.inj h
    exact ⟨rfl, hprogress⟩
  | true =>
    rw [hprogress, if_pos rfl] at h
    dsimp only at h
    split_ifs at h with hdone
    obtain rfl := Option.some.inj h
    rw [if_pos rfl, inProgress_envFor]
    dsimp only
    rw [hdone]
    exact ⟨rfl, rfl⟩

theorem idle_of_not_inProgress (h : w.state.flagAsyncCommInProgress = false) (env : Env) :
    w.idle env = some w := by
  unfold World.idle
  rw [h]
  rfl

theorem tries_of_idle {s : World} (hidle : s.idle env = some w)
    (hrelaying : w.state.flagRelayingEnabled = true) : s.tries env = w.state.firstPending := by
  unfold World.tries
  rw [hidle, Option.bind_some, if_pos hrelaying]

theorem tryLock_of_serviceable (h : Serviceable c w) :
    httpServerMutexTryLock w c.env = ({ w with mutexHeld := true }.emit .mutexLocked, true) := by
  unfold httpServerMutexTryLock
  rw [h.notHeld, h.notBusy]
  rfl

theorem mutexHeld_unlock (w : World) : (httpServerMutexUnlock w).mutexHeld = false := by
  unfold httpServerMutexUnlock
  split_ifs with hheld
  · rfl
  · exact Bool.eq_false_iff.mpr hheld

theorem retransmitToHttp_of_failed (w : World) (ts : Bool) (target : AdvsTarget)
    (hfails : env.gwCfgGetHttpCopy = false ∨ env.httpPostAdvs = false) :
    (advPostRetransmitToHttp w env ts target).2 = false ∧
      (advPostRetransmitToHttp w env ts target).1.state = w.state := by
  unfold advPostRetransmitToHttp advPostRetransmitAdvs
  dsimp only
  by_cases hcopy : env.gwCfgGetHttpCopy = true
  · have hposted := hfails.resolve_left (by simp [hcopy])
    rw [hcopy, hposted]
    exact ⟨rfl, rfl⟩
  · rw [Bool.not_eq_true] at hcopy
    rw [hcopy]
    exact ⟨rfl, rfl⟩

theorem doRetransmission_of_failed (w : World) (ts : Bool) (target : AdvsTarget)
    (hfails : env.gwCfgGetHttpCopy = false ∨ env.httpPostAdvs = false) :
    (advPostDoRetransmission w env ts target.action).2 = false ∧
      (advPostDoRetransmission w env ts target.action).1.state = w.state := by
  unfold advPostDoRetransmission
  cases target
  · dsimp only [AdvsTarget.action]
    split_ifs
    · exact ⟨rfl, rfl⟩
    · exact retransmitToHttp_of_failed w ts _ hfails
  · dsimp only [AdvsTarget.action]
    split_ifs
    · exact ⟨rfl, rfl⟩
    · exact retransmitToHttp_of_failed w ts _ hfails

theorem statisticsDoSend_of_failed (w : World)
    (hfails : env.gwCfgGetHttpStatCopy = false ∨ env.httpPostStat = false) :
    (advPostStatisticsDoSend w env).2 = false ∧
      (advPostStatisticsDoSend w env).1.state = w.state := by
  unfold advPostStatisticsDoSend advPostStat
  dsimp only
  split_ifs with hcopy
  · exact ⟨rfl, rfl⟩
  · exact ⟨rfl, rfl⟩
  · exact ⟨rfl, rfl⟩
  · exact ⟨rfl, rfl⟩
  · exact ⟨hfails.resolve_left (by simpa using hcopy), rfl⟩

/-- A start that fails gives the lock back and changes nothing else of the state. -/
theorem start_of_failsFor (h : Serviceable c w) (hfails : c.FailsFor target) :
    (target.start w (c.envFor (some target))).state = w.state ∧
      (target.start w (c.envFor (some target))).mutexHeld = false := by
  have hlock : httpServerMutexTryLock w (c.envFor (some target)) =
      ({ w with mutexHeld := true }.emit .mutexLocked, true) := by
    cases target <;> exact tryLock_of_serviceable h
  have htime : timeConditionMet w (c.envFor (some target)) = true := by
    cases target <;> exact h.time
  cases target with
  | advs target =>
    obtain ⟨hsent, hstate⟩ := doRetransmission_of_failed (w.lockFor target.action)
      w.state.flagUseTimestamps target (show
        (c.envFor (some (.advs target))).gwCfgGetHttpCopy = false ∨ _ from hfails.2)
    dsimp only [Destination.start]
    unfold advPostDoAsyncCommSendAdvs
    simp only [h.network, htime, hlock, Bool.not_true, Bool.false_eq_true, if_false]
    split_ifs with hstarted
    · exact ⟨(unlock_fields _).1.trans hstate, mutexHeld_unlock _⟩
    · exact absurd (congrArg not hsent) hstarted
  | statistics =>
    have huse : (c.envFor (some .statistics)).gwCfgGetHttpStatUseHttpStat = true := hfails.1
    obtain ⟨hsent, hstate⟩ := statisticsDoSend_of_failed (w.lockFor .postStats) (show
        (c.envFor (some .statistics)).gwCfgGetHttpStatCopy = false ∨ _ from
          hfails.2.imp id fun hposted => hposted.2.2.2)
    dsimp only [Destination.start]
    unfold advPostDoAsyncCommSendStatistics
    simp only [huse, h.network, htime, hlock, Bool.not_true, Bool.false_eq_true, if_false]
    split_ifs with hstarted
    · exact ⟨(unlock_fields _).1.trans hstate, mutexHeld_unlock _⟩
    · exact absurd (congrArg not hsent) hstarted
  | periodicMqtt => exact hfails.elim

end Steps

section Dispatching

variable {c : Conditions} {s s' : Dispatcher} {w : World} {target other : Destination}

theorem reaches_of_lacksGenerator (h : Serviceable c w) (hlacks : c.LacksGenerator target) :
    c.Reaches w target := by
  cases target with
  | advs target =>
    refine ⟨h.network, h.time, ?_, hlacks.1, hlacks.2.1⟩
    rw [tryLock_of_serviceable h]
  | statistics | periodicMqtt => exact hlacks.elim

/-- The dispatcher stands before a target that cannot be started. -/
structure Blocked (c : Conditions) (s : Dispatcher) (w : World) (target : Destination) : Prop where
  idle : s.world.idle c.env = some w
  serviceable : Serviceable c w
  first : w.state.firstPending = some target
  fails : c.FailsFor target

theorem Blocked.tries (h : Blocked c s w target) : s.world.tries c.env = some target :=
  (tries_of_idle h.idle h.serviceable.relaying).trans h.first

/-- The step restarts the gateway, or leaves everything as it was for the next one. -/
theorem Blocked.doAsyncComm (h : Blocked c s w target) :
    (c.LacksGenerator target ∧ ruuviMaxLowHeapMemCnt < s.mallocFailCnt + 1 ∧
        s.doAsyncComm c = none) ∨
      ∃ s', s.doAsyncComm c = some s' ∧ s'.world.state = w.state ∧
        Blocked c s' s'.world target ∧
        (c.LacksGenerator target → s'.mallocFailCnt = s.mallocFailCnt + 1 ∧
          s'.mallocFailCnt ≤ ruuviMaxLowHeapMemCnt) := by
  obtain ⟨hstate, hheld⟩ := start_of_failsFor h.serviceable h.fails
  obtain ⟨hstep, hidle⟩ := doAsyncComm_of_idle h.idle (some target)
  rw [startPending_eq, if_pos h.serviceable.relaying, h.first] at hstep
  dsimp only at hstep
  have hsame : (advPostDoAsyncComm s.world (c.envFor (some target))).state = w.state := by
    rw [hstep]
    exact hstate
  have hblocked (cnt : ℕ) : Blocked c ⟨advPostDoAsyncComm s.world (c.envFor (some target)), cnt⟩
      (advPostDoAsyncComm s.world (c.envFor (some target))) target := by
    refine ⟨idle_of_not_inProgress (by rw [hsame, hidle]) _, ⟨?_, ?_, ?_, ?_, ?_⟩, ?_, h.fails⟩
    · rw [hsame]
      exact h.serviceable.relaying
    · rw [hsame]
      exact h.serviceable.network
    · rw [timeConditionMet, hsame]
      exact h.serviceable.time
    · rw [hstep]
      exact hheld
    · exact h.serviceable.notBusy
    · rw [hsame]
      exact h.first
  unfold Dispatcher.doAsyncComm
  rw [h.tries, h.idle]
  dsimp only
  by_cases hlacks : c.LacksGenerator target
  · rw [if_pos (reaches_of_lacksGenerator h.serviceable hlacks), if_pos hlacks]
    by_cases hmax : ruuviMaxLowHeapMemCnt < s.mallocFailCnt + 1
    · exact .inl ⟨hlacks, hmax, if_pos hmax⟩
    · exact .inr ⟨_, if_neg hmax, hsame, hblocked _, fun _ => ⟨rfl, Nat.le_of_not_lt hmax⟩⟩
  · right
    split_ifs
    · exact ⟨_, rfl, hsame, hblocked _, fun h => absurd h hlacks⟩
    · exact ⟨_, rfl, hsame, hblocked _, fun h => absurd h hlacks⟩

/-- A step from a blocked dispatcher that does not restart the gateway. -/
theorem Blocked.next (h : Blocked c s w target) (hs' : s.doAsyncComm c = some s') :
    s'.world.state = w.state ∧ Blocked c s' s'.world target ∧
      (c.LacksGenerator target → s'.mallocFailCnt = s.mallocFailCnt + 1 ∧
        s'.mallocFailCnt ≤ ruuviMaxLowHeapMemCnt) := by
  rcases h.doAsyncComm with ⟨-, -, hnone⟩ | ⟨s₁, hs₁, hrest⟩
  · rw [hnone] at hs'
    exact absurd hs' nofun
  · obtain rfl := Option.some.inj (hs₁.symm.trans hs')
    exact hrest

theorem not_onlyPending (h : ¬OnlyPending w target) :
    ∃ other, other ≠ target ∧ w.state.needToSendTo other = true := by
  unfold OnlyPending at h
  push Not at h
  obtain ⟨other, hne, hpending⟩ := h
  exact ⟨other, hne, by simpa using hpending⟩

/-- The first step decides whether the next one passes on. -/
theorem passesOn_iff (hidle : s.world.idle c.env = some w) (hserviceable : Serviceable c w) :
    PassesOn c s ↔ ∀ target, w.state.firstPending = some target → c.FailsFor target →
      OnlyPending w target ∨
        c.LacksGenerator target ∧ ruuviMaxLowHeapMemCnt < s.mallocFailCnt + 1 := by
  have htries := tries_of_idle hidle hserviceable.relaying
  unfold PassesOn
  rw [htries]
  refine forall_congr' fun target => forall_congr' fun hfirst => forall_congr' fun hfails => ?_
  have hblocked : Blocked c s w target := ⟨hidle, hserviceable, hfirst, hfails⟩
  constructor
  · intro hpasses
    rcases hblocked.doAsyncComm with ⟨hlacks, hmax, -⟩ | ⟨s', hs', hsame, hblocked', -⟩
    · exact .inr ⟨hlacks, hmax⟩
    · left
      by_contra hother
      obtain ⟨other, hne, hpending⟩ := not_onlyPending hother
      obtain ⟨next, hnext, htried⟩ := hpasses s' hs' ⟨other, hne, by rw [hsame]; exact hpending⟩
      exact hnext (Option.some.inj (htried.symm.trans hblocked'.tries))
  · rintro (honly | ⟨hlacks, hmax⟩) s' hs' ⟨other, hne, hpending⟩
    · rw [(hblocked.next hs').1, honly other hne] at hpending
      exact absurd hpending Bool.false_ne_true
    · obtain ⟨hcnt, hle⟩ := (hblocked.next hs').2.2 hlacks
      omega

/-- Repeating the step as long as it does not restart the gateway. -/
def Dispatcher.iterate (c : Conditions) (s : Dispatcher) : ℕ → Dispatcher
  | 0 => s
  | n + 1 => ((s.iterate c n).doAsyncComm c).getD s

/-- Without a restart the dispatcher stays where it is. -/
theorem Blocked.iterate (h : Blocked c s w target) (hgenerator : ¬c.LacksGenerator target)
    (hpending : s.world.state.needToSendTo other = true) (hsame : w.state.needToSendTo other = true)
    (n : ℕ) : (s.iterate c n).doAsyncComm c = some (s.iterate c (n + 1)) ∧
      (s.iterate c n).world.state.needToSendTo other = true ∧
      ∃ w', Blocked c (s.iterate c n) w' target ∧ w'.state.needToSendTo other = true := by
  have hstep {s : Dispatcher} {w : World} (hb : Blocked c s w target) :
      ∃ s', s.doAsyncComm c = some s' ∧ s'.world.state = w.state ∧
        Blocked c s' s'.world target := by
    rcases hb.doAsyncComm with ⟨hlacks, -⟩ | ⟨s', hs', hstate, hb', -⟩
    · exact absurd hlacks hgenerator
    · exact ⟨s', hs', hstate, hb'⟩
  induction n with
  | zero =>
    obtain ⟨s', hs', -⟩ := hstep h
    refine ⟨?_, hpending, w, h, hsame⟩
    simp [Dispatcher.iterate, hs']
  | succ n ih =>
    obtain ⟨hn, -, w', hb, hw'⟩ := ih
    obtain ⟨hstate, hb', -⟩ := hb.next hn
    obtain ⟨s', hs', -⟩ := hstep hb'
    have hpending' : (s.iterate c (n + 1)).world.state.needToSendTo other = true := by
      rw [hstate]
      exact hw'
    refine ⟨?_, hpending', _, hb', hpending'⟩
    have hnext : s.iterate c (n + 1 + 1) = s' := congrArg (Option.getD · s) hs'
    rw [hs', hnext]

/-- The end of a transfer makes no target pending. -/
theorem needToSend_of_idle {w₀ : World} {env : Env} (h : w₀.idle env = some w)
    (hpending : w.state.needToSendTo target = true) : w₀.state.needToSendTo target = true := by
  have hcompleted : w₀.httpCompleted.state.needToSendTo target = true →
      w₀.state.needToSendTo target = true := by
    unfold World.httpCompleted
    cases w₀.action <;> rcases target with (_ | _) | _ | _ <;>
      simp [AdvPostState.needToSendTo, AdvPostState.needToSendAdvs]
  have hunlocked : (httpServerMutexUnlock w₀.httpCompleted).state = w₀.httpCompleted.state :=
    (unlock_fields _).1
  have hmqtt : (advPostDoAsyncCommInProgressMqtt w₀ env).1.state = w₀.state := by
    unfold advPostDoAsyncCommInProgressMqtt World.freeMqttReports
    split
    · rfl
    · dsimp only
      split_ifs <;> rfl
  have hprogress : (advPostDoAsyncCommInProgress w₀ env).1.state.needToSendTo target = true →
      w₀.state.needToSendTo target = true := by
    unfold advPostDoAsyncCommInProgress
    dsimp only
    split_ifs
    · exact id
    · rw [hunlocked]
      exact hcompleted
    · rw [← hmqtt]
      exact id
    · rw [← hmqtt]
      exact id
  unfold World.idle at h
  dsimp only at h
  split_ifs at h
  · obtain rfl := Option.some.inj h
    apply hprogress
    rcases target with (_ | _) | _ | _ <;> exact hpending
  · obtain rfl := Option.some.inj h
    exact hpending

theorem starves_of_blocked (h : Blocked c s w target) (hgenerator : ¬c.LacksGenerator target)
    (hne : other ≠ target) (hpending : w.state.needToSendTo other = true) : Starves c s other := by
  have hboth := h.iterate hgenerator (needToSend_of_idle h.idle hpending) hpending
  refine ⟨s.iterate c, rfl, fun n => ?_⟩
  obtain ⟨hstep, hwaits, w', hblocked, -⟩ := hboth n
  exact ⟨hstep, hwaits, target, hne.symm, hblocked.tries, h.fails⟩

/-- Without memory for the generator the gateway restarts after a few steps. -/
theorem not_run_of_lacksGenerator {run : ℕ → Dispatcher} (hlacks : c.LacksGenerator target)
    (hblocked : ∃ w, Blocked c (run 0) w target)
    (hsteps : ∀ n, (run n).doAsyncComm c = some (run (n + 1))) : False := by
  have hcount (n : ℕ) : ∃ w, Blocked c (run n) w target ∧ n ≤ (run n).mallocFailCnt := by
    induction n with
    | zero =>
      obtain ⟨w, hb⟩ := hblocked
      exact ⟨w, hb, Nat.zero_le _⟩
    | succ n ih =>
      obtain ⟨w, hb, hn⟩ := ih
      obtain ⟨-, hb', hcnt⟩ := hb.next (hsteps n)
      obtain ⟨hcnt, -⟩ := hcnt hlacks
      exact ⟨_, hb', by omega⟩
  obtain ⟨w, hb, hn⟩ := hcount ruuviMaxLowHeapMemCnt
  obtain ⟨-, -, hcnt⟩ := hb.next (hsteps _)
  obtain ⟨hcnt, hle⟩ := hcnt hlacks
  omega

theorem starves_iff (hidle : s.world.idle c.env = some w) (hserviceable : Serviceable c w) :
    (∀ target, ¬Starves c s target) ↔ ∀ target, w.state.firstPending = some target →
      c.FailsFor target → OnlyPending w target ∨ c.LacksGenerator target := by
  constructor
  · intro hnone target hfirst hfails
    by_contra hneither
    rw [not_or] at hneither
    obtain ⟨other, hne, hpending⟩ := not_onlyPending hneither.1
    have hblocked : Blocked c s w target := ⟨hidle, hserviceable, hfirst, hfails⟩
    exact hnone other (starves_of_blocked hblocked hneither.2 hne hpending)
  · rintro hcond target ⟨run, rfl, hrun⟩
    obtain ⟨hstep, -, other, hne, htried, hfails⟩ := hrun 0
    rw [tries_of_idle hidle hserviceable.relaying] at htried
    have hblocked : Blocked c (run 0) w other := ⟨hidle, hserviceable, htried, hfails⟩
    rcases hcond other htried hfails with honly | hlacks
    · have hwaits := (hrun 1).2.1
      rw [(hblocked.next hstep).1, honly target hne.symm] at hwaits
      exact Bool.false_ne_true hwaits
    · exact not_run_of_lacksGenerator hlacks ⟨w, hblocked⟩ fun n => (hrun n).1

/-- The next step tries another pending target after a start that has failed, and no pending target
waits for ever behind one that keeps failing, if and only if the first pending target can be
started or is the only one, unless memory for its JSON generator is missing until the gateway
restarts. -/
theorem dispatch_passesOn_iff (c : Conditions) (s : Dispatcher) (w : World)
    (hidle : s.world.idle c.env = some w) (hserviceable : Serviceable c w) :
    (PassesOn c s ↔ ∀ target, w.state.firstPending = some target → c.FailsFor target →
      OnlyPending w target ∨
        c.LacksGenerator target ∧ ruuviMaxLowHeapMemCnt < s.mallocFailCnt + 1) ∧
    ((∀ target, ¬Starves c s target) ↔ ∀ target, w.state.firstPending = some target →
      c.FailsFor target → OnlyPending w target ∨ c.LacksGenerator target) :=
  ⟨passesOn_iff hidle hserviceable, starves_iff hidle hserviceable⟩

end Dispatching

section Failures

def sampleAdvsOutcome : Http.AdvsOutcome :=
  ⟨true, true, ⟨true, true, true⟩, true, true, ⟨true, [], true⟩⟩

/-- The client cannot be created with the URL of the custom target. -/
def badCustomUrl : Conditions where
  env := { gwCfgGetHttpUseHttp := true, gwCfgGetHttpStatUseHttpStat := true }
  authType := .none
  advs
    | .ruuvi => sampleAdvsOutcome
    | .custom => { sampleAdvsOutcome with clientInit := false }
  stat := sampleStatOutcome

/-- A connected gateway with these targets pending. -/
def pendingWorld (advs2 statistics : Bool) : World :=
  { World.initial 0 0 with
    state := { AdvPostState.initial with
      flagNetworkConnected := true
      flagNeedToSendAdvs2 := advs2
      flagNeedToSendStatistics := statistics } }

theorem serviceable_pendingWorld (advs2 statistics : Bool) :
    Serviceable badCustomUrl (pendingWorld advs2 statistics) := ⟨rfl, rfl, rfl, rfl, rfl⟩

/-- A target that fails alone keeps nobody waiting. -/
theorem dispatch_passesOn_sample :
    PassesOn badCustomUrl ⟨pendingWorld true false, 0⟩ ∧
      ∀ target, ¬Starves badCustomUrl ⟨pendingWorld true false, 0⟩ target := by
  have honly (target : Destination)
      (hfirst : (pendingWorld true false).state.firstPending = some target) :
      OnlyPending (pendingWorld true false) target := by
    obtain rfl : Destination.advs .custom = target := Option.some.inj hfirst
    rintro ((_ | _) | _ | _) hne
    · rfl
    · exact absurd rfl hne
    · rfl
    · rfl
  obtain ⟨hpasses, hstarves⟩ := dispatch_passesOn_iff badCustomUrl ⟨pendingWorld true false, 0⟩
    (pendingWorld true false) rfl (serviceable_pendingWorld true false)
  exact ⟨hpasses.mpr fun target hfirst _ => .inl (honly target hfirst),
    hstarves.mpr fun target hfirst _ => .inl (honly target hfirst)⟩

/-- The statistics wait for ever behind a custom URL that the client rejects. -/
theorem dispatch_blocks :
    Serviceable badCustomUrl (pendingWorld true true) ∧
      ¬PassesOn badCustomUrl ⟨pendingWorld true true, 0⟩ ∧
      Starves badCustomUrl ⟨pendingWorld true true, 0⟩ .statistics := by
  have hserviceable := serviceable_pendingWorld true true
  have hfails : badCustomUrl.FailsFor (.advs .custom) := ⟨rfl, .inr rfl⟩
  have hblocked : Blocked badCustomUrl ⟨pendingWorld true true, 0⟩ (pendingWorld true true)
      (.advs .custom) := ⟨rfl, hserviceable, rfl, hfails⟩
  have hgenerator : ¬badCustomUrl.LacksGenerator (.advs .custom) := by decide
  refine ⟨hserviceable, fun hpasses => ?_, starves_of_blocked hblocked hgenerator (by decide) rfl⟩
  rcases hblocked.doAsyncComm with ⟨hlacks, -⟩ | ⟨s', hs', hstate, hblocked', -⟩
  · exact hgenerator hlacks
  · have hpending : s'.world.state.needToSendTo .statistics = true := by
      rw [hstate]
      rfl
    obtain ⟨other, hne, htried⟩ := hpasses _ rfl hfails s' hs' ⟨.statistics, by decide, hpending⟩
    exact hne (Option.some.inj (htried.symm.trans hblocked'.tries))

end Failures

end RuuviGateway.AdvPost
