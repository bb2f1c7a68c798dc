import RuuviGateway.Relaying.Stopped

/-!
# What a returned suspension can rely on

A call that suspends relaying and waits is confirmed when it returns without a timeout.
Relaying has then stopped and stays stopped, provided that two orders of steps do not
occur: a nested suspension does not wait for the one before it, and a task may clear the
command bit of a suspension that came after the task had read the counter.
-/

namespace RuuviGateway.Relaying

open AdvPost General

variable {w w' : World}

section Promise

/-- A suspension that waits, has not hit its timeout and has not been resumed. -/
def Call.promised (c : Call) : Bool :=
  decide (c.op = .suspend) && c.flagWait && !c.timedOut && !c.resumed

/-- The call counts as a suspension of the given way of relaying. -/
def Call.suspends (via : Via) (c : Call) : Bool :=
  decide (c.op = .suspend) && !c.resumed && c.scope.covers via

def Call.confirmed (c : Call) : Bool := c.promised && decide (c.pc = .returned)

/-- The call has passed the point where it sets a command bit. -/
def CallPc.raised : CallPc → Via → Bool
  | .entered, _ | .setCmd .http, _ | .setCmd .mqtt, .mqtt => false
  | _, _ => true

/-- The call has left the waiting loop. -/
def CallPc.passed : CallPc → Via → Bool
  | .wait .http, .mqtt | .returned, _ => true
  | _, _ => false

/-- The call has set the command bit, and its confirmation is still to come. -/
def Call.awaits (via : Via) (c : Call) : Bool :=
  c.promised && c.scope.covers via && c.notify via && c.pc.raised via && !c.pc.passed via

/-- Every confirmed suspension keeps its promise. -/
def World.SuspensionsHold (w : World) : Prop :=
  ∀ c ∈ w.calls, c.confirmed = true → ∀ via, c.scope.covers via = true → w.stopped via = true

end Promise

section Guards

/-- A nested suspension is made to wait only after the earlier ones have taken effect. -/
def nestsSettled (w : World) : Label → Bool
  | .suspend scope true => [Via.http, Via.mqtt].all fun via =>
      !scope.covers via || decide (w.status.cntSuspended via = 0) || w.settled via
  | _ => true

/-- A task that has read the counter while relaying was enabled does not clear the command
bit of a later suspension. -/
def clearsSeen (w : World) : Label → Bool
  | .advPostRelaying =>
      !(decide (w.advPostPc = .aborted) && w.advPost.state.flagRelayingEnabled &&
        w.calls.any (Call.awaits .http))
  | .main _ =>
      !(decide (w.mainPc = .relayingClear false) && w.calls.any (Call.awaits .mqtt))
  | _ => true

end Guards

/-! ## The invariant -/

/-- What a suspension in any phase can count on for one way of relaying: it has stopped for
good, or the command bit of the suspension has not been cleared. -/
def Kept (w : World) (c : Call) (via : Via) : Prop :=
  w.settled via = true ∨
    c.notify via = true ∧
      (c.pc.raised via = true → w.status.relayingCmd via = true ∧ c.pc.passed via = false)

structure Invariant (w : World) : Prop where
  counters : ∀ via, w.status.cntSuspended via = w.calls.countP (Call.suspends via)
  kept : ∀ c ∈ w.calls, c.promised = true → ∀ via, c.scope.covers via = true → Kept w c via
  /-- The posting task has aborted its transfer before it clears the bit. -/
  advPostDone : w.advPostPc = .aborted → w.advPost.state.flagRelayingEnabled = false →
    w.advPost.httpStopped = true
  mainDone : w.mainPc = .relayingClear true → w.mqttClient = false

theorem invariant_initial (nonce statNonce : UInt32) :
    Invariant (World.initial nonce statNonce) :=
  ⟨fun _ => rfl, nofun, nofun, nofun⟩

theorem suspends_of_promised {c : Call} {via : Via} (h : c.promised = true)
    (hcovers : c.scope.covers via = true) : c.suspends via = true := by
  simp only [Call.promised, Call.suspends, Bool.and_eq_true] at h ⊢
  exact ⟨⟨h.1.1.1, h.2⟩, hcovers⟩

/-- While a suspension has not been resumed, its counters are positive. -/
theorem Invariant.cnt_ne_zero (h : Invariant w) {c : Call} (hc : c ∈ w.calls)
    (hpromised : c.promised = true) {via : Via} (hcovers : c.scope.covers via = true) :
    w.status.cntSuspended via ≠ 0 := by
  rw [h.counters via]
  have hpos : 0 < w.calls.countP (Call.suspends via) :=
    List.countP_pos_iff.mpr ⟨c, hc, suspends_of_promised hpromised hcovers⟩
  omega

theorem Invariant.suspensionsHold (h : Invariant w) : w.SuspensionsHold := by
  intro c hc hconfirmed via hcovers
  obtain ⟨hpromised, hpc⟩ := Bool.and_eq_true_iff.mp hconfirmed
  have hpc : c.pc = .returned := of_decide_eq_true hpc
  rcases h.kept c hc hpromised via hcovers with hsettled | ⟨-, hraised⟩
  · exact stopped_of_settled hsettled
  · rw [hpc] at hraised
    exact absurd (hraised rfl).2 (by simp [CallPc.passed])

/-! ## Steps of the tasks -/

/-- A task that leaves the calls and the counters alone keeps what suspensions count on, if
it keeps settled ways of relaying settled and clears no bit that a suspension awaits. -/
theorem Invariant.taskStep (h : Invariant w) (hcalls : w'.calls = w.calls)
    (hcnt : w'.status.cntSuspended = w.status.cntSuspended)
    (hsettled : ∀ via, w.status.cntSuspended via ≠ 0 → w.settled via = true →
      w'.settled via = true)
    (hcmd : ∀ via, w'.status.relayingCmd via = w.status.relayingCmd via ∨
      (w'.settled via = true ∨ ∀ c ∈ w.calls, c.awaits via = false))
    (hadvPost : w'.advPostPc = .aborted → w'.advPost.state.flagRelayingEnabled = false →
      w'.advPost.httpStopped = true)
    (hmain : w'.mainPc = .relayingClear true → w'.mqttClient = false) : Invariant w' := by
  refine ⟨fun via => ?_, fun c hc hpromised via hcovers => ?_, hadvPost, hmain⟩
  · rw [hcnt, hcalls]
    exact h.counters via
  rw [hcalls] at hc
  have hpos := h.cnt_ne_zero hc hpromised hcovers
  rcases h.kept c hc hpromised via hcovers with hold | ⟨hnotify, hraised⟩
  · exact .inl (hsettled via hpos hold)
  rcases hcmd via with hsame | hsettled' | hnone
  · exact .inr ⟨hnotify, fun hr => hsame ▸ hraised hr⟩
  · exact .inl hsettled'
  · -- a bit that nobody awaits belongs to calls that have not set it yet
    refine .inr ⟨hnotify, fun hr => ?_⟩
    have hawaits := hnone c hc
    rw [Call.awaits, hpromised, hcovers, hnotify, hr, (hraised hr).2] at hawaits
    cases hawaits

theorem clearCmd_ne (s : Status) {via via' : Via} (hne : via ≠ via') :
    (s.clearCmd via').relayingCmd via = s.relayingCmd via := if_neg hne

theorem Invariant.advPostRelaying (h : Invariant w)
    (hguard : clearsSeen w .advPostRelaying = true) (hstep : advPostRelayingStep w = some w') :
    Invariant w' := by
  have hframe := advPostRelaying_frame hstep
  have hcnt : w'.status.cntSuspended = w.status.cntSuspended := by
    rcases hframe.status with heq | ⟨-, heq⟩ <;> rw [heq]
    rfl
  have hsettled : ∀ via, w.status.cntSuspended via ≠ 0 → w.settled via = true →
      w'.settled via = true := fun _ => advPostRelaying_settled hstep
  refine h.taskStep hframe.calls hcnt hsettled (fun via => ?_) (fun haborted hoff => ?_) ?_
  · rcases hframe.status with heq | ⟨haborted, heq⟩
    · rw [heq]
      exact .inl rfl
    rw [heq]
    by_cases hvia : via = .http
    · subst hvia
      refine .inr ?_
      have hguard : w.advPost.state.flagRelayingEnabled = false ∨
          ∀ c ∈ w.calls, c.awaits .http = false := by
        simpa [clearsSeen, haborted, or_iff_not_imp_left] using hguard
      refine hguard.imp_left fun hoff => settled_http_iff.mpr ?_
      have hstopped := h.advPostDone haborted hoff
      unfold advPostRelayingStep at hstep
      rw [haborted] at hstep
      cases hstep
      exact ⟨hstopped, nofun⟩
    · exact .inl (clearCmd_ne _ hvia)
  · unfold advPostRelayingStep at hstep
    split at hstep
    · split_ifs at hstep
      cases hstep
      cases haborted
    · cases hstep
      cases haborted
    · cases hstep
      exact httpStopped_abort ((relaying_abort _).symm.trans hoff)
    · cases hstep
      cases haborted
  · rw [hframe.mainPc, hframe.mqttClient]
    exact h.mainDone

theorem Invariant.advPostSignal (h : Invariant w) {sig : Sig} {env : Env}
    (hstep : advPostSignalStep w sig env = some w') : Invariant w' := by
  have hsettled : ∀ via, w.status.cntSuspended via ≠ 0 → w.settled via = true →
      w'.settled via = true := fun _ _ => advPostSignal_settled hstep
  unfold advPostSignalStep at hstep
  split_ifs at hstep with hidle
  cases hstep
  refine h.taskStep rfl rfl hsettled (fun _ => .inl rfl) (fun haborted => ?_) h.mainDone
  rw [hidle.1] at haborted
  cases haborted

theorem main_clears {env : MainEnv} (hstep : mainStep w env = some w')
    (hpc : w'.mainPc = .relayingClear true) : w'.mqttClient = false := by
  unfold mainStep at hstep
  split at hstep
  case h_2 =>
    split_ifs at hstep
    cases hstep
    have hne : mainRelayingChoice w env ≠ .relayingClear true := by
      unfold mainRelayingChoice
      split_ifs <;> nofun
    exact absurd hpc hne
  case h_4 => cases hstep; rfl
  case h_7 => split_ifs at hstep <;> cases hstep <;> cases hpc
  all_goals cases hstep; cases hpc

theorem Invariant.main (h : Invariant w) {env : MainEnv}
    (hguard : clearsSeen w (.main env) = true) (hstep : mainStep w env = some w') :
    Invariant w' := by
  have hframe := main_frame hstep
  have hcnt : w'.status.cntSuspended = w.status.cntSuspended := by
    rcases hframe.status with heq | ⟨_, -, heq⟩ <;> rw [heq]
    rfl
  have hsettled : ∀ via, w.status.cntSuspended via ≠ 0 → w.settled via = true →
      w'.settled via = true := fun _ => main_settled hstep
  refine h.taskStep hframe.calls hcnt hsettled (fun via => ?_) ?_ (main_clears hstep)
  · rcases hframe.status with heq | ⟨stopped, hclear, heq⟩
    · rw [heq]
      exact .inl rfl
    rw [heq]
    by_cases hvia : via = .mqtt
    · subst hvia
      refine .inr ?_
      cases stopped with
      | false => exact .inr (by simpa [clearsSeen, hclear] using hguard)
      | true =>
        refine .inl (settled_mqtt_iff.mpr ?_)
        have hclient := h.mainDone hclear
        unfold mainStep at hstep
        rw [hclear] at hstep
        cases hstep
        exact ⟨hclient, rfl⟩
    · exact .inl (clearCmd_ne _ hvia)
  · rw [hframe.advPost, hframe.advPostPc]
    exact h.advPostDone

/-! ## Steps of the calls -/

/-- What a step of a call leaves alone, and what it keeps for a call that has a promise. -/
structure CallFrame (c c' : Call) (s s' : Status) : Prop where
  op : c'.op = c.op
  scope : c'.scope = c.scope
  notify : c'.notify = c.notify
  resumed : c'.resumed = c.resumed
  promised : c'.promised = true → c.promised = true
  cnt : s'.cntSuspended = s.cntSuspended
  cmd : ∀ via, s.relayingCmd via = true → s'.relayingCmd via = true
  raised : c'.promised = true → ∀ via, c.notify via = true →
    (c.pc.raised via = true → s.relayingCmd via = true ∧ c.pc.passed via = false) →
    c'.pc.raised via = true → s'.relayingCmd via = true ∧ c'.pc.passed via = false

/-- A step that moves the program counter only. -/
theorem callFrame_pc (c : Call) (s : Status) (pc : CallPc)
    (h : c.promised = true → ∀ via, c.notify via = true →
      (c.pc.raised via = true → s.relayingCmd via = true ∧ c.pc.passed via = false) →
      pc.raised via = true → s.relayingCmd via = true ∧ pc.passed via = false) :
    CallFrame c { c with pc := pc } s s :=
  ⟨rfl, rfl, rfl, rfl, id, rfl, fun _ hcmd => hcmd, h⟩

/-- The step that sets a command bit if the flag of the call asks for it. -/
theorem callFrame_setCmd (c : Call) (s : Status) (via : Via) (pc : CallPc)
    (hpc : c.pc = .setCmd via) (hpassed : ∀ v, pc.passed v = false)
    (hraised : ∀ v, pc.raised v = true → c.pc.raised v = true ∨ v = via) :
    CallFrame c { c with pc := pc } s (if c.notify via then s.setCmd via else s) := by
  have hcmd : ∀ v, s.relayingCmd v = true →
      (if c.notify via then s.setCmd via else s).relayingCmd v = true := by
    intro v hv
    split_ifs
    · exact s.relayingCmd_setCmd hv
    · exact hv
  refine ⟨rfl, rfl, rfl, rfl, id, ?_, hcmd, fun _ v hnotify hold hnew => ⟨?_, hpassed v⟩⟩
  · split_ifs <;> rfl
  rcases hraised v hnew with hbefore | rfl
  · exact hcmd v (hold hbefore).1
  · rw [if_pos hnotify]
    exact if_pos rfl

/-- The end of a waiting loop whose condition is met. -/
theorem callFrame_leaveWait (c : Call) (s : Status) (via : Via) (hpc : c.pc = .wait via)
    (hdone : ¬(c.notify via && !s.isCmdHandled via) = true) :
    CallFrame c (c.leaveWait via) s s := by
  have hclear : c.notify via = true → s.relayingCmd via = false := by
    simpa [Status.isCmdHandled] using hdone
  cases via with
  | mqtt =>
    refine callFrame_pc c s _ fun _ v hnotify hold _ => ?_
    rw [hpc] at hold
    cases v with
    | http => exact ⟨(hold rfl).1, rfl⟩
    | mqtt =>
      have hcmd := (hold rfl).1
      rw [hclear hnotify] at hcmd
      cases hcmd
  | http =>
    refine callFrame_pc c s _ fun _ v hnotify hold _ => ?_
    rw [hpc] at hold
    cases v with
    | http =>
      have hcmd := (hold rfl).1
      rw [hclear hnotify] at hcmd
      cases hcmd
    | mqtt => cases (hold rfl).2

theorem callFrame_notify (c : Call) (s : Status) {advPost main : Bool}
    (hpc : c.pc = .notify advPost main) (pc : CallPc) (hpassed : ∀ v, pc.passed v = false) :
    CallFrame c { c with pc := pc } s s := by
  refine callFrame_pc c s _ fun _ v _ hold _ => ?_
  rw [hpc] at hold
  exact ⟨(hold rfl).1, hpassed v⟩

theorem call_frame {c c' : Call} {s s' : Status} {event : CallEvent} {sent : Option Subscriber}
    (hstep : c.step s event = some (c', s', sent)) : CallFrame c c' s s' := by
  cases event with
  | proceed =>
    simp only [Call.step] at hstep
    split at hstep
    case h_1 hpc =>
      split_ifs at hstep with hnone
      · cases hstep
        refine callFrame_pc c s _ fun _ v hnotify _ _ => ?_
        cases v <;> simp [hnotify] at hnone
      · cases hstep
        exact callFrame_pc c s _ fun _ v _ _ hraised => by cases v <;> cases hraised
    case h_2 hpc =>
      cases hstep
      refine callFrame_setCmd c s .http _ hpc (fun _ => rfl) fun v hraised => ?_
      cases v
      · exact .inr rfl
      · cases hraised
    case h_3 hpc =>
      cases hstep
      refine callFrame_setCmd c s .mqtt _ hpc (fun _ => rfl) fun v _ => ?_
      cases v
      · exact .inl (by rw [hpc]; rfl)
      · exact .inr rfl
    case h_4 via hpc =>
      split_ifs at hstep with hdone
      cases hstep
      exact callFrame_leaveWait c s via hpc hdone
    case h_5 hpc =>
      cases hstep
      unfold Call.notified
      by_cases hwait : c.flagWait = true
      · rw [if_pos hwait]
        exact callFrame_notify c s hpc _ fun v => by cases v <;> rfl
      · rw [if_neg hwait]
        refine callFrame_pc c s _ fun hpromised => ?_
        simp [Call.promised, hwait] at hpromised
    all_goals cases hstep
  | signal task =>
    cases task <;>
    · simp only [Call.step] at hstep
      split at hstep
      · rename_i hpc
        cases hstep
        exact callFrame_notify c s hpc _ fun _ => rfl
      · cases hstep
  | timeout =>
    simp only [Call.step] at hstep
    split at hstep
    · rename_i via _
      split_ifs at hstep
      cases hstep
      have hlate : ∀ d : Call, { d with timedOut := true }.promised ≠ true := by
        simp [Call.promised]
      cases via <;>
      · refine ⟨rfl, rfl, rfl, rfl, fun hp => absurd hp (hlate _), rfl, fun _ hcmd => hcmd,
          fun hp => absurd hp (hlate _)⟩
    · cases hstep

/-- Calls that are replaced by one that counts the same keep the sum. -/
theorem countP_set_of_eq {p : Call → Bool} {calls : List Call} {i : ℕ} {c c' : Call}
    (hi : calls[i]? = some c) (heq : p c' = p c) :
    (calls.set i c').countP p = calls.countP p := by
  obtain ⟨hlt, hget⟩ := List.getElem?_eq_some_iff.mp hi
  have hpos : p c = true → 0 < calls.countP p := fun hp =>
    List.countP_pos_iff.mpr ⟨c, List.mem_of_getElem? hi, hp⟩
  rw [List.countP_set hlt, hget, heq]
  split_ifs with hp
  · have := hpos hp
    omega
  · rfl

theorem Invariant.call (h : Invariant w) {i : ℕ} {event : CallEvent}
    (hstep : callStep w i event = some w') : Invariant w' := by
  unfold callStep at hstep
  obtain ⟨c, hc, hstep⟩ := Option.bind_eq_some_iff.mp hstep
  obtain ⟨⟨c', s', sent⟩, hcall, rfl⟩ := Option.map_eq_some_iff.mp hstep
  have hframe := call_frame hcall
  have hinv : Invariant { w with status := s', calls := w.calls.set i c' } := by
    refine ⟨fun via => ?_, fun d hd hpromised via hcovers => ?_, h.advPostDone, h.mainDone⟩
    · have hsuspends : c'.suspends via = c.suspends via := by
        simp only [Call.suspends, hframe.op, hframe.resumed, hframe.scope]
      dsimp only
      rw [countP_set_of_eq hc hsuspends, hframe.cnt]
      exact h.counters via
    rcases List.mem_or_eq_of_mem_set hd with hold | rfl
    · rcases h.kept d hold hpromised via hcovers with hsettled | ⟨hnotify, hraised⟩
      · exact .inl hsettled
      · exact .inr ⟨hnotify, fun hr => ⟨hframe.cmd via (hraised hr).1, (hraised hr).2⟩⟩
    · rw [hframe.scope] at hcovers
      rcases h.kept c (List.mem_of_getElem? hc) (hframe.promised hpromised) via hcovers with
        hsettled | ⟨hnotify, hraised⟩
      · exact .inl hsettled
      · exact .inr ⟨hframe.notify ▸ hnotify, hframe.raised hpromised via hnotify hraised⟩
  cases sent with
  | none => exact hinv
  | some task => exact ⟨hinv.counters, hinv.kept, hinv.advPostDone, hinv.mainDone⟩

/-! ## Suspending and resuming -/

theorem Invariant.suspend (h : Invariant w) {scope : Scope} {flagWait : Bool}
    (hguard : nestsSettled w (.suspend scope flagWait) = true)
    (hstep : suspendStep w scope flagWait = some w') : Invariant w' := by
  unfold suspendStep at hstep
  split_ifs at hstep
  cases hstep
  refine ⟨fun via => ?_, fun d hd hpromised via hcovers => ?_, h.advPostDone, h.mainDone⟩
  · dsimp only
    rw [List.countP_append, List.countP_singleton, scope.suspend_eq, ← h.counters via]
    simp only [Status.suspend, Call.enter, Call.suspends, decide_true, Bool.not_false,
      Bool.true_and]
    split_ifs <;> rfl
  rcases List.mem_append.mp hd with hold | hnew
  · rw [scope.suspend_eq]
    exact h.kept d hold hpromised via hcovers
  obtain rfl := List.mem_singleton.mp hnew
  have hwait : flagWait = true := by
    simpa [Call.promised, Call.enter] using hpromised
  subst hwait
  -- a new suspension either notifies the task or is nested
  by_cases hcnt : w.status.cntSuspended via = 0
  · refine .inr ⟨?_, fun hraised => ?_⟩
    · rw [scope.suspend_eq]
      exact Bool.and_eq_true_iff.mpr ⟨hcovers, decide_eq_true hcnt⟩
    · cases via <;> cases hraised
  · refine .inl ?_
    have hcovers : scope.covers via = true := hcovers
    have hvia : (!scope.covers via || decide (w.status.cntSuspended via = 0) ||
        w.settled via) = true :=
      List.all_eq_true.mp hguard via (by cases via <;> simp)
    rw [hcovers, decide_eq_false hcnt] at hvia
    exact hvia

theorem Invariant.resume (h : Invariant w) {suspension : ℕ} {flagWait : Bool}
    (hstep : resumeStep w suspension flagWait = some w') : Invariant w' := by
  unfold resumeStep at hstep
  split at hstep
  · rename_i c hc
    split_ifs at hstep with hopen
    cases hstep
    refine ⟨fun via => ?_, fun d hd hpromised via hcovers => ?_, h.advPostDone, h.mainDone⟩
    · obtain ⟨hlt, hget⟩ := List.getElem?_eq_some_iff.mp hc
      dsimp only
      rw [List.countP_append, List.countP_singleton, List.countP_set hlt, hget,
        c.scope.resume_eq, ← h.counters via]
      simp only [Status.resume, Call.enter, Call.suspends, hopen, decide_true, Bool.not_false,
        Bool.not_true, Bool.true_and, Bool.false_and, Bool.and_false, reduceCtorEq, decide_false,
        Bool.false_eq_true, if_false, Nat.add_zero]
      by_cases hcovers : c.scope.covers via = true
      · rw [hcovers, Bool.true_and, if_pos rfl]
        split_ifs with hcnt
        · rfl
        · simp only [decide_eq_true_eq, not_not] at hcnt
          omega
      · simp [hcovers]
    rcases List.mem_append.mp hd with hold | hnew
    · rcases List.mem_or_eq_of_mem_set hold with hold | rfl
      · rw [c.scope.resume_eq]
        exact h.kept d hold hpromised via hcovers
      · simp [Call.promised] at hpromised
    · obtain rfl := List.mem_singleton.mp hnew
      simp [Call.promised, Call.enter] at hpromised
  · cases hstep

/-! ## Runs -/

/-- What the other steps keep, which touch neither the calls nor the status. -/
theorem Invariant.otherStep (h : Invariant w) {label : Label} (hstep : step w label = some w')
    (hother : (∃ task, label = .takeSignals task) ∨ (∃ op, label = .table op) ∨
      label = .mainRestartServices) : Invariant w' := by
  rcases hother with ⟨task, rfl⟩ | ⟨op, rfl⟩ | rfl
  · simp only [step, takeSignalsStep] at hstep
    split_ifs at hstep
    cases hstep
    exact ⟨h.counters, h.kept, h.advPostDone, h.mainDone⟩
  · simp only [step, Option.some.injEq] at hstep
    subst hstep
    exact ⟨h.counters, h.kept, h.advPostDone, h.mainDone⟩
  · simp only [step] at hstep
    split_ifs at hstep with hidle
    cases hstep
    refine h.taskStep rfl rfl (fun via _ hsettled => ?_) (fun _ => .inl rfl) h.advPostDone nofun
    cases via with
    | http => exact hsettled
    | mqtt => exact settled_mqtt_iff.mpr ⟨(settled_mqtt_iff.mp hsettled).1, rfl⟩

theorem Invariant.step (h : Invariant w) {label : Label}
    (hnests : nestsSettled w label = true) (hclears : clearsSeen w label = true)
    (hstep : step w label = some w') : Invariant w' := by
  cases label with
  | suspend scope flagWait => exact h.suspend hnests hstep
  | resume suspension flagWait => exact h.resume hstep
  | call i event => exact h.call hstep
  | takeSignals task => exact h.otherStep hstep (.inl ⟨task, rfl⟩)
  | advPostRelaying => exact h.advPostRelaying hclears hstep
  | advPostSignal sig env => exact h.advPostSignal hstep
  | table op => exact h.otherStep hstep (.inr (.inl ⟨op, rfl⟩))
  | main env => exact h.main hclears hstep
  | mainRestartServices => exact h.otherStep hstep (.inr (.inr rfl))

/-- In every run in which nested suspensions find relaying settled and no task clears the
bit of a suspension that it has not seen, confirmed suspensions keep their promise. -/
theorem relaying_suspensionsHold {nonce statNonce : UInt32} {history : List (Label × Unit)}
    {w : World} (hr : (relaying nonce statNonce).Run
      (fun w label => nestsSettled w label = true ∧ clearsSeen w label = true) history w) :
    w.SuspensionsHold := by
  have hinv : Invariant w := by
    refine hr.invariant (invariant_initial _ _) fun s label s' o hs hguard hstep => ?_
    obtain ⟨s₁, hs₁, heq⟩ := Option.map_eq_some_iff.mp hstep
    cases heq
    exact hs.step hguard.1 hguard.2 hs₁
  exact hinv.suspensionsHold

/-- One suspension that waits for both tasks and is confirmed. -/
def suspendAndWait : List Label :=
  [.main {}, .suspend .all true, .call 0 .proceed, .call 0 .proceed, .call 0 .proceed,
    .call 0 (.signal .advPost), .call 0 (.signal .main), .call 0 .proceed,
    .takeSignals .main, .main {}, .main {}, .main {}, .call 0 .proceed,
    .takeSignals .advPost, .advPostRelaying, .advPostRelaying, .advPostRelaying,
    .advPostRelaying, .call 0 .proceed]

theorem relaying_suspensionsHold_confirmed : ∃ w : World, w.SuspensionsHold ∧
    (w.calls.any Call.confirmed && w.stopped .http && w.stopped .mqtt) = true := by
  obtain ⟨history, w, hrun, hw⟩ := System.exists_run_of_exec suspendAndWait (S := relaying 0 0)
    (G := fun w label => nestsSettled w label = true ∧ clearsSeen w label = true)
    (P := fun w => w.calls.any Call.confirmed && w.stopped .http && w.stopped .mqtt)
    (by decide)
  exact ⟨w, relaying_suspensionsHold hrun, hw⟩

/-- The configuration mode suspends relaying without waiting, and a second suspension
returns at once. -/
def nestedSuspend : List Label :=
  [.suspend .all false, .suspend .all true, .call 1 .proceed]

/-- A suspension lands between the sample that the posting task takes after a resume and
the end of its handler. -/
def lateSuspend : List Label :=
  [.suspend .httpOnly false, .resume 0 false, .call 1 .proceed, .call 1 .proceed,
    .call 1 .proceed, .call 1 (.signal .advPost), .takeSignals .advPost, .advPostRelaying,
    .suspend .httpOnly true, .call 2 .proceed, .call 2 .proceed, .call 2 .proceed,
    .advPostRelaying, .advPostRelaying, .advPostRelaying, .call 2 (.signal .advPost),
    .call 2 (.signal .main), .call 2 .proceed, .call 2 .proceed, .call 2 .proceed]

/-- Some suspension has been confirmed although HTTP relaying is still enabled. -/
def World.brokenPromise (w : World) : Bool :=
  w.calls.any fun c => c.confirmed && c.scope.covers .http && !w.stopped .http

theorem not_suspensionsHold (h : w.brokenPromise = true) : ¬w.SuspensionsHold := by
  intro hhold
  obtain ⟨c, hc, hbroken⟩ := List.any_eq_true.mp h
  simp only [Bool.and_eq_true, Bool.not_eq_true'] at hbroken
  rw [hhold c hc hbroken.1.1 .http hbroken.1.2] at hbroken
  cases hbroken.2

/-- Neither condition on the run is enough without the other. -/
theorem relaying_breaksPromise :
    (∃ history w, (relaying 0 0).Run (fun w label => clearsSeen w label = true) history w ∧
      ¬w.SuspensionsHold) ∧
    ∃ history w, (relaying 0 0).Run (fun w label => nestsSettled w label = true) history w ∧
      ¬w.SuspensionsHold := by
  constructor
  · obtain ⟨history, w, hrun, hw⟩ := System.exists_run_of_exec nestedSuspend (S := relaying 0 0)
      (G := fun w label => clearsSeen w label = true)
      (P := World.brokenPromise) (by decide)
    exact ⟨history, w, hrun, not_suspensionsHold hw⟩
  · obtain ⟨history, w, hrun, hw⟩ := System.exists_run_of_exec lateSuspend (S := relaying 0 0)
      (G := fun w label => nestsSettled w label = true)
      (P := World.brokenPromise) (by decide)
    exact ⟨history, w, hrun, not_suspensionsHold hw⟩

end RuuviGateway.Relaying
