import Mathlib.Data.Nat.Bitwise
import RuuviGateway.MainLoop.Loop

/-!
# The check for firmware updates

The check for updates passes from the timer to the main task, to the HTTP server and back to the
timer. Nothing but the configuration mode interrupts it, and every request for the release info has
an expiry of the timer of its own.
-/

namespace RuuviGateway.MainLoop

open Config General

variable {t t' : MainTask} {env : Env} {sig : MainTaskSig} {h : List (Label × Output)}

section UnderWay

/-- The next check is under way: the timer runs, a signal of the check waits for the main task, or
the HTTP server has a request to work off. -/
inductive MainTask.CheckUnderWay (t : MainTask) : Prop
  | timer (htimer : t.timerCheckForFwUpdates.isSome = true)
  | signal {sig : MainTaskSig} (hsig : sig.ofUpdateCheck = true) (hholds : t.mailbox.Holds sig)
  | requested (hreq : t.requested .downloadLatestReleaseInfo = true)
  | inProgress (hreq : t.inProgress = some .downloadLatestReleaseInfo)

/-- What interrupts the check: the configuration mode, until the services have been restarted. -/
def MainTask.CheckInterrupted (t : MainTask) : Prop :=
  t.cfgMode = true ∨ t.mailbox.Holds .taskRestartServices

def MainTask.CheckAlive (t : MainTask) : Prop :=
  t.autoUpdating = true → t.CheckUnderWay ∨ t.CheckInterrupted

/-- The second state has all that the check depends on. -/
structure MainTask.Extends (t t' : MainTask) : Prop where
  holds : ∀ sig, t.mailbox.Holds sig → t'.mailbox.Holds sig
  timer : t'.timerCheckForFwUpdates = t.timerCheckForFwUpdates
  cfgMode : t'.cfgMode = t.cfgMode
  requested : t.requested .downloadLatestReleaseInfo = true →
    t'.requested .downloadLatestReleaseInfo = true
  inProgress : t'.inProgress = t.inProgress
  autoUpdating : t'.autoUpdating = t.autoUpdating

theorem MainTask.Extends.refl (t : MainTask) : t.Extends t := ⟨fun _ => id, rfl, rfl, id, rfl, rfl⟩

theorem MainTask.Extends.trans {t'' : MainTask} (h : t.Extends t') (h' : t'.Extends t'') :
    t.Extends t'' where
  holds sig hsig := h'.holds sig (h.holds sig hsig)
  timer := h'.timer.trans h.timer
  cfgMode := h'.cfgMode.trans h.cfgMode
  requested hreq := h'.requested (h.requested hreq)
  inProgress := h'.inProgress.trans h.inProgress
  autoUpdating := h'.autoUpdating.trans h.autoUpdating

theorem MainTask.extends_send (t : MainTask) (sig : MainTaskSig) : t.Extends (t.send sig) :=
  ⟨fun _ hsig => hsig.send sig, rfl, rfl, id, rfl, rfl⟩

theorem MainTask.CheckAlive.extend (h : t.CheckAlive) (hext : t.Extends t') : t'.CheckAlive := by
  intro hauto
  rcases h (hext.autoUpdating ▸ hauto) with hway | hint
  · left
    cases hway with
    | timer htimer => exact .timer (hext.timer ▸ htimer)
    | signal hsig hholds => exact .signal hsig (hext.holds _ hholds)
    | requested hreq => exact .requested (hext.requested hreq)
    | inProgress hreq => exact .inProgress (hext.inProgress.trans hreq)
  · exact .inr (hint.imp (hext.cfgMode ▸ ·) (hext.holds _))

theorem MainTask.CheckAlive.send (h : t.CheckAlive) (sig : MainTaskSig) : (t.send sig).CheckAlive :=
  h.extend (t.extends_send sig)

/-- The signals whose handlers drive the check or interrupt it. -/
def MainTaskSig.drivesCheck : MainTaskSig → Bool
  | .activateCfgMode | .deactivateCfgMode | .taskRestartServices => true
  | sig => sig.ofUpdateCheck

/-- All other handlers leave the check alone. -/
theorem extends_handleSig (t : MainTask) (env : Env) (hsig : sig.drivesCheck = false) :
    t.Extends (mainTaskHandleSig t env sig).1 := by
  cases sig with
  | logHeapUsage =>
    simp only [mainTaskHandleSig, mainTaskHandleSigLogHeapUsage]
    split <;> exact ⟨fun _ => id, rfl, rfl, id, rfl, rfl⟩
  | checkForRemoteCfg => exact ⟨fun _ => id, rfl, rfl, by simp [mainTaskHandleSig,
      mainTaskHandleSigCheckForRemoteCfg, MainTask.userReq], rfl, rfl⟩
  | networkConnected =>
    simp only [mainTaskHandleSig, mainTaskHandleSigNetworkConnected, requestInitialRemoteCfg]
    split
    · exact ⟨fun _ hsig => hsig.send _, rfl, rfl, id, rfl, rfl⟩
    · exact .refl t
  | setDefaultConfig =>
    simp only [mainTaskHandleSig, mainTaskHandleSigSetDefaultConfig]
    split_ifs
    · exact .refl t
    · exact t.extends_send _
  | relayingModeChanged => exact t.extends_send _
  | activateCfgMode => cases hsig
  | deactivateCfgMode => cases hsig
  | taskRestartServices => cases hsig
  | checkForFwUpdates => cases hsig
  | scheduleNextCheckForFwUpdates => cases hsig
  | scheduleRetryCheckForFwUpdates => cases hsig
  | _ => exact .refl t

/-- The handlers of the check and the start of the services put the check under way. -/
theorem underWay_checkForFwUpdates (t : MainTask) (env : Env) :
    (mainTaskHandleSigCheckForFwUpdates t env).1.CheckUnderWay := by
  unfold mainTaskHandleSigCheckForFwUpdates
  split_ifs
  · exact .requested (by simp [MainTask.userReq])
  · exact .signal rfl (Mailbox.holds_send_self MainTaskSig.num_injective _ _)

theorem alive_startCheckForFwUpdates (t : MainTask) (env : Env) (ticks : ℕ) :
    (startCheckForFwUpdates t env ticks).CheckAlive := by
  unfold startCheckForFwUpdates
  split_ifs
  · exact fun _ => .inl (.timer rfl)
  · exact fun hauto => absurd hauto Bool.false_ne_true

/-- The configuration mode is entered, or left with a restart of the services. -/
theorem alive_activateCfgMode (h : t.CheckAlive) (env : Env) :
    (mainTaskHandleSigActivateCfgMode t env).1.CheckAlive := by
  cases hmode : t.cfgMode with
  | true => simpa [mainTaskHandleSigActivateCfgMode, hmode] using h
  | false =>
    simp only [mainTaskHandleSigActivateCfgMode, hmode, Bool.false_eq_true, if_false]
    exact fun _ => .inr (.inl rfl)

theorem alive_deactivateCfgMode (h : t.CheckAlive) (env : Env) :
    (mainTaskHandleSigDeactivateCfgMode t env).1.CheckAlive := by
  unfold mainTaskHandleSigDeactivateCfgMode
  dsimp only
  split_ifs
  · exact h
  · exact fun _ => .inr (.inr (Mailbox.holds_send_self MainTaskSig.num_injective _ _))
  · exact h.send _

/-- One signal is taken out of the mailbox and handled. -/
theorem alive_next {m : Mailbox MainTaskSig.num} (h : t.CheckAlive)
    (hnext : t.mailbox.next = some (sig, m)) :
    (mainTaskHandleSig { t with mailbox := m } env sig).1.CheckAlive := by
  have hholds (sig') : t.mailbox.Holds sig' ↔ sig' = sig ∨ m.Holds sig' := Mailbox.holds_next hnext
  by_cases hrestart : sig = .taskRestartServices
  · subst hrestart
    exact alive_startCheckForFwUpdates _ env _
  by_cases hcheck : sig.ofUpdateCheck = true
  · have hway : (mainTaskHandleSig { t with mailbox := m } env sig).1.CheckUnderWay := by
      cases sig with
      | checkForFwUpdates => exact underWay_checkForFwUpdates _ env
      | scheduleNextCheckForFwUpdates => exact .timer rfl
      | scheduleRetryCheckForFwUpdates => exact .timer rfl
      | _ => cases hcheck
    exact fun _ => .inl hway
  -- The signal itself was no part of the check.
  have halive : MainTask.CheckAlive { t with mailbox := m } := by
    intro hauto
    rcases h hauto with hway | hmode | hsig
    · left
      cases hway with
      | timer htimer => exact .timer htimer
      | @signal sig' hsig' hholds' =>
        rcases (hholds sig').mp hholds' with rfl | hm
        · exact absurd hsig' hcheck
        · exact .signal hsig' hm
      | requested hreq => exact .requested hreq
      | inProgress hreq => exact .inProgress hreq
    · exact .inr (.inl hmode)
    · exact .inr (.inr (((hholds _).mp hsig).resolve_left (Ne.symm hrestart)))
  by_cases hactivate : sig = .activateCfgMode
  · subst hactivate
    exact alive_activateCfgMode halive env
  by_cases hdeactivate : sig = .deactivateCfgMode
  · subst hdeactivate
    exact alive_deactivateCfgMode halive env
  have hdrives : sig.drivesCheck = false := by cases sig <;> simp_all [MainTaskSig.drivesCheck]
  exact halive.extend (extends_handleSig _ env hdrives)

theorem alive_step {l : Label} {o : Output} (h : t.CheckAlive) (hs : t.step l = some (t', o)) :
    t'.CheckAlive := by
  cases l with
  | start env =>
    simp only [MainTask.step] at hs
    split_ifs at hs
    cases hs
    exact (alive_startCheckForFwUpdates _ env _).send _
  | take =>
    simp only [MainTask.step] at hs
    split_ifs at hs
    obtain ⟨m, hm, heq⟩ := Option.map_eq_some_iff.mp hs
    cases heq
    exact h.extend ⟨fun _ => (Mailbox.holds_take hm).mpr, rfl, rfl, id, rfl, rfl⟩
  | next env =>
    simp only [MainTask.step] at hs
    split_ifs at hs
    obtain ⟨⟨sig, m⟩, hm, heq⟩ := Option.map_eq_some_iff.mp hs
    cases heq
    exact alive_next h hm
  | signal sig =>
    simp only [MainTask.step] at hs
    split_ifs at hs
    cases hs
    exact h.send sig
  | expireCheckForFwUpdates =>
    obtain ⟨ticks, hticks, heq⟩ := Option.map_eq_some_iff.mp hs
    cases heq
    exact fun _ => .inl (.signal rfl (Mailbox.holds_send_self MainTaskSig.num_injective _ _))
  | expireCheckForRemoteCfg =>
    obtain ⟨ticks, hticks, heq⟩ := Option.map_eq_some_iff.mp hs
    cases heq
    exact h.send _
  | beginUserReq code =>
    simp only [MainTask.step] at hs
    split_ifs at hs with hbegin
    cases hs
    intro hauto
    rcases h hauto with hway | hint
    · left
      cases code with
      | downloadLatestReleaseInfo => exact .inProgress rfl
      | downloadGwCfg =>
        cases hway with
        | timer htimer => exact .timer htimer
        | signal hsig hholds => exact .signal hsig hholds
        | requested hreq => exact .requested (by simpa using hreq)
        | inProgress hreq => simp [hreq] at hbegin
    · exact .inr hint
  | endUserReq isError =>
    obtain ⟨code, hcode, heq⟩ := Option.map_eq_some_iff.mp hs
    cases heq
    cases code with
    | downloadLatestReleaseInfo =>
      intro _
      left
      cases isError with
      | false => exact .signal rfl (Mailbox.holds_send_self MainTaskSig.num_injective _ _)
      | true => exact .signal rfl (Mailbox.holds_send_self MainTaskSig.num_injective _ _)
    | downloadGwCfg =>
      intro hauto
      rcases h hauto with hway | hint
      · left
        cases hway with
        | timer htimer => exact .timer htimer
        | signal hsig hholds => exact .signal hsig hholds
        | requested hreq => exact .requested hreq
        | inProgress hreq => exact absurd (hcode.symm.trans hreq) (by decide)
      · exact .inr hint

/-- Once the services have been started with automatic updates, the next check stays under way
until the configuration mode interrupts it, and from its end on again. -/
theorem fwUpdateCheck_alive (hr : mainTaskSystem.FreeRun h t) (hauto : t.autoUpdating = true)
    (hmode : t.cfgMode = false) (hrestart : ¬t.mailbox.Holds .taskRestartServices) :
    t.CheckUnderWay := by
  have halive : t.CheckAlive :=
    hr.invariant (I := MainTask.CheckAlive)
      (fun hinit => absurd hinit Bool.false_ne_true) fun _ _ _ _ h _ hs => alive_step h hs
  exact (halive hauto).resolve_right (by simp [MainTask.CheckInterrupted, hmode, hrestart])

theorem fwUpdateCheck_alive_sample : ∃ h t, mainTaskSystem.FreeRun h t ∧ t.CheckUnderWay := by
  obtain ⟨h, t, hr, hP⟩ := exists_sampleRun
  simp only [Bool.and_eq_true, decide_eq_true_eq, List.all_eq_true] at hP
  obtain ⟨⟨⟨hauto, hmode⟩, hpending⟩, htaken⟩ := hP
  exact ⟨h, t, hr, fwUpdateCheck_alive hr hauto hmode
    fun hholds => hholds.elim (fun hm => hpending _ hm rfl) fun hm => htaken _ hm rfl⟩

end UnderWay

section Requests

/-- The weekly windows of the configuration: the hours of the days whose bit is set, in local time.
Day 0 was a Thursday. -/
def InUpdateWindow (cfg : GwCfgAutoUpdate) (unixTime : ℤ) : Prop :=
  ∃ day : ℤ, cfg.autoUpdateWeekdaysBitmask.toNat.testBit ((day + 4) % 7).toNat = true ∧
    day * 86400 + cfg.autoUpdateIntervalFrom.toNat * 3600 ≤
      unixTime + cfg.autoUpdateTzOffsetHours.toInt * 3600 ∧
    unixTime + cfg.autoUpdateTzOffsetHours.toInt * 3600 <
      day * 86400 + min cfg.autoUpdateIntervalTo.toNat 24 * 3600

theorem and_shiftLeft_eq_zero_iff (n k : ℕ) : n &&& 1 <<< k = 0 ↔ n.testBit k = false := by
  rw [Nat.one_shiftLeft, Nat.and_two_pow]
  cases n.testBit k <;> simp

/-- The check is allowed exactly in a weekly window of an automatic mode. -/
theorem checkIfCheckingForFwUpdatesAllowed2_iff (cfg : GwCfgAutoUpdate) (unixTime : ℤ) :
    checkIfCheckingForFwUpdatesAllowed2 cfg unixTime = true ↔
      cfg.autoUpdateCycle ≠ .manual ∧ InUpdateWindow cfg unixTime := by
  unfold checkIfCheckingForFwUpdatesAllowed2 InUpdateWindow
  dsimp only
  generalize hlocal : unixTime + cfg.autoUpdateTzOffsetHours.toInt * (60 * 60) = local'
  have hlocal' : unixTime + cfg.autoUpdateTzOffsetHours.toInt * 3600 = local' := by omega
  simp only [hlocal', and_shiftLeft_eq_zero_iff]
  have hday : ∀ day : ℤ, day * 86400 ≤ local' → local' < day * 86400 + 24 * 3600 →
      day = local' / 86400 := by omega
  by_cases hcycle : cfg.autoUpdateCycle = .manual
  · simp [hcycle]
  simp only [hcycle, if_false, ne_eq, not_false_eq_true, true_and]
  constructor
  · intro h
    split_ifs at h with hbit hhour
    have hhour' : cfg.autoUpdateIntervalFrom.toNat ≤ tmHour local' ∧
        tmHour local' < cfg.autoUpdateIntervalTo.toNat := by simpa using hhour
    unfold tmHour at hhour'
    exact ⟨local' / 86400, by simpa [tmWday] using hbit, by omega, by omega⟩
  · rintro ⟨day, hbit, hfrom, hto⟩
    obtain rfl := hday day (by omega) (by omega)
    have hhour : cfg.autoUpdateIntervalFrom.toNat ≤ tmHour local' ∧
        tmHour local' < cfg.autoUpdateIntervalTo.toNat := by
      unfold tmHour
      omega
    rw [if_neg (by simpa [tmWday] using hbit), if_neg (by simpa using hhour)]

/-- The requests for the release info in the calls of a run. -/
def releaseInfoRequests (h : List (Label × Output)) : ℕ :=
  (h.flatMap fun e => e.2.calls).count (.userReq .downloadLatestReleaseInfo)

def Label.isExpiry : Label → Bool
  | .expireCheckForFwUpdates => true
  | _ => false

/-- How often the timer of the check has expired. -/
def checkExpiries (h : List (Label × Output)) : ℕ := h.countP fun e => e.1.isExpiry

/-- Only the signal of the timer makes a handler ask for the release info. -/
theorem userReq_notMem_handleSig (t : MainTask) (env : Env) (hsig : sig ≠ .checkForFwUpdates) :
    Call.userReq .downloadLatestReleaseInfo ∉ (mainTaskHandleSig t env sig).2 := by
  cases sig with
  | checkForFwUpdates => exact absurd rfl hsig
  | logHeapUsage =>
    simp only [mainTaskHandleSig, mainTaskHandleSigLogHeapUsage]
    split <;> simp
  | deferredEthernetActivation =>
    simp only [mainTaskHandleSig, mainTaskHandleSigDeferredEthernetActivation]
    split <;> simp
  | activateCfgMode =>
    simp only [mainTaskHandleSig, mainTaskHandleSigActivateCfgMode]
    split_ifs <;> simp
  | deactivateCfgMode =>
    simp only [mainTaskHandleSig, mainTaskHandleSigDeactivateCfgMode, leaveCfgMode, startNetwork]
    split_ifs <;> simp
  | taskRestartServices =>
    simp only [mainTaskHandleSig, mainTaskHandleSigRestartServices]
    split <;> simp
  | networkConnected =>
    simp only [mainTaskHandleSig, mainTaskHandleSigNetworkConnected]
    split <;> simp
  | reconnectNetwork =>
    simp only [mainTaskHandleSig, mainTaskHandleSigNetworkReconnect]
    split_ifs <;> simp
  | setDefaultConfig =>
    simp only [mainTaskHandleSig, mainTaskHandleSigSetDefaultConfig]
    split <;> simp
  | relayingModeChanged =>
    simp only [mainTaskHandleSig, mainTaskHandleSigRelayingModeChanged]
    split_ifs <;> simp
  | _ => simp [mainTaskHandleSig, mainTaskHandleSigScheduleNextCheckForFwUpdates,
      mainTaskHandleSigScheduleRetryCheckForFwUpdates, mainTaskHandleSigCheckForRemoteCfg]

theorem count_send_le (t : MainTask) {sig : MainTaskSig} (hsig : sig ≠ .checkForFwUpdates) :
    (t.send sig).mailbox.count .checkForFwUpdates ≤ t.mailbox.count .checkForFwUpdates :=
  Mailbox.count_send_le _ hsig

theorem mailbox_startCheckForFwUpdates (t : MainTask) (env : Env) (ticks : ℕ) :
    (startCheckForFwUpdates t env ticks).mailbox = t.mailbox := by
  unfold startCheckForFwUpdates
  split <;> rfl

/-- No handler sends the signal of the timer. -/
theorem count_handleSig_le (t : MainTask) (env : Env) (sig : MainTaskSig) :
    (mainTaskHandleSig t env sig).1.mailbox.count .checkForFwUpdates ≤
      t.mailbox.count .checkForFwUpdates := by
  cases sig with
  | logHeapUsage =>
    simp only [mainTaskHandleSig, mainTaskHandleSigLogHeapUsage]
    split <;> exact le_rfl
  | checkForFwUpdates =>
    simp only [mainTaskHandleSig, mainTaskHandleSigCheckForFwUpdates]
    split
    · exact le_rfl
    · exact count_send_le _ (by decide)
  | activateCfgMode =>
    simp only [mainTaskHandleSig, mainTaskHandleSigActivateCfgMode]
    split <;> exact le_rfl
  | deactivateCfgMode =>
    simp only [mainTaskHandleSig, mainTaskHandleSigDeactivateCfgMode]
    split_ifs
    · exact le_rfl
    · exact (count_send_le _ (by decide)).trans (count_send_le _ (by decide))
    · exact count_send_le _ (by decide)
  | taskRestartServices =>
    simp only [mainTaskHandleSig, mainTaskHandleSigRestartServices, mailbox_startCheckForFwUpdates]
    exact le_rfl
  | networkConnected =>
    simp only [mainTaskHandleSig, mainTaskHandleSigNetworkConnected, requestInitialRemoteCfg]
    split
    · exact count_send_le { t with flagInitialRequestForRemoteCfgPerformed := true } (by decide)
    · exact le_rfl
  | setDefaultConfig =>
    simp only [mainTaskHandleSig, mainTaskHandleSigSetDefaultConfig]
    split
    · exact le_rfl
    · exact count_send_le _ (by decide)
  | relayingModeChanged => exact count_send_le _ (by decide)
  | _ => exact le_rfl

/-- What a handler adds to the requests it takes from the signals of the timer that wait. -/
theorem count_next {m : Mailbox MainTaskSig.num} (hnext : t.mailbox.next = some (sig, m)) :
    (mainTaskHandleSig { t with mailbox := m } env sig).2.count
        (.userReq .downloadLatestReleaseInfo) +
      (mainTaskHandleSig { t with mailbox := m } env sig).1.mailbox.count .checkForFwUpdates ≤
    t.mailbox.count .checkForFwUpdates := by
  have hle := count_handleSig_le { t with mailbox := m } env sig
  rw [Mailbox.count_next hnext]
  by_cases hsig : sig = .checkForFwUpdates
  · subst hsig
    have hcalls : (mainTaskHandleSigCheckForFwUpdates { t with mailbox := m } env).2.count
        (.userReq .downloadLatestReleaseInfo) ≤ 1 := by
      unfold mainTaskHandleSigCheckForFwUpdates
      split <;> simp
    simp only [mainTaskHandleSig, if_true] at hle ⊢
    omega
  · rw [List.count_eq_zero.mpr (userReq_notMem_handleSig _ env hsig), if_neg hsig]
    simpa using hle

/-- What a step adds to the requests, the expiries and the signals of the timer that wait. -/
theorem count_step {l : Label} {o : Output} (hs : t.step l = some (t', o)) :
    o.calls.count (.userReq .downloadLatestReleaseInfo) + t'.mailbox.count .checkForFwUpdates ≤
      t.mailbox.count .checkForFwUpdates + if l.isExpiry then 1 else 0 := by
  cases l with
  | start env =>
    simp only [MainTask.step] at hs
    split at hs
    · cases hs
    · cases hs
      have hcalls : (mainLoopStart t env).2.count (.userReq .downloadLatestReleaseInfo) = 0 := by
        unfold mainLoopStart
        split <;> simp
      rw [hcalls, Nat.zero_add]
      refine ((count_send_le _ (by decide)).trans ?_).trans (Nat.le_add_right _ _)
      rw [mailbox_startCheckForFwUpdates]
      exact le_rfl
  | take =>
    simp only [MainTask.step] at hs
    split at hs
    · obtain ⟨m, hm, heq⟩ := Option.map_eq_some_iff.mp hs
      cases heq
      simp [Mailbox.count_take hm]
    · cases hs
  | next env =>
    simp only [MainTask.step] at hs
    split at hs
    · cases hs
    · obtain ⟨⟨sig, m⟩, hm, heq⟩ := Option.map_eq_some_iff.mp hs
      cases heq
      exact (count_next hm).trans (Nat.le_add_right _ _)
  | signal sig =>
    simp only [MainTask.step] at hs
    split at hs
    · cases hs
    · cases hs
      refine (Nat.zero_add _).le.trans ((count_send_le t ?_).trans (Nat.le_add_right _ _))
      rintro rfl
      contradiction
  | expireCheckForFwUpdates =>
    obtain ⟨ticks, hticks, heq⟩ := Option.map_eq_some_iff.mp hs
    cases heq
    simpa [Label.isExpiry, MainTask.send] using
      Mailbox.count_send_self_le t.mailbox MainTaskSig.checkForFwUpdates
  | expireCheckForRemoteCfg =>
    obtain ⟨ticks, hticks, heq⟩ := Option.map_eq_some_iff.mp hs
    cases heq
    exact (Nat.zero_add _).le.trans ((count_send_le t (by decide)).trans (Nat.le_add_right _ _))
  | beginUserReq code =>
    simp only [MainTask.step] at hs
    split at hs
    · cases hs
      simp
    · cases hs
  | endUserReq isError =>
    obtain ⟨code, hcode, heq⟩ := Option.map_eq_some_iff.mp hs
    cases heq
    refine (Nat.zero_add _).le.trans (Nat.le_trans ?_ (Nat.le_add_right _ _))
    cases code with
    | downloadLatestReleaseInfo => exact count_send_le _ (by cases isError <;> decide)
    | downloadGwCfg => exact le_rfl

/-- The step that asks for the release info. -/
theorem allowed_of_userReq {l : Label} {o : Output} (hs : t.step l = some (t', o))
    (hreq : Call.userReq .downloadLatestReleaseInfo ∈ o.calls) :
    ∃ env, l = .next env ∧ checkIfCheckingForFwUpdatesAllowed env = true := by
  cases l with
  | next env =>
    simp only [MainTask.step] at hs
    split at hs
    · cases hs
    · obtain ⟨⟨sig, m⟩, hm, heq⟩ := Option.map_eq_some_iff.mp hs
      cases heq
      by_cases hsig : sig = .checkForFwUpdates
      · subst hsig
        refine ⟨env, rfl, ?_⟩
        by_contra hallowed
        simp [mainTaskHandleSig, mainTaskHandleSigCheckForFwUpdates, hallowed] at hreq
      · exact absurd hreq (userReq_notMem_handleSig _ env hsig)
  | start env =>
    simp only [MainTask.step] at hs
    split at hs
    · cases hs
    · cases hs
      simp only [mainLoopStart] at hreq
      split at hreq <;> simp at hreq
  | take =>
    simp only [MainTask.step] at hs
    split at hs
    · obtain ⟨m, -, heq⟩ := Option.map_eq_some_iff.mp hs
      cases heq
      simp at hreq
    · cases hs
  | signal sig =>
    simp only [MainTask.step] at hs
    split at hs <;> cases hs
    simp at hreq
  | beginUserReq code =>
    simp only [MainTask.step] at hs
    split at hs <;> cases hs
    simp at hreq
  | _ =>
    obtain ⟨_, -, heq⟩ := Option.map_eq_some_iff.mp hs
    cases heq
    simp at hreq

/-- A step that asks for the release info does so online, with the time synchronized, in an
automatic mode and in a weekly window of the configuration. -/
def RequestsInWindow (e : Label × Output) : Prop :=
  Call.userReq .downloadLatestReleaseInfo ∈ e.2.calls →
    ∃ env, e.1 = .next env ∧ env.isConnectedToWifiOrEthernet = true ∧
      env.timeIsSynchronized = true ∧ env.autoUpdate.autoUpdateCycle ≠ .manual ∧
      InUpdateWindow env.autoUpdate env.unixTime

/-- Every request for the release info has an expiry of the timer of its own, and is made in a
window of the configuration. -/
theorem releaseInfo_requests (hr : mainTaskSystem.FreeRun h t) :
    releaseInfoRequests h ≤ checkExpiries h ∧ ∀ e ∈ h, RequestsInWindow e := by
  constructor
  · have hcount : releaseInfoRequests h + t.mailbox.count .checkForFwUpdates ≤ checkExpiries h := by
      induction hr with
      | init => simp [releaseInfoRequests, checkExpiries, mainTaskSystem, MainTask.initial,
          Mailbox.count, Mailbox.empty]
      | @step h t l t' o _ _ hs ih =>
        have hstep := count_step hs
        simp only [releaseInfoRequests, checkExpiries, List.flatMap_cons, List.count_append,
          List.countP_cons] at ih ⊢
        omega
    omega
  · refine hr.historyInvariant (I := fun h _ => ∀ e ∈ h, RequestsInWindow e) (by simp) ?_
    intro h t l t' o ih _ hs e he hreq
    rcases List.mem_cons.mp he with rfl | he
    · obtain ⟨env, rfl, hallowed⟩ := allowed_of_userReq hs hreq
      unfold checkIfCheckingForFwUpdatesAllowed at hallowed
      split_ifs at hallowed with honline hsync
      obtain ⟨hcycle, hwindow⟩ := (checkIfCheckingForFwUpdatesAllowed2_iff _ _).mp hallowed
      exact ⟨env, rfl, by simpa using honline, by simpa using hsync, hcycle, hwindow⟩
    · exact ih e he hreq

theorem releaseInfo_requests_sample : ∃ h t, mainTaskSystem.FreeRun h t ∧
    releaseInfoRequests h ≤ checkExpiries h ∧ ∀ e ∈ h, RequestsInWindow e := by
  obtain ⟨h, t, hr, -⟩ := exists_sampleRun
  exact ⟨h, t, hr, releaseInfo_requests hr⟩

end Requests

end RuuviGateway.MainLoop
