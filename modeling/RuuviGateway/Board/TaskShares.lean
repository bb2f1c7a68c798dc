import RuuviGateway.Board.SwdSession

/-!
# The shares of the tasks in the analog switch

The share of a task is what it has activated and not deactivated. `leds_task` has that of the
hardware reset at the boot, which nobody gives back, and one for the red LED. The task that updates
or resets the nRF52 has one for an SWD session. Each program is followed over the share of its task
and the part of the state that is its own.
-/

namespace RuuviGateway.Board

open General Prog

section Views

/-- What an action on the pins does to the share of its task. -/
def PinAction.units : PinAction → ℕ → ℕ
  | .activate, n => n + 1
  | .deactivate, n => n - 1
  | .initGpioCfgNreset, n | .setNreset _, n => n

/-- A task gives back only what it has taken. -/
def PinAction.Requires : PinAction → ℕ → Prop
  | .deactivate, n => 0 < n
  | .activate, _ | .initGpioCfgNreset, _ | .setNreset _, _ => True

/-- A task knows its share and a part of the state that is its own. -/
def shareView {τ : Type} (own : Action → Prop) (step : Action → Bool → τ → τ → Prop) :
    View Action (τ × ℕ) where
  requires
    | .pin a, s => a.Requires s.2
    | k, _ => own k
  step
    | .pin a, _, s, s' => s' = (s.1, a.units s.2)
    | k, answer, s, s' => step k answer s.1 s'.1 ∧ s'.2 = s.2

/-- The tasks that work with the session, where only some outcomes are allowed. -/
def sessionView (allowed : SwdAction → Bool → Prop) : View Action (Session × ℕ) :=
  shareView (fun k => ∃ a, k = .swd a) fun k answer s s' =>
    ∃ a ok, k = .swd a ∧ allowed a ok ∧ s.perform ok a = (answer, s')

/-- The main task at the boot, and then `leds_task`. -/
def ledsView : View Action (Leds × ℕ) :=
  shareView (fun k => ∃ a, k = .leds a) fun k _ l l' => ∃ a, k = .leds a ∧ l' = l.perform a

variable {τ : Type} {own : Action → Prop} {step : Action → Bool → τ → τ → Prop} {s : τ} {u : ℕ}

theorem safe_pin {a : PinAction} {post : Unit → τ × ℕ → Prop} :
    (call_ (.pin a)).Safe (shareView own step) post (s, u) ↔
      a.Requires u ∧ post () (s, a.units u) := by
  refine and_congr_right fun _ => ⟨fun h => h true _ rfl, ?_⟩
  rintro h answer s' rfl
  exact h

theorem hwReset_true : (nrf52fwHwResetNrf52 true).Safe (shareView own step)
    (fun _ t => t = (s, u + 1)) (s, u) := by
  unfold nrf52fwHwResetNrf52
  refine safe_bind.mpr (safe_pin.mpr ⟨trivial, safe_bind.mpr ?_⟩)
  rw [whenever_pure, if_pos rfl]
  refine safe_pin.mpr ⟨trivial, safe_bind.mpr (safe_pin.mpr ⟨trivial, ?_⟩)⟩
  rw [whenever_pure, Bool.not_true, if_neg Bool.false_ne_true]
  exact (safe_pure ()).mpr rfl

theorem hwReset_false : (nrf52fwHwResetNrf52 false).Safe (shareView own step)
    (fun _ t => t = (s, u)) (s, u + 1) := by
  unfold nrf52fwHwResetNrf52
  refine safe_bind.mpr (safe_pin.mpr ⟨trivial, safe_bind.mpr ?_⟩)
  rw [whenever_pure, if_neg Bool.false_ne_true]
  refine (safe_pure ()).mpr (safe_bind.mpr (safe_pin.mpr ⟨trivial, ?_⟩))
  rw [whenever_pure, Bool.not_false, if_pos rfl]
  exact safe_pin.mpr ⟨Nat.succ_pos u, rfl⟩

end Views

section SessionRules

variable {allowed : SwdAction → Bool → Prop} {s : Session} {u : ℕ}

theorem safe_swd {a : SwdAction} {post : Bool → Session × ℕ → Prop} :
    (call (.swd a)).Safe (sessionView allowed) post (s, u) ↔
      ∀ ok, allowed a ok → post (s.perform ok a).1 ((s.perform ok a).2, u) := by
  constructor
  · intro h ok hok
    exact h.2 _ _ ⟨⟨a, ok, rfl, hok, rfl⟩, rfl⟩
  · intro h
    refine ⟨⟨a, rfl⟩, ?_⟩
    rintro answer ⟨s', u'⟩ ⟨⟨a', ok, ha', hok, hperform⟩, rfl⟩
    obtain rfl := Action.swd.inj ha'
    have hpost := h ok hok
    rw [hperform] at hpost
    exact hpost

theorem safe_swd_ {a : SwdAction} {post : Unit → Session × ℕ → Prop} :
    (call_ (.swd a)).Safe (sessionView allowed) post (s, u) ↔
      ∀ ok, allowed a ok → post () ((s.perform ok a).2, u) :=
  @safe_swd allowed s u a fun _ => post ()

/-- A flag is read. -/
theorem safe_whenever_get {flag : Flag} {q : Prog Action Unit} {post : Unit → Session × ℕ → Prop}
    (hset : s.get flag = true → q.Safe (sessionView allowed) post (s, u))
    (hclear : s.get flag = false → post () (s, u)) :
    (whenever (call (.swd (.get flag))) q).Safe (sessionView allowed) post (s, u) := by
  refine safe_bind.mpr (safe_swd.mpr fun ok _ => ?_)
  show (if s.get flag = true then q else pure ()).Safe (sessionView allowed) post (s, u)
  split_ifs with hflag
  · exact hset hflag
  · exact hclear (Bool.eq_false_iff.mpr hflag)

end SessionRules

section AnyOutcome

variable {allowed : SwdAction → Bool → Prop} {n : ℕ}

/-- The share covers the activation that the flag records, and `n` more. -/
def Covered (n : ℕ) (s : Session × ℕ) : Prop := n + s.1.switchCtrlActivated.toNat ≤ s.2

theorem perform_switchCtrlActivated (ok : Bool) (s : Session) {a : SwdAction}
    (ha : ∀ value, a ≠ .set .switchCtrlActivated value) :
    (s.perform ok a).2.switchCtrlActivated = s.switchCtrlActivated := by
  cases a with
  | set flag value =>
    cases flag with
    | switchCtrlActivated => exact absurd rfl (ha value)
    | libswdCtx => rfl
    | isSpiDeviceAdded => rfl
    | isSpiInitialized => rfl
  | spiBusAddDevice =>
    unfold Session.perform
    split_ifs <;> rfl
  | spiBusRemoveDevice =>
    unfold Session.perform
    split_ifs <;> rfl
  | spiBusFree =>
    unfold Session.perform
    split_ifs <;> rfl
  | _ => rfl

/-- An action of the session that does not touch the flag of the activation. -/
theorem keeps_swd {a : SwdAction} (ha : ∀ value, a ≠ .set .switchCtrlActivated value) :
    (call (.swd a)).Keeps (sessionView allowed) (Covered n) := by
  rintro ⟨s, u⟩ hcovered
  refine safe_swd.mpr fun ok _ => ?_
  show n + (s.perform ok a).2.switchCtrlActivated.toNat ≤ u
  rw [perform_switchCtrlActivated ok s ha]
  exact hcovered

theorem Keeps.call_ {V : View Action (Session × ℕ)} {I : Session × ℕ → Prop} {k : Action}
    (h : (call k).Keeps V I) : (call_ k).Keeps V I := h

theorem keeps_setNreset (level : Bool) :
    (call_ (.pin (.setNreset level))).Keeps (sessionView allowed) (Covered n) :=
  fun _ h => safe_pin.mpr ⟨trivial, h⟩

theorem keeps_initGpioCfgNreset :
    (call (.pin .initGpioCfgNreset)).Keeps (sessionView allowed) (Covered n) := by
  intro s hcovered
  refine ⟨trivial, ?_⟩
  rintro answer s' rfl
  exact hcovered

theorem keeps_gpioInit : nrf52swdGpioInit.Keeps (sessionView allowed) (Covered n) := by
  refine keeps_initGpioCfgNreset.bind fun configured => keeps_ite (keeps_pure _) ?_
  rintro ⟨s, u⟩ hcovered
  have hn : n ≤ u := Nat.le_trans (Nat.le_add_right _ _) hcovered
  refine safe_bind.mpr (safe_pin.mpr ⟨trivial, safe_bind.mpr (safe_swd_.mpr fun _ _ => ?_)⟩)
  exact Nat.succ_le_succ hn

theorem keeps_initInternal : nrf52swdInitInternal.Keeps (sessionView allowed) (Covered n) := by
  refine keeps_gpioInit.bind fun _ => keeps_ite (keeps_pure _) ?_
  refine (keeps_setNreset true).bind fun _ => ?_
  refine (keeps_swd (by nofun)).bind fun _ => keeps_ite (keeps_pure _) ?_
  refine (Keeps.call_ (keeps_swd (by nofun))).bind fun _ => ?_
  refine (keeps_swd (by nofun)).bind fun _ => keeps_ite (keeps_pure _) ?_
  refine (Keeps.call_ (keeps_swd (by nofun))).bind fun _ => ?_
  refine (keeps_swd (by nofun)).bind fun _ => keeps_ite (keeps_pure _) ?_
  exact (keeps_swd (by nofun)).bind fun _ => keeps_ite (keeps_pure _) (keeps_pure _)

theorem keeps_deinit : nrf52swdDeinit.Keeps (sessionView allowed) (Covered n) := by
  have hget (flag : Flag) :
      (call (.swd (.get flag))).Keeps (sessionView allowed) (Covered n) := keeps_swd (by nofun)
  unfold nrf52swdDeinit
  refine (Keeps.whenever (hget _) ?_).bind fun _ => ?_
  · exact (Keeps.call_ (keeps_swd (by nofun))).bind fun _ => Keeps.call_ (keeps_swd (by nofun))
  refine (Keeps.whenever (hget _) ?_).bind fun _ => ?_
  · exact (Keeps.call_ (keeps_swd (by nofun))).bind fun _ => Keeps.call_ (keeps_swd (by nofun))
  refine (Keeps.whenever (hget _) ?_).bind fun _ => ?_
  · exact (Keeps.call_ (keeps_swd (by nofun))).bind fun _ => Keeps.call_ (keeps_swd (by nofun))
  -- The flag of the activation says that there is a unit in the share to give back.
  rintro ⟨s, u⟩ hcovered
  refine safe_whenever_get (fun hactivated => ?_) fun _ => hcovered
  have hn : n + 1 ≤ u := by
    have h : n + s.switchCtrlActivated.toNat ≤ u := hcovered
    rwa [show s.switchCtrlActivated = true from hactivated] at h
  have hpos : 0 < u := Nat.lt_of_lt_of_le (Nat.succ_pos n) hn
  refine safe_bind.mpr (safe_pin.mpr ⟨hpos, safe_swd_.mpr fun _ _ => ?_⟩)
  exact Nat.le_sub_of_add_le hn

theorem keeps_initSwd : nrf52fwInitSwd.Keeps (sessionView allowed) (Covered n) := by
  have hinit : nrf52swdInit.Keeps (sessionView allowed) (Covered n) := by
    refine keeps_initInternal.bind fun _ => keeps_ite ?_ (keeps_pure _)
    exact keeps_deinit.bind fun _ => keeps_pure _
  unfold nrf52fwInitSwd
  refine hinit.bind fun _ => keeps_ite (keeps_pure _) ?_
  refine (keeps_swd (by nofun)).bind fun _ => keeps_ite (keeps_pure _) ?_
  refine (keeps_swd (by nofun)).bind fun _ => keeps_ite (keeps_pure _) ?_
  refine (keeps_swd (by nofun)).bind fun _ => keeps_ite (keeps_pure _) ?_
  exact (keeps_swd (by nofun)).bind fun _ => keeps_ite (keeps_pure _) (keeps_pure _)

theorem keeps_updateFwStep0 : nrf52fwUpdateFwStep0.Keeps (sessionView allowed) (Covered n) := by
  unfold nrf52fwUpdateFwStep0
  refine keeps_initSwd.bind fun _ => keeps_ite (keeps_pure _) ?_
  refine (keeps_swd (by nofun)).bind fun _ => ?_
  refine (keeps_ite (keeps_swd (by nofun)) (keeps_pure _)).bind fun _ => ?_
  exact keeps_deinit.bind fun _ => keeps_pure _

/-- The update gives back what it has taken for its hardware resets. -/
theorem keeps_updateFwIfNecessary :
    nrf52fwUpdateFwIfNecessary.Keeps (sessionView allowed) (Covered n) := by
  rintro ⟨s, u⟩ hcovered
  unfold nrf52fwUpdateFwIfNecessary
  refine hwReset_true.bind ?_
  rintro _ t rfl
  refine hwReset_false.bind ?_
  rintro _ t rfl
  refine (keeps_updateFwStep0 (s, u) hcovered).bind ?_
  rintro res ⟨s', u'⟩ hcovered'
  refine hwReset_true.bind ?_
  rintro _ t rfl
  refine hwReset_false.bind ?_
  rintro _ t rfl
  exact hcovered'

theorem keeps_softwareReset : nrf52fwSoftwareReset.Keeps (sessionView allowed) (Covered n) := by
  unfold nrf52fwSoftwareReset
  refine keeps_initSwd.bind fun _ => keeps_ite (keeps_pure _) ?_
  refine (keeps_swd (by nofun)).bind fun _ => keeps_ite ?_ ?_
  · exact keeps_deinit.bind fun _ => keeps_pure _
  · exact keeps_deinit.bind fun _ => keeps_pure _

end AnyOutcome

section GoodOutcomes

variable {u : ℕ}

def Session.opened : Session := ⟨true, true, true, true, 1, 1, true⟩

/-- What is open is what the flags say. -/
def Session.partlyOpen (ctx device bus activated : Bool) : Session :=
  ⟨ctx, device, bus, activated, ctx.toNat, device.toNat, bus⟩

theorem deinit_closes (ctx device bus activated : Bool) :
    nrf52swdDeinit.Safe (sessionView SwdAction.Suits) (fun _ t => t = (.closed, u))
      (.partlyOpen ctx device bus activated, u + activated.toNat) := by
  unfold nrf52swdDeinit
  refine Safe.bind
    (I := fun _ t => t = (.partlyOpen false device bus activated, u + activated.toNat)) ?_ ?_
  · refine safe_whenever_get (fun hset => ?_) fun hclear => ?_
    · obtain rfl : ctx = true := hset
      exact safe_bind.mpr (safe_swd_.mpr fun _ _ => safe_swd_.mpr fun _ _ => rfl)
    · obtain rfl : ctx = false := hclear
      rfl
  rintro _ t rfl
  refine Safe.bind
    (I := fun _ t => t = (.partlyOpen false false bus activated, u + activated.toNat)) ?_ ?_
  · refine safe_whenever_get (fun hset => ?_) fun hclear => ?_
    · obtain rfl : device = true := hset
      refine safe_bind.mpr (safe_swd_.mpr fun _ _ => safe_swd_.mpr ?_)
      rintro ok rfl
      rfl
    · obtain rfl : device = false := hclear
      rfl
  rintro _ t rfl
  refine Safe.bind
    (I := fun _ t => t = (.partlyOpen false false false activated, u + activated.toNat)) ?_ ?_
  · refine safe_whenever_get (fun hset => ?_) fun hclear => ?_
    · obtain rfl : bus = true := hset
      refine safe_bind.mpr (safe_swd_.mpr fun _ _ => safe_swd_.mpr ?_)
      rintro ok rfl
      rfl
    · obtain rfl : bus = false := hclear
      rfl
  rintro _ t rfl
  refine safe_whenever_get (fun hset => ?_) fun hclear => ?_
  · obtain rfl : activated = true := hset
    exact safe_bind.mpr (safe_pin.mpr ⟨Nat.succ_pos u, safe_swd_.mpr fun _ _ => rfl⟩)
  · obtain rfl : activated = false := hclear
    rfl

/-- A session is opened, or what has been opened of it is what the flags say. -/
def Opens (u : ℕ) (answer : Bool) (t : Session × ℕ) : Prop :=
  (answer = true → t = (.opened, u + 1)) ∧ ∃ ctx device bus activated,
    t = (.partlyOpen ctx device bus activated, u + activated.toNat)

theorem initInternal_opens : nrf52swdInitInternal.Safe (sessionView SwdAction.Suits) (Opens u)
    (.closed, u) := by
  unfold nrf52swdInitInternal
  refine Safe.bind
    (I := fun answer t => t = (.partlyOpen false false false answer, u + answer.toNat)) ?_ ?_
  · unfold nrf52swdGpioInit
    refine safe_bind.mpr ⟨trivial, ?_⟩
    rintro configured t rfl
    cases configured with
    | false => rfl
    | true =>
      exact safe_bind.mpr (safe_pin.mpr ⟨trivial, safe_bind.mpr (safe_swd_.mpr fun _ _ => rfl)⟩)
  rintro answer t rfl
  cases answer with
  | false => exact ⟨nofun, false, false, false, false, rfl⟩
  | true =>
    refine safe_bind.mpr (safe_pin.mpr ⟨trivial, safe_bind.mpr (safe_swd.mpr fun ok _ => ?_)⟩)
    cases ok with
    | false => exact ⟨nofun, false, false, false, true, rfl⟩
    | true =>
      refine safe_bind.mpr (safe_swd_.mpr fun _ _ => safe_bind.mpr (safe_swd.mpr fun ok _ => ?_))
      cases ok with
      | false => exact ⟨nofun, false, false, true, true, rfl⟩
      | true =>
        refine safe_bind.mpr (safe_swd_.mpr fun _ _ => safe_bind.mpr (safe_swd.mpr fun ok _ => ?_))
        cases ok with
        | false => exact ⟨nofun, false, true, true, true, rfl⟩
        | true =>
          refine safe_bind.mpr (safe_swd.mpr fun ok _ => ?_)
          cases ok with
          | false => exact ⟨nofun, true, true, true, true, rfl⟩
          | true => exact ⟨fun _ => rfl, true, true, true, true, rfl⟩

/-- Where the nRF52 answers, a session that is not opened is closed again. -/
theorem initSwd_opens : nrf52fwInitSwd.Safe (sessionView SwdAction.Suits)
    (fun answer t => t = if answer then (.opened, u + 1) else (.closed, u)) (.closed, u) := by
  unfold nrf52fwInitSwd
  refine Safe.bind (I := fun answer t => t = if answer then (.opened, u + 1) else (.closed, u))
    ?_ ?_
  · refine initInternal_opens.bind ?_
    rintro answer t ⟨hopened, ctx, device, bus, activated, rfl⟩
    cases answer with
    | true => exact hopened rfl
    | false =>
      refine (deinit_closes ctx device bus activated).bind ?_
      rintro _ t rfl
      rfl
  rintro answer t rfl
  cases answer with
  | false => rfl
  | true =>
    refine safe_bind.mpr (safe_swd.mpr ?_)
    rintro ok rfl
    refine safe_bind.mpr (safe_swd.mpr ?_)
    rintro ok rfl
    refine safe_bind.mpr (safe_swd.mpr ?_)
    rintro ok rfl
    refine safe_bind.mpr (safe_swd.mpr ?_)
    rintro ok rfl
    rfl

theorem updateFwStep0_closes : nrf52fwUpdateFwStep0.Safe (sessionView SwdAction.Suits)
    (fun _ t => t = (.closed, u)) (.closed, u) := by
  unfold nrf52fwUpdateFwStep0
  refine initSwd_opens.bind ?_
  rintro answer t rfl
  cases answer with
  | false => rfl
  | true =>
    refine safe_bind.mpr (safe_swd.mpr fun ok _ => ?_)
    refine Safe.bind (I := fun _ t => t = (.opened, u + 1)) ?_ ?_
    · cases ok with
      | false => rfl
      | true => exact safe_swd.mpr fun _ _ => rfl
    rintro result t rfl
    refine (deinit_closes true true true true).bind ?_
    rintro _ t rfl
    rfl

theorem updateFwIfNecessary_closes : nrf52fwUpdateFwIfNecessary.Safe (sessionView SwdAction.Suits)
    (fun _ t => t = (.closed, u)) (.closed, u) := by
  unfold nrf52fwUpdateFwIfNecessary
  refine hwReset_true.bind ?_
  rintro _ t rfl
  refine hwReset_false.bind ?_
  rintro _ t rfl
  refine updateFwStep0_closes.bind ?_
  rintro res t rfl
  refine hwReset_true.bind ?_
  rintro _ t rfl
  refine hwReset_false.bind ?_
  rintro _ t rfl
  rfl

theorem softwareReset_closes : nrf52fwSoftwareReset.Safe (sessionView SwdAction.Suits)
    (fun _ t => t = (.closed, u)) (.closed, u) := by
  unfold nrf52fwSoftwareReset
  refine initSwd_opens.bind ?_
  rintro answer t rfl
  cases answer with
  | false => rfl
  | true =>
    refine safe_bind.mpr (safe_swd.mpr fun ok _ => ?_)
    cases ok with
    | false =>
      refine (deinit_closes true true true true).bind ?_
      rintro _ t rfl
      rfl
    | true =>
      refine (deinit_closes true true true true).bind ?_
      rintro _ t rfl
      rfl

end GoodOutcomes

section LedsRules

variable {l : Leds} {u : ℕ}

theorem safe_leds_ {a : LedsAction} {post : Unit → Leds × ℕ → Prop} :
    (call_ (.leds a)).Safe ledsView post (l, u) ↔ post () (l.perform a, u) := by
  constructor
  · intro h
    exact h.2 true _ ⟨⟨a, rfl, rfl⟩, rfl⟩
  · intro h
    refine ⟨⟨a, rfl⟩, ?_⟩
    rintro answer ⟨l', u'⟩ ⟨⟨a', ha', hl'⟩, rfl⟩
    obtain rfl := Action.leds.inj ha'
    obtain rfl : l' = l.perform a := hl'
    exact h

/-- What the red LED adds to the share of `leds_task`. -/
def LedsColor.units : LedsColor → ℕ
  | .red => 1
  | .off | .green => 0

/-- The share of `leds_task` between two of its operations. If `shown`, the LED is what
`g_leds_state` says. -/
structure LedsShare (shown : Prop) (s : Leds × ℕ) : Prop where
  share : s.2 = 1 + s.1.ledsState.units
  red : shown → (s.1.redLedOn = true ↔ s.1.ledsState = .red)

variable {shown : Prop}

theorem turnOnRed : ledsTurnOnRed.Safe ledsView
    (fun _ t => t = ({ l with redLedOn := true }, u + 1)) (l, u) :=
  safe_bind.mpr (safe_pin.mpr ⟨trivial, safe_leds_.mpr rfl⟩)

theorem turnOffRed : ledsTurnOffRed.Safe ledsView
    (fun _ t => t = ({ l with redLedOn := false }, u)) (l, u + 1) :=
  safe_bind.mpr (safe_leds_.mpr (safe_pin.mpr ⟨Nat.succ_pos u, rfl⟩))

theorem LedsShare.update (h : LedsShare shown (l, u)) (newColor : LedsColor) :
    (ledsTaskHandleSigUpdate l.ledsState newColor).Safe ledsView (fun _ => LedsShare shown)
      (l, u) := by
  unfold ledsTaskHandleSigUpdate
  split_ifs with hne
  · refine safe_bind.mpr (safe_leds_.mpr ?_)
    obtain ⟨ledsState, redLedOn, greenLedState, beforeReboot⟩ := l
    obtain ⟨hshare, hred⟩ := h
    obtain rfl : u = 1 + ledsState.units := hshare
    -- The red LED stays off where neither color is red.
    have hoff (hcolor : ledsState ≠ .red) (hnew : newColor ≠ .red) (hs : shown) :
        redLedOn = true ↔ newColor = .red :=
      ⟨fun hon => absurd ((hred hs).mp hon) hcolor, fun h => absurd h hnew⟩
    cases ledsState with
    | off =>
      cases newColor with
      | off => exact absurd rfl hne
      | red =>
        refine turnOnRed.mono ?_
        rintro _ t rfl
        exact ⟨rfl, fun _ => ⟨fun _ => rfl, fun _ => rfl⟩⟩
      | green => exact safe_leds_.mpr ⟨rfl, hoff nofun nofun⟩
    | red =>
      cases newColor with
      | off =>
        refine turnOffRed.mono ?_
        rintro _ t rfl
        exact ⟨rfl, fun _ => ⟨nofun, nofun⟩⟩
      | red => exact absurd rfl hne
      | green =>
        refine turnOffRed.bind ?_
        rintro _ t rfl
        exact safe_leds_.mpr ⟨rfl, fun _ => ⟨nofun, nofun⟩⟩
    | green =>
      cases newColor with
      | off => exact safe_leds_.mpr ⟨rfl, hoff nofun nofun⟩
      | red =>
        refine safe_bind.mpr (safe_leds_.mpr (turnOnRed.mono ?_))
        rintro _ t rfl
        exact ⟨rfl, fun _ => ⟨fun _ => rfl, fun _ => rfl⟩⟩
      | green => exact absurd rfl hne
  · exact h

/-- The LED is switched off, on or not, and the nRF52 is held in reset. -/
theorem LedsShare.beforeReboot (h : LedsShare shown (l, u)) (hred : shown → l.ledsState ≠ .red) :
    ledsCbOnEnterStateBeforeReboot.Safe ledsView (fun _ => LedsShare shown) (l, u) := by
  obtain ⟨hshare, -⟩ := h
  obtain rfl : u = l.ledsState.units + 1 := hshare.trans (Nat.add_comm _ _)
  refine turnOffRed.bind ?_
  rintro _ t rfl
  refine hwReset_true.mono ?_
  rintro _ t rfl
  exact ⟨Nat.add_comm _ _, fun hs => ⟨nofun, fun h => absurd h (hred hs)⟩⟩

end LedsRules

end RuuviGateway.Board
