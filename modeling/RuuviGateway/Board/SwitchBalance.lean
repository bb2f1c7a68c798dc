import RuuviGateway.Board.TaskShares

/-!
# The balance of the analog switch

The counter of the switch is the sum of the shares of the tasks, so between their operations it is
what the red LED and the hardware reset at the boot have activated. The update at the boot resets
the nRF52 once more, and then gives back only that.
-/

namespace RuuviGateway.Board

open General Prog

section Shares

variable {w : World} {ok : Bool} {k : Action} {u n : ℕ}

@[simp] theorem perform_booted : (w.perform ok k).2.booted = w.booted := by cases k <;> rfl

@[simp] theorem perform_main : (w.perform ok k).2.main = w.main := by cases k <;> rfl

@[simp] theorem perform_ledsTask : (w.perform ok k).2.ledsTask = w.ledsTask := by cases k <;> rfl

@[simp] theorem perform_workers : (w.perform ok k).2.workers = w.workers := by cases k <;> rfl

/-- The counter is the share of the task and the rest of it. -/
theorem perform_pin {pins : Pins} {a : PinAction} (hreq : a.Requires u)
    (hcnt : pins.switchCtrl.cnt = u + n) :
    (pins.perform ok a).2.switchCtrl.cnt = a.units u + n ∧
      (pins.perform ok a).2.switchCtrl.assertFailed = pins.switchCtrl.assertFailed := by
  cases a with
  | initGpioCfgNreset =>
    have hsame : (pins.perform ok .initGpioCfgNreset).2.switchCtrl = pins.switchCtrl := by
      unfold Pins.perform
      dsimp only
      split_ifs <;> rfl
    rw [hsame]
    exact ⟨hcnt, rfl⟩
  | setNreset level =>
    unfold Pins.perform
    cases ok with
    | false => exact ⟨hcnt, rfl⟩
    | true => exact ⟨hcnt, rfl⟩
  | activate =>
    refine ⟨?_, rfl⟩
    show pins.switchCtrl.cnt + 1 = u + 1 + n
    omega
  | deactivate =>
    have hpos : 0 < u := hreq
    have hne : pins.switchCtrl.cnt ≠ 0 := by omega
    show (gpioSwitchCtrlDeactivate ok pins.switchCtrl).cnt = u - 1 + n ∧ _
    unfold Pins.perform gpioSwitchCtrlDeactivate
    rw [if_neg hne]
    refine ⟨?_, rfl⟩
    show pins.switchCtrl.cnt - 1 = u - 1 + n
    omega

/-- An action of the main task or of `leds_task`. -/
theorem ledsView_step {α : Type} {next : Bool → Prog Action α} {post : α → Leds × ℕ → Prop}
    (h : (Prog.act k next).Safe ledsView post (w.leds, u))
    (hcnt : w.pins.switchCtrl.cnt = u + n) (ok : Bool) :
    ∃ u', (next (w.perform ok k).1).Safe ledsView post ((w.perform ok k).2.leds, u') ∧
      (w.perform ok k).2.pins.switchCtrl.cnt = u' + n ∧
      (w.perform ok k).2.pins.switchCtrl.assertFailed = w.pins.switchCtrl.assertFailed ∧
      (w.perform ok k).2.session = w.session := by
  obtain ⟨hreq, hnext⟩ := h
  cases k with
  | pin a =>
    obtain ⟨hcnt', hassert⟩ := perform_pin hreq hcnt
    exact ⟨a.units u, hnext _ _ rfl, hcnt', hassert, rfl⟩
  | swd a =>
    obtain ⟨a', ha'⟩ := hreq
    cases ha'
  | leds a => exact ⟨u, hnext true _ ⟨⟨a, rfl, rfl⟩, rfl⟩, hcnt, rfl, rfl⟩

/-- An action of a task that works with the session. -/
theorem sessionView_step {α : Type} {allowed : SwdAction → Bool → Prop}
    {next : Bool → Prog Action α} {post : α → Session × ℕ → Prop}
    (h : (Prog.act k next).Safe (sessionView allowed) post (w.session, n))
    (hcnt : w.pins.switchCtrl.cnt = u + n) (hallowed : ∀ a, k = .swd a → allowed a ok) :
    ∃ n', (next (w.perform ok k).1).Safe (sessionView allowed) post
        ((w.perform ok k).2.session, n') ∧
      (w.perform ok k).2.pins.switchCtrl.cnt = u + n' ∧
      (w.perform ok k).2.pins.switchCtrl.assertFailed = w.pins.switchCtrl.assertFailed ∧
      (w.perform ok k).2.leds = w.leds := by
  obtain ⟨hreq, hnext⟩ := h
  cases k with
  | pin a =>
    obtain ⟨hcnt', hassert⟩ := perform_pin hreq (hcnt.trans (Nat.add_comm _ _))
    exact ⟨a.units n, hnext _ _ rfl, hcnt'.trans (Nat.add_comm _ _), hassert, rfl⟩
  | swd a => exact ⟨n, hnext _ _ ⟨⟨a, ok, rfl, hallowed a rfl, rfl⟩, rfl⟩, hcnt, rfl, rfl⟩
  | leds a =>
    obtain ⟨a', ha'⟩ := hreq
    cases ha'

end Shares

section Steps

/-- What a step can do. -/
inductive World.Does (w : World) : Label → World → Prop
  | boot {configured} (hbooted : w.booted = false) : Does w (.boot configured) { w with
      booted := true
      pins := { w.pins with switchCtrl := gpioSwitchCtrlInit configured }
      main := nrf52fwHwResetNrf52 true }
  | main {ok k next} (hmain : w.main = .act k next) :
      Does w (.main ok) { (w.perform ok k).2 with main := next (w.perform ok k).1 }
  | update {newColor} (hidle : w.ledsIdle = true) : Does w (.update newColor)
      { w with ledsTask := ledsTaskHandleSigUpdate w.leds.ledsState newColor }
  | rebootAgain (hidle : w.ledsIdle = true) (hbefore : w.leds.beforeReboot = true) :
      Does w .reboot w
  | reboot (hidle : w.ledsIdle = true) (hbefore : w.leds.beforeReboot = false) :
      Does w .reboot { w with
        leds := { w.leds with beforeReboot := true }
        ledsTask := ledsCbOnEnterStateBeforeReboot }
  | leds {ok k next} (hleds : w.ledsTask = .act k next) :
      Does w (.leds ok) { (w.perform ok k).2 with ledsTask := next (w.perform ok k).1 }
  | updateFw (hbooted : w.booted = true) :
      Does w .updateFw { w with workers := w.workers ++ [nrf52fwUpdateFwIfNecessary] }
  | softwareReset (hbooted : w.booted = true) :
      Does w .softwareReset { w with workers := w.workers ++ [nrf52fwSoftwareReset] }
  | worker {i ok k next} (hworker : w.workers[i]? = some (.act k next)) :
      Does w (.worker i ok) ((w.perform ok k).2.setWorker i (next (w.perform ok k).1))

theorem does_of_step {w w' : World} {l : Label} (h : w.step l = some (w', ())) : w.Does l w' := by
  unfold World.step at h
  cases l with
  | boot configured =>
    dsimp only at h
    split_ifs at h with hbooted
    obtain rfl := (Prod.mk.inj (Option.some.inj h)).1
    exact .boot (Bool.eq_false_iff.mpr hbooted)
  | main ok =>
    dsimp only at h
    split at h
    case h_1 => cases h
    case h_2 k next hmain =>
      obtain rfl := (Prod.mk.inj (Option.some.inj h)).1
      exact .main hmain
  | update newColor =>
    dsimp only at h
    split_ifs at h with hidle
    obtain rfl := (Prod.mk.inj (Option.some.inj h)).1
    exact .update hidle
  | reboot =>
    dsimp only at h
    split_ifs at h with hidle hbefore
    · obtain rfl := (Prod.mk.inj (Option.some.inj h)).1
      exact .rebootAgain hidle hbefore
    · obtain rfl := (Prod.mk.inj (Option.some.inj h)).1
      exact .reboot hidle (Bool.eq_false_iff.mpr hbefore)
  | leds ok =>
    dsimp only at h
    split at h
    case h_1 => cases h
    case h_2 k next hleds =>
      obtain rfl := (Prod.mk.inj (Option.some.inj h)).1
      exact .leds hleds
  | updateFw =>
    dsimp only at h
    split_ifs at h with hready
    obtain rfl := (Prod.mk.inj (Option.some.inj h)).1
    exact .updateFw ((Bool.and_eq_true _ _).mp hready).1
  | softwareReset =>
    dsimp only at h
    split_ifs at h with hready
    obtain rfl := (Prod.mk.inj (Option.some.inj h)).1
    exact .softwareReset ((Bool.and_eq_true _ _).mp hready).1
  | worker i ok =>
    dsimp only at h
    split at h
    case h_1 => cases h
    case h_2 => cases h
    case h_3 k next hworker =>
      obtain rfl := (Prod.mk.inj (Option.some.inj h)).1
      exact .worker hworker

end Steps

section Invariant

variable {G : World → Label → Prop} {allowed : SwdAction → Bool → Prop} {Q : Session × ℕ → Prop}
  {shown : Prop} {w w' : World}

/-- What a guard allows, and what the operations make of a session and of a share. -/
structure Rules (G : World → Label → Prop) (allowed : SwdAction → Bool → Prop)
    (Q : Session × ℕ → Prop) (shown : Prop) : Prop where
  oneAtATime : ∀ w l, G w l → OneAtATime w l
  notRed : ∀ w, G w .reboot → w.leds.beforeReboot = false → shown → w.leds.ledsState ≠ .red
  permitted : ∀ w i ok p a, G w (.worker i ok) → w.workers[i]? = some p →
    p.first = some (.swd a) → allowed a ok
  closed : Q (.closed, 0)
  updateFw : nrf52fwUpdateFwIfNecessary.Keeps (sessionView allowed) Q
  softwareReset : nrf52fwSoftwareReset.Keeps (sessionView allowed) Q

/-- No task works with the session, or one does. -/
inductive WorkerShare (allowed : SwdAction → Bool → Prop) (Q : Session × ℕ → Prop)
    (s : Session × ℕ) : List (Prog Action Bool) → Prop
  | none : Q s → WorkerShare allowed Q s []
  | one {p : Prog Action Bool} : p.Safe (sessionView allowed) (fun _ => Q) s →
      WorkerShare allowed Q s [p]

/-- The counter is the sum of the shares, and what each task still does is right for its share. -/
structure Shares (allowed : SwdAction → Bool → Prop) (Q : Session × ℕ → Prop) (shown : Prop)
    (w : World) : Prop where
  assertOk : w.pins.switchCtrl.assertFailed = false
  waits : w.main.isDone = false → w.ledsTask = .ret ()
  shares : ∃ u n, w.pins.switchCtrl.cnt = u + n ∧
    w.main.Safe ledsView (fun _ s => w.ledsTask.Safe ledsView (fun _ => LedsShare shown) s)
      (w.leds, u) ∧
    WorkerShare allowed Q (w.session, n) w.workers

def Balanced (allowed : SwdAction → Bool → Prop) (Q : Session × ℕ → Prop) (shown : Prop)
    (w : World) : Prop :=
  w = .initial ∨ w.booted = true ∧ Shares allowed Q shown w

theorem Balanced.booted (h : Balanced allowed Q shown w) (hbooted : w.booted = true) :
    Shares allowed Q shown w := by
  rcases h with rfl | ⟨-, hshares⟩
  · cases hbooted
  · exact hshares

theorem Shares.boot (hr : Rules G allowed Q shown) (configured : Bool) :
    Shares allowed Q shown { World.initial with
      booted := true
      pins := { World.initial.pins with switchCtrl := gpioSwitchCtrlInit configured }
      main := nrf52fwHwResetNrf52 true } := by
  refine ⟨rfl, fun _ => rfl, 0, 0, rfl, hwReset_true.mono ?_, .none hr.closed⟩
  rintro _ t rfl
  exact ⟨rfl, fun _ => ⟨nofun, nofun⟩⟩

theorem Shares.main (h : Shares allowed Q shown w) {k : Action} {next : Bool → Prog Action Unit}
    (hmain : w.main = .act k next) (ok : Bool) :
    Shares allowed Q shown { (w.perform ok k).2 with main := next (w.perform ok k).1 } := by
  obtain ⟨hassert, hwaits, u, n, hcnt, hfront, hworkers⟩ := h
  rw [hmain] at hfront hwaits
  obtain ⟨u', hnext, hcnt', hassert', hsession⟩ := ledsView_step hfront hcnt ok
  have hledsTask : (w.perform ok k).2.ledsTask = w.ledsTask := perform_ledsTask
  refine ⟨hassert'.trans hassert, fun _ => hledsTask.trans (hwaits rfl), u', n, hcnt', ?_, ?_⟩
  · rw [hledsTask]
    exact hnext
  · show WorkerShare allowed Q ((w.perform ok k).2.session, n) (w.perform ok k).2.workers
    rw [hsession, perform_workers]
    exact hworkers

/-- `leds_task` is not started before the main task has reset the nRF52. -/
theorem Shares.ledsTask_safe (h : Shares allowed Q shown w) (hmain : w.main.isDone = true) :
    ∃ u n, w.pins.switchCtrl.cnt = u + n ∧
      w.ledsTask.Safe ledsView (fun _ => LedsShare shown) (w.leds, u) ∧
      WorkerShare allowed Q (w.session, n) w.workers := by
  obtain ⟨-, -, u, n, hcnt, hfront, hworkers⟩ := h
  obtain ⟨a, ha⟩ := eq_ret_of_isDone hmain
  rw [ha] at hfront
  exact ⟨u, n, hcnt, hfront, hworkers⟩

theorem Shares.leds (h : Shares allowed Q shown w) {k : Action} {next : Bool → Prog Action Unit}
    (hleds : w.ledsTask = .act k next) (ok : Bool) :
    Shares allowed Q shown { (w.perform ok k).2 with ledsTask := next (w.perform ok k).1 } := by
  have hmain : w.main.isDone = true := by
    by_contra hnot
    have hret := h.waits (Bool.eq_false_iff.mpr hnot)
    rw [hleds] at hret
    cases hret
  obtain ⟨u, n, hcnt, hfront, hworkers⟩ := h.ledsTask_safe hmain
  rw [hleds] at hfront
  obtain ⟨u', hnext, hcnt', hassert', hsession⟩ := ledsView_step hfront hcnt ok
  have hmain' : (w.perform ok k).2.main = w.main := perform_main
  obtain ⟨a, ha⟩ := eq_ret_of_isDone hmain
  refine ⟨hassert'.trans h.assertOk, fun hnot => ?_, u', n, hcnt', ?_, ?_⟩
  · have hdone : (w.perform ok k).2.main.isDone = true := hmain'.symm ▸ hmain
    cases hdone.symm.trans hnot
  · show (w.perform ok k).2.main.Safe ledsView _ _
    rw [hmain', ha]
    exact hnext
  · show WorkerShare allowed Q ((w.perform ok k).2.session, n) (w.perform ok k).2.workers
    rw [hsession, perform_workers]
    exact hworkers

/-- `leds_task` begins an operation. -/
theorem Shares.begin (h : Shares allowed Q shown w) (hidle : w.ledsIdle = true) {leds : Leds}
    {p : Prog Action Unit}
    (hp : ∀ u, LedsShare shown (w.leds, u) →
      p.Safe ledsView (fun _ => LedsShare shown) (leds, u)) :
    Shares allowed Q shown { w with leds := leds, ledsTask := p } := by
  obtain ⟨hbooted, hdone⟩ := (Bool.and_eq_true _ _).mp hidle
  have hmain := ((Bool.and_eq_true _ _).mp hbooted).2
  obtain ⟨u, n, hcnt, hfront, hworkers⟩ := h.ledsTask_safe hmain
  obtain ⟨a, ha⟩ := eq_ret_of_isDone hdone
  obtain ⟨b, hb⟩ := eq_ret_of_isDone hmain
  rw [ha] at hfront
  refine ⟨h.assertOk, fun hnot => ?_, u, n, hcnt, ?_, hworkers⟩
  · cases hmain.symm.trans hnot
  · show w.main.Safe ledsView _ _
    rw [hb]
    exact hp u hfront

/-- A task begins to work with the session, and no other does. -/
theorem Shares.startWorker (h : Shares allowed Q shown w) (hworkers : w.workers = [])
    {p : Prog Action Bool} (hp : p.Keeps (sessionView allowed) Q) :
    Shares allowed Q shown { w with workers := w.workers ++ [p] } := by
  obtain ⟨hassert, hwaits, u, n, hcnt, hfront, hshare⟩ := h
  rw [hworkers] at hshare
  cases hshare with
  | none hQ =>
    refine ⟨hassert, hwaits, u, n, hcnt, hfront, ?_⟩
    show WorkerShare allowed Q (w.session, n) (w.workers ++ [p])
    rw [hworkers]
    exact .one (hp _ hQ)

theorem WorkerShare.setWorker {p p' : Prog Action Bool} {s : Session × ℕ}
    (hworkers : w.workers = [p]) (hp' : p'.Safe (sessionView allowed) (fun _ => Q) s) :
    WorkerShare allowed Q s (w.setWorker 0 p').workers := by
  unfold World.setWorker
  dsimp only
  rw [hworkers]
  cases p' with
  | ret a => exact .none hp'
  | act k next => exact .one hp'

theorem Shares.worker (h : Shares allowed Q shown w) {i : ℕ} {k : Action}
    {next : Bool → Prog Action Bool} (hworker : w.workers[i]? = some (.act k next)) {ok : Bool}
    (hallowed : ∀ a, k = .swd a → allowed a ok) :
    Shares allowed Q shown ((w.perform ok k).2.setWorker i (next (w.perform ok k).1)) := by
  obtain ⟨hassert, hwaits, u, n, hcnt, hfront, hshare⟩ := h
  generalize hworkers : w.workers = workers at hshare hworker
  cases hshare with
  | none hQ => cases hworker
  | one hp =>
    obtain ⟨hi, hk⟩ := List.getElem?_eq_some_iff.mp hworker
    obtain rfl : i = 0 := Nat.lt_one_iff.mp hi
    obtain rfl := hk
    obtain ⟨n', hnext, hcnt', hassert', hleds⟩ := sessionView_step hp hcnt hallowed
    have hworkers' : (w.perform ok k).2.workers = [.act k next] := perform_workers.trans hworkers
    have hmain : (w.perform ok k).2.main = w.main := perform_main
    have hledsTask : (w.perform ok k).2.ledsTask = w.ledsTask := perform_ledsTask
    refine ⟨hassert'.trans hassert, fun hnot => ?_, u, n', hcnt', ?_, .setWorker hworkers' hnext⟩
    · exact hledsTask.trans (hwaits (hmain ▸ hnot))
    · show (w.perform ok k).2.main.Safe ledsView (fun _ s => (w.perform ok k).2.ledsTask.Safe _ _ s)
        ((w.perform ok k).2.leds, u)
      rw [hmain, hledsTask, hleds]
      exact hfront

theorem Balanced.step (hr : Rules G allowed Q shown) (h : Balanced allowed Q shown w) {l : Label}
    (hg : G w l) (hdoes : w.Does l w') : Balanced allowed Q shown w' := by
  cases hdoes with
  | boot hbooted =>
    rcases h with rfl | ⟨hbooted', -⟩
    · exact .inr ⟨rfl, .boot hr _⟩
    · cases hbooted.symm.trans hbooted'
  | main hmain =>
    rcases h with rfl | ⟨hbooted, hshares⟩
    · cases hmain
    · exact .inr ⟨perform_booted.trans hbooted, hshares.main hmain _⟩
  | update hidle =>
    rcases h with rfl | ⟨hbooted, hshares⟩
    · cases hidle
    · exact .inr ⟨hbooted, hshares.begin hidle fun u hu => hu.update _⟩
  | rebootAgain => exact h
  | reboot hidle hbefore =>
    rcases h with rfl | ⟨hbooted, hshares⟩
    · cases hidle
    · refine .inr ⟨hbooted, hshares.begin hidle fun u hu => ?_⟩
      exact LedsShare.beforeReboot ⟨hu.share, hu.red⟩ (hr.notRed w hg hbefore)
  | leds hleds =>
    rcases h with rfl | ⟨hbooted, hshares⟩
    · cases hleds
    · exact .inr ⟨perform_booted.trans hbooted, hshares.leds hleds _⟩
  | updateFw hbooted =>
    exact .inr ⟨hbooted, (h.booted hbooted).startWorker (hr.oneAtATime w _ hg) hr.updateFw⟩
  | softwareReset hbooted =>
    exact .inr ⟨hbooted, (h.booted hbooted).startWorker (hr.oneAtATime w _ hg) hr.softwareReset⟩
  | @worker i ok k next hworker =>
    have hallowed (a : SwdAction) (ha : k = .swd a) : allowed a ok :=
      hr.permitted w i ok _ a hg hworker (congrArg some ha)
    rcases h with rfl | ⟨hbooted, hshares⟩
    · cases hworker
    · exact .inr ⟨perform_booted.trans hbooted, hshares.worker hworker hallowed⟩

theorem Balanced.run (hr : Rules G allowed Q shown) {history : List (Label × Unit)}
    (hrun : board.Run G history w) : Balanced allowed Q shown w :=
  hrun.invariant (.inl rfl) fun _ _ _ _ h hg hstep => h.step hr hg (does_of_step hstep)

end Invariant

section Level

variable {w w' : World} {ok : Bool} {k : Action}

/-- The switch is high while it is counted. -/
structure LevelRight (c : SwitchCtrl) : Prop where
  isOutput : c.isOutput = true
  level : c.level = decide (0 < c.cnt)

theorem LevelRight.activate {c : SwitchCtrl} (h : LevelRight c) (hok : c.cnt = 0 → ok = true) :
    LevelRight (gpioSwitchCtrlActivate ok c) := by
  refine ⟨h.isOutput, ?_⟩
  have hcounted : decide (0 < c.cnt + 1) = true := decide_eq_true (Nat.succ_pos _)
  unfold gpioSwitchCtrlActivate
  dsimp only
  rw [hcounted]
  split_ifs with hzero
  · rw [hok hzero, Bool.or_true]
  · rw [h.level]
    exact decide_eq_true (Nat.pos_of_ne_zero hzero)

theorem LevelRight.deactivate {c : SwitchCtrl} (h : LevelRight c) (hok : c.cnt = 1 → ok = true) :
    LevelRight (gpioSwitchCtrlDeactivate ok c) := by
  unfold gpioSwitchCtrlDeactivate
  split_ifs with hzero hlast
  · exact ⟨h.isOutput, h.level⟩
  · refine ⟨h.isOutput, ?_⟩
    have hone : c.cnt = 1 := by omega
    show (c.level && !ok) = decide (0 < c.cnt - 1)
    rw [hok hone, hlast, Bool.not_true, Bool.and_false]
    rfl
  · refine ⟨h.isOutput, ?_⟩
    show c.level = decide (0 < c.cnt - 1)
    rw [h.level, decide_eq_true (Nat.pos_of_ne_zero hzero),
      decide_eq_true (Nat.pos_of_ne_zero hlast)]

theorem LevelRight.perform (h : LevelRight w.pins.switchCtrl) (hk : k.Suits w ok) :
    LevelRight (w.perform ok k).2.pins.switchCtrl := by
  cases k with
  | swd a => exact h
  | leds a => exact h
  | pin a =>
    cases a with
    | activate => exact h.activate hk
    | deactivate => exact h.deactivate hk
    | setNreset level =>
      show LevelRight (w.pins.perform ok (.setNreset level)).2.switchCtrl
      cases ok with
      | false => exact h
      | true => exact h
    | initGpioCfgNreset =>
      show LevelRight (w.pins.perform ok .initGpioCfgNreset).2.switchCtrl
      unfold Pins.perform
      dsimp only
      split_ifs
      · exact h
      · exact h

theorem LevelRight.step (h : w.booted = true → LevelRight w.pins.switchCtrl) {l : Label}
    (hg : StepSuits w l) (hdoes : w.Does l w') :
    w'.booted = true → LevelRight w'.pins.switchCtrl := by
  intro hbooted
  cases hdoes with
  | boot => exact ⟨hg, rfl⟩
  | @main ok k next hmain =>
    have hk : k.Suits w ok := hg k (congrArg Prog.first hmain)
    exact (h (perform_booted.symm.trans hbooted)).perform hk
  | @leds ok k next hleds =>
    have hk : k.Suits w ok := hg k (congrArg Prog.first hleds)
    exact (h (perform_booted.symm.trans hbooted)).perform hk
  | @worker i ok k next hworker =>
    have hk : k.Suits w ok := hg _ hworker k rfl
    exact (h (perform_booted.symm.trans hbooted)).perform hk
  | update | rebootAgain | reboot | updateFw | softwareReset => exact h hbooted

end Level

section Runs

theorem rules_oneAtATime : Rules OneAtATime (fun _ _ => True) (Covered 0) False where
  oneAtATime _ _ hg := hg
  notRed _ _ _ := False.elim
  permitted _ _ _ _ _ _ _ _ := trivial
  closed := Nat.le_refl 0
  updateFw := keeps_updateFwIfNecessary
  softwareReset := keeps_softwareReset

theorem rules_stepSuits : Rules StepSuits SwdAction.Suits (fun s => s = (.closed, 0)) True where
  oneAtATime w l hg := by
    cases l with
    | updateFw => exact hg
    | softwareReset => exact hg
    | _ => trivial
  notRed _ hg hbefore _ := hg hbefore
  permitted w i ok p a hg hp ha := hg p hp (.swd a) ha
  closed := rfl
  updateFw := by
    rintro _ rfl
    exact updateFwIfNecessary_closes
  softwareReset := by
    rintro _ rfl
    exact softwareReset_closes

variable {w : World}

theorem Shares.closed (h : Shares SwdAction.Suits (fun s => s = (.closed, 0)) True w)
    (hworkers : w.workers = []) : SessionClosed w := by
  obtain ⟨-, -, u, n, -, -, hshare⟩ := h
  rw [hworkers] at hshare
  cases hshare with
  | none hQ =>
    have hsession : w.session = .closed := congrArg Prod.fst hQ
    constructor <;> rw [hsession] <;> rfl

/-- Between the operations the counter has the red LED and one unit more. -/
theorem Shares.counter (h : Shares SwdAction.Suits (fun s => s = (.closed, 0)) True w)
    (hrest : w.AtRest) : w.pins.switchCtrl.cnt = w.leds.redLedOn.toNat + 1 := by
  obtain ⟨hmain, hledsTask, hworkers⟩ := hrest
  obtain ⟨u, n, hcnt, hfront, hshare⟩ := h.ledsTask_safe hmain
  obtain ⟨a, ha⟩ := eq_ret_of_isDone hledsTask
  rw [ha] at hfront
  obtain ⟨hu, hred⟩ : LedsShare True (w.leds, u) := hfront
  rw [hworkers] at hshare
  cases hshare with
  | none hQ =>
    have hn : n = 0 := congrArg Prod.snd hQ
    have hunits : w.leds.ledsState.units = w.leds.redLedOn.toNat := by
      cases hcolor : w.leds.ledsState with
      | red =>
        rw [(hred trivial).mpr hcolor]
        rfl
      | off =>
        rw [Bool.eq_false_iff.mpr fun hon => nomatch hcolor.symm.trans ((hred trivial).mp hon)]
        rfl
      | green =>
        rw [Bool.eq_false_iff.mpr fun hon => nomatch hcolor.symm.trans ((hred trivial).mp hon)]
        rfl
    dsimp only at hu
    omega

/-- The counter is that of the LED and of the reset if the nRF52 is held in reset, and only then. -/
theorem Balanced.counterRight_iff
    (h : Balanced SwdAction.Suits (fun s => s = (.closed, 0)) True w) (hrest : w.AtRest) :
    CounterRight w ↔ (w.booted = true → w.isHeldInReset = true) := by
  rcases h with rfl | ⟨hbooted, hshares⟩
  · exact ⟨nofun, fun _ => rfl⟩
  · have hcnt := hshares.counter hrest
    unfold CounterRight
    rw [hcnt, Nat.add_left_cancel_iff]
    cases hheld : w.isHeldInReset with
    | false => exact ⟨nofun, fun himp => nomatch himp hbooted⟩
    | true => exact ⟨fun _ _ => rfl, fun _ => rfl⟩

/-- While one task at a time works with the session, the assertion holds whatever fails. In the runs
whose steps suit, the level of the switch follows the counter, nothing of a session is left, and the
counter is that of the LED and of the reset where the nRF52 is held in reset, and only there. -/
theorem board_balanced (history : List (Label × Unit)) (w : World) :
    (board.Run OneAtATime history w → w.pins.switchCtrl.assertFailed = false) ∧
      (board.Run StepSuits history w →
        (w.pins.switchCtrl.isHigh = true ↔ 0 < w.pins.switchCtrl.cnt) ∧
        (w.workers = [] → SessionClosed w) ∧
        (w.AtRest → (CounterRight w ↔ (w.booted = true → w.isHeldInReset = true)))) := by
  constructor
  · intro hrun
    rcases Balanced.run rules_oneAtATime hrun with rfl | ⟨-, hshares⟩
    · rfl
    · exact hshares.assertOk
  · intro hrun
    have hbalanced := Balanced.run rules_stepSuits hrun
    refine ⟨?_, fun hworkers => ?_, hbalanced.counterRight_iff⟩
    · have hlevel : w.booted = true → LevelRight w.pins.switchCtrl :=
        hrun.invariant nofun fun _ _ _ _ h hg hstep => LevelRight.step h hg (does_of_step hstep)
      rcases hbalanced with rfl | ⟨hbooted, -⟩
      · exact ⟨nofun, nofun⟩
      · obtain ⟨houtput, hlevel⟩ := hlevel hbooted
        unfold SwitchCtrl.isHigh
        rw [houtput, hlevel, Bool.true_and]
        exact decide_eq_true_iff
    · rcases hbalanced with rfl | ⟨-, hshares⟩
      · exact ⟨rfl, rfl, rfl, rfl⟩
      · exact hshares.closed hworkers

def sampleBoot : List Label := [.boot true, .main true, .main true, .main true]

def sampleRedLed : List Label := [.update .red, .leds true, .leds true, .leds true]

/-- An update whose actions all succeed. -/
def sampleUpdateFw : List Label := .updateFw :: List.replicate 40 (.worker 0 true)

/-- The nRF52 does not answer with its ID code. -/
def sampleUpdateFwFails : List Label :=
  .updateFw :: List.replicate 16 (.worker 0 true) ++ [.worker 0 false] ++
    List.replicate 6 (.worker 0 true)

/-- No task is within an operation, with this value of the counter. -/
def World.restsAt (w : World) (cnt : ℕ) : Bool :=
  w.main.isDone && w.ledsTask.isDone && w.workers.isEmpty && decide (w.pins.switchCtrl.cnt = cnt)

theorem atRest_of_restsAt {cnt : ℕ} (h : w.restsAt cnt = true) :
    w.AtRest ∧ w.pins.switchCtrl.cnt = cnt := by
  unfold World.restsAt at h
  rw [Bool.and_eq_true, Bool.and_eq_true, Bool.and_eq_true] at h
  obtain ⟨⟨⟨hmain, hledsTask⟩, hworkers⟩, hcnt⟩ := h
  exact ⟨⟨hmain, hledsTask, List.isEmpty_iff.mp hworkers⟩, of_decide_eq_true hcnt⟩

/-- The nRF52 is held in reset and the red LED is on. Then the nRF52 is updated. -/
theorem board_balanced_sample :
    (∃ history w, board.Run StepSuits history w ∧ w.pins.switchCtrl.cnt = 2 ∧ CounterRight w) ∧
      ∃ history w, board.Run StepSuits history w ∧ w.isHeldInReset = false ∧ SessionClosed w := by
  constructor
  · obtain ⟨history, w, hrun, hw⟩ := System.exists_run_of_exec (S := board) (G := StepSuits)
      (P := fun w => w.restsAt 2 && w.isHeldInReset) (sampleBoot ++ sampleRedLed)
      (by decide +kernel)
    obtain ⟨hrests, hheld⟩ := (Bool.and_eq_true _ _).mp hw
    obtain ⟨hrest, hcnt⟩ := atRest_of_restsAt hrests
    obtain ⟨-, -, hcounter⟩ := (board_balanced history w).2 hrun
    exact ⟨history, w, hrun, hcnt, (hcounter hrest).mpr fun _ => hheld⟩
  · obtain ⟨history, w, hrun, hw⟩ := System.exists_run_of_exec (S := board) (G := StepSuits)
      (P := fun w => w.restsAt 2 && !w.isHeldInReset)
      (sampleBoot ++ sampleRedLed ++ sampleUpdateFw) (by decide +kernel)
    obtain ⟨hrests, hheld⟩ := (Bool.and_eq_true _ _).mp hw
    obtain ⟨-, hclosed, -⟩ := (board_balanced history w).2 hrun
    have hworkers := (atRest_of_restsAt hrests).1.2.2
    exact ⟨history, w, hrun, (Bool.not_eq_true' _).mp hheld, hclosed hworkers⟩

/-- The update at the boot resets an nRF52 that is already held in reset, so the switch stays on.
The reboot is announced while the red LED is on, and `g_leds_state` keeps the share of the LED. An
nRF52 that does not answer leaves the session open. -/
theorem board_notBalanced :
    (∃ history w, board.Run StepSuits history w ∧ w.AtRest ∧ ¬CounterRight w) ∧
      (∃ history w, board.Run OneAtATime history w ∧ w.AtRest ∧ w.isHeldInReset = true ∧
        ¬CounterRight w) ∧
      ∃ history w, board.Run OneAtATime history w ∧ w.AtRest ∧ ¬SessionClosed w := by
  refine ⟨?_, ?_, ?_⟩
  · obtain ⟨history, w, hrun, hw⟩ := System.exists_run_of_exec (S := board) (G := StepSuits)
      (P := fun w => w.restsAt 1 && (!w.isHeldInReset && !w.leds.redLedOn))
      (sampleBoot ++ sampleUpdateFw) (by decide +kernel)
    obtain ⟨hrests, hoff⟩ := (Bool.and_eq_true _ _).mp hw
    obtain ⟨hheld, hred⟩ := (Bool.and_eq_true _ _).mp hoff
    obtain ⟨hrest, hcnt⟩ := atRest_of_restsAt hrests
    refine ⟨history, w, hrun, hrest, fun hcounter => ?_⟩
    unfold CounterRight at hcounter
    rw [hcnt, (Bool.not_eq_true' _).mp hheld, (Bool.not_eq_true' _).mp hred] at hcounter
    cases hcounter
  · obtain ⟨history, w, hrun, hw⟩ := System.exists_run_of_exec (S := board) (G := OneAtATime)
      (P := fun w => w.restsAt 2 && (w.isHeldInReset && !w.leds.redLedOn))
      (sampleBoot ++ sampleRedLed ++ .reboot :: List.replicate 5 (.leds true)) (by decide +kernel)
    obtain ⟨hrests, hoff⟩ := (Bool.and_eq_true _ _).mp hw
    obtain ⟨hheld, hred⟩ := (Bool.and_eq_true _ _).mp hoff
    obtain ⟨hrest, hcnt⟩ := atRest_of_restsAt hrests
    refine ⟨history, w, hrun, hrest, hheld, fun hcounter => ?_⟩
    unfold CounterRight at hcounter
    rw [hcnt, hheld, (Bool.not_eq_true' _).mp hred] at hcounter
    cases hcounter
  · obtain ⟨history, w, hrun, hw⟩ := System.exists_run_of_exec (S := board) (G := OneAtATime)
      (P := fun w => w.restsAt 2 && w.session.spiBus)
      (sampleBoot ++ sampleUpdateFwFails) (by decide +kernel)
    obtain ⟨hrests, hbus⟩ := (Bool.and_eq_true _ _).mp hw
    refine ⟨history, w, hrun, (atRest_of_restsAt hrests).1, fun hclosed => ?_⟩
    exact Bool.false_ne_true (hclosed.spiBus.symm.trans hbus)

end Runs

end RuuviGateway.Board
