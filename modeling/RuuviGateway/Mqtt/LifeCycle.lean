import RuuviGateway.Mqtt.Client

/-!
# The life cycle of the MQTT client

The buffers of certificates are lost if a start finds some that an earlier start has left. Apart
from that everything is released once. The library is called with NULL if the memory for its
configuration is not allocated, and if a client is stopped before its connection is announced. -/

namespace RuuviGateway.Mqtt

open General Config

section Held

variable {w w' : World} {lost : List (ObjKind × ℕ)}

/-- The buffers that the pointers hold. -/
def World.bufs (w : World) : List (ObjKind × ℕ) :=
  Ledger.heldAt .cert w.data.strBufServerCertMqtt ++
    (Ledger.heldAt .cert w.data.strBufClientKey ++ Ledger.heldAt .cert w.data.strBufClientCert)

/-- The configuration of the client while it is started. -/
def Phase.cliCfg : Phase → Option ℕ
  | .init cliCfg _ => cliCfg
  | .clientStart cliCfg _ => cliCfg
  | .free => none
  | .start _ _ => none
  | .stop => none
  | .destroy => none

def World.held (w : World) : List (ObjKind × ℕ) :=
  Ledger.heldAt .client w.data.mqttClient ++ (w.bufs ++ Ledger.heldAt .config w.phase.cliCfg)

/-- Each object is held, or it is lost, or it was released once. -/
def World.Balanced (w : World) (lost : List (ObjKind × ℕ)) : Prop :=
  w.ledger.Settled (w.held ++ lost)

/-- The started bit and the client in the phases of the task that has the mutex. -/
def World.Fits (w : World) : Prop :=
  match w.phase with
  | .free => w.mqttStarted = w.data.mqttClient.isSome
  | .start _ _ => w.mqttStarted = w.data.mqttClient.isSome
  | .init _ _ => w.mqttStarted = false ∧ w.data.mqttClient = none
  | .clientStart _ _ => w.mqttStarted = false ∧ w.data.mqttClient.isSome = true
  | .stop => w.mqttStarted = w.data.mqttClient.isSome
  | .destroy => w.data.mqttClient.isSome = true

structure World.Consistent (w : World) (lost : List (ObjKind × ℕ)) : Prop where
  balanced : w.Balanced lost
  fits : w.Fits

theorem held_perm (client bufs cliCfg lost : List (ObjKind × ℕ)) :
    (cliCfg ++ (client ++ (bufs ++ lost))).Perm ((client ++ (bufs ++ cliCfg)) ++ lost) := by
  rw [List.append_assoc, List.append_assoc]
  exact (List.perm_append_comm_assoc ..).trans ((List.perm_append_comm_assoc ..).append_left _)

/-- Without a client and a configuration only buffers are held. -/
theorem balanced_iff (hclient : w.data.mqttClient = none) (hcfg : w.phase.cliCfg = none) :
    w.Balanced lost ↔ w.ledger.Settled (w.bufs ++ lost) := by
  rw [World.Balanced, World.held, hclient, hcfg, Ledger.heldAt_none, Ledger.heldAt_none,
    List.nil_append, List.append_nil]

theorem World.Balanced.freeBufs (h : w.Balanced lost) (hclient : w.data.mqttClient = none)
    (hcfg : w.phase.cliCfg = none) : w.freeBufs.Balanced lost := by
  rw [balanced_iff hclient hcfg, World.bufs, List.append_assoc, List.append_assoc] at h
  rw [balanced_iff (by exact hclient) (by exact hcfg)]
  have hserver := h.release.of_perm (List.perm_append_comm_assoc ..)
  exact hserver.release.release

theorem consistent_stopEnd (h : w.Balanced lost) (hclient : w.data.mqttClient = none)
    (hcfg : w.phase.cliCfg = none) : (stopEnd w).Consistent lost := by
  refine ⟨?_, ?_⟩
  · have hfree := h.freeBufs hclient hcfg
    rw [balanced_iff (by exact hclient) (by exact hcfg)] at hfree
    rw [balanced_iff (by exact hclient) rfl]
    exact hfree
  · unfold World.Fits
    exact (congrArg Option.isSome hclient).symm

end Held

section Sections

variable {w : World} {lost : List (ObjKind × ℕ)} {cfg : GwCfgMqtt} {o : StartOutcome}
  {cliCfg : Option ℕ}

/-- The buffers that were held before are lost. -/
theorem World.Balanced.readBufs (h : w.Balanced lost) (hclient : w.data.mqttClient = none)
    (hcfg : w.phase.cliCfg = none) : (readBufs cfg o w).Balanced (w.bufs ++ lost) := by
  rw [balanced_iff hclient hcfg] at h
  have hclientCert := h.obtain .cert (cfg.useSslClientCert && o.clientCertRead)
  have hclientKey := hclientCert.obtain .cert (cfg.useSslClientCert && o.clientKeyRead)
  have hserverCert := hclientKey.obtain .cert (cfg.useSslServerCert && o.serverCertRead)
  rw [balanced_iff (by exact hclient) (by exact hcfg), World.bufs, List.append_assoc,
    List.append_assoc]
  exact hserverCert

theorem consistent_mqttAppStartInternal (h : w.Balanced lost) (hclient : w.data.mqttClient = none)
    (hcfg : w.phase.cliCfg = none) (hstarted : w.mqttStarted = false) :
    (mqttAppStartInternal cfg o w).Consistent (w.bufs ++ lost) := by
  have hcleared : (gwStatusClearMqttConnectedAndError w).Balanced lost := h
  have hread : (readBufs cfg o (gwStatusClearMqttConnectedAndError w)).Balanced (w.bufs ++ lost) :=
    hcleared.readBufs hclient hcfg
  rw [balanced_iff (by exact hclient) (by exact hcfg)] at hread
  have hstarted' : w.mqttStarted = w.data.mqttClient.isSome := by
    rw [hstarted, hclient]
    rfl
  unfold mqttAppStartInternal
  dsimp only
  split_ifs
  · refine ⟨?_, hstarted'⟩
    rw [balanced_iff (by exact hclient) rfl]
    exact hread
  · have hnone : Ledger.heldAt ObjKind.client w.data.mqttClient = [] := by
      rw [hclient]
      rfl
    rw [← List.nil_append ((readBufs _ _ _).bufs ++ _), ← hnone] at hread
    refine ⟨?_, hstarted, hclient⟩
    exact (hread.obtain .config o.cliCfgAllocated).of_perm (held_perm ..)

/-- The configuration is freed in the end. -/
theorem World.Balanced.releaseCliCfg (h : w.Balanced lost) (hcfg : w.phase.cliCfg = cliCfg) :
    ((w.release .config cliCfg).unlock).Balanced lost := by
  subst hcfg
  have hperm := (held_perm (Ledger.heldAt .client w.data.mqttClient) w.bufs
    (Ledger.heldAt .config w.phase.cliCfg) lost).symm
  have hrelease := (h.of_perm hperm).release
  rw [← List.append_assoc] at hrelease
  have hheld : (w.release .config w.phase.cliCfg).unlock.held =
      Ledger.heldAt .client w.data.mqttClient ++ w.bufs := congrArg _ (List.append_nil _)
  rw [World.Balanced, hheld]
  exact hrelease

theorem World.Balanced.obtainClient (h : w.Balanced lost) (hclient : w.data.mqttClient = none)
    (success : Bool) :
    { (w.obtain .client success).2 with
      data := { w.data with mqttClient := (w.obtain .client success).1 } }.Balanced lost := by
  rw [World.Balanced, World.held, hclient, Ledger.heldAt_none, List.nil_append] at h
  have hobtain := h.obtain .client success
  rw [← List.append_assoc] at hobtain
  exact hobtain

theorem World.Balanced.releaseClient (h : w.Balanced lost) :
    { w.release .client w.data.mqttClient with
      data := { w.data with mqttClient := none } }.Balanced lost := by
  rw [World.Balanced, World.held, List.append_assoc] at h
  exact h.release

theorem consistent_clientInit (h : w.Consistent lost) (hphase : w.phase = .init cliCfg o) :
    (clientInit cliCfg o w).1.Consistent lost := by
  have hfits := h.fits
  have hcliCfg : w.phase.cliCfg = cliCfg := by rw [hphase]; rfl
  unfold World.Fits at hfits
  rw [hphase] at hfits
  obtain ⟨hstarted, hclient⟩ := hfits
  have hobtain := h.balanced.obtainClient hclient o.clientInit
  unfold clientInit
  cases hinit : o.clientInit with
  | false =>
    rw [hinit] at hobtain
    exact ⟨hobtain.releaseCliCfg hcliCfg, hstarted⟩
  | true =>
    rw [hinit] at hobtain
    refine ⟨?_, hstarted, rfl⟩
    rw [World.Balanced, World.held] at hobtain
    exact hcliCfg ▸ hobtain

theorem consistent_clientStart (h : w.Consistent lost) (hphase : w.phase = .clientStart cliCfg o) :
    (clientStart cliCfg o w).1.Consistent lost := by
  have hfits := h.fits
  have hcliCfg : w.phase.cliCfg = cliCfg := by rw [hphase]; rfl
  unfold World.Fits at hfits
  rw [hphase] at hfits
  obtain ⟨hstarted, hclient⟩ := hfits
  unfold clientStart
  dsimp only
  split_ifs
  · exact ⟨h.balanced.releaseCliCfg hcliCfg, hclient.symm⟩
  · exact ⟨h.balanced.releaseClient.releaseCliCfg hcliCfg, hstarted⟩

theorem consistent_clientDestroy (h : w.Consistent lost) (hphase : w.phase = .destroy) :
    (clientDestroy w).1.Consistent lost := by
  refine consistent_stopEnd h.balanced.releaseClient rfl ?_
  exact congrArg Phase.cliCfg hphase

theorem consistent_mqttAppStart (h : w.Consistent lost) (hphase : w.phase = .start cfg o) :
    (mqttAppStart cfg o w).1.Consistent
      ((if w.data.mqttClient.isSome then [] else w.bufs) ++ lost) := by
  have hfits := h.fits
  have hcliCfg : w.phase.cliCfg = none := by rw [hphase]; rfl
  unfold World.Fits at hfits
  rw [hphase] at hfits
  unfold mqttAppStart
  split_ifs with hclient
  · refine ⟨?_, hfits⟩
    have hbalanced := h.balanced
    rw [World.Balanced, World.held, hcliCfg] at hbalanced
    exact hbalanced
  · rw [Option.not_isSome_iff_eq_none] at hclient
    rw [hclient] at hfits
    exact consistent_mqttAppStartInternal h.balanced hclient hcliCfg hfits

theorem consistent_mqttAppStop (h : w.Consistent lost) (hphase : w.phase = .stop) :
    (mqttAppStop w).1.Consistent lost := by
  have hcliCfg : w.phase.cliCfg = none := by rw [hphase]; rfl
  rw [mqttAppStop]
  by_cases hclient : w.data.mqttClient.isSome = true
  · rw [if_pos hclient]
    refine ⟨?_, hclient⟩
    have hbalanced := h.balanced
    rw [World.Balanced, World.held, hcliCfg] at hbalanced
    exact hbalanced
  · rw [if_neg hclient]
    exact consistent_stopEnd h.balanced (Option.not_isSome_iff_eq_none.mp hclient) hcliCfg

end Sections

section Steps

variable {w w' : World} {lost : List (ObjKind × ℕ)} {l : Label} {calls : List EspMqttCall}

/-- The buffers that a step loses: those that are held when a start overwrites their pointers. -/
def lostBy (w : World) : Label → List (ObjKind × ℕ)
  | .goOn =>
    match w.phase with
    | .start _ _ => if w.data.mqttClient.isSome then [] else w.bufs
    | _ => []
  | _ => []

/-- The condition of a section: no buffers are left when a client is started, and its configuration
is allocated. -/
def Phase.Meets (w : World) : Phase → Prop
  | .start _ _ => w.data.mqttClient.isSome = true ∨ w.bufs = []
  | .init cliCfg _ => cliCfg.isSome = true
  | .free => True
  | .clientStart _ _ => True
  | .stop => True
  | .destroy => True

instance (w : World) : (phase : Phase) → Decidable (phase.Meets w)
  | .start _ _ => inferInstanceAs (Decidable (_ ∨ _))
  | .init cliCfg _ => inferInstanceAs (Decidable (cliCfg.isSome = true))
  | .free => inferInstanceAs (Decidable True)
  | .clientStart _ _ => inferInstanceAs (Decidable True)
  | .stop => inferInstanceAs (Decidable True)
  | .destroy => inferInstanceAs (Decidable True)

/-- The condition of a step: that of its section, and there is a client when its connection is
announced. -/
def Meets (w : World) : Label → Prop
  | .goOn => w.phase.Meets w
  | .advMqttPublish _ => w.advMqtt = .connected → w.data.mqttClient.isSome = true
  | .mqttAppStart _ _ => True
  | .startWithoutCfg => True
  | .mqttAppStop => True
  | .event _ => True
  | .takeConnected => True
  | .recvAdv _ => True
  | .advPostPublish _ => True

instance (w : World) : (l : Label) → Decidable (Meets w l)
  | .goOn => inferInstanceAs (Decidable (w.phase.Meets w))
  | .advMqttPublish _ => inferInstanceAs (Decidable (_ → _))
  | .mqttAppStart _ _ => inferInstanceAs (Decidable True)
  | .startWithoutCfg => inferInstanceAs (Decidable True)
  | .mqttAppStop => inferInstanceAs (Decidable True)
  | .event _ => inferInstanceAs (Decidable True)
  | .takeConnected => inferInstanceAs (Decidable True)
  | .recvAdv _ => inferInstanceAs (Decidable True)
  | .advPostPublish _ => inferInstanceAs (Decidable True)

theorem World.Consistent.of_eq (h : w.Consistent lost) (hdata : w'.data = w.data)
    (hphase : w'.phase = w.phase) (hstarted : w'.mqttStarted = w.mqttStarted)
    (hledger : w'.ledger = w.ledger) : w'.Consistent lost := by
  obtain ⟨hbalanced, hfits⟩ := h
  constructor
  · unfold World.Balanced World.held World.bufs at hbalanced ⊢
    rwa [hledger, hdata, hphase]
  · unfold World.Fits at hfits ⊢
    rwa [hphase, hstarted, hdata]

theorem lock_consistent (h : w.Consistent lost) {phase : Phase}
    (hstep : w.lock phase = some (w', calls))
    (hfits : w.mqttStarted = w.data.mqttClient.isSome → ({ w with phase := phase } : World).Fits)
    (hcliCfg : phase.cliCfg = none) : w'.Consistent lost ∧ calls = [] := by
  have hfree := h.fits
  have hbalanced := h.balanced
  unfold World.lock at hstep
  unfold World.Fits at hfree
  split at hstep
  case h_1 hphase =>
    obtain ⟨rfl, rfl⟩ := Prod.mk.inj (Option.some.inj hstep)
    rw [hphase] at hfree
    refine ⟨⟨?_, hfits hfree⟩, rfl⟩
    rw [World.Balanced, World.held, hphase] at hbalanced
    rw [World.Balanced, World.held, hcliCfg]
    exact hbalanced
  case h_2 => cases hstep

theorem publish_eq {advMqtt : AdvMqtt} {calls' : List EspMqttCall}
    (hstep : w.publish calls advMqtt = some (w', calls')) :
    w' = { w with advMqtt := advMqtt } ∧ calls' = calls := by
  unfold World.publish at hstep
  split at hstep
  case h_1 =>
    obtain ⟨rfl, rfl⟩ := Prod.mk.inj (Option.some.inj hstep)
    exact ⟨rfl, rfl⟩
  case h_2 => cases hstep

theorem goOn_consistent (h : w.Consistent lost) (hstep : w.goOn = some (w', calls)) :
    w'.Consistent (lostBy w .goOn ++ lost) := by
  unfold World.goOn at hstep
  unfold lostBy
  cases hphase : w.phase with
  | free =>
    rw [hphase] at hstep
    cases hstep
  | start cfg o =>
    rw [hphase] at hstep
    have hstart := consistent_mqttAppStart h hphase
    rwa [Option.some.inj hstep] at hstart
  | init cliCfg o =>
    rw [hphase] at hstep
    have hinit := consistent_clientInit h hphase
    rwa [Option.some.inj hstep] at hinit
  | clientStart cliCfg o =>
    rw [hphase] at hstep
    have hstart := consistent_clientStart h hphase
    rwa [Option.some.inj hstep] at hstart
  | stop =>
    rw [hphase] at hstep
    have hstop := consistent_mqttAppStop h hphase
    rwa [Option.some.inj hstep] at hstop
  | destroy =>
    rw [hphase] at hstep
    have hdestroy := consistent_clientDestroy h hphase
    rwa [Option.some.inj hstep] at hdestroy

theorem advMqttHandleSigRecvAdv_spec (r : RecvAdv) (w : World) :
    (∃ advMqtt, (advMqttHandleSigRecvAdv r w).1 = { w with advMqtt := advMqtt }) ∧
      (advMqttHandleSigRecvAdv r w).2 = [] := by
  unfold advMqttHandleSigRecvAdv mqttIsBufferAvailableForPublish
  rw [if_pos rfl]
  dsimp only
  split_ifs
  · exact ⟨⟨_, rfl⟩, rfl⟩
  · exact ⟨⟨_, rfl⟩, rfl⟩
  · exact ⟨⟨_, rfl⟩, rfl⟩
  · exact ⟨⟨_, rfl⟩, rfl⟩

/-- Each step keeps the balance with what it loses. -/
theorem step_consistent (h : w.Consistent lost) (hstep : w.step l = some (w', calls)) :
    w'.Consistent (lostBy w l ++ lost) := by
  cases l with
  | mqttAppStart cfg o => exact (lock_consistent h hstep id rfl).1
  | startWithoutCfg =>
    obtain ⟨rfl, rfl⟩ := Prod.mk.inj (Option.some.inj hstep)
    exact h.of_eq rfl rfl rfl rfl
  | mqttAppStop => exact (lock_consistent h hstep id rfl).1
  | goOn => exact goOn_consistent h hstep
  | event ev =>
    simp only [World.step] at hstep
    split_ifs at hstep
    obtain ⟨rfl, rfl⟩ := Prod.mk.inj (Option.some.inj hstep)
    cases ev <;> exact h.of_eq rfl rfl rfl rfl
  | takeConnected =>
    simp only [World.step] at hstep
    split_ifs at hstep
    obtain ⟨rfl, rfl⟩ := Prod.mk.inj (Option.some.inj hstep)
    exact h.of_eq rfl rfl rfl rfl
  | recvAdv r =>
    simp only [World.step] at hstep
    split_ifs at hstep
    obtain ⟨⟨advMqtt, hrecv⟩, -⟩ := advMqttHandleSigRecvAdv_spec r w
    rw [Option.some.inj hstep] at hrecv
    dsimp only at hrecv
    rw [hrecv]
    exact h.of_eq rfl rfl rfl rfl
  | advMqttPublish msg =>
    simp only [World.step, World.advMqttPublish] at hstep
    split at hstep
    · cases hstep
    · rw [(publish_eq hstep).1]
      exact h.of_eq rfl rfl rfl rfl
    · rw [(publish_eq hstep).1]
      exact h.of_eq rfl rfl rfl rfl
  | advPostPublish msg =>
    rw [(publish_eq hstep).1]
    exact h.of_eq rfl rfl rfl rfl

/-- The library is called with NULL in no call. -/
def NonNull (calls : List EspMqttCall) : Prop := ∀ call ∈ calls, call.arg.isSome = true

theorem nonNull_nil : NonNull [] := List.forall_mem_nil _

theorem nonNull_singleton (call : EspMqttCall) : NonNull [call] ↔ call.arg.isSome = true :=
  List.forall_mem_singleton

theorem nonNull_publishAdv (w : World) (msg : Message) : NonNull (mqttPublishAdv w msg) := by
  unfold mqttPublishAdv
  split_ifs with _ hclient
  · exact nonNull_nil
  · exact nonNull_nil
  · exact nonNull_nil
  · rw [Option.isNone_iff_eq_none, ← Option.not_isSome_iff_eq_none, not_not] at hclient
    exact (nonNull_singleton _).mpr hclient

theorem mqttAppStart_calls (cfg : GwCfgMqtt) (o : StartOutcome) (w : World) :
    (mqttAppStart cfg o w).2 = [] := by
  unfold mqttAppStart
  split_ifs <;> rfl

theorem clientInit_calls (cliCfg : Option ℕ) (o : StartOutcome) (w : World) :
    (clientInit cliCfg o w).2 = [.init cliCfg] := by
  unfold clientInit
  dsimp only
  split_ifs <;> rfl

theorem nonNull_clientStart (hclient : w.data.mqttClient.isSome = true) (cliCfg : Option ℕ)
    (o : StartOutcome) : NonNull (clientStart cliCfg o w).2 := by
  unfold clientStart
  dsimp only
  split_ifs
  · exact (nonNull_singleton _).mpr hclient
  · exact List.forall_mem_cons.mpr ⟨hclient, (nonNull_singleton _).mpr hclient⟩

theorem nonNull_mqttAppStop (w : World) : NonNull (mqttAppStop w).2 := by
  rw [mqttAppStop]
  by_cases hclient : w.data.mqttClient.isSome = true
  · rw [if_pos hclient]
    dsimp only
    split_ifs
    · exact (nonNull_singleton _).mpr hclient
    · exact nonNull_nil
  · rw [if_neg hclient]
    exact nonNull_nil

theorem goOn_meets (h : w.Consistent lost) (hstep : w.goOn = some (w', calls)) :
    lostBy w .goOn = [] ∧ NonNull calls ↔ Meets w .goOn := by
  have hfits := h.fits
  unfold World.goOn at hstep
  unfold World.Fits at hfits
  unfold lostBy Meets
  cases hphase : w.phase with
  | free =>
    rw [hphase] at hstep
    cases hstep
  | start cfg o =>
    rw [Phase.Meets]
    rw [hphase] at hstep
    have hcalls := mqttAppStart_calls cfg o w
    rw [Option.some.inj hstep] at hcalls
    dsimp only at hcalls ⊢
    rw [hcalls, and_iff_left nonNull_nil]
    by_cases hclient : w.data.mqttClient.isSome = true
    · rw [if_pos hclient]
      exact iff_of_true rfl (.inl hclient)
    · rw [if_neg hclient, or_iff_right hclient]
  | init cliCfg o =>
    rw [hphase] at hstep
    have hcalls := clientInit_calls cliCfg o w
    rw [Option.some.inj hstep] at hcalls
    dsimp only at hcalls ⊢
    rw [hcalls, nonNull_singleton, and_iff_right rfl]
    rfl
  | clientStart cliCfg o =>
    rw [hphase] at hstep hfits
    have hcalls := nonNull_clientStart hfits.2 cliCfg o
    rw [Option.some.inj hstep] at hcalls
    exact iff_of_true ⟨rfl, hcalls⟩ trivial
  | stop =>
    rw [hphase] at hstep
    have hcalls := nonNull_mqttAppStop w
    rw [Option.some.inj hstep] at hcalls
    exact iff_of_true ⟨rfl, hcalls⟩ trivial
  | destroy =>
    rw [hphase] at hstep hfits
    obtain ⟨-, rfl⟩ := Prod.mk.inj (Option.some.inj hstep)
    exact iff_of_true ⟨rfl, (nonNull_singleton _).mpr hfits⟩ trivial

/-- A step that meets its condition loses nothing and passes no NULL, and no other step does. -/
theorem step_meets (h : w.Consistent lost) (hstep : w.step l = some (w', calls)) :
    lostBy w l = [] ∧ NonNull calls ↔ Meets w l := by
  cases l with
  | mqttAppStart cfg o =>
    rw [(lock_consistent h hstep id rfl).2]
    exact iff_of_true ⟨rfl, nonNull_nil⟩ trivial
  | startWithoutCfg =>
    obtain ⟨-, rfl⟩ := Prod.mk.inj (Option.some.inj hstep)
    exact iff_of_true ⟨rfl, nonNull_nil⟩ trivial
  | mqttAppStop =>
    rw [(lock_consistent h hstep id rfl).2]
    exact iff_of_true ⟨rfl, nonNull_nil⟩ trivial
  | goOn => exact goOn_meets h hstep
  | event ev =>
    simp only [World.step] at hstep
    split_ifs at hstep
    obtain ⟨-, rfl⟩ := Prod.mk.inj (Option.some.inj hstep)
    exact iff_of_true ⟨rfl, nonNull_nil⟩ trivial
  | takeConnected =>
    simp only [World.step] at hstep
    split_ifs at hstep
    obtain ⟨-, rfl⟩ := Prod.mk.inj (Option.some.inj hstep)
    exact iff_of_true ⟨rfl, nonNull_nil⟩ trivial
  | recvAdv r =>
    simp only [World.step] at hstep
    split_ifs at hstep
    have hcalls := (advMqttHandleSigRecvAdv_spec r w).2
    rw [Option.some.inj hstep] at hcalls
    dsimp only at hcalls
    rw [hcalls]
    exact iff_of_true ⟨rfl, nonNull_nil⟩ trivial
  | advMqttPublish msg =>
    simp only [World.step, World.advMqttPublish] at hstep
    split at hstep
    case h_1 => cases hstep
    case h_2 hadv =>
      rw [(publish_eq hstep).2, mqttPublishConnect, nonNull_singleton, Meets, hadv]
      exact ⟨fun hboth _ => hboth.2, fun hmeets => ⟨rfl, hmeets rfl⟩⟩
    case h_3 hadv =>
      rw [(publish_eq hstep).2, Meets, hadv]
      exact iff_of_true ⟨rfl, nonNull_publishAdv w msg⟩ nofun
  | advPostPublish msg =>
    rw [(publish_eq hstep).2]
    exact iff_of_true ⟨rfl, nonNull_publishAdv w msg⟩ trivial

end Steps

section Runs

variable {w : World} {history : List (Label × List EspMqttCall)}

/-- The client was initialised and has not been destroyed. -/
def World.Exists (w : World) (n : ℕ) : Prop :=
  (.client, n) ∈ w.ledger.obtained ∧ (.client, n) ∉ w.ledger.released

/-- What holds in every state that is reached. -/
structure Safe (history : List (Label × List EspMqttCall)) (w : World) : Prop where
  oneClient : ∀ n n', w.Exists n → w.Exists n' → n = n'
  started : w.phase = .free → (w.mqttStarted = true ↔ w.data.mqttClient.isSome = true)
  nonNull : ∀ e ∈ history, NonNull e.2
  /-- What a pointer holds has not been released. -/
  inUse : ∀ p ∈ w.held, w.ledger.released.count p = 0
  /-- All else was released once. -/
  ended : ∀ p ∈ w.ledger.obtained, p ∉ w.held → w.ledger.released.count p = 1
  /-- Nothing is released that was not obtained. -/
  owned : ∀ p ∈ w.ledger.released, p ∈ w.ledger.obtained

theorem mem_held_client {n : ℕ} (h : (.client, n) ∈ w.held) : w.data.mqttClient = some n := by
  simpa only [World.held, World.bufs, List.mem_append, Ledger.mem_heldAt, reduceCtorEq, false_and,
    or_false, true_and] using h

theorem World.Consistent.safe (h : w.Consistent []) (hnonNull : ∀ e ∈ history, NonNull e.2) :
    Safe history w := by
  have hsettled : w.ledger.Settled w.held := by
    have hbalanced := h.balanced
    rwa [World.Balanced, List.append_nil] at hbalanced
  have hclient : ∀ n, w.Exists n → w.data.mqttClient = some n := by
    rintro n ⟨hobtained, hreleased⟩
    refine mem_held_client ?_
    by_contra hnot
    have hcount := hsettled.count_of_not_held hobtained hnot
    rw [List.count_eq_zero_of_not_mem hreleased] at hcount
    cases hcount
  constructor
  · intro n n' hn hn'
    exact Option.some.inj ((hclient n hn).symm.trans (hclient n' hn'))
  · intro hfree
    have hfits := h.fits
    unfold World.Fits at hfits
    rw [hfree] at hfits
    rw [show w.mqttStarted = _ from hfits]
  · exact hnonNull
  · exact fun p hp => hsettled.count_of_held hp
  · exact fun p hp hnot => hsettled.count_of_not_held hp hnot
  · exact fun p hp => hsettled.obtained_of_released hp

/-- A state that has lost something is not safe. -/
theorem Safe.lost_eq_nil {lost : List (ObjKind × ℕ)} (h : Safe history w)
    (hconsistent : w.Consistent lost) : lost = [] := by
  refine List.eq_nil_iff_forall_not_mem.mpr fun p hp => ?_
  have hsettled : w.ledger.Settled (w.held ++ lost) := hconsistent.balanced
  have hmem : p ∈ w.held ++ lost := List.mem_append_right _ hp
  have hended := h.ended p (hsettled.obtained_of_held hmem) fun hheld => hsettled.disjoint hheld hp
  rw [hsettled.count_of_held hmem] at hended
  cases hended

/-- A run has lost nothing and passed no NULL if all its steps have met the condition. -/
theorem run_consistent (hr : mqttTasks.FreeRun history w) : ∃ lost, w.Consistent lost ∧
    ((lost = [] ∧ ∀ e ∈ history, NonNull e.2) ↔ mqttTasks.Run Meets history w) := by
  induction hr with
  | init =>
    refine ⟨[], ⟨Ledger.settled_empty, rfl⟩, ?_⟩
    exact iff_of_true ⟨rfl, List.forall_mem_nil _⟩ .init
  | @step history w l w' calls hrun _ hstep ih =>
    obtain ⟨lost, hconsistent, hmeets⟩ := ih
    have hstep' : w.step l = some (w', calls) := hstep
    refine ⟨lostBy w l ++ lost, step_consistent hconsistent hstep', ?_⟩
    rw [hrun.step_iff hstep, ← hmeets, ← step_meets hconsistent hstep', List.append_eq_nil_iff,
      List.forall_mem_cons]
    tauto

/-- Exactly the steps that do not meet the condition break the law, for ever. -/
theorem mqttTasks_safe_iff (hr : mqttTasks.FreeRun history w) :
    Safe history w ↔ mqttTasks.Run Meets history w := by
  obtain ⟨lost, hconsistent, hmeets⟩ := run_consistent hr
  rw [← hmeets]
  constructor
  · intro hsafe
    exact ⟨hsafe.lost_eq_nil hconsistent, hsafe.nonNull⟩
  · rintro ⟨rfl, hnonNull⟩
    exact hconsistent.safe hnonNull

/-- The labels are those of a run to a state that is not safe. -/
def Breaks (labels : List Label) : Prop :=
  ∃ history w, mqttTasks.FreeRun history w ∧ history.map Prod.fst = labels.reverse ∧
    ¬Safe history w

/-- A call with NULL, or an object that is not held and was not released. -/
def isBroken (history : List (Label × List EspMqttCall)) (w : World) : Bool :=
  (history.any fun e => e.2.any fun call => call.arg.isNone) ||
    w.ledger.obtained.any fun p => p ∉ w.held ∧ w.ledger.released.count p ≠ 1

theorem breaks_of_exec {labels : List Label}
    (he : ((mqttTasks.exec (fun _ _ => True) labels [] mqttTasks.init).any fun r =>
      isBroken r.1 r.2) = true) : Breaks labels := by
  obtain ⟨history, w, hrun, hlabels, hbroken⟩ := System.exists_history_of_exec labels he
  refine ⟨history, w, hrun, hlabels, ?_⟩
  intro hsafe
  rcases Bool.or_eq_true_iff.mp hbroken with hnull | hlost
  · obtain ⟨e, he, hcalls⟩ := List.any_eq_true.mp hnull
    obtain ⟨call, hcall, hnone⟩ := List.any_eq_true.mp hcalls
    have hsome := hsafe.nonNull e he call hcall
    rw [Option.isNone_iff_eq_none.mp hnone] at hsome
    cases hsome
  · obtain ⟨p, hp, hnot⟩ := List.any_eq_true.mp hlost
    obtain ⟨hheld, hcount⟩ := of_decide_eq_true hnot
    exact hcount (hsafe.ended p hp hheld)

end Runs

section Samples

def sampleMqttCfg (mqttPort : UInt16) : GwCfgMqtt where
  useMqtt := true
  mqttDisableRetainedMessages := false
  useSslClientCert := false
  useSslServerCert := true
  mqttTransport := .snprintf _ (ascii "SSL")
  mqttDataFormat := .ruuviRaw
  mqttServer := .snprintf _ (ascii "test.mosquitto.org")
  mqttPort := mqttPort
  mqttSendingInterval := 0
  mqttPrefix := .empty
  mqttClientId := .empty
  mqttUser := .empty
  mqttPass := .empty

/-- A start that succeeds if the configuration of the client is allocated. -/
def sampleStart (mqttPort : UInt16) (cliCfgAllocated : Bool) : List Label :=
  [.mqttAppStart (sampleMqttCfg mqttPort) ⟨true, true, true, cliCfgAllocated, true, true⟩, .goOn,
    .goOn, .goOn]

theorem mqttTasks_safe_sample : ∃ history w, Safe history w ∧ w.ledger.released.length = 3 := by
  obtain ⟨history, w, hrun, hreleased⟩ := System.exists_run_of_exec
    (sampleStart 8883 true ++
      [.event .connected, .takeConnected, .advMqttPublish ⟨true, true⟩, .mqttAppStop, .goOn, .goOn])
    (S := mqttTasks) (G := Meets) (P := fun w => w.ledger.released.length = 3) (by decide +kernel)
  exact ⟨history, w, (mqttTasks_safe_iff hrun.free).mpr hrun, of_decide_eq_true hreleased⟩

/-- The connection is announced after the client was stopped. -/
def sampleLate : List Label :=
  sampleStart 8883 true ++ [.event .connected, .takeConnected, .mqttAppStop, .goOn, .goOn,
    .advMqttPublish ⟨true, true⟩]

/-- A start without a port is followed by another start. -/
def sampleAgain : List Label := (sampleStart 0 true).take 2 ++ sampleStart 8883 true

theorem mqttTasks_breaks :
    Breaks (sampleStart 8883 false) ∧ Breaks sampleLate ∧ Breaks sampleAgain :=
  ⟨breaks_of_exec (by decide +kernel), breaks_of_exec (by decide +kernel),
    breaks_of_exec (by decide +kernel)⟩

end Samples

end RuuviGateway.Mqtt
