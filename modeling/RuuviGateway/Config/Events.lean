import RuuviGateway.Config.Update
import RuuviGateway.General.Transition

/-!
# Applying an update and telling the others

One call of `gw_cfg_set` with all that an observer sees of it: the returned flags, the stored
configuration, the events and the argument of the callback. The stored configuration and the flags
are those of the update of the configuration alone.
-/

namespace RuuviGateway.Config

open General

variable {P : Platform}

section Model

inductive EventMgrEv
  | gwCfgReady
  | gwCfgChangedRuuvi
  | gwCfgChangedRuuviNtpUse
  | gwCfgChangedRuuviNtpUseDhcp
  | gwCfgChangedEth
  | gwCfgChangedWifi
  deriving DecidableEq, Repr

/-- The global variables of the configuration. -/
structure GwCfgGlobals (P : Platform) where
  gatewayConfig : GwCfg P
  gwCfgReady : Bool
  gwCfgIsEmpty : Bool
  /-- A callback for changes is registered. -/
  cbOnChangeCfg : Bool
  deriving DecidableEq

/-- The arguments of `gw_cfg_set`, where NULL is `none`. -/
structure GivenSections (P : Platform) where
  ruuvi : Option (GwCfgRuuvi P)
  eth : Option GwCfgEth
  wifiAp : Option WifimanConfigAp
  wifiSta : Option WifimanConfigSta

/-- An event, or a call of the callback with its argument. -/
inductive Notice (P : Platform)
  | event (ev : EventMgrEv)
  | onChangeCfg (cfg : Option (GwCfg P))
  deriving DecidableEq

/-- What a section setter notifies of. The section is still the old one then. -/
def sectionEvents {α : Type} (cmp : α → α → Bool) (events : α → α → List EventMgrEv)
    (ready : Bool) (new : Option α) (dst : α) : List EventMgrEv :=
  match new with
  | none => []
  | some new => if cmp dst new then [] else if ready then events dst new else []

def changedRuuviEvents (dst new : GwCfgRuuvi P) : List EventMgrEv :=
  .gwCfgChangedRuuvi ::
    if dst.ntp.ntpUse ≠ new.ntp.ntpUse then [.gwCfgChangedRuuviNtpUse]
    else if new.ntp.ntpUse ∧ dst.ntp.ntpUseDhcp ≠ new.ntp.ntpUseDhcp then
      [.gwCfgChangedRuuviNtpUseDhcp]
    else []

def gwCfgSetRuuviEvents : Bool → Option (GwCfgRuuvi P) → GwCfgRuuvi P → List EventMgrEv :=
  sectionEvents gwCfgRuuviCmp changedRuuviEvents

def gwCfgSetEthEvents : Bool → Option GwCfgEth → GwCfgEth → List EventMgrEv :=
  sectionEvents gwCfgEthCmp fun _ _ => [.gwCfgChangedEth]

def gwCfgSetWifiApEvents : Bool → Option WifimanConfigAp → WifimanConfigAp → List EventMgrEv :=
  sectionEvents wifimanConfigApCmp fun _ _ => [.gwCfgChangedWifi]

def gwCfgSetWifiStaEvents : Bool → Option WifimanConfigSta → WifimanConfigSta → List EventMgrEv :=
  sectionEvents wifimanConfigStaCmp fun _ _ => [.gwCfgChangedWifi]

def GivenSections.isEmpty (args : GivenSections P) : Bool :=
  args.ruuvi.isNone && args.eth.isNone && args.wifiAp.isNone && args.wifiSta.isNone

/-- The events before the callback is called. -/
def changedEvents (s : GwCfgGlobals P) (args : GivenSections P) : List EventMgrEv :=
  gwCfgSetRuuviEvents s.gwCfgReady args.ruuvi s.gatewayConfig.ruuviCfg ++
    gwCfgSetEthEvents s.gwCfgReady args.eth s.gatewayConfig.ethCfg ++
    gwCfgSetWifiApEvents s.gwCfgReady args.wifiAp s.gatewayConfig.wifiCfg.ap ++
    gwCfgSetWifiStaEvents s.gwCfgReady args.wifiSta s.gatewayConfig.wifiCfg.sta

/-- `gw_cfg_set`. -/
def GwCfgGlobals.set (s : GwCfgGlobals P) (args : GivenSections P) :
    GwCfgGlobals P × GwCfgUpdateStatus × List (Notice P) :=
  let r := gwCfgSet args.ruuvi args.eth args.wifiAp args.wifiSta s.gatewayConfig
  let callback := if s.cbOnChangeCfg then
    [Notice.onChangeCfg (if args.isEmpty then none else some r.1)] else []
  let ready := if !s.gwCfgReady && s.cbOnChangeCfg then [Notice.event .gwCfgReady] else []
  ({ s with gatewayConfig := r.1, gwCfgIsEmpty := args.isEmpty, gwCfgReady := true }, r.2,
    (changedEvents s args).map .event ++ callback ++ ready)

def GivenSections.ofUpdate : Option (GwCfg P) → GivenSections P
  | none => ⟨none, none, none, none⟩
  | some new => ⟨some new.ruuviCfg, some new.ethCfg, some new.wifiCfg.ap, some new.wifiCfg.sta⟩

theorem set_ofUpdate (s : GwCfgGlobals P) (new : Option (GwCfg P)) :
    ((s.set (.ofUpdate new)).1.gatewayConfig, (s.set (.ofUpdate new)).2.1) =
      gwCfgUpdate new s.gatewayConfig := by
  cases new with
  | none => rfl
  | some new => rfl

/-- The calls that start and end a session with the configuration, and those that change it. -/
inductive StoreOp (P : Platform)
  | init (cb : Bool)
  | deinit
  | set (args : GivenSections P)
  | updateFwUpdateUrl (url : Bytes)

def gwCfgInit (default : GwCfg P) (cb : Bool) : GwCfgGlobals P where
  gatewayConfig := default
  gwCfgReady := false
  gwCfgIsEmpty := true
  cbOnChangeCfg := cb

/-- `gw_cfg_update_fw_update_url` always calls the callback. -/
def GwCfgGlobals.updateFwUpdateUrl (s : GwCfgGlobals P) (url : Bytes) :
    GwCfgGlobals P × List (Notice P) :=
  let cfg := gwCfgUpdateFwUpdateUrl url s.gatewayConfig
  ({ s with gatewayConfig := cfg }, if s.cbOnChangeCfg then [.onChangeCfg (some cfg)] else [])

/-- Without a session, with `g_gw_cfg_mutex` being NULL, only a session can be started. -/
def gwCfgStore (default : GwCfg P) :
    System (Option (GwCfgGlobals P)) (StoreOp P) (List (Notice P)) where
  init := none
  step
    | none, .init cb => some (some (gwCfgInit default cb), [])
    | some _, .deinit => some (none, [])
    | some s, .set args => let r := s.set args; some (some r.1, r.2.2)
    | some s, .updateFwUpdateUrl url => let r := s.updateFwUpdateUrl url; some (some r.1, r.2)
    | _, _ => none

end Model

section Sections

variable {α : Type} {cmp : α → α → Bool} {events : α → α → List EventMgrEv} {new : Option α}
  {dst : α} {ready : Bool}

/-- The update of one section, where `same` says that two sections agree in what is used of them:
the flag tells a difference, a given section is stored, and a section that is not given is kept. -/
structure SectionLaw (same : α → α → Prop) (new : Option α) (dst stored : α) (flag : Bool) :
    Prop where
  flagged : flag = true ↔ ∃ a, new = some a ∧ ¬same dst a
  given : ∀ a, new = some a → same stored a ∧ (flag = true → stored = a)
  kept : new = none → stored = dst

theorem setSection_law (cmp : α → α → Bool) {same : α → α → Prop}
    (hcmp : ∀ a b, cmp a b = true ↔ same a b) (hrefl : ∀ a, same a a) (new : Option α) (dst : α) :
    SectionLaw same new dst (setSection cmp new dst).1 (setSection cmp new dst).2 := by
  cases new with
  | none =>
    constructor
    · simp [setSection]
    · simp
    · exact fun _ => rfl
  | some a =>
    by_cases hsame : cmp dst a = true
    · have hset : setSection cmp (some a) dst = (dst, false) := if_pos hsame
      rw [hset]
      constructor
      · simp [(hcmp dst a).mp hsame]
      · intro b hb
        rw [← Option.some.inj hb]
        exact ⟨(hcmp dst a).mp hsame, fun hflag => absurd hflag Bool.false_ne_true⟩
      · simp
    · have hset : setSection cmp (some a) dst = (a, true) := if_neg hsame
      rw [hset]
      constructor
      · simp [mt (hcmp dst a).mpr hsame]
      · intro b hb
        rw [← Option.some.inj hb]
        exact ⟨hrefl a, fun _ => rfl⟩
      · simp

theorem setSection_again (hrefl : ∀ a, cmp a a = true) (new : Option α) (dst : α) :
    setSection cmp new (setSection cmp new dst).1 = ((setSection cmp new dst).1, false) := by
  cases new with
  | none => rfl
  | some a =>
    by_cases hsame : cmp dst a = true
    · simp [setSection, hsame]
    · simp [setSection, hsame, hrefl]

/-- A section that was not modified is not notified of. -/
theorem sectionEvents_unmodified (h : (setSection cmp new dst).2 = false) :
    sectionEvents cmp events ready new dst = [] := by
  cases new with
  | none => rfl
  | some a =>
    by_cases hsame : cmp dst a = true
    · simp [sectionEvents, hsame]
    · simp [setSection, hsame] at h

theorem sectionEvents_modified (events : α → α → List EventMgrEv)
    (h : (setSection cmp new dst).2 = true) :
    ∃ a, new = some a ∧ sectionEvents cmp events true new dst = events dst a := by
  cases new with
  | none => simp [setSection] at h
  | some a =>
    by_cases hsame : cmp dst a = true
    · simp [setSection, hsame] at h
    · exact ⟨a, rfl, by simp [sectionEvents, hsame]⟩

/-- How often a ready store notifies of a section. -/
theorem count_sectionEvents {ev : EventMgrEv} {n : ℕ} (hn : ∀ a, (events dst a).count ev = n) :
    (sectionEvents cmp events true new dst).count ev =
      if (setSection cmp new dst).2 then n else 0 := by
  cases hflag : (setSection cmp new dst).2 with
  | false =>
    rw [sectionEvents_unmodified hflag]
    rfl
  | true =>
    obtain ⟨a, -, hevents⟩ := sectionEvents_modified events hflag
    rw [hevents, hn]
    rfl

theorem not_mem_sectionEvents {ev : EventMgrEv} (h : ∀ a, ev ∉ events dst a) :
    ev ∉ sectionEvents cmp events ready new dst := by
  cases new with
  | none => exact List.not_mem_nil
  | some a =>
    dsimp only [sectionEvents]
    split_ifs
    · exact List.not_mem_nil
    · exact h a
    · exact List.not_mem_nil

end Sections

section Law

def Notice.event? : Notice P → Option EventMgrEv
  | .event ev => some ev
  | .onChangeCfg _ => none

def Notice.callback? : Notice P → Option (Option (GwCfg P))
  | .event _ => none
  | .onChangeCfg cfg => some cfg

/-- The events among the notices. -/
def eventsOf (notices : List (Notice P)) : List EventMgrEv := notices.filterMap Notice.event?

/-- The arguments that the callback is called with. -/
def callbacksOf (notices : List (Notice P)) : List (Option (GwCfg P)) :=
  notices.filterMap Notice.callback?

variable (s : GwCfgGlobals P) (args : GivenSections P)

theorem eventsOf_set : eventsOf (s.set args).2.2 =
    changedEvents s args ++ if !s.gwCfgReady && s.cbOnChangeCfg then [.gwCfgReady] else [] := by
  have hevents (evs : List EventMgrEv) :
      (evs.map (Notice.event (P := P))).filterMap Notice.event? = evs := by
    rw [List.filterMap_map]
    exact List.filterMap_some
  simp only [GwCfgGlobals.set, eventsOf, List.filterMap_append, hevents]
  congr 1
  · split_ifs <;> simp [Notice.event?]
  · split_ifs <;> rfl

theorem callbacksOf_set : callbacksOf (s.set args).2.2 =
    if s.cbOnChangeCfg then
      [if args.isEmpty then none else some (s.set args).1.gatewayConfig]
    else [] := by
  have hevents (evs : List EventMgrEv) :
      (evs.map (Notice.event (P := P))).filterMap Notice.callback? = [] := by
    rw [List.filterMap_map, List.filterMap_eq_nil_iff]
    exact fun _ _ => rfl
  simp only [GwCfgGlobals.set, callbacksOf, List.filterMap_append, hevents, List.nil_append]
  split_ifs <;> rfl

/-- What one call of `gw_cfg_set` does, for a given configuration and given arguments. -/
structure UpdateLaw : Prop where
  ruuvi : SectionLaw (fun a b : GwCfgRuuvi P => a.significant = b.significant) args.ruuvi
    s.gatewayConfig.ruuviCfg (s.set args).1.gatewayConfig.ruuviCfg
    (s.set args).2.1.flagRuuviCfgModified
  eth : SectionLaw (· = ·) args.eth s.gatewayConfig.ethCfg (s.set args).1.gatewayConfig.ethCfg
    (s.set args).2.1.flagEthCfgModified
  wifiAp : SectionLaw (· = ·) args.wifiAp s.gatewayConfig.wifiCfg.ap
    (s.set args).1.gatewayConfig.wifiCfg.ap (s.set args).2.1.flagWifiApCfgModified
  wifiSta : SectionLaw (· = ·) args.wifiSta s.gatewayConfig.wifiCfg.sta
    (s.set args).1.gatewayConfig.wifiCfg.sta (s.set args).2.1.flagWifiStaCfgModified
  deviceInfo : (s.set args).1.gatewayConfig.deviceInfo = s.gatewayConfig.deviceInfo
  changedRuuvi : s.gwCfgReady = true →
    (eventsOf (s.set args).2.2).count .gwCfgChangedRuuvi =
      (s.set args).2.1.flagRuuviCfgModified.toNat
  changedEth : s.gwCfgReady = true →
    (eventsOf (s.set args).2.2).count .gwCfgChangedEth = (s.set args).2.1.flagEthCfgModified.toNat
  changedWifi : s.gwCfgReady = true →
    (eventsOf (s.set args).2.2).count .gwCfgChangedWifi =
      (s.set args).2.1.flagWifiApCfgModified.toNat +
        (s.set args).2.1.flagWifiStaCfgModified.toNat
  callback : callbacksOf (s.set args).2.2 =
    if s.cbOnChangeCfg then
      [if args.isEmpty then none else some (s.set args).1.gatewayConfig]
    else []
  repeated : ((s.set args).1.set args).1 = (s.set args).1 ∧
    ((s.set args).1.set args).2.1 = ⟨false, false, false, false⟩ ∧
    eventsOf ((s.set args).1.set args).2.2 = []

/-- The events of a call once the configuration is ready. -/
theorem count_eventsOf_set (hready : s.gwCfgReady = true) {ev : EventMgrEv} {n : ℕ}
    (hruuvi : ∀ dst new : GwCfgRuuvi P, (changedRuuviEvents dst new).count ev = n) :
    (eventsOf (s.set args).2.2).count ev =
      (if (s.set args).2.1.flagRuuviCfgModified then n else 0) +
      (if (s.set args).2.1.flagEthCfgModified then [EventMgrEv.gwCfgChangedEth].count ev else 0) +
      (if (s.set args).2.1.flagWifiApCfgModified then
        [EventMgrEv.gwCfgChangedWifi].count ev else 0) +
      (if (s.set args).2.1.flagWifiStaCfgModified then
        [EventMgrEv.gwCfgChangedWifi].count ev else 0) := by
  rw [eventsOf_set, changedEvents, hready]
  simp only [Bool.not_true, Bool.false_and, Bool.false_eq_true, if_false, List.append_nil,
    List.count_append]
  rw [gwCfgSetRuuviEvents, count_sectionEvents (hruuvi _), gwCfgSetEthEvents,
    count_sectionEvents fun _ => rfl, gwCfgSetWifiApEvents, count_sectionEvents fun _ => rfl,
    gwCfgSetWifiStaEvents, count_sectionEvents fun _ => rfl]
  rfl

theorem gwCfgSet_again (cfg : GwCfg P) :
    gwCfgSet args.ruuvi args.eth args.wifiAp args.wifiSta
        (gwCfgSet args.ruuvi args.eth args.wifiAp args.wifiSta cfg).1 =
      ((gwCfgSet args.ruuvi args.eth args.wifiAp args.wifiSta cfg).1,
        ⟨false, false, false, false⟩) := by
  have hruuvi := setSection_again (fun a => gwCfgRuuviCmp_iff.mpr rfl) args.ruuvi cfg.ruuviCfg
  have heth := setSection_again (fun a => gwCfgEthCmp_iff.mpr rfl) args.eth cfg.ethCfg
  have hap := setSection_again (fun a => wifimanConfigApCmp_iff.mpr rfl) args.wifiAp cfg.wifiCfg.ap
  have hsta := setSection_again (fun a => wifimanConfigStaCmp_iff.mpr rfl) args.wifiSta
    cfg.wifiCfg.sta
  simp only [gwCfgSet, gwCfgSetRuuvi, gwCfgSetEth, gwCfgSetWifiAp, gwCfgSetWifiSta, hruuvi, heth,
    hap, hsta]

theorem changedEvents_again : changedEvents (s.set args).1 args = [] := by
  have hagain := congrArg Prod.snd (gwCfgSet_again args s.gatewayConfig)
  simp only [gwCfgSet, GwCfgUpdateStatus.mk.injEq] at hagain
  obtain ⟨hruuvi, heth, hap, hsta⟩ := hagain
  simp only [changedEvents, List.append_eq_nil_iff]
  exact ⟨⟨⟨sectionEvents_unmodified hruuvi, sectionEvents_unmodified heth⟩,
    sectionEvents_unmodified hap⟩, sectionEvents_unmodified hsta⟩

theorem gwCfgSetRuuvi_law (new : Option (GwCfgRuuvi P)) (dst : GwCfgRuuvi P) :
    SectionLaw (fun a b : GwCfgRuuvi P => a.significant = b.significant) new dst
      (gwCfgSetRuuvi new dst).1 (gwCfgSetRuuvi new dst).2 :=
  setSection_law gwCfgRuuviCmp (fun _ _ => gwCfgRuuviCmp_iff) (fun _ => rfl) new dst

theorem gwCfgSetEth_law (new : Option GwCfgEth) (dst : GwCfgEth) :
    SectionLaw (· = ·) new dst (gwCfgSetEth new dst).1 (gwCfgSetEth new dst).2 :=
  setSection_law gwCfgEthCmp (fun _ _ => gwCfgEthCmp_iff) (fun _ => rfl) new dst

theorem gwCfgSetWifiAp_law (new : Option WifimanConfigAp) (dst : WifimanConfigAp) :
    SectionLaw (· = ·) new dst (gwCfgSetWifiAp new dst).1 (gwCfgSetWifiAp new dst).2 :=
  setSection_law wifimanConfigApCmp (fun _ _ => wifimanConfigApCmp_iff) (fun _ => rfl) new dst

theorem gwCfgSetWifiSta_law (new : Option WifimanConfigSta) (dst : WifimanConfigSta) :
    SectionLaw (· = ·) new dst (gwCfgSetWifiSta new dst).1 (gwCfgSetWifiSta new dst).2 :=
  setSection_law wifimanConfigStaCmp (fun _ _ => wifimanConfigStaCmp_iff) (fun _ => rfl) new dst

theorem updateLaw : UpdateLaw s args where
  ruuvi := gwCfgSetRuuvi_law args.ruuvi s.gatewayConfig.ruuviCfg
  eth := gwCfgSetEth_law args.eth s.gatewayConfig.ethCfg
  wifiAp := gwCfgSetWifiAp_law args.wifiAp s.gatewayConfig.wifiCfg.ap
  wifiSta := gwCfgSetWifiSta_law args.wifiSta s.gatewayConfig.wifiCfg.sta
  deviceInfo := rfl
  changedRuuvi := by
    intro hready
    have hruuvi (dst new : GwCfgRuuvi P) :
        (changedRuuviEvents dst new).count .gwCfgChangedRuuvi = 1 := by
      unfold changedRuuviEvents
      split_ifs <;> rfl
    rw [count_eventsOf_set s args hready hruuvi]
    cases (s.set args).2.1.flagRuuviCfgModified <;> simp
  changedEth := by
    intro hready
    have hruuvi (dst new : GwCfgRuuvi P) :
        (changedRuuviEvents dst new).count .gwCfgChangedEth = 0 := by
      unfold changedRuuviEvents
      split_ifs <;> rfl
    rw [count_eventsOf_set s args hready hruuvi]
    cases (s.set args).2.1.flagEthCfgModified <;> simp
  changedWifi := by
    intro hready
    have hruuvi (dst new : GwCfgRuuvi P) :
        (changedRuuviEvents dst new).count .gwCfgChangedWifi = 0 := by
      unfold changedRuuviEvents
      split_ifs <;> rfl
    rw [count_eventsOf_set s args hready hruuvi]
    cases (s.set args).2.1.flagWifiApCfgModified <;>
      cases (s.set args).2.1.flagWifiStaCfgModified <;> simp
  callback := callbacksOf_set s args
  repeated := by
    have hagain := gwCfgSet_again args s.gatewayConfig
    refine ⟨?_, congrArg Prod.snd hagain, ?_⟩
    · have hcfg : ((s.set args).1.set args).1.gatewayConfig = (s.set args).1.gatewayConfig :=
        (Prod.ext_iff.mp hagain).1
      exact congrArg (fun cfg => { s with
        gatewayConfig := cfg, gwCfgIsEmpty := args.isEmpty, gwCfgReady := true }) hcfg
    · rw [eventsOf_set, changedEvents_again]
      rfl

end Law

section Runs

variable {default : GwCfg P} {history : List (StoreOp P × List (Notice P))}

/-- The calls of `gw_cfg_set` since the session was started. -/
def setsOf : List (StoreOp P × List (Notice P)) → ℕ
  | [] => 0
  | (.init _, _) :: _ => 0
  | (.set _, _) :: earlier => setsOf earlier + 1
  | _ :: earlier => setsOf earlier

/-- How often the session was notified of being ready. -/
def readyOf : List (StoreOp P × List (Notice P)) → ℕ
  | [] => 0
  | (.init _, _) :: _ => 0
  | (_, notices) :: earlier => readyOf earlier + (eventsOf notices).count .gwCfgReady

theorem count_ready_set (s : GwCfgGlobals P) (args : GivenSections P) :
    (eventsOf (s.set args).2.2).count .gwCfgReady =
      if s.gwCfgReady = false ∧ s.cbOnChangeCfg = true then 1 else 0 := by
  have hchanged : EventMgrEv.gwCfgReady ∉ changedEvents s args := by
    have hruuvi (a : GwCfgRuuvi P) :
        EventMgrEv.gwCfgReady ∉ changedRuuviEvents s.gatewayConfig.ruuviCfg a := by
      unfold changedRuuviEvents
      split_ifs <;> decide
    simp only [changedEvents, List.mem_append, not_or]
    refine ⟨⟨⟨not_mem_sectionEvents hruuvi, ?_⟩, ?_⟩, ?_⟩
    · exact not_mem_sectionEvents fun _ => by decide
    · exact not_mem_sectionEvents fun _ => by decide
    · exact not_mem_sectionEvents fun _ => by decide
  rw [eventsOf_set, List.count_append, List.count_eq_zero.mpr hchanged]
  cases s.gwCfgReady <;> cases s.cbOnChangeCfg <;> rfl

/-- A session is ready from its first update on, and was notified of it once. -/
structure ReadyOnce (s : GwCfgGlobals P) (history : List (StoreOp P × List (Notice P))) : Prop where
  ready : s.gwCfgReady = decide (0 < setsOf history)
  once : readyOf history = if s.cbOnChangeCfg ∧ 0 < setsOf history then 1 else 0

theorem readyOnce_init (cb : Bool) (notices : List (Notice P)) :
    ReadyOnce (gwCfgInit default cb) ((.init cb, notices) :: history) where
  ready := rfl
  once := by simp [readyOf, setsOf]

theorem ReadyOnce.set {s : GwCfgGlobals P} (h : ReadyOnce s history) (args : GivenSections P) :
    ReadyOnce (s.set args).1 ((.set args, (s.set args).2.2) :: history) where
  ready := by simp [setsOf, GwCfgGlobals.set]
  once := by
    have hcb : (s.set args).1.cbOnChangeCfg = s.cbOnChangeCfg := rfl
    have hready : readyOf ((.set args, (s.set args).2.2) :: history) =
        readyOf history + (eventsOf (s.set args).2.2).count .gwCfgReady := rfl
    rw [hready, setsOf, h.once, count_ready_set, h.ready, hcb]
    by_cases hsets : 0 < setsOf history
    · simp [hsets]
    · simp [hsets]

theorem ReadyOnce.updateFwUpdateUrl {s : GwCfgGlobals P} (h : ReadyOnce s history) (url : Bytes) :
    ReadyOnce (s.updateFwUpdateUrl url).1
      ((.updateFwUpdateUrl url, (s.updateFwUpdateUrl url).2) :: history) where
  ready := h.ready
  once := by
    have hnone : (eventsOf (s.updateFwUpdateUrl url).2).count .gwCfgReady = 0 := by
      unfold GwCfgGlobals.updateFwUpdateUrl
      dsimp only
      split_ifs <;> rfl
    have hready : readyOf ((.updateFwUpdateUrl url, (s.updateFwUpdateUrl url).2) :: history) =
        readyOf history + (eventsOf (s.updateFwUpdateUrl url).2).count .gwCfgReady := rfl
    rw [hready, hnone]
    exact h.once

theorem readyOnce_run {s : GwCfgGlobals P} (hr : (gwCfgStore default).FreeRun history (some s)) :
    ReadyOnce s history := by
  have hall : ∀ s', some s = some s' → ReadyOnce s' history := by
    refine hr.historyInvariant (I := fun history st => ∀ s', st = some s' → ReadyOnce s' history)
      ?_ ?_
    · intro s' hs'
      simp [gwCfgStore] at hs'
    intro history st op st' notices hst _ hstep s' hs'
    subst hs'
    cases st with
    | none =>
      cases op with
      | init cb =>
        simp only [gwCfgStore, Option.some.injEq, Prod.mk.injEq] at hstep
        obtain ⟨rfl, rfl⟩ := hstep
        exact readyOnce_init cb _
      | deinit => simp [gwCfgStore] at hstep
      | set args => simp [gwCfgStore] at hstep
      | updateFwUpdateUrl url => simp [gwCfgStore] at hstep
    | some s₀ =>
      have h := hst s₀ rfl
      cases op with
      | init cb => simp [gwCfgStore] at hstep
      | deinit => simp [gwCfgStore] at hstep
      | set args =>
        simp only [gwCfgStore, Option.some.injEq, Prod.mk.injEq] at hstep
        obtain ⟨rfl, rfl⟩ := hstep
        exact h.set args
      | updateFwUpdateUrl url =>
        simp only [gwCfgStore, Option.some.injEq, Prod.mk.injEq] at hstep
        obtain ⟨rfl, rfl⟩ := hstep
        exact h.updateFwUpdateUrl url
  exact hall s rfl

/-- The update law in every state and for every call, and the event that tells that the
configuration is ready, along every run. -/
theorem gwCfgSet_law :
    (∀ (s : GwCfgGlobals P) (args : GivenSections P), UpdateLaw s args) ∧
    ∀ (default : GwCfg P) (history : List (StoreOp P × List (Notice P))) (s : GwCfgGlobals P),
      (gwCfgStore default).FreeRun history (some s) → ReadyOnce s history := by
  exact ⟨updateLaw, fun _ _ _ => readyOnce_run⟩

/-- The configuration with a Wi-Fi channel for its stations that it did not have. -/
def sampleOtherSta : GivenSections samplePlatform :=
  ⟨none, none, none, some { sampleDefault.wifiCfg.sta with
    wifiConfigSta.channel := sampleDefault.wifiCfg.sta.wifiConfigSta.channel + 1 }⟩

theorem gwCfgSet_law_sample : ∃ history s,
    (gwCfgStore sampleDefault).FreeRun history (some s) ∧ ReadyOnce s history ∧
      UpdateLaw s sampleOtherSta := by
  have hrun : (gwCfgStore sampleDefault).FreeRun _
      (some ((gwCfgInit sampleDefault true).set (.ofUpdate none)).1) :=
    .step (i := .set (.ofUpdate none)) (.step (i := .init true) .init trivial rfl) trivial rfl
  exact ⟨_, _, hrun, gwCfgSet_law.2 _ _ _ hrun, gwCfgSet_law.1 _ _⟩

/-- Without a callback nobody is told that the configuration is ready, and a new station
configuration is told of although that of the access point is not modified. -/
theorem gwCfgSet_notNotified :
    (∃ history s, (gwCfgStore sampleDefault).FreeRun history (some s) ∧ setsOf history = 1 ∧
      readyOf history = 0) ∧
    ∃ s : GwCfgGlobals samplePlatform, s.gwCfgReady = true ∧
      (s.set sampleOtherSta).2.1.flagWifiApCfgModified = false ∧
      .gwCfgChangedWifi ∈ eventsOf (s.set sampleOtherSta).2.2 := by
  constructor
  · have hrun : (gwCfgStore sampleDefault).FreeRun _
        (some ((gwCfgInit sampleDefault false).set sampleOtherSta).1) :=
      .step (i := .set sampleOtherSta) (.step (i := .init false) .init trivial rfl) trivial rfl
    refine ⟨_, _, hrun, rfl, ?_⟩
    decide +kernel
  · refine ⟨((gwCfgInit sampleDefault true).set (.ofUpdate none)).1, rfl, ?_, ?_⟩
    · decide +kernel
    · decide +kernel

end Runs

end RuuviGateway.Config
