import RuuviGateway.Config.Events
import RuuviGateway.Config.Replace
import RuuviGateway.Config.Sample

/-!
# Updates that read, modify and write

A request copies the stored configuration, parses its JSON over the copy, and stores sections of the
result. The lock is held for the copy and for each of the calls that store, but not in between,
where other tasks may update the configuration too. -/

namespace RuuviGateway.Config

open General

variable {P : Platform}

section Fields

inductive CfgSection
  | ruuvi
  | eth
  | wifiAp
  | wifiSta
  deriving DecidableEq, Repr

/-- What `gw_cfg_set` compares to find out whether a section was modified. -/
def CfgSection.Same (sec : CfgSection) (a b : GwCfg P) : Prop :=
  match sec with
  | .ruuvi => a.ruuviCfg.significant = b.ruuviCfg.significant
  | .eth => a.ethCfg = b.ethCfg
  | .wifiAp => a.wifiCfg.ap = b.wifiCfg.ap
  | .wifiSta => a.wifiCfg.sta = b.wifiCfg.sta

/-- A field is a part of what one of the sections says. -/
structure Field (P : Platform) where
  Value : Type
  sec : CfgSection
  value : GwCfg P → Value
  ofSection : ∀ a b, sec.Same a b → value a = value b

/-- The arguments that store the given sections of a configuration. -/
def GivenSections.ofSections (new : GwCfg P) (secs : List CfgSection) : GivenSections P where
  ruuvi := if .ruuvi ∈ secs then some new.ruuviCfg else none
  eth := if .eth ∈ secs then some new.ethCfg else none
  wifiAp := if .wifiAp ∈ secs then some new.wifiCfg.ap else none
  wifiSta := if .wifiSta ∈ secs then some new.wifiCfg.sta else none

/-- The sections that are given are stored, and the others are kept. -/
theorem same_set (s : GwCfgGlobals P) (new : GwCfg P) (secs : List CfgSection) (sec : CfgSection) :
    sec.Same (s.set (.ofSections new secs)).1.gatewayConfig
      (if sec ∈ secs then new else s.gatewayConfig) := by
  have hlaw := updateLaw s (.ofSections new secs)
  cases sec with
  | ruuvi =>
    split_ifs with hmem
    · exact (hlaw.ruuvi.given new.ruuviCfg (if_pos hmem)).1
    · exact congrArg GwCfgRuuvi.significant (hlaw.ruuvi.kept (if_neg hmem))
  | eth =>
    split_ifs with hmem
    · exact (hlaw.eth.given new.ethCfg (if_pos hmem)).1
    · exact hlaw.eth.kept (if_neg hmem)
  | wifiAp =>
    split_ifs with hmem
    · exact (hlaw.wifiAp.given new.wifiCfg.ap (if_pos hmem)).1
    · exact hlaw.wifiAp.kept (if_neg hmem)
  | wifiSta =>
    split_ifs with hmem
    · exact (hlaw.wifiSta.given new.wifiCfg.sta (if_pos hmem)).1
    · exact hlaw.wifiSta.kept (if_neg hmem)

end Fields

section Model

/-- The requests that update the configuration, with the JSON of the body or of the download. -/
inductive UpdateRequest
  | post (root : Json) (flagAccessFromLan : Bool)
  | download (root : Json)

/-- What `http_server_cb_on_post_ruuvi` and `http_server_gw_cfg_download_and_parse` make of a copy,
and the sections that each of their calls stores. -/
def UpdateRequest.parse (default copy : GwCfg P) :
    UpdateRequest → Option (GwCfg P × List (List CfgSection))
  | .post root flagAccessFromLan =>
      (jsonRuuviParseHttpBody root flagAccessFromLan default copy).map fun r =>
        (r.1, if r.2 then [[.eth], [.wifiAp]] else [[.ruuvi]])
  | .download root =>
      (gwCfgJsonParse root (some default) (copy.setUseRemoteCfg false)).bind fun new =>
        if new.ruuviCfg.remote.useRemoteCfg then some (new, [[.ruuvi, .eth, .wifiAp, .wifiSta]])
        else none

/-- The JSON does not name a field: whatever the copy has there is kept. -/
def UpdateRequest.Leaves (default : GwCfg P) (request : UpdateRequest) (field : Field P) : Prop :=
  ∀ copy new writes, request.parse default copy = some (new, writes) →
    field.value new = field.value copy

/-- A request between its copy and its last call. -/
structure Edit (P : Platform) where
  request : UpdateRequest
  copy : GwCfg P
  new : GwCfg P
  writes : List (List CfgSection)

structure Updating (P : Platform) where
  store : GwCfgGlobals P
  /-- The argument that the callback was last called with. -/
  saved : Option (GwCfg P)
  edits : ℕ → Option (Edit P)

inductive UpdateLabel (P : Platform)
  | start (id : ℕ) (request : UpdateRequest)
  | write (id : ℕ)
  | setEthUseEth (flagUseEth : Bool)
  | updateWifiStaConfig (sta : WifimanConfigSta)
  | updateFwUpdateUrl (url : Bytes)
  | setDefaultConfig

/-- The stored configuration and the one given to the callback last. -/
structure Snapshot (P : Platform) where
  cfg : GwCfg P
  saved : Option (GwCfg P)

/-- What a step has done. If it belongs to a request, the sections that it has stored. -/
structure Updated (P : Platform) where
  edit : Option (Edit P × List CfgSection)
  before : Snapshot P
  after : Snapshot P

namespace Updating

variable (s : Updating P)

def snapshot : Snapshot P := ⟨s.store.gatewayConfig, s.saved⟩

/-- The state after a call with the given notices. -/
def call (r : GwCfgGlobals P × List (Notice P)) : Updating P :=
  { s with store := r.1, saved := (callbacksOf r.2).head?.getD s.saved }

def set (args : GivenSections P) : Updating P :=
  s.call ((s.store.set args).1, (s.store.set args).2.2)

/-- `gw_cfg_set_eth_use_eth` does not call the callback. -/
def setEthUseEth (flagUseEth : Bool) : Updating P :=
  { s with store.gatewayConfig.ethCfg.useEth := flagUseEth }

/-- The state after a step, and what belongs to a request. -/
def next (default : GwCfg P) :
    UpdateLabel P → Option (Updating P × Option (Edit P × List CfgSection))
  | .start id request =>
      if (s.edits id).isSome then none
      else (request.parse default s.store.gatewayConfig).map fun r =>
        ({ s with
          edits := Function.update s.edits id (some ⟨request, s.store.gatewayConfig, r.1, r.2⟩) },
          none)
  | .write id =>
      match s.edits id with
      | some ⟨request, copy, new, secs :: rest⟩ =>
          some ({ s.set (.ofSections new secs) with
            edits := Function.update s.edits id
              (if rest.isEmpty then none else some ⟨request, copy, new, rest⟩) },
            some (⟨request, copy, new, rest⟩, secs))
      | _ => none
  | .setEthUseEth flagUseEth => some (s.setEthUseEth flagUseEth, none)
  | .updateWifiStaConfig sta => some (s.set ⟨none, none, none, some sta⟩, none)
  | .updateFwUpdateUrl url => some (s.call (s.store.updateFwUpdateUrl url), none)
  | .setDefaultConfig => some (s.set (.ofUpdate (some default)), none)

end Updating

/-- The configuration that the main task has read at startup, or none in the storage. -/
def updatingStart (default : GwCfg P) (read : Option (GwCfg P)) : Updating P where
  store := ((gwCfgInit default true).set (.ofUpdate read)).1
  saved := read.map fun _ => ((gwCfgInit default true).set (.ofUpdate read)).1.gatewayConfig
  edits := fun _ => none

/-- The tasks that update the configuration. -/
def updating (default : GwCfg P) (read : Option (GwCfg P)) :
    System (Updating P) (UpdateLabel P) (Updated P) where
  init := updatingStart default read
  step s label := (s.next default label).map fun r => (r.1, ⟨r.2, s.snapshot, r.1.snapshot⟩)

end Model

section Properties

variable (default : GwCfg P)

abbrev UpdateEvent (P : Platform) := UpdateLabel P × Updated P

/-- No field that the JSON does not name gets back the value that it had in the copy of the request.
-/
def KeepsUnnamed (ev : UpdateEvent P) : Prop :=
  ∀ edit secs, ev.2.edit = some (edit, secs) → ∀ field : Field P,
    edit.request.Leaves default field →
    ¬(field.value ev.2.after.cfg = field.value edit.copy ∧
      field.value ev.2.before.cfg ≠ field.value edit.copy)

/-- After an update the configuration given to the callback last is the stored one. -/
def SavesStored (ev : UpdateEvent P) : Prop :=
  match ev.1 with
  | .start _ _ => True
  | _ => ev.2.after.saved = some ev.2.after.cfg

/-- The fields that a request stores without naming them still have the value of its copy, and
`use_eth` is set only to the value that is stored and has been saved. -/
def InTime (ev : UpdateEvent P) : Prop :=
  match ev.1 with
  | .setEthUseEth flagUseEth =>
      ev.2.before.cfg.ethCfg.useEth = flagUseEth ∧ ev.2.before.saved = some ev.2.before.cfg
  | _ => ∀ edit secs, ev.2.edit = some (edit, secs) → ∀ field : Field P,
      field.sec ∈ secs → edit.request.Leaves default field →
      field.value edit.copy = field.value ev.2.before.cfg

end Properties

section Steps

variable {default : GwCfg P} {read : Option (GwCfg P)} {s s' : Updating P}

theorem callbacksOf_some {g : GwCfgGlobals P} {args : GivenSections P}
    (hcb : g.cbOnChangeCfg = true) (hgiven : args.isEmpty = false) :
    callbacksOf (g.set args).2.2 = [some (g.set args).1.gatewayConfig] := by
  rw [callbacksOf_set, if_pos hcb, hgiven]
  rfl

/-- A call of `gw_cfg_set` saves what it has stored. -/
theorem set_saved {args : GivenSections P} (hcb : s.store.cbOnChangeCfg = true)
    (hgiven : args.isEmpty = false) :
    (s.set args).saved = some (s.set args).store.gatewayConfig := by
  unfold Updating.set Updating.call
  dsimp only
  rw [callbacksOf_some hcb hgiven]
  rfl

theorem updateFwUpdateUrl_saved {url : Bytes} (hcb : s.store.cbOnChangeCfg = true) :
    (s.call (s.store.updateFwUpdateUrl url)).saved =
      some (s.call (s.store.updateFwUpdateUrl url)).store.gatewayConfig := by
  unfold Updating.call GwCfgGlobals.updateFwUpdateUrl
  dsimp only
  rw [if_pos hcb]
  rfl

/-- Storing sections of an edit gives exactly their fields that were not named the values of the
copy. -/
theorem write_keeps_iff (edit : Edit P) {writes : List (List CfgSection)}
    (hparse : edit.request.parse default edit.copy = some (edit.new, writes))
    (g : GwCfgGlobals P) (secs : List CfgSection) :
    (∀ field : Field P, edit.request.Leaves default field →
      ¬(field.value (g.set (.ofSections edit.new secs)).1.gatewayConfig = field.value edit.copy ∧
        field.value g.gatewayConfig ≠ field.value edit.copy)) ↔
    ∀ field : Field P, field.sec ∈ secs → edit.request.Leaves default field →
      field.value edit.copy = field.value g.gatewayConfig := by
  refine forall_congr' fun field => ?_
  have hafter := field.ofSection _ _ (same_set g edit.new secs field.sec)
  rw [hafter]
  by_cases hmem : field.sec ∈ secs
  · rw [if_pos hmem]
    constructor
    · intro hkept _ hleaves
      by_contra hne
      exact hkept hleaves ⟨hleaves _ _ _ hparse, fun heq => hne heq.symm⟩
    · rintro hsame hleaves ⟨-, hne⟩
      exact hne (hsame hmem hleaves).symm
  · rw [if_neg hmem]
    constructor
    · exact fun _ hmem' => absurd hmem' hmem
    · rintro - - ⟨heq, hne⟩
      exact hne heq

theorem parse_writes {request : UpdateRequest} {copy new : GwCfg P}
    {writes : List (List CfgSection)} (h : request.parse default copy = some (new, writes)) :
    [] ∉ writes := by
  cases request with
  | post root flagAccessFromLan =>
    obtain ⟨r, -, hr⟩ := Option.map_eq_some_iff.mp h
    rw [← (Prod.mk.inj hr).2]
    split_ifs <;> decide
  | download root =>
    obtain ⟨r, -, hr⟩ := Option.bind_eq_some_iff.mp h
    split_ifs at hr
    rw [← (Prod.mk.inj (Option.some.inj hr)).2]
    decide

theorem ofSections_isEmpty (new : GwCfg P) {secs : List CfgSection} (h : secs ≠ []) :
    (GivenSections.ofSections new secs).isEmpty = false := by
  obtain ⟨sec, hsec⟩ := List.exists_mem_of_ne_nil secs h
  unfold GivenSections.isEmpty GivenSections.ofSections
  cases sec <;> simp [hsec]

/-- Every edit in progress has been parsed from its copy, and there is a callback. -/
structure UpdatingInvariant (default : GwCfg P) (s : Updating P) : Prop where
  callback : s.store.cbOnChangeCfg = true
  parsed : ∀ id edit, s.edits id = some edit →
    ∃ writes, edit.request.parse default edit.copy = some (edit.new, writes)
  writes : ∀ id edit, s.edits id = some edit → [] ∉ edit.writes

theorem UpdatingInvariant.next (h : UpdatingInvariant default s) {label : UpdateLabel P}
    {edit : Option (Edit P × List CfgSection)} (hnext : s.next default label = some (s', edit)) :
    UpdatingInvariant default s' := by
  cases label with
  | start id request =>
    dsimp only [Updating.next] at hnext
    split_ifs at hnext
    obtain ⟨r, hparse, hr⟩ := Option.map_eq_some_iff.mp hnext
    rw [← (Prod.mk.inj hr).1]
    refine ⟨h.callback, fun id' edit' hedit => ?_, fun id' edit' hedit => ?_⟩
    · dsimp only at hedit
      rw [Function.update_apply] at hedit
      split_ifs at hedit
      · rw [← Option.some.inj hedit]
        exact ⟨r.2, hparse⟩
      · exact h.parsed id' edit' hedit
    · dsimp only at hedit
      rw [Function.update_apply] at hedit
      split_ifs at hedit
      · rw [← Option.some.inj hedit]
        exact parse_writes hparse
      · exact h.writes id' edit' hedit
  | write id =>
    dsimp only [Updating.next] at hnext
    split at hnext
    next request copy new secs rest hedits =>
      rw [← (Prod.mk.inj (Option.some.inj hnext)).1]
      refine ⟨h.callback, fun id' edit' hedit => ?_, fun id' edit' hedit => ?_⟩
      · dsimp only at hedit
        rw [Function.update_apply] at hedit
        split_ifs at hedit
        · rw [← Option.some.inj hedit]
          exact h.parsed id ⟨request, copy, new, secs :: rest⟩ hedits
        · exact h.parsed id' edit' hedit
      · dsimp only at hedit
        rw [Function.update_apply] at hedit
        split_ifs at hedit
        · rw [← Option.some.inj hedit]
          exact fun hmem => h.writes id _ hedits (List.mem_cons_of_mem _ hmem)
        · exact h.writes id' edit' hedit
    · cases hnext
  | setEthUseEth flagUseEth =>
    rw [← (Prod.mk.inj (Option.some.inj hnext)).1]
    exact ⟨h.callback, h.parsed, h.writes⟩
  | updateWifiStaConfig sta =>
    rw [← (Prod.mk.inj (Option.some.inj hnext)).1]
    exact ⟨h.callback, h.parsed, h.writes⟩
  | updateFwUpdateUrl url =>
    rw [← (Prod.mk.inj (Option.some.inj hnext)).1]
    exact ⟨h.callback, h.parsed, h.writes⟩
  | setDefaultConfig =>
    rw [← (Prod.mk.inj (Option.some.inj hnext)).1]
    exact ⟨h.callback, h.parsed, h.writes⟩

/-- Nothing has been saved yet, or what is stored. -/
def Consistent (s : Updating P) : Prop := s.saved = none ∨ s.saved = some s.store.gatewayConfig

/-- A step that meets the condition has the property, and no other step has it. -/
theorem next_iff (h : UpdatingInvariant default s) (hcons : Consistent s) {label : UpdateLabel P}
    {edit : Option (Edit P × List CfgSection)} (hnext : s.next default label = some (s', edit)) :
    KeepsUnnamed default (label, ⟨edit, s.snapshot, s'.snapshot⟩) ∧
      SavesStored (label, ⟨edit, s.snapshot, s'.snapshot⟩) ↔
    InTime default (label, ⟨edit, s.snapshot, s'.snapshot⟩) := by
  have hunnamed (hnone : edit = none) :
      KeepsUnnamed default (label, ⟨edit, s.snapshot, s'.snapshot⟩) := by
    intro edit' secs hedit
    rw [hnone] at hedit
    cases hedit
  cases label with
  | start id request =>
    dsimp only [Updating.next] at hnext
    split_ifs at hnext
    obtain ⟨r, -, hr⟩ := Option.map_eq_some_iff.mp hnext
    have hnone := (Prod.mk.inj hr).2.symm
    refine ⟨fun _ edit' secs hedit => ?_, fun _ => ⟨hunnamed hnone, trivial⟩⟩
    rw [hnone] at hedit
    cases hedit
  | write id =>
    dsimp only [Updating.next] at hnext
    split at hnext
    next request copy new secs rest hedits =>
      obtain ⟨hs', hedit⟩ := Prod.mk.inj (Option.some.inj hnext)
      obtain ⟨writes, hparse⟩ := h.parsed id _ hedits
      have hne : secs ≠ [] := fun hnil => h.writes id _ hedits (hnil ▸ List.mem_cons_self)
      have hsaved := set_saved h.callback (ofSections_isEmpty new hne)
      have hkeeps := write_keeps_iff ⟨request, copy, new, rest⟩ hparse s.store secs
      rw [← hs', ← hedit]
      constructor
      · rintro ⟨hkept, -⟩ edit' secs' hedit'
        obtain ⟨rfl, rfl⟩ := Prod.mk.inj (Option.some.inj hedit')
        exact hkeeps.mp (hkept _ _ rfl)
      · intro htime
        refine ⟨fun edit' secs' hedit' => ?_, hsaved⟩
        obtain ⟨rfl, rfl⟩ := Prod.mk.inj (Option.some.inj hedit')
        exact hkeeps.mpr (htime _ _ rfl)
    · cases hnext
  | setEthUseEth flagUseEth =>
    obtain ⟨hs', hnone⟩ := Prod.mk.inj (Option.some.inj hnext)
    subst hs'
    constructor
    · rintro ⟨-, hsaved⟩
      change s.saved = some (s.setEthUseEth flagUseEth).store.gatewayConfig at hsaved
      rcases hcons with hempty | hstored
      · rw [hempty] at hsaved
        cases hsaved
      · refine ⟨?_, hstored⟩
        rw [hstored] at hsaved
        exact congrArg (fun cfg => cfg.ethCfg.useEth) (Option.some.inj hsaved)
    · rintro ⟨hsame, hsaved⟩
      refine ⟨hunnamed hnone.symm, ?_⟩
      change s.store.gatewayConfig.ethCfg.useEth = flagUseEth at hsame
      change s.saved = some s.store.gatewayConfig at hsaved
      change s.saved = some (s.setEthUseEth flagUseEth).store.gatewayConfig
      rw [hsaved, ← hsame]
      rfl
  | updateWifiStaConfig sta =>
    obtain ⟨hs', hnone⟩ := Prod.mk.inj (Option.some.inj hnext)
    refine ⟨fun _ edit' secs hedit => ?_, fun _ => ⟨hunnamed hnone.symm, ?_⟩⟩
    · rw [← hnone] at hedit
      cases hedit
    · rw [← hs']
      exact set_saved h.callback rfl
  | updateFwUpdateUrl url =>
    obtain ⟨hs', hnone⟩ := Prod.mk.inj (Option.some.inj hnext)
    refine ⟨fun _ edit' secs hedit => ?_, fun _ => ⟨hunnamed hnone.symm, ?_⟩⟩
    · rw [← hnone] at hedit
      cases hedit
    · rw [← hs']
      exact updateFwUpdateUrl_saved h.callback
  | setDefaultConfig =>
    obtain ⟨hs', hnone⟩ := Prod.mk.inj (Option.some.inj hnext)
    refine ⟨fun _ edit' secs hedit => ?_, fun _ => ⟨hunnamed hnone.symm, ?_⟩⟩
    · rw [← hnone] at hedit
      cases hedit
    · rw [← hs']
      exact set_saved h.callback rfl

/-- A step that has the property leaves nothing unsaved. -/
theorem consistent_next (hcons : Consistent s) {label : UpdateLabel P}
    {edit : Option (Edit P × List CfgSection)} (hnext : s.next default label = some (s', edit))
    (hsaved : SavesStored (label, ⟨edit, s.snapshot, s'.snapshot⟩)) : Consistent s' := by
  cases label with
  | start id request =>
    dsimp only [Updating.next] at hnext
    split_ifs at hnext
    obtain ⟨r, -, hr⟩ := Option.map_eq_some_iff.mp hnext
    rw [← (Prod.mk.inj hr).1]
    exact hcons
  | _ => exact .inr hsaved

theorem updatingInvariant_start (default : GwCfg P) (read : Option (GwCfg P)) :
    UpdatingInvariant default (updatingStart default read) where
  callback := rfl
  parsed := fun _ _ hedit => (nomatch hedit)
  writes := fun _ _ hedit => (nomatch hedit)

theorem consistent_start (default : GwCfg P) (read : Option (GwCfg P)) :
    Consistent (updatingStart default read) := by
  cases read with
  | none => exact .inl rfl
  | some cfg => exact .inr rfl

end Steps

section Runs

variable {default : GwCfg P} {read : Option (GwCfg P)} {history : List (UpdateEvent P)}
  {s : Updating P}

/-- The steps of a run have the property as long as they meet the condition. -/
structure Updates (default : GwCfg P) (history : List (UpdateEvent P)) (s : Updating P) : Prop where
  invariant : UpdatingInvariant default s
  consistent : (∀ ev ∈ history, KeepsUnnamed default ev ∧ SavesStored ev) → Consistent s
  timely : (∀ ev ∈ history, KeepsUnnamed default ev ∧ SavesStored ev) ↔
    ∀ ev ∈ history, InTime default ev

theorem updates_run (hr : (updating default read).FreeRun history s) :
    Updates default history s := by
  refine hr.historyInvariant ?_ fun history s label s' o hs _ hstep => ?_
  · exact ⟨updatingInvariant_start default read, fun _ => consistent_start default read,
      ⟨fun _ _ hmem => (nomatch hmem), fun _ _ hmem => (nomatch hmem)⟩⟩
  · obtain ⟨⟨s₁, edit⟩, hnext, hpair⟩ := Option.map_eq_some_iff.mp hstep
    obtain ⟨rfl, rfl⟩ := Prod.mk.inj hpair
    refine ⟨hs.invariant.next hnext, fun hall => ?_, ?_⟩
    · obtain ⟨hlast, hearlier⟩ := List.forall_mem_cons.mp hall
      exact consistent_next (hs.consistent hearlier) hnext hlast.2
    · rw [List.forall_mem_cons, List.forall_mem_cons]
      constructor
      · rintro ⟨hlast, hearlier⟩
        have hiff := next_iff hs.invariant (hs.consistent hearlier) hnext
        exact ⟨hiff.mp hlast, hs.timely.mp hearlier⟩
      · rintro ⟨hlast, hearlier⟩
        have hkept := hs.timely.mpr hearlier
        have hiff := next_iff hs.invariant (hs.consistent hkept) hnext
        exact ⟨hiff.mpr hlast, hkept⟩

/-- No update is lost in a run if and only if every request stores its sections in time, and every
update is saved if and only if none of them goes past the callback. -/
theorem noUpdateLost_iff (hr : (updating default read).FreeRun history s) :
    (∀ ev ∈ history, KeepsUnnamed default ev ∧ SavesStored ev) ↔
      ∀ ev ∈ history, InTime default ev :=
  (updates_run hr).timely

end Runs

section Samples

variable {default : GwCfg P} {read : Option (GwCfg P)}

theorem ssid_ofSection (a b : GwCfg P) (h : CfgSection.wifiSta.Same a b) :
    a.wifiCfg.sta.wifiConfigSta.ssid = b.wifiCfg.sta.wifiConfigSta.ssid :=
  congrArg (fun sta => sta.wifiConfigSta.ssid) h

/-- The name of the network that the gateway connects to. -/
def ssidField (P : Platform) : Field P := ⟨_, .wifiSta, _, ssid_ofSection⟩

theorem download_leaves_ssid {root : Json} (hroot : root.getObjectItem "wifi_sta_config" = none) :
    (UpdateRequest.download root).Leaves default (ssidField P) := by
  intro copy new writes hparse
  obtain ⟨new', hnew, hwrites⟩ := Option.bind_eq_some_iff.mp hparse
  split_ifs at hwrites
  rw [← (Prod.mk.inj (Option.some.inj hwrites)).1]
  obtain ⟨ruuvi, -, hnew⟩ := Option.bind_eq_some_iff.mp hnew
  obtain ⟨ap, -, hnew⟩ := Option.bind_eq_some_iff.mp hnew
  rw [← Option.some.inj hnew]
  change (gwCfgJsonParseWifiSta root copy.wifiCfg.sta).wifiConfigSta.ssid = _
  unfold gwCfgJsonParseWifiSta
  rw [hroot]
  rfl

theorem updating_step {s s' : Updating P} {label : UpdateLabel P}
    {edit : Option (Edit P × List CfgSection)} (hnext : s.next default label = some (s', edit)) :
    (updating default read).step s label = some (s', ⟨edit, s.snapshot, s'.snapshot⟩) :=
  congrArg (Option.map _) hnext

/-- A request begins at the start, when nothing else is going on. -/
theorem download_starts {root : Json} {new : GwCfg P} {writes : List (List CfgSection)}
    (hparse : (UpdateRequest.download root).parse default
      (updatingStart default read).store.gatewayConfig = some (new, writes)) :
    ∃ s₁ : Updating P,
      (updatingStart default read).next default (.start 0 (.download root)) = some (s₁, none) ∧
      s₁.store = (updatingStart default read).store ∧ s₁.edits 0 =
        some ⟨.download root, (updatingStart default read).store.gatewayConfig, new, writes⟩ := by
  have hidle : ¬((updatingStart default read).edits 0).isSome = true := Bool.false_ne_true
  dsimp only [Updating.next]
  rw [if_neg hidle, hparse]
  refine ⟨_, rfl, rfl, ?_⟩
  dsimp only
  exact Function.update_self ..

/-- The last call of a request stores its sections, whatever is stored by then. -/
theorem write_next (default : GwCfg P) {s : Updating P} {id : ℕ} {request : UpdateRequest}
    {copy new : GwCfg P} {secs : List CfgSection}
    (hedit : s.edits id = some ⟨request, copy, new, [secs]⟩) :
    ∃ s' : Updating P,
      s.next default (.write id) = some (s', some (⟨request, copy, new, []⟩, secs)) ∧
      s'.store = (s.store.set (.ofSections new secs)).1 := by
  dsimp only [Updating.next]
  rw [hedit]
  exact ⟨_, rfl, rfl⟩

/-- A network that is chosen while a downloaded configuration is parsed is lost. -/
theorem download_losesNetwork {root : Json} {new : GwCfg P} {secs : List CfgSection}
    (sta : WifimanConfigSta)
    (hparse : (UpdateRequest.download root).parse default
      (updatingStart default read).store.gatewayConfig = some (new, [secs]))
    (hroot : root.getObjectItem "wifi_sta_config" = none) (hsecs : .wifiSta ∈ secs)
    (hsta : sta.wifiConfigSta.ssid ≠
      (updatingStart default read).store.gatewayConfig.wifiCfg.sta.wifiConfigSta.ssid) :
    ∃ history s, (updating default read).FreeRun history s ∧
      ∃ ev ∈ history, ¬KeepsUnnamed default ev := by
  obtain ⟨s₁, hstart, -, hedit⟩ := download_starts hparse
  obtain ⟨s₃, hwrite, hstore⟩ :=
    write_next default (s := s₁.set ⟨none, none, none, some sta⟩) hedit
  have hr₁ : (updating default read).FreeRun _ s₁ := .step .init trivial (updating_step hstart)
  have hr₂ : (updating default read).FreeRun _ (s₁.set ⟨none, none, none, some sta⟩) :=
    .step hr₁ (i := .updateWifiStaConfig sta) trivial rfl
  refine ⟨_, s₃, .step hr₂ trivial (updating_step hwrite), _, List.mem_cons_self,
    fun hkept => hsta ?_⟩
  -- the new network would have to be the one that the copy has
  have hiff := write_keeps_iff ⟨.download root, _, new, []⟩ hparse
    (s₁.set ⟨none, none, none, some sta⟩).store secs
  rw [← hstore] at hiff
  have hsame := hiff.mp (hkept _ _ rfl) (ssidField P) hsecs (download_leaves_ssid hroot)
  have hnew := ((updateLaw s₁.store ⟨none, none, none, some sta⟩).wifiSta.given sta rfl).1
  exact (congrArg (fun sta => sta.wifiConfigSta.ssid) hnew).symm.trans hsame.symm

/-- Switching Ethernet off or on is not saved. -/
theorem setEthUseEth_notSaved (cfg : GwCfg P) :
    ∃ history s, (updating default (some cfg)).FreeRun history s ∧
      ∃ ev ∈ history, ¬SavesStored ev := by
  let s₀ := updatingStart default (some cfg)
  have hr : (updating default (some cfg)).FreeRun _
      (s₀.setEthUseEth !s₀.store.gatewayConfig.ethCfg.useEth) :=
    .step .init (i := .setEthUseEth !s₀.store.gatewayConfig.ethCfg.useEth) trivial rfl
  refine ⟨_, _, hr, _, List.mem_cons_self, fun hsaved => ?_⟩
  have hcfg : s₀.store.gatewayConfig.ethCfg.useEth = !s₀.store.gatewayConfig.ethCfg.useEth :=
    congrArg (fun cfg => cfg.ethCfg.useEth) (Option.some.inj hsaved)
  exact Bool.not_ne_self _ hcfg.symm

def sampleRemoteJson : Json := .object [("remote_cfg_use", .bool true)]

/-- The sample configuration with another network. -/
def sampleOtherNetwork : WifimanConfigSta :=
  { sampleDefault.wifiCfg.sta with wifiConfigSta.ssid := .snprintf _ (ascii "other") }

theorem download_writes {root : Json} {copy new : GwCfg P} {writes : List (List CfgSection)}
    (hparse : (UpdateRequest.download root).parse default copy = some (new, writes)) :
    writes = [[.ruuvi, .eth, .wifiAp, .wifiSta]] := by
  obtain ⟨new', -, hwrites⟩ := Option.bind_eq_some_iff.mp hparse
  split_ifs at hwrites
  exact (Prod.mk.inj (Option.some.inj hwrites)).2.symm

theorem parse_sampleRemote : ∃ new,
    (UpdateRequest.download sampleRemoteJson).parse sampleDefault
      (updatingStart sampleDefault (some sampleDefault)).store.gatewayConfig =
    some (new, [[.ruuvi, .eth, .wifiAp, .wifiSta]]) := by
  have hparse : ((UpdateRequest.download sampleRemoteJson).parse sampleDefault
      (updatingStart sampleDefault (some sampleDefault)).store.gatewayConfig).isSome = true := by
    decide +kernel
  obtain ⟨⟨new, writes⟩, hparse⟩ := Option.isSome_iff_exists.mp hparse
  exact ⟨new, download_writes hparse ▸ hparse⟩

/-- The network chosen in between is lost, and the switch of Ethernet is not saved. -/
theorem updates_lost :
    (∃ history s, (updating sampleDefault (some sampleDefault)).FreeRun history s ∧
      ∃ ev ∈ history, ¬KeepsUnnamed sampleDefault ev) ∧
    (∃ history s, (updating sampleDefault (some sampleDefault)).FreeRun history s ∧
      ∃ ev ∈ history, ¬SavesStored ev) := by
  obtain ⟨new, hparse⟩ := parse_sampleRemote
  refine ⟨?_, setEthUseEth_notSaved sampleDefault⟩
  exact download_losesNetwork sampleOtherNetwork hparse (by decide +kernel) (by decide)
    (by decide +kernel)

/-- A downloaded configuration that nobody interferes with. -/
theorem noUpdateLost_download :
    ∃ history s, (updating sampleDefault (some sampleDefault)).FreeRun history s ∧
      history.length = 2 ∧ ∀ ev ∈ history, KeepsUnnamed sampleDefault ev ∧ SavesStored ev := by
  obtain ⟨new, hparse⟩ := parse_sampleRemote
  obtain ⟨s₁, hstart, hstore, hedit⟩ := download_starts hparse
  obtain ⟨s₂, hwrite, -⟩ := write_next sampleDefault hedit
  have hr : (updating sampleDefault (some sampleDefault)).FreeRun _ s₂ :=
    .step (.step .init trivial (updating_step hstart)) trivial (updating_step hwrite)
  refine ⟨_, _, hr, rfl, (noUpdateLost_iff hr).mpr ?_⟩
  intro ev hev
  rcases List.mem_cons.mp hev with rfl | hev
  · intro edit' secs hedit field _ _
    rw [← (Prod.mk.inj (Option.some.inj hedit)).1]
    exact congrArg (fun g => field.value g.gatewayConfig) hstore.symm
  · rw [List.mem_singleton.mp hev]
    exact fun _ _ hedit => (nomatch hedit)

end Samples

end RuuviGateway.Config
