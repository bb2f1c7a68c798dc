import RuuviGateway.Settings.Nvs

/-!
# Saving the configuration

An attempt to save stores the text or leaves the NVS as it is. If there was not enough space for it
the whole NVS is erased before the second attempt.
-/

namespace RuuviGateway.Settings

open General Config

section Save

/-- What can be told of an attempt to save the text before it is made. -/
def SaveOutcome.err (o : SaveOutcome) (initialized : Bool) (prev : Option Bytes) (text : Bytes) :
    EspErr :=
  if !(o.opened && initialized) then .fail
  else if o.read.sizeGot ∧ o.read.allocated ∧ o.read.got ∧ prev = some text then .ok
  else o.setAndCommit

/-- The text is in the NVS after the attempt. -/
def SaveOutcome.stores (o : SaveOutcome) (initialized : Bool) (prev : Option Bytes) (text : Bytes) :
    Bool :=
  o.opened && initialized && (o.err initialized prev text).stores o.stored

/-- The NVS after an attempt to save the text. -/
structure SavedAs (text : Bytes) (stores : Bool) (nvs nvs' : Nvs) : Prop where
  initialized : nvs'.initialized = nvs.initialized
  cfgJson : nvs'.cfgJson = if stores then some text else nvs.cfgJson
  cfgBlob : nvs'.cfgBlob = nvs.cfgBlob
  wifiBlob : nvs'.wifiBlob = nvs.wifiBlob
  stale : ∀ h, nvs.handles.Stale h → nvs'.handles.Stale h

theorem readGwCfgJson_opened {o : ReadOutcome} {handle : ℕ} {nvs : Nvs}
    (hopen : handle ∈ nvs.handles.opened) :
    settingsReadGwCfgJsonFromNvs o handle nvs =
      if o.sizeGot && o.allocated && o.got then nvs.cfgJson else none := by
  unfold settingsReadGwCfgJsonFromNvs
  rw [if_neg (not_not.mpr hopen)]
  cases o.sizeGot <;> cases o.allocated <;> cases o.got <;> rfl

theorem readGwCfgJson_eq_some {o : ReadOutcome} {nvs : Nvs} {text : Bytes} :
    settingsReadGwCfgJsonFromNvs o nvs.handles.next { nvs with handles := nvs.handles.openNext } =
      some text ↔ o.sizeGot ∧ o.allocated ∧ o.got ∧ nvs.cfgJson = some text := by
  rw [readGwCfgJson_opened nvs.handles.next_mem_openNext]
  cases o.sizeGot <;> cases o.allocated <;> cases o.got <;> simp

variable (o : SaveOutcome) (text : Bytes) (nvs : Nvs)

theorem saveToFlashCjsonRetErr_spec :
    (settingsSaveToFlashCjsonRetErr o text nvs).1 = o.err nvs.initialized nvs.cfgJson text ∧
      SavedAs text (o.stores nvs.initialized nvs.cfgJson text) nvs
        (settingsSaveToFlashCjsonRetErr o text nvs).2 := by
  unfold settingsSaveToFlashCjsonRetErr SaveOutcome.stores SaveOutcome.err ruuviNvsOpen
  cases hopen : o.opened && nvs.initialized with
  | false => exact ⟨rfl, rfl, rfl, rfl, rfl, fun _ hs => hs⟩
  | true =>
    simp only [if_true, readGwCfgJson_eq_some, Bool.not_true, Bool.false_eq_true, if_false,
      Bool.true_and]
    have hstale (h : ℕ) (hs : nvs.handles.Stale h) :
        (nvs.handles.openNext.close nvs.handles.next).Stale h := hs.openNext.close _
    by_cases hfound : o.read.sizeGot ∧ o.read.allocated ∧ o.read.got ∧ nvs.cfgJson = some text
    · simp only [if_pos hfound]
      exact ⟨trivial, rfl, hfound.2.2.2, rfl, rfl, hstale⟩
    · simp only [if_neg hfound]
      exact ⟨trivial, rfl, rfl, rfl, rfl, hstale⟩

end Save

section Retry

/-- The first attempt finds too little space, and the NVS is erased. -/
def RetryOutcome.erases (o : RetryOutcome) (initialized : Bool) (prev : Option Bytes)
    (text : Bytes) : Bool :=
  decide (o.first.err initialized prev text = .nvsNotEnoughSpace) && o.erased

/-- The text is in the NVS in the end. -/
def RetryOutcome.stores (o : RetryOutcome) (initialized : Bool) (prev : Option Bytes)
    (text : Bytes) : Bool :=
  if o.first.err initialized prev text = .nvsNotEnoughSpace then
    o.second.stores o.initialized (if o.erased then none else prev) text
  else o.first.stores initialized prev text

/-- The NVS after the text was saved, or not. Nothing else is left if it was erased. -/
structure Written (o : RetryOutcome) (text : Bytes) (nvs nvs' : Nvs) : Prop where
  initialized : o.initialized → nvs.initialized → nvs'.initialized
  cfgJson : nvs'.cfgJson =
    if o.stores nvs.initialized nvs.cfgJson text then some text
    else if o.erases nvs.initialized nvs.cfgJson text then none
    else nvs.cfgJson
  cfgBlob : nvs'.cfgBlob =
    if o.erases nvs.initialized nvs.cfgJson text then none else nvs.cfgBlob
  wifiBlob : nvs'.wifiBlob =
    if o.erases nvs.initialized nvs.cfgJson text then none else nvs.wifiBlob
  stale : ∀ h, nvs.handles.Stale h → nvs'.handles.Stale h

variable (o : RetryOutcome) (text : Bytes) (nvs : Nvs)

theorem saveToFlashCjson_written : Written o text nvs (settingsSaveToFlashCjson o text nvs).2 := by
  obtain ⟨herr, hfirst⟩ := saveToFlashCjsonRetErr_spec o.first text nvs
  unfold settingsSaveToFlashCjson
  generalize settingsSaveToFlashCjsonRetErr o.first text nvs = r at herr hfirst
  obtain ⟨err, nvs₁⟩ := r
  by_cases hspace : err = .nvsNotEnoughSpace
  · have hfull : o.first.err nvs.initialized nvs.cfgJson text = .nvsNotEnoughSpace :=
      herr.symm.trans hspace
    have hjson : nvs₁.cfgJson = nvs.cfgJson :=
      hfirst.cfgJson.trans (by simp [SaveOutcome.stores, hfull, EspErr.stores])
    obtain ⟨-, hsecond⟩ := saveToFlashCjsonRetErr_spec o.second text
      (ruuviNvsInit o.initialized (ruuviNvsErase o.erased (ruuviNvsDeinit nvs₁)))
    have hstale (h : ℕ) (hs : nvs.handles.Stale h) := (hfirst.stale h hs).closeAll
    have hinit (hok : o.initialized = true) (_ : nvs.initialized = true) :=
      hsecond.initialized.trans hok
    simp only [if_pos hspace]
    cases herased : o.erased with
    | false =>
      rw [herased] at hsecond
      have herases : o.erases nvs.initialized nvs.cfgJson text = false := by
        simp [RetryOutcome.erases, herased]
      refine ⟨herased ▸ hinit, ?_, ?_, ?_, fun h hs => hsecond.stale h (hstale h hs)⟩
      · rw [herases, RetryOutcome.stores, if_pos hfull, herased]
        simpa [ruuviNvsInit, ruuviNvsErase, ruuviNvsDeinit, hjson] using hsecond.cfgJson
      · rw [herases]
        exact hsecond.cfgBlob.trans hfirst.cfgBlob
      · rw [herases]
        exact hsecond.wifiBlob.trans hfirst.wifiBlob
    | true =>
      rw [herased] at hsecond
      have herases : o.erases nvs.initialized nvs.cfgJson text = true := by
        simp [RetryOutcome.erases, herased, hfull]
      refine ⟨herased ▸ hinit, ?_, ?_, ?_, fun h hs => hsecond.stale h (hstale h hs)⟩
      · rw [herases, RetryOutcome.stores, if_pos hfull, herased]
        simpa [ruuviNvsInit, ruuviNvsErase, ruuviNvsDeinit] using hsecond.cfgJson
      · rw [herases]
        exact hsecond.cfgBlob
      · rw [herases]
        exact hsecond.wifiBlob
  · have hroom : o.first.err nvs.initialized nvs.cfgJson text ≠ .nvsNotEnoughSpace :=
      fun hfull => hspace (herr.trans hfull)
    have herases : o.erases nvs.initialized nvs.cfgJson text = false := by
      simp [RetryOutcome.erases, hroom]
    simp only [if_neg hspace]
    refine ⟨fun _ hok => hfirst.initialized.trans hok, ?_, ?_, ?_, hfirst.stale⟩
    · rw [herases, RetryOutcome.stores, if_neg hroom]
      exact hfirst.cfgJson
    · rw [herases]
      exact hfirst.cfgBlob
    · rw [herases]
      exact hfirst.wifiBlob

end Retry

end RuuviGateway.Settings
