import RuuviGateway.FwUpdate.Partitions

/-!
# The procedure of an update

The three files are written to the partitions that are not in use, then the boot partition is
switched, and the nRF52 firmware is taken from the partition that belongs to the new application.
With an old partition table, that is not the partition that has been written.
-/

namespace RuuviGateway.FwUpdate

open General General.Bracketed Http Relaying

section Model

structure UpdateOutcome where
  esp : OtaOutcome
  gwui : DataPartitionOutcome
  nrf52 : DataPartitionOutcome
  bootPartitionSet : Bool
  nrf52Updated : Bool

structure UpdateResult where
  success : Bool
  info : FlashInfo
  log : List FlashOp

def fwUpdateRuuviGatewayEspBin (info : FlashInfo) (base : Bytes) (o : OtaOutcome) :
    Request (Bool × List FlashOp) :=
  if !o.urlAllocated then pure (false, [])
  else fwUpdateOta info.runningPartition info.nextUpdatePartition
    (fileUrl base "ruuvi_gateway_esp.bin") o

/-- The common body of the updates of the two data partitions. -/
def fwUpdateDataBin (p : Partition) (base : Bytes) (name : String) (o : DataPartitionOutcome) :
    Request (Bool × List FlashOp) :=
  if !o.urlAllocated then pure (false, []) else fwUpdateDataPartition p (fileUrl base name) o

def fwUpdateFatfsGwuiBin (info : FlashInfo) (base : Bytes) (o : DataPartitionOutcome) :
    Request (Bool × List FlashOp) :=
  fwUpdateDataBin info.nextFatfsGwuiPartition base "fatfs_gwui.bin" o

def fwUpdateFatfsNrf52Bin (info : FlashInfo) (base : Bytes) (o : DataPartitionOutcome) :
    Request (Bool × List FlashOp) :=
  fwUpdateDataBin info.nextFatfsNrf52Partition base "fatfs_nrf52.bin" o

/-- What follows the downloads. -/
def fwUpdateSwitch (info : FlashInfo) (log : List FlashOp) (o : UpdateOutcome) : UpdateResult :=
  if !o.bootPartitionSet then ⟨false, info, log⟩
  else
    let info' := { info with
      bootPartition := info.nextUpdatePartition
      isOta0Active := !info.isOta0Active }
    ⟨o.nrf52Updated, info', log ++
      [.setBoot info.nextUpdatePartition, .updateNrf52 info'.currentFatfsNrf52PartitionName]⟩

/-- The base URL is read again for each file. -/
def fwUpdateDoActions (info : FlashInfo) (base : String → Bytes) (o : UpdateOutcome) :
    Request UpdateResult := do
  let esp ← fwUpdateRuuviGatewayEspBin info (base "ruuvi_gateway_esp.bin") o.esp
  if !esp.1 then pure ⟨false, info, esp.2⟩
  else do
    let gwui ← fwUpdateFatfsGwuiBin info (base "fatfs_gwui.bin") o.gwui
    if !gwui.1 then pure ⟨false, info, esp.2 ++ gwui.2⟩
    else do
      let nrf52 ← fwUpdateFatfsNrf52Bin info (base "fatfs_nrf52.bin") o.nrf52
      if !nrf52.1 then pure ⟨false, info, esp.2 ++ gwui.2 ++ nrf52.2⟩
      else pure (fwUpdateSwitch info (esp.2 ++ gwui.2 ++ nrf52.2) o)

/-- What an update may do: it switches to the new application after all files have been written,
leaves the partitions in use alone, and takes the nRF52 firmware from the partition that it has
written. -/
structure AllOrNothing (api : FlashApi) (info : FlashInfo) (o : UpdateOutcome) (r : UpdateResult) :
    Prop where
  switched : ∀ before p after, r.log = before ++ .setBoot p :: after →
    p = info.nextUpdatePartition ∧ OtaWrittenTo info.nextUpdatePartition o.esp before ∧
      DataWrittenTo info.nextFatfsGwuiPartition o.gwui before ∧
      DataWrittenTo info.nextFatfsNrf52Partition o.nrf52 before
  unchanged : (∀ p, .setBoot p ∉ r.log) → r.info.bootPartition = info.bootPartition
  protects : ∀ op ∈ r.log, ∀ p, op.place = some p → p ≠ info.runningPartition ∧
    api.findDataFatPartitionByName info.currentFatfsGwuiPartitionName ≠ some p
  nrf52 : ∀ name, .updateNrf52 name ∈ r.log →
    api.findDataFatPartitionByName name = some info.nextFatfsNrf52Partition

/-- The layout is read without a null pointer, and if it is accepted, every update is all or
nothing. -/
def FlashApi.UpdatesSafely (api : FlashApi) : Prop :=
  api.fwUpdateReadFlashInfo ≠ .nullDereferenced ∧
    ∀ info, api.fwUpdateReadFlashInfo = .accepted info → ∀ base o r,
      (fwUpdateDoActions info base o).result = some r → AllOrNothing api info o r

/-- An update of the layout can get through: the partitions consist of whole sectors, and that for
the application is one for updates which is not running. -/
structure Updatable (running next gwui nrf52 : Partition) : Prop where
  start : OtaStart running next
  nextSize : next.size % spiFlashSecSize = 0
  gwuiSize : gwui.size % spiFlashSecSize = 0
  nrf52Size : nrf52.size % spiFlashSecSize = 0

/-- The running application is the first one and there is no second partition for the nRF52
firmware, while all else that is looked up before is there. -/
structure FlashApi.LacksNrf52Partition (api : FlashApi) (running next gwui : Partition) : Prop where
  bootFound : api.bootPartition ≠ none
  runningFound : api.runningPartition = some running
  isOta0 : running.label = "ota_0"
  stateRead : api.isStateRead = true
  nextFound : api.nextUpdatePartition = some next
  gwuiFound : api.findDataFatPartitionByName gwGwuiPartition2 = some gwui
  nrf52Missing : api.findDataFatPartitionByName gwNrfPartition2 = none

/-- A layout that is read through a null pointer, or that an update can get through without the new
application finding its nRF52 firmware. -/
def FlashApi.HasOldTable (api : FlashApi) : Prop :=
  ∃ running next gwui, api.LacksNrf52Partition running next gwui ∧
    ∀ nrf52, api.findDataFatPartitionByName gwNrfPartition = some nrf52 →
      Updatable running next gwui nrf52

end Model

section Layout

variable {api : FlashApi} {info : FlashInfo}

/-- What an accepted layout has. -/
structure FlashApi.Accepts (api : FlashApi) (info : FlashInfo) : Prop where
  boot : api.bootPartition = some info.bootPartition
  running : api.runningPartition = some info.runningPartition
  state : api.isStateRead = true
  next : api.nextUpdatePartition = some info.nextUpdatePartition
  active : info.isOta0Active = decide (info.runningPartition.label = "ota_0")
  gwui : api.findDataFatPartitionByName
    (if info.isOta0Active then gwGwuiPartition2 else gwGwuiPartition) =
      some info.nextFatfsGwuiPartition
  nrf52 : api.findDataFatPartitionByName
      (if info.isOta0Active then gwNrfPartition2 else gwNrfPartition) =
        some info.nextFatfsNrf52Partition ∨
    info.isOta0Active = true ∧ api.findDataFatPartitionByName gwNrfPartition2 = none ∧
      api.findDataFatPartitionByName gwNrfPartition = some info.nextFatfsNrf52Partition

/-- Everything up to the partition for the nRF52 firmware has been found. -/
structure FlashApi.Finds (api : FlashApi) (boot running next gwui : Partition) : Prop where
  bootFound : api.bootPartition = some boot
  runningFound : api.runningPartition = some running
  stateRead : api.isStateRead = true
  nextFound : api.nextUpdatePartition = some next
  gwuiFound : api.findDataFatPartitionByName
    (if decide (running.label = "ota_0") then gwGwuiPartition2 else gwGwuiPartition) = some gwui

theorem read_of_finds {boot running next gwui : Partition} (h : api.Finds boot running next gwui) :
    api.fwUpdateReadFlashInfo = api.readNrf52Partition (decide (running.label = "ota_0"))
      fun nrf52 => ⟨decide (running.label = "ota_0"), boot, running, next, gwui, nrf52⟩ := by
  simp only [FlashApi.fwUpdateReadFlashInfo, h.bootFound, h.runningFound, h.stateRead, h.nextFound,
    Bool.not_true, Bool.false_eq_true, if_false]
  split
  · rename_i hnone
    exact absurd (hnone.symm.trans h.gwuiFound) nofun
  · rename_i gwui' hgwui
    rw [Option.some.inj (hgwui.symm.trans h.gwuiFound)]

theorem finds_of_read (h : api.fwUpdateReadFlashInfo ≠ .rejected) :
    ∃ boot running next gwui, api.Finds boot running next gwui := by
  unfold FlashApi.fwUpdateReadFlashInfo at h
  split at h
  · rename_i boot running hboot hrunning
    split_ifs at h with hstate
    · exact absurd rfl h
    split at h
    · exact absurd rfl h
    rename_i next hnext
    dsimp only at h
    split at h
    · exact absurd rfl h
    rename_i gwui hgwui
    exact ⟨boot, running, next, gwui, hboot, hrunning, by simpa using hstate, hnext, hgwui⟩
  · exact absurd rfl h

/-- The last lookup falls back to the first partition only for the first application. -/
theorem readNrf52_cases (api : FlashApi) (active : Bool) (f : Partition → FlashInfo) :
    (∃ p, api.findDataFatPartitionByName (if active then gwNrfPartition2 else gwNrfPartition) =
      some p ∧
      api.readNrf52Partition active f = .accepted (f p)) ∨
    (active = false ∧ api.readNrf52Partition active f = .rejected) ∨
    (active = true ∧ api.findDataFatPartitionByName gwNrfPartition2 = none ∧
      ((∃ p, api.findDataFatPartitionByName gwNrfPartition = some p ∧
          api.readNrf52Partition active f = .accepted (f p)) ∨
        api.findDataFatPartitionByName gwNrfPartition = none ∧
          api.readNrf52Partition active f = .nullDereferenced)) := by
  unfold FlashApi.readNrf52Partition
  cases hfound :
      api.findDataFatPartitionByName (if active then gwNrfPartition2 else gwNrfPartition) with
  | some p => exact .inl ⟨p, rfl, rfl⟩
  | none =>
    cases active with
    | false => exact .inr (.inl ⟨rfl, rfl⟩)
    | true =>
      refine .inr (.inr ⟨rfl, hfound, ?_⟩)
      cases hfirst : api.findDataFatPartitionByName gwNrfPartition with
      | some p => exact .inl ⟨p, rfl, rfl⟩
      | none => exact .inr ⟨rfl, rfl⟩

theorem accepts_of_read (h : api.fwUpdateReadFlashInfo = .accepted info) : api.Accepts info := by
  obtain ⟨boot, running, next, gwui, hfinds⟩ := finds_of_read (by rw [h]; exact nofun)
  rw [read_of_finds hfinds] at h
  rcases readNrf52_cases api (decide (running.label = "ota_0"))
      (fun nrf52 => ⟨decide (running.label = "ota_0"), boot, running, next, gwui, nrf52⟩) with
    ⟨p, hp, heq⟩ | ⟨-, heq⟩ | ⟨hactive, hsecond, ⟨p, hp, heq⟩ | ⟨-, heq⟩⟩
  · obtain rfl := ReadFlashInfo.accepted.inj (heq.symm.trans h)
    exact ⟨hfinds.bootFound, hfinds.runningFound, hfinds.stateRead, hfinds.nextFound, rfl,
      hfinds.gwuiFound, .inl hp⟩
  · cases heq.symm.trans h
  · obtain rfl := ReadFlashInfo.accepted.inj (heq.symm.trans h)
    exact ⟨hfinds.bootFound, hfinds.runningFound, hfinds.stateRead, hfinds.nextFound, rfl,
      hfinds.gwuiFound, .inr ⟨hactive, hsecond, hp⟩⟩
  · cases heq.symm.trans h

theorem lacks_of_read (h : api.fwUpdateReadFlashInfo = .nullDereferenced) : ∃ running next gwui,
    api.LacksNrf52Partition running next gwui ∧
      api.findDataFatPartitionByName gwNrfPartition = none := by
  obtain ⟨boot, running, next, gwui, hfinds⟩ := finds_of_read (by rw [h]; exact nofun)
  rw [read_of_finds hfinds] at h
  rcases readNrf52_cases api (decide (running.label = "ota_0"))
      (fun nrf52 => ⟨decide (running.label = "ota_0"), boot, running, next, gwui, nrf52⟩) with
    ⟨p, -, heq⟩ | ⟨-, heq⟩ | ⟨hactive, hsecond, ⟨p, -, heq⟩ | ⟨hfirst, -⟩⟩
  · cases heq.symm.trans h
  · cases heq.symm.trans h
  · cases heq.symm.trans h
  · have hgwui := hfinds.gwuiFound
    rw [hactive] at hgwui
    refine ⟨running, next, gwui, ⟨?_, hfinds.runningFound, of_decide_eq_true hactive,
      hfinds.stateRead, hfinds.nextFound, hgwui, hsecond⟩, hfirst⟩
    rw [hfinds.bootFound]
    exact Option.some_ne_none boot

theorem find_spec {name : String} {p : Partition}
    (h : api.findDataFatPartitionByName name = some p) :
    p.kind = .dataFat ∧ p.label = name := by
  have hp := List.find?_some h
  exact of_decide_eq_true hp

end Layout

section Actions

variable {info : FlashInfo} {o : UpdateOutcome}

theorem espBin_spec {base : Bytes} {o : OtaOutcome} {r : Bool × List FlashOp}
    (h : (fwUpdateRuuviGatewayEspBin info base o).result = some r) :
    OnlyOn info.nextUpdatePartition r.2 ∧
      (r.2 ≠ [] → OtaStart info.runningPartition info.nextUpdatePartition) ∧ (r.1 = true →
        OtaStart info.runningPartition info.nextUpdatePartition ∧
          info.nextUpdatePartition.size % spiFlashSecSize = 0 ∧
            OtaWrittenTo info.nextUpdatePartition o r.2) := by
  unfold fwUpdateRuuviGatewayEspBin at h
  split_ifs at h
  · obtain rfl := Option.some.inj h
    exact ⟨onlyOn_nil _, fun hne => absurd rfl hne, nofun⟩
  · exact ota_spec h

theorem dataBin_spec {p : Partition} {base : Bytes} {name : String} {o : DataPartitionOutcome}
    {r : Bool × List FlashOp} (h : (fwUpdateDataBin p base name o).result = some r) :
    OnlyOn p r.2 ∧ (r.1 = true → p.size % spiFlashSecSize = 0 ∧ DataWrittenTo p o r.2) := by
  unfold fwUpdateDataBin at h
  split_ifs at h
  · obtain rfl := Option.some.inj h
    exact ⟨onlyOn_nil _, nofun⟩
  · exact dataPartition_spec h

/-- The operations change the partitions that are not in use. -/
def Touches (info : FlashInfo) (log : List FlashOp) : Prop :=
  ∀ op ∈ log, op.place = some info.nextUpdatePartition ∧
      OtaStart info.runningPartition info.nextUpdatePartition ∨
    op.place = some info.nextFatfsGwuiPartition ∨ op.place = some info.nextFatfsNrf52Partition

theorem Touches.append {log log' : List FlashOp} (h : Touches info log) (h' : Touches info log') :
    Touches info (log ++ log') := fun op hop => (List.mem_append.mp hop).elim (h op) (h' op)

/-- The logs of three downloads that have all succeeded. -/
structure AllWritten (info : FlashInfo) (o : UpdateOutcome) (esp gwui nrf52 : List FlashOp) :
    Prop where
  updatable : Updatable info.runningPartition info.nextUpdatePartition info.nextFatfsGwuiPartition
    info.nextFatfsNrf52Partition
  onNext : OnlyOn info.nextUpdatePartition esp
  onGwui : OnlyOn info.nextFatfsGwuiPartition gwui
  onNrf52 : OnlyOn info.nextFatfsNrf52Partition nrf52
  esp : OtaWrittenTo info.nextUpdatePartition o.esp esp
  gwui : DataWrittenTo info.nextFatfsGwuiPartition o.gwui gwui
  nrf52 : DataWrittenTo info.nextFatfsNrf52Partition o.nrf52 nrf52

/-- An update stops before the switch, or gets there with all files written. -/
theorem doActions_cases {base : String → Bytes} {r : UpdateResult}
    (h : (fwUpdateDoActions info base o).result = some r) :
    (∃ log, Touches info log ∧ r = ⟨false, info, log⟩) ∨
      ∃ esp gwui nrf52, Touches info (esp ++ gwui ++ nrf52) ∧ AllWritten info o esp gwui nrf52 ∧
        r = fwUpdateSwitch info (esp ++ gwui ++ nrf52) o := by
  unfold fwUpdateDoActions at h
  rw [result_bind] at h
  obtain ⟨esp, hesp, h⟩ := Option.bind_eq_some_iff.mp h
  obtain ⟨honNext, hstart, hwritten⟩ := espBin_spec hesp
  have htouches : Touches info esp.2 := by
    intro op hop
    exact .inl ⟨honNext op hop, hstart (List.ne_nil_of_mem hop)⟩
  split_ifs at h with hespOk
  · exact .inl ⟨esp.2, htouches, (Option.some.inj h).symm⟩
  rw [result_bind] at h
  obtain ⟨gwui, hgwui, h⟩ := Option.bind_eq_some_iff.mp h
  obtain ⟨honGwui, hgwuiWritten⟩ := dataBin_spec hgwui
  have htouches := htouches.append (fun op hop => .inr (.inl (honGwui op hop)))
  split_ifs at h with hgwuiOk
  · exact .inl ⟨_, htouches, (Option.some.inj h).symm⟩
  rw [result_bind] at h
  obtain ⟨nrf52, hnrf52, h⟩ := Option.bind_eq_some_iff.mp h
  obtain ⟨honNrf52, hnrf52Written⟩ := dataBin_spec hnrf52
  have htouches := htouches.append (fun op hop => .inr (.inr (honNrf52 op hop)))
  split_ifs at h with hnrf52Ok
  · exact .inl ⟨_, htouches, (Option.some.inj h).symm⟩
  rw [Bool.not_eq_true', Bool.not_eq_false] at hespOk hgwuiOk hnrf52Ok
  obtain ⟨hota, hsize, hespWritten⟩ := hwritten hespOk
  obtain ⟨hgwuiSize, hgwuiWritten⟩ := hgwuiWritten hgwuiOk
  obtain ⟨hnrf52Size, hnrf52Written⟩ := hnrf52Written hnrf52Ok
  exact .inr ⟨esp.2, gwui.2, nrf52.2, htouches,
    ⟨⟨hota, hsize, hgwuiSize, hnrf52Size⟩, honNext, honGwui,
    honNrf52, hespWritten, hgwuiWritten, hnrf52Written⟩, (Option.some.inj h).symm⟩

/-- The partitions that are written are three different ones. -/
structure Distinct (info : FlashInfo) : Prop where
  gwui : info.nextFatfsGwuiPartition.kind = .dataFat
  nrf52 : info.nextFatfsNrf52Partition.kind = .dataFat
  ne : info.nextFatfsGwuiPartition ≠ info.nextFatfsNrf52Partition

theorem AllWritten.all {esp gwui nrf52 : List FlashOp} (h : AllWritten info o esp gwui nrf52)
    (hdistinct : Distinct info) :
    OtaWrittenTo info.nextUpdatePartition o.esp (esp ++ gwui ++ nrf52) ∧
      DataWrittenTo info.nextFatfsGwuiPartition o.gwui (esp ++ gwui ++ nrf52) ∧
      DataWrittenTo info.nextFatfsNrf52Partition o.nrf52 (esp ++ gwui ++ nrf52) := by
  have hne {p : Partition} (hp : p.kind = .dataFat) : p ≠ info.nextUpdatePartition := by
    rintro rfl
    cases hp.symm.trans h.updatable.start.kind
  have hgwui := hne hdistinct.gwui
  have hnrf52 := hne hdistinct.nrf52
  refine ⟨(h.esp.append h.onGwui hgwui).append h.onNrf52 hnrf52, ?_, ?_⟩
  · exact (h.gwui.prepend h.onNext hgwui.symm).append h.onNrf52 hdistinct.ne.symm
  · rw [List.append_assoc]
    exact (h.nrf52.prepend h.onGwui hdistinct.ne).prepend h.onNext hnrf52.symm

/-- There is one way to cut a log at its only switch. -/
theorem eq_of_switch {log before after : List FlashOp} {next p : Partition} {name : String}
    (hlog : ∀ q, FlashOp.setBoot q ∉ log)
    (h : log ++ [.setBoot next, .updateNrf52 name] = before ++ .setBoot p :: after) :
    before = log ∧ p = next := by
  rcases List.append_eq_append_iff.mp h with ⟨rest, rfl, hrest⟩ | ⟨rest, rfl, hrest⟩
  · cases rest with
    | nil =>
      obtain ⟨hhead, -⟩ := List.cons.inj hrest
      exact ⟨List.append_nil log, (FlashOp.setBoot.inj hhead).symm⟩
    | cons op rest =>
      cases rest with
      | nil => cases (List.cons.inj (List.cons.inj hrest).2).1
      | cons op' rest => cases rest <;> cases (List.cons.inj (List.cons.inj hrest).2).2
  · cases rest with
    | nil =>
      obtain ⟨hhead, -⟩ := List.cons.inj hrest
      exact ⟨(List.append_nil before).symm, FlashOp.setBoot.inj hhead⟩
    | cons op rest =>
      obtain ⟨rfl, -⟩ := List.cons.inj hrest
      exact absurd (List.mem_append_right before List.mem_cons_self) (hlog p)

theorem Touches.place_ne_none {log : List FlashOp} (h : Touches info log) {op : FlashOp}
    (hop : op ∈ log) : op.place ≠ none := by
  rcases h op hop with ⟨hplace, -⟩ | hplace | hplace <;> rw [hplace] <;> exact Option.some_ne_none _

/-- An update that stops before the switch has written to unused partitions only. -/
theorem allOrNothing_stopped {api : FlashApi} {log : List FlashOp} {success : Bool}
    (h : Touches info log)
    (hprotects : ∀ op ∈ log, ∀ p, op.place = some p → p ≠ info.runningPartition ∧
      api.findDataFatPartitionByName info.currentFatfsGwuiPartitionName ≠ some p) :
    AllOrNothing api info o ⟨success, info, log⟩ where
  switched before p after hlog := by
    have hmem : FlashOp.setBoot p ∈ before ++ .setBoot p :: after :=
      List.mem_append_right before List.mem_cons_self
    rw [← hlog] at hmem
    exact absurd rfl (h.place_ne_none hmem)
  unchanged _ := rfl
  protects := hprotects
  nrf52 name hmem := absurd rfl (h.place_ne_none hmem)

/-- What the labels of the partitions are that an update is written to. -/
theorem FlashApi.Accepts.labels {api : FlashApi} (h : api.Accepts info) :
    info.nextFatfsGwuiPartition.label =
        (if info.isOta0Active then gwGwuiPartition2 else gwGwuiPartition) ∧
      (info.nextFatfsNrf52Partition.label = gwNrfPartition ∨
        info.nextFatfsNrf52Partition.label = gwNrfPartition2) := by
  refine ⟨(find_spec h.gwui).2, ?_⟩
  rcases h.nrf52 with hfound | ⟨-, -, hfound⟩
  · have hlabel := (find_spec hfound).2
    cases hactive : info.isOta0Active <;> rw [hactive] at hlabel
    · exact .inl hlabel
    · exact .inr hlabel
  · exact .inl (find_spec hfound).2

theorem FlashApi.Accepts.distinct {api : FlashApi} (h : api.Accepts info) : Distinct info := by
  obtain ⟨hgwui, hnrf52⟩ := h.labels
  refine ⟨(find_spec h.gwui).1, ?_, fun heq => ?_⟩
  · rcases h.nrf52 with hfound | ⟨-, -, hfound⟩ <;> exact (find_spec hfound).1
  · rw [heq] at hgwui
    rcases hnrf52 with hlabel | hlabel <;> cases hactive : info.isOta0Active <;>
      rw [hlabel, hactive] at hgwui <;> exact absurd hgwui (by decide)

/-- Neither the running application nor the web UI in use is written. -/
theorem Touches.protects {api : FlashApi} {log : List FlashOp} (h : Touches info log)
    (haccepts : api.Accepts info) : ∀ op ∈ log, ∀ p, op.place = some p →
      p ≠ info.runningPartition ∧
        api.findDataFatPartitionByName info.currentFatfsGwuiPartitionName ≠ some p := by
  intro op hop p hp
  obtain ⟨isOta, hrunning⟩ := api.running_app _ haccepts.running
  have hdata {q : Partition} (hq : q.kind = .dataFat) : q ≠ info.runningPartition := by
    rintro rfl
    cases hq.symm.trans hrunning
  have hdistinct := haccepts.distinct
  obtain ⟨hgwui, hnrf52⟩ := haccepts.labels
  rcases h op hop with ⟨hplace, hstart⟩ | hplace | hplace
  all_goals obtain rfl := Option.some.inj (hp.symm.trans hplace)
  · refine ⟨hstart.notRunning, fun hfound => ?_⟩
    cases (find_spec hfound).1.symm.trans hstart.kind
  · refine ⟨hdata hdistinct.gwui, fun hfound => ?_⟩
    have hlabel := (find_spec hfound).2
    rw [hgwui, FlashInfo.currentFatfsGwuiPartitionName] at hlabel
    cases hactive : info.isOta0Active <;> rw [hactive] at hlabel <;> exact absurd hlabel (by decide)
  · refine ⟨hdata hdistinct.nrf52, fun hfound => ?_⟩
    have hlabel := (find_spec hfound).2
    rw [FlashInfo.currentFatfsGwuiPartitionName] at hlabel
    rcases hnrf52 with hname | hname <;> cases hactive : info.isOta0Active <;>
      rw [hname, hactive] at hlabel <;> exact absurd hlabel (by decide)

/-- The new application takes its firmware from the partition just written, unless the table is old.
-/
theorem FlashApi.Accepts.nrf52_written {api : FlashApi} (h : api.Accepts info)
    (hupdatable : Updatable info.runningPartition info.nextUpdatePartition
      info.nextFatfsGwuiPartition info.nextFatfsNrf52Partition) (hnew : ¬api.HasOldTable) :
    api.findDataFatPartitionByName
        (if !info.isOta0Active then gwNrfPartition else gwNrfPartition2) =
      some info.nextFatfsNrf52Partition := by
  rcases h.nrf52 with hfound | ⟨hactive, hsecond, hfirst⟩
  · cases hactive : info.isOta0Active <;> rw [hactive] at hfound <;> exact hfound
  · have hgwui := h.gwui
    rw [hactive] at hgwui
    have hlacks : api.LacksNrf52Partition info.runningPartition info.nextUpdatePartition
        info.nextFatfsGwuiPartition :=
      ⟨by rw [h.boot]; exact Option.some_ne_none _, h.running,
        of_decide_eq_true (h.active.symm.trans hactive), h.state, h.next, hgwui, hsecond⟩
    refine absurd ⟨_, _, _, hlacks, fun nrf52 hnrf52 => ?_⟩ hnew
    rwa [Option.some.inj (hnrf52.symm.trans hfirst)]

theorem allOrNothing_switch {api : FlashApi} {esp gwui nrf52 : List FlashOp}
    (haccepts : api.Accepts info) (hnew : ¬api.HasOldTable)
    (htouches : Touches info (esp ++ gwui ++ nrf52)) (hwritten : AllWritten info o esp gwui nrf52) :
    AllOrNothing api info o (fwUpdateSwitch info (esp ++ gwui ++ nrf52) o) := by
  have hprotects := htouches.protects haccepts
  unfold fwUpdateSwitch
  split_ifs
  · exact allOrNothing_stopped htouches hprotects
  · have hnone (q : Partition) : FlashOp.setBoot q ∉ esp ++ gwui ++ nrf52 :=
      fun hmem => absurd rfl (htouches.place_ne_none hmem)
    refine ⟨fun before p after hlog => ?_, fun h => ?_, fun op hop => ?_, fun name hname => ?_⟩
    · obtain ⟨rfl, rfl⟩ := eq_of_switch hnone hlog
      exact ⟨rfl, hwritten.all haccepts.distinct⟩
    · exact absurd (List.mem_append_right _ List.mem_cons_self) (h info.nextUpdatePartition)
    · rcases List.mem_append.mp hop with hop | hop
      · exact hprotects op hop
      · simp only [List.mem_cons, List.not_mem_nil, or_false] at hop
        rcases hop with rfl | rfl <;> exact fun _ => nofun
    · rcases List.mem_append.mp hname with hname | hname
      · exact absurd rfl (htouches.place_ne_none hname)
      · simp only [List.mem_cons, List.not_mem_nil, or_false, reduceCtorEq, false_or,
          FlashOp.updateNrf52.injEq] at hname
        rw [hname]
        exact haccepts.nrf52_written hwritten.updatable hnew

end Actions

section Complete

/-- A download without a mishap. -/
def goodDownload {ω : Type} (events : List (ClientEvent ω)) : DownloadOutcome ω :=
  ⟨true, true, true, true, true, true, .completed events 200⟩

def goodOutcome : UpdateOutcome where
  esp := ⟨true, false, ⟨true, false, fun _ => true, true⟩,
    goodDownload [.onData [espImageHeaderMagic] 200 ⟨true, true⟩], ⟨true, true, true⟩⟩
  gwui := ⟨true, fun _ => true, goodDownload []⟩
  nrf52 := ⟨true, fun _ => true, goodDownload []⟩
  bootPartitionSet := true
  nrf52Updated := true

theorem httpDownload_good {σ ω : Type} {url : Bytes} (hurl : httpDownloadIsUrlValid url = true)
    (cb : CbOnData σ ω) (events : List (ClientEvent ω)) (userData : σ) :
    (httpDownload ⟨url, .none, false, false⟩ cb (goodDownload events) userData).result =
      some (true, (events.foldl (httpDownloadEventHandler (some cb)) (⟨0, 0⟩, userData)).2) := by
  simp [httpDownload, httpDownloadWithAuth, httpDownloadOrCheck, hurl, goodDownload, httpClientInit,
    httpHandleAddAuthorizationIfNeeded, suspendRelaying, resumeRelaying, httpDownloadByHandle,
    httpServerResp, Performed.events]

theorem erase_good {p : Partition} (h : p.size % spiFlashSecSize = 0) :
    (erasePartitionWithSleep p fun _ => true).1 = true := by
  have hsectors (sectors : List ℕ) : (eraseSectors p (fun _ => true) sectors).1 = true := by
    induction sectors with
    | nil => rfl
    | cons sector sectors ih => exact ih
  unfold erasePartitionWithSleep
  rw [if_neg (not_not.mpr h)]
  exact hsectors _

theorem dataBin_good {p : Partition} (hsize : p.size % spiFlashSecSize = 0) {base : Bytes}
    {name : String} (hurl : httpDownloadIsUrlValid (fileUrl base name) = true) :
    ∃ log, (fwUpdateDataBin p base name ⟨true, fun _ => true, goodDownload []⟩).result =
      some (true, log) := by
  refine ⟨(erasePartitionWithSleep p fun _ => true).2, ?_⟩
  simp [fwUpdateDataBin, fwUpdateDataPartition, erase_good hsize, httpDownload_good hurl]

theorem espBin_good {info : FlashInfo}
    (hstart : OtaStart info.runningPartition info.nextUpdatePartition)
    (hsize : info.nextUpdatePartition.size % spiFlashSecSize = 0) {base : Bytes}
    (hurl : httpDownloadIsUrlValid (fileUrl base "ruuvi_gateway_esp.bin") = true) :
    ∃ log, (fwUpdateRuuviGatewayEspBin info base goodOutcome.esp).result = some (true, log) := by
  have hbegin : espOtaBeginPatched info.runningPartition info.nextUpdatePartition
      goodOutcome.esp.begin = (some ⟨info.nextUpdatePartition, 0, [], 0⟩,
        (erasePartitionWithSleep info.nextUpdatePartition fun _ => true).2) := by
    simp [espOtaBeginPatched, goodOutcome, hstart.kind, hstart.notRunning, erase_good hsize]
  refine ⟨(erasePartitionWithSleep info.nextUpdatePartition fun _ => true).2 ++
    [.write ⟨info.nextUpdatePartition, 0, [espImageHeaderMagic]⟩] ++ [], ?_⟩
  have hdownload := httpDownload_good hurl (fwUpdateOtaPartitionCbOnRecvData false)
    [.onData [espImageHeaderMagic] 200 ⟨true, true⟩]
      ⟨⟨info.nextUpdatePartition, 0, [], 0⟩, false, []⟩
  unfold fwUpdateRuuviGatewayEspBin fwUpdateOta
  rw [if_neg (by decide)]
  dsimp only
  rw [hbegin]
  dsimp only
  rw [result_bind]
  refine (congrArg (Option.bind · _) hdownload).trans ?_
  rfl

def sampleBase (_ : String) : Bytes := ascii "https://fw.example.com/v1"

/-- On a layout that an update can get through, some update does. -/
theorem doActions_good (info : FlashInfo) (h : Updatable info.runningPartition
    info.nextUpdatePartition info.nextFatfsGwuiPartition info.nextFatfsNrf52Partition) :
    ∃ r, (fwUpdateDoActions info sampleBase goodOutcome).result = some r ∧ .updateNrf52
      (if !info.isOta0Active then gwNrfPartition else gwNrfPartition2) ∈ r.log := by
  obtain ⟨esp, hesp⟩ := espBin_good h.start h.nextSize
    (by decide : httpDownloadIsUrlValid (fileUrl (sampleBase "ruuvi_gateway_esp.bin")
      "ruuvi_gateway_esp.bin") = true)
  obtain ⟨gwui, hgwui⟩ := dataBin_good h.gwuiSize
    (by decide : httpDownloadIsUrlValid (fileUrl (sampleBase "fatfs_gwui.bin")
      "fatfs_gwui.bin") = true)
  obtain ⟨nrf52, hnrf52⟩ := dataBin_good h.nrf52Size
    (by decide : httpDownloadIsUrlValid (fileUrl (sampleBase "fatfs_nrf52.bin")
      "fatfs_nrf52.bin") = true)
  have hok : ¬(!true) = true := Bool.false_ne_true
  refine ⟨fwUpdateSwitch info (esp ++ gwui ++ nrf52) goodOutcome, ?_, ?_⟩
  · unfold fwUpdateDoActions
    rw [result_bind]
    refine (congrArg (Option.bind · _) hesp).trans ?_
    dsimp only [Option.bind_some]
    rw [if_neg hok, result_bind]
    refine (congrArg (Option.bind · _) hgwui).trans ?_
    dsimp only [Option.bind_some]
    rw [if_neg hok, result_bind]
    exact (congrArg (Option.bind · _) hnrf52).trans rfl
  · exact List.mem_append_right _ (List.mem_cons_of_mem _ List.mem_cons_self)

end Complete

section Main

variable {api : FlashApi}

theorem not_updatesSafely_of_hasOldTable (h : api.HasOldTable) : ¬api.UpdatesSafely := by
  rintro ⟨hnull, hupdates⟩
  obtain ⟨running, next, gwui, hlacks, hupdatable⟩ := h
  obtain ⟨boot, hboot⟩ := Option.ne_none_iff_exists'.mp hlacks.bootFound
  have hactive : decide (running.label = "ota_0") = true := decide_eq_true hlacks.isOta0
  have hgwui := hlacks.gwuiFound
  have hread := read_of_finds ⟨hboot, hlacks.runningFound, hlacks.stateRead, hlacks.nextFound, by
    rw [hactive]; exact hgwui⟩
  rw [hactive] at hread
  cases hfirst : api.findDataFatPartitionByName gwNrfPartition with
  | none =>
    refine hnull (hread.trans ?_)
    simp [FlashApi.readNrf52Partition, hlacks.nrf52Missing, hfirst]
  | some nrf52 =>
    have haccepted : api.fwUpdateReadFlashInfo =
        .accepted ⟨true, boot, running, next, gwui, nrf52⟩ := by
      refine hread.trans ?_
      simp [FlashApi.readNrf52Partition, hlacks.nrf52Missing, hfirst]
    obtain ⟨r, hr, hmem⟩ := doActions_good ⟨true, boot, running, next, gwui, nrf52⟩
      (hupdatable nrf52 hfirst)
    have hfound := (hupdates _ haccepted sampleBase goodOutcome r hr).nrf52 _ hmem
    exact absurd (hlacks.nrf52Missing.symm.trans hfound) nofun

theorem updatesSafely_of_new (hnew : ¬api.HasOldTable) : api.UpdatesSafely := by
  refine ⟨fun hnull => ?_, fun info haccepted base o r hr => ?_⟩
  · obtain ⟨running, next, gwui, hlacks, hfirst⟩ := lacks_of_read hnull
    refine hnew ⟨running, next, gwui, hlacks, fun nrf52 hnrf52 => ?_⟩
    exact absurd (hfirst.symm.trans hnrf52) nofun
  · have haccepts := accepts_of_read haccepted
    rcases doActions_cases hr with
      ⟨log, htouches, rfl⟩ | ⟨esp, gwui, nrf52, htouches, hwritten, rfl⟩
    · exact allOrNothing_stopped htouches (htouches.protects haccepts)
    · exact allOrNothing_switch haccepts hnew htouches hwritten

def otaPartition (label : String) (address : ℕ) : Partition := ⟨.app true, label, address, 0x400000⟩

theorem otaPartition_app (label : String) (address : ℕ) (p : Partition)
    (h : some (otaPartition label address) = some p) : ∃ isOta, p.kind = .app isOta :=
  ⟨true, (congrArg Partition.kind (Option.some.inj h)).symm⟩

/-- A gateway whose first application is running, with these data partitions. -/
def firstRunning (partitions : List Partition) : FlashApi where
  bootPartition := some (otaPartition "ota_0" 0x100000)
  runningPartition := some (otaPartition "ota_0" 0x100000)
  isStateRead := true
  nextUpdatePartition := some (otaPartition "ota_1" 0x600000)
  partitions := partitions
  running_app := otaPartition_app "ota_0" 0x100000

/-- The partition table of the first releases, with `fatfs_nrf52` shared by both applications. -/
def oldTable : FlashApi := firstRunning [⟨.dataFat, "fatfs_gwui", 0x500000, 0xC0000⟩,
  ⟨.dataFat, "fatfs_nrf52", 0x5C0000, 0x40000⟩, ⟨.dataFat, "fatfs_gwui_2", 0xA00000, 0xC0000⟩]

end Main

end RuuviGateway.FwUpdate
