import RuuviGateway.FwUpdate.ReleaseInfo
import RuuviGateway.General.WriteLog

/-!
# The partitions of an update

Which partitions an update is written to follows from the running one. A file is downloaded to its
partition chunk by chunk. The partition of the application takes whole blocks only if the flash is
encrypted.
-/

namespace RuuviGateway.FwUpdate

open General General.Bracketed Http Relaying

section Layout

inductive PartitionKind
  | app (isOta : Bool)
  | dataFat
  | other
  deriving DecidableEq

structure Partition where
  kind : PartitionKind
  label : String
  address : ℕ
  size : ℕ
  deriving DecidableEq

/-- What the system tells about the partitions. The running one is that of an application. -/
structure FlashApi where
  bootPartition : Option Partition
  runningPartition : Option Partition
  isStateRead : Bool
  nextUpdatePartition : Option Partition
  partitions : List Partition
  running_app : ∀ p, runningPartition = some p → ∃ isOta, p.kind = .app isOta

def gwGwuiPartition : String := "fatfs_gwui"

def gwGwuiPartition2 : String := "fatfs_gwui_2"

def gwNrfPartition : String := "fatfs_nrf52"

def gwNrfPartition2 : String := "fatfs_nrf52_2"

def FlashApi.findDataFatPartitionByName (api : FlashApi) (name : String) : Option Partition :=
  api.partitions.find? fun p => decide (p.kind = .dataFat ∧ p.label = name)

/-- `ruuvi_flash_info_t` after it has been read. -/
structure FlashInfo where
  isOta0Active : Bool
  bootPartition : Partition
  runningPartition : Partition
  nextUpdatePartition : Partition
  nextFatfsGwuiPartition : Partition
  nextFatfsNrf52Partition : Partition
  deriving DecidableEq

inductive ReadFlashInfo
  | rejected
  | nullDereferenced
  | accepted (info : FlashInfo)
  deriving DecidableEq

/-- The last partition that is looked up. The first one for the nRF52 firmware takes the place of a
missing second one, and its label is logged even if it is missing, too. -/
def FlashApi.readNrf52Partition (api : FlashApi) (isOta0Active : Bool)
    (info : Partition → FlashInfo) : ReadFlashInfo :=
  match api.findDataFatPartitionByName
      (if isOta0Active then gwNrfPartition2 else gwNrfPartition) with
  | some p => .accepted (info p)
  | none =>
    if !isOta0Active then .rejected
    else
      match api.findDataFatPartitionByName gwNrfPartition with
      | some p => .accepted (info p)
      | none => .nullDereferenced

def FlashApi.fwUpdateReadFlashInfo (api : FlashApi) : ReadFlashInfo :=
  match api.bootPartition, api.runningPartition with
  | some boot, some running =>
    if !api.isStateRead then .rejected
    else
      match api.nextUpdatePartition with
      | none => .rejected
      | some next =>
        let isOta0Active := decide (running.label = "ota_0")
        match api.findDataFatPartitionByName
            (if isOta0Active then gwGwuiPartition2 else gwGwuiPartition) with
        | none => .rejected
        | some gwui =>
          api.readNrf52Partition isOta0Active fun nrf52 =>
            ⟨isOta0Active, boot, running, next, gwui, nrf52⟩
  | _, _ => .rejected

def FlashInfo.currentFatfsNrf52PartitionName (info : FlashInfo) : String :=
  if info.isOta0Active then gwNrfPartition else gwNrfPartition2

def FlashInfo.currentFatfsGwuiPartitionName (info : FlashInfo) : String :=
  if info.isOta0Active then gwGwuiPartition else gwGwuiPartition2

end Layout

section Flash

/-- What an update does to the flash, and the partition that the nRF52 firmware is taken from. -/
inductive FlashOp
  | erase (p : Partition) (sector : ℕ)
  | write (w : Write Partition UInt8)
  | setBoot (p : Partition)
  | updateNrf52 (partitionName : String)
  deriving DecidableEq

/-- The partition that an operation changes. -/
def FlashOp.place : FlashOp → Option Partition
  | .erase p _ => some p
  | .write w => some w.place
  | .setBoot _ | .updateNrf52 _ => none

def FlashOp.asWrite : FlashOp → Option (Write Partition UInt8)
  | .write w => some w
  | _ => none

def writesOf (log : List FlashOp) : List (Write Partition UInt8) := log.filterMap FlashOp.asWrite

def spiFlashSecSize : ℕ := 4096

def eraseSectors (p : Partition) (erased : ℕ → Bool) : List ℕ → Bool × List FlashOp
  | [] => (true, [])
  | sector :: sectors =>
    if !erased sector then (false, [.erase p sector])
    else
      let r := eraseSectors p erased sectors
      (r.1, .erase p sector :: r.2)

/-- The partition is erased sector by sector. -/
def erasePartitionWithSleep (p : Partition) (erased : ℕ → Bool) : Bool × List FlashOp :=
  if p.size % spiFlashSecSize ≠ 0 then (false, [])
  else eraseSectors p erased (List.range (p.size / spiFlashSecSize))

/-- The result if the code is not that of a successful request. -/
def fwUpdateHandleHttpRespCode (httpRespCode : ℕ) : Option Bool :=
  if httpRespCode ≠ 200 then
    if httpRespCode = 301 ∨ httpRespCode = 302 then some true else some false
  else none

end Flash

section Data

/-- `fw_update_data_partition_info_t`, with the operations so far. -/
structure DataPartitionInfo where
  partition : Partition
  offset : ℕ
  isError : Bool
  log : List FlashOp

/-- The outcome says whether the chunk could be written. -/
def fwUpdateDataPartitionCbOnRecvData : CbOnData DataPartitionInfo Bool :=
  fun data _ _ httpRespCode written info =>
    if info.isError then (info, false)
    else
      match fwUpdateHandleHttpRespCode httpRespCode with
      | some result => ({ info with isError := !result }, result)
      | none =>
        let info := { info with
          log := info.log ++ [FlashOp.write ⟨info.partition, info.offset, data⟩] }
        if !written then ({ info with isError := true }, false)
        else ({ info with offset := info.offset + data.length }, true)

structure DataPartitionOutcome where
  urlAllocated : Bool
  erased : ℕ → Bool
  download : DownloadOutcome Bool

def fwUpdateDataPartition (p : Partition) (url : Bytes) (o : DataPartitionOutcome) :
    Request (Bool × List FlashOp) :=
  let erased := erasePartitionWithSleep p o.erased
  if !erased.1 then pure (false, erased.2)
  else do
    let r ← httpDownload ⟨url, .none, false, false⟩ fwUpdateDataPartitionCbOnRecvData o.download
      ⟨p, 0, false, []⟩
    pure (r.1 && !r.2.isError, erased.2 ++ r.2.log)

end Data

section Ota

def espOtaFlashEncryptionMinChunkSize : ℕ := 16

def espImageHeaderMagic : UInt8 := 0xe9

/-- `ota_ops_entry_t`. The buffer for an incomplete block is filled with zeros first, and with
`0xff` after a block has been taken from it. -/
structure OtaOpsEntry where
  part : Partition
  wroteSize : ℕ
  partialData : Bytes
  fill : UInt8

/-- Whether the block from the buffer, and what follows it, can be written. -/
structure OtaWriteOutcome where
  block : Bool
  rest : Bool

structure OtaWritten where
  entry : OtaOpsEntry
  isOk : Bool
  log : List FlashOp

/-- The end of `esp_ota_write_entry`. -/
def OtaOpsEntry.writeAll (e : OtaOpsEntry) (data : Bytes) (written : Bool) : OtaWritten :=
  let e' := if written then { e with wroteSize := e.wroteSize + data.length } else e
  ⟨e', written, [.write ⟨e.part, e.wroteSize, data⟩]⟩

/-- What does not fill a block is kept in the buffer. -/
def OtaOpsEntry.writeBlocks (e : OtaOpsEntry) (data : Bytes) (written : Bool) : OtaWritten :=
  let whole := data.length - data.length % espOtaFlashEncryptionMinChunkSize
  { e with partialData := data.drop whole }.writeAll (data.take whole) written

/-- An incomplete block in the buffer is filled first. -/
def OtaOpsEntry.fillBlock (e : OtaOpsEntry) (data : Bytes) (o : OtaWriteOutcome) : OtaWritten :=
  let copyLen := espOtaFlashEncryptionMinChunkSize - e.partialData.length
  let block := e.partialData ++ data.take copyLen
  if block.length ≠ espOtaFlashEncryptionMinChunkSize then
    ⟨{ e with partialData := block }, true, []⟩
  else if !o.block then
    ⟨{ e with partialData := block }, false, [.write ⟨e.part, e.wroteSize, block⟩]⟩
  else
    let e' := { e with
      wroteSize := e.wroteSize + espOtaFlashEncryptionMinChunkSize
      partialData := []
      fill := 0xff }
    let r := e'.writeBlocks (data.drop copyLen) o.rest
    { r with log := .write ⟨e.part, e.wroteSize, block⟩ :: r.log }

def OtaOpsEntry.espOtaWriteEntry (e : OtaOpsEntry) (encrypted : Bool) (data : Bytes)
    (o : OtaWriteOutcome) : OtaWritten :=
  if e.wroteSize = 0 ∧ e.partialData = [] ∧ data ≠ [] ∧ data.head? ≠ some espImageHeaderMagic then
    ⟨e, false, []⟩
  else if !encrypted then e.writeAll data o.rest
  else if e.partialData = [] then e.writeBlocks data o.rest
  else e.fillBlock data o

structure OtaEndOutcome where
  blockWritten : Bool
  metadataAllocated : Bool
  imageVerified : Bool

def OtaOpsEntry.espOtaEndPatched (e : OtaOpsEntry) (o : OtaEndOutcome) : Bool × List FlashOp :=
  if e.wroteSize = 0 then (false, [])
  else if e.partialData = [] then (o.metadataAllocated && o.imageVerified, [])
  else
    let padding := List.replicate (espOtaFlashEncryptionMinChunkSize - e.partialData.length) e.fill
    (o.blockWritten && o.metadataAllocated && o.imageVerified,
      [.write ⟨e.part, e.wroteSize, e.partialData ++ padding⟩])

structure OtaBeginOutcome where
  isVerified : Bool
  isPendingVerify : Bool
  erased : ℕ → Bool
  entryAllocated : Bool

def espOtaBeginPatched (running p : Partition) (o : OtaBeginOutcome) :
    Option OtaOpsEntry × List FlashOp :=
  if !o.isVerified then (none, [])
  else if p.kind ≠ .app true then (none, [])
  else if p = running then (none, [])
  else if o.isPendingVerify then (none, [])
  else
    let erased := erasePartitionWithSleep p o.erased
    if !erased.1 then (none, erased.2)
    else if !o.entryAllocated then (none, erased.2)
    else (some ⟨p, 0, [], 0⟩, erased.2)

/-- `fw_update_ota_partition_info_t`, with the operations so far. -/
structure OtaPartitionInfo where
  entry : OtaOpsEntry
  isError : Bool
  log : List FlashOp

def fwUpdateOtaPartitionCbOnRecvData (encrypted : Bool) :
    CbOnData OtaPartitionInfo OtaWriteOutcome :=
  fun data _ _ httpRespCode o info =>
    if info.isError then (info, false)
    else
      match fwUpdateHandleHttpRespCode httpRespCode with
      | some result => ({ info with isError := !result }, result)
      | none =>
        let r := info.entry.espOtaWriteEntry encrypted data o
        (⟨r.entry, !r.isOk, info.log ++ r.log⟩, r.isOk)

structure OtaOutcome where
  urlAllocated : Bool
  encrypted : Bool
  begin : OtaBeginOutcome
  download : DownloadOutcome OtaWriteOutcome
  ended : OtaEndOutcome

def fwUpdateOta (running p : Partition) (url : Bytes) (o : OtaOutcome) :
    Request (Bool × List FlashOp) :=
  let begun := espOtaBeginPatched running p o.begin
  match begun.1 with
  | none => pure (false, begun.2)
  | some entry => do
    let r ← httpDownload ⟨url, .none, false, false⟩ (fwUpdateOtaPartitionCbOnRecvData o.encrypted)
      o.download ⟨entry, false, []⟩
    let ended := r.2.entry.espOtaEndPatched o.ended
    pure (r.1 && !r.2.isError && ended.1, begun.2 ++ r.2.log ++ ended.2)

end Ota

section Logs

variable {p : Partition}

/-- All operations change the one partition. -/
def OnlyOn (p : Partition) (log : List FlashOp) : Prop := ∀ op ∈ log, op.place = some p

theorem onlyOn_nil (p : Partition) : OnlyOn p [] := fun _ hop => by simp at hop

theorem OnlyOn.append {log log' : List FlashOp} (h : OnlyOn p log) (h' : OnlyOn p log') :
    OnlyOn p (log ++ log') := fun op hop => (List.mem_append.mp hop).elim (h op) (h' op)

theorem onlyOn_singleton {op : FlashOp} (h : op.place = some p) : OnlyOn p [op] := by
  intro op' hop
  rw [List.mem_singleton.mp hop, h]

@[simp] theorem writesOf_append (log log' : List FlashOp) :
    writesOf (log ++ log') = writesOf log ++ writesOf log' := List.filterMap_append

@[simp] theorem writesOf_nil : writesOf [] = [] := rfl

@[simp] theorem writesOf_singleton (w : Write Partition UInt8) : writesOf [.write w] = [w] := rfl

theorem eraseSectors_log (p : Partition) (erased : ℕ → Bool) (sectors : List ℕ) :
    OnlyOn p (eraseSectors p erased sectors).2 ∧
      writesOf (eraseSectors p erased sectors).2 = [] := by
  induction sectors with
  | nil => exact ⟨onlyOn_nil p, rfl⟩
  | cons sector sectors ih =>
    rw [eraseSectors]
    split_ifs
    · exact ⟨onlyOn_singleton rfl, rfl⟩
    · exact ⟨(onlyOn_singleton rfl).append ih.1, ih.2⟩

theorem erasePartition_log (p : Partition) (erased : ℕ → Bool) :
    OnlyOn p (erasePartitionWithSleep p erased).2 ∧
      writesOf (erasePartitionWithSleep p erased).2 = [] := by
  unfold erasePartitionWithSleep
  split_ifs
  · exact ⟨onlyOn_nil p, rfl⟩
  · exact eraseSectors_log p erased _

/-- A partition is erased only if it consists of whole sectors. -/
theorem size_of_erased {erased : ℕ → Bool} (h : (erasePartitionWithSleep p erased).1 = true) :
    p.size % spiFlashSecSize = 0 := by
  unfold erasePartitionWithSleep at h
  split_ifs at h with hsize
  exact not_not.mp hsize

end Logs

section DataProofs

variable {p : Partition}

/-- The request has ended with code 200. -/
def EndsWith200 {ω : Type} (o : DownloadOutcome ω) : Prop :=
  (httpDownloadByHandle o.performed).httpRespCode = 200

/-- As long as there is no error, the content of the partition is that of the chunks so far. -/
structure DataPartitionInfo.Agrees (p : Partition) (chunks : List Bytes)
    (info : DataPartitionInfo) : Prop where
  partition : info.partition = p
  place : OnlyOn p info.log
  content : info.isError = false →
    content p (writesOf info.log) = some chunks.flatten ∧ info.offset = chunks.flatten.length

theorem DataPartitionInfo.Agrees.recvData {chunks : List Bytes} {info : DataPartitionInfo}
    (h : info.Agrees p chunks) (data : Bytes) (offset contentLength : UInt32) (httpRespCode : ℕ)
    (written : Bool) :
    (fwUpdateDataPartitionCbOnRecvData data offset contentLength httpRespCode written info).1.Agrees
      p (chunks ++ if httpRespCode = 200 then [data] else []) := by
  have hplace : OnlyOn p (info.log ++ [FlashOp.write ⟨info.partition, info.offset, data⟩]) :=
    h.place.append (onlyOn_singleton (congrArg some h.partition))
  unfold fwUpdateDataPartitionCbOnRecvData fwUpdateHandleHttpRespCode
  cases herror : info.isError with
  | true =>
    refine ⟨h.partition, h.place, fun hok => ?_⟩
    exact absurd (herror.symm.trans hok) (by decide)
  | false =>
    obtain ⟨hcontent, hoffset⟩ := h.content herror
    by_cases h200 : httpRespCode = 200
    · simp only [h200, ne_eq, not_true_eq_false, if_false, Bool.false_eq_true, if_true]
      cases written with
      | false => exact ⟨h.partition, hplace, nofun⟩
      | true =>
        simp only [Bool.not_true, Bool.false_eq_true, if_false]
        refine ⟨h.partition, hplace, fun _ => ⟨?_, ?_⟩⟩
        · rw [writesOf_append, writesOf_singleton, h.partition, hoffset, content_concat hcontent,
            List.flatten_append, List.flatten_singleton]
        · change info.offset + data.length = _
          rw [hoffset, List.flatten_append, List.length_append, List.flatten_singleton]
    · by_cases hredirect : httpRespCode = 301 ∨ httpRespCode = 302
      · simp only [h200, hredirect, ne_eq, not_false_eq_true, if_true, if_false, Bool.false_eq_true,
          List.append_nil]
        exact ⟨h.partition, h.place, fun _ => ⟨hcontent, hoffset⟩⟩
      · simp only [h200, hredirect, ne_eq, not_false_eq_true, if_true, if_false, Bool.false_eq_true,
          List.append_nil]
        exact ⟨h.partition, h.place, nofun⟩

/-- The file has been written to the partition. -/
structure DataWrittenTo (p : Partition) (o : DataPartitionOutcome) (log : List FlashOp) : Prop where
  endsWith200 : EndsWith200 o.download
  content : content p (writesOf log) = some (okChunks o.download.performed.events).flatten

/-- What an update of a data partition does: it touches no other partition, and succeeds only if
the whole file has been written to a partition of whole sectors. -/
theorem dataPartition_spec {url : Bytes} {o : DataPartitionOutcome} {r : Bool × List FlashOp}
    (h : (fwUpdateDataPartition p url o).result = some r) : OnlyOn p r.2 ∧ (r.1 = true →
      p.size % spiFlashSecSize = 0 ∧ DataWrittenTo p o r.2) := by
  obtain ⟨herase, hwrites⟩ := erasePartition_log p o.erased
  unfold fwUpdateDataPartition at h
  dsimp only at h
  split_ifs at h with herased
  · obtain rfl := Option.some.inj h
    exact ⟨herase, nofun⟩
  · rw [result_bind] at h
    obtain ⟨d, hd, h⟩ := Option.bind_eq_some_iff.mp h
    obtain rfl := Option.some.inj h
    rcases httpDownload_cases hd with rfl | rfl
    · exact ⟨herase.append (onlyOn_nil p), nofun⟩
    · have hagrees := foldl_eventHandler
        (I := fun chunks (info : DataPartitionInfo) => info.Agrees p chunks)
        (fun _ data offset len code w _ hinfo => hinfo.recvData data offset len code w)
        o.download.performed.events [] (s := (⟨0, 0⟩, ⟨p, 0, false, []⟩))
        ⟨rfl, onlyOn_nil p, fun _ => ⟨rfl, rfl⟩⟩
      refine ⟨herase.append hagrees.place, fun hok => ?_⟩
      simp only [Bool.and_eq_true, decide_eq_true_eq, Bool.not_eq_true'] at hok
      refine ⟨size_of_erased (by simpa using herased), hok.1, ?_⟩
      rw [writesOf_append, hwrites, List.nil_append]
      exact (hagrees.content hok.2).1

end DataProofs

section OtaProofs

variable {p : Partition} {encrypted : Bool}

/-- What has been written to the partition, and what waits in the buffer, are the bytes so far. -/
structure OtaOpsEntry.Agrees (e : OtaOpsEntry) (encrypted : Bool) (log : List FlashOp)
    (bytes : Bytes) : Prop where
  content : ∃ c, content e.part (writesOf log) = some c ∧ c.length = e.wroteSize ∧
    c ++ e.partialData = bytes
  short : e.partialData.length < espOtaFlashEncryptionMinChunkSize
  unencrypted : encrypted = false → e.partialData = []

theorem writeAll_agrees {e : OtaOpsEntry} {log : List FlashOp} {bytes data : Bytes} {written : Bool}
    (hcontent : content e.part (writesOf log) = some bytes) (hsize : bytes.length = e.wroteSize)
    (hshort : e.partialData.length < espOtaFlashEncryptionMinChunkSize)
    (hunencrypted : encrypted = false → e.partialData = [])
    (hok : (e.writeAll data written).isOk = true) :
    (e.writeAll data written).entry.Agrees encrypted (log ++ (e.writeAll data written).log)
      (bytes ++ data ++ e.partialData) := by
  obtain rfl : written = true := hok
  refine ⟨⟨bytes ++ data, ?_, ?_, rfl⟩, hshort, hunencrypted⟩
  · change General.content e.part
      (writesOf (log ++ [FlashOp.write ⟨e.part, e.wroteSize, data⟩])) = _
    rw [writesOf_append, writesOf_singleton, ← hsize, content_concat hcontent]
  · rw [List.length_append, hsize]
    rfl

/-- Whole blocks are written and the rest is kept. -/
theorem writeBlocks_agrees {e : OtaOpsEntry} {log : List FlashOp} {bytes : Bytes} (data : Bytes)
    {written : Bool} (hcontent : content e.part (writesOf log) = some bytes)
    (hsize : bytes.length = e.wroteSize) (hok : (e.writeBlocks data written).isOk = true) :
    (e.writeBlocks data written).entry.Agrees true (log ++ (e.writeBlocks data written).log)
      (bytes ++ data) := by
  have hshort : (data.drop (data.length - data.length % espOtaFlashEncryptionMinChunkSize)).length <
      espOtaFlashEncryptionMinChunkSize := by
    have hmod := Nat.mod_lt data.length (y := espOtaFlashEncryptionMinChunkSize) (by decide)
    rw [List.length_drop]
    omega
  have h := writeAll_agrees (e := { e with
      partialData := data.drop (data.length - data.length % espOtaFlashEncryptionMinChunkSize) })
    hcontent hsize hshort (nofun : true = false → _) hok
  rw [List.append_assoc, List.take_append_drop] at h
  exact h

theorem fillBlock_agrees {e : OtaOpsEntry} {log : List FlashOp} {bytes data : Bytes}
    {o : OtaWriteOutcome} (h : e.Agrees true log bytes) (hok : (e.fillBlock data o).isOk = true) :
    (e.fillBlock data o).entry.Agrees true (log ++ (e.fillBlock data o).log) (bytes ++ data) := by
  obtain ⟨c, hcontent, hsize, hbytes⟩ := h.content
  have hshort := h.short
  unfold OtaOpsEntry.fillBlock at hok ⊢
  dsimp only at hok ⊢
  by_cases hlength : (e.partialData ++ data.take (espOtaFlashEncryptionMinChunkSize -
      e.partialData.length)).length = espOtaFlashEncryptionMinChunkSize
  · rw [if_neg (not_not.mpr hlength)] at hok ⊢
    split_ifs at hok ⊢ with hblock
    have hwritten := content_concat hcontent
      (e.partialData ++ data.take (espOtaFlashEncryptionMinChunkSize - e.partialData.length))
    rw [hsize, ← writesOf_singleton, ← writesOf_append] at hwritten
    have hblocks := writeBlocks_agrees (e := { e with
        wroteSize := e.wroteSize + espOtaFlashEncryptionMinChunkSize
        partialData := []
        fill := 0xff }) (data.drop (espOtaFlashEncryptionMinChunkSize - e.partialData.length))
      hwritten (by rw [List.length_append, hsize, hlength]) hok
    rw [List.append_assoc c, List.append_assoc e.partialData, List.take_append_drop,
      ← List.append_assoc c, hbytes, List.append_assoc log] at hblocks
    exact hblocks
  · -- the data do not fill the block
    rw [if_pos hlength]
    rw [List.length_append, List.length_take] at hlength
    have hdata : data.take (espOtaFlashEncryptionMinChunkSize - e.partialData.length) = data :=
      List.take_of_length_le (by omega)
    rw [hdata]
    refine ⟨⟨c, ?_, hsize, ?_⟩, ?_, nofun⟩
    · rw [List.append_nil]
      exact hcontent
    · rw [← List.append_assoc, hbytes]
    · rw [List.length_append]
      omega

theorem espOtaWriteEntry_agrees {e : OtaOpsEntry} {log : List FlashOp} {bytes data : Bytes}
    {o : OtaWriteOutcome} (h : e.Agrees encrypted log bytes)
    (hok : (e.espOtaWriteEntry encrypted data o).isOk = true) :
    (e.espOtaWriteEntry encrypted data o).entry.Agrees encrypted
      (log ++ (e.espOtaWriteEntry encrypted data o).log) (bytes ++ data) := by
  obtain ⟨c, hcontent, hsize, hbytes⟩ := h.content
  unfold OtaOpsEntry.espOtaWriteEntry at hok ⊢
  split_ifs at hok ⊢ with hmagic hplain hempty
  · have hnone : e.partialData = [] := h.unencrypted (by simpa using hplain)
    have hall := writeAll_agrees hcontent hsize h.short h.unencrypted hok
    rw [hnone, List.append_nil] at hall hbytes
    exact hbytes ▸ hall
  · obtain rfl : encrypted = true := by simpa using hplain
    rw [hempty, List.append_nil] at hbytes
    exact hbytes ▸ writeBlocks_agrees data hcontent hsize hok
  · obtain rfl : encrypted = true := by simpa using hplain
    exact fillBlock_agrees h hok

/-- A write goes to the partition of the entry. -/
theorem espOtaWriteEntry_part (e : OtaOpsEntry) (encrypted : Bool) (data : Bytes)
    (o : OtaWriteOutcome) : (e.espOtaWriteEntry encrypted data o).entry.part = e.part ∧
      OnlyOn e.part (e.espOtaWriteEntry encrypted data o).log := by
  have hwrite (offset : ℕ) (data : Bytes) : OnlyOn e.part [.write ⟨e.part, offset, data⟩] :=
    onlyOn_singleton rfl
  have hall (e' : OtaOpsEntry) (he' : e'.part = e.part) (data : Bytes) (written : Bool) :
      (e'.writeAll data written).entry.part = e.part ∧
        OnlyOn e.part (e'.writeAll data written).log := by
    rw [← he']
    cases written <;> exact ⟨rfl, onlyOn_singleton rfl⟩
  have hblocks (e' : OtaOpsEntry) (he' : e'.part = e.part) (data : Bytes) (written : Bool) :
      (e'.writeBlocks data written).entry.part = e.part ∧
        OnlyOn e.part (e'.writeBlocks data written).log := by
    unfold OtaOpsEntry.writeBlocks
    exact hall { e' with
      partialData := data.drop (data.length - data.length % espOtaFlashEncryptionMinChunkSize) } he'
      (data.take _) written
  unfold OtaOpsEntry.espOtaWriteEntry
  split_ifs
  · exact ⟨rfl, onlyOn_nil e.part⟩
  · exact hall e rfl data o.rest
  · exact hblocks e rfl data o.rest
  · unfold OtaOpsEntry.fillBlock
    dsimp only
    split_ifs
    · exact ⟨rfl, onlyOn_nil e.part⟩
    · exact ⟨rfl, hwrite _ _⟩
    · have hrest := hblocks { e with
        wroteSize := e.wroteSize + espOtaFlashEncryptionMinChunkSize
        partialData := []
        fill := 0xff } rfl
        (data.drop (espOtaFlashEncryptionMinChunkSize - e.partialData.length)) o.rest
      exact ⟨hrest.1, (hwrite _ _).append hrest.2⟩

/-- As long as there is no error, the entry agrees with the chunks so far. -/
structure OtaPartitionInfo.Agrees (p : Partition) (encrypted : Bool) (chunks : List Bytes)
    (info : OtaPartitionInfo) : Prop where
  part : info.entry.part = p
  place : OnlyOn p info.log
  entry : info.isError = false → info.entry.Agrees encrypted info.log chunks.flatten

theorem OtaPartitionInfo.Agrees.recvData {chunks : List Bytes} {info : OtaPartitionInfo}
    (h : info.Agrees p encrypted chunks) (data : Bytes) (offset contentLength : UInt32)
    (httpRespCode : ℕ) (o : OtaWriteOutcome) :
    (fwUpdateOtaPartitionCbOnRecvData encrypted data offset contentLength httpRespCode o
      info).1.Agrees p encrypted (chunks ++ if httpRespCode = 200 then [data] else []) := by
  unfold fwUpdateOtaPartitionCbOnRecvData fwUpdateHandleHttpRespCode
  cases herror : info.isError with
  | true =>
    refine ⟨h.part, h.place, fun hok => ?_⟩
    exact absurd (herror.symm.trans hok) (by decide)
  | false =>
    by_cases h200 : httpRespCode = 200
    · simp only [h200, ne_eq, not_true_eq_false, if_false, Bool.false_eq_true, if_true]
      obtain ⟨hpart, hlog⟩ := espOtaWriteEntry_part info.entry encrypted data o
      rw [h.part] at hpart hlog
      refine ⟨hpart, h.place.append hlog, fun hok => ?_⟩
      rw [Bool.not_eq_false'] at hok
      rw [List.flatten_append, List.flatten_singleton]
      exact espOtaWriteEntry_agrees (h.entry herror) hok
    · by_cases hredirect : httpRespCode = 301 ∨ httpRespCode = 302
      · simp only [h200, hredirect, ne_eq, not_false_eq_true, if_true, if_false, Bool.false_eq_true,
          List.append_nil]
        exact ⟨h.part, h.place, fun _ => h.entry herror⟩
      · simp only [h200, hredirect, ne_eq, not_false_eq_true, if_true, if_false, Bool.false_eq_true,
          List.append_nil]
        exact ⟨h.part, h.place, nofun⟩

/-- The end of the update writes the incomplete block, padded to a whole one. -/
theorem espOtaEnd_spec {e : OtaOpsEntry} {log : List FlashOp} {bytes : Bytes} {o : OtaEndOutcome}
    (h : e.Agrees encrypted log bytes) (hok : (e.espOtaEndPatched o).1 = true) : ∃ padding,
      content e.part (writesOf (log ++ (e.espOtaEndPatched o).2)) = some (bytes ++ padding) ∧
        padding.length < espOtaFlashEncryptionMinChunkSize ∧
          (encrypted = false → padding = []) := by
  obtain ⟨c, hcontent, hsize, hbytes⟩ := h.content
  unfold OtaOpsEntry.espOtaEndPatched at hok ⊢
  dsimp only at hok ⊢
  split_ifs at hok ⊢ with hwrote hbuffered
  · rw [hbuffered, List.append_nil] at hbytes
    refine ⟨[], ?_, by decide, fun _ => rfl⟩
    rw [List.append_nil, List.append_nil, ← hbytes]
    exact hcontent
  · have hlength : 0 < e.partialData.length := List.length_pos_iff.mpr hbuffered
    refine ⟨List.replicate (espOtaFlashEncryptionMinChunkSize - e.partialData.length) e.fill,
      ?_, ?_, fun hoff => absurd (h.unencrypted hoff) hbuffered⟩
    · rw [writesOf_append, writesOf_singleton, ← hsize, content_concat hcontent,
        ← List.append_assoc, hbytes]
    · rw [List.length_replicate]
      exact Nat.sub_lt (by decide) hlength

theorem espOtaEnd_onlyOn (e : OtaOpsEntry) (o : OtaEndOutcome) :
    OnlyOn e.part (e.espOtaEndPatched o).2 := by
  unfold OtaOpsEntry.espOtaEndPatched
  dsimp only
  split_ifs
  · exact onlyOn_nil e.part
  · exact onlyOn_nil e.part
  · exact onlyOn_singleton rfl

/-- An update of the application begins only on a partition for updates that is not running. -/
structure OtaStart (running p : Partition) : Prop where
  kind : p.kind = .app true
  notRunning : p ≠ running

theorem espOtaBegin_spec (running p : Partition) (o : OtaBeginOutcome) :
    OnlyOn p (espOtaBeginPatched running p o).2 ∧ writesOf (espOtaBeginPatched running p o).2 = [] ∧
      ((espOtaBeginPatched running p o).2 ≠ [] → OtaStart running p) ∧
      ∀ e, (espOtaBeginPatched running p o).1 = some e →
        e = ⟨p, 0, [], 0⟩ ∧ OtaStart running p ∧ p.size % spiFlashSecSize = 0 := by
  obtain ⟨herase, hwrites⟩ := erasePartition_log p o.erased
  unfold espOtaBeginPatched
  dsimp only
  split_ifs with _ hkind hrunning _ herased
  all_goals try exact ⟨onlyOn_nil p, rfl, fun h => absurd rfl h, fun _ => nofun⟩
  all_goals have hstart : OtaStart running p := ⟨not_not.mp hkind, hrunning⟩
  · exact ⟨herase, hwrites, fun _ => hstart, fun _ => nofun⟩
  · exact ⟨herase, hwrites, fun _ => hstart, fun _ => nofun⟩
  · refine ⟨herase, hwrites, fun _ => hstart, fun e he => ?_⟩
    exact ⟨(Option.some.inj he).symm, hstart, size_of_erased (by simpa using herased)⟩

/-- The file has been written to the partition, up to the padding of the last block. -/
structure OtaWrittenTo (p : Partition) (o : OtaOutcome) (log : List FlashOp) : Prop where
  endsWith200 : EndsWith200 o.download
  content : ∃ padding, content p (writesOf log) =
      some ((okChunks o.download.performed.events).flatten ++ padding) ∧
    padding.length < espOtaFlashEncryptionMinChunkSize ∧ (o.encrypted = false → padding = [])

/-- What an update of the application does: it touches no other partition and not the running one,
and succeeds only if the whole file has been written. -/
theorem ota_spec {running : Partition} {url : Bytes} {o : OtaOutcome} {r : Bool × List FlashOp}
    (h : (fwUpdateOta running p url o).result = some r) :
    OnlyOn p r.2 ∧ (r.2 ≠ [] → OtaStart running p) ∧ (r.1 = true →
      OtaStart running p ∧ p.size % spiFlashSecSize = 0 ∧ OtaWrittenTo p o r.2) := by
  obtain ⟨honly, hwrites, hstart, hentry⟩ := espOtaBegin_spec running p o.begin
  unfold fwUpdateOta at h
  dsimp only at h
  split at h
  · obtain rfl := Option.some.inj h
    exact ⟨honly, hstart, nofun⟩
  · rename_i entry hbegun
    obtain ⟨rfl, hstarted, hsize⟩ := hentry entry hbegun
    rw [result_bind] at h
    obtain ⟨d, hd, h⟩ := Option.bind_eq_some_iff.mp h
    obtain rfl := Option.some.inj h
    rcases httpDownload_cases hd with rfl | rfl
    · refine ⟨(honly.append (onlyOn_nil p)).append (espOtaEnd_onlyOn _ _), fun _ => hstarted, ?_⟩
      exact nofun
    · have hagrees := foldl_eventHandler
        (I := fun chunks (info : OtaPartitionInfo) => info.Agrees p o.encrypted chunks)
        (fun _ data offset len code w _ hinfo => hinfo.recvData data offset len code w)
        o.download.performed.events [] (s := (⟨0, 0⟩, ⟨⟨p, 0, [], 0⟩, false, []⟩))
        ⟨rfl, onlyOn_nil p, fun _ => ⟨⟨[], rfl, rfl, rfl⟩, Nat.succ_pos 15, fun _ => rfl⟩⟩
      have hended := espOtaEnd_onlyOn (o.download.performed.events.foldl (httpDownloadEventHandler
        (some (fwUpdateOtaPartitionCbOnRecvData o.encrypted)))
          (⟨0, 0⟩, ⟨⟨p, 0, [], 0⟩, false, []⟩)).2.entry o.ended
      rw [hagrees.part] at hended
      refine ⟨(honly.append hagrees.place).append hended, fun _ => hstarted, fun hok => ?_⟩
      simp only [Bool.and_eq_true, decide_eq_true_eq, Bool.not_eq_true'] at hok
      obtain ⟨padding, hcontent, hpadding⟩ := espOtaEnd_spec (hagrees.entry hok.1.2) hok.2
      refine ⟨hstarted, hsize, hok.1.1, padding, ?_, hpadding⟩
      rw [hagrees.part] at hcontent
      rw [List.append_assoc, writesOf_append, hwrites, List.nil_append]
      exact hcontent

end OtaProofs

section Frame

variable {p q : Partition} {log log' : List FlashOp}

theorem OnlyOn.writes_ne (h : OnlyOn q log) (hne : q ≠ p) : ∀ w ∈ writesOf log, w.place ≠ p := by
  intro w hw hplace
  obtain ⟨op, hop, hasWrite⟩ := List.mem_filterMap.mp hw
  have hq := h op hop
  cases op with
  | write w' =>
    obtain rfl := Option.some.inj hasWrite
    exact hne ((Option.some.inj hq).symm.trans hplace)
  | _ => cases hasWrite

/-- Operations on another partition do not change what has been written. -/
theorem OtaWrittenTo.append {o : OtaOutcome} (h : OtaWrittenTo p o log) (hlog : OnlyOn q log')
    (hne : q ≠ p) : OtaWrittenTo p o (log ++ log') := by
  obtain ⟨padding, hcontent, hpadding⟩ := h.content
  refine ⟨h.endsWith200, padding, ?_, hpadding⟩
  rw [writesOf_append]
  exact content_append_of_ne (hlog.writes_ne hne) hcontent

theorem DataWrittenTo.append {o : DataPartitionOutcome} (h : DataWrittenTo p o log)
    (hlog : OnlyOn q log') (hne : q ≠ p) : DataWrittenTo p o (log ++ log') := by
  refine ⟨h.endsWith200, ?_⟩
  rw [writesOf_append]
  exact content_append_of_ne (hlog.writes_ne hne) h.content

theorem DataWrittenTo.prepend {o : DataPartitionOutcome} (h : DataWrittenTo p o log)
    (hlog : OnlyOn q log') (hne : q ≠ p) : DataWrittenTo p o (log' ++ log) := by
  refine ⟨h.endsWith200, ?_⟩
  rw [writesOf_append, content_append_of_ne_left (hlog.writes_ne hne)]
  exact h.content

end Frame

end RuuviGateway.FwUpdate
