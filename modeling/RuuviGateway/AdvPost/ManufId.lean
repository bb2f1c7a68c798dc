import RuuviGateway.AdvTable.Report

/-!
# The manufacturer of an advertisement

An advertisement is a sequence of chunks, each with a length byte and a type byte. The scan for the
manufacturer goes from chunk to chunk with the lengths that were received, and compares a signed
distance with an unsigned constant, in 32 bits. What it reads is recorded.
-/

namespace RuuviGateway.AdvPost

open AdvTable

section Parsing

inductive ReCaUartCmd
  | advRprt
  | advRprt2
  | other
  deriving DecidableEq, Repr

/-- The advertisement in a message of the nRF52. -/
structure ReCaUartBleAdv where
  mac : MacAddressBin
  rssiDb : Int8
  primaryPhy : BlePhy
  secondaryPhy : BlePhy
  chIndex : UInt8
  isCodedPhy : Bool
  txPower : Int8
  advLen : UInt8
  adv : ℕ → UInt8

structure ReCaUartPayload where
  cmd : ReCaUartCmd
  adv : ReCaUartBleAdv

/-- The report is filled in over a cleared one. -/
def parseAdvReportFromUart (msg : Option ReCaUartPayload) (timestamp : UInt32) : Option AdvReport :=
  match msg with
  | none => none
  | some msg =>
    if msg.cmd = .other then none
    else if advDataMaxLen < msg.adv.advLen.toNat then none
    else if msg.adv.advLen = 0 then none
    else some {
      timestamp
      samplesCounter := 0
      tagMac := msg.adv.mac
      rssi := msg.adv.rssiDb
      primaryPhy := msg.adv.primaryPhy
      secondaryPhy := msg.adv.secondaryPhy
      chIndex := msg.adv.chIndex
      isCodedPhy := msg.adv.isCodedPhy
      txPower := msg.adv.txPower
      dataLen := msg.adv.advLen
      dataBuf := Vector.ofFn fun i => if i.val < msg.adv.advLen.toNat then msg.adv.adv i else 0 }

theorem dataLen_of_parse {msg : Option ReCaUartPayload} {timestamp : UInt32} {adv : AdvReport}
    (h : parseAdvReportFromUart msg timestamp = some adv) :
    adv.dataLen ≠ 0 ∧ adv.dataLen.toNat ≤ advDataMaxLen := by
  cases msg with
  | none => cases h
  | some msg =>
    unfold parseAdvReportFromUart at h
    dsimp only at h
    split_ifs at h with hcmd hlen hzero
    obtain rfl := Option.some.inj h
    exact ⟨hzero, not_lt.mp hlen⟩

end Parsing

section Scan

def bleMsgChunkTypeManufacturedSpecificData : UInt8 := 0xff

def bleMsgChunkManufacturedSpecificDataMinLen : UInt8 := 3

/-- The memory from `data_buf` on, with what stands behind the buffer. -/
def memoryFrom (adv : AdvReport) (behind : ℕ → UInt8) (i : ℕ) : UInt8 :=
  if h : i < advDataMaxLen then adv.dataBuf[i] else behind (i - advDataMaxLen)

/-- The offsets that were read, and the result unless the scan is still going on. -/
structure Scan where
  reads : List ℕ
  manufId : Option UInt16
  deriving DecidableEq

/-- The offset is that of `p_data`. The distance to the end is compared as an unsigned number. -/
def getBleManufIdLoop (mem : ℕ → UInt8) (dataLen : UInt32) : ℕ → UInt32 → Scan
  | 0, _ => ⟨[], none⟩
  | fuel + 1, off =>
    if dataLen - off < 2 then ⟨[], some 0⟩
    else
      let len := mem off.toNat
      let type := mem (off + 1).toNat
      if type ≠ bleMsgChunkTypeManufacturedSpecificData then
        let rest := getBleManufIdLoop mem dataLen fuel (off + len.toUInt32 + 1)
        ⟨off.toNat :: (off + 1).toNat :: rest.reads, rest.manufId⟩
      else if len < bleMsgChunkManufacturedSpecificDataMinLen then
        ⟨[off.toNat, (off + 1).toNat], some 0⟩
      else
        ⟨[off.toNat, (off + 1).toNat, (off + 3).toNat, (off + 2).toNat],
          some ((mem (off + 3).toNat).toUInt16 <<< 8 ||| (mem (off + 2).toNat).toUInt16)⟩

def getBleManufId (mem : ℕ → UInt8) (dataLen : UInt8) (fuel : ℕ) : Scan :=
  if dataLen < 2 then ⟨[], some 0⟩ else getBleManufIdLoop mem dataLen.toUInt32 fuel 0

end Scan

section Chunks

variable (data : List UInt8)

def chunkLen (off : ℕ) : ℕ := (data.getD off 0).toNat

def chunkType (off : ℕ) : UInt8 := data.getD (off + 1) 0

/-- There are a length byte and a type byte. -/
def ChunkAt (off : ℕ) : Prop := off + 1 < data.length

/-- From one offset to another over chunks of other types that end within the data. -/
inductive Leads : ℕ → ℕ → Prop
  | refl (off : ℕ) : Leads off off
  | next {off pos : ℕ} (chunk : ChunkAt data off)
      (other : chunkType data off ≠ bleMsgChunkTypeManufacturedSpecificData)
      (inside : off + chunkLen data off + 1 ≤ data.length)
      (rest : Leads (off + chunkLen data off + 1) pos) : Leads off pos

/-- The first chunk with a manufacturer is at the second offset, and its id lies within the data. -/
structure ManufacturerAt (off pos : ℕ) : Prop where
  leads : Leads data off pos
  chunk : ChunkAt data pos
  type : chunkType data pos = bleMsgChunkTypeManufacturedSpecificData
  minLen : 3 ≤ chunkLen data pos
  inside : pos + 3 < data.length

def manufIdAt (off : ℕ) : UInt16 :=
  (data.getD (off + 3) 0).toUInt16 <<< 8 ||| (data.getD (off + 2) 0).toUInt16

/-- The scan of a chunk does not leave the data. -/
def StaysInside (off : ℕ) : Prop :=
  if chunkType data off = bleMsgChunkTypeManufacturedSpecificData then
    3 ≤ chunkLen data off → off + 3 < data.length
  else off + chunkLen data off + 1 ≤ data.length

instance (off : ℕ) : Decidable (StaysInside data off) :=
  inferInstanceAs (Decidable (if chunkType data off = bleMsgChunkTypeManufacturedSpecificData then
    3 ≤ chunkLen data off → off + 3 < data.length
  else off + chunkLen data off + 1 ≤ data.length))

/-- No chunk that the scan comes to leads it out of the data. -/
def ChunksInside (off : ℕ) : Prop :=
  ∀ pos, Leads data off pos → ChunkAt data pos → StaysInside data pos

/-- The scan has ended, has read nothing behind the data and found the manufacturer. -/
structure ScannedFrom (off : ℕ) (scan : Scan) : Prop where
  reads : ∀ i ∈ scan.reads, i < data.length
  found : ∀ pos, ManufacturerAt data off pos → scan.manufId = some (manufIdAt data pos)
  absent : (¬∃ pos, ManufacturerAt data off pos) → scan.manufId = some 0

end Chunks

section Distance

variable {n off : ℕ}

/-- The unsigned distance is small only at the end of the data, and not behind it. -/
theorem distance_lt_iff (hn : n ≤ 255) (hoff : off ≤ n + 256) :
    UInt32.ofNat n - UInt32.ofNat off < 2 ↔ off ≤ n ∧ n < off + 2 := by
  have htwo : (2 : UInt32).toNat = 2 := rfl
  rw [UInt32.lt_iff_toNat_lt, UInt32.toNat_sub, UInt32.toNat_ofNat', UInt32.toNat_ofNat', htwo]
  omega

theorem toNat_off (hn : n ≤ 255) (hoff : off ≤ n + 256) : (UInt32.ofNat off).toNat = off := by
  rw [UInt32.toNat_ofNat']
  omega

theorem toNat_off_add (hn : n ≤ 255) (hoff : off ≤ n + 256) {k : ℕ} (hk : k ≤ 3) :
    (UInt32.ofNat off + UInt32.ofNat k).toNat = off + k := by
  rw [UInt32.toNat_add, UInt32.toNat_ofNat', UInt32.toNat_ofNat']
  omega

theorem off_next (len : UInt8) :
    UInt32.ofNat off + len.toUInt32 + 1 = UInt32.ofNat (off + len.toNat + 1) := by
  apply UInt32.toNat_inj.mp
  have hlen := len.toNat_lt
  have hone : (1 : UInt32).toNat = 1 := rfl
  rw [UInt32.toNat_add, UInt32.toNat_add, UInt32.toNat_ofNat', UInt32.toNat_ofNat', hone,
    UInt8.toNat_toUInt32]
  omega

end Distance

section Proof

variable {data : List UInt8} {mem : ℕ → UInt8}

/-- What holds of the chunks behind an offset from which there is no way on. -/
theorem manufacturerAt_end {off pos : ℕ} (hend : ¬ChunkAt data off) :
    ¬ManufacturerAt data off pos := by
  intro h
  cases h.leads with
  | refl => exact hend h.chunk
  | next hchunk => exact hend hchunk

theorem manufacturerAt_next {off pos : ℕ} (hchunk : ChunkAt data off)
    (hother : chunkType data off ≠ bleMsgChunkTypeManufacturedSpecificData)
    (hinside : off + chunkLen data off + 1 ≤ data.length) :
    ManufacturerAt data off pos ↔ ManufacturerAt data (off + chunkLen data off + 1) pos := by
  constructor
  · intro h
    refine ⟨?_, h.chunk, h.type, h.minLen, h.inside⟩
    cases h.leads with
    | refl => exact absurd h.type hother
    | next _ _ _ hrest => exact hrest
  · intro h
    exact ⟨.next hchunk hother hinside h.leads, h.chunk, h.type, h.minLen, h.inside⟩

theorem manufacturerAt_type {off pos : ℕ}
    (htype : chunkType data off = bleMsgChunkTypeManufacturedSpecificData)
    (h : ManufacturerAt data off pos) : pos = off := by
  cases h.leads with
  | refl => rfl
  | next _ hother => exact absurd htype hother

/-- What the loop does within the data where no chunk begins. -/
theorem loop_end (hsize : data.length ≤ 255) (fuel : ℕ) {off : ℕ} (hoff : off ≤ data.length)
    (hend : ¬ChunkAt data off) :
    getBleManufIdLoop mem (UInt32.ofNat data.length) (fuel + 1) (UInt32.ofNat off) =
      ⟨[], some 0⟩ := by
  rw [getBleManufIdLoop, if_pos]
  rw [ChunkAt] at hend
  exact (distance_lt_iff hsize (by omega)).mpr ⟨hoff, by omega⟩

/-- What the loop does with a chunk. -/
theorem loop_chunk (hmem : ∀ i < data.length, mem i = data.getD i 0) (hsize : data.length ≤ 255)
    (fuel : ℕ) {off : ℕ} (hchunk : ChunkAt data off) :
    getBleManufIdLoop mem (UInt32.ofNat data.length) (fuel + 1) (UInt32.ofNat off) =
      if chunkType data off = bleMsgChunkTypeManufacturedSpecificData then
        if 3 ≤ chunkLen data off then
          ⟨[off, off + 1, off + 3, off + 2],
            some ((mem (off + 3)).toUInt16 <<< 8 ||| (mem (off + 2)).toUInt16)⟩
        else ⟨[off, off + 1], some 0⟩
      else
        let rest := getBleManufIdLoop mem (UInt32.ofNat data.length) fuel
          (UInt32.ofNat (off + chunkLen data off + 1))
        ⟨off :: (off + 1) :: rest.reads, rest.manufId⟩ := by
  rw [ChunkAt] at hchunk
  have hbound : off ≤ data.length + 256 := by omega
  have hfar : ¬UInt32.ofNat data.length - UInt32.ofNat off < 2 := by
    rw [distance_lt_iff hsize hbound]
    omega
  have hadd (k : ℕ) (hk : k ≤ 3) := toNat_off_add hsize hbound hk
  have hlen : mem off = data.getD off 0 := hmem off (by omega)
  have htype : mem (off + 1) = chunkType data off := hmem (off + 1) hchunk
  have hmin : (mem off < bleMsgChunkManufacturedSpecificDataMinLen) ↔ ¬3 ≤ chunkLen data off := by
    rw [hlen, UInt8.lt_iff_toNat_lt, not_le]
    rfl
  rw [getBleManufIdLoop, if_neg hfar]
  dsimp only
  rw [show (1 : UInt32) = UInt32.ofNat 1 from rfl, show (2 : UInt32) = UInt32.ofNat 2 from rfl,
    show (3 : UInt32) = UInt32.ofNat 3 from rfl, hadd 1 (by omega), hadd 2 (by omega),
    hadd 3 (by omega), toNat_off hsize hbound, htype]
  simp only [hmin, ne_eq, ite_not]
  rw [show UInt32.ofNat 1 = (1 : UInt32) from rfl, off_next, hlen]
  rfl

/-- Behind the data the distance is large, and the loop goes on reading. -/
theorem mem_reads_behind (hsize : data.length ≤ 255) {fuel off : ℕ} (hbehind : data.length < off)
    (hoff : off ≤ data.length + 256)
    (hended : (getBleManufIdLoop mem (UInt32.ofNat data.length) fuel (UInt32.ofNat off)).manufId ≠
      none) :
    off ∈ (getBleManufIdLoop mem (UInt32.ofNat data.length) fuel (UInt32.ofNat off)).reads := by
  cases fuel with
  | zero => exact absurd rfl hended
  | succ fuel =>
    have hfar : ¬UInt32.ofNat data.length - UInt32.ofNat off < 2 := by
      rw [distance_lt_iff hsize hoff]
      omega
    rw [getBleManufIdLoop, if_neg hfar]
    dsimp only
    rw [toNat_off hsize hoff]
    split_ifs
    all_goals exact List.mem_cons_self

theorem ChunksInside.next {off : ℕ} (h : ChunksInside data off) (hchunk : ChunkAt data off)
    (hother : chunkType data off ≠ bleMsgChunkTypeManufacturedSpecificData)
    (hinside : off + chunkLen data off + 1 ≤ data.length) :
    ChunksInside data (off + chunkLen data off + 1) := fun pos hleads =>
  h pos (.next hchunk hother hinside hleads)

/-- While every chunk ends within the data the scan ends with the right result. -/
theorem scannedFrom_of_inside (hmem : ∀ i < data.length, mem i = data.getD i 0)
    (hsize : data.length ≤ 255) {off : ℕ} (hoff : off ≤ data.length) (h : ChunksInside data off) :
    ∃ fuel, ScannedFrom data off
      (getBleManufIdLoop mem (UInt32.ofNat data.length) fuel (UInt32.ofNat off)) := by
  by_cases hchunk : ChunkAt data off
  swap
  · refine ⟨1, ?_⟩
    rw [loop_end hsize 0 hoff hchunk]
    exact ⟨by simp, fun pos hpos => absurd hpos (manufacturerAt_end hchunk), fun _ => rfl⟩
  have hstays : StaysInside data off := h off (.refl off) hchunk
  have hbefore : off + 1 < data.length := hchunk
  unfold StaysInside at hstays
  by_cases htype : chunkType data off = bleMsgChunkTypeManufacturedSpecificData
  · rw [if_pos htype] at hstays
    refine ⟨1, ?_⟩
    rw [loop_chunk hmem hsize 0 hchunk, if_pos htype]
    by_cases hmin : 3 ≤ chunkLen data off
    · have hid : off + 3 < data.length := hstays hmin
      rw [if_pos hmin, hmem _ hid, hmem (off + 2) (by omega)]
      constructor
      · simp only [List.mem_cons, List.not_mem_nil, or_false]
        omega
      · intro pos hpos
        rw [manufacturerAt_type htype hpos]
        rfl
      · intro habsent
        exact absurd ⟨off, .refl off, hchunk, htype, hmin, hid⟩ habsent
    · rw [if_neg hmin]
      constructor
      · simp only [List.mem_cons, List.not_mem_nil, or_false]
        omega
      · intro pos hpos
        rw [manufacturerAt_type htype hpos] at hpos
        exact absurd hpos.minLen hmin
      · intro _
        rfl
  · rw [if_neg htype] at hstays
    obtain ⟨fuel, hrest⟩ := scannedFrom_of_inside hmem hsize hstays (h.next hchunk htype hstays)
    refine ⟨fuel + 1, ?_⟩
    rw [loop_chunk hmem hsize fuel hchunk, if_neg htype]
    constructor
    · simp only [List.mem_cons, forall_eq_or_imp]
      exact ⟨by omega, hbefore, hrest.reads⟩
    · intro pos hpos
      exact hrest.found pos ((manufacturerAt_next hchunk htype hstays).mp hpos)
    · intro habsent
      apply hrest.absent
      rintro ⟨pos, hpos⟩
      exact habsent ⟨pos, (manufacturerAt_next hchunk htype hstays).mpr hpos⟩
termination_by data.length - off
decreasing_by omega

theorem chunkLen_le (off : ℕ) : chunkLen data off ≤ 255 := by
  have hlt := (data.getD off 0).toNat_lt
  unfold chunkLen
  omega

/-- A chunk that leads out of the data makes the scan read behind them, if it ends at all. -/
theorem reads_behind (hmem : ∀ i < data.length, mem i = data.getD i 0) (hsize : data.length ≤ 255)
    {off pos : ℕ} (hleads : Leads data off pos) (hchunk : ChunkAt data pos)
    (hleaves : ¬StaysInside data pos) (fuel : ℕ)
    (hended : (getBleManufIdLoop mem (UInt32.ofNat data.length) fuel (UInt32.ofNat off)).manufId ≠
      none) :
    ∃ i ∈ (getBleManufIdLoop mem (UInt32.ofNat data.length) fuel (UInt32.ofNat off)).reads,
      data.length ≤ i := by
  induction hleads generalizing fuel with
  | refl off =>
    cases fuel with
    | zero => exact absurd rfl hended
    | succ fuel =>
      rw [loop_chunk hmem hsize fuel hchunk] at hended ⊢
      unfold StaysInside at hleaves
      split_ifs at hleaves hended ⊢ with htype hmin
      · have hid : data.length ≤ off + 3 := not_lt.mp (Classical.not_imp.mp hleaves).2
        exact ⟨off + 3, by simp, hid⟩
      · exact absurd (fun hlen => absurd hlen hmin) hleaves
      · have hend : data.length < off + chunkLen data off + 1 := not_le.mp hleaves
        have hlen : chunkLen data off ≤ 255 := chunkLen_le off
        have hread := mem_reads_behind hsize hend (by rw [ChunkAt] at hchunk; omega) hended
        exact ⟨_, List.mem_cons_of_mem _ (List.mem_cons_of_mem _ hread), hend.le⟩
  | next hfirst hother _ _ ih =>
    cases fuel with
    | zero => exact absurd rfl hended
    | succ fuel =>
      rw [loop_chunk hmem hsize fuel hfirst, if_neg hother] at hended ⊢
      obtain ⟨i, hi, hle⟩ := ih hchunk hleaves fuel hended
      exact ⟨i, List.mem_cons_of_mem _ (List.mem_cons_of_mem _ hi), hle⟩

end Proof

section Reports

variable {adv : AdvReport}

theorem length_data (h : adv.dataLen.toNat ≤ advDataMaxLen) :
    adv.data.length = adv.dataLen.toNat := by
  rw [AdvReport.data, List.length_take, Vector.length_toList]
  exact min_eq_left h

theorem memoryFrom_eq (behind : ℕ → UInt8) :
    ∀ i < adv.data.length, memoryFrom adv behind i = adv.data.getD i 0 := by
  intro i hi
  have hi' : i < adv.dataLen.toNat ∧ i < advDataMaxLen := by
    rw [AdvReport.data, List.length_take, Vector.length_toList] at hi
    omega
  rw [memoryFrom, dif_pos hi'.2, List.getD_eq_getElem?_getD, List.getElem?_eq_getElem hi]
  simp [AdvReport.data]

/-- The scan for the manufacturer of a report ends, reads the data only and finds the manufacturer.
-/
def ScansExactly (adv : AdvReport) (behind : ℕ → UInt8) : Prop :=
  ∃ fuel, ScannedFrom adv.data 0 (getBleManufId (memoryFrom adv behind) adv.dataLen fuel)

theorem ScannedFrom.ended {data : List UInt8} {off : ℕ} {scan : Scan}
    (h : ScannedFrom data off scan) : scan.manufId ≠ none := by
  by_cases hfound : ∃ pos, ManufacturerAt data off pos
  · obtain ⟨pos, hpos⟩ := hfound
    rw [h.found pos hpos]
    exact Option.some_ne_none _
  · rw [h.absent hfound]
    exact Option.some_ne_none _

theorem getBleManufId_eq (mem : ℕ → UInt8) (dataLen : UInt8) (fuel : ℕ) :
    getBleManufId mem dataLen (fuel + 1) =
      getBleManufIdLoop mem (UInt32.ofNat dataLen.toNat) (fuel + 1) (UInt32.ofNat 0) := by
  have hlen : dataLen.toUInt32 = UInt32.ofNat dataLen.toNat := by
    apply UInt32.toNat_inj.mp
    rw [UInt8.toNat_toUInt32, UInt32.toNat_ofNat']
    have := dataLen.toNat_lt
    omega
  rw [getBleManufId, hlen]
  split_ifs with hshort
  · have hnear : UInt32.ofNat dataLen.toNat - UInt32.ofNat 0 < 2 := by
      rw [distance_lt_iff (by have := dataLen.toNat_lt; omega) (Nat.zero_le _)]
      have : dataLen.toNat < 2 := UInt8.lt_iff_toNat_lt.mp hshort
      omega
    rw [getBleManufIdLoop, if_pos hnear]
  · rfl

theorem scansExactly_iff_inside (h : adv.dataLen.toNat ≤ advDataMaxLen) (behind : ℕ → UInt8) :
    ScansExactly adv behind ↔ ChunksInside adv.data 0 := by
  have hlength := length_data h
  have hsize : adv.data.length ≤ 255 := hlength.trans_le (h.trans (by decide))
  have hmem : ∀ i < adv.data.length, memoryFrom adv behind i = adv.data.getD i 0 :=
    memoryFrom_eq behind
  constructor
  · rintro ⟨fuel, hscanned⟩ pos hleads hchunk
    by_contra hleaves
    have hended := hscanned.ended
    cases fuel with
    | zero =>
      rw [getBleManufId] at hended
      split_ifs at hended with hshort
      · have : adv.dataLen.toNat < 2 := UInt8.lt_iff_toNat_lt.mp hshort
        rw [ChunkAt, hlength] at hchunk
        omega
      · exact hended rfl
    | succ fuel =>
      have hreads := hscanned.reads
      rw [getBleManufId_eq, ← hlength] at hended hreads
      obtain ⟨i, hi, hle⟩ := reads_behind hmem hsize hleads hchunk hleaves _ hended
      exact absurd (hreads i hi) (not_lt.mpr hle)
  · intro hinside
    obtain ⟨fuel, hscanned⟩ := scannedFrom_of_inside hmem hsize (Nat.zero_le _) hinside
    cases fuel with
    | zero => exact absurd rfl hscanned.ended
    | succ fuel =>
      refine ⟨fuel + 1, ?_⟩
      rw [getBleManufId_eq, ← hlength]
      exact hscanned

/-- The scan of an accepted advertisement is right if and only if no chunk leads it out of the data.
-/
theorem getBleManufId_exact_iff {msg : Option ReCaUartPayload} {timestamp : UInt32}
    (h : parseAdvReportFromUart msg timestamp = some adv) (behind : ℕ → UInt8) :
    ScansExactly adv behind ↔ ChunksInside adv.data 0 :=
  scansExactly_iff_inside (dataLen_of_parse h).2 behind

end Reports

section Samples

/-- A message with the given data. -/
def sampleMsg (data : List UInt8) : ReCaUartPayload where
  cmd := .advRprt
  adv := {
    mac := ⟨#v[1, 2, 3, 4, 5, 6]⟩
    rssiDb := -50
    primaryPhy := 1
    secondaryPhy := 0
    chIndex := 37
    isCodedPhy := false
    txPower := 8
    advLen := UInt8.ofNat data.length
    adv := fun i => data.getD i 0 }

def sampleAdv (data : List UInt8) : AdvReport :=
  (parseAdvReportFromUart (some (sampleMsg data)) 7).getD .zero

def flagsAndManufacturer : List UInt8 := [2, 1, 6, 3, 0xff, 0x99, 0x04]

theorem getBleManufId_exact_sample :
    ScansExactly (sampleAdv flagsAndManufacturer) (fun _ => 0) := by
  have hparsed : parseAdvReportFromUart (some (sampleMsg flagsAndManufacturer)) 7 =
      some (sampleAdv flagsAndManufacturer) := by decide
  refine (getBleManufId_exact_iff hparsed _).mpr ?_
  have hdata : (sampleAdv flagsAndManufacturer).data = flagsAndManufacturer := by decide
  rw [hdata]
  intro pos hleads hchunk
  cases hleads with
  | refl => decide
  | next _ _ _ hrest =>
    cases hrest with
    | refl => decide
    | next _ hother => exact absurd rfl hother

/-- The only chunk is longer than the packet, and the scan goes on behind it. -/
theorem getBleManufId_wrong : ¬ScansExactly (sampleAdv [5, 9]) (fun _ => 0) := by
  have hdata : (sampleAdv [5, 9]).data = [5, 9] := by decide
  rw [scansExactly_iff_inside (by decide), hdata]
  intro hinside
  exact absurd (hinside 0 (.refl 0) (by unfold ChunkAt; decide)) (by decide)

end Samples

end RuuviGateway.AdvPost
