import RuuviGateway.General.WordMemory
import RuuviGateway.Nrf52Fw.Info

/-!
# Writing the firmware

The flash of the nRF52 is reached through the debug interface, whose calls may fail and leave any
flash then. A file is read in blocks of up to 256 bytes, which may be short, and each block is
written, read back and compared before the next one is read.
-/

namespace RuuviGateway.Nrf52Fw

open General

abbrev Flash := WordMemory UInt8

section Interface

inductive SwdCall
  | readMem (addr : UInt32) (numWords : ℕ)
  | writeMem (addr : UInt32) (bytes : Bytes)
  | eraseAll
  deriving DecidableEq

/-- The flash behind the debug interface and the calls so far, the last one first. -/
structure Swd where
  flash : Flash
  calls : List SwdCall

/-- The flash that the call of a given number leaves if it fails. -/
abbrev SwdFaults := ℕ → Option Flash

def Swd.call (faults : SwdFaults) (c : SwdCall) (effect : Flash → Flash) (swd : Swd) : Bool × Swd :=
  match faults swd.calls.length with
  | none => (true, ⟨effect swd.flash, c :: swd.calls⟩)
  | some flash => (false, ⟨flash, c :: swd.calls⟩)

def nrf52swdEraseAll (faults : SwdFaults) (swd : Swd) : Bool × Swd :=
  swd.call faults .eraseAll fun _ _ => 0xff

def nrf52swdWriteMem (faults : SwdFaults) (addr : UInt32) (bytes : Bytes) (swd : Swd) :
    Bool × Swd :=
  swd.call faults (.writeMem addr bytes) fun flash => flash.write addr bytes

def nrf52swdReadMem (faults : SwdFaults) (addr : UInt32) (numWords : ℕ) (swd : Swd) :
    Option Bytes × Swd :=
  match swd.call faults (.readMem addr numWords) id with
  | (true, swd) => (some (swd.flash.read addr (4 * numWords)), swd)
  | (false, swd) => (none, swd)

/-- The bytes of a word, the lowest one first. -/
def bytesOfWord (w : UInt32) : Bytes :=
  [UInt8.ofNat w.toNat, UInt8.ofNat (w.toNat / 2 ^ 8), UInt8.ofNat (w.toNat / 2 ^ 16),
    UInt8.ofNat (w.toNat / 2 ^ 24)]

def wordOfBytes (bytes : Bytes) : UInt32 :=
  UInt32.ofNat (bytes.foldr (fun b w => b.toNat + 2 ^ 8 * w) 0)

theorem wordOfBytes_bytesOfWord (w : UInt32) : wordOfBytes (bytesOfWord w) = w := by
  have hlt := w.toNat_lt
  rw [← UInt32.toNat_inj, wordOfBytes, UInt32.toNat_ofNat']
  simp only [bytesOfWord, List.foldr_cons, List.foldr_nil, UInt8.toNat_ofNat']
  omega

abbrev uicrFwVer : UInt32 := 0x10001080

def readCurrentFwVer (faults : SwdFaults) (swd : Swd) : Option UInt32 × Swd :=
  match nrf52swdReadMem faults uicrFwVer 1 swd with
  | (some bytes, swd) => (some (wordOfBytes bytes), swd)
  | (none, swd) => (none, swd)

def writeCurrentFwVer (faults : SwdFaults) (fwVer : UInt32) (swd : Swd) : Bool × Swd :=
  nrf52swdWriteMem faults uicrFwVer (bytesOfWord fwVer) swd

end Interface

section Files

abbrev tmpBufSize : ℕ := 256

/-- What the reads of an open file yield: blocks, and at last its end or an error. -/
structure FileReads (data : Bytes) where
  blocks : List Bytes
  error : Bool
  sized : ∀ block ∈ blocks, block ≠ [] ∧ block.length ≤ tmpBufSize
  delivered : blocks.flatten <+: data
  complete : error = false → blocks.flatten = data

/-- Every segment file is read once to check it and once to write it. -/
inductive Pass
  | check
  | write
  deriving DecidableEq

/-- The files of the partition, by name, and what happens when the file of a segment, given by its
number, is opened and read. -/
structure FatFs where
  files : Bytes → Option Bytes
  small : ∀ name data, files name = some data → data.length < 2 ^ 32
  opened : Pass → ℕ → (data : Bytes) → Option (FileReads data)

/-- The blocks of a file and whether an error ends them, or nothing if it cannot be opened. -/
def FatFs.open (fat : FatFs) (pass : Pass) (i : ℕ) (name : Bytes) : Option (List Bytes × Bool) :=
  (fat.files name).bind fun data => (fat.opened pass i data).map fun reads =>
    (reads.blocks, reads.error)

end Files

section Model

variable (faults : SwdFaults)

/-- The offset behind the block, if the block was written. -/
def flashWriteBlock (block : Bytes) (segmentAddr segmentLen offset : UInt32) (swd : Swd) :
    Option UInt32 × Swd :=
  let addr := segmentAddr + offset
  if block.length % 4 ≠ 0 then (none, swd) else
  let offset := offset + UInt32.ofNat block.length
  if offset > segmentLen then (none, swd) else
  match nrf52swdWriteMem faults addr block swd with
  | (false, swd) => (none, swd)
  | (true, swd) =>
    match nrf52swdReadMem faults addr (block.length / 4) swd with
    | (none, swd) => (none, swd)
    | (some bufRd, swd) => if block ≠ bufRd then (none, swd) else (some offset, swd)

/-- The progress, with what was reported of it so far. -/
structure ProgressInfo where
  accumNumBytesFlashed : UInt32
  totalSize : UInt32
  reports : List (UInt32 × UInt32)
  deriving DecidableEq

def ProgressInfo.add (p : ProgressInfo) (len : ℕ) : ProgressInfo :=
  let accum := p.accumNumBytesFlashed + UInt32.ofNat len
  { p with accumNumBytesFlashed := accum, reports := p.reports ++ [(accum, p.totalSize)] }

def flashWriteSegment (segmentAddr segmentLen : UInt32) (error : Bool) :
    List Bytes → UInt32 → ProgressInfo → Swd → Bool × ProgressInfo × Swd
  | [], _, p, swd => (!error, p, swd)
  | block :: blocks, offset, p, swd =>
    match flashWriteBlock faults block segmentAddr segmentLen offset swd with
    | (none, swd) => (false, p, swd)
    | (some offset, swd) =>
      flashWriteSegment segmentAddr segmentLen error blocks offset (p.add block.length) swd

def writeSegmentFromFile (fat : FatFs) (i : ℕ) (segment : Segment) (p : ProgressInfo) (swd : Swd) :
    Bool × ProgressInfo × Swd :=
  match fat.open .write i segment.fileName.val with
  | none => (false, p, swd)
  | some (blocks, error) =>
    flashWriteSegment faults segment.address segment.size error blocks 0 p swd

/-- The loop over the segments. -/
def writeSegments (fat : FatFs) :
    List Segment → ℕ → ProgressInfo → Swd → Bool × ProgressInfo × Swd
  | [], _, p, swd => (true, p, swd)
  | segment :: segments, i, p, swd =>
    match writeSegmentFromFile faults fat i segment p swd with
    | (false, p, swd) => (false, p, swd)
    | (true, p, swd) => writeSegments fat segments (i + 1) p swd

def totalSizeOf (segments : List Segment) : UInt32 :=
  segments.foldl (fun total segment => total + segment.size) 0

def flashWriteFirmware (fat : FatFs) (info : Info) (swd : Swd) : Bool × ProgressInfo × Swd :=
  let p : ProgressInfo := ⟨0, totalSizeOf info.segments, []⟩
  match nrf52swdEraseAll faults swd with
  | (false, swd) => (false, p, swd)
  | (true, swd) =>
    match writeSegments faults fat info.segments 0 p swd with
    | (false, p, swd) => (false, p, swd)
    | (true, p, swd) =>
      -- released images bring their version in a segment of its own
      match readCurrentFwVer faults swd with
      | (none, swd) => (false, p, swd)
      | (some fwVer, swd) =>
        if fwVer = 0xffffffff then
          let (ok, swd) := writeCurrentFwVer faults info.fwVer swd
          (ok, p, swd)
        else (decide (fwVer = info.fwVer), p, swd)

end Model

section Calls

variable {faults : SwdFaults} {swd swd' : Swd}

/-- A call that writes writes to cells of `cells` only, and erases nothing. -/
def SwdCall.Within (cells : UInt32 → Prop) : SwdCall → Prop
  | .readMem _ _ => True
  | .writeMem addr bytes => ∀ x, (x - addr).toNat < bytes.length → cells x
  | .eraseAll => False

theorem SwdCall.Within.mono {cells cells' : UInt32 → Prop} (h : ∀ x, cells x → cells' x)
    {c : SwdCall} (hc : c.Within cells) : c.Within cells' := by
  cases c with
  | readMem addr numWords => trivial
  | writeMem addr bytes => exact fun x hx => h x (hc x hx)
  | eraseAll => exact hc

theorem call_ok {c : SwdCall} {effect : Flash → Flash}
    (h : swd.call faults c effect = (true, swd')) : swd' = ⟨effect swd.flash, c :: swd.calls⟩ := by
  unfold Swd.call at h
  split at h
  · simpa using h.symm
  · simp at h

theorem readMem_ok {addr : UInt32} {numWords : ℕ} {bytes : Bytes}
    (h : nrf52swdReadMem faults addr numWords swd = (some bytes, swd')) :
    swd' = ⟨swd.flash, .readMem addr numWords :: swd.calls⟩ ∧
      bytes = swd.flash.read addr (4 * numWords) := by
  unfold nrf52swdReadMem at h
  split at h
  case h_1 swd₁ hcall =>
    simp only [Prod.mk.injEq, Option.some.injEq] at h
    rw [← h.1, ← h.2, call_ok hcall]
    exact ⟨rfl, rfl⟩
  case h_2 => simp at h

theorem readCurrentFwVer_ok {fwVer : UInt32}
    (h : readCurrentFwVer faults swd = (some fwVer, swd')) :
    swd' = ⟨swd.flash, .readMem uicrFwVer 1 :: swd.calls⟩ ∧
      fwVer = wordOfBytes (swd.flash.read uicrFwVer 4) := by
  unfold readCurrentFwVer at h
  split at h
  case h_1 bytes swd₁ hread =>
    obtain ⟨hswd, hbytes⟩ := readMem_ok hread
    simp only [Prod.mk.injEq, Option.some.injEq] at h
    rw [← h.1, ← h.2, hbytes]
    exact ⟨hswd, rfl⟩
  case h_2 => simp at h

theorem flashWriteBlock_ok {block : Bytes} {addr len offset offset' : UInt32}
    (h : flashWriteBlock faults block addr len offset swd = (some offset', swd')) :
    offset' = offset + UInt32.ofNat block.length ∧ offset' ≤ len ∧
      swd'.flash = swd.flash.write (addr + offset) block ∧
      ∃ numWords, swd'.calls =
        .readMem (addr + offset) numWords :: .writeMem (addr + offset) block :: swd.calls := by
  unfold flashWriteBlock at h
  dsimp only at h
  split_ifs at h with halign hlen
  · simp at h
  · simp at h
  · split at h
    case h_1 => simp at h
    case h_2 swd₁ hwrite =>
      have hwritten := call_ok hwrite
      split at h
      case h_1 => simp at h
      case h_2 bufRd swd₂ hread =>
        obtain ⟨rfl, -⟩ := readMem_ok hread
        split_ifs at h
        · simp at h
        · simp only [Prod.mk.injEq, Option.some.injEq] at h
          obtain ⟨rfl, rfl⟩ := h
          rw [hwritten]
          exact ⟨rfl, UInt32.not_lt.mp hlen, rfl, _, rfl⟩

end Calls

section Segments

variable {faults : SwdFaults} {fat : FatFs} {p p' : ProgressInfo} {swd swd' : Swd}

/-- The cells of the range that a segment is listed with. -/
def Segment.Covers (segment : Segment) (x : UInt32) : Prop :=
  (x - segment.address).toNat < segment.size.toNat

/-- The calls behind `calls` write to `cells` only. -/
def WritesOnly (cells : UInt32 → Prop) (calls calls' : List SwdCall) : Prop :=
  ∃ new, calls' = new ++ calls ∧ ∀ c ∈ new, c.Within cells

theorem WritesOnly.refl (cells : UInt32 → Prop) (calls : List SwdCall) :
    WritesOnly cells calls calls := ⟨[], rfl, by simp⟩

theorem WritesOnly.trans {cells : UInt32 → Prop} {calls calls' calls'' : List SwdCall}
    (h : WritesOnly cells calls calls') (h' : WritesOnly cells calls' calls'') :
    WritesOnly cells calls calls'' := by
  obtain ⟨new, rfl, hnew⟩ := h
  obtain ⟨new', rfl, hnew'⟩ := h'
  refine ⟨new' ++ new, (List.append_assoc _ _ _).symm, ?_⟩
  intro c hc
  rcases List.mem_append.mp hc with hc | hc
  · exact hnew' c hc
  · exact hnew c hc

theorem WritesOnly.mono {cells cells' : UInt32 → Prop} {calls calls' : List SwdCall}
    (h : WritesOnly cells calls calls') (hcells : ∀ x, cells x → cells' x) :
    WritesOnly cells' calls calls' := by
  obtain ⟨new, hcalls, hnew⟩ := h
  exact ⟨new, hcalls, fun c hc => (hnew c hc).mono hcells⟩

/-- The blocks of a segment, of which `written` is already in the flash. -/
theorem flashWriteSegment_ok {addr len : UInt32} {error : Bool} {blocks : List Bytes}
    (written : Bytes) (base : Flash)
    (h : flashWriteSegment faults addr len error blocks (UInt32.ofNat written.length) p swd =
      (true, p', swd'))
    (hsmall : (written ++ blocks.flatten).length < 2 ^ 32) (hlen : written.length ≤ len.toNat)
    (hflash : swd.flash = base.write addr written) :
    error = false ∧ (written ++ blocks.flatten).length ≤ len.toNat ∧
      swd'.flash = base.write addr (written ++ blocks.flatten) ∧
      WritesOnly (fun x => (x - addr).toNat < len.toNat) swd.calls swd'.calls := by
  induction blocks generalizing written p swd with
  | nil =>
    simp only [flashWriteSegment, Prod.mk.injEq, Bool.not_eq_true'] at h
    obtain ⟨herror, rfl, rfl⟩ := h
    rw [List.flatten_nil, List.append_nil]
    exact ⟨herror, hlen, hflash, .refl _ _⟩
  | cons block blocks ih =>
    rw [flashWriteSegment] at h
    split at h
    case h_1 => simp at h
    case h_2 offset swd₁ hblock =>
      obtain ⟨hoffset, hle, hflash₁, numWords, hcalls⟩ := flashWriteBlock_ok hblock
      rw [List.flatten_cons, ← List.append_assoc] at hsmall ⊢
      have hsmall₁ : (written ++ block).length < 2 ^ 32 := by
        rw [List.length_append] at hsmall
        omega
      have hoffset₁ : offset = UInt32.ofNat (written ++ block).length := by
        rw [hoffset, List.length_append, UInt32.ofNat_add]
      have hlen₁ : (written ++ block).length ≤ len.toNat := by
        rw [hoffset₁, UInt32.le_iff_toNat_le, WordMemory.toNat_ofNat_of_lt hsmall₁] at hle
        exact hle
      have hwritten : swd₁.flash = base.write addr (written ++ block) := by
        rw [hflash₁, hflash, WordMemory.write_append]
        rwa [List.length_append] at hsmall₁
      rw [hoffset₁] at h
      obtain ⟨herror, hle', hflash', hwrites⟩ := ih _ h hsmall hlen₁ hwritten
      refine ⟨herror, hle', hflash', WritesOnly.trans ⟨[_, _], hcalls, ?_⟩ hwrites⟩
      intro c hc
      simp only [List.mem_cons, List.not_mem_nil, or_false] at hc
      rcases hc with rfl | rfl
      · trivial
      · intro x hx
        have hsum : written.length + block.length ≤ len.toNat := by
          rwa [List.length_append] at hlen₁
        have hbound := len.toNat_lt
        rw [WordMemory.toNat_sub_of_add addr x hx (by omega)]
        omega

theorem FatFs.open_ok {pass : Pass} {i : ℕ} {name : Bytes} {blocks : List Bytes} {error : Bool}
    (h : fat.open pass i name = some (blocks, error)) :
    ∃ data, fat.files name = some data ∧ data.length < 2 ^ 32 ∧ blocks.flatten <+: data ∧
      (error = false → blocks.flatten = data) := by
  obtain ⟨data, hdata, h⟩ := Option.bind_eq_some_iff.mp h
  obtain ⟨reads, -, hreads⟩ := Option.map_eq_some_iff.mp h
  rw [Prod.mk.injEq] at hreads
  obtain ⟨rfl, rfl⟩ := hreads
  exact ⟨data, hdata, fat.small name data hdata, reads.delivered, reads.complete⟩

theorem writeSegmentFromFile_ok {i : ℕ} {segment : Segment}
    (h : writeSegmentFromFile faults fat i segment p swd = (true, p', swd')) :
    ∃ data, fat.files segment.fileName.val = some data ∧ data.length ≤ segment.size.toNat ∧
      swd'.flash = swd.flash.write segment.address data ∧
      WritesOnly segment.Covers swd.calls swd'.calls := by
  unfold writeSegmentFromFile at h
  split at h
  case h_1 => simp at h
  case h_2 blocks error hopen =>
    obtain ⟨data, hdata, hsmall, hprefix, hcomplete⟩ := FatFs.open_ok hopen
    have hlen := hprefix.length_le
    have hwrite := flashWriteSegment_ok [] swd.flash h
      (by simpa using Nat.lt_of_le_of_lt hlen hsmall) (Nat.zero_le _)
      (WordMemory.write_nil _ _).symm
    obtain ⟨herror, hle, hflash, hwrites⟩ := hwrite
    rw [List.nil_append, hcomplete herror] at hle hflash
    exact ⟨data, hdata, hle, hflash, hwrites⟩

/-- The flash after the images of the segments were written one after the other. -/
def programmed (images : List (Segment × Bytes)) (flash : Flash) : Flash :=
  images.foldl (fun flash image => flash.write image.1.address image.2) flash

/-- The image of a segment is its file, and fits into its range. -/
def IsImage (fat : FatFs) (image : Segment × Bytes) : Prop :=
  fat.files image.1.fileName.val = some image.2 ∧ image.2.length ≤ image.1.size.toNat

theorem writeSegments_ok {segments : List Segment} {i : ℕ}
    (h : writeSegments faults fat segments i p swd = (true, p', swd')) :
    ∃ images : List (Segment × Bytes), images.map Prod.fst = segments ∧
      (∀ image ∈ images, IsImage fat image) ∧ swd'.flash = programmed images swd.flash ∧
      WritesOnly (fun x => ∃ segment ∈ segments, segment.Covers x) swd.calls swd'.calls := by
  induction segments generalizing i p swd with
  | nil =>
    simp only [writeSegments, Prod.mk.injEq, true_and] at h
    obtain ⟨rfl, rfl⟩ := h
    exact ⟨[], rfl, by simp, rfl, .refl _ _⟩
  | cons segment segments ih =>
    rw [writeSegments] at h
    split at h
    case h_1 => simp at h
    case h_2 p₁ swd₁ hsegment =>
      obtain ⟨data, hdata, hlen, hflash, hwrites⟩ := writeSegmentFromFile_ok hsegment
      obtain ⟨images, hsegments, himages, hflash', hwrites'⟩ := ih h
      refine ⟨(segment, data) :: images, by rw [List.map_cons, hsegments], ?_, ?_, ?_⟩
      · rw [List.forall_mem_cons]
        exact ⟨⟨hdata, hlen⟩, himages⟩
      · rw [hflash', hflash]
        rfl
      · refine (hwrites.mono ?_).trans (hwrites'.mono ?_)
        · intro x hx
          exact ⟨segment, List.mem_cons_self, hx⟩
        · rintro x ⟨segment', hmem, hx⟩
          exact ⟨segment', List.mem_cons_of_mem _ hmem, hx⟩

end Segments

section Samples

/-- The reads of a file that fits into one block. -/
def readsOfOneBlock (data : Bytes) : Option (FileReads data) :=
  if h : data ≠ [] ∧ data.length ≤ tmpBufSize then
    some ⟨[data], false, by simpa using h, by simp, by simp⟩
  else none

/-- A partition with one file of four bytes. -/
def sampleFat (data : Bytes) (h : data.length = 4) : FatFs where
  files name := if name = ascii "app.bin" then some data else none
  small := by
    intro name data' hdata
    split_ifs at hdata
    rw [← Option.some.inj hdata, h]
    decide
  opened _ _ := readsOfOneBlock

end Samples

end RuuviGateway.Nrf52Fw
