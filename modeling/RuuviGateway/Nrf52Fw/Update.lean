import RuuviGateway.Nrf52Fw.Flash

/-!
# The decision to update

The flash is erased once the version differs and every segment that was read from `info.txt` has
passed its check. The check bounds the length of a file from above only, and what was not read is
not checked.
-/

namespace RuuviGateway.Nrf52Fw

open General

section Check

variable (X : Externals)

def calcSegmentCrc (segmentLen : UInt32) (error : Bool) :
    List Bytes → UInt32 → UInt32 → Option UInt32
  | [], _, crc => if error then none else some crc
  | block :: blocks, offset, crc =>
    if block.length % 4 ≠ 0 then none else
    let offset := offset + UInt32.ofNat block.length
    if offset > segmentLen then none
    else calcSegmentCrc segmentLen error blocks offset (X.crc32Le crc block)

def checkFwSegmentCrc (fat : FatFs) (i : ℕ) (segment : Segment) : Bool :=
  match fat.open .check i segment.fileName.val with
  | none => false
  | some (blocks, error) =>
    match calcSegmentCrc X segment.size error blocks 0 0 with
    | none => false
    | some crc => decide (segment.crc = crc)

def checkFirmware (fat : FatFs) : List Segment → ℕ → Bool
  | [], _ => true
  | segment :: segments, i =>
      checkFwSegmentCrc X fat i segment && checkFirmware fat segments (i + 1)

end Check

section Update

variable (X : Externals) (faults : SwdFaults) (failedRead : ℕ → UInt32 → UInt32)

/-- The version is read into a word. `failedRead` is what a failed call leaves there. -/
def readFwVerInto (word : UInt32) (swd : Swd) : Bool × UInt32 × Swd :=
  match readCurrentFwVer faults swd with
  | (some fwVer, swd') => (true, fwVer, swd')
  | (none, swd') => (false, failedRead swd.calls.length word, swd')

/-- The result, the calls of the callbacks and the version that was asked for. -/
structure UpdateOutcome where
  result : Bool
  beforeUpdating : Bool
  progress : List (UInt32 × UInt32)
  afterUpdating : Option Bool
  nrf52FwVer : Option UInt32
  swd : Swd

/-- A failure after the callback before the update. -/
def updateFailed (progress : List (UInt32 × UInt32)) (nrf52FwVer : Option UInt32) (swd : Swd) :
    UpdateOutcome :=
  match nrf52FwVer with
  | none => ⟨false, true, progress, some false, none, swd⟩
  | some word =>
    let (_, fwVer, swd) := readFwVerInto faults failedRead word swd
    ⟨false, true, progress, some false, some fwVer, swd⟩

/-- `nrf52fw_update_fw_step3`. There is no outcome if the gateway halts. -/
def updateFwStep3 (stack : Stack) (infoTxt : Option TextFile) (fat : FatFs)
    (nrf52FwVer : Option UInt32) (swd : Swd) : Option UpdateOutcome :=
  match readInfoTxt X stack infoTxt with
  | none => none
  | some none => some ⟨false, false, [], none, nrf52FwVer, swd⟩
  | some (some info) =>
    match readFwVerInto faults failedRead 0 swd with
    | (false, _, swd) => some ⟨false, false, [], none, nrf52FwVer, swd⟩
    | (true, curFwVer, swd) =>
      let nrf52FwVer := nrf52FwVer.map fun _ => curFwVer
      if curFwVer = info.fwVer then some ⟨true, false, [], none, nrf52FwVer, swd⟩
      else if !checkFirmware X fat info.segments 0 then
        some (updateFailed faults failedRead [] nrf52FwVer swd)
      else
        match flashWriteFirmware faults fat info swd with
        | (false, p, swd) => some (updateFailed faults failedRead p.reports nrf52FwVer swd)
        | (true, p, swd) =>
          match readFwVerInto faults failedRead curFwVer swd with
          | (result, curFwVer, swd) =>
            some ⟨result, true, p.reports, some result, nrf52FwVer.map fun _ => curFwVer, swd⟩

end Update

section Check

variable {X : Externals} {fat : FatFs}

/-- The CRC of a block is computed on from the CRC of the blocks before it. -/
structure CrcLaw (X : Externals) : Prop where
  nil : ∀ crc, X.crc32Le crc [] = crc
  append : ∀ crc bytes bytes', X.crc32Le (X.crc32Le crc bytes) bytes' =
    X.crc32Le crc (bytes ++ bytes')

theorem calcSegmentCrc_ok (hcrc : CrcLaw X) {len : UInt32} {error : Bool} {blocks : List Bytes}
    (written : ℕ) {crc crc' : UInt32}
    (h : calcSegmentCrc X len error blocks (UInt32.ofNat written) crc = some crc')
    (hsmall : written + blocks.flatten.length < 2 ^ 32) (hlen : written ≤ len.toNat) :
    error = false ∧ written + blocks.flatten.length ≤ len.toNat ∧
      crc' = X.crc32Le crc blocks.flatten := by
  induction blocks generalizing written crc with
  | nil =>
    simp only [calcSegmentCrc] at h
    split_ifs at h with herror
    rw [List.flatten_nil, hcrc.nil]
    exact ⟨Bool.eq_false_iff.mpr herror, hlen, (Option.some.inj h).symm⟩
  | cons block blocks ih =>
    rw [List.flatten_cons, List.length_append, ← Nat.add_assoc] at hsmall
    simp only [calcSegmentCrc] at h
    rw [← UInt32.ofNat_add] at h
    split_ifs at h with halign hle
    have hfits := UInt32.not_lt.mp hle
    rw [UInt32.le_iff_toNat_le, WordMemory.toNat_ofNat_of_lt (by omega)] at hfits
    obtain ⟨herror, hlen', hcrc'⟩ := ih _ h hsmall hfits
    rw [List.flatten_cons, List.length_append, ← Nat.add_assoc, ← hcrc.append]
    exact ⟨herror, hlen', hcrc'⟩

/-- What the check says about the file of a segment. -/
def Checked (X : Externals) (fat : FatFs) (segment : Segment) : Prop :=
  ∃ data, fat.files segment.fileName.val = some data ∧ data.length ≤ segment.size.toNat ∧
    X.crc32Le 0 data = segment.crc

theorem checkFwSegmentCrc_ok (hcrc : CrcLaw X) {i : ℕ} {segment : Segment}
    (h : checkFwSegmentCrc X fat i segment = true) : Checked X fat segment := by
  unfold checkFwSegmentCrc at h
  split at h
  case h_1 => cases h
  case h_2 blocks error hopen =>
    obtain ⟨data, hdata, hsmall, hprefix, hcomplete⟩ := FatFs.open_ok hopen
    have hlen := hprefix.length_le
    split at h
    case h_1 => cases h
    case h_2 crc hcalc =>
      obtain ⟨herror, hle, hcrc'⟩ := calcSegmentCrc_ok hcrc 0 hcalc (by omega)
        (Nat.zero_le _)
      rw [hcomplete herror] at hle hcrc'
      exact ⟨data, hdata, by omega, by rw [← hcrc', of_decide_eq_true h]⟩

theorem checkFirmware_ok (hcrc : CrcLaw X) {segments : List Segment} {i : ℕ}
    (h : checkFirmware X fat segments i = true) : ∀ segment ∈ segments, Checked X fat segment := by
  induction segments generalizing i with
  | nil => simp
  | cons segment segments ih =>
    rw [checkFirmware, Bool.and_eq_true] at h
    rw [List.forall_mem_cons]
    exact ⟨checkFwSegmentCrc_ok hcrc h.1, ih h.2⟩

end Check

section Erase

variable {X : Externals} {faults : SwdFaults} {failedRead : ℕ → UInt32 → UInt32}
variable {fat : FatFs} {swd : Swd}

def Swd.erases (swd : Swd) : ℕ := swd.calls.count .eraseAll

theorem Swd.erases_mono {swd swd' : Swd} (h : swd.calls <:+ swd'.calls) :
    swd.erases ≤ swd'.erases := h.sublist.count_le _

theorem call_calls (faults : SwdFaults) (c : SwdCall) (effect : Flash → Flash) (swd : Swd) :
    (swd.call faults c effect).2.calls = c :: swd.calls := by
  unfold Swd.call
  split <;> rfl

theorem readMem_calls (faults : SwdFaults) (addr : UInt32) (numWords : ℕ) (swd : Swd) :
    (nrf52swdReadMem faults addr numWords swd).2.calls = .readMem addr numWords :: swd.calls := by
  have hcalls := call_calls faults (.readMem addr numWords) id swd
  unfold nrf52swdReadMem
  split
  case h_1 swd' hcall => rwa [hcall] at hcalls
  case h_2 swd' hcall => rwa [hcall] at hcalls

theorem readCurrentFwVer_calls (faults : SwdFaults) (swd : Swd) :
    (readCurrentFwVer faults swd).2.calls = .readMem uicrFwVer 1 :: swd.calls := by
  have hcalls := readMem_calls faults uicrFwVer 1 swd
  unfold readCurrentFwVer
  split
  case h_1 bytes swd' hread => rwa [hread] at hcalls
  case h_2 swd' hread => rwa [hread] at hcalls

theorem readFwVerInto_swd (faults : SwdFaults) (failedRead : ℕ → UInt32 → UInt32) (word : UInt32)
    (swd : Swd) :
    (readFwVerInto faults failedRead word swd).2.2 = (readCurrentFwVer faults swd).2 := by
  unfold readFwVerInto
  split
  case h_1 fwVer swd' hread => rw [hread]
  case h_2 swd' hread => rw [hread]

theorem readFwVerInto_ok {word fwVer : UInt32} {swd swd' : Swd}
    (h : readFwVerInto faults failedRead word swd = (true, fwVer, swd')) :
    (readCurrentFwVer faults swd).1 = some fwVer := by
  unfold readFwVerInto at h
  split at h
  case h_1 fwVer' swd₁ hread =>
    simp only [Prod.mk.injEq, true_and] at h
    rw [hread, h.1]
  case h_2 => simp at h

theorem readFwVerInto_failed {word fwVer : UInt32} {swd swd' : Swd}
    (h : readFwVerInto faults failedRead word swd = (false, fwVer, swd')) :
    (readCurrentFwVer faults swd).1 = none := by
  unfold readFwVerInto at h
  split at h
  case h_1 => simp at h
  case h_2 swd₁ hread => rw [hread]

theorem readFwVerInto_erases (faults : SwdFaults) (failedRead : ℕ → UInt32 → UInt32)
    (word : UInt32) (swd : Swd) :
    (readFwVerInto faults failedRead word swd).2.2.erases = swd.erases := by
  rw [Swd.erases, readFwVerInto_swd, readCurrentFwVer_calls]
  rfl

theorem flashWriteBlock_calls (faults : SwdFaults) (block : Bytes) (addr len offset : UInt32)
    (swd : Swd) :
    swd.calls <:+ (flashWriteBlock faults block addr len offset swd).2.calls := by
  have hwrite := call_calls faults (.writeMem (addr + offset) block)
    (fun flash => flash.write (addr + offset) block) swd
  unfold flashWriteBlock
  dsimp only
  split_ifs
  · exact List.suffix_refl _
  · exact List.suffix_refl _
  · split
    case h_1 swd₁ hcall =>
      rw [nrf52swdWriteMem] at hcall
      rw [hcall] at hwrite
      exact ⟨[_], hwrite.symm⟩
    case h_2 swd₁ hcall =>
      rw [nrf52swdWriteMem] at hcall
      rw [hcall] at hwrite
      have hread := readMem_calls faults (addr + offset) (block.length / 4) swd₁
      split
      case h_1 swd₂ hcall₂ =>
        rw [hcall₂, hwrite] at hread
        exact ⟨[_, _], hread.symm⟩
      case h_2 bufRd swd₂ hcall₂ =>
        rw [hcall₂, hwrite] at hread
        split_ifs
        · exact ⟨[_, _], hread.symm⟩
        · exact ⟨[_, _], hread.symm⟩

theorem flashWriteSegment_calls (faults : SwdFaults) (addr len : UInt32) (error : Bool)
    (blocks : List Bytes) (offset : UInt32) (p : ProgressInfo) (swd : Swd) :
    swd.calls <:+ (flashWriteSegment faults addr len error blocks offset p swd).2.2.calls := by
  induction blocks generalizing offset p swd with
  | nil => exact List.suffix_refl _
  | cons block blocks ih =>
    have hblock := flashWriteBlock_calls faults block addr len offset swd
    rw [flashWriteSegment]
    split
    case h_1 swd₁ hwrite => rwa [hwrite] at hblock
    case h_2 offset' swd₁ hwrite =>
      rw [hwrite] at hblock
      exact hblock.trans (ih _ _ _)

theorem writeSegments_calls (faults : SwdFaults) (fat : FatFs) (segments : List Segment) (i : ℕ)
    (p : ProgressInfo) (swd : Swd) :
    swd.calls <:+ (writeSegments faults fat segments i p swd).2.2.calls := by
  induction segments generalizing i p swd with
  | nil => exact List.suffix_refl _
  | cons segment segments ih =>
    have hsegment : swd.calls <:+
        (writeSegmentFromFile faults fat i segment p swd).2.2.calls := by
      unfold writeSegmentFromFile
      split
      · exact List.suffix_refl _
      · exact flashWriteSegment_calls faults _ _ _ _ _ _ _
    rw [writeSegments]
    split
    case h_1 p₁ swd₁ hwrite => rwa [hwrite] at hsegment
    case h_2 p₁ swd₁ hwrite =>
      rw [hwrite] at hsegment
      exact hsegment.trans (ih _ _ _)

theorem flashWriteFirmware_erases (faults : SwdFaults) (fat : FatFs) (info : Info) (swd : Swd) :
    swd.erases < (flashWriteFirmware faults fat info swd).2.2.erases := by
  have hcalls := call_calls faults .eraseAll (fun _ _ => 0xff) swd
  have herase (swd₁ : Swd) (h : swd₁.calls = .eraseAll :: swd.calls) :
      swd.erases < swd₁.erases := by
    rw [Swd.erases, Swd.erases, h, List.count_cons_self]
    exact Nat.lt_succ_self _
  unfold flashWriteFirmware
  dsimp only
  split
  case h_1 swd₁ hcall =>
    rw [nrf52swdEraseAll] at hcall
    rw [hcall] at hcalls
    exact herase swd₁ hcalls
  case h_2 swd₁ hcall =>
    rw [nrf52swdEraseAll] at hcall
    rw [hcall] at hcalls
    have hsegments := writeSegments_calls faults fat info.segments 0
      ⟨0, totalSizeOf info.segments, []⟩ swd₁
    split
    case h_1 p swd₂ hwrite =>
      rw [hwrite] at hsegments
      exact Nat.lt_of_lt_of_le (herase swd₁ hcalls) (Swd.erases_mono hsegments)
    case h_2 p swd₂ hwrite =>
      rw [hwrite] at hsegments
      have hlt := Nat.lt_of_lt_of_le (herase swd₁ hcalls) (Swd.erases_mono hsegments)
      have hread := readCurrentFwVer_calls faults swd₂
      split
      case h_1 swd₃ hver =>
        rw [hver] at hread
        exact Nat.lt_of_lt_of_le hlt (Swd.erases_mono ⟨[_], hread.symm⟩)
      case h_2 fwVer swd₃ hver =>
        rw [hver] at hread
        have hlt₃ := Nat.lt_of_lt_of_le hlt (Swd.erases_mono ⟨[_], hread.symm⟩)
        split_ifs
        · have hwritten := call_calls faults (.writeMem uicrFwVer (bytesOfWord info.fwVer))
            (fun flash => flash.write uicrFwVer (bytesOfWord info.fwVer)) swd₃
          exact Nat.lt_of_lt_of_le hlt₃ (Swd.erases_mono ⟨[_], hwritten.symm⟩)
        · exact hlt₃

theorem updateFailed_erases (faults : SwdFaults) (failedRead : ℕ → UInt32 → UInt32)
    (progress : List (UInt32 × UInt32)) (nrf52FwVer : Option UInt32)
    (swd : Swd) : (updateFailed faults failedRead progress nrf52FwVer swd).swd.erases =
      swd.erases := by
  cases nrf52FwVer with
  | none => rfl
  | some word => exact readFwVerInto_erases faults failedRead word swd

/-- The code's own checks let the update begin. -/
structure Accepts (X : Externals) (faults : SwdFaults) (stack : Stack) (infoTxt : Option TextFile)
    (fat : FatFs) (swd : Swd) (info : Info) : Prop where
  read : readInfoTxt X stack infoTxt = some (some info)
  differs : ∃ fwVer, (readCurrentFwVer faults swd).1 = some fwVer ∧ fwVer ≠ info.fwVer
  checked : checkFirmware X fat info.segments 0 = true

/-- The flash is erased exactly if the checks let the update begin. -/
theorem updateFwStep3_erases {stack : Stack} {infoTxt : Option TextFile}
    {nrf52FwVer : Option UInt32} {out : UpdateOutcome}
    (h : updateFwStep3 X faults failedRead stack infoTxt fat nrf52FwVer swd = some out) :
    swd.erases < out.swd.erases ↔ ∃ info, Accepts X faults stack infoTxt fat swd info := by
  have hkeeps (heq : out.swd.erases = swd.erases)
      (hnot : ∀ info, ¬ Accepts X faults stack infoTxt fat swd info) :
      swd.erases < out.swd.erases ↔ ∃ info, Accepts X faults stack infoTxt fat swd info := by
    rw [heq]
    exact ⟨fun hlt => absurd hlt (Nat.lt_irrefl _), fun ⟨info, hinfo⟩ => absurd hinfo (hnot info)⟩
  unfold updateFwStep3 at h
  split at h
  case h_1 => cases h
  case h_2 hread =>
    obtain rfl := Option.some.inj h
    refine hkeeps rfl fun info hinfo => ?_
    have hsome := hread.symm.trans hinfo.read
    simp at hsome
  case h_3 info hread =>
    have hunique (info' : Info) (hinfo : Accepts X faults stack infoTxt fat swd info') :
        info' = info := by
      have hsome := hread.symm.trans hinfo.read
      exact (Option.some.inj (Option.some.inj hsome)).symm
    have hver := readFwVerInto_erases faults failedRead 0 swd
    split at h
    case h_1 word swd₁ hcur =>
      rw [hcur] at hver
      obtain rfl := Option.some.inj h
      refine hkeeps hver fun info' hinfo => ?_
      obtain ⟨fwVer, hfwVer, -⟩ := hinfo.differs
      rw [readFwVerInto_failed hcur] at hfwVer
      cases hfwVer
    case h_2 curFwVer swd₁ hcur =>
      rw [hcur] at hver
      have hcurFwVer := readFwVerInto_ok hcur
      dsimp only at h hver
      split_ifs at h with hsame hcheck
      · obtain rfl := Option.some.inj h
        refine hkeeps hver fun info' hinfo => ?_
        obtain ⟨fwVer, hfwVer, hne⟩ := hinfo.differs
        rw [hunique info' hinfo, ← hsame] at hne
        exact hne (Option.some.inj (hfwVer.symm.trans hcurFwVer))
      · obtain rfl := Option.some.inj h
        refine hkeeps ((updateFailed_erases ..).trans hver) fun info' hinfo => ?_
        have hchecked := hinfo.checked
        rw [hunique info' hinfo] at hchecked
        rw [hchecked] at hcheck
        cases hcheck
      · have haccepts : Accepts X faults stack infoTxt fat swd info :=
          ⟨hread, ⟨curFwVer, hcurFwVer, hsame⟩, by simpa using hcheck⟩
        have hlt := flashWriteFirmware_erases faults fat info swd₁
        rw [hver] at hlt
        refine ⟨fun _ => ⟨info, haccepts⟩, fun _ => ?_⟩
        split at h
        case h_1 p swd₂ hwrite =>
          obtain rfl := Option.some.inj h
          rw [hwrite] at hlt
          exact Nat.lt_of_lt_of_le hlt (updateFailed_erases ..).ge
        case h_2 p swd₂ hwrite =>
          have hreread := readFwVerInto_erases faults failedRead curFwVer swd₂
          obtain rfl := Option.some.inj h
          rw [hwrite] at hlt
          exact Nat.lt_of_lt_of_le hlt hreread.ge

/-- The gateway halts only in reading the text. -/
theorem updateFwStep3_ne_none {stack : Stack} {infoTxt : Option TextFile} {info : Info}
    {nrf52FwVer : Option UInt32} (h : readInfoTxt X stack infoTxt = some (some info)) :
    updateFwStep3 X faults failedRead stack infoTxt fat nrf52FwVer swd ≠ none := by
  unfold updateFwStep3
  rw [h]
  dsimp only
  split
  · simp
  · split_ifs
    · simp
    · simp
    · split <;> simp

end Erase

section Complete

variable (X : Externals) (faults : SwdFaults) (failedRead : ℕ → UInt32 → UInt32)

/-- The file of the segment exists and has the listed length and the listed CRC. -/
def Intact (fat : FatFs) (segment : Segment) : Prop :=
  ∃ data, fat.files segment.fileName.val = some data ∧ data.length = segment.size.toNat ∧
    X.crc32Le 0 data = segment.crc

/-- The text has a version line and lists segments, which are all intact. -/
def IsComplete (fat : FatFs) (content : Bytes) : Prop :=
  ∃ fwVer segments, listing X content = some (fwVer, segments) ∧ segments ≠ [] ∧
    ∀ segment ∈ segments, Intact X fat segment

/-- The flash is erased for a complete image only. -/
def ErasesForComplete (stack : Stack) (infoTxt : Option TextFile) (fat : FatFs)
    (nrf52FwVer : Option UInt32) (swd : Swd) : Prop :=
  ∀ out, updateFwStep3 X faults failedRead stack infoTxt fat nrf52FwVer swd = some out →
    swd.erases < out.swd.erases → ∃ fd, infoTxt = some fd ∧ IsComplete X fat fd.content

/-- What the checks of the text and of the segments that were read from it do not see. -/
inductive Gap (fat : FatFs) (content : Bytes) (info : Info) : Prop
  /-- There is no version line, or a line is no segment without the memory behind it, or the text
  is malformed behind a read error. -/
  | illFormed (h : listing X content = none)
  /-- There is nothing behind the version line. -/
  | noSegment (fwVer : UInt32) (h : listing X content = some (fwVer, []))
  /-- A file ends before the listed length. -/
  | short (fwVer : UInt32) (segments : List Segment) (segment : Segment) (data : Bytes)
      (h : listing X content = some (fwVer, segments)) (hlisted : segment ∈ segments)
      (hread : segment ∈ info.segments) (hdata : fat.files segment.fileName.val = some data)
      (hshort : data.length < segment.size.toNat)
  /-- A segment behind a read error is missing or damaged. -/
  | unread (fwVer : UInt32) (segments : List Segment) (segment : Segment)
      (h : listing X content = some (fwVer, segments)) (hlisted : segment ∈ segments)
      (hread : segment ∉ info.segments) (hdamaged : ¬ Intact X fat segment)

variable {X}

theorem segments_unique {content : Bytes} {fwVer fwVer' : UInt32}
    {segments segments' : List Segment}
    (h : listing X content = some (fwVer, segments))
    (h' : listing X content = some (fwVer', segments')) : segments = segments' :=
  congrArg Prod.snd (Option.some.inj (h.symm.trans h'))

theorem Gap.not_isComplete {fat : FatFs} {content : Bytes} {info : Info}
    (hgap : Gap X fat content info) : ¬ IsComplete X fat content := by
  rintro ⟨fwVer, segments, hlisting, hne, hintact⟩
  cases hgap with
  | illFormed h =>
    rw [h] at hlisting
    cases hlisting
  | noSegment fwVer' h =>
    exact hne (segments_unique h hlisting).symm
  | short fwVer' segments' segment data h hlisted hread hdata hshort =>
    rw [segments_unique h hlisting] at hlisted
    obtain ⟨data', hdata', hlen, -⟩ := hintact segment hlisted
    rw [Option.some.inj (hdata.symm.trans hdata')] at hshort
    omega
  | unread fwVer' segments' segment h hlisted hread hdamaged =>
    rw [segments_unique h hlisting] at hlisted
    exact hdamaged (hintact segment hlisted)

/-- The checks and the absence of a gap together make an image complete. -/
theorem isComplete_of_not_gap {fat : FatFs} {content : Bytes} {info : Info}
    (hchecked : ∀ segment ∈ info.segments, Checked X fat segment)
    (hgap : ¬ Gap X fat content info) : IsComplete X fat content := by
  cases hlisting : listing X content with
  | none => exact absurd (.illFormed hlisting) hgap
  | some listed =>
    obtain ⟨fwVer, segments⟩ := listed
    refine ⟨fwVer, segments, hlisting, ?_, ?_⟩
    · rintro rfl
      exact hgap (.noSegment fwVer hlisting)
    · intro segment hlisted
      by_cases hread : segment ∈ info.segments
      · obtain ⟨data, hdata, hle, hcrc⟩ := hchecked segment hread
        have hlong : ¬ data.length < segment.size.toNat := fun hshort =>
          hgap (.short fwVer segments segment data hlisting hlisted hread hdata hshort)
        exact ⟨data, hdata, by omega, hcrc⟩
      · by_contra hdamaged
        exact hgap (.unread fwVer segments segment hlisting hlisted hread hdamaged)

/-- If the text is read to its end and lists segments line by line, it is all the checks have missed
that there is none or that a file is too short. -/
theorem gap_iff_of_listing {stack : Stack} {fd : TextFile} {fat : FatFs} {info : Info}
    {fwVer : UInt32} {segments : List Segment}
    (hinfo : readInfoTxt X stack (some fd) = some (some info))
    (hread : fd.content.length ≤ fd.readable)
    (hlisting : listing X fd.content = some (fwVer, segments)) :
    Gap X fat fd.content info ↔ segments = [] ∨ ∃ segment ∈ segments, ∃ data,
      fat.files segment.fileName.val = some data ∧ data.length < segment.size.toNat := by
  have hall : info.segments = segments := by
    have hwhole : listing X (fd.content.take fd.readable) = some (fwVer, segments) := by
      rwa [List.take_of_length_le hread]
    exact (readInfoTxt_listing hinfo hwhole).2
  constructor
  · intro hgap
    cases hgap with
    | illFormed h =>
      rw [h] at hlisting
      cases hlisting
    | noSegment fwVer' h => exact Or.inl (segments_unique hlisting h)
    | short fwVer' segments' segment data h hlisted hmem hdata hshort =>
      rw [hall] at hmem
      exact Or.inr ⟨segment, hmem, data, hdata, hshort⟩
    | unread fwVer' segments' segment h hlisted hmem hdamaged =>
      rw [segments_unique h hlisting, ← hall] at hlisted
      exact absurd hlisted hmem
  · rintro (rfl | ⟨segment, hmem, data, hdata, hshort⟩)
    · exact .noSegment fwVer hlisting
    · exact .short fwVer segments segment data hlisting hmem (by rwa [hall]) hdata hshort

end Complete

section Samples

def crcBit (crc : UInt32) : UInt32 :=
  if crc &&& 1 = 1 then (crc >>> 1) ^^^ 0xedb88320 else crc >>> 1

def crcByte (crc : UInt32) (byte : UInt8) : UInt32 := crcBit^[8] (crc ^^^ byte.toUInt32)

/-- CRC-32 with the reflected polynomial, inverted before and after. -/
def sampleCrc32Le (crc : UInt32) (bytes : Bytes) : UInt32 := ~~~ bytes.foldl crcByte (~~~ crc)

def digitOf (c : UInt8) : ℕ :=
  if 48 ≤ c ∧ c ≤ 57 then c.toNat - 48
  else if 97 ≤ c ∧ c ≤ 102 then c.toNat - 87
  else if 65 ≤ c ∧ c ≤ 70 then c.toNat - 55
  else 16

/-- Numbers without a sign, as `strtoul` reads them. -/
def sampleStrToUint32Cptr (s : Bytes) (base : ℕ) : UInt32 × ℕ :=
  let blanks := (s.takeWhile isBlank).length
  let s := s.drop blanks
  let hex : Bool := base ≠ 10 ∧ s.take 2 = ascii "0x"
  let radix := if hex then 16 else if base = 0 then 10 else base
  let skipped := if hex then 2 else 0
  let digits := (s.drop skipped).takeWhile fun c => digitOf c < radix
  if digits.isEmpty then (0, 0)
  else (UInt32.ofNat (digits.foldl (fun n c => radix * n + digitOf c) 0),
    blanks + skipped + digits.length)

def sampleExternals : Externals := ⟨sampleStrToUint32Cptr, sampleCrc32Le⟩

theorem crcLaw_sample : CrcLaw sampleExternals where
  nil := by
    intro crc
    simp [sampleExternals, sampleCrc32Le]
  append := by
    intro crc bytes bytes'
    simp [sampleExternals, sampleCrc32Le, List.foldl_append]

def sampleStack : Stack := ⟨List.replicate lineBufSize 0, List.length_replicate .., []⟩

def sampleFile : Bytes := [1, 2, 3, 4]

def sampleFatFs : FatFs := sampleFat sampleFile rfl

def sampleSwd : Swd := ⟨fun _ => 0xff, []⟩

def sampleUpdateFwStep3 (content : Bytes) : Option UpdateOutcome :=
  updateFwStep3 sampleExternals (fun _ => none) (fun _ word => word) sampleStack
    (some ⟨content, content.length⟩) sampleFatFs none sampleSwd

def sampleInfoTxt : Bytes := ascii "# v1.0.0\n0x1000 4 app.bin 0xb63cfbcd\n"

def sampleSegment : Segment := ⟨0x1000, 4, .snprintf _ (ascii "app.bin"), 0xb63cfbcd⟩

theorem listing_sample :
    listing sampleExternals sampleInfoTxt = some (0x01000000, [sampleSegment]) := by
  decide +kernel

end Samples

end RuuviGateway.Nrf52Fw
