import RuuviGateway.Nrf52Fw.Flash

/-!
# The image that an update leaves

A successful update leaves every segment in the flash as its file has it, apart from a blank version
word, which the updater fills in. Besides the listed ranges only the version word is written, and no
more is reported as flashed than there is to flash.
-/

namespace RuuviGateway.Nrf52Fw

open General

section Progress

variable {faults : SwdFaults} {fat : FatFs} {p p' : ProgressInfo} {swd swd' : Swd} {ok : Bool}

/-- The progress after `n` more bytes: what was reported lies between the counts before and after.
-/
structure ProgressInfo.Advances (p p' : ProgressInfo) (n : ℕ) : Prop where
  accum : p'.accumNumBytesFlashed = p.accumNumBytesFlashed + UInt32.ofNat n
  total : p'.totalSize = p.totalSize
  reports : ∃ new, p'.reports = p.reports ++ new ∧ ∀ r ∈ new, r.2 = p.totalSize ∧
    ∃ k ≤ n, r.1 = p.accumNumBytesFlashed + UInt32.ofNat k

theorem advances_zero (p : ProgressInfo) : p.Advances p 0 where
  accum := by simp
  total := rfl
  reports := ⟨[], by simp, by simp⟩

theorem advances_add (p : ProgressInfo) (n : ℕ) : p.Advances (p.add n) n where
  accum := rfl
  total := rfl
  reports := by
    refine ⟨[(p.accumNumBytesFlashed + UInt32.ofNat n, p.totalSize)], rfl, ?_⟩
    intro r hr
    rw [List.mem_singleton.mp hr]
    exact ⟨rfl, n, Nat.le_refl n, rfl⟩

theorem ProgressInfo.Advances.trans {p'' : ProgressInfo} {n n' : ℕ} (h : p.Advances p' n)
    (h' : p'.Advances p'' n') : p.Advances p'' (n + n') where
  accum := by rw [h'.accum, h.accum, UInt32.ofNat_add, UInt32.add_assoc]
  total := h'.total.trans h.total
  reports := by
    obtain ⟨new, hreports, hnew⟩ := h.reports
    obtain ⟨new', hreports', hnew'⟩ := h'.reports
    refine ⟨new ++ new', by rw [hreports', hreports, List.append_assoc], ?_⟩
    intro r hr
    rcases List.mem_append.mp hr with hr | hr
    · obtain ⟨htotal, k, hk, haccum⟩ := hnew r hr
      exact ⟨htotal, k, by omega, haccum⟩
    · obtain ⟨htotal, k, hk, haccum⟩ := hnew' r hr
      refine ⟨htotal.trans h.total, n + k, by omega, ?_⟩
      rw [haccum, h.accum, UInt32.ofNat_add, UInt32.add_assoc]

/-- A block is reported after it was found to fit, so the count stays within the segment whether or
not the segment is written to its end. -/
theorem flashWriteSegment_advances {addr len : UInt32} {error : Bool} {blocks : List Bytes}
    (written : ℕ)
    (h : flashWriteSegment faults addr len error blocks (UInt32.ofNat written) p swd =
      (ok, p', swd'))
    (hsmall : written + blocks.flatten.length < 2 ^ 32) (hlen : written ≤ len.toNat) :
    ∃ n, written + n ≤ len.toNat ∧ p.Advances p' n := by
  induction blocks generalizing written p swd with
  | nil =>
    simp only [flashWriteSegment, Prod.mk.injEq] at h
    obtain ⟨-, rfl, -⟩ := h
    exact ⟨0, hlen, advances_zero p⟩
  | cons block blocks ih =>
    rw [List.flatten_cons, List.length_append, ← Nat.add_assoc] at hsmall
    rw [flashWriteSegment] at h
    split at h
    case h_1 =>
      simp only [Prod.mk.injEq] at h
      obtain ⟨-, rfl, -⟩ := h
      exact ⟨0, hlen, advances_zero p⟩
    case h_2 offset swd₁ hblock =>
      obtain ⟨hoffset, hle, -⟩ := flashWriteBlock_ok hblock
      rw [← UInt32.ofNat_add] at hoffset
      rw [hoffset] at h
      rw [hoffset, UInt32.le_iff_toNat_le, WordMemory.toNat_ofNat_of_lt (by omega)] at hle
      obtain ⟨n, hn, hadvances⟩ := ih _ h hsmall hle
      exact ⟨block.length + n, by omega, (advances_add p block.length).trans hadvances⟩

theorem writeSegmentFromFile_advances {i : ℕ} {segment : Segment}
    (h : writeSegmentFromFile faults fat i segment p swd = (ok, p', swd')) :
    ∃ n ≤ segment.size.toNat, p.Advances p' n := by
  unfold writeSegmentFromFile at h
  split at h
  case h_1 =>
    simp only [Prod.mk.injEq] at h
    obtain ⟨-, rfl, -⟩ := h
    exact ⟨0, Nat.zero_le _, advances_zero p⟩
  case h_2 blocks error hopen =>
    obtain ⟨data, -, hsmall, hprefix, -⟩ := FatFs.open_ok hopen
    have hlen := hprefix.length_le
    obtain ⟨n, hn, hadvances⟩ := flashWriteSegment_advances 0 h (by omega)
      (Nat.zero_le _)
    exact ⟨n, by omega, hadvances⟩

theorem writeSegments_advances {segments : List Segment} {i : ℕ}
    (h : writeSegments faults fat segments i p swd = (ok, p', swd')) :
    ∃ n ≤ (segments.map fun segment => segment.size.toNat).sum, p.Advances p' n := by
  induction segments generalizing i p swd with
  | nil =>
    simp only [writeSegments, Prod.mk.injEq] at h
    obtain ⟨-, rfl, -⟩ := h
    exact ⟨0, Nat.zero_le _, advances_zero p⟩
  | cons segment segments ih =>
    rw [List.map_cons, List.sum_cons]
    rw [writeSegments] at h
    split at h
    case h_1 p₁ swd₁ hsegment =>
      simp only [Prod.mk.injEq] at h
      obtain ⟨-, rfl, -⟩ := h
      obtain ⟨n, hn, hadvances⟩ := writeSegmentFromFile_advances hsegment
      exact ⟨n, by omega, hadvances⟩
    case h_2 p₁ swd₁ hsegment =>
      obtain ⟨n, hn, hadvances⟩ := writeSegmentFromFile_advances hsegment
      obtain ⟨n', hn', hadvances'⟩ := ih h
      exact ⟨n + n', by omega, hadvances.trans hadvances'⟩

theorem flashWriteFirmware_advances (faults : SwdFaults) (fat : FatFs) (info : Info) (swd : Swd) :
    ∃ n ≤ (info.segments.map fun segment => segment.size.toNat).sum,
      (⟨0, totalSizeOf info.segments, []⟩ : ProgressInfo).Advances
        (flashWriteFirmware faults fat info swd).2.1 n := by
  unfold flashWriteFirmware
  dsimp only
  split
  case h_1 => exact ⟨0, Nat.zero_le _, advances_zero _⟩
  case h_2 =>
    split
    case h_1 p swd₁ hwrite => exact writeSegments_advances hwrite
    case h_2 p swd₁ hwrite =>
      split
      case h_1 => exact writeSegments_advances hwrite
      case h_2 =>
        split_ifs
        · exact writeSegments_advances hwrite
        · exact writeSegments_advances hwrite

end Progress

section Ranges

/-- The segments of the list do not overlap. -/
def Apart (segments : List Segment) : Prop :=
  segments.Pairwise fun segment segment' => ∀ x, segment.Covers x → ¬ segment'.Covers x

/-- The addresses of a segment do not wrap around. -/
def Segment.NoWrap (segment : Segment) : Prop := segment.address.toNat + segment.size.toNat < 2 ^ 32

theorem Segment.NoWrap.covers {segment : Segment} (h : segment.NoWrap) {k : ℕ}
    (hk : k ∈ rangeOf (segment.address.toNat, segment.size.toNat)) :
    segment.Covers (UInt32.ofNat k) := by
  obtain ⟨hle, hlt⟩ := Finset.mem_Ico.mp hk
  have haddr := segment.address.toNat_lt
  unfold NoWrap at h
  dsimp only at hle hlt
  rw [Covers, UInt32.toNat_sub, WordMemory.toNat_ofNat_of_lt (by omega)]
  omega

theorem sum_size_lt {segments : List Segment} (hapart : Apart segments)
    (hwrap : ∀ segment ∈ segments, segment.NoWrap) :
    (segments.map fun segment => segment.size.toNat).sum < 2 ^ 32 := by
  have hdisjoint : (segments.map fun s => (s.address.toNat, s.size.toNat)).Pairwise fun r r' =>
      ∀ x ∈ rangeOf r, x ∉ rangeOf r' := by
    rw [List.pairwise_map]
    refine List.Pairwise.imp_of_mem ?_ hapart
    intro segment segment' hmem hmem' hnot k hk hk'
    exact hnot _ ((hwrap segment hmem).covers hk) ((hwrap segment' hmem').covers hk')
  have hsum := sum_le_of_pairwise_disjoint (n := 2 ^ 32 - 1) hdisjoint (by
    intro r hr
    obtain ⟨segment, hmem, rfl⟩ := List.mem_map.mp hr
    have hlt := hwrap segment hmem
    unfold Segment.NoWrap at hlt
    dsimp only
    omega)
  rw [List.map_map] at hsum
  exact Nat.lt_of_le_of_lt hsum (by decide)

theorem totalSizeOf_eq (segments : List Segment) :
    totalSizeOf segments = UInt32.ofNat (segments.map fun segment => segment.size.toNat).sum := by
  have hacc (total : UInt32) : segments.foldl (fun total segment => total + segment.size) total =
      total + UInt32.ofNat (segments.map fun segment => segment.size.toNat).sum := by
    induction segments generalizing total with
    | nil => simp
    | cons segment segments ih =>
      rw [List.foldl_cons, ih, List.map_cons, List.sum_cons, UInt32.ofNat_add, UInt32.ofNat_toNat,
        UInt32.add_assoc]
  rw [totalSizeOf, hacc, UInt32.zero_add]

end Ranges

section Image

variable {faults : SwdFaults} {fat : FatFs} {info : Info} {images : List (Segment × Bytes)}
  {flash : Flash} {x : UInt32}

theorem programmed_of_not_covered (himages : ∀ image ∈ images, IsImage fat image)
    (h : ∀ image ∈ images, ¬ image.1.Covers x) : programmed images flash x = flash x := by
  induction images generalizing flash with
  | nil => rfl
  | cons image images ih =>
    rw [List.forall_mem_cons] at himages h
    have hout := Nat.not_lt.mp h.1
    have hlen := himages.1.2
    calc programmed (image :: images) flash x
        = programmed images (flash.write image.1.address image.2) x := rfl
      _ = flash.write image.1.address image.2 x := ih himages.2 h.2
      _ = flash x := WordMemory.write_of_outside _ _ _ _ (hlen.trans hout)

/-- Images that do not overlap are all in the flash in the end. -/
theorem programmed_of_mem (himages : ∀ image ∈ images, IsImage fat image)
    (hapart : Apart (images.map Prod.fst)) {image : Segment × Bytes} (hmem : image ∈ images) {i : ℕ}
    (hi : i < image.2.length) (hsmall : image.2.length ≤ 2 ^ 32) :
    programmed images flash (image.1.address + UInt32.ofNat i) = image.2[i] := by
  have hsub : (image.1.address + UInt32.ofNat i - image.1.address).toNat = i :=
    WordMemory.toNat_add_sub _ (by omega)
  induction images generalizing flash with
  | nil => cases hmem
  | cons first images ih =>
    rw [List.map_cons, Apart, List.pairwise_cons] at hapart
    rw [List.forall_mem_cons] at himages
    rcases List.mem_cons.mp hmem with rfl | hmem
    · have hcovers : image.1.Covers (image.1.address + UInt32.ofNat i) := by
        rw [Segment.Covers, hsub]
        exact Nat.lt_of_lt_of_le hi himages.1.2
      calc programmed (image :: images) flash (image.1.address + UInt32.ofNat i)
          = flash.write image.1.address image.2 (image.1.address + UInt32.ofNat i) :=
            programmed_of_not_covered himages.2 fun image' hmem' =>
              hapart.1 image'.1 (List.mem_map_of_mem hmem') _ hcovers
        _ = image.2[i] := by
            rw [WordMemory.write_of_inside _ _ _ _ (by rwa [hsub])]
            simp only [hsub]
    · exact ih himages.2 hapart.2 hmem

/-- The cells of the version word. -/
def VersionCell (x : UInt32) : Prop := (x - uicrFwVer).toNat < 4

theorem wordOfBytes_blank {bytes : Bytes} (hlen : bytes.length = 4)
    (h : wordOfBytes bytes = 0xffffffff) : ∀ b ∈ bytes, b = 0xff := by
  obtain ⟨b₀, b₁, b₂, b₃, rfl⟩ := List.length_eq_four.mp hlen
  have h₀ := b₀.toNat_lt
  have h₁ := b₁.toNat_lt
  have h₂ := b₂.toNat_lt
  have h₃ := b₃.toNat_lt
  have hword := congrArg UInt32.toNat h
  have hmax : (0xffffffff : UInt32).toNat = 2 ^ 32 - 1 := rfl
  rw [wordOfBytes, UInt32.toNat_ofNat', hmax] at hword
  simp only [List.foldr_cons, List.foldr_nil] at hword
  have hbyte {b : UInt8} (hb : b.toNat = 255) : b = 0xff := UInt8.toNat_inj.mp hb
  simp only [List.forall_mem_cons, List.not_mem_nil, false_implies, implies_true, and_true]
  exact ⟨hbyte (by omega), hbyte (by omega), hbyte (by omega), hbyte (by omega)⟩

theorem blank_of_versionCell (h : wordOfBytes (flash.read uicrFwVer 4) = 0xffffffff)
    (hx : VersionCell x) : flash x = 0xff := by
  have hi : (x - uicrFwVer).toNat < (flash.read uicrFwVer 4).length := by
    rw [WordMemory.length_read]
    exact hx
  have hcell := wordOfBytes_blank (WordMemory.length_read _ _ _) h _ (List.getElem_mem hi)
  rwa [WordMemory.getElem_read, UInt32.ofNat_toNat, UInt32.add_comm, UInt32.sub_add_cancel] at hcell

/-- What an update has left when it succeeds. -/
structure LeavesImage (fat : FatFs) (info : Info) (swd swd' : Swd) : Prop where
  /-- The file of each segment is in the flash, apart from a blank version word. -/
  image : ∀ segment ∈ info.segments, ∃ data, fat.files segment.fileName.val = some data ∧
    data.length ≤ segment.size.toNat ∧ ∀ i (hi : i < data.length),
      swd'.flash (segment.address + UInt32.ofNat i) = data[i] ∨
        VersionCell (segment.address + UInt32.ofNat i) ∧ data[i] = 0xff
  /-- The erase is followed by writes to the listed ranges and the version word only. -/
  writes : ∃ new, swd'.calls = new ++ .eraseAll :: swd.calls ∧
    ∀ c ∈ new, c.Within fun x => VersionCell x ∨ ∃ segment ∈ info.segments, segment.Covers x
  version : wordOfBytes (swd'.flash.read uicrFwVer 4) = info.fwVer

/-- The calls and the flash of an update that succeeds. -/
theorem flashWriteFirmware_ok {swd : Swd}
    (h : (flashWriteFirmware faults fat info swd).1 = true) :
    ∃ swd₁ : Swd, (∃ p, writeSegments faults fat info.segments 0
        ⟨0, totalSizeOf info.segments, []⟩ ⟨fun _ => 0xff, .eraseAll :: swd.calls⟩ =
          (true, p, swd₁)) ∧
      (wordOfBytes (swd₁.flash.read uicrFwVer 4) = 0xffffffff ∧
          (flashWriteFirmware faults fat info swd).2.2 =
            ⟨swd₁.flash.write uicrFwVer (bytesOfWord info.fwVer),
              .writeMem uicrFwVer (bytesOfWord info.fwVer) :: .readMem uicrFwVer 1 ::
                swd₁.calls⟩ ∨
        wordOfBytes (swd₁.flash.read uicrFwVer 4) = info.fwVer ∧
          (flashWriteFirmware faults fat info swd).2.2 =
            ⟨swd₁.flash, .readMem uicrFwVer 1 :: swd₁.calls⟩) := by
  unfold flashWriteFirmware at h ⊢
  dsimp only at h ⊢
  split at h
  case h_1 => cases h
  case h_2 swd₀ herase =>
    have herased := call_ok herase
    split at h
    case h_1 => cases h
    case h_2 p swd₁ hwrite =>
      rw [herased] at hwrite
      refine ⟨swd₁, ⟨p, hwrite⟩, ?_⟩
      split at h
      case h_1 => cases h
      case h_2 fwVer swd₂ hread =>
        obtain ⟨rfl, rfl⟩ := readCurrentFwVer_ok hread
        split_ifs at h ⊢ with hblank
        · left
          exact ⟨hblank, call_ok (Prod.ext h rfl)⟩
        · right
          exact ⟨of_decide_eq_true h, rfl⟩

theorem LeavesImage.of_written {swd swd₁ swd' : Swd} {p : ProgressInfo}
    (hapart : Apart info.segments)
    (hwrite : writeSegments faults fat info.segments 0 ⟨0, totalSizeOf info.segments, []⟩
      ⟨fun _ => 0xff, .eraseAll :: swd.calls⟩ = (true, p, swd₁))
    (hflash : ∀ x, swd'.flash x = swd₁.flash x ∨ VersionCell x ∧ swd₁.flash x = 0xff)
    (hcalls : WritesOnly VersionCell swd₁.calls swd'.calls)
    (hversion : wordOfBytes (swd'.flash.read uicrFwVer 4) = info.fwVer) :
    LeavesImage fat info swd swd' where
  image := by
    intro segment hmem
    obtain ⟨images, hsegments, himages, hprogrammed, -⟩ := writeSegments_ok hwrite
    rw [← hsegments] at hmem hapart
    obtain ⟨image, himage, rfl⟩ := List.mem_map.mp hmem
    obtain ⟨hdata, hlen⟩ := himages image himage
    refine ⟨image.2, hdata, hlen, ?_⟩
    intro i hi
    have hcell : swd₁.flash (image.1.address + UInt32.ofNat i) = image.2[i] := by
      rw [hprogrammed]
      exact programmed_of_mem himages hapart himage hi (hlen.trans image.1.size.toNat_lt.le)
    rw [← hcell]
    exact hflash _
  writes := by
    obtain ⟨-, -, -, -, hsegments⟩ := writeSegments_ok hwrite
    exact (hsegments.mono fun x hx => Or.inr hx).trans (hcalls.mono fun x hx => Or.inl hx)
  version := hversion

/-- Whatever fails, no more is reported than there is to flash, and an update that succeeds leaves
the image, the version and nothing else. -/
theorem flashWriteFirmware_leavesImage (faults : SwdFaults) (fat : FatFs) (info : Info) (swd : Swd)
    (hapart : Apart info.segments) (hwrap : ∀ segment ∈ info.segments, segment.NoWrap) :
    (∀ r ∈ (flashWriteFirmware faults fat info swd).2.1.reports,
        r.1 ≤ r.2 ∧ r.2 = totalSizeOf info.segments) ∧
      ((flashWriteFirmware faults fat info swd).1 = true →
        LeavesImage fat info swd (flashWriteFirmware faults fat info swd).2.2) := by
  constructor
  · obtain ⟨n, hn, hadvances⟩ := flashWriteFirmware_advances faults fat info swd
    have hsum := sum_size_lt hapart hwrap
    obtain ⟨new, hreports, hnew⟩ := hadvances.reports
    intro r hr
    rw [hreports, List.nil_append] at hr
    obtain ⟨htotal, k, hk, haccum⟩ := hnew r hr
    refine ⟨?_, htotal⟩
    rw [htotal, haccum, totalSizeOf_eq, UInt32.zero_add, UInt32.le_iff_toNat_le,
      WordMemory.toNat_ofNat_of_lt hsum, WordMemory.toNat_ofNat_of_lt (by omega)]
    omega
  · intro hok
    obtain ⟨swd₁, ⟨p, hwrite⟩, ⟨hblank, hswd'⟩ | ⟨hversion, hswd'⟩⟩ := flashWriteFirmware_ok hok
    · rw [hswd']
      refine .of_written hapart hwrite ?_ ⟨[_, _], rfl, ?_⟩ ?_
      · intro x
        by_cases hx : VersionCell x
        · exact Or.inr ⟨hx, blank_of_versionCell hblank hx⟩
        · exact Or.inl (WordMemory.write_of_outside _ _ _ _ (Nat.not_lt.mp hx))
      · rw [List.forall_mem_cons, List.forall_mem_singleton]
        exact ⟨fun x hx => hx, trivial⟩
      · calc wordOfBytes ((swd₁.flash.write uicrFwVer (bytesOfWord info.fwVer)).read uicrFwVer 4)
            = wordOfBytes (bytesOfWord info.fwVer) :=
              congrArg wordOfBytes (WordMemory.read_write _ _ (bytesOfWord info.fwVer)
                (by simp [bytesOfWord]))
          _ = info.fwVer := wordOfBytes_bytesOfWord _
    · rw [hswd']
      refine .of_written hapart hwrite (fun x => Or.inl rfl) ⟨[_], rfl, ?_⟩ hversion
      rw [List.forall_mem_singleton]
      trivial

end Image

section Samples

/-- Version 1.0.0 with one segment at the address. -/
def sampleInfo (address : UInt32) : Info :=
  ⟨0x01000000, [⟨address, 4, .snprintf _ (ascii "app.bin"), 0⟩], Nat.succ_le_succ (Nat.zero_le _)⟩

def sampleUpdate (address : UInt32) (data : Bytes) (h : data.length = 4) :
    Bool × ProgressInfo × Swd :=
  flashWriteFirmware (fun _ => none) (sampleFat data h) (sampleInfo address) ⟨fun _ => 0, []⟩

theorem flashWriteFirmware_leavesImage_sample :
    (sampleUpdate 0x1000 [1, 2, 3, 4] rfl).1 = true ∧
      LeavesImage (sampleFat [1, 2, 3, 4] rfl) (sampleInfo 0x1000) ⟨fun _ => 0, []⟩
        (sampleUpdate 0x1000 [1, 2, 3, 4] rfl).2.2 := by
  have hok : (sampleUpdate 0x1000 [1, 2, 3, 4] rfl).1 = true := by decide
  have himage := flashWriteFirmware_leavesImage (fun _ => none) (sampleFat [1, 2, 3, 4] rfl)
    (sampleInfo 0x1000) ⟨fun _ => 0, []⟩ (List.pairwise_singleton _ _)
    (List.forall_mem_singleton.mpr (by unfold Segment.NoWrap; decide))
  exact ⟨hok, himage.2 hok⟩

/-- A blank version word of the image is filled in. -/
theorem flashWriteFirmware_fillsVersion : ¬ ∀ (faults : SwdFaults) (fat : FatFs) (info : Info)
    (swd : Swd), Apart info.segments → (∀ segment ∈ info.segments, segment.NoWrap) →
      (flashWriteFirmware faults fat info swd).1 = true →
        ∀ segment ∈ info.segments, ∃ data, fat.files segment.fileName.val = some data ∧
          (flashWriteFirmware faults fat info swd).2.2.flash.read segment.address data.length =
            data := by
  intro hall
  have hfilled := hall (fun _ => none) (sampleFat [0xff, 0xff, 0xff, 0xff] rfl)
    (sampleInfo uicrFwVer) ⟨fun _ => 0, []⟩ (List.pairwise_singleton _ _)
    (List.forall_mem_singleton.mpr (by unfold Segment.NoWrap; decide)) (by decide) _
    List.mem_cons_self
  obtain ⟨data, hdata, hread⟩ := hfilled
  have hfile : data = [0xff, 0xff, 0xff, 0xff] := (Option.some.inj hdata).symm
  rw [hfile] at hread
  revert hread
  decide

end Samples

end RuuviGateway.Nrf52Fw
