import RuuviGateway.General.NumberParts
import RuuviGateway.Nrf52Fw.Info

/-!
# The line of a segment

A line is an address, a size, a file name and a checksum with blanks between them. The parser
converts the numbers with `strtoul`, so it takes more than plain numbers, and it looks for the end
of the file name behind the end of a line that has no blank there. -/

namespace RuuviGateway.Nrf52Fw

open General

section Fields

def startsBlank : Bytes → Bool
  | [] => false
  | c :: _ => isBlank c

def IsGap (gap : Bytes) : Prop := gap ≠ [] ∧ ∀ c ∈ gap, isBlank c = true

instance (gap : Bytes) : Decidable (IsGap gap) := inferInstanceAs (Decidable (_ ∧ _))

/-- The text begins with a field and blanks, and the rest does not begin with a blank. -/
def Field (t field rest : Bytes) : Prop :=
  (∃ gap, IsGap gap ∧ t = field ++ (gap ++ rest)) ∧ startsBlank rest = false

structure LineFields (line address size fileName crc : Bytes) : Prop where
  split : ∃ rest1 rest2, Field line address rest1 ∧ Field rest1 size rest2 ∧
    Field rest2 fileName crc
  noBlank : ∀ c ∈ fileName, isBlank c = false
  length : fileName.length < segmentFileNameSize

/-- The line is HEXADDR, NUMBER, NAME and HEXCRC with these values. -/
def SegmentLine (line : Bytes) (segment : Segment) : Prop :=
  ∃ address size fileName crc, LineFields line address size fileName crc ∧
    IsPlain 16 address ∧ IsPlain 0 size ∧ IsPlain 16 crc ∧
    segment = ⟨plainValue 16 address, plainValue 0 size, .snprintf _ fileName, plainValue 16 crc⟩

end Fields

section Parser

/-- The conversion behaves as `strtoul` with an end pointer. -/
def strtoulExternals (crc32Le : UInt32 → Bytes → UInt32) : Externals where
  osStrToUint32Cptr s base := ((strtoul s base).1, s.length - (strtoul s base).2.length)
  crc32Le := crc32Le

/-- The result of the parser and the segment that it leaves behind. It is absent if the parser reads
behind the memory. -/
def parseSegmentInfoLineInto (X : Externals) (mem : Bytes) (segment : Segment) :
    Option (Bool × Segment) :=
  match parseSegmentInfoLine X mem with
  | .ok parsed => some (true, parsed)
  | .error .rejected => some (false, segment)
  | .error .halted => none

theorem parseSegmentInfoLineInto_ok {X : Externals} {mem : Bytes} {parsed : Segment}
    (h : parseSegmentInfoLine X mem = .ok parsed) (segment : Segment) :
    parseSegmentInfoLineInto X mem segment = some (true, parsed) := by
  rw [parseSegmentInfoLineInto, h]

variable {crc32Le : UInt32 → Bytes → UInt32} {t : Bytes} {base : ℕ}

theorem toNat_lt_of_isBlank {c : UInt8} (h : isBlank c = true) : c.toNat < 48 := by
  simp only [isBlank, Bool.or_eq_true, beq_iff_eq] at h
  rcases h with rfl | rfl <;> decide

theorem isSpace_of_isBlank {c : UInt8} (h : isBlank c = true) : isSpace c = true := by
  simp only [isBlank, Bool.or_eq_true, beq_iff_eq] at h
  rcases h with rfl | rfl <;> decide

theorem parseNumber_strtoul (h : 0 ∉ t) :
    parseNumber (strtoulExternals crc32Le) base (t ++ [0]) =
      ((strtoul t base).1, (strtoul t base).2 ++ [0]) := by
  obtain ⟨pre, hpre⟩ := strtoul_suffix t base
  simp only [parseNumber, cstr_append_nul h, strtoulExternals]
  generalize strtoul t base = r at hpre ⊢
  rw [← hpre, List.length_append, Nat.add_sub_cancel, List.append_assoc, List.drop_left]

theorem dropWhile_append_nul {p : UInt8 → Bool} (hp : p 0 = false) (s : Bytes) :
    (s ++ [0]).dropWhile p = s.dropWhile p ++ [0] := by
  rw [List.dropWhile_append]
  split_ifs with hnil
  · rw [List.isEmpty_iff.mp hnil, List.dropWhile_cons_of_neg (by simp [hp])]
    rfl
  · rfl

/-- A number and the blanks behind it, as they stand in the text. -/
theorem parseNumberThenBlanks_eq (h : 0 ∉ t) :
    parseNumberThenBlanks (strtoulExternals crc32Le) base (t ++ [0]) =
      if startsBlank (strtoul t base).2 then
        .ok ((strtoul t base).1, (strtoul t base).2.dropWhile isBlank ++ [0])
      else .error .rejected := by
  rw [parseNumberThenBlanks, parseNumber_strtoul h]
  cases (strtoul t base).2 with
  | nil => rfl
  | cons c rest =>
    simp only [List.cons_append, startsBlank]
    rw [← List.cons_append, dropWhile_append_nul (by decide)]
    rfl

theorem startsBlank_gap {gap rest : Bytes} (h : IsGap gap) (hrest : startsBlank rest = false) :
    startsBlank (gap ++ rest) = true ∧ (gap ++ rest).dropWhile isBlank = rest := by
  obtain ⟨hne, hgap⟩ := h
  constructor
  · cases gap with
    | nil => exact absurd rfl hne
    | cons c gap => exact hgap c List.mem_cons_self
  · rw [List.dropWhile_append_of_pos hgap]
    cases rest with
    | nil => rfl
    | cons c rest => exact List.dropWhile_cons_of_neg (by simpa [startsBlank] using hrest)

theorem startsBlank_dropWhile (s : Bytes) : startsBlank (s.dropWhile isBlank) = false := by
  have hhead := List.head?_dropWhile_not isBlank s
  cases hdrop : s.dropWhile isBlank with
  | nil => rfl
  | cons c r =>
    rw [hdrop] at hhead
    exact hhead

theorem field_of_startsBlank {field r : Bytes} (ht : t = field ++ r) (hr : startsBlank r = true) :
    Field t field (r.dropWhile isBlank) := by
  refine ⟨⟨r.takeWhile isBlank, ⟨?_, fun c hc => List.mem_takeWhile_imp hc⟩, ?_⟩,
    startsBlank_dropWhile r⟩
  · cases r with
    | nil => cases hr
    | cons c r =>
      have hc : isBlank c = true := hr
      rw [List.takeWhile_cons_of_pos hc]
      exact List.cons_ne_nil _ _
  · rw [List.takeWhile_append_dropWhile]
    exact ht

/-- What the conversion leaves of a text that begins with a number as a field. -/
theorem strtoul_of_field {field rest : Bytes} (hfield : Field t field rest)
    (hnumber : Denotes base field) :
    (strtoul t base).1 = (strtoul field base).1 ∧ t = field ++ (strtoul t base).2 ∧
      startsBlank (strtoul t base).2 = true ∧ (strtoul t base).2.dropWhile isBlank = rest := by
  obtain ⟨⟨gap, hgap, rfl⟩, hrest⟩ := hfield
  have hhead : ∀ c, (gap ++ rest).head? = some c → c.toNat < 48 := by
    intro c hc
    obtain ⟨hne, hblank⟩ := hgap
    cases gap with
    | nil => exact absurd rfl hne
    | cons b gap =>
      obtain rfl := Option.some.inj hc
      exact toNat_lt_of_isBlank (hblank b List.mem_cons_self)
  rw [hnumber.strtoul_append hhead]
  exact ⟨rfl, rfl, startsBlank_gap hgap hrest⟩

/-- A field that is a number is taken, with the blanks behind it. -/
theorem parseNumberThenBlanks_field (h : 0 ∉ t) {field rest : Bytes} (hfield : Field t field rest)
    (hnumber : Denotes base field) :
    parseNumberThenBlanks (strtoulExternals crc32Le) base (t ++ [0]) =
      .ok ((strtoul field base).1, rest ++ [0]) := by
  obtain ⟨hvalue, -, hblank, hdrop⟩ := strtoul_of_field hfield hnumber
  rw [parseNumberThenBlanks_eq h, if_pos hblank, hvalue, hdrop]

/-- The search for the end of the file name stays in the line if there is a blank. -/
theorem parseFileName_eq (t : Bytes) :
    parseFileName (t ++ [0]) =
      if ∃ c ∈ t, isBlank c = true then
        if (t.takeWhile fun c => !isBlank c).length < segmentFileNameSize then
          .ok (t.takeWhile fun c => !isBlank c, (t.dropWhile fun c => !isBlank c) ++ [0])
        else .error .rejected
      else .error .halted := by
  rw [parseFileName]
  by_cases hblank : ∃ c ∈ t, isBlank c = true
  · have hdrop : t.dropWhile (fun c => !isBlank c) ≠ [] := by
      rw [Ne, List.dropWhile_eq_nil_iff]
      obtain ⟨c, hc, hc'⟩ := hblank
      intro hall
      have := hall c hc
      rw [hc'] at this
      cases this
    obtain ⟨hdrop', htake⟩ := dropWhile_append_of_ne_nil [0] hdrop
    rw [if_pos hblank, hdrop', htake, if_neg (by simp)]
    by_cases hlen : (t.takeWhile fun c => !isBlank c).length < segmentFileNameSize
    · rw [if_pos hlen, if_neg (Nat.not_le.mpr hlen)]
    · rw [if_neg hlen, if_pos (Nat.not_lt.mp hlen)]
  · have hdrop : (t ++ [0]).dropWhile (fun c => !isBlank c) = [] := by
      rw [List.dropWhile_eq_nil_iff]
      intro c hc
      rcases List.mem_append.mp hc with hc | hc
      · rw [Bool.not_eq_true']
        exact Bool.eq_false_of_not_eq_true fun h => hblank ⟨c, hc, h⟩
      · rw [List.mem_singleton.mp hc]
        rfl
    rw [if_neg hblank, hdrop, List.isEmpty_nil, if_pos rfl]

theorem parseNumberAtEnd_eq (h : 0 ∉ t) :
    parseNumberAtEnd (strtoulExternals crc32Le) base (t ++ [0]) =
      if (strtoul t base).2 = [] then .ok (strtoul t base).1 else .error .rejected := by
  rw [parseNumberAtEnd, parseNumber_strtoul h]
  have hsuffix := strtoul_suffix t base
  cases hrest : (strtoul t base).2 with
  | nil => rfl
  | cons c rest =>
    rw [hrest] at hsuffix
    have hc : c ≠ 0 := by
      rintro rfl
      exact h (hsuffix.subset List.mem_cons_self)
    simp [hc]

theorem exists_mem_of_startsBlank {r : Bytes} (h : startsBlank r = true) :
    ∃ c ∈ r, isBlank c = true := by
  cases r with
  | nil => cases h
  | cons c r => exact ⟨c, List.mem_cons_self, h⟩

theorem Field.fileName {fileName crc : Bytes} (h : Field t fileName crc)
    (hname : ∀ c ∈ fileName, isBlank c = false) :
    t.takeWhile (fun c => !isBlank c) = fileName ∧
      ∃ gap, IsGap gap ∧ (t.dropWhile fun c => !isBlank c) = gap ++ crc := by
  obtain ⟨⟨gap, hgap, rfl⟩, -⟩ := h
  have hall : ∀ b ∈ fileName, (!isBlank b) = true := by
    intro b hb
    rw [hname b hb]
    rfl
  have hstop : ∀ b, (gap ++ crc).head? = some b → (!isBlank b) = false := by
    intro b hb
    obtain ⟨hne, hblank⟩ := hgap
    cases gap with
    | nil => exact absurd rfl hne
    | cons c gap =>
      rw [← Option.some.inj hb, hblank c List.mem_cons_self]
      rfl
  obtain ⟨htake, hdrop⟩ := takeWhile_append_of_stop hall hstop
  exact ⟨htake, gap, hgap, hdrop⟩

/-- A text with a blank in it begins with a file name as a field. -/
theorem field_takeWhile (h : ∃ c ∈ t, isBlank c = true) :
    Field t (t.takeWhile fun c => !isBlank c)
      ((t.dropWhile fun c => !isBlank c).dropWhile isBlank) := by
  refine field_of_startsBlank List.takeWhile_append_dropWhile.symm ?_
  have hhead := List.head?_dropWhile_not (fun c => !isBlank c) t
  cases hdrop : t.dropWhile fun c => !isBlank c with
  | nil =>
    obtain ⟨c, hc, hc'⟩ := h
    have hno := List.dropWhile_eq_nil_iff.mp hdrop c hc
    rw [hc'] at hno
    cases hno
  | cons c r =>
    rw [hdrop] at hhead
    simpa [startsBlank] using hhead

/-- The blanks before the number that ends the line are skipped. -/
theorem strtoul_gap {gap crc : Bytes} (h : IsGap gap) :
    ((strtoul (gap ++ crc) base).2 = [] ↔ Denotes base crc) ∧
      (Denotes base crc → (strtoul (gap ++ crc) base).1 = (strtoul crc base).1) := by
  have hscan : scanNumber base (gap ++ crc) = scanNumber base crc :=
    scanNumber_blanks (fun c hc => isSpace_of_isBlank (h.2 c hc)) crc
  rw [denotes_iff]
  by_cases hdigits : (scanNumber base crc).digits = []
  · rw [strtoul_of_no_digits (by rw [hscan, hdigits])]
    simp [hdigits, h.1]
  · rw [strtoul_of_digits (by rwa [hscan]), strtoul_of_digits hdigits, hscan]
    simp [hdigits]

/-- The first two numbers of a line and the text from the file name on. -/
def TwoNumbers (line address size rest : Bytes) : Prop :=
  ∃ rest1, Field line address rest1 ∧ Denotes 16 address ∧ Field rest1 size rest ∧ Denotes 0 size

theorem Field.notMem_nul {field rest : Bytes} (h : Field t field rest) (hnul : 0 ∉ t) :
    0 ∉ rest := by
  obtain ⟨⟨gap, -, rfl⟩, -⟩ := h
  simp only [List.mem_append, not_or] at hnul
  exact hnul.2.2

/-- A line that begins with two numbers goes on with its file name. -/
theorem parseSegmentInfoLine_twoNumbers {line address size rest : Bytes} (h : 0 ∉ line)
    (htwo : TwoNumbers line address size rest) :
    parseSegmentInfoLine (strtoulExternals crc32Le) (line ++ [0]) = (do
      let (fileName, mem) ← parseFileName (rest ++ [0])
      let crc ← parseNumberAtEnd (strtoulExternals crc32Le) 16 mem
      .ok ⟨(strtoul address 16).1, (strtoul size 0).1, .snprintf _ fileName, crc⟩) := by
  obtain ⟨rest1, haddress, hnum, hsize, hnum'⟩ := htwo
  rw [parseSegmentInfoLine, parseNumberThenBlanks_field h haddress hnum]
  dsimp only [bind, Except.bind]
  rw [parseNumberThenBlanks_field (haddress.notMem_nul h) hsize hnum']

/-- Any other line is rejected. -/
theorem parseSegmentInfoLine_of_not {line : Bytes} (h : 0 ∉ line)
    (hnot : ¬∃ address size rest, TwoNumbers line address size rest) :
    parseSegmentInfoLine (strtoulExternals crc32Le) (line ++ [0]) = .error .rejected := by
  rw [parseSegmentInfoLine, parseNumberThenBlanks_eq h]
  by_cases hblank : startsBlank (strtoul line 16).2 = true
  · rw [if_pos hblank]
    dsimp only [bind, Except.bind]
    have hsuffix : (strtoul line 16).2.dropWhile isBlank <:+ line :=
      (List.dropWhile_suffix _).trans (strtoul_suffix line 16)
    rw [parseNumberThenBlanks_eq fun hmem => h (hsuffix.subset hmem)]
    generalize hrest1 : (strtoul line 16).2.dropWhile isBlank = rest1
    by_cases hblank' : startsBlank (strtoul rest1 0).2 = true
    · exfalso
      have hdigits' : (scanNumber 0 rest1).digits ≠ [] := by
        intro hno
        rw [strtoul_of_no_digits hno, ← hrest1, startsBlank_dropWhile] at hblank'
        cases hblank'
      obtain ⟨size, ht', hnum', -⟩ := exists_denotes hdigits'
      have hdigits : (scanNumber 16 line).digits ≠ [] := by
        intro hno
        rw [strtoul_of_no_digits hno] at hrest1
        refine digits_ne_nil_sixteen hdigits' ?_
        have hline : line = line.takeWhile isBlank ++ rest1 := by
          rw [← hrest1, List.takeWhile_append_dropWhile]
        rw [hline,
          scanNumber_blanks fun c hc => isSpace_of_isBlank (List.mem_takeWhile_imp hc)] at hno
        exact hno
      obtain ⟨address, ht, hnum, -⟩ := exists_denotes hdigits
      have haddress := field_of_startsBlank ht hblank
      rw [hrest1] at haddress
      exact hnot ⟨address, size, _, rest1, haddress, hnum, field_of_startsBlank ht' hblank', hnum'⟩
    · rw [if_neg hblank']
  · rw [if_neg hblank]
    rfl

end Parser

section Line

variable {crc32Le : UInt32 → Bytes → UInt32} {line : Bytes}

theorem Field.exists_blank {t field rest : Bytes} (h : Field t field rest) :
    ∃ c ∈ t, isBlank c = true := by
  obtain ⟨⟨gap, hgap, rfl⟩, hrest⟩ := h
  obtain ⟨c, hc, hblank⟩ := exists_mem_of_startsBlank (startsBlank_gap hgap hrest).1
  exact ⟨c, List.mem_append_right _ hc, hblank⟩

theorem twoNumbers_unique {address size rest address' size' rest' : Bytes}
    (h : TwoNumbers line address size rest) (h' : TwoNumbers line address' size' rest') :
    address = address' ∧ size = size' ∧ rest = rest' := by
  obtain ⟨rest1, haddress, hnum, hsize, hnum'⟩ := h
  obtain ⟨rest1', haddress', hnum1, hsize', hnum1'⟩ := h'
  obtain ⟨-, hline, -, hrest1⟩ := strtoul_of_field haddress hnum
  obtain ⟨-, hline', -, hrest1'⟩ := strtoul_of_field haddress' hnum1
  obtain rfl : rest1 = rest1' := hrest1.symm.trans hrest1'
  obtain ⟨-, hrest, -, hdrop⟩ := strtoul_of_field hsize hnum'
  obtain ⟨-, hrest', -, hdrop'⟩ := strtoul_of_field hsize' hnum1'
  exact ⟨List.append_cancel_right (hline.symm.trans hline'),
    List.append_cancel_right (hrest.symm.trans hrest'), hdrop.symm.trans hdrop'⟩

theorem fileName_unique {rest fileName crc fileName' crc' : Bytes}
    (h : Field rest fileName crc) (hname : ∀ c ∈ fileName, isBlank c = false)
    (h' : Field rest fileName' crc') (hname' : ∀ c ∈ fileName', isBlank c = false) :
    fileName = fileName' ∧ crc = crc' := by
  obtain ⟨htake, gap, hgap, hdrop⟩ := h.fileName hname
  obtain ⟨htake', gap', hgap', hdrop'⟩ := h'.fileName hname'
  refine ⟨htake.symm.trans htake', ?_⟩
  rw [← (startsBlank_gap hgap h.2).2, ← (startsBlank_gap hgap' h'.2).2, ← hdrop, ← hdrop']

/-- What the parser does behind two numbers. -/
theorem parseSegmentInfoLine_rest (h : 0 ∉ line) {address size rest fileName crc : Bytes}
    (htwo : TwoNumbers line address size rest) (hfield : Field rest fileName crc)
    (hname : ∀ c ∈ fileName, isBlank c = false) :
    parseSegmentInfoLine (strtoulExternals crc32Le) (line ++ [0]) =
      if fileName.length < segmentFileNameSize ∧ (strtoul
          (rest.dropWhile fun c => !isBlank c) 16).2 = [] then
        .ok ⟨(strtoul address 16).1, (strtoul size 0).1, .snprintf _ fileName,
          (strtoul (rest.dropWhile fun c => !isBlank c) 16).1⟩
      else .error .rejected := by
  have hnul : 0 ∉ rest := by
    obtain ⟨rest1, haddress, -, hsize, -⟩ := htwo
    exact hsize.notMem_nul (haddress.notMem_nul h)
  obtain ⟨htake, -⟩ := hfield.fileName hname
  rw [parseSegmentInfoLine_twoNumbers h htwo, parseFileName_eq, if_pos hfield.exists_blank, htake]
  by_cases hlen : fileName.length < segmentFileNameSize
  · rw [if_pos hlen]
    dsimp only [bind, Except.bind]
    rw [parseNumberAtEnd_eq fun hmem => hnul ((List.dropWhile_suffix _).subset hmem)]
    by_cases hcrc : (strtoul (rest.dropWhile fun c => !isBlank c) 16).2 = []
    · rw [if_pos hcrc, if_pos ⟨hlen, hcrc⟩]
    · rw [if_neg hcrc, if_neg fun h => hcrc h.2]
  · rw [if_neg hlen, if_neg fun h => hlen h.1]
    rfl

/-- A line whose numbers `strtoul` takes as a whole. -/
structure LooseLine (line address size fileName crc : Bytes) : Prop where
  fields : LineFields line address size fileName crc
  address : Denotes 16 address
  size : Denotes 0 size
  crc : Denotes 16 crc

theorem LooseLine.twoNumbers {address size fileName crc : Bytes}
    (h : LooseLine line address size fileName crc) :
    ∃ rest, TwoNumbers line address size rest ∧ Field rest fileName crc := by
  obtain ⟨rest1, rest2, haddress, hsize, hname⟩ := h.fields.split
  exact ⟨rest2, ⟨rest1, haddress, h.address, hsize, h.size⟩, hname⟩

theorem LooseLine.unique {address size fileName crc address' size' fileName' crc' : Bytes}
    (h : LooseLine line address size fileName crc)
    (h' : LooseLine line address' size' fileName' crc') :
    address = address' ∧ size = size' ∧ crc = crc' := by
  obtain ⟨rest, htwo, hname⟩ := h.twoNumbers
  obtain ⟨rest', htwo', hname'⟩ := h'.twoNumbers
  obtain ⟨haddress, hsize, rfl⟩ := twoNumbers_unique htwo htwo'
  exact ⟨haddress, hsize, (fileName_unique hname h.fields.noBlank hname' h'.fields.noBlank).2⟩

theorem parseSegmentInfoLine_loose (h : 0 ∉ line) {address size fileName crc : Bytes}
    (hloose : LooseLine line address size fileName crc) :
    parseSegmentInfoLine (strtoulExternals crc32Le) (line ++ [0]) =
      .ok ⟨(strtoul address 16).1, (strtoul size 0).1, .snprintf _ fileName,
        (strtoul crc 16).1⟩ := by
  obtain ⟨rest, htwo, hname⟩ := hloose.twoNumbers
  obtain ⟨-, gap, hgap, hdrop⟩ := hname.fileName hloose.fields.noBlank
  obtain ⟨hend, hvalue⟩ : ((strtoul (gap ++ crc) 16).2 = [] ↔ Denotes 16 crc) ∧ _ :=
    strtoul_gap hgap
  rw [parseSegmentInfoLine_rest h htwo hname hloose.fields.noBlank, hdrop,
    if_pos ⟨hloose.fields.length, hend.mpr hloose.crc⟩, hvalue hloose.crc]

/-- The parser leaves the memory of the line if and only if there is no blank behind two numbers. -/
theorem parseSegmentInfoLine_halted_iff (h : 0 ∉ line) :
    parseSegmentInfoLine (strtoulExternals crc32Le) (line ++ [0]) = .error .halted ↔
      ∃ address size rest, TwoNumbers line address size rest ∧ ¬∃ c ∈ rest, isBlank c = true := by
  constructor
  · intro hhalted
    by_cases htwo : ∃ address size rest, TwoNumbers line address size rest
    · obtain ⟨address, size, rest, htwo⟩ := htwo
      refine ⟨address, size, rest, htwo, ?_⟩
      intro hblank
      rw [parseSegmentInfoLine_rest h htwo (field_takeWhile hblank)
        fun c hc => by simpa using List.mem_takeWhile_imp hc] at hhalted
      split_ifs at hhalted
      cases hhalted
    · rw [parseSegmentInfoLine_of_not h htwo] at hhalted
      cases hhalted
  · rintro ⟨address, size, rest, htwo, hblank⟩
    rw [parseSegmentInfoLine_twoNumbers h htwo, parseFileName_eq, if_neg hblank]
    rfl

theorem exists_looseLine (h : 0 ∉ line) {segment : Segment}
    (hok : parseSegmentInfoLine (strtoulExternals crc32Le) (line ++ [0]) = .ok segment) :
    ∃ address size fileName crc, LooseLine line address size fileName crc := by
  by_cases htwo : ∃ address size rest, TwoNumbers line address size rest
  · obtain ⟨address, size, rest, htwo⟩ := htwo
    by_cases hblank : ∃ c ∈ rest, isBlank c = true
    · have hnoBlank : ∀ c ∈ rest.takeWhile fun c => !isBlank c, isBlank c = false :=
        fun c hc => by simpa using List.mem_takeWhile_imp hc
      have hfield := field_takeWhile hblank
      obtain ⟨-, gap, hgap, hdrop⟩ := hfield.fileName hnoBlank
      rw [parseSegmentInfoLine_rest h htwo hfield hnoBlank] at hok
      split_ifs at hok with hcond
      obtain ⟨rest1, haddress, hnum, hsize, hnum'⟩ := htwo
      refine ⟨address, size, _, _, ⟨⟨rest1, rest, haddress, hsize, hfield⟩, hnoBlank, hcond.1⟩,
        hnum, hnum', ?_⟩
      rw [hdrop] at hcond
      exact (strtoul_gap hgap).1.mp hcond.2
    · rw [(parseSegmentInfoLine_halted_iff h).mpr ⟨address, size, rest, htwo, hblank⟩] at hok
      cases hok
  · rw [parseSegmentInfoLine_of_not h htwo] at hok
    cases hok

/-- The parser stays inside the line, accepts the lines of its grammar with the values of their
tokens, and leaves the segment as it is when it rejects a line. -/
structure ParsesExactly (crc32Le : UInt32 → Bytes → UInt32) (line : Bytes) : Prop where
  inside : ∀ segment,
    parseSegmentInfoLineInto (strtoulExternals crc32Le) (line ++ [0]) segment ≠ none
  accepts : ∀ segment segment',
    parseSegmentInfoLineInto (strtoulExternals crc32Le) (line ++ [0]) segment =
      some (true, segment') ↔ SegmentLine line segment'
  unchanged : ∀ segment segment',
    parseSegmentInfoLineInto (strtoulExternals crc32Le) (line ++ [0]) segment =
      some (false, segment') → segment' = segment

theorem SegmentLine.parsed (h : 0 ∉ line) {segment : Segment} (hline : SegmentLine line segment) :
    parseSegmentInfoLine (strtoulExternals crc32Le) (line ++ [0]) = .ok segment := by
  obtain ⟨address, size, fileName, crc, hfields, haddress, hsize, hcrc, rfl⟩ := hline
  rw [parseSegmentInfoLine_loose h ⟨hfields, haddress.denotes, hsize.denotes, hcrc.denotes⟩,
    haddress.strtoul, hsize.strtoul, hcrc.strtoul]

/-- The parser is exact at a line if two numbers at its beginning are followed by a text with a
blank in it, and if the numbers of a line that can be taken are plain. -/
theorem parseSegmentInfoLine_exact_iff (crc32Le : UInt32 → Bytes → UInt32) (h : 0 ∉ line) :
    ParsesExactly crc32Le line ↔
      (∀ address size rest, TwoNumbers line address size rest → ∃ c ∈ rest, isBlank c = true) ∧
      ∀ address size fileName crc, LooseLine line address size fileName crc →
        IsPlain 16 address ∧ IsPlain 0 size ∧ IsPlain 16 crc := by
  constructor
  · intro hexact
    constructor
    · intro address size rest htwo
      by_contra hblank
      apply hexact.inside ⟨0, 0, .empty, 0⟩
      rw [parseSegmentInfoLineInto,
        (parseSegmentInfoLine_halted_iff h).mpr ⟨address, size, rest, htwo, hblank⟩]
    · intro address size fileName crc hloose
      obtain ⟨address', size', fileName', crc', hfields, haddress, hsize, hcrc, -⟩ :=
        (hexact.accepts ⟨0, 0, .empty, 0⟩ _).mp
          (parseSegmentInfoLineInto_ok (parseSegmentInfoLine_loose h hloose) _)
      obtain ⟨rfl, rfl, rfl⟩ := hloose.unique
        ⟨hfields, haddress.denotes, hsize.denotes, hcrc.denotes⟩
      exact ⟨haddress, hsize, hcrc⟩
  · rintro ⟨hinside, hplain⟩
    have hok : ∀ segment, parseSegmentInfoLine (strtoulExternals crc32Le) (line ++ [0]) =
        .ok segment ↔ SegmentLine line segment := by
      intro segment
      refine ⟨?_, SegmentLine.parsed h⟩
      intro hparsed
      obtain ⟨address, size, fileName, crc, hloose⟩ := exists_looseLine h hparsed
      obtain ⟨haddress, hsize, hcrc⟩ := hplain _ _ _ _ hloose
      rw [parseSegmentInfoLine_loose h hloose, haddress.strtoul, hsize.strtoul, hcrc.strtoul,
        Except.ok.injEq] at hparsed
      exact ⟨address, size, fileName, crc, hloose.fields, haddress, hsize, hcrc, hparsed.symm⟩
    refine ⟨?_, ?_, ?_⟩
    · intro segment hnone
      unfold parseSegmentInfoLineInto at hnone
      split at hnone
      · cases hnone
      · cases hnone
      · next hhalted =>
        obtain ⟨address, size, rest, htwo, hblank⟩ := (parseSegmentInfoLine_halted_iff h).mp hhalted
        exact hblank (hinside address size rest htwo)
    · intro segment segment'
      rw [← hok segment']
      unfold parseSegmentInfoLineInto
      split <;> simp_all
    · intro segment segment' hfalse
      unfold parseSegmentInfoLineInto at hfalse
      split at hfalse
      · cases hfalse
      · exact (Prod.mk.inj (Option.some.inj hfalse)).2.symm
      · cases hfalse

end Line

theorem parseSegmentInfoLine_exact_sample :
    ParsesExactly (fun _ _ => 0) (ascii "0x1000 10 name ff") := by
  have haddress : Field (ascii "0x1000 10 name ff") (ascii "0x1000") (ascii "10 name ff") :=
    ⟨⟨ascii " ", by decide +kernel, by decide +kernel⟩, by decide +kernel⟩
  have hsize : Field (ascii "10 name ff") (ascii "10") (ascii "name ff") :=
    ⟨⟨ascii " ", by decide +kernel, by decide +kernel⟩, by decide +kernel⟩
  have hname : Field (ascii "name ff") (ascii "name") (ascii "ff") :=
    ⟨⟨ascii " ", by decide +kernel, by decide +kernel⟩, by decide +kernel⟩
  have hloose : LooseLine (ascii "0x1000 10 name ff") (ascii "0x1000") (ascii "10") (ascii "name")
      (ascii "ff") :=
    ⟨⟨⟨_, _, haddress, hsize, hname⟩, by decide +kernel, by decide +kernel⟩, by decide +kernel,
      by decide +kernel, by decide +kernel⟩
  refine (parseSegmentInfoLine_exact_iff _ (by decide +kernel)).mpr ⟨?_, ?_⟩
  · intro address size rest htwo
    obtain ⟨-, -, rfl⟩ := twoNumbers_unique htwo ⟨_, haddress, hloose.address, hsize, hloose.size⟩
    decide +kernel
  · intro address size fileName crc hloose'
    obtain ⟨rfl, rfl, rfl⟩ := hloose'.unique hloose
    decide +kernel

/-- The end of the file name is searched for behind the line, and `+ff` is taken for a checksum. -/
theorem parseSegmentInfoLine_wrong :
    ¬ParsesExactly (fun _ _ => 0) (ascii "0x1000 10 name") ∧
      ¬ParsesExactly (fun _ _ => 0) (ascii "10 20 name +ff") := by
  constructor
  · intro h
    exact h.inside ⟨0, 0, .empty, 0⟩ (by decide +kernel)
  · intro h
    have haddress : Field (ascii "10 20 name +ff") (ascii "10") (ascii "20 name +ff") :=
      ⟨⟨ascii " ", by decide +kernel, by decide +kernel⟩, by decide +kernel⟩
    have hsize : Field (ascii "20 name +ff") (ascii "20") (ascii "name +ff") :=
      ⟨⟨ascii " ", by decide +kernel, by decide +kernel⟩, by decide +kernel⟩
    have hname : Field (ascii "name +ff") (ascii "name") (ascii "+ff") :=
      ⟨⟨ascii " ", by decide +kernel, by decide +kernel⟩, by decide +kernel⟩
    have hloose : LooseLine (ascii "10 20 name +ff") (ascii "10") (ascii "20") (ascii "name")
        (ascii "+ff") :=
      ⟨⟨⟨_, _, haddress, hsize, hname⟩, by decide +kernel, by decide +kernel⟩, by decide +kernel,
        by decide +kernel, by decide +kernel⟩
    obtain ⟨address, size, fileName, crc, hfields, haddress', hsize', hcrc', -⟩ :=
      (h.accepts ⟨0, 0, .empty, 0⟩ _).mp
        (parseSegmentInfoLineInto_ok (parseSegmentInfoLine_loose (by decide +kernel) hloose) _)
    obtain ⟨-, -, rfl⟩ := hloose.unique ⟨hfields, haddress'.denotes, hsize'.denotes, hcrc'.denotes⟩
    revert hcrc'
    decide +kernel

end RuuviGateway.Nrf52Fw
