import RuuviGateway.Nrf52Fw.SegmentLine

/-!
# The version of a firmware

A version is three numbers with dots between them. Its digits are converted with `strtoul`, which
takes a component that is empty or has a blank or a sign. The end of a component is given to the
conversion as a limit. -/

namespace RuuviGateway.Nrf52Fw

open General

section Conversion

/-- The conversion with an end pointer whose initial value is a limit. -/
def strtoulUpTo (s : Bytes) (limit : Option ℕ) : UInt32 × ℕ :=
  let t := limit.elim s s.take
  ((strtoul t 10).1, t.length - (strtoul t 10).2.length)

/-- `nrf52fw_parse_version_digit`. -/
def parseVersionDigitUpTo (s : Bytes) (endPos : Option ℕ) : Option UInt8 :=
  let (val, stop) := strtoulUpTo s endPos
  let complete := match endPos with
    | none => (s.drop stop).isEmpty
    | some pos => pos == stop
  if !complete then none else if val > 255 then none else some val.toUInt8

/-- `nrf52fw_parse_version` over the parser of a digit. -/
def parseVersionWith (digit : Bytes → Option ℕ → Option UInt8) (s : Bytes) : Option UInt32 := do
  let pos1 ← strchr s dot
  let digit1 ← digit s (some pos1)
  let s2 := s.drop (pos1 + 1)
  let pos2 ← strchr s2 dot
  let digit2 ← digit s2 (some pos2)
  let s3 := s2.drop (pos2 + 1)
  if s3.isEmpty then none
  let digit3 ← digit s3 none
  some (digit1.toUInt32 <<< 24 ||| digit2.toUInt32 <<< 16 ||| digit3.toUInt32 <<< 8)

theorem parseVersion_eq (X : Externals) (s : Bytes) :
    parseVersion X s = parseVersionWith (parseVersionDigit X) s := by
  unfold parseVersion parseVersionWith parseDigitUpdateVer
  simp only [Option.bind_eq_bind, Option.bind_map]
  rfl

/-- The component is converted as a whole and fits in a byte. -/
def FitsByte (t : Bytes) : Prop := (strtoul t 10).2 = [] ∧ (strtoul t 10).1 ≤ 255

instance (t : Bytes) : Decidable (FitsByte t) := inferInstanceAs (Decidable (_ ∧ _))

theorem length_sub_rest_eq_iff (t : Bytes) :
    t.length - (strtoul t 10).2.length = t.length ↔ (strtoul t 10).2 = [] := by
  have hle := (strtoul_suffix t 10).length_le
  rw [← List.length_eq_zero_iff]
  constructor
  · intro h
    by_contra hne
    have hpos : 0 < t.length := by omega
    omega
  · intro h
    omega

theorem digit_of_complete (t : Bytes) {complete : Bool}
    (h : complete = true ↔ (strtoul t 10).2 = []) :
    (if !complete then none else
      if (strtoul t 10).1 > 255 then none else some (strtoul t 10).1.toUInt8) =
      if FitsByte t then some (strtoul t 10).1.toUInt8 else none := by
  by_cases hcomplete : (strtoul t 10).2 = []
  · rw [h.mpr hcomplete]
    by_cases hval : (strtoul t 10).1 ≤ 255
    · have hfits : FitsByte t := ⟨hcomplete, hval⟩
      rw [if_pos hfits, if_neg (by simp), if_neg (UInt32.not_lt.mpr hval)]
    · rw [if_neg fun hfits : FitsByte t => hval hfits.2, if_neg (by simp),
        if_pos (UInt32.not_le.mp hval)]
  · rw [if_neg fun hfits : FitsByte t => hcomplete hfits.1, if_pos]
    simpa using mt h.mp hcomplete

theorem parseVersionDigitUpTo_some (a r : Bytes) :
    parseVersionDigitUpTo (a ++ r) (some a.length) =
      if FitsByte a then some (strtoul a 10).1.toUInt8 else none := by
  have htake : (a ++ r).take a.length = a := List.take_left
  simp only [parseVersionDigitUpTo, strtoulUpTo, Option.elim_some, htake]
  refine digit_of_complete a ?_
  rw [beq_iff_eq, eq_comm, length_sub_rest_eq_iff]

theorem parseVersionDigitUpTo_none (s : Bytes) :
    parseVersionDigitUpTo s none =
      if FitsByte s then some (strtoul s 10).1.toUInt8 else none := by
  simp only [parseVersionDigitUpTo, strtoulUpTo, Option.elim_none]
  refine digit_of_complete s ?_
  obtain ⟨pre, hpre⟩ := strtoul_suffix s 10
  rw [List.isEmpty_iff]
  generalize (strtoul s 10).2 = rest at hpre ⊢
  rw [← hpre, List.length_append, Nat.add_sub_cancel, List.drop_left]

end Conversion

section Version

/-- The first dots of a text and what is before, between and behind them. -/
structure Components (s a b c : Bytes) : Prop where
  text : s = a ++ dot :: (b ++ dot :: c)
  first : dot ∉ a
  second : dot ∉ b

theorem strchr_append {a : Bytes} (ha : dot ∉ a) (r : Bytes) :
    strchr (a ++ dot :: r) dot = some a.length := by
  induction a with
  | nil => rfl
  | cons b a ih =>
    rw [List.mem_cons, not_or] at ha
    have hb : (b == dot) = false := beq_eq_false_iff_ne.mpr (Ne.symm ha.1)
    have htail := ih ha.2
    unfold strchr at htail ⊢
    rw [List.cons_append, List.findIdx?_cons, hb, htail]
    rfl

theorem exists_of_strchr {s : Bytes} {pos : ℕ} (h : strchr s dot = some pos) :
    ∃ a r, s = a ++ dot :: r ∧ dot ∉ a := by
  induction s generalizing pos with
  | nil => cases h
  | cons b s ih =>
    by_cases hb : b = dot
    · exact ⟨[], s, by rw [hb]; rfl, List.not_mem_nil⟩
    · unfold strchr at h ih
      rw [List.findIdx?_cons, beq_eq_false_iff_ne.mpr hb] at h
      obtain ⟨pos', hpos', -⟩ := Option.map_eq_some_iff.mp h
      obtain ⟨a, r, rfl, ha⟩ := ih hpos'
      exact ⟨b :: a, r, rfl, by simp [ha, Ne.symm hb]⟩

theorem append_dot_inj {a r a' r' : Bytes} (h : a ++ dot :: r = a' ++ dot :: r') (ha : dot ∉ a)
    (ha' : dot ∉ a') : a = a' ∧ r = r' := by
  have hpos := strchr_append ha r
  rw [h, strchr_append ha'] at hpos
  have heq := List.append_inj h (Option.some.inj hpos).symm
  exact ⟨heq.1, (List.cons.inj heq.2).2⟩

theorem Components.unique {s a b c a' b' c' : Bytes} (h : Components s a b c)
    (h' : Components s a' b' c') : a = a' ∧ b = b' ∧ c = c' := by
  obtain ⟨ha, hr⟩ := append_dot_inj (h.text.symm.trans h'.text) h.first h'.first
  exact ⟨ha, append_dot_inj hr h.second h'.second⟩

def componentWord (a b c : Bytes) : UInt32 :=
  (strtoul a 10).1.toUInt8.toUInt32 <<< 24 ||| (strtoul b 10).1.toUInt8.toUInt32 <<< 16 |||
    (strtoul c 10).1.toUInt8.toUInt32 <<< 8

/-- The parser takes the components that the conversion takes. -/
theorem parseVersionWith_components {s a b c : Bytes} (h : Components s a b c) :
    parseVersionWith parseVersionDigitUpTo s =
      if c ≠ [] ∧ FitsByte a ∧ FitsByte b ∧ FitsByte c then
        some (componentWord a b c)
      else none := by
  obtain ⟨rfl, ha, hb⟩ := h
  have hdrop : ∀ x y : Bytes, (x ++ dot :: y).drop (x.length + 1) = y := by
    intro x y
    simp
  simp only [parseVersionWith, strchr_append ha, parseVersionDigitUpTo_some, hdrop,
    strchr_append hb, parseVersionDigitUpTo_none, Option.bind_eq_bind, Option.bind_some]
  by_cases hfits : FitsByte a
  · by_cases hfits' : FitsByte b
    · cases c with
      | nil => simp [hfits, hfits']
      | cons d c => by_cases hfits3 : FitsByte (d :: c) <;>
          simp [hfits, hfits', hfits3, componentWord]
    · simp [hfits, hfits']
  · simp [hfits]

theorem exists_components {s : Bytes} {w : UInt32}
    (h : parseVersionWith parseVersionDigitUpTo s = some w) : ∃ a b c, Components s a b c := by
  simp only [parseVersionWith, Option.bind_eq_bind, Option.bind_eq_some_iff] at h
  obtain ⟨pos1, hpos1, -, -, pos2, hpos2, -⟩ := h
  obtain ⟨a, r, rfl, ha⟩ := exists_of_strchr hpos1
  obtain rfl := Option.some.inj ((strchr_append ha r).symm.trans hpos1)
  have hdrop : (a ++ dot :: r).drop (a.length + 1) = r := by simp
  rw [hdrop] at hpos2
  obtain ⟨b, c, rfl, hb⟩ := exists_of_strchr hpos2
  exact ⟨a, b, c, rfl, ha, hb⟩

/-- MAJOR.MINOR.PATCH with these values. -/
def VersionText (s : Bytes) (major minor patch : ℕ) : Prop :=
  ∃ a b c, s = a ++ dot :: (b ++ dot :: c) ∧ IsNumeral 10 a ∧ IsNumeral 10 b ∧ IsNumeral 10 c ∧
    numeral 10 a = major ∧ numeral 10 b = minor ∧ numeral 10 c = patch ∧
    major ≤ 255 ∧ minor ≤ 255 ∧ patch ≤ 255

def versionWord (major minor patch : ℕ) : UInt32 :=
  UInt32.ofNat (major * 2 ^ 24 + minor * 2 ^ 16 + patch * 2 ^ 8)

theorem toNat_versionWord {A B C : ℕ} (hA : A ≤ 255) (hB : B ≤ 255) (hC : C ≤ 255) :
    (versionWord A B C).toNat = A * 2 ^ 24 + B * 2 ^ 16 + C * 2 ^ 8 :=
  UInt32.toNat_ofNat_of_lt' (by simp only [UInt32.size]; omega)

theorem versionWord_inj {A B C A' B' C' : ℕ} (hA : A ≤ 255) (hB : B ≤ 255) (hC : C ≤ 255)
    (hA' : A' ≤ 255) (hB' : B' ≤ 255) (hC' : C' ≤ 255)
    (h : versionWord A B C = versionWord A' B' C') : A = A' ∧ B = B' ∧ C = C' := by
  have hnat := congrArg UInt32.toNat h
  rw [toNat_versionWord hA hB hC, toNat_versionWord hA' hB' hC'] at hnat
  omega

/-- The bytes of the version do not overlap. -/
theorem shiftLeft_or_eq_versionWord {A B C : ℕ} (hA : A ≤ 255) (hB : B ≤ 255) (hC : C ≤ 255) :
    (UInt32.ofNat A).toUInt8.toUInt32 <<< 24 ||| (UInt32.ofNat B).toUInt8.toUInt32 <<< 16 |||
      (UInt32.ofNat C).toUInt8.toUInt32 <<< 8 = versionWord A B C := by
  have hbyte : ∀ n ≤ 255, (UInt32.ofNat n).toUInt8.toUInt32.toNat = n := by
    intro n hn
    simp
    omega
  obtain ⟨hA32, hB32, hC16, hlow⟩ : A * 2 ^ 24 < 2 ^ 32 ∧ B * 2 ^ 16 < 2 ^ 32 ∧
      C * 2 ^ 8 < 2 ^ 16 ∧ 2 ^ 16 * B + C * 2 ^ 8 < 2 ^ 24 := by
    simp only [Nat.reducePow]
    omega
  rw [← UInt32.toNat_inj, toNat_versionWord hA hB hC, UInt32.toNat_or, UInt32.toNat_or,
    UInt32.toNat_shiftLeft, UInt32.toNat_shiftLeft, UInt32.toNat_shiftLeft, hbyte A hA, hbyte B hB,
    hbyte C hC]
  have h24 : (24 : UInt32).toNat % 32 = 24 := rfl
  have h16 : (16 : UInt32).toNat % 32 = 16 := rfl
  have h8 : (8 : UInt32).toNat % 32 = 8 := rfl
  rw [h24, h16, h8, Nat.shiftLeft_eq, Nat.shiftLeft_eq, Nat.shiftLeft_eq,
    Nat.mod_eq_of_lt hA32, Nat.mod_eq_of_lt hB32,
    Nat.mod_eq_of_lt (hC16.trans (by decide)), Nat.or_assoc, Nat.mul_comm B,
    ← Nat.two_pow_add_eq_or_of_lt hC16, Nat.mul_comm A, ← Nat.two_pow_add_eq_or_of_lt hlow,
    Nat.add_assoc]

/-- A run of digits is taken if its value fits in a byte. -/
theorem fitsByte_numeral {t : Bytes} (h : IsNumeral 10 t) :
    (FitsByte t ↔ numeral 10 t ≤ 255) ∧
      (FitsByte t → (strtoul t 10).1 = UInt32.ofNat (numeral 10 t)) := by
  have hvalue : strtoul (t ++ []) 10 = _ :=
    strtoul_digits (by decide) h (by simp) fun hbase => absurd hbase (by decide)
  rw [List.append_nil] at hvalue
  have hle : (UInt32.ofNat (min (numeral 10 t) 0xffffffff)).toNat = min (numeral 10 t) 0xffffffff :=
    UInt32.toNat_ofNat_of_lt' (by simp only [UInt32.size]; omega)
  have hfits : FitsByte t ↔ numeral 10 t ≤ 255 := by
    rw [FitsByte, hvalue, UInt32.le_iff_toNat_le, hle]
    simp
  refine ⟨hfits, fun h => ?_⟩
  rw [hvalue, Nat.min_eq_left (by have := hfits.mp h; omega)]

theorem dot_notMem_of_isNumeral {t : Bytes} (h : IsNumeral 10 t) : dot ∉ t :=
  fun hmem => ne_of_isDigit (h.2 dot hmem) (by decide) rfl

theorem parseVersionWith_numerals {s a b c : Bytes} (hs : s = a ++ dot :: (b ++ dot :: c))
    (ha : IsNumeral 10 a) (hb : IsNumeral 10 b) (hc : IsNumeral 10 c) :
    parseVersionWith parseVersionDigitUpTo s =
      if numeral 10 a ≤ 255 ∧ numeral 10 b ≤ 255 ∧ numeral 10 c ≤ 255 then
        some (versionWord (numeral 10 a) (numeral 10 b) (numeral 10 c)) else none := by
  rw [parseVersionWith_components
    ⟨hs, dot_notMem_of_isNumeral ha, dot_notMem_of_isNumeral hb⟩]
  obtain ⟨hfitsA, hvalA⟩ := fitsByte_numeral ha
  obtain ⟨hfitsB, hvalB⟩ := fitsByte_numeral hb
  obtain ⟨hfitsC, hvalC⟩ := fitsByte_numeral hc
  by_cases hall : numeral 10 a ≤ 255 ∧ numeral 10 b ≤ 255 ∧ numeral 10 c ≤ 255
  · obtain ⟨hA, hB, hC⟩ := hall
    rw [if_pos ⟨hc.1, hfitsA.mpr hA, hfitsB.mpr hB, hfitsC.mpr hC⟩, if_pos ⟨hA, hB, hC⟩,
      componentWord, hvalA (hfitsA.mpr hA), hvalB (hfitsB.mpr hB), hvalC (hfitsC.mpr hC),
      shiftLeft_or_eq_versionWord hA hB hC]
  · rw [if_neg hall, if_neg]
    rw [hfitsA, hfitsB, hfitsC]
    exact fun h => hall h.2

/-- A dot ends the conversion, so the limit changes nothing. -/
theorem parseVersionDigit_append (crc32Le : UInt32 → Bytes → UInt32) (a r : Bytes) :
    parseVersionDigit (strtoulExternals crc32Le) (a ++ dot :: r) (some a.length) =
      parseVersionDigitUpTo (a ++ dot :: r) (some a.length) := by
  have htake : (a ++ dot :: r).take a.length = a := List.take_left
  have hvalue : strtoul (a ++ dot :: r) 10 = _ :=
    strtoul_append_stop (by decide) (by decide) (by decide) (by decide) r
  simp only [parseVersionDigit, parseVersionDigitUpTo, strtoulExternals, strtoulUpTo,
    Option.elim_some, htake, hvalue, List.length_append, List.length_cons, Nat.add_sub_add_right]

theorem parseVersion_strtoul (crc32Le : UInt32 → Bytes → UInt32) (s : Bytes) :
    parseVersion (strtoulExternals crc32Le) s = parseVersionWith parseVersionDigitUpTo s := by
  rw [parseVersion_eq, parseVersionWith, parseVersionWith]
  cases hpos1 : strchr s dot with
  | none => rfl
  | some pos1 =>
    obtain ⟨a, r, rfl, ha⟩ := exists_of_strchr hpos1
    obtain rfl := Option.some.inj ((strchr_append ha r).symm.trans hpos1)
    simp only [Option.bind_eq_bind, Option.bind_some, parseVersionDigit_append]
    refine congrArg _ (funext fun digit1 => ?_)
    generalize (a ++ dot :: r).drop (a.length + 1) = s2
    cases hpos2 : strchr s2 dot with
    | none => rfl
    | some pos2 =>
      obtain ⟨b, c, rfl, hb⟩ := exists_of_strchr hpos2
      obtain rfl := Option.some.inj ((strchr_append hb c).symm.trans hpos2)
      simp only [Option.bind_some, parseVersionDigit_append]
      rfl

end Version

section Exact

/-- The parser accepts the versions with their words, and different versions have different words.
-/
structure ParsesVersion (s : Bytes) : Prop where
  accepts : ∀ w, parseVersionWith parseVersionDigitUpTo s = some w ↔
    ∃ major minor patch, VersionText s major minor patch ∧ w = versionWord major minor patch
  distinct : ∀ s' w A B C A' B' C', parseVersionWith parseVersionDigitUpTo s = some w →
    parseVersionWith parseVersionDigitUpTo s' = some w → VersionText s A B C →
    VersionText s' A' B' C' → A = A' ∧ B = B' ∧ C = C'

theorem VersionText.parsed {s : Bytes} {A B C : ℕ} (h : VersionText s A B C) :
    parseVersionWith parseVersionDigitUpTo s = some (versionWord A B C) ∧
      A ≤ 255 ∧ B ≤ 255 ∧ C ≤ 255 := by
  obtain ⟨a, b, c, hs, ha, hb, hc, rfl, rfl, rfl, hA, hB, hC⟩ := h
  rw [parseVersionWith_numerals hs ha hb hc, if_pos ⟨hA, hB, hC⟩]
  exact ⟨rfl, hA, hB, hC⟩

theorem VersionText.distinct {s s' : Bytes} {w : UInt32} {A B C A' B' C' : ℕ}
    (hs : parseVersionWith parseVersionDigitUpTo s = some w)
    (hs' : parseVersionWith parseVersionDigitUpTo s' = some w) (h : VersionText s A B C)
    (h' : VersionText s' A' B' C') : A = A' ∧ B = B' ∧ C = C' := by
  obtain ⟨hword, hA, hB, hC⟩ := h.parsed
  obtain ⟨hword', hA', hB', hC'⟩ := h'.parsed
  refine versionWord_inj hA hB hC hA' hB' hC' ?_
  exact (Option.some.inj (hword.symm.trans hs)).trans (Option.some.inj (hword'.symm.trans hs')).symm

/-- The parser is exact at a text if the components that the conversion takes are runs of digits. -/
theorem parseVersion_exact_iff (s : Bytes) :
    ParsesVersion s ↔ ∀ a b c, Components s a b c → c ≠ [] →
      FitsByte a → FitsByte b → FitsByte c → IsNumeral 10 a ∧ IsNumeral 10 b ∧ IsNumeral 10 c := by
  constructor
  · intro hexact a b c hcomp hne ha hb hc
    have hword := parseVersionWith_components hcomp
    rw [if_pos ⟨hne, ha, hb, hc⟩] at hword
    obtain ⟨A, B, C, ⟨a', b', c', hs, ha', hb', hc', -⟩, -⟩ := (hexact.accepts _).mp hword
    obtain ⟨rfl, rfl, rfl⟩ := hcomp.unique
      ⟨hs, dot_notMem_of_isNumeral ha', dot_notMem_of_isNumeral hb'⟩
    exact ⟨ha', hb', hc'⟩
  · intro hall
    refine ⟨?_, fun s' w A B C A' B' C' hs hs' => VersionText.distinct hs hs'⟩
    intro w
    constructor
    · intro hw
      obtain ⟨a, b, c, hcomp⟩ := exists_components hw
      have hfits := hw
      rw [parseVersionWith_components hcomp] at hfits
      split_ifs at hfits with hcond
      obtain ⟨ha, hb, hc⟩ := hall a b c hcomp hcond.1 hcond.2.1 hcond.2.2.1 hcond.2.2.2
      rw [parseVersionWith_numerals hcomp.text ha hb hc] at hw
      split_ifs at hw with hle
      exact ⟨_, _, _, ⟨a, b, c, hcomp.text, ha, hb, hc, rfl, rfl, rfl, hle⟩,
        (Option.some.inj hw).symm⟩
    · rintro ⟨A, B, C, htext, rfl⟩
      exact htext.parsed.1

theorem parseVersion_notExact :
    ¬ParsesVersion (ascii ".1.2") ∧ ¬ParsesVersion (ascii "1..2") ∧
      ¬ParsesVersion (ascii "+1.2.3") := by
  have hno : ∀ s a b c w, Components s a b c → (¬IsNumeral 10 a ∨ ¬IsNumeral 10 b) →
      parseVersionWith parseVersionDigitUpTo s = some w → ¬ParsesVersion s := by
    intro s a b c w hcomp hnot hw hexact
    obtain ⟨A, B, C, ⟨a', b', c', hs, ha', hb', hc', -⟩, -⟩ := (hexact.accepts w).mp hw
    obtain ⟨rfl, rfl, -⟩ := hcomp.unique
      ⟨hs, dot_notMem_of_isNumeral ha', dot_notMem_of_isNumeral hb'⟩
    exact hnot.elim (absurd ha') (absurd hb')
  refine ⟨hno _ [] (ascii "1") (ascii "2") 0x00010200 ⟨?_, ?_, ?_⟩ ?_ ?_,
    hno _ (ascii "1") [] (ascii "2") 0x01000200 ⟨?_, ?_, ?_⟩ ?_ ?_,
    hno _ (ascii "+1") (ascii "2") (ascii "3") 0x01020300 ⟨?_, ?_, ?_⟩ ?_ ?_⟩ <;> decide +kernel

end Exact

end RuuviGateway.Nrf52Fw
