import Mathlib.Tactic.IntervalCases
import RuuviGateway.Time.TimeStr

/-!
# Dates with a zone

A date with digits in all its fields, with or without separators, is followed by `Z` or by an
offset. The parser bounds the hours of the offset only, and it reads a fraction without digits
together with the sign of the offset.
-/

namespace RuuviGateway.Time

open General

section Digits

structure Digits (n : ℕ) where
  text : Bytes
  length_text : text.length = n
  digit : ∀ b ∈ text, isDigit 10 b = true

def Digits.value {n : ℕ} (d : Digits n) : ℕ := numeral 10 d.text

variable {n : ℕ}

theorem Digits.value_lt (d : Digits n) : d.value < 10 ^ n := by
  have hlt := numeral_lt d.digit
  rwa [d.length_text] at hlt

theorem Digits.isNumeral (d : Digits n) (hn : 0 < n) : IsNumeral 10 d.text := by
  refine ⟨?_, d.digit⟩
  intro hnil
  rw [← d.length_text, hnil] at hn
  exact absurd hn (by decide)

theorem Digits.exists_cons (d : Digits n) (hn : 0 < n) :
    ∃ b s, d.text = b :: s ∧ isDigit 10 b = true :=
  exists_cons_of_isNumeral (d.isNumeral hn)

/-- A conversion in the buffer, from what `strtoul` does there. -/
theorem timeStrConvToUint32Cptr_eq {s f r : Bytes} {k : ℕ} {v : UInt32} (hk : k < timeStrTmpBufSize)
    (hs : s.take k = f ++ r) (hconv : strtoul (f ++ r) 10 = (v, r)) :
    timeStrConvToUint32Cptr strtoul s k = (v, s.drop f.length) := by
  rw [timeStrConvToUint32Cptr, if_neg (Nat.not_le.mpr hk), hs, hconv]
  simp

theorem strtoul_numeral {digits rest : Bytes} (hdigits : IsNumeral 10 digits)
    (hlen : digits.length ≤ 6) (hstop : ∀ b, rest.head? = some b → isDigit 10 b = false) :
    strtoul (digits ++ rest) 10 = (UInt32.ofNat (numeral 10 digits), rest) := by
  have hlt := numeral_lt hdigits.2
  have hpow : 10 ^ digits.length ≤ 10 ^ 6 := Nat.pow_le_pow_right (by decide) hlen
  rw [strtoul_digits (by decide) hdigits hstop fun hbase => absurd hbase (by decide),
    Nat.min_eq_left (by omega)]

/-- What follows a field: its delimiter, a digit of the next field, or something without a rule. -/
inductive Follows : Option UInt8 → Bytes → Bytes → Prop
  | delimiter (c : UInt8) (next : Bytes) : Follows (some c) (c :: next) next
  | digit (c b : UInt8) (s : Bytes) (hb : isDigit 10 b = true) (hc : b ≠ c) :
    Follows (some c) (b :: s) (b :: s)
  | free (b : UInt8) (s : Bytes) : Follows none (b :: s) (b :: s)

def Digits.InRange (d : Digits n) (minVal maxVal : UInt32) : Prop :=
  minVal.toNat ≤ d.value ∧ d.value ≤ maxVal.toNat

instance (d : Digits n) (minVal maxVal : UInt32) : Decidable (d.InRange minVal maxVal) :=
  inferInstanceAs (Decidable (_ ∧ _))

theorem conv_digits (d : Digits n) (hn : 0 < n) (hn' : n ≤ 4) (rest : Bytes) :
    timeStrConvToUint32Cptr strtoul (d.text ++ rest) (min n (d.text ++ rest).length) =
      (UInt32.ofNat d.value, rest) := by
  have hlen := d.length_text
  have hmin : min n (d.text ++ rest).length = d.text.length := by
    rw [List.length_append]
    omega
  have htake : (d.text ++ rest).take d.text.length = d.text ++ [] := by
    rw [List.take_left, List.append_nil]
  have hbuf : d.text.length < timeStrTmpBufSize := by
    rw [hlen, timeStrTmpBufSize]
    omega
  rw [hmin, timeStrConvToUint32Cptr_eq hbuf htake
    (strtoul_numeral (d.isNumeral hn) (by omega) (by simp)), List.drop_left]
  rfl

theorem toNat_ofNat_value (d : Digits n) (hn' : n ≤ 4) :
    (UInt32.ofNat d.value).toNat = d.value := by
  have hlt := d.value_lt
  have hpow : 10 ^ n ≤ 10 ^ 4 := Nat.pow_le_pow_right (by decide) hn'
  exact UInt32.toNat_ofNat_of_lt' (by simp only [UInt32.size]; omega)

theorem not_outside_iff (d : Digits n) (hn' : n ≤ 4) {minVal maxVal : UInt32} :
    (UInt32.ofNat d.value < minVal ∨ maxVal < UInt32.ofNat d.value) ↔ ¬d.InRange minVal maxVal := by
  rw [UInt32.lt_iff_toNat_lt, UInt32.lt_iff_toNat_lt, toNat_ofNat_value d hn', Digits.InRange]
  omega

theorem parseValOfTm_follows (d : Digits n) (hn : 0 < n) (hn' : n ≤ 4) {minVal maxVal : UInt32}
    {delimiter : Option UInt8} {rest next : Bytes} (hnext : Follows delimiter rest next) :
    parseValOfTm strtoul (d.text ++ rest) n minVal maxVal delimiter =
      if d.InRange minVal maxVal then ⟨false, some d.value, next⟩
      else ⟨true, none, d.text ++ rest⟩ := by
  rw [parseValOfTm, conv_digits d hn hn']
  dsimp only
  by_cases hrange : d.InRange minVal maxVal
  · rw [if_neg fun h => (not_outside_iff d hn').mp h hrange, if_pos hrange]
    cases hnext with
    | delimiter c next => simp only [if_true, toNat_ofNat_value d hn']
    | digit c b s hb hc => simp only [if_neg hc, if_pos hb, toNat_ofNat_value d hn']
    | free b s => simp only [toNat_ofNat_value d hn']
  · rw [if_pos ((not_outside_iff d hn').mpr hrange), if_neg hrange]

theorem parseValOfTm_end (d : Digits n) (hn : 0 < n) (hn' : n ≤ 4) {minVal maxVal : UInt32}
    {delimiter : Option UInt8} :
    parseValOfTm strtoul d.text n minVal maxVal delimiter =
      if d.InRange minVal maxVal then ⟨true, some d.value, []⟩ else ⟨true, none, d.text⟩ := by
  have hconv := conv_digits d hn hn' []
  rw [List.append_nil] at hconv
  rw [parseValOfTm, hconv]
  dsimp only
  by_cases hrange : d.InRange minVal maxVal
  · rw [if_neg fun h => (not_outside_iff d hn').mp h hrange, if_pos hrange]
    simp only [toNat_ofNat_value d hn']
  · rw [if_pos ((not_outside_iff d hn').mpr hrange), if_neg hrange]

theorem andThen_timeStrParseTm (d : Digits n) (hn : 0 < n) (hn' : n ≤ 4) {minVal maxVal : UInt32}
    {delimiter : Option UInt8} {set : ℕ → Tm → Tm} {tm : Tm} {rest next : Bytes}
    (hnext : Follows delimiter rest next) (k : Tm → Bytes → Option (Tm × UInt16)) :
    (timeStrParseTm strtoul n minVal maxVal delimiter set tm (d.text ++ rest)).andThen k =
      if d.InRange minVal maxVal then k (set d.value tm) next else none := by
  rw [timeStrParseTm, parseValOfTm_follows d hn hn' hnext]
  by_cases hrange : d.InRange minVal maxVal
  · rw [if_pos hrange, if_pos hrange]
    rfl
  · rw [if_neg hrange, if_neg hrange]
    rfl

end Digits

section DateTime

/-- The digits behind the dot. -/
structure Fraction where
  text : Bytes
  length_text : text.length ≤ 6
  digit : ∀ b ∈ text, isDigit 10 b = true

/-- A date with seconds, with separators or without any. -/
structure DateTime where
  separated : Bool
  year : Digits 4
  mon : Digits 2
  mday : Digits 2
  hour : Digits 2
  min : Digits 2
  sec : Digits 2
  fraction : Option Fraction

variable (d : DateTime)

def DateTime.sep (c : UInt8) : Bytes := if d.separated then [c] else []

def DateTime.fractionText : Bytes := d.fraction.elim [] fun f => dot :: f.text

/-- The date in front of a zone. -/
def DateTime.textWith (zone : Bytes) : Bytes :=
  d.year.text ++ (d.sep minus ++ (d.mon.text ++ (d.sep minus ++ (d.mday.text ++ (d.sep 0x54 ++
    (d.hour.text ++ (d.sep colon ++ (d.min.text ++ (d.sep colon ++ (d.sec.text ++
      (d.fractionText ++ zone)))))))))))

def DateTime.tm : Tm :=
  ⟨d.year.value - 1900, d.mon.value - 1, d.mday.value, d.hour.value, d.min.value, d.sec.value, 0, 0⟩

def DateTime.InRange : Prop :=
  d.year.InRange 1970 2106 ∧ d.mon.InRange 1 12 ∧ d.mday.InRange 1 31 ∧ d.hour.InRange 0 23 ∧
    d.min.InRange 0 59 ∧ d.sec.InRange 0 60

instance : Decidable d.InRange := inferInstanceAs (Decidable (_ ∧ _))

theorem follows_sep {c : UInt8} (hc : isDigit 10 c = false) (f : Digits 2) (t : Bytes) :
    Follows (some c) (d.sep c ++ (f.text ++ t)) (f.text ++ t) := by
  obtain ⟨b, s, hf, hb⟩ := f.exists_cons (by decide)
  rw [DateTime.sep, hf]
  cases d.separated with
  | true => exact .delimiter c _
  | false =>
    refine .digit c b (s ++ t) hb ?_
    rintro rfl
    rw [hb] at hc
    cases hc

/-- The fields of a date decide whether the parser gets to what follows them. -/
theorem timeStrConvToTm_textWith (C : Calendar) {zone : Bytes} (hzone : zone ≠ []) :
    timeStrConvToTm strtoul C (d.textWith zone) =
      if d.InRange then timeStrConvTail strtoul C d.tm (d.fractionText ++ zone) else none := by
  obtain ⟨b, s, hend⟩ : ∃ b s, d.fractionText ++ zone = b :: s := by
    cases h : d.fractionText ++ zone with
    | nil => exact absurd (List.append_eq_nil_iff.mp h).2 hzone
    | cons b s => exact ⟨b, s, rfl⟩
  have hfree : Follows none (d.fractionText ++ zone) (d.fractionText ++ zone) := by
    rw [hend]
    exact .free b s
  unfold timeStrConvToTm timeStrParseTmYear timeStrParseTmMon timeStrParseTmMday timeStrParseTmHour
    timeStrParseTmMin timeStrParseTmSec DateTime.textWith
  rw [andThen_timeStrParseTm _ (by decide) (by decide) (follows_sep d rfl _ _),
    andThen_timeStrParseTm _ (by decide) (by decide) (follows_sep d rfl _ _),
    andThen_timeStrParseTm _ (by decide) (by decide) (follows_sep d rfl _ _),
    andThen_timeStrParseTm _ (by decide) (by decide) (follows_sep d rfl _ _),
    andThen_timeStrParseTm _ (by decide) (by decide) (follows_sep d rfl _ _),
    andThen_timeStrParseTm _ (by decide) (by decide) hfree]
  by_cases hrange : d.InRange
  · obtain ⟨hyear, hmon, hmday, hhour, hmin, hsec⟩ := id hrange
    rw [if_pos hrange, if_pos hyear, if_pos hmon, if_pos hmday, if_pos hhour, if_pos hmin,
      if_pos hsec]
    rfl
  · rw [if_neg hrange]
    split_ifs with hyear hmon hmday hhour hmin hsec
    · exact absurd ⟨hyear, hmon, hmday, hhour, hmin, hsec⟩ hrange
    all_goals rfl

end DateTime

section Zone

/-- `Z` or an offset `+HH:MM`, `-HH:MM`, `+HHMM` or `-HHMM`. -/
structure Offset where
  positive : Bool
  separated : Bool
  hours : Digits 2
  minutes : Digits 2
  minutes_le : minutes.value ≤ 59

variable (o : Offset)

def Offset.sign : UInt8 := if o.positive then plus else minus

def Offset.minutesText : Bytes := (if o.separated then [colon] else []) ++ o.minutes.text

def Offset.text : Bytes := o.sign :: (o.hours.text ++ o.minutesText)

def Offset.magnitude : ℕ := o.hours.value * 60 + o.minutes.value

def Offset.seconds : ℤ := if o.positive then o.magnitude * 60 else -(o.magnitude * 60)

/-- The offset is more than fourteen hours ahead or more than twelve behind. -/
def Offset.Larger : Prop := timeStrTzHoursMax o.positive * 60 < o.magnitude

instance : Decidable o.Larger := inferInstanceAs (Decidable (_ < _))

theorem follows_minutesText : Follows (some colon) o.minutesText o.minutes.text := by
  obtain ⟨b, s, hm, hb⟩ := o.minutes.exists_cons (by decide)
  rw [Offset.minutesText, hm]
  cases o.separated with
  | true => exact .delimiter colon _
  | false =>
    refine .digit colon b s hb ?_
    rintro rfl
    cases hb

/-- The zone is accepted if its hours are in the bound and its minutes are a multiple of 15. -/
theorem parseTz_offset : parseTz strtoul o.text =
    if o.hours.value ≤ timeStrTzHoursMax o.positive ∧ o.minutes.value % 15 = 0 then some o.seconds
    else none := by
  have hsign : parseTz strtoul o.text =
      parseTzHours strtoul o.positive (o.hours.text ++ o.minutesText) := by
    rw [Offset.text, parseTz, Offset.sign]
    cases o.positive <;> rfl
  have hminutes : o.minutes.InRange 0 59 := ⟨Nat.zero_le _, o.minutes_le⟩
  have hne : o.minutes.text ≠ [] := (o.minutes.isNumeral (by decide)).1
  have hmax : timeStrTzHoursMax o.positive ≤ 23 := by cases o.positive <;> decide
  rw [hsign, parseTzHours, parseValOfTm_follows _ (by decide) (by decide) (follows_minutesText o)]
  by_cases hhours : o.hours.InRange 0 23
  · simp only [if_pos hhours, Option.bind_some, parseTzMinutes, if_neg hne,
      parseValOfTm_end _ (by decide : 0 < 2) (by decide : 2 ≤ 4), if_pos hminutes, if_true,
      tzOffsetSeconds]
    by_cases hle : o.hours.value ≤ timeStrTzHoursMax o.positive
    · by_cases hmul : o.minutes.value % 15 = 0
      · have haccepted : o.hours.value ≤ timeStrTzHoursMax o.positive ∧ o.minutes.value % 15 = 0 :=
          ⟨hle, hmul⟩
        rw [if_neg (Nat.not_lt.mpr hle), if_neg (not_not.mpr hmul), if_pos haccepted]
        simp only [Offset.seconds, Offset.magnitude, Nat.cast_add, Nat.cast_mul, Nat.cast_ofNat]
      · rw [if_neg (Nat.not_lt.mpr hle), if_pos hmul, if_neg fun h => hmul h.2]
    · rw [if_pos (Nat.not_le.mp hle), if_neg fun h => hle h.1]
  · rw [if_neg hhours, if_neg]
    · rfl
    · intro h
      exact hhours ⟨Nat.zero_le _, h.1.trans hmax⟩

end Zone

section Tail

def Fraction.ms (f : Fraction) : UInt16 :=
  (msOfDigits (UInt32.ofNat (numeral 10 f.text)) f.text.length).getD 0

def DateTime.ms (d : DateTime) : UInt16 := d.fraction.elim 0 Fraction.ms

theorem exists_msOfDigits (fractSec : UInt32) {len : ℕ} (h : len ≤ 6) :
    ∃ ms, msOfDigits fractSec len = some ms := by
  interval_cases len <;> exact ⟨_, rfl⟩

/-- The fraction is what `strtoul` takes of the text behind the dot. -/
theorem parseMs_eq {f r : Bytes} {v : UInt32} (hlen : f.length ≤ 6) (hlen' : r.length ≤ 6)
    (hconv : strtoul (f ++ r) 10 = (v, r)) :
    parseMs strtoul (dot :: (f ++ r)) = (msOfDigits v f.length).map fun ms => (ms, r) := by
  have hbuf : (f ++ r).length < timeStrTmpBufSize := by
    rw [List.length_append, timeStrTmpBufSize]
    omega
  have hdigits : (f ++ r).length - r.length = f.length := by simp
  rw [parseMs, List.tail_cons, timeStrConvToUint32Cptr_eq hbuf List.take_length hconv,
    List.drop_left]
  dsimp only
  rw [hdigits]

theorem parseMs_fraction (f : Fraction) (hne : f.text ≠ []) {zone : Bytes}
    (hstop : ∀ b, zone.head? = some b → isDigit 10 b = false) (hlen : zone.length ≤ 6) :
    parseMs strtoul (dot :: (f.text ++ zone)) = some (f.ms, zone) := by
  obtain ⟨ms, hms⟩ := exists_msOfDigits (UInt32.ofNat (numeral 10 f.text)) f.length_text
  rw [parseMs_eq f.length_text hlen (strtoul_numeral ⟨hne, f.digit⟩ f.length_text hstop),
    Fraction.ms, hms]
  rfl

variable (d : DateTime) (o : Offset)

/-- A fraction with digits, or no fraction, ends where the zone begins. -/
theorem timeStrConvFraction_zone {zone : Bytes} (hdigits : ∀ f, d.fraction = some f → f.text ≠ [])
    (hstop : ∀ b, zone.head? = some b → isDigit 10 b = false ∧ b ≠ dot) (hlen : zone.length ≤ 6) :
    timeStrConvFraction strtoul (d.fractionText ++ zone) = some (d.ms, zone) := by
  unfold timeStrConvFraction DateTime.fractionText DateTime.ms
  cases hf : d.fraction with
  | none =>
    rw [Option.elim_none, Option.elim_none, List.nil_append, if_neg]
    intro hdot
    exact (hstop dot hdot).2 rfl
  | some f =>
    rw [Option.elim_some, Option.elim_some, List.cons_append, List.head?_cons, if_pos rfl]
    exact parseMs_fraction f (hdigits f hf) (fun b hb => (hstop b hb).1) hlen

/-- A date before `Z` has its own milliseconds, also if there is no digit behind the dot. -/
theorem timeStrConvFraction_z :
    timeStrConvFraction strtoul (d.fractionText ++ ascii "Z") = some (d.ms, ascii "Z") := by
  by_cases hempty : ∃ f, d.fraction = some f ∧ f.text = []
  · obtain ⟨f, hf, hnil⟩ := hempty
    unfold DateTime.fractionText DateTime.ms Fraction.ms
    rw [hf, Option.elim_some, Option.elim_some, hnil]
    decide
  · refine timeStrConvFraction_zone d ?_ ?_ (by decide)
    · intro f hf hnil
      exact hempty ⟨f, hf, hnil⟩
    · intro b hb
      rw [← Option.some.inj hb]
      decide

theorem length_text_le : o.text.length ≤ 6 := by
  have hh := o.hours.length_text
  have hm := o.minutes.length_text
  rw [Offset.text, Offset.minutesText]
  cases o.separated <;> simp [hh, hm]

theorem sign_cases : o.sign = plus ∨ o.sign = minus := by
  rw [Offset.sign]
  cases o.positive
  · exact .inr rfl
  · exact .inl rfl

theorem timeStrConvFraction_offset (hdigits : ∀ f, d.fraction = some f → f.text ≠ []) :
    timeStrConvFraction strtoul (d.fractionText ++ o.text) = some (d.ms, o.text) := by
  refine timeStrConvFraction_zone d hdigits ?_ (length_text_le o)
  intro b hb
  rw [← Option.some.inj hb]
  rcases sign_cases o with h | h <;> rw [h] <;> decide

theorem strtoul_sign {digits rest : Bytes} (hdigits : IsNumeral 10 digits)
    (hstop : ∀ b, rest.head? = some b → isDigit 10 b = false) :
    strtoul ((o.sign :: digits) ++ rest) 10 =
      ((⟨!o.positive, 10, digits, rest⟩ : NumberText).value, rest) := by
  have hsign : SignText [o.sign] (!o.positive) := by
    rw [Offset.sign]
    cases o.positive
    · exact .minus
    · exact .plus
  have hparts : NumberParts 10 [] [o.sign] [] ⟨!o.positive, 10, digits, rest⟩ := by
    refine ⟨?_, hsign, .given (by decide), hdigits, hstop, ?_⟩
    · intro c hc
      cases hc
    · intro _ hbase
      exact absurd hbase (by decide)
  have hscan : scanNumber 10 ((o.sign :: digits) ++ rest) = ⟨!o.positive, 10, digits, rest⟩ :=
    hparts.scan
  rw [strtoul_of_digits (by rw [hscan]; exact hdigits.1), hscan]

theorem value_eq_zero {negative : Bool} {digits rest : Bytes} (h : numeral 10 digits = 0) :
    (⟨negative, 10, digits, rest⟩ : NumberText).value = 0 := by
  unfold NumberText.value NumberText.magnitude
  rw [h]
  cases negative <;> rfl

theorem fractionText_noDigits {f : Fraction} (hf : d.fraction = some f) (hnil : f.text = []) :
    d.fractionText = [dot] := by
  rw [DateTime.fractionText, hf, Option.elim_some, hnil]

/-- The number before the colon. -/
theorem parseMs_separated (hsep : o.separated = true) :
    ∃ ms, parseMs strtoul (dot :: o.text) = some (ms, o.minutesText) := by
  have hlenH := o.hours.length_text
  have hlenM := o.minutes.length_text
  have hminutes : o.minutesText = colon :: o.minutes.text := by
    rw [Offset.minutesText, hsep]
    rfl
  have hstop : ∀ b, (colon :: o.minutes.text).head? = some b → isDigit 10 b = false := by
    intro b hb
    rw [← Option.some.inj hb]
    rfl
  have hparse := parseMs_eq (f := o.sign :: o.hours.text) (r := colon :: o.minutes.text)
    (by simp [hlenH]) (by simp [hlenM])
    (strtoul_sign o (o.hours.isNumeral (by decide)) hstop)
  obtain ⟨ms, hms⟩ := exists_msOfDigits
    (⟨!o.positive, 10, o.hours.text, colon :: o.minutes.text⟩ : NumberText).value
    (by decide : 3 ≤ 6)
  rw [List.length_cons, hlenH, hms] at hparse
  refine ⟨ms, ?_⟩
  rw [Offset.text, hminutes]
  exact hparse

/-- The number up to the end, which is zero if the offset is. -/
theorem parseMs_compact (hsep : o.separated = false) :
    ∃ ms, parseMs strtoul (dot :: o.text) = some (ms, []) ∧ (o.magnitude = 0 → ms = 0) := by
  have hlenH := o.hours.length_text
  have hlenM := o.minutes.length_text
  have hminutes : o.minutesText = o.minutes.text := by
    rw [Offset.minutesText, hsep]
    rfl
  have hnumeral : IsNumeral 10 (o.hours.text ++ o.minutes.text) := by
    refine ⟨by simp [(o.hours.isNumeral (by decide)).1], ?_⟩
    intro b hb
    exact (List.mem_append.mp hb).elim (o.hours.digit b) (o.minutes.digit b)
  have hparse := parseMs_eq (f := o.sign :: (o.hours.text ++ o.minutes.text)) (r := [])
    (by simp [hlenH, hlenM]) (by simp) (strtoul_sign o hnumeral (by simp))
  obtain ⟨ms, hms⟩ := exists_msOfDigits
    (⟨!o.positive, 10, o.hours.text ++ o.minutes.text, []⟩ : NumberText).value (by decide : 5 ≤ 6)
  rw [List.append_nil, List.length_cons, List.length_append, hlenH, hlenM, hms] at hparse
  refine ⟨ms, ?_, ?_⟩
  · rw [Offset.text, hminutes]
    exact hparse
  · intro hzero
    rw [Offset.magnitude] at hzero
    have hhours : o.hours.value = 0 := by omega
    have hmins : o.minutes.value = 0 := by omega
    have hnum : numeral 10 (o.hours.text ++ o.minutes.text) = 0 := by
      unfold Digits.value numeral at hhours hmins
      rw [numeral, numeralFrom_append, hhours, hmins]
    rw [value_eq_zero hnum] at hms
    exact (Option.some.inj hms).symm

/-- Without a digit behind the dot the sign of the offset and the digits behind it are the
fraction. -/
theorem timeStrConvFraction_noDigits {f : Fraction} (hf : d.fraction = some f)
    (hnil : f.text = []) :
    ∃ ms, timeStrConvFraction strtoul (d.fractionText ++ o.text) =
      some (ms, if o.separated then o.minutesText else []) ∧
        (o.separated = false → o.magnitude = 0 → ms = 0) := by
  rw [fractionText_noDigits d hf hnil, List.singleton_append, timeStrConvFraction, List.head?_cons,
    if_pos rfl]
  cases hsep : o.separated with
  | true =>
    obtain ⟨ms, hms⟩ := parseMs_separated o hsep
    exact ⟨ms, hms, by simp⟩
  | false =>
    obtain ⟨ms, hms, hzero⟩ := parseMs_compact o hsep
    exact ⟨ms, hms, fun _ => hzero⟩

end Tail

section Law

variable (C : Calendar) (d : DateTime) (o : Offset)

/-- The date ends with a dot that no digit follows. -/
def DateTime.endsWithDot : Bool := d.fraction.any fun f => f.text.isEmpty

theorem digits_of_not_endsWithDot {d : DateTime} (h : d.endsWithDot = false) :
    ∀ f, d.fraction = some f → f.text ≠ [] := by
  intro f hf hnil
  rw [DateTime.endsWithDot, hf, Option.any_some, hnil] at h
  cases h

/-- The time of a date with an offset. -/
def DateTime.zoned : Tm :=
  if o.seconds = 0 then d.tm
  else { C.gmtimeR (C.osMkgmtime d.tm - o.seconds) with isdst := 0 }

theorem offset_text_ne : o.text ≠ [] ∧ o.text ≠ ascii "Z" := by
  refine ⟨List.cons_ne_nil _ _, ?_⟩
  intro h
  have hlen := congrArg List.length h
  have hh := o.hours.length_text
  simp only [Offset.text, List.length_cons, List.length_append, hh] at hlen
  have hz : (ascii "Z").length = 1 := by decide
  omega

theorem timeStrConvToTm_z : timeStrConvToTm strtoul C (d.textWith (ascii "Z")) =
    if d.InRange then some (d.tm, d.ms) else none := by
  rw [timeStrConvToTm_textWith d C (by decide), timeStrConvTail, timeStrConvFraction_z,
    Option.bind_some]
  have hend : ascii "Z" = [] ∨ ascii "Z" = ascii "Z" := .inr rfl
  dsimp only
  rw [timeStrConvZone, if_pos hend]

theorem timeStrConvToTm_offset (hdot : d.endsWithDot = false) :
    timeStrConvToTm strtoul C (d.textWith o.text) =
      if d.InRange ∧ o.hours.value ≤ timeStrTzHoursMax o.positive ∧ o.minutes.value % 15 = 0 then
        some (d.zoned C o, d.ms) else none := by
  rw [timeStrConvToTm_textWith d C (offset_text_ne o).1, timeStrConvTail,
    timeStrConvFraction_offset d o (digits_of_not_endsWithDot hdot), Option.bind_some]
  dsimp only
  rw [timeStrConvZone, if_neg (not_or.mpr (offset_text_ne o)), parseTz_offset]
  by_cases hrange : d.InRange
  · rw [if_pos hrange]
    by_cases hzone : o.hours.value ≤ timeStrTzHoursMax o.positive ∧ o.minutes.value % 15 = 0
    · rw [if_pos hzone, if_pos ⟨hrange, hzone⟩, Option.map_some, DateTime.zoned]
      split_ifs <;> rfl
    · rw [if_neg hzone, if_neg fun h => hzone h.2]
      rfl
  · rw [if_neg hrange, if_neg fun h => hrange h.1]

/-- With a dot at its end a date takes the offset for its fraction. -/
theorem timeStrConvToTm_dot (hdot : d.endsWithDot = true) (hrange : d.InRange) :
    ∃ ms, timeStrConvToTm strtoul C (d.textWith o.text) =
        (if o.separated then none else some (d.tm, ms)) ∧
      (o.separated = false → o.magnitude = 0 → ms = d.ms) := by
  obtain ⟨f, hf, hnil⟩ : ∃ f, d.fraction = some f ∧ f.text = [] := by
    obtain ⟨f, hf, hempty⟩ := Option.any_eq_true _ _ |>.mp hdot
    exact ⟨f, hf, List.isEmpty_iff.mp hempty⟩
  have hms : d.ms = 0 := by
    rw [DateTime.ms, hf, Option.elim_some, Fraction.ms, hnil]
    rfl
  obtain ⟨ms, hfraction, hzero⟩ := timeStrConvFraction_noDigits d o hf hnil
  refine ⟨ms, ?_, ?_⟩
  · rw [timeStrConvToTm_textWith d C (offset_text_ne o).1, if_pos hrange, timeStrConvTail,
      hfraction, Option.bind_some]
    dsimp only
    rw [timeStrConvZone]
    cases hsep : o.separated with
    | true =>
      have hcolon : o.minutesText = colon :: o.minutes.text := by
        rw [Offset.minutesText, hsep]
        rfl
      rw [if_pos rfl, if_pos rfl, hcolon, if_neg]
      · rfl
      · rintro (h | h)
        · cases h
        · exact absurd (List.cons.inj h).1 (by decide)
    | false => rw [if_neg Bool.false_ne_true, if_neg Bool.false_ne_true, if_pos (.inl rfl)]
  · intro hsep hmag
    rw [hms]
    exact hzero hsep hmag

/-- An offset in the bound is accepted with the milliseconds of the date before `Z` and shifts its
time, and a larger one is rejected. -/
structure ZoneLaw : Prop where
  accepted : ∀ tm ms, timeStrConvToTm strtoul C (d.textWith (ascii "Z")) = some (tm, ms) →
    ¬o.Larger → o.minutes.value % 15 = 0 →
    ∃ tm', timeStrConvToTm strtoul C (d.textWith o.text) = some (tm', ms) ∧
      timeStrConvToUnixTime strtoul C (d.textWith o.text) =
        timeStrConvToUnixTime strtoul C (d.textWith (ascii "Z")) - o.seconds
  rejected : o.Larger → timeStrConvToTm strtoul C (d.textWith o.text) = none

/-- The hours are not at their bound with a quarter of an hour more, and behind a dot without digits
the offset is one that is not accepted anyway, or zero without a separator. -/
def ZoneRead : Prop :=
  if d.endsWithDot = true then
    if o.separated = true then o.Larger ∨ o.minutes.value % 15 ≠ 0
    else o.magnitude = 0 ∨ (¬o.Larger ∧ o.minutes.value % 15 ≠ 0)
  else ¬(o.hours.value = timeStrTzHoursMax o.positive ∧ 0 < o.minutes.value ∧
    o.minutes.value % 15 = 0)

theorem larger_iff (hmax : o.hours.value ≤ timeStrTzHoursMax o.positive) :
    o.Larger ↔ o.hours.value = timeStrTzHoursMax o.positive ∧ 0 < o.minutes.value := by
  have hle := o.minutes_le
  rw [Offset.Larger, Offset.magnitude]
  omega

theorem timeStrConvToUnixTime_eq {s : Bytes} {tm : Tm} {ms : UInt16}
    (h : timeStrConvToTm strtoul C s = some (tm, ms)) :
    timeStrConvToUnixTime strtoul C s = C.osMkgmtime tm := by
  rw [timeStrConvToUnixTime, h]

theorem zoneLaw_digits_iff (hdot : d.endsWithDot = false) (hrange : d.InRange)
    (hinverse : C.osMkgmtime (d.zoned C o) = C.osMkgmtime d.tm - o.seconds) :
    ZoneLaw C d o ↔ ¬(o.hours.value = timeStrTzHoursMax o.positive ∧ 0 < o.minutes.value ∧
      o.minutes.value % 15 = 0) := by
  have hz := timeStrConvToTm_z C d
  have ho := timeStrConvToTm_offset C d o hdot
  rw [if_pos hrange] at hz
  constructor
  · rintro hlaw ⟨hhours, hpos, hmul⟩
    rw [if_pos ⟨hrange, hhours.le, hmul⟩] at ho
    rw [hlaw.rejected ((larger_iff o hhours.le).mpr ⟨hhours, hpos⟩)] at ho
    cases ho
  · intro hnot
    refine ⟨?_, ?_⟩
    · intro tm ms htm hlarger hmul
      rw [hz] at htm
      obtain ⟨rfl, rfl⟩ := Prod.mk.inj (Option.some.inj htm)
      have hhours : o.hours.value ≤ timeStrTzHoursMax o.positive := by
        rw [Offset.Larger, Offset.magnitude] at hlarger
        omega
      rw [if_pos ⟨hrange, hhours, hmul⟩] at ho
      refine ⟨_, ho, ?_⟩
      rw [timeStrConvToUnixTime_eq C ho, timeStrConvToUnixTime_eq C hz, hinverse]
    · intro hlarger
      rw [ho, if_neg]
      rintro ⟨-, hhours, hmul⟩
      obtain ⟨heq, hpos⟩ := (larger_iff o hhours).mp hlarger
      exact hnot ⟨heq, hpos, hmul⟩

theorem zoneLaw_dot_iff (hdot : d.endsWithDot = true) (hrange : d.InRange) :
    ZoneLaw C d o ↔ if o.separated = true then o.Larger ∨ o.minutes.value % 15 ≠ 0
      else o.magnitude = 0 ∨ (¬o.Larger ∧ o.minutes.value % 15 ≠ 0) := by
  have hz := timeStrConvToTm_z C d
  rw [if_pos hrange] at hz
  obtain ⟨ms, ho, hzero⟩ := timeStrConvToTm_dot C d o hdot hrange
  cases hsep : o.separated with
  | true =>
    rw [hsep, if_pos rfl] at ho
    rw [if_pos rfl]
    constructor
    · intro hlaw
      by_contra hnot
      rw [not_or, not_not] at hnot
      obtain ⟨tm', htm', -⟩ := hlaw.accepted _ _ hz hnot.1 hnot.2
      rw [ho] at htm'
      cases htm'
    · intro hor
      exact ⟨fun _ _ _ hlarger hmul => absurd hor (not_or.mpr ⟨hlarger, not_not.mpr hmul⟩),
        fun _ => ho⟩
  | false =>
    rw [hsep, if_neg Bool.false_ne_true] at ho
    rw [if_neg Bool.false_ne_true]
    have hunix := timeStrConvToUnixTime_eq C ho
    have hunix' := timeStrConvToUnixTime_eq C hz
    constructor
    · intro hlaw
      have hlarger : ¬o.Larger := by
        intro hlarger
        rw [hlaw.rejected hlarger] at ho
        cases ho
      by_cases hmul : o.minutes.value % 15 = 0
      · left
        obtain ⟨-, -, hshift⟩ := hlaw.accepted _ _ hz hlarger hmul
        rw [hunix, hunix', Offset.seconds] at hshift
        split_ifs at hshift <;> omega
      · exact .inr ⟨hlarger, hmul⟩
    · rintro (hmag | ⟨hlarger, hmul⟩)
      · refine ⟨?_, ?_⟩
        · intro tm ms' htm _ _
          rw [hz] at htm
          obtain ⟨rfl, rfl⟩ := Prod.mk.inj (Option.some.inj htm)
          rw [hzero hsep hmag] at ho
          refine ⟨_, ho, ?_⟩
          rw [hunix, hunix', Offset.seconds, hmag]
          split_ifs <;> simp
        · intro hlarger
          rw [Offset.Larger, hmag] at hlarger
          omega
      · exact ⟨fun _ _ _ _ h => absurd h hmul, fun h => absurd h hlarger⟩

/-- The law of a date that is accepted before `Z`, with a calendar whose functions are inverse at
its time. -/
theorem zoneLaw_iff {C : Calendar} {d : DateTime} {o : Offset} {tm : Tm} {ms : UInt16}
    (haccepted : timeStrConvToTm strtoul C (d.textWith (ascii "Z")) = some (tm, ms))
    (hinverse : C.osMkgmtime { C.gmtimeR (C.osMkgmtime tm - o.seconds) with isdst := 0 } =
      C.osMkgmtime tm - o.seconds) : ZoneLaw C d o ↔ ZoneRead d o := by
  rw [timeStrConvToTm_z] at haccepted
  split_ifs at haccepted with hrange
  obtain ⟨rfl, -⟩ := Prod.mk.inj (Option.some.inj haccepted)
  unfold ZoneRead
  cases hdot : d.endsWithDot with
  | true =>
    rw [if_pos rfl]
    exact zoneLaw_dot_iff C d o hdot hrange
  | false =>
    rw [if_neg Bool.false_ne_true]
    refine zoneLaw_digits_iff C d o hdot hrange ?_
    rw [DateTime.zoned]
    split_ifs with hzero
    · rw [hzero, sub_zero]
    · exact hinverse

end Law

section Gregorian

/-- The days from the first of January 1970, with years that begin in March. -/
def daysFromCivil (year mon mday : ℤ) : ℤ :=
  let y := if mon ≤ 1 then year - 1 else year
  let yoe := y % 400
  let doy := (153 * (if mon ≤ 1 then mon + 10 else mon - 2) + 2) / 5 + mday - 1
  y / 400 * 146097 + (yoe * 365 + yoe / 4 - yoe / 100 + doy) - 719468

def civilFromDays (days : ℤ) : ℤ × ℤ × ℤ :=
  let doe := (days + 719468) % 146097
  let yoe := (doe - doe / 1460 + doe / 36524 - doe / 146096) / 365
  let doy := doe - (365 * yoe + yoe / 4 - yoe / 100)
  let mp := (5 * doy + 2) / 153
  let mon := if mp < 10 then mp + 2 else mp - 10
  let y := yoe + (days + 719468) / 146097 * 400
  (if mon ≤ 1 then y + 1 else y, mon, doy - (153 * mp + 2) / 5 + 1)

def gregorian : Calendar where
  osMkgmtime tm :=
    daysFromCivil (tm.year + 1900) tm.mon tm.mday * 86400 + tm.hour * 3600 + tm.min * 60 + tm.sec
  gmtimeR t :=
    let (year, mon, mday) := civilFromDays (t / 86400)
    ⟨year - 1900, mon, mday, t % 86400 / 3600, t % 3600 / 60, t % 60, (t / 86400 + 4) % 7, 0⟩

def Digits.ofText {n : ℕ} (s : Bytes) (h : s.length = n ∧ s.all (isDigit 10) = true) : Digits n :=
  ⟨s, h.1, List.all_eq_true.mp h.2⟩

def sampleDate (separated : Bool) (fraction : Option Fraction) : DateTime :=
  ⟨separated, .ofText (ascii "2021") (by decide), .ofText (ascii "07") (by decide),
    .ofText (ascii "19") (by decide), .ofText (ascii "01") (by decide),
    .ofText (ascii "28") (by decide), .ofText (ascii "10") (by decide), fraction⟩

def sampleFraction : Fraction :=
  ⟨ascii "096", by decide, List.all_eq_true.mp (by decide)⟩

def emptyFraction : Fraction := ⟨[], Nat.zero_le _, List.forall_mem_nil _⟩

def quarterOffset (hours : Digits 2) (separated : Bool) : Offset :=
  ⟨true, separated, hours, .ofText (ascii "15") (by decide), by decide⟩

theorem zoneLaw_sample :
    ZoneLaw gregorian (sampleDate true (some sampleFraction))
        (quarterOffset (.ofText (ascii "02") (by decide)) true) ↔
      ZoneRead (sampleDate true (some sampleFraction))
        (quarterOffset (.ofText (ascii "02") (by decide)) true) := by
  have haccepted : timeStrConvToTm strtoul gregorian
      ((sampleDate true (some sampleFraction)).textWith (ascii "Z")) =
        some (⟨121, 6, 19, 1, 28, 10, 0, 0⟩, 96) := by
    decide
  exact zoneLaw_iff haccepted (by decide)

/-- `20210719012810+1415` is accepted, and behind `2021-07-19T01:28:10.` the offset `+02:15` is
not. -/
theorem zoneLaw_wrong :
    ¬ZoneLaw gregorian (sampleDate false none)
        (quarterOffset (.ofText (ascii "14") (by decide)) false) ∧
      ¬ZoneLaw gregorian (sampleDate true (some emptyFraction))
        (quarterOffset (.ofText (ascii "02") (by decide)) true) := by
  refine ⟨?_, ?_⟩
  · intro hlaw
    have hnone := hlaw.rejected (by decide)
    have hsome : timeStrConvToTm strtoul gregorian ((sampleDate false none).textWith
        (quarterOffset (.ofText (ascii "14") (by decide)) false).text) ≠ none := by
      decide
    exact hsome hnone
  · intro hlaw
    have hz : timeStrConvToTm strtoul gregorian
        ((sampleDate true (some emptyFraction)).textWith (ascii "Z")) =
          some (⟨121, 6, 19, 1, 28, 10, 0, 0⟩, 0) := by
      decide
    obtain ⟨tm, hsome, -⟩ := hlaw.accepted _ _ hz (by decide) (by decide)
    have hnone : timeStrConvToTm strtoul gregorian ((sampleDate true (some emptyFraction)).textWith
        (quarterOffset (.ofText (ascii "02") (by decide)) true).text) = none := by
      decide
    rw [hnone] at hsome
    cases hsome

end Gregorian

end RuuviGateway.Time
