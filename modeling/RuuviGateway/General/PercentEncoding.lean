import RuuviGateway.General.Numerals

/-!
# Percent-encoding

A byte that is not plain is written as a percent sign and two hexadecimal digits. A text is
well-formed if every percent sign in it is followed by two digits, and these are not `00`: then the
decoded text is a C string again.
-/

namespace General.Percent

def percent : UInt8 := 0x25

def upperHexDigit (n : ℕ) : UInt8 := UInt8.ofNat (if n < 10 then 48 + n else 55 + n)

/-- `%HH` -/
def triple (b : UInt8) : Bytes :=
  [percent, upperHexDigit (b.toNat / 16), upperHexDigit (b.toNat % 16)]

def piece (plain : UInt8 → Bool) (b : UInt8) : Bytes := if plain b then [b] else triple b

def encode (plain : UInt8 → Bool) (s : Bytes) : Bytes := s.flatMap (piece plain)

/-- The two digits of an encoded byte that is not NUL. -/
def IsByte (hi lo : UInt8) : Prop :=
  isDigit 16 hi = true ∧ isDigit 16 lo = true ∧ ¬(hi = 0x30 ∧ lo = 0x30)

instance (hi lo : UInt8) : Decidable (IsByte hi lo) := inferInstanceAs (Decidable (_ ∧ _))

def byteOf (hi lo : UInt8) : UInt8 := UInt8.ofNat (numeral 16 [hi, lo])

def decode : Bytes → Option Bytes
  | [] => some []
  | b :: s =>
    if b = percent then
      match s with
      | hi :: lo :: rest =>
        if IsByte hi lo then (decode rest).map (byteOf hi lo :: ·) else none
      | _ => none
    else (decode s).map (b :: ·)

def WellFormed (s : Bytes) : Prop :=
  ∀ i, s[i]? = some percent →
    ∃ hi lo, s[i + 1]? = some hi ∧ s[i + 2]? = some lo ∧ IsByte hi lo

/-- Induction along a text whose percent signs are each taken with the two characters behind them.
-/
@[elab_as_elim]
theorem escape_induction {motive : Bytes → Prop} (nil : motive []) (alone : motive [percent])
    (single : ∀ hi, motive [percent, hi])
    (escape : ∀ hi lo rest, motive rest → motive (percent :: hi :: lo :: rest))
    (plain : ∀ b rest, b ≠ percent → motive rest → motive (b :: rest)) : ∀ t, motive t
  | [] => nil
  | b :: s => by
    by_cases hb : b = percent
    · rw [hb]
      match s with
      | [] => exact alone
      | [hi] => exact single hi
      | hi :: lo :: rest =>
        exact escape hi lo rest (escape_induction nil alone single escape plain rest)
    · exact plain b s hb (escape_induction nil alone single escape plain s)

theorem isDigit_upperHexDigit {n : ℕ} (h : n < 16) :
    isDigit 16 (upperHexDigit n) = true ∧ (digitValue (upperHexDigit n)).getD 0 = n := by
  have hall : ∀ n < 16, isDigit 16 (upperHexDigit n) = true ∧
      (digitValue (upperHexDigit n)).getD 0 = n := by decide
  exact hall n h

theorem byteOf_upperHexDigit (b : UInt8) :
    byteOf (upperHexDigit (b.toNat / 16)) (upperHexDigit (b.toNat % 16)) = b := by
  have hb := b.toNat_lt
  have hhi := (isDigit_upperHexDigit (n := b.toNat / 16) (by omega)).2
  have hlo := (isDigit_upperHexDigit (n := b.toNat % 16) (by omega)).2
  have hvalue : 16 * (16 * 0 + b.toNat / 16) + b.toNat % 16 = b.toNat := by omega
  rw [byteOf, numeral, numeralFrom, numeralFrom, numeralFrom, hhi, hlo, hvalue, UInt8.ofNat_toNat]

theorem isByte_upperHexDigit {b : UInt8} (h : b ≠ 0) :
    IsByte (upperHexDigit (b.toNat / 16)) (upperHexDigit (b.toNat % 16)) := by
  have hb := b.toNat_lt
  refine ⟨(isDigit_upperHexDigit (by omega)).1, (isDigit_upperHexDigit (by omega)).1, ?_⟩
  rintro ⟨hhi, hlo⟩
  have hzero := byteOf_upperHexDigit b
  rw [hhi, hlo] at hzero
  exact h hzero.symm

theorem decode_cons {b : UInt8} (h : b ≠ percent) (s : Bytes) :
    decode (b :: s) = (decode s).map (b :: ·) := by
  rcases s with _ | ⟨hi, _ | ⟨lo, rest⟩⟩ <;> simp only [decode, if_neg h]

theorem decode_triple {hi lo : UInt8} (h : IsByte hi lo) (s : Bytes) :
    decode (percent :: hi :: lo :: s) = (decode s).map (byteOf hi lo :: ·) := by
  rw [decode, if_pos rfl]
  exact if_pos h

/-- Decoding undoes encoding if a percent sign is not plain. -/
theorem decode_encode {plain : UInt8 → Bool} (hplain : plain percent = false) {s : Bytes}
    (hs : 0 ∉ s) : decode (encode plain s) = some s := by
  induction s with
  | nil => rfl
  | cons b s ih =>
    rw [List.mem_cons, not_or] at hs
    rw [encode, List.flatMap_cons, piece]
    by_cases hb : plain b = true
    · have hne : b ≠ percent := by
        rintro rfl
        rw [hplain] at hb
        cases hb
      rw [if_pos hb, List.singleton_append, decode_cons hne]
      exact congrArg (Option.map (b :: ·)) (ih hs.2)
    · rw [if_neg hb]
      have hbyte := isByte_upperHexDigit (Ne.symm hs.1)
      have htail := ih hs.2
      unfold encode at htail
      simp only [triple, List.cons_append, List.nil_append]
      rw [decode_triple hbyte, htail, byteOf_upperHexDigit]
      rfl

section WellFormed

theorem wellFormed_nil : WellFormed [] := by
  intro i hi
  cases hi

theorem wellFormed_cons {b : UInt8} (h : b ≠ percent) {s : Bytes} :
    WellFormed (b :: s) ↔ WellFormed s := by
  constructor
  · intro hall i hi
    exact hall (i + 1) hi
  · intro hall i hi
    cases i with
    | zero => exact absurd (Option.some.inj hi) h
    | succ i => exact hall i hi

theorem ne_percent_of_isDigit {b : UInt8} (h : isDigit 16 b = true) : b ≠ percent :=
  ne_of_isDigit h (by decide)

theorem wellFormed_triple {hi lo : UInt8} {s : Bytes} :
    WellFormed (percent :: hi :: lo :: s) ↔ IsByte hi lo ∧ WellFormed s := by
  constructor
  · intro hall
    obtain ⟨hi', lo', hhi, hlo, hbyte⟩ := hall 0 rfl
    obtain rfl : hi = hi' := Option.some.inj hhi
    obtain rfl : lo = lo' := Option.some.inj hlo
    refine ⟨hbyte, ?_⟩
    intro i hs
    exact hall (i + 3) hs
  · rintro ⟨hbyte, hall⟩ i hs
    match i with
    | 0 => exact ⟨hi, lo, rfl, rfl, hbyte⟩
    | 1 => exact absurd (Option.some.inj hs) (ne_percent_of_isDigit hbyte.1)
    | 2 => exact absurd (Option.some.inj hs) (ne_percent_of_isDigit hbyte.2.1)
    | i + 3 => exact hall i hs

/-- The texts that can be decoded are the well-formed ones. -/
theorem isSome_decode_iff (s : Bytes) : (decode s).isSome = true ↔ WellFormed s := by
  induction s using decode.induct with
  | case1 => exact iff_of_true rfl wellFormed_nil
  | case2 hi lo rest hbyte ih =>
    rw [decode_triple hbyte, Option.isSome_map, ih, wellFormed_triple]
    exact (and_iff_right hbyte).symm
  | case3 hi lo rest hbyte =>
    rw [decode, if_pos rfl, if_neg hbyte, wellFormed_triple]
    exact iff_of_false Bool.false_ne_true fun h => hbyte h.1
  | case4 s hshort =>
    refine iff_of_false ?_ ?_
    · rcases s with _ | ⟨hi, _ | ⟨lo, rest⟩⟩
      · exact Bool.false_ne_true
      · exact Bool.false_ne_true
      · exact (hshort hi lo rest rfl).elim
    · intro hall
      obtain ⟨hi, lo, hhi, hlo, -⟩ := hall 0 rfl
      rcases s with _ | ⟨c, _ | ⟨d, rest⟩⟩
      · cases hhi
      · cases hlo
      · exact hshort c d rest rfl
  | case5 b s hb ih => rw [decode_cons hb, Option.isSome_map, ih, wellFormed_cons hb]

end WellFormed

end General.Percent
