import Mathlib.Data.List.TakeWhile
import RuuviGateway.Config.Sample
import RuuviGateway.General.Numerals

/-!
# When a numeric getter is exact

A getter is exact on an item if it reads it without a fault and stores nothing but the integer
that is written there. The four getters fail on different items: the one of 32 bits cuts numbers to
16 bits and takes signs and long texts, the others ignore what follows the digits of a text, and all
of them drop the fraction of a number and read the missing text of an item that has none.
-/

namespace RuuviGateway.Config

open General

variable {P : Platform} {root : Json} {key : String}

def textBase (s : Bytes) : ℕ := if prefixHex.isPrefixOf s then 16 else 10

/-- The integer that an item is written as, if it is one. -/
def writtenInt : Json → Option ℤ
  | .number q => if q.den = 1 then some q.num else none
  | .string s => denoted (textBase (cstr s)) (cstr s)
  | _ => none

/-- The getter does not fault, and if it stores a value then that is the one written. -/
def Exact {α : Type} (toInt : α → ℤ) (attr : Option Json) (result : Option (Option α)) : Prop :=
  ∃ stored, result = some stored ∧ ∀ v, stored = some v → attr.bind writtenInt = some (toInt v)

section Conditions

def NumberExact (lower upper : ℚ) (q : ℚ) : Prop := q ≤ lower ∨ upper ≤ q ∨ q.den = 1

/-- Only digits follow the `0x` of a text whose digits give a number in the range. -/
def HexTextExact (max : ℕ) (s : Bytes) : Prop :=
  prefixHex.isPrefixOf s → hexValue 0 (s.drop 2) ≤ max → IsNumeral 16 (s.drop 2)

/-- The text is not empty, and no integer out of range. -/
def LongTextExact (s : Bytes) : Prop :=
  s ≠ [] ∧ ∀ z, denoted (textBase s) s = some z → 0 ≤ z ∧ z < 0x100000000

/-- The items without a text are excluded. -/
def ItemExact (number : ℚ → Prop) (text : Bytes → Prop) : Option Json → Prop
  | none => True
  | some (.number q) => number q
  | some (.string s) => text (cstr s)
  | some _ => False

def Uint32Exact : Option Json → Prop :=
  ItemExact (fun q => q ≤ -1 ∨ q < 0x10000 ∧ q.den = 1) LongTextExact

def UintExact (max : ℕ) : Option Json → Prop :=
  ItemExact (NumberExact (-1) (max + 1)) (HexTextExact max)

def Int8Exact : Option Json → Prop :=
  ItemExact (NumberExact (-0x81) 0x80) (HexTextExact 0x7f)

end Conditions

section Hex

theorem hexDigit_eq (b : UInt8) :
    hexDigit b = if isDigit 16 b then some ((digitValue b).getD 0) else none := by
  unfold hexDigit isDigit digitValue
  simp only [UInt8.le_iff_toNat_le]
  have h30 : (0x30 : UInt8).toNat = 48 := rfl
  have h39 : (0x39 : UInt8).toNat = 57 := rfl
  have h41 : (0x41 : UInt8).toNat = 65 := rfl
  have h46 : (0x46 : UInt8).toNat = 70 := rfl
  have h61 : (0x61 : UInt8).toNat = 97 := rfl
  have h66 : (0x66 : UInt8).toNat = 102 := rfl
  simp only [h30, h39, h41, h46, h61, h66]
  split_ifs <;> simp_all <;> omega

/-- The digits are read up to the first character that is none. -/
theorem hexValue_eq (s : Bytes) (acc : ℕ) :
    hexValue acc s = numeralFrom 16 acc (s.takeWhile (isDigit 16)) := by
  induction s generalizing acc with
  | nil => rfl
  | cons b s ih =>
    rw [hexValue, hexDigit_eq]
    by_cases hb : isDigit 16 b = true
    · rw [if_pos hb, List.takeWhile_cons_of_pos hb, numeralFrom]
      exact ih _
    · rw [if_neg hb, List.takeWhile_cons_of_neg hb, numeralFrom]

theorem eq_cons_of_prefixHex {s : Bytes} (h : prefixHex.isPrefixOf s) :
    s = 0x30 :: 0x78 :: s.drop 2 := by
  obtain ⟨t, rfl⟩ := List.isPrefixOf_iff_prefix.mp h
  rfl

/-- A text that begins with `0x` denotes an integer if the rest are digits. -/
theorem denoted_of_prefixHex {s : Bytes} (h : prefixHex.isPrefixOf s) :
    denoted 16 s = if IsNumeral 16 (s.drop 2) then some (hexValue 0 (s.drop 2) : ℤ) else none := by
  obtain ⟨t, ht⟩ : ∃ t, s = 0x30 :: 0x78 :: t := ⟨_, eq_cons_of_prefixHex h⟩
  subst ht
  rw [List.drop_succ_cons, List.drop_succ_cons, List.drop_zero]
  by_cases hpre : hasHexPrefix (0x30 :: 0x78 :: t) = true
  · simp only [denoted, scanNumber_hexPrefix (.inl rfl) hpre]
    by_cases hnum : IsNumeral 16 t
    · have htake : t.takeWhile (isDigit 16) = t := List.takeWhile_eq_self_iff.mpr hnum.2
      have hdrop : t.dropWhile (isDigit 16) = [] := List.dropWhile_eq_nil_iff.mpr hnum.2
      rw [if_pos hnum, htake, hdrop, if_neg (by simp [hnum.1]), hexValue_eq, htake]
      rfl
    · rw [if_neg hnum, if_pos]
      by_contra hnone
      rw [not_or, not_not, List.dropWhile_eq_nil_iff] at hnone
      refine hnum ⟨?_, hnone.2⟩
      rintro rfl
      exact hnone.1 rfl
  · have hnum : ¬IsNumeral 16 t := by
      rintro ⟨hne, hall⟩
      cases t with
      | nil => exact hne rfl
      | cons d t => exact hpre (hall d List.mem_cons_self)
    have hzero : IsNumeral 16 [0x30] := isNumeral_singleton.mpr (by decide)
    have hscan : scanNumber 16 ([0x30] ++ 0x78 :: t) = ⟨false, 16, [0x30], 0x78 :: t⟩ := by
      refine scanNumber_digits (by decide) hzero ?_ fun _ => Bool.eq_false_of_not_eq_true hpre
      intro b hb
      rw [← Option.some.inj hb]
      rfl
    rw [if_neg hnum]
    unfold denoted
    have happend : [(0x30 : UInt8)] ++ 0x78 :: t = 0x30 :: 0x78 :: t := rfl
    rw [← happend, hscan]
    exact if_pos (.inr (List.cons_ne_nil _ _))

end Hex

section Exactness

variable {α : Type} {toInt : α → ℤ}

theorem exact_none : Exact toInt none (some none) := ⟨none, rfl, nofun⟩

theorem exact_stored {item : Json} {v : α} :
    Exact toInt (some item) (some (some v)) ↔ writtenInt item = some (toInt v) := by
  constructor
  · rintro ⟨stored, hstored, hexact⟩
    exact hexact v (Option.some.inj hstored).symm
  · intro h
    refine ⟨some v, rfl, ?_⟩
    rintro w hw
    rw [← Option.some.inj hw]
    exact h

theorem exact_kept {attr : Option Json} : Exact toInt attr (some none) := ⟨none, rfl, nofun⟩

theorem not_exact_fault {attr : Option Json} : ¬Exact toInt attr none := by
  rintro ⟨stored, hstored, -⟩
  cases hstored

theorem exact_integer_iff {q : ℚ} {v : α} :
    Exact toInt (some (.number q)) (some (some v)) ↔ q.den = 1 ∧ q.num = toInt v := by
  rw [exact_stored, writtenInt]
  split_ifs with hden
  · simp [hden]
  · simp [hden]

theorem valueint_of_den {q : ℚ} (lo hi : ℤ) (hden : q.den = 1) (hlo : lo < q) (hhi : q < hi)
    (hmin : Json.intMin ≤ lo) (hmax : hi ≤ Json.intMax) : Json.valueint q = q.num := by
  have hq : (q.num : ℚ) = q := (Rat.den_eq_one_iff q).mp hden
  rw [← hq] at hlo hhi
  have hlo' : lo < q.num := by exact_mod_cast hlo
  have hhi' : q.num < hi := by exact_mod_cast hhi
  calc Json.valueint q = Json.valueint q.num := by rw [hq]
    _ = q.num := Json.valueint_intCast (by omega) (by omega)

/-- A number in the range of a getter is stored without its fraction. -/
theorem exact_number_iff {q : ℚ} (lo hi : ℤ) (f : ℤ → α) (hlo : lo ≤ 0) (hmin : Json.intMin < lo)
    (hhi : 0 ≤ hi) (hmax : hi < Json.intMax) (hf : ∀ z, lo ≤ z → z ≤ hi → toInt (f z) = z) :
    Exact toInt (some (.number q))
      (if lo ≤ Json.valueint q ∧ Json.valueint q ≤ hi then some (some (f (Json.valueint q)))
        else some none) ↔ NumberExact (lo - 1) (hi + 1) q := by
  have hlower := Json.le_valueint_iff (q := q) hlo hmin
  have hupper := Json.valueint_le_iff (q := q) hhi hmax
  unfold NumberExact
  by_cases hrange : lo ≤ Json.valueint q ∧ Json.valueint q ≤ hi
  · rw [if_pos hrange, exact_integer_iff, hf _ hrange.1 hrange.2]
    have hq1 : ¬q ≤ lo - 1 := not_le.mpr (hlower.mp hrange.1)
    have hq2 : ¬(hi + 1 : ℚ) ≤ q := not_le.mpr (hupper.mp hrange.2)
    simp only [hq1, hq2, false_or, and_iff_left_iff_imp]
    intro hden
    have hlo' : ((lo - 1 : ℤ) : ℚ) < q := by
      push_cast
      exact hlower.mp hrange.1
    have hhi' : q < ((hi + 1 : ℤ) : ℚ) := by
      push_cast
      exact hupper.mp hrange.2
    exact (valueint_of_den _ _ hden hlo' hhi' (by omega) (by omega)).symm
  · rw [if_neg hrange]
    refine iff_of_true exact_kept ?_
    rw [not_and_or, hlower, hupper, not_lt, not_lt] at hrange
    exact hrange.imp_right .inl

/-- A text in hexadecimal is stored without what follows its digits. -/
theorem exact_hexText_iff {s : Bytes} (max lim : ℕ) (f : ℕ → α) (hlim : max < lim)
    (hf : ∀ n, n ≤ max → toInt (f n) = n) :
    Exact toInt (some (.string s))
      (some (if prefixHex.isPrefixOf (cstr s) ∧ min (hexValue 0 ((cstr s).drop 2)) lim ≤ max then
          some (f (min (hexValue 0 ((cstr s).drop 2)) lim)) else none)) ↔
      HexTextExact max (cstr s) := by
  unfold HexTextExact
  by_cases hstored : prefixHex.isPrefixOf (cstr s) ∧
      min (hexValue 0 ((cstr s).drop 2)) lim ≤ max
  · obtain ⟨hpre, hmin⟩ := hstored
    have hle : hexValue 0 ((cstr s).drop 2) ≤ max := by omega
    rw [if_pos ⟨hpre, hmin⟩, Nat.min_eq_left (by omega), exact_stored, writtenInt, textBase,
      if_pos hpre, denoted_of_prefixHex hpre, hf _ hle]
    simp [hpre, hle]
  · rw [if_neg hstored]
    refine iff_of_true exact_kept ?_
    intro hpre hle
    exact absurd ⟨hpre, (Nat.min_le_left _ _).trans hle⟩ hstored

theorem exact_strtoul_iff {s : Bytes} :
    Exact (fun v : UInt32 => (v.toNat : ℤ)) (some (.string s))
      (some (if (strtoul (cstr s) (textBase (cstr s))).2 = [] then
          some (strtoul (cstr s) (textBase (cstr s))).1 else none)) ↔ LongTextExact (cstr s) := by
  unfold LongTextExact
  generalize hbase : textBase (cstr s) = base
  by_cases hnil : cstr s = []
  · rw [if_pos (strtoul_rest_eq_nil.mpr (.inl hnil)), exact_stored, writtenInt, hnil]
    simp [textBase, prefixHex, ascii, denoted, scanNumber, readSign, readPrefix, hasHexPrefix]
  · cases hdenoted : denoted base (cstr s) with
    | none =>
      rw [if_neg (by simp [strtoul_rest_eq_nil, hnil, hdenoted])]
      exact iff_of_true exact_kept ⟨hnil, by simp⟩
    | some z =>
      rw [if_pos (by simp [strtoul_rest_eq_nil, hdenoted]), exact_stored, writtenInt, hbase,
        hdenoted, Option.some.injEq, eq_comm, toNat_strtoul_eq_iff hdenoted]
      simp [hnil]

end Exactness

section Getters

/-- A number of 16 bits is stored as it is, and the bits above are lost. -/
theorem exact_uint16_of_number {q : ℚ} :
    Exact (fun v : UInt32 => (v.toNat : ℤ)) (some (.number q))
      (if 0 ≤ Json.valueint q then
        some (some (UInt32.ofNat ((Json.valueint q).toNat % 0x10000))) else some none) ↔
      q ≤ -1 ∨ q < 0x10000 ∧ q.den = 1 := by
  have hlower := Json.le_valueint_iff (q := q) (n := 0) le_rfl (by decide)
  rw [Int.cast_zero, zero_sub] at hlower
  by_cases hneg : 0 ≤ Json.valueint q
  · have hq := hlower.mp hneg
    have hlow : (Json.valueint q).toNat % 0x10000 < UInt32.size := by
      unfold UInt32.size
      omega
    rw [if_pos hneg, exact_integer_iff, UInt32.toNat_ofNat_of_lt' hlow]
    constructor
    · rintro ⟨hden, hnum⟩
      have hlt : q.num < 0x10000 := by omega
      right
      refine ⟨?_, hden⟩
      rw [← (Rat.den_eq_one_iff q).mp hden]
      exact_mod_cast hlt
    · intro h
      obtain ⟨hlt, hden⟩ := h.resolve_left (not_le.mpr hq)
      have hvalue : Json.valueint q = q.num :=
        valueint_of_den (-1) 0x10000 hden (by exact_mod_cast hq)
          (by exact_mod_cast hlt) (by decide) (by decide)
      rw [← (Rat.den_eq_one_iff q).mp hden] at hlt
      have hnum : q.num < 0x10000 := by exact_mod_cast hlt
      exact ⟨hden, by omega⟩
  · rw [if_neg hneg]
    rw [hlower, not_lt] at hneg
    exact iff_of_true exact_kept (.inl hneg)

theorem uint32_exact_iff (hP : P.osStrToUint32Cptr = strtoul) :
    Exact (fun v => (v.toNat : ℤ)) (root.getObjectItem key) (jsonWrapGetUint32Val P root key) ↔
      Uint32Exact (root.getObjectItem key) := by
  unfold jsonWrapGetUint32Val
  rw [hP]
  match hattr : root.getObjectItem key with
  | none => exact iff_of_true exact_none trivial
  | some (.number q) => exact exact_uint16_of_number
  | some (.string s) => exact exact_strtoul_iff
  | some .null | some (.bool _) | some (.array _) | some (.object _) =>
    exact iff_of_false not_exact_fault id

theorem uint_exact_iff {α : Type} {toInt : α → ℤ} {max : ℕ} {ofNat : ℕ → α}
    (hmax : max < 0x7fffffff) (hofNat : ∀ n, n ≤ max → toInt (ofNat n) = n) :
    Exact toInt (root.getObjectItem key) (getUintVal max ofNat root key) ↔
      UintExact max (root.getObjectItem key) := by
  unfold getUintVal
  match hattr : root.getObjectItem key with
  | none => exact iff_of_true exact_none trivial
  | some (.number q) =>
    have hstored : ∀ z : ℤ, 0 ≤ z → z ≤ max → toInt (ofNat z.toNat) = z := by
      intro z hz hzmax
      rw [hofNat _ (by omega), Int.toNat_of_nonneg hz]
    have hmax' : (max : ℤ) < Json.intMax := by
      unfold Json.intMax
      omega
    have hnumber := exact_number_iff (q := q) 0 max (fun z => ofNat z.toNat) le_rfl (by decide)
      (by omega) hmax' hstored
    simpa [UintExact, ItemExact] using hnumber
  | some (.string s) => exact exact_hexText_iff max 0xffffffff ofNat (by omega) hofNat
  | some .null | some (.bool _) | some (.array _) | some (.object _) =>
    exact iff_of_false not_exact_fault id

theorem int8_exact_iff :
    Exact Int8.toInt (root.getObjectItem key) (jsonWrapGetInt8Val root key) ↔
      Int8Exact (root.getObjectItem key) := by
  have hofInt : ∀ z : ℤ, -0x80 ≤ z → z ≤ 0x7f → (Int8.ofInt z).toInt = z := by
    intro z hlo hhi
    exact Int8.toInt_ofInt_of_le (by omega) (by omega)
  unfold jsonWrapGetInt8Val
  match hattr : root.getObjectItem key with
  | none => exact iff_of_true exact_none trivial
  | some (.number q) =>
    have hnumber := exact_number_iff (q := q) (-0x80) 0x7f Int8.ofInt (by decide) (by decide)
      (by decide) (by decide) hofInt
    norm_num at hnumber
    simpa [Int8Exact, ItemExact] using hnumber
  | some (.string s) =>
    have hstored : ∀ n : ℕ, n ≤ 0x7f → (Int8.ofInt n).toInt = n := fun n hn =>
      hofInt n (by omega) (by omega)
    exact exact_hexText_iff 0x7f 0x7fffffff (fun n => Int8.ofInt n) (by decide) hstored
  | some .null | some (.bool _) | some (.array _) | some (.object _) =>
    exact iff_of_false not_exact_fault id

/-- Each getter is exact on the items that meet its condition, and on no others. -/
theorem numericGetters_exact_iff (hP : P.osStrToUint32Cptr = strtoul) :
    (Exact (fun v => (v.toNat : ℤ)) (root.getObjectItem key) (jsonWrapGetUint32Val P root key) ↔
      Uint32Exact (root.getObjectItem key)) ∧
    (Exact (fun v => (v.toNat : ℤ)) (root.getObjectItem key) (jsonWrapGetUint16Val root key) ↔
      UintExact 0xffff (root.getObjectItem key)) ∧
    (Exact (fun v => (v.toNat : ℤ)) (root.getObjectItem key) (jsonWrapGetUint8Val root key) ↔
      UintExact 0xff (root.getObjectItem key)) ∧
    (Exact Int8.toInt (root.getObjectItem key) (jsonWrapGetInt8Val root key) ↔
      Int8Exact (root.getObjectItem key)) := by
  have h16 : ∀ n, n ≤ 0xffff → ((UInt16.ofNat n).toNat : ℤ) = n := by
    intro n hn
    rw [UInt16.toNat_ofNat_of_lt' (Nat.lt_succ_of_le hn)]
  have h8 : ∀ n, n ≤ 0xff → ((UInt8.ofNat n).toNat : ℤ) = n := by
    intro n hn
    rw [UInt8.toNat_ofNat_of_lt' (Nat.lt_succ_of_le hn)]
  refine ⟨uint32_exact_iff hP, ?_, ?_, int8_exact_iff⟩
  · exact uint_exact_iff (by decide) h16
  · exact uint_exact_iff (by decide) h8

/-- A platform whose conversion is that of the C library. -/
def strtoulPlatform : Platform := { samplePlatform with osStrToUint32Cptr := strtoul }

theorem numericGetters_exact_sample :
    Exact (fun v => (v.toNat : ℤ)) ((Json.object [("http_period", .number 10)]).getObjectItem
        "http_period")
      (jsonWrapGetUint32Val strtoulPlatform
        (.object [("http_period", .number 10)]) "http_period") :=
  (numericGetters_exact_iff (P := strtoulPlatform) rfl).1.mpr (.inr ⟨by norm_num, rfl⟩)

/-- A period of 100000 seconds is read as 34464, and a period that is null through a null
pointer. -/
theorem numericGetters_notExact :
    (∃ root, root.getObjectItem "http_period" = some (.number 100000) ∧
      jsonWrapGetUint32Val strtoulPlatform root "http_period" = some (some 34464) ∧
      ¬Exact (fun v => (v.toNat : ℤ)) (root.getObjectItem "http_period")
        (jsonWrapGetUint32Val strtoulPlatform root "http_period")) ∧
    ∃ root, root.getObjectItem "http_period" = some .null ∧
      jsonWrapGetUint32Val strtoulPlatform root "http_period" = none ∧
      ¬Exact (fun v => (v.toNat : ℤ)) (root.getObjectItem "http_period")
        (jsonWrapGetUint32Val strtoulPlatform root "http_period") := by
  constructor
  · refine ⟨.object [("http_period", .number 100000)], rfl, by decide +kernel, ?_⟩
    rw [uint32_exact_iff rfl]
    rintro (h | h)
    · norm_num at h
    · norm_num at h
  · refine ⟨.object [("http_period", .null)], rfl, rfl, ?_⟩
    rw [uint32_exact_iff rfl]
    exact id

end Getters

end RuuviGateway.Config
