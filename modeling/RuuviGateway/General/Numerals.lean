import Mathlib.Algebra.Order.Ring.Int
import Mathlib.Data.List.TakeWhile
import RuuviGateway.General.CString

/-!
# Numbers in C strings

`strtoul` with a result of 32 bits, as the C library describes it. Blanks come first, then a sign
and, in base 16, the prefix `0x`, and then as many digits as there are. A negative number is taken
modulo 2^32, one that is too large is limited. A text without a digit is not converted: the end
pointer then is at its first character. -/

namespace General

section Characters

def isSpace (b : UInt8) : Bool := b.toNat == 32 || (9 ≤ b.toNat && b.toNat ≤ 13)

/-- The value of a character as a digit of some base up to 36. -/
def digitValue (b : UInt8) : Option ℕ :=
  if 48 ≤ b.toNat ∧ b.toNat ≤ 57 then some (b.toNat - 48)
  else if 65 ≤ b.toNat ∧ b.toNat ≤ 90 then some (b.toNat - 55)
  else if 97 ≤ b.toNat ∧ b.toNat ≤ 122 then some (b.toNat - 87)
  else none

def isDigit (base : ℕ) (b : UInt8) : Bool := (digitValue b).any (· < base)

def plus : UInt8 := 0x2b

def minus : UInt8 := 0x2d

variable {base : ℕ} {b : UInt8}

theorem le_toNat_of_isDigit (h : isDigit base b = true) : 48 ≤ b.toNat := by
  unfold isDigit digitValue at h
  split_ifs at h with h1 h2 h3
  · exact h1.1
  · omega
  · omega
  · simp at h

theorem not_isSpace_of_isDigit (h : isDigit base b = true) : isSpace b = false := by
  have hle := le_toNat_of_isDigit h
  simp only [isSpace, Bool.or_eq_false_iff, Bool.and_eq_false_iff, beq_eq_false_iff_ne,
    decide_eq_false_iff_not]
  omega

theorem ne_of_isDigit {c : UInt8} (h : isDigit base b = true) (hc : c.toNat < 48) :
    b ≠ c := by
  rintro rfl
  exact Nat.not_le.mpr hc (le_toNat_of_isDigit h)

end Characters

section Numeral

/-- The value of a sequence of digits. -/
def numeralFrom (base acc : ℕ) : Bytes → ℕ
  | [] => acc
  | b :: digits => numeralFrom base (base * acc + (digitValue b).getD 0) digits

def numeral (base : ℕ) (digits : Bytes) : ℕ := numeralFrom base 0 digits

/-- A text of digits only, with at least one. -/
def IsNumeral (base : ℕ) (s : Bytes) : Prop := s ≠ [] ∧ ∀ b ∈ s, isDigit base b = true

instance (base : ℕ) (s : Bytes) : Decidable (IsNumeral base s) :=
  inferInstanceAs (Decidable (_ ∧ _))

variable {base : ℕ} {digits : Bytes}

theorem digitValue_getD_lt {b : UInt8} (h : isDigit base b = true) :
    (digitValue b).getD 0 < base := by
  unfold isDigit at h
  cases hvalue : digitValue b with
  | none => simp [hvalue] at h
  | some v => simpa [hvalue] using h

theorem numeralFrom_lt (hall : ∀ b ∈ digits, isDigit base b = true) (acc : ℕ) :
    numeralFrom base acc digits < base ^ digits.length * (acc + 1) := by
  induction digits generalizing acc with
  | nil => simp [numeralFrom]
  | cons b digits ih =>
    have hdigit := digitValue_getD_lt (hall b List.mem_cons_self)
    have hrest := ih (fun c hc => hall c (List.mem_cons_of_mem b hc))
      (base * acc + (digitValue b).getD 0)
    calc numeralFrom base acc (b :: digits)
        < base ^ digits.length * (base * acc + (digitValue b).getD 0 + 1) := hrest
      _ ≤ base ^ digits.length * (base * (acc + 1)) := by
        apply Nat.mul_le_mul_left
        rw [Nat.mul_add]
        omega
      _ = base ^ (b :: digits).length * (acc + 1) := by
        rw [List.length_cons, pow_succ, Nat.mul_assoc]

theorem numeral_lt (hall : ∀ b ∈ digits, isDigit base b = true) :
    numeral base digits < base ^ digits.length := by
  simpa [numeral] using numeralFrom_lt hall 0

theorem numeralFrom_append (acc : ℕ) (s t : Bytes) :
    numeralFrom base acc (s ++ t) = numeralFrom base (numeralFrom base acc s) t := by
  induction s generalizing acc with
  | nil => rfl
  | cons b s ih => exact ih _

end Numeral

section Scan

/-- A sign, if there is one, and the text behind it. -/
def readSign : Bytes → Bool × Bytes
  | [] => (false, [])
  | b :: s => if b = minus then (true, s) else if b = plus then (false, s) else (false, b :: s)

def hasHexPrefix : Bytes → Bool
  | z :: x :: d :: _ => z == 0x30 && (x == 0x78 || x == 0x58) && isDigit 16 d
  | _ => false

/-- The base of the digits, and the text from the first digit on. The base 0 stands for the one that
the text itself tells. -/
def readPrefix (base : ℕ) (s : Bytes) : ℕ × Bytes :=
  if (base = 16 ∨ base = 0) ∧ hasHexPrefix s then (16, s.drop 2)
  else if base = 0 then (if s.head? = some 0x30 then 8 else 10, s)
  else (base, s)

/-- The parts of a text that begins with a number. -/
structure NumberText where
  negative : Bool
  base : ℕ
  digits : Bytes
  rest : Bytes
  deriving DecidableEq

def NumberText.magnitude (n : NumberText) : ℕ := numeral n.base n.digits

def NumberText.value (n : NumberText) : UInt32 :=
  if 0x100000000 ≤ n.magnitude then 0xffffffff
  else if n.negative then -UInt32.ofNat n.magnitude
  else UInt32.ofNat n.magnitude

def NumberText.int (n : NumberText) : ℤ := if n.negative then -n.magnitude else n.magnitude

def scanNumber (base : ℕ) (s : Bytes) : NumberText :=
  let sign := readSign (s.dropWhile isSpace)
  let pre := readPrefix base sign.2
  ⟨sign.1, pre.1, pre.2.takeWhile (isDigit pre.1), pre.2.dropWhile (isDigit pre.1)⟩

/-- The value and the text behind the end pointer. -/
def strtoul (s : Bytes) (base : ℕ) : UInt32 × Bytes :=
  let n := scanNumber base s
  if n.digits = [] then (0, s) else (n.value, n.rest)

/-- The integer that a text denotes as a whole. -/
def denoted (base : ℕ) (s : Bytes) : Option ℤ :=
  let n := scanNumber base s
  if n.digits = [] ∨ n.rest ≠ [] then none else some n.int

variable {base : ℕ} {s digits rest : Bytes}

theorem takeWhile_append_of_stop {p : UInt8 → Bool} (hall : ∀ b ∈ digits, p b = true)
    (hstop : ∀ b, rest.head? = some b → p b = false) :
    (digits ++ rest).takeWhile p = digits ∧ (digits ++ rest).dropWhile p = rest := by
  rw [List.takeWhile_append_of_pos hall, List.dropWhile_append_of_pos hall]
  cases rest with
  | nil => simp
  | cons b rest => simp [hstop b rfl]

theorem readSign_of_ne {b : UInt8} (hminus : b ≠ minus) (hplus : b ≠ plus) :
    readSign (b :: s) = (false, b :: s) := by
  rw [readSign, if_neg hminus, if_neg hplus]

/-- The number at the beginning of a text that begins with one of its digits. -/
theorem scanNumber_digits (hbase : base ≠ 0) (hdigits : IsNumeral base digits)
    (hstop : ∀ b, rest.head? = some b → isDigit base b = false)
    (hhex : base = 16 → hasHexPrefix (digits ++ rest) = false) :
    scanNumber base (digits ++ rest) = ⟨false, base, digits, rest⟩ := by
  obtain ⟨hne, hall⟩ := hdigits
  have hblank : (digits ++ rest).dropWhile isSpace = digits ++ rest := by
    cases digits with
    | nil => exact absurd rfl hne
    | cons b digits => simp [not_isSpace_of_isDigit (hall b List.mem_cons_self)]
  have hsign : readSign (digits ++ rest) = (false, digits ++ rest) := by
    cases digits with
    | nil => exact absurd rfl hne
    | cons b digits =>
      have hb := hall b List.mem_cons_self
      exact readSign_of_ne (ne_of_isDigit hb (by decide)) (ne_of_isDigit hb (by decide))
  have hprefix : readPrefix base (digits ++ rest) = (base, digits ++ rest) := by
    rw [readPrefix, if_neg, if_neg hbase]
    rintro ⟨h16 | h0, hpre⟩
    · rw [hhex h16] at hpre
      cases hpre
    · exact hbase h0
  obtain ⟨htake, hdrop⟩ := takeWhile_append_of_stop hall hstop
  simp only [scanNumber, hblank, hsign, hprefix, htake, hdrop]

/-- The digits behind a prefix `0x`. -/
theorem scanNumber_hexPrefix {x : UInt8} (hbase : base = 16 ∨ base = 0)
    (hpre : hasHexPrefix (0x30 :: x :: s) = true) : scanNumber base (0x30 :: x :: s) =
      ⟨false, 16, s.takeWhile (isDigit 16), s.dropWhile (isDigit 16)⟩ := by
  have hblank : (0x30 :: x :: s).dropWhile isSpace = 0x30 :: x :: s := rfl
  have hsign : readSign (0x30 :: x :: s) = (false, 0x30 :: x :: s) := rfl
  have hprefix : readPrefix base (0x30 :: x :: s) = (16, s) := if_pos ⟨hbase, hpre⟩
  simp only [scanNumber, hblank, hsign, hprefix]

theorem strtoul_digits (hbase : base ≠ 0) (hdigits : IsNumeral base digits)
    (hstop : ∀ b, rest.head? = some b → isDigit base b = false)
    (hhex : base = 16 → hasHexPrefix (digits ++ rest) = false) :
    strtoul (digits ++ rest) base =
      (UInt32.ofNat (min (numeral base digits) 0xffffffff), rest) := by
  simp only [strtoul, scanNumber_digits hbase hdigits hstop hhex]
  rw [if_neg hdigits.1]
  unfold NumberText.value NumberText.magnitude
  dsimp only
  by_cases hlarge : 0x100000000 ≤ numeral base digits
  · rw [if_pos hlarge, Nat.min_eq_right (by omega)]
    rfl
  · rw [if_neg hlarge, if_neg Bool.false_ne_true, Nat.min_eq_left (by omega)]

/-- A text is read to its end if it is empty or denotes an integer. -/
theorem strtoul_rest_eq_nil : (strtoul s base).2 = [] ↔ s = [] ∨ (denoted base s).isSome := by
  unfold strtoul denoted
  dsimp only
  by_cases hdigits : (scanNumber base s).digits = []
  · rw [if_pos hdigits, if_pos (.inl hdigits)]
    simp
  · rw [if_neg hdigits]
    by_cases hrest : (scanNumber base s).rest = []
    · rw [if_neg (by simp [hdigits, hrest])]
      simp [hrest]
    · rw [if_pos (.inr hrest)]
      have hs : s ≠ [] := by
        rintro rfl
        apply hdigits
        by_cases hbase : base = 0 <;> simp [scanNumber, readSign, readPrefix, hasHexPrefix, hbase]
      simp [hrest, hs]

/-- A text denotes an integer if nothing but digits follows its sign and its prefix. -/
theorem isSome_denoted_iff : (denoted base s).isSome = true ↔
    IsNumeral (readPrefix base (readSign (s.dropWhile isSpace)).2).1
      (readPrefix base (readSign (s.dropWhile isSpace)).2).2 := by
  unfold denoted scanNumber IsNumeral
  dsimp only
  generalize readPrefix base (readSign (s.dropWhile isSpace)).2 = pre
  rw [← List.dropWhile_eq_nil_iff]
  split_ifs with h
  · refine iff_of_false Bool.false_ne_true ?_
    rintro ⟨hne, hrest⟩
    rcases h with h | h
    · rw [← List.takeWhile_append_dropWhile (p := isDigit pre.1) (l := pre.2), h, hrest] at hne
      exact hne rfl
    · exact h hrest
  · rw [not_or, not_not] at h
    refine iff_of_true rfl ⟨?_, h.2⟩
    intro hnil
    exact h.1 (by rw [hnil]; rfl)

theorem readPrefix_of_length {s : Bytes} (h : s.length ≤ 2) : readPrefix 16 s = (16, s) := by
  have hpre : hasHexPrefix s = false := by
    rcases s with _ | ⟨b, _ | ⟨c, _ | ⟨d, s⟩⟩⟩
    · rfl
    · rfl
    · rfl
    · simp at h
  rw [readPrefix, if_neg (by simp [hpre]), if_neg (by decide)]

theorem isNumeral_singleton {d : UInt8} : IsNumeral base [d] ↔ isDigit base d = true := by
  simp [IsNumeral]

theorem length_readSign_le (s : Bytes) : (readSign s).2.length ≤ s.length := by
  unfold readSign
  split
  · exact le_rfl
  · split_ifs <;> simp

/-- A sign alone is no number. -/
theorem isNumeral_readSign_singleton {d : UInt8} :
    IsNumeral 16 (readSign [d]).2 ↔ isDigit 16 d = true := by
  simp only [readSign]
  split_ifs with hminus hplus
  · rw [hminus]
    decide
  · rw [hplus]
    decide
  · exact isNumeral_singleton

/-- A text of two characters is converted as a whole if the second one is a digit and the first one
is a digit, a blank or a sign. -/
theorem strtoul_pair {c d : UInt8} : (strtoul [c, d] 16).2 = [] ↔
    (isDigit 16 c = true ∨ isSpace c = true ∨ c = plus ∨ c = minus) ∧ isDigit 16 d = true := by
  have hlen : (readSign ([c, d].dropWhile isSpace)).2.length ≤ 2 :=
    (length_readSign_le _).trans (List.dropWhile_suffix _).length_le
  rw [strtoul_rest_eq_nil, isSome_denoted_iff, readPrefix_of_length hlen]
  simp only [List.cons_ne_nil, false_or]
  by_cases hblank : isSpace c = true
  · rw [List.dropWhile_cons_of_pos hblank]
    by_cases hblank' : isSpace d = true
    · rw [List.dropWhile_cons_of_pos hblank']
      refine iff_of_false (by decide) ?_
      rintro ⟨-, hd⟩
      rw [not_isSpace_of_isDigit hd] at hblank'
      cases hblank'
    · rw [List.dropWhile_cons_of_neg hblank', isNumeral_readSign_singleton]
      simp [hblank]
  · rw [List.dropWhile_cons_of_neg hblank]
    by_cases hsign : c = plus ∨ c = minus
    · have hrest : (readSign [c, d]).2 = [d] := by rcases hsign with rfl | rfl <;> rfl
      rw [hrest, isNumeral_singleton]
      simp [hsign]
    · have hrest : readSign [c, d] = (false, [c, d]) :=
        readSign_of_ne (fun h => hsign (.inr h)) fun h => hsign (.inl h)
      rw [hrest]
      simp [IsNumeral, hblank, hsign]

theorem NumberText.toNat_value_eq_int (n : NumberText) :
    (n.value.toNat : ℤ) = n.int ↔ 0 ≤ n.int ∧ n.int < 0x100000000 := by
  unfold value int
  split_ifs with hlarge hneg hneg
  · have hmax : (0xffffffff : UInt32).toNat = 4294967295 := rfl
    rw [hmax]
    omega
  · have hmax : (0xffffffff : UInt32).toNat = 4294967295 := rfl
    rw [hmax]
    omega
  · rw [UInt32.toNat_neg, UInt32.toNat_ofNat_of_lt' (Nat.not_le.mp hlarge)]
    simp only [UInt32.size]
    omega
  · rw [UInt32.toNat_ofNat_of_lt' (Nat.not_le.mp hlarge)]
    omega

/-- The value is the integer that the text denotes if this has 32 bits. -/
theorem toNat_strtoul_eq_iff {z : ℤ} (h : denoted base s = some z) :
    ((strtoul s base).1.toNat : ℤ) = z ↔ 0 ≤ z ∧ z < 0x100000000 := by
  unfold denoted at h
  unfold strtoul
  dsimp only at h ⊢
  split_ifs at h with hnone
  rw [not_or] at hnone
  rw [if_neg hnone.1, ← Option.some.inj h]
  exact NumberText.toNat_value_eq_int _

end Scan

end General
