import RuuviGateway.General.CString

/-!
# Numbers in groups of seven bits

A number is written with its lowest seven bits first. All bytes but the last one carry a mark that
more follow.
-/

namespace General.Base128

/-- At most so many bytes as the first argument says. -/
def encode : ℕ → ℕ → Bytes
  | 0, _ => []
  | k + 1, n =>
      if n < 128 then [UInt8.ofNat n]
      else UInt8.ofNat (n % 128 + 128) :: encode k (n / 128)

/-- The number at the beginning, and how many bytes it takes. -/
def decode : Bytes → ℕ × ℕ
  | [] => (0, 0)
  | b :: bs =>
      if b.toNat < 128 then (b.toNat, 1)
      else
        let (n, k) := decode bs
        (b.toNat % 128 + 128 * n, k + 1)

variable {k n : ℕ}

theorem length_encode_le (k n : ℕ) : (encode k n).length ≤ k := by
  induction k generalizing n with
  | zero => simp [encode]
  | succ k ih =>
    rw [encode]
    split_ifs
    · simp
    · simpa using ih (n / 128)

theorem length_encode_pos (k n : ℕ) : 0 < (encode (k + 1) n).length := by
  rw [encode]
  split_ifs <;> simp

/-- All bytes but the last one carry the mark. -/
theorem marked_encode (h : n < 128 ^ (k + 1)) {i : ℕ} (hi : i < (encode (k + 1) n).length) :
    128 ≤ (encode (k + 1) n)[i].toNat ↔ i + 1 < (encode (k + 1) n).length := by
  induction k generalizing n i with
  | zero =>
    have hlt : n < 128 := by simpa using h
    have hencode : encode 1 n = [UInt8.ofNat n] := by rw [encode, if_pos hlt]
    simp only [hencode, List.length_singleton] at hi ⊢
    obtain rfl : i = 0 := by omega
    simp only [List.getElem_cons_zero, UInt8.toNat_ofNat']
    omega
  | succ k ih =>
    by_cases hlt : n < 128
    · have hencode : encode (k + 2) n = [UInt8.ofNat n] := by rw [encode, if_pos hlt]
      simp only [hencode, List.length_singleton] at hi ⊢
      obtain rfl : i = 0 := by omega
      simp only [List.getElem_cons_zero, UInt8.toNat_ofNat']
      omega
    · have hencode : encode (k + 2) n =
          UInt8.ofNat (n % 128 + 128) :: encode (k + 1) (n / 128) := by
        rw [encode, if_neg hlt]
      have hdiv : n / 128 < 128 ^ (k + 1) := by
        rw [pow_succ] at h
        exact Nat.div_lt_of_lt_mul (by rwa [Nat.mul_comm])
      simp only [hencode, List.length_cons] at hi ⊢
      cases i with
      | zero =>
        have hpos := length_encode_pos k (n / 128)
        simp only [List.getElem_cons_zero, UInt8.toNat_ofNat']
        omega
      | succ i =>
        rw [List.getElem_cons_succ, ih hdiv (by omega)]
        omega

/-- What follows the number does not matter. -/
theorem decode_encode (h : n < 128 ^ (k + 1)) (rest : Bytes) :
    decode (encode (k + 1) n ++ rest) = (n, (encode (k + 1) n).length) := by
  induction k generalizing n with
  | zero =>
    have hlt : n < 128 := by simpa using h
    have hbyte : (UInt8.ofNat n).toNat = n := by simp; omega
    simp [encode, decode, hlt, hbyte]
  | succ k ih =>
    rw [encode]
    split_ifs with hlt
    · have hbyte : (UInt8.ofNat n).toNat = n := by simp; omega
      simp [decode, hbyte, hlt]
    · have hbyte : (UInt8.ofNat (n % 128 + 128)).toNat = n % 128 + 128 := by simp; omega
      have hdiv : n / 128 < 128 ^ (k + 1) := by
        rw [pow_succ] at h
        exact Nat.div_lt_of_lt_mul (by rwa [Nat.mul_comm])
      simp only [List.cons_append, decode, hbyte, ih hdiv, List.length_cons]
      rw [if_neg (by omega)]
      simp only [Prod.mk.injEq, and_true]
      omega

end General.Base128
