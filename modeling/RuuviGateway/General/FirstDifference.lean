import Mathlib.Data.List.Infix
import Mathlib.Data.List.Lex
import RuuviGateway.General.CString

/-!
# The first difference of two byte strings

Of two strings none of which begins with the other, the first bytes that differ decide: for `memcmp`
as for the order of a dictionary.
-/

namespace General

/-- `memcmp` of so many bytes. -/
def memcmp : ℕ → Bytes → Bytes → Ordering
  | 0, _, _ => .eq
  | n + 1, a, b =>
      match compare (a.headD 0).toNat (b.headD 0).toNat with
      | .eq => memcmp n a.tail b.tail
      | result => result

/-- The bytes as numbers, for the order of a dictionary. -/
def numbers (bs : Bytes) : List ℕ := bs.map UInt8.toNat

variable {a b : Bytes}

theorem exists_firstDifference (hab : ¬a <+: b) (hba : ¬b <+: a) :
    ∃ p x y u v, x ≠ y ∧ a = p ++ x :: u ∧ b = p ++ y :: v := by
  induction a generalizing b with
  | nil => exact absurd (List.nil_prefix) hab
  | cons x a ih =>
    cases b with
    | nil => exact absurd (List.nil_prefix) hba
    | cons y b =>
      by_cases hxy : x = y
      · subst hxy
        rw [List.cons_prefix_cons, not_and] at hab hba
        obtain ⟨p, x', y', u, v, hne, ha, hb⟩ := ih (hab rfl) (hba rfl)
        refine ⟨x :: p, x', y', u, v, hne, ?_, ?_⟩
        · rw [ha, List.cons_append]
        · rw [hb, List.cons_append]
      · exact ⟨[], x, y, a, b, hxy, rfl, rfl⟩

theorem memcmp_append_self (b rest rest' : Bytes) :
    memcmp b.length (b ++ rest) (b ++ rest') = .eq := by
  induction b with
  | nil => rfl
  | cons x b ih =>
    rw [List.length_cons, memcmp, List.cons_append, List.cons_append, List.headD_cons,
      List.headD_cons, Nat.compare_eq_eq.mpr rfl]
    exact ih

theorem compare_toNat_ne {x y : UInt8} (hne : x ≠ y) : compare x.toNat y.toNat ≠ .eq :=
  fun heq => hne (UInt8.toNat_inj.mp (Nat.compare_eq_eq.mp heq))

theorem memcmp_difference (p u v : Bytes) {x y : UInt8} (hne : x ≠ y) {n : ℕ}
    (hn : p.length < n) :
    memcmp n (p ++ x :: u) (p ++ y :: v) = compare x.toNat y.toNat := by
  induction p generalizing n with
  | nil =>
    obtain ⟨n, rfl⟩ := Nat.exists_eq_succ_of_ne_zero (Nat.ne_of_gt hn)
    have hcompare := compare_toNat_ne hne
    rw [memcmp, List.nil_append, List.nil_append, List.headD_cons, List.headD_cons]
    split
    · contradiction
    · rfl
  | cons z p ih =>
    obtain ⟨n, rfl⟩ := Nat.exists_eq_succ_of_ne_zero (Nat.ne_of_gt (Nat.zero_lt_of_lt hn))
    rw [memcmp, List.cons_append, List.cons_append, List.headD_cons, List.headD_cons,
      Nat.compare_eq_eq.mpr rfl]
    exact ih (Nat.lt_of_succ_lt_succ hn)

theorem numbers_lt_iff (p u v : Bytes) {x y : UInt8} (hne : x ≠ y) :
    numbers (p ++ x :: u) < numbers (p ++ y :: v) ↔ x.toNat < y.toNat := by
  induction p with
  | nil =>
    simp only [numbers, List.nil_append, List.map_cons, List.cons_lt_cons_iff]
    exact or_iff_left fun h => hne (UInt8.toNat_inj.mp h.1)
  | cons z p ih =>
    simpa [numbers, List.cons_lt_cons_iff] using ih

theorem numbers_inj : numbers a = numbers b ↔ a = b :=
  (List.map_injective_iff.mpr fun _ _ h => UInt8.toNat_inj.mp h).eq_iff

/-- The bytes that follow do not matter. -/
theorem memcmp_append (hab : ¬a <+: b) (hba : ¬b <+: a) (rest rest' : Bytes) :
    (memcmp b.length (a ++ rest) (b ++ rest') = .lt ↔ numbers a < numbers b) ∧
      memcmp b.length (a ++ rest) (b ++ rest') ≠ .eq := by
  obtain ⟨p, x, y, u, v, hne, rfl, rfl⟩ := exists_firstDifference hab hba
  simp only [List.append_assoc, List.cons_append]
  rw [memcmp_difference p _ _ hne (by simp), numbers_lt_iff p _ _ hne, Nat.compare_eq_lt]
  exact ⟨Iff.rfl, compare_toNat_ne hne⟩

end General
