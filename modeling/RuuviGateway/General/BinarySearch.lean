import Mathlib.Data.Int.Basic
import Mathlib.Tactic.Common

/-!
# Binary search

The search looks at the position in the middle and goes on in the half that a comparison points to.
It finds a position wherever the comparisons are those of an ordered table.
-/

namespace General

/-- The comparisons of a key with the first positions: where the key is less than one of them, it is
less than those behind it, and where it is greater, it is greater than those before. -/
def Ordered (n : ℕ) (compareAt : ℕ → Ordering) : Prop :=
  ∀ i j, i < j → j < n →
    (compareAt i = .lt → compareAt j = .lt) ∧ (compareAt j = .gt → compareAt i = .gt)

/-- The search between two positions, in at most so many rounds. -/
def binarySearch (compareAt : ℕ → Ordering) : ℕ → ℤ → ℤ → Option ℕ
  | 0, _, _ => none
  | rounds + 1, start, stop =>
      if start ≤ stop then
        let middle := (start + stop) / 2
        match compareAt middle.toNat with
        | .eq => some middle.toNat
        | .lt => binarySearch compareAt rounds start (middle - 1)
        | .gt => binarySearch compareAt rounds (middle + 1) stop
      else none

variable {compareAt : ℕ → Ordering} {n rounds : ℕ} {start stop : ℤ}

/-- What is found lies between the positions and is equal to the key. -/
theorem binarySearch_eq_some {i : ℕ} (hstart : 0 ≤ start)
    (h : binarySearch compareAt rounds start stop = some i) :
    start ≤ i ∧ (i : ℤ) ≤ stop ∧ compareAt i = .eq := by
  induction rounds generalizing start stop with
  | zero => simp [binarySearch] at h
  | succ rounds ih =>
    rw [binarySearch] at h
    split_ifs at h with hle
    dsimp only at h
    cases hcompare : compareAt ((start + stop) / 2).toNat with
    | eq =>
      rw [hcompare] at h
      obtain rfl := Option.some.inj h
      exact ⟨by omega, by omega, hcompare⟩
    | lt =>
      rw [hcompare] at h
      obtain ⟨hfrom, hto, heq⟩ := ih hstart h
      exact ⟨hfrom, by omega, heq⟩
    | gt =>
      rw [hcompare] at h
      obtain ⟨hfrom, hto, heq⟩ := ih (by omega) h
      exact ⟨by omega, hto, heq⟩

/-- The key lies before what it is less than. -/
theorem Ordered.lt_of_eq_of_lt {i j : ℕ} (hordered : Ordered n compareAt)
    (heq : compareAt i = .eq) (hless : compareAt j = .lt) (hi : i < n) : i < j := by
  rcases Nat.lt_trichotomy i j with hlt | rfl | hgt
  · exact hlt
  · rw [heq] at hless
    exact Ordering.noConfusion hless
  · rw [(hordered j i hgt hi).1 hless] at heq
    exact Ordering.noConfusion heq

/-- The key lies behind what it is greater than. -/
theorem Ordered.lt_of_eq_of_gt {i j : ℕ} (hordered : Ordered n compareAt)
    (heq : compareAt i = .eq) (hmore : compareAt j = .gt) (hj : j < n) : j < i := by
  rcases Nat.lt_trichotomy j i with hlt | rfl | hgt
  · exact hlt
  · rw [heq] at hmore
    exact Ordering.noConfusion hmore
  · rw [(hordered i j hgt hj).2 hmore] at heq
    exact Ordering.noConfusion heq

/-- In an ordered table nothing is missed. -/
theorem binarySearch_isSome (hordered : Ordered n compareAt) {i : ℕ} (heq : compareAt i = .eq)
    (hstart : 0 ≤ start) (hstop : stop < n) (hrounds : stop - start < rounds) (hfrom : start ≤ i)
    (hto : (i : ℤ) ≤ stop) : (binarySearch compareAt rounds start stop).isSome = true := by
  induction rounds generalizing start stop with
  | zero => omega
  | succ rounds ih =>
    rw [binarySearch, if_pos (by omega)]
    dsimp only
    cases hcompare : compareAt ((start + stop) / 2).toNat with
    | eq => rfl
    | lt =>
      have hi := hordered.lt_of_eq_of_lt heq hcompare (by omega)
      exact ih hstart (by omega) (by omega) hfrom (by omega)
    | gt =>
      have hi := hordered.lt_of_eq_of_gt heq hcompare (by omega)
      exact ih (by omega) hstop (by omega) (by omega) hto

end General
