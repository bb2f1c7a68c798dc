import Mathlib.Algebra.GroupWithZero.Nat
import Mathlib.Data.Finset.Basic
import Mathlib.Order.Interval.Finset.Nat

/-!
# A memory with 32-bit addresses

A memory maps each address to the value of its cell. A block is written cell by cell from an address
on, where addresses wrap around. Blocks that are written one behind the other are one block, and
ranges that do not overlap take no more cells than there are.
-/

namespace General

variable {α : Type*}

/-- The values of the cells, by their address. -/
abbrev WordMemory (α : Type*) := UInt32 → α

namespace WordMemory

variable (m : WordMemory α) (a x : UInt32) (l l' : List α)

/-- The block `l` written from the address `a` on. -/
def write : WordMemory α := fun x => (l[(x - a).toNat]?).getD (m x)

/-- The `n` cells from the address `a` on. -/
def read (n : ℕ) : List α := (List.range n).map fun i => m (a + UInt32.ofNat i)

@[simp] theorem write_nil : m.write a [] = m := by
  funext x
  rfl

theorem write_of_outside (h : l.length ≤ (x - a).toNat) : m.write a l x = m x := by
  rw [write, List.getElem?_eq_none h]
  rfl

theorem write_of_inside (h : (x - a).toNat < l.length) : m.write a l x = l[(x - a).toNat] := by
  rw [write, List.getElem?_eq_getElem h]
  rfl

theorem toNat_ofNat_of_lt {n : ℕ} (h : n < 2 ^ 32) : (UInt32.ofNat n).toNat = n := by
  rw [UInt32.toNat_ofNat', Nat.mod_eq_of_lt h]

/-- The distance to the end of a block. -/
theorem toNat_sub_add {n : ℕ} (hn : n ≤ (x - a).toNat) :
    (x - (a + UInt32.ofNat n)).toNat = (x - a).toNat - n := by
  have hlt := (x - a).toNat_lt
  have hx := x.toNat_lt
  have ha := a.toNat_lt
  have hnat : (UInt32.ofNat n).toNat = n := toNat_ofNat_of_lt (by omega)
  rw [UInt32.toNat_sub] at hn ⊢
  rw [UInt32.toNat_add, UInt32.toNat_sub, hnat]
  omega

theorem toNat_sub_add_of_lt {n : ℕ} (hn : (x - a).toNat < n) (hlt : n < 2 ^ 32) :
    (x - (a + UInt32.ofNat n)).toNat = 2 ^ 32 + (x - a).toNat - n := by
  have hx := x.toNat_lt
  have ha := a.toNat_lt
  have hnat : (UInt32.ofNat n).toNat = n := toNat_ofNat_of_lt hlt
  rw [UInt32.toNat_sub] at hn ⊢
  rw [UInt32.toNat_add, UInt32.toNat_sub, hnat]
  omega

/-- A cell of a block that begins `n` cells behind `a`. -/
theorem toNat_sub_of_add {n k : ℕ} (hk : (x - (a + UInt32.ofNat n)).toNat < k)
    (h : n + k ≤ 2 ^ 32) : (x - a).toNat = n + (x - (a + UInt32.ofNat n)).toNat := by
  have hx := x.toNat_lt
  have ha := a.toNat_lt
  have hnat : (UInt32.ofNat n).toNat = n := toNat_ofNat_of_lt (by omega)
  have hsub := UInt32.toNat_sub x a
  have hsub' := UInt32.toNat_sub x (a + UInt32.ofNat n)
  rw [UInt32.toNat_add, hnat] at hsub'
  omega

/-- Writing on at the end of a block extends the block. -/
theorem write_append (h : l.length + l'.length < 2 ^ 32) :
    (m.write a l).write (a + UInt32.ofNat l.length) l' = m.write a (l ++ l') := by
  funext x
  by_cases hx : (x - a).toNat < l.length
  · have hfar := toNat_sub_add_of_lt a x hx (by omega)
    rw [write_of_outside _ _ _ _ (by omega), write_of_inside _ _ _ _ hx,
      write_of_inside _ _ _ _ (by rw [List.length_append]; omega), List.getElem_append_left hx]
  · have hnear := toNat_sub_add a x (Nat.not_lt.mp hx)
    by_cases hx' : (x - a).toNat < (l ++ l').length
    · have hin : (x - (a + UInt32.ofNat l.length)).toNat < l'.length := by
        rw [hnear]
        rw [List.length_append] at hx'
        omega
      rw [write_of_inside _ _ _ _ hin, write_of_inside _ _ _ _ hx',
        List.getElem_append_right (Nat.not_lt.mp hx)]
      simp only [hnear]
    · have hout : l'.length ≤ (x - (a + UInt32.ofNat l.length)).toNat := by
        rw [hnear]
        rw [List.length_append] at hx'
        omega
      rw [write_of_outside _ _ _ _ hout, write_of_outside _ _ _ _ (Nat.not_lt.mp hx),
        write_of_outside _ _ _ _ (Nat.not_lt.mp hx')]

@[simp] theorem length_read (n : ℕ) : (m.read a n).length = n := by
  rw [read, List.length_map, List.length_range]

theorem getElem_read {n i : ℕ} (h : i < (m.read a n).length) :
    (m.read a n)[i] = m (a + UInt32.ofNat i) := by
  simp [read]

theorem toNat_add_sub {i : ℕ} (h : i < 2 ^ 32) : (a + UInt32.ofNat i - a).toNat = i := by
  have ha := a.toNat_lt
  rw [UInt32.toNat_sub, UInt32.toNat_add, toNat_ofNat_of_lt h]
  omega

theorem read_write (h : l.length ≤ 2 ^ 32) : (m.write a l).read a l.length = l := by
  apply List.ext_getElem
  · exact length_read _ _ _
  · intro i hi hi'
    have hsub : (a + UInt32.ofNat i - a).toNat = i := toNat_add_sub a (by omega)
    rw [getElem_read, write_of_inside _ _ _ _ (by rwa [hsub])]
    simp only [hsub]

end WordMemory

section Ranges

/-- The cells of a range that does not wrap around. -/
def rangeOf (r : ℕ × ℕ) : Finset ℕ := Finset.Ico r.1 (r.1 + r.2)

/-- Ranges that do not overlap have no more cells together than the space that they are in. -/
theorem sum_le_of_pairwise_disjoint {ranges : List (ℕ × ℕ)} {n : ℕ}
    (hdisjoint : ranges.Pairwise fun r r' => ∀ x ∈ rangeOf r, x ∉ rangeOf r')
    (hbound : ∀ r ∈ ranges, r.1 + r.2 ≤ n) : (ranges.map Prod.snd).sum ≤ n := by
  have hcover : ∃ cells : Finset ℕ, cells.card = (ranges.map Prod.snd).sum ∧
      ∀ x, x ∈ cells ↔ ∃ r ∈ ranges, x ∈ rangeOf r := by
    induction ranges with
    | nil => exact ⟨∅, rfl, by simp⟩
    | cons r ranges ih =>
      rw [List.pairwise_cons] at hdisjoint
      rw [List.forall_mem_cons] at hbound
      obtain ⟨cells, hcard, hcells⟩ := ih hdisjoint.2 hbound.2
      have hfresh : Disjoint (rangeOf r) cells := by
        rw [Finset.disjoint_left]
        intro x hx hmem
        obtain ⟨r', hr', hx'⟩ := (hcells x).mp hmem
        exact hdisjoint.1 r' hr' x hx hx'
      refine ⟨rangeOf r ∪ cells, ?_, ?_⟩
      · rw [Finset.card_union_of_disjoint hfresh, hcard, rangeOf, Nat.card_Ico]
        simp
      · intro x
        rw [Finset.mem_union, hcells, List.exists_mem_cons_iff]
  obtain ⟨cells, hcard, hcells⟩ := hcover
  have hsub : cells ⊆ Finset.range n := by
    intro x hx
    obtain ⟨r, hr, hxr⟩ := (hcells x).mp hx
    have hlt := (Finset.mem_Ico.mp hxr).2
    rw [Finset.mem_range]
    exact Nat.lt_of_lt_of_le hlt (hbound r hr)
  have hle := Finset.card_le_card hsub
  rwa [hcard, Finset.card_range] at hle

end Ranges

end General
