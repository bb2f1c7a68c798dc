import Mathlib.Data.List.Basic

/-!
# Handles

A handle is a number that is not used again. Zero is not a handle.
-/

namespace General

structure Handles where
  last : ℕ
  opened : List ℕ
  valid : ∀ h ∈ opened, 0 < h ∧ h ≤ last

namespace Handles

def start : Handles := ⟨0, [], List.forall_mem_nil _⟩

variable (t : Handles)

/-- The next handle that is opened. -/
def next : ℕ := t.last + 1

theorem valid_next : ∀ h ∈ t.next :: t.opened, 0 < h ∧ h ≤ t.next := by
  intro h hmem
  rcases List.mem_cons.mp hmem with rfl | hmem
  · exact ⟨Nat.succ_pos _, Nat.le_refl _⟩
  · exact ⟨(t.valid h hmem).1, Nat.le_succ_of_le (t.valid h hmem).2⟩

def openNext : Handles := ⟨t.next, t.next :: t.opened, t.valid_next⟩

theorem valid_filter (h : ℕ) : ∀ h' ∈ t.opened.filter (· ≠ h), 0 < h' ∧ h' ≤ t.last :=
  fun h' hmem => t.valid h' (List.mem_filter.mp hmem).1

def close (h : ℕ) : Handles := ⟨t.last, t.opened.filter (· ≠ h), t.valid_filter h⟩

def closeAll : Handles := ⟨t.last, [], List.forall_mem_nil _⟩

@[simp] theorem next_mem_openNext : t.next ∈ t.openNext.opened := List.mem_cons_self

/-- The number is not a handle, and will not become one. -/
def Stale (h : ℕ) : Prop := h ≤ t.last ∧ h ∉ t.opened

variable {t} {h : ℕ}

theorem stale_zero : t.Stale 0 := ⟨Nat.zero_le _, fun hmem => Nat.lt_irrefl 0 (t.valid 0 hmem).1⟩

theorem stale_next : (t.openNext.close t.next).Stale t.next := by
  refine ⟨Nat.le_refl _, fun hmem => ?_⟩
  simpa using (List.mem_filter.mp hmem).2

theorem Stale.openNext (hs : t.Stale h) : t.openNext.Stale h := by
  refine ⟨Nat.le_succ_of_le hs.1, fun hmem => ?_⟩
  rcases List.mem_cons.mp hmem with rfl | hmem
  · exact Nat.lt_irrefl _ hs.1
  · exact hs.2 hmem

theorem Stale.close (hs : t.Stale h) (h' : ℕ) : (t.close h').Stale h :=
  ⟨hs.1, fun hmem => hs.2 (List.mem_filter.mp hmem).1⟩

theorem Stale.closeAll (hs : t.Stale h) : t.closeAll.Stale h := ⟨hs.1, List.not_mem_nil⟩

end Handles

end General
