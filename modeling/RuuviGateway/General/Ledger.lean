import Mathlib.Data.List.Nodup

/-!
# A ledger of obtained and released objects

Every object that is obtained gets a number of its own, next to its kind. The ledger is settled with
the objects that are held if each obtained object was released once or is held once, and nothing
else was released.
-/

namespace General

variable {κ : Type*}

structure Ledger (κ : Type*) where
  next : ℕ
  obtained : List (κ × ℕ)
  released : List (κ × ℕ)

namespace Ledger

def empty : Ledger κ := ⟨0, [], []⟩

/-- What a pointer holds: an object of the kind, or nothing. -/
def heldAt (kind : κ) (p : Option ℕ) : List (κ × ℕ) := p.toList.map fun n => (kind, n)

@[simp] theorem heldAt_none (kind : κ) : heldAt kind none = [] := rfl

theorem mem_heldAt {kind : κ} {p : Option ℕ} {o : κ × ℕ} :
    o ∈ heldAt kind p ↔ o.1 = kind ∧ p = some o.2 := by
  obtain ⟨kind', n⟩ := o
  cases p with
  | none => simp [heldAt]
  | some m => simp [heldAt, eq_comm]

variable (L : Ledger κ)

/-- A call that yields an object of the kind, or nothing. -/
def obtain (kind : κ) (success : Bool) : Option ℕ × Ledger κ :=
  if success then (some L.next, ⟨L.next + 1, (kind, L.next) :: L.obtained, L.released⟩)
  else (none, L)

/-- A call that takes what the pointer holds. -/
def release (kind : κ) (p : Option ℕ) : Ledger κ :=
  { L with released := heldAt kind p ++ L.released }

structure Settled (held : List (κ × ℕ)) : Prop where
  fresh : ∀ o ∈ L.obtained, o.2 < L.next
  nodup : L.obtained.Nodup
  perm : L.obtained.Perm (L.released ++ held)

variable {L} {held held' : List (κ × ℕ)}

theorem settled_empty : (empty : Ledger κ).Settled [] :=
  ⟨by simp [empty], List.nodup_nil, .nil⟩

theorem Settled.of_perm (h : L.Settled held) (hperm : held.Perm held') : L.Settled held' :=
  ⟨h.fresh, h.nodup, h.perm.trans (hperm.append_left _)⟩

theorem Settled.obtain (h : L.Settled held) (kind : κ) (success : Bool) :
    (L.obtain kind success).2.Settled (heldAt kind (L.obtain kind success).1 ++ held) := by
  cases success with
  | false => exact h
  | true =>
    constructor
    · intro o ho
      rcases List.mem_cons.mp ho with rfl | ho
      · exact Nat.lt_succ_self _
      · exact Nat.lt_succ_of_lt (h.fresh o ho)
    · refine List.nodup_cons.mpr ⟨fun hmem => ?_, h.nodup⟩
      exact Nat.lt_irrefl _ (h.fresh _ hmem)
    · exact (h.perm.cons _).trans List.perm_middle.symm

theorem Settled.release {kind : κ} {p : Option ℕ} (h : L.Settled (heldAt kind p ++ held)) :
    (L.release kind p).Settled held := by
  refine ⟨h.fresh, h.nodup, h.perm.trans ?_⟩
  rw [← List.append_assoc]
  exact List.perm_append_comm.append_right _

theorem Settled.obtained_of_held (h : L.Settled held) {o : κ × ℕ} (ho : o ∈ held) :
    o ∈ L.obtained := h.perm.mem_iff.mpr (List.mem_append_right _ ho)

theorem Settled.lt_next_of_held (h : L.Settled held) {o : κ × ℕ} (ho : o ∈ held) : o.2 < L.next :=
  h.fresh o (h.obtained_of_held ho)

theorem Settled.disjoint (h : L.Settled (held ++ held')) : held.Disjoint held' :=
  List.disjoint_of_nodup_append (h.perm.nodup_iff.mp h.nodup).of_append_right

/-- Nothing is released that was not obtained. -/
theorem Settled.obtained_of_released (h : L.Settled held) {o : κ × ℕ} (ho : o ∈ L.released) :
    o ∈ L.obtained := h.perm.mem_iff.mpr (List.mem_append_left _ ho)

/-- An object that was obtained is either held or was released once. -/
theorem Settled.count [DecidableEq κ] (h : L.Settled held) {o : κ × ℕ} (ho : o ∈ L.obtained) :
    L.released.count o + held.count o = 1 := by
  rw [← List.count_append, ← h.perm.count_eq]
  exact List.count_eq_one_of_mem h.nodup ho

theorem Settled.count_of_not_held [DecidableEq κ] (h : L.Settled held) {o : κ × ℕ}
    (ho : o ∈ L.obtained) (hnot : o ∉ held) : L.released.count o = 1 := by
  have hcount := h.count ho
  rwa [List.count_eq_zero_of_not_mem hnot] at hcount

theorem Settled.count_of_held [DecidableEq κ] (h : L.Settled held) {o : κ × ℕ} (ho : o ∈ held) :
    L.released.count o = 0 := by
  have hcount := h.count (h.obtained_of_held ho)
  have hpos := List.count_pos_iff.mpr ho
  omega

end Ledger

end General
