import Mathlib.Data.List.Nodup
import Mathlib.Data.List.TakeWhile
import RuuviGateway.General.IntrusiveList

/-!
# Recency lists of keyed values

The newest value comes first and each key occurs once. Touching a key puts its new value in front.
A bounded recency list forgets the oldest keys, and a search that stops early is exact where the
values without a property stand at the end.
-/

namespace General

variable {α κ : Type*} [DecidableEq κ] {key : α → κ} {l : List α} {x y : α} {p : α → Bool}

/-- The list after a new value for a key: an older value of that key is dropped. -/
def touch (key : α → κ) (x : α) (l : List α) : List α := x :: l.filter fun y => key y ≠ key x

theorem nodup_touch (h : (l.map key).Nodup) : ((touch key x l).map key).Nodup := by
  rw [touch, List.map_cons, List.nodup_cons]
  constructor
  · intro hmem
    obtain ⟨y, hy, hyx⟩ := List.mem_map.mp hmem
    have hne := (List.mem_filter.mp hy).2
    simp [hyx] at hne
  · exact h.sublist (List.filter_sublist.map key)

theorem touch_of_fresh (h : key x ∉ l.map key) : touch key x l = x :: l := by
  rw [touch, List.filter_eq_self.mpr]
  intro y hy
  have hne : key y ≠ key x := fun hyx => h (hyx ▸ List.mem_map_of_mem hy)
  simpa using hne

/-- Dropping the value of one key from the front part of a list. -/
theorem take_filter_ne (hl : (l.map key).Nodup) (k : κ) (n : ℕ) :
    (l.filter fun y => key y ≠ k).take n =
      ((l.take (n + 1)).filter fun y => key y ≠ k).take n := by
  induction l generalizing n with
  | nil => simp
  | cons y l ih =>
    rw [List.map_cons, List.nodup_cons] at hl
    rw [List.take_succ_cons]
    by_cases hy : key y = k
    · have hrest : ∀ l' ⊆ l, (l'.filter fun z => key z ≠ k) = l' := by
        intro l' hsub
        rw [List.filter_eq_self]
        intro z hz
        have hne : key z ≠ k := fun hzk => hl.1 (hy ▸ hzk ▸ List.mem_map_of_mem (hsub hz))
        simpa using hne
      have hkeep := hrest (l.take n) (List.take_subset n l)
      have hall := hrest l (List.Subset.refl l)
      simp only [ne_eq, hy, not_true_eq_false, decide_false, Bool.false_eq_true, not_false_eq_true,
        List.filter_cons_of_neg] at hkeep hall ⊢
      rw [hkeep, hall, List.take_take, Nat.min_self]
    · cases n with
      | zero => simp
      | succ n =>
        have hstep := ih hl.2 n
        simpa [hy] using hstep

/-- A bounded list forgets nothing that touching could bring back. -/
theorem take_touch (hl : (l.map key).Nodup) (n : ℕ) :
    (touch key x l).take n = (touch key x (l.take n)).take n := by
  cases n with
  | zero => rfl
  | succ n =>
    rw [touch, touch, List.take_succ_cons, List.take_succ_cons, take_filter_ne hl]

theorem map_touch {f : α → α} (hf : ∀ y, key (f y) = key y) :
    (touch key x l).map f = touch key (f x) (l.map f) := by
  rw [touch, touch, List.map_cons, List.filter_map]
  simp [Function.comp_def, hf]

/-- The last value of a full list is the one that a fresh key replaces. -/
theorem take_touch_full {n : ℕ} (hlen : l.length = n + 1) (h : key x ∉ l.map key) :
    (touch key x l).take (n + 1) = x :: l.dropLast := by
  rw [touch_of_fresh h, List.take_succ_cons, List.dropLast_eq_take, hlen]
  rfl

theorem takeWhile_congr {q : α → Bool} (h : ∀ y ∈ l, p y = q y) :
    l.takeWhile p = l.takeWhile q := by
  induction l with
  | nil => rfl
  | cons y l ih =>
    rw [List.forall_mem_cons] at h
    rw [List.takeWhile_cons, List.takeWhile_cons, h.1, ih h.2]

open IntrusiveList in
/-- A search that stops at the first failure finds all matches if failures only come last. -/
theorem takeWhile_eq_filter (h : FormSuffix (fun y => ¬p y) l) : l.takeWhile p = l.filter p := by
  induction l with
  | nil => rfl
  | cons y l ih =>
    rw [FormSuffix, List.pairwise_cons] at h
    by_cases hy : p y
    · rw [List.takeWhile_cons_of_pos hy, List.filter_cons_of_pos hy, ih h.2]
    · rw [List.takeWhile_cons_of_neg hy, List.filter_cons_of_neg hy, eq_comm,
        List.filter_eq_nil_iff]
      intro z hz
      exact h.1 z hz hy

end General
