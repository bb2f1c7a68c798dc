import Mathlib.Data.List.Basic
import Mathlib.Data.List.Nodup
import Mathlib.Data.List.Perm.Basic
import Mathlib.Logic.Function.Basic

/-!
# Intrusive lists

Several lists are threaded through one array of elements, and each element carries a Boolean flag
that says whether it is on a given list. `Agrees flag l` is the agreement of flag and list. A
recency list keeps all elements ordered by their last use; `FormSuffix` says that the elements with
some property stand at its end. An element is on one list of a family at most if the members of the
family have no duplicates. -/

namespace General.IntrusiveList

variable {α : Type*} {l : List α} {p q : α → Prop}

section Flags

variable [DecidableEq α] {flag flag' : α → Bool}

/-- An element is on the list exactly once if its flag is set, and not at all otherwise. -/
def Agrees (flag : α → Bool) (l : List α) : Prop :=
  ∀ x, l.count x = if flag x then 1 else 0

theorem Agrees.nodup (h : Agrees flag l) : l.Nodup := by
  rw [List.nodup_iff_count_le_one]
  intro x
  rw [h x]
  split_ifs <;> omega

theorem Agrees.mem_iff (h : Agrees flag l) (x : α) : x ∈ l ↔ flag x = true := by
  rw [← List.count_pos_iff, h x]
  by_cases hx : flag x <;> simp [hx]

theorem agrees_iff : Agrees flag l ↔ l.Nodup ∧ ∀ x, x ∈ l ↔ flag x = true := by
  refine ⟨fun h => ⟨h.nodup, h.mem_iff⟩, fun h x => ?_⟩
  by_cases hx : flag x
  · simp only [hx, if_true]
    exact List.count_eq_one_of_mem h.1 ((h.2 x).mpr hx)
  · simp only [hx]
    exact List.count_eq_zero_of_not_mem fun hm => hx ((h.2 x).mp hm)

theorem Agrees.congr (h : Agrees flag l) (hf : ∀ x, flag' x = flag x) : Agrees flag' l := by
  intro x
  rw [h x, hf x]

/-- Appending an element that is not on the list, and setting its flag. -/
theorem Agrees.insertTail (h : Agrees flag l) {y : α} (hy : flag y = false)
    (hf : ∀ x, flag' x = if x = y then true else flag x) : Agrees flag' (l ++ [y]) := by
  intro x
  rw [List.count_append, h x, hf x]
  by_cases hx : x = y
  · subst hx
    simp [hy]
  · simp [hx, Ne.symm hx]

/-- Removing an element of the list, and clearing its flag. -/
theorem Agrees.remove (h : Agrees flag l) {y : α}
    (hf : ∀ x, flag' x = if x = y then false else flag x) : Agrees flag' (l.erase y) := by
  intro x
  rw [hf x]
  by_cases hx : x = y
  · subst hx
    rw [List.count_erase_self, h x]
    by_cases hx : flag x <;> simp [hx]
  · rw [List.count_erase_of_ne hx, h x, if_neg hx]

theorem agrees_nil (hf : ∀ x, flag x = false) : Agrees flag [] := by
  intro x
  simp [hf x]

end Flags

section Recency

/-- The members with property `p` come after all the members without it. -/
def FormSuffix (p : α → Prop) (l : List α) : Prop :=
  l.Pairwise fun x y => p x → p y

theorem formSuffix_iff :
    FormSuffix p l ↔ ∃ a b, l = a ++ b ∧ (∀ x ∈ a, ¬p x) ∧ ∀ x ∈ b, p x := by
  constructor
  · intro h
    induction l with
    | nil => exact ⟨[], [], rfl, by simp, by simp⟩
    | cons x l ih =>
      rw [FormSuffix, List.pairwise_cons] at h
      by_cases hx : p x
      · refine ⟨[], x :: l, rfl, by simp, ?_⟩
        intro y hy
        rcases List.mem_cons.mp hy with rfl | hy
        · exact hx
        · exact h.1 y hy hx
      · obtain ⟨a, b, rfl, ha, hb⟩ := ih h.2
        exact ⟨x :: a, b, rfl, by simpa [hx] using ha, hb⟩
  · rintro ⟨a, b, rfl, ha, hb⟩
    refine List.pairwise_append.mpr ⟨?_, ?_, fun x hx _ _ hp => absurd hp (ha x hx)⟩
    · exact List.pairwise_of_forall_mem_list fun x hx _ _ hp => absurd hp (ha x hx)
    · exact List.pairwise_of_forall_mem_list fun _ _ y hy _ => hb y hy

theorem FormSuffix.congr (h : FormSuffix p l) (hpq : ∀ x ∈ l, q x ↔ p x) : FormSuffix q l := by
  refine List.Pairwise.imp_of_mem ?_ h
  intro x y hx hy hxy hq
  exact (hpq y hy).mpr (hxy ((hpq x hx).mp hq))

/-- An element that loses the property moves to the front. -/
theorem FormSuffix.moveToFront [DecidableEq α] (h : FormSuffix p l) (hl : l.Nodup) {y : α}
    (hy : ¬q y) (hpq : ∀ x, x ≠ y → (q x ↔ p x)) : FormSuffix q (y :: l.erase y) := by
  have hrest : FormSuffix p (l.erase y) := h.sublist List.erase_sublist
  refine List.pairwise_cons.mpr ⟨fun _ _ hq => absurd hq hy, hrest.congr ?_⟩
  intro x hx
  exact hpq x (hl.mem_erase_iff.mp hx).1

/-- If any member has the property then the last one does. -/
theorem FormSuffix.getLast (h : FormSuffix p l) (hl : l ≠ []) {x : α} (hx : x ∈ l) (hp : p x) :
    p (l.getLast hl) := by
  obtain ⟨a, b, rfl, ha, hb⟩ := formSuffix_iff.mp h
  have hxb : x ∈ b := (List.mem_append.mp hx).resolve_left fun hm => ha x hm hp
  rw [List.getLast_append_of_ne_nil _ (List.ne_nil_of_mem hxb)]
  exact hb _ (List.getLast_mem _)

theorem moveToFront_perm [DecidableEq α] {y : α} (hy : y ∈ l) : (y :: l.erase y).Perm l :=
  (List.perm_cons_erase hy).symm

end Recency

section Family

variable {κ : Type*} {keys : List κ} {f : κ → List α}

/-- The elements of all lists of a family. -/
def members (keys : List κ) (f : κ → List α) : List α := keys.flatMap f

theorem mem_members {x : α} : x ∈ members keys f ↔ ∃ k ∈ keys, x ∈ f k := List.mem_flatMap

theorem nodup_of_members (h : (members keys f).Nodup) {k : κ} (hk : k ∈ keys) : (f k).Nodup :=
  (List.nodup_flatMap.mp h).1 k hk

variable [DecidableEq κ]

theorem members_update_of_not_mem {k : κ} (hk : k ∉ keys) (l' : List α) :
    members keys (Function.update f k l') = members keys f := by
  refine List.flatMap_congr fun k' hk' => ?_
  rw [Function.update_of_ne]
  rintro rfl
  exact hk hk'

/-- What is put on one list is new among the members. -/
theorem members_update_perm (hkeys : keys.Nodup) {k : κ} (hk : k ∈ keys) {l' new : List α}
    (hl : l'.Perm (new ++ f k)) :
    (members keys (Function.update f k l')).Perm (new ++ members keys f) := by
  induction keys with
  | nil => cases hk
  | cons k' keys ih =>
    obtain ⟨hnot, hkeys⟩ := List.nodup_cons.mp hkeys
    have hcons : ∀ g : κ → List α, members (k' :: keys) g = g k' ++ members keys g :=
      fun _ => List.flatMap_cons
    rw [hcons, hcons]
    by_cases heq : k = k'
    · subst heq
      rw [Function.update_self, members_update_of_not_mem hnot, ← List.append_assoc]
      exact hl.append_right _
    · have hmem : k ∈ keys := (List.mem_cons.mp hk).resolve_left heq
      rw [Function.update_of_ne (Ne.symm heq)]
      exact ((ih hkeys hmem).append_left _).trans (List.perm_append_comm_assoc ..)

/-- What is taken from one list is no longer among the members. -/
theorem perm_members_update (hkeys : keys.Nodup) {k : κ} (hk : k ∈ keys) {l' old : List α}
    (hl : (f k).Perm (old ++ l')) :
    (members keys f).Perm (old ++ members keys (Function.update f k l')) := by
  have hback : (f k).Perm (old ++ Function.update f k l' k) := by rwa [Function.update_self]
  have hperm := members_update_perm hkeys hk hback
  rwa [Function.update_idem, Function.update_eq_self] at hperm

end Family

section Search

variable [BEq α] [LawfulBEq α] {found : α → Bool}

/-- The removal of what a search has found. -/
theorem erase_eq_eraseP {x : α} (hx : l.find? found = some x) : l.erase x = l.eraseP found := by
  induction l with
  | nil => cases hx
  | cons y l ih =>
    by_cases hy : found y = true
    · rw [List.find?_cons_of_pos hy] at hx
      obtain rfl := Option.some.inj hx
      rw [List.erase_cons_head, List.eraseP_cons_of_pos hy]
    · have hfound := List.find?_some hx
      rw [List.find?_cons_of_neg hy] at hx
      rw [List.erase_cons_tail, List.eraseP_cons_of_neg hy, ih hx]
      rw [beq_iff_eq]
      rintro rfl
      exact hy hfound

end Search

end General.IntrusiveList
