import Mathlib.Data.Finset.Card
import Mathlib.Data.Finset.Dedup

/-!
# Tables with a fixed number of slots

A slot is free or holds an entry, and every entry has a key. An entry replaces the one with its key,
or takes the first free slot; what is no longer wanted is freed by position.
-/

namespace General.Slots

variable {σ κ : Type*} [DecidableEq κ] {key : σ → κ} {free : κ}

section Operations

variable (key : σ → κ)

def lookup (slots : List σ) (k : κ) : Option σ := slots.find? fun x => key x = k

def index (slots : List σ) (k : κ) : Option ℕ := slots.findIdx? fun x => key x = k

/-- The slot that an entry goes to, if there is one, and the table after it. -/
def store (free : κ) (slots : List σ) (x : σ) : Option ℕ × List σ :=
  match (index key slots (key x)).or (index key slots free) with
  | some i => (some i, slots.set i x)
  | none => (none, slots)

/-- Only the slots of some positions are kept. -/
def keep (blank : σ) (slots : List σ) (kept : ℕ → Bool) : List σ :=
  slots.mapIdx fun i x => if kept i then x else blank

/-- Two slots with the same key are the same or free. -/
def Distinct (free : κ) (slots : List σ) : Prop :=
  ∀ i j (hi : i < slots.length) (hj : j < slots.length),
    key slots[i] = key slots[j] → key slots[i] = free ∨ i = j

end Operations

variable {slots : List σ} {k : κ} {x y : σ} {i : ℕ}

theorem index_eq_some (h : index key slots k = some i) :
    ∃ hi : i < slots.length, key slots[i] = k := by
  obtain ⟨hi, hkey, -⟩ := List.findIdx?_eq_some_iff_getElem.mp h
  exact ⟨hi, by simpa using hkey⟩

theorem index_eq_none (h : index key slots k = none) : ∀ x ∈ slots, key x ≠ k := by
  simpa [index, List.findIdx?_eq_none_iff] using h

theorem lookup_eq_some (hd : Distinct key free slots) (hk : k ≠ free) :
    lookup key slots k = some x ↔ x ∈ slots ∧ key x = k := by
  constructor
  · intro h
    exact ⟨List.mem_of_find?_eq_some h, by simpa using List.find?_some h⟩
  · rintro ⟨hx, rfl⟩
    cases hfind : lookup key slots (key x) with
    | none => exact absurd (List.find?_eq_none.mp hfind x hx) (by simp)
    | some y =>
      have hy : y ∈ slots := List.mem_of_find?_eq_some hfind
      have hkey : key y = key x := by simpa using List.find?_some hfind
      obtain ⟨i, hi, rfl⟩ := List.mem_iff_getElem.mp hx
      obtain ⟨j, hj, rfl⟩ := List.mem_iff_getElem.mp hy
      rcases hd j i hj hi hkey with hfree | rfl
      · exact absurd (hkey ▸ hfree) hk
      · rfl

/-- There is room for an entry if its key is there or the keys leave a slot free. -/
theorem exists_index (hd : Distinct key free slots) {keys : Finset κ}
    (hkeys : ∀ y ∈ slots, key y = free ∨ key y ∈ keys) (hroom : (insert k keys).card ≤ slots.length)
    (hnew : k ∉ keys) : ∃ i, index key slots free = some i := by
  cases hfree : index key slots free with
  | some i => exact ⟨i, rfl⟩
  | none =>
    have hne := index_eq_none hfree
    have hnodup : (slots.map key).Nodup := by
      rw [List.nodup_iff_injective_getElem]
      intro i j hij
      dsimp only at hij
      have hi : (i : ℕ) < slots.length := by simpa using i.isLt
      have hj : (j : ℕ) < slots.length := by simpa using j.isLt
      rw [List.getElem_map, List.getElem_map] at hij
      rcases hd i j hi hj hij with hf | heq
      · exact absurd hf (hne _ (List.getElem_mem hi))
      · exact Fin.ext heq
    have hsub : (slots.map key).toFinset ⊆ keys := by
      intro k' hk'
      obtain ⟨y, hy, rfl⟩ := List.mem_map.mp (List.mem_toFinset.mp hk')
      exact (hkeys y hy).resolve_left (hne y hy)
    have hcard := Finset.card_le_card hsub
    rw [List.toFinset_card_of_nodup hnodup, List.length_map] at hcard
    rw [Finset.card_insert_of_notMem hnew] at hroom
    omega

/-- The slot that an entry can take: the one of its key, or a free one where there is none. -/
structure Takes (key : σ → κ) (free : κ) (slots : List σ) (x : σ) (i : ℕ) : Prop where
  lt : i < slots.length
  replaces : key slots[i] = key x ∨ key slots[i] = free ∧ ∀ y ∈ slots, key y ≠ key x

theorem store_cases (key : σ → κ) (free : κ) (slots : List σ) (x : σ) :
    (∃ i, store key free slots x = (some i, slots.set i x) ∧ Takes key free slots x i) ∨
      store key free slots x = (none, slots) ∧ index key slots (key x) = none ∧
        index key slots free = none := by
  rw [store]
  cases hkey : index key slots (key x) with
  | some i =>
    obtain ⟨hi, hx⟩ := index_eq_some hkey
    exact .inl ⟨i, rfl, hi, .inl hx⟩
  | none =>
    cases hfree : index key slots free with
    | some i =>
      obtain ⟨hi, hx⟩ := index_eq_some hfree
      exact .inl ⟨i, rfl, hi, .inr ⟨hx, index_eq_none hkey⟩⟩
    | none => exact .inr ⟨rfl, rfl, rfl⟩

omit [DecidableEq κ] in
/-- No other slot has the key. -/
theorem Takes.key_ne (h : Takes key free slots x i) (hd : Distinct key free slots)
    (hx : key x ≠ free) {j : ℕ} (hj : j < slots.length) (hne : i ≠ j) : key slots[j] ≠ key x := by
  obtain ⟨hi, hreplaces⟩ := h
  intro hkey
  rcases hreplaces with hsame | ⟨-, hnone⟩
  · rcases hd i j hi hj (hsame.trans hkey.symm) with hf | heq
    · exact hx (hsame ▸ hf)
    · exact hne heq
  · exact hnone _ (List.getElem_mem hj) hkey

omit [DecidableEq κ] in
theorem Takes.distinct (h : Takes key free slots x i) (hd : Distinct key free slots)
    (hx : key x ≠ free) : Distinct key free (slots.set i x) := by
  intro j j' hj hj' hkey
  rw [List.length_set] at hj hj'
  rw [List.getElem_set, List.getElem_set] at hkey
  rw [List.getElem_set]
  split_ifs at hkey ⊢ with h₁ h₂ h₂
  · exact .inr (h₁.symm.trans h₂)
  · exact absurd hkey.symm (h.key_ne hd hx hj' h₂)
  · exact absurd hkey (h.key_ne hd hx hj h₁)
  · exact hd j j' hj hj' hkey

/-- A new entry is found under its key, and every other one as before. -/
theorem Takes.lookup (h : Takes key free slots x i) (hd : Distinct key free slots)
    (hx : key x ≠ free) (hk : k ≠ free) :
    lookup key (slots.set i x) k = if k = key x then some x else lookup key slots k := by
  have hset := h.distinct hd hx
  obtain ⟨hi, hreplaces⟩ := h
  split_ifs with hkx
  · rw [lookup_eq_some hset hk]
    exact ⟨List.mem_set hi x, hkx.symm⟩
  · ext y
    rw [lookup_eq_some hset hk, lookup_eq_some hd hk]
    constructor
    · rintro ⟨hy, hky⟩
      obtain ⟨j, hj, rfl⟩ := List.mem_iff_getElem.mp hy
      rw [List.length_set] at hj
      rw [List.getElem_set] at hky ⊢
      split_ifs at hky ⊢
      · exact absurd hky.symm hkx
      · exact ⟨List.getElem_mem hj, hky⟩
    · rintro ⟨hy, hky⟩
      obtain ⟨j, hj, rfl⟩ := List.mem_iff_getElem.mp hy
      refine ⟨List.mem_iff_getElem.mpr ⟨j, by rwa [List.length_set], ?_⟩, hky⟩
      rw [List.getElem_set_ne]
      rintro rfl
      rcases hreplaces with hsame | ⟨hf, -⟩
      · exact hkx (hky.symm.trans hsame)
      · exact hk (hky.symm.trans hf)

section Keep

variable {blank : σ} {kept : ℕ → Bool}

theorem length_keep : (keep blank slots kept).length = slots.length := List.length_mapIdx

theorem getElem_keep (hi : i < slots.length) (hi' : i < (keep blank slots kept).length) :
    (keep blank slots kept)[i] = if kept i then slots[i] else blank := by
  simp [keep]

omit [DecidableEq κ] in
theorem distinct_keep (hd : Distinct key free slots) (hblank : key blank = free) :
    Distinct key free (keep blank slots kept) := by
  intro i j hi' hj' hkey
  have hi : i < slots.length := length_keep ▸ hi'
  have hj : j < slots.length := length_keep ▸ hj'
  rw [getElem_keep hi hi', getElem_keep hj hj'] at hkey
  rw [getElem_keep hi hi']
  split_ifs at hkey ⊢
  · exact hd i j hi hj hkey
  · exact .inl (hkey.trans hblank)
  · exact .inl hblank
  · exact .inl hblank

omit [DecidableEq κ] in
theorem mem_keep (key : σ → κ) (hx : key x ≠ key blank) : x ∈ keep blank slots kept ↔
    ∃ i, ∃ hi : i < slots.length, slots[i] = x ∧ kept i = true := by
  rw [List.mem_iff_getElem]
  constructor
  · rintro ⟨i, hi', rfl⟩
    have hi : i < slots.length := length_keep ▸ hi'
    rw [getElem_keep hi hi'] at hx ⊢
    split_ifs at hx ⊢ with hkept
    · exact ⟨i, hi, rfl, hkept⟩
    · exact absurd rfl hx
  · rintro ⟨i, hi, rfl, hkept⟩
    exact ⟨i, by rwa [length_keep], by rw [getElem_keep hi, if_pos hkept]⟩

end Keep

end General.Slots
