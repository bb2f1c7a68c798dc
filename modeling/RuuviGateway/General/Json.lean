import Mathlib.Data.List.Nodup
import Mathlib.Data.Rat.Floor
import RuuviGateway.General.CString

/-!
# JSON values as cJSON holds them

An object is a list of named items. A lookup compares names without regard to case and
returns the first match, so a list of items with distinct names is read back item by item.
A number carries its integer value, truncated and limited to the range of `int`.
-/

namespace General

inductive Json
  | null
  | bool (b : Bool)
  | number (q : ℚ)
  | string (s : Bytes)
  | array (items : List Json)
  | object (items : List (String × Json))

namespace Json

/-- A name as it is compared. -/
def keyText (key : String) : List Char := key.toList.map Char.toLower

def find (key : String) : List (String × Json) → Option Json
  | [] => none
  | item :: items => if keyText item.1 = keyText key then some item.2 else find key items

/-- `cJSON_GetObjectItem`. The items of an array have no names. -/
def getObjectItem : Json → String → Option Json
  | object items, key => find key items
  | _, _ => none

/-- The elements that `cJSON_GetArraySize` and `cJSON_GetArrayItem` go through. -/
def children : Json → List Json
  | array items => items
  | object items => items.map Prod.snd
  | _ => []

/-- `cJSON_GetStringValue`, as the text behind the pointer. -/
def stringValue : Json → Option Bytes
  | string s => some (cstr s)
  | _ => none

def intMax : ℤ := 0x7fffffff

def intMin : ℤ := -0x80000000

/-- The field `valueint` of a number. -/
def valueint (q : ℚ) : ℤ :=
  if intMax ≤ q then intMax else if q ≤ intMin then intMin else q.num.tdiv q.den

theorem valueint_intCast {z : ℤ} (hmin : intMin < z) (hmax : z < intMax) : valueint z = z := by
  unfold valueint
  rw [if_neg (by exact_mod_cast not_le.mpr hmax), if_neg (by exact_mod_cast not_le.mpr hmin)]
  simp

theorem valueint_natCast {n : ℕ} (h : n < 0x7fffffff) : valueint n = n := by
  have hmin : intMin < (n : ℤ) := by
    unfold intMin
    omega
  have hmax : (n : ℤ) < intMax := by
    unfold intMax
    omega
  simpa using valueint_intCast hmin hmax

/-! ## Cutting a number -/

/-- A number is cut towards zero. -/
def truncate (q : ℚ) : ℤ := q.num.tdiv q.den

theorem truncate_of_nonneg {q : ℚ} (h : 0 ≤ q) : truncate q = ⌊q⌋ := by
  rw [truncate, Rat.floor_def', Int.tdiv_eq_ediv_of_nonneg (Rat.num_nonneg.mpr h)]

theorem truncate_neg (q : ℚ) : truncate (-q) = -truncate q := by
  simp [truncate, Int.neg_tdiv]

theorem truncate_nonpos {q : ℚ} (h : q ≤ 0) : truncate q ≤ 0 := by
  have hneg : 0 ≤ truncate (-q) := by
    rw [truncate_of_nonneg (by linarith)]
    exact Int.floor_nonneg.mpr (by linarith)
  rw [truncate_neg] at hneg
  omega

theorem truncate_le_iff {q : ℚ} {n : ℤ} (hn : 0 ≤ n) : truncate q ≤ n ↔ q < n + 1 := by
  have hn' : (0 : ℚ) ≤ n := by exact_mod_cast hn
  rcases le_total 0 q with hq | hq
  · rw [truncate_of_nonneg hq, ← Int.lt_add_one_iff, Int.floor_lt]
    norm_cast
  · have hle := truncate_nonpos hq
    exact iff_of_true (by omega) (by linarith)

theorem le_truncate_iff {q : ℚ} {n : ℤ} (hn : n ≤ 0) : n ≤ truncate q ↔ n - 1 < q := by
  have h := truncate_le_iff (q := -q) (n := -n) (by omega)
  rw [truncate_neg, neg_le_neg_iff] at h
  rw [h]
  push_cast
  constructor <;> intro h <;> linarith

theorem valueint_le_iff {q : ℚ} {n : ℤ} (hn : 0 ≤ n) (hmax : n < intMax) :
    valueint q ≤ n ↔ q < n + 1 := by
  have hn' : (0 : ℚ) ≤ n := by exact_mod_cast hn
  have hmax' : (n : ℚ) + 1 ≤ intMax := by exact_mod_cast hmax
  have hmin : (intMin : ℚ) < 0 := by
    unfold intMin
    norm_num
  unfold valueint
  split_ifs with hlarge hsmall
  · exact iff_of_false (by omega) (by linarith)
  · refine iff_of_true ?_ (by linarith)
    unfold intMin
    omega
  · exact truncate_le_iff hn

theorem le_valueint_iff {q : ℚ} {n : ℤ} (hn : n ≤ 0) (hmin : intMin < n) :
    n ≤ valueint q ↔ n - 1 < q := by
  have hn' : (n : ℚ) ≤ 0 := by exact_mod_cast hn
  have hmin' : (intMin : ℚ) ≤ n - 1 := by
    have h : intMin ≤ n - 1 := by omega
    exact_mod_cast h
  have hmax : (0 : ℚ) < intMax := by
    unfold intMax
    norm_num
  unfold valueint
  split_ifs with hlarge hsmall
  · refine iff_of_true ?_ (by linarith)
    unfold intMax
    omega
  · exact iff_of_false (by omega) (by linarith)
  · exact le_truncate_iff hn

/-! ## Reading back a list of items -/

def keys (items : List (String × Json)) : List (List Char) := items.map fun item => keyText item.1

/-- Every item of the list is found under its name. -/
def Contains (root : Json) (items : List (String × Json)) : Prop :=
  ∀ item ∈ items, root.getObjectItem item.1 = some item.2

theorem find_of_mem {items : List (String × Json)} (hnodup : (keys items).Nodup) {key : String}
    {value : Json} (hmem : (key, value) ∈ items) : find key items = some value := by
  induction items with
  | nil => simp at hmem
  | cons item items ih =>
    have hcons : keyText item.1 ∉ keys items ∧ (keys items).Nodup := List.nodup_cons.mp hnodup
    rcases List.mem_cons.mp hmem with rfl | htail
    · exact if_pos rfl
    · have hne : keyText item.1 ≠ keyText key := by
        intro heq
        apply hcons.1
        rw [heq]
        exact List.mem_map_of_mem (f := fun item : String × Json => keyText item.1) htail
      exact (if_neg hne).trans (ih hcons.2 htail)

theorem find_eq_none {items : List (String × Json)} {key : String}
    (h : keyText key ∉ keys items) : find key items = none := by
  induction items with
  | nil => rfl
  | cons item items ih =>
    have hcons : ¬(keyText key = keyText item.1 ∨ keyText key ∈ keys items) := by
      simpa [keys] using h
    rw [not_or] at hcons
    exact (if_neg (Ne.symm hcons.1)).trans (ih hcons.2)

/-- The first of two lists that has the name decides. -/
theorem find_append (key : String) (items items' : List (String × Json)) :
    find key (items ++ items') = (find key items).or (find key items') := by
  induction items with
  | nil => rfl
  | cons item items ih =>
    rw [List.cons_append, find, find]
    split_ifs
    · rfl
    · exact ih

theorem contains_object {items all : List (String × Json)} (hnodup : (keys all).Nodup)
    (hsub : items ⊆ all) : Contains (object all) items :=
  fun _ hitem => find_of_mem hnodup (hsub hitem)

theorem contains_cons {root : Json} {item : String × Json} {items : List (String × Json)} :
    Contains root (item :: items) ↔
      root.getObjectItem item.1 = some item.2 ∧ Contains root items := by
  simp [Contains]

theorem contains_append {root : Json} {items items' : List (String × Json)} :
    Contains root (items ++ items') ↔ Contains root items ∧ Contains root items' := by
  simp [Contains, or_imp, forall_and]

end Json

end General
