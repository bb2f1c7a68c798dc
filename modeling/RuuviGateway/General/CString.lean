import Mathlib.Algebra.GroupWithZero.Nat
import Mathlib.Data.List.Basic

/-!
# C strings in bounded buffers

The text of a byte buffer ends at its first NUL. `CStr n` is the content of a buffer
`char[n]` that holds a terminated string; copying into it with `snprintf` truncates. A
string can also be written at an offset of a larger block, which leaves the bytes after
its NUL as they were.
-/

namespace General

abbrev Bytes := List UInt8

/-- The bytes of a text whose characters are ASCII. -/
def ascii (s : String) : Bytes := s.toList.map fun c => UInt8.ofNat c.toNat

/-- The text of a C string: everything before the first NUL. -/
def cstr : Bytes → Bytes
  | [] => []
  | b :: s => if b = 0 then [] else b :: cstr s

@[simp] theorem cstr_nil : cstr [] = [] := rfl

@[simp] theorem cstr_nul (s : Bytes) : cstr (0 :: s) = [] := rfl

theorem cstr_cons {b : UInt8} (hb : b ≠ 0) (s : Bytes) : cstr (b :: s) = b :: cstr s := if_neg hb

theorem noNul_cstr (s : Bytes) : 0 ∉ cstr s := by
  induction s with
  | nil => simp
  | cons b s ih =>
    by_cases hb : b = 0
    · simp [hb]
    · rw [cstr_cons hb, List.mem_cons, not_or]
      exact ⟨Ne.symm hb, ih⟩

theorem cstr_prefix (s : Bytes) : cstr s <+: s := by
  induction s with
  | nil => exact List.prefix_rfl
  | cons b s ih =>
    by_cases hb : b = 0
    · simp [hb]
    · rw [cstr_cons hb]
      exact List.cons_prefix_cons.mpr ⟨rfl, ih⟩

/-- The text ends where the first NUL stands. -/
theorem cstr_append_nul {s : Bytes} (h : 0 ∉ s) (t : Bytes) : cstr (s ++ 0 :: t) = s := by
  induction s with
  | nil => rfl
  | cons b s ih =>
    rw [List.mem_cons, not_or] at h
    rw [List.cons_append, cstr_cons (Ne.symm h.1), ih h.2]

/-- Nothing behind a NUL counts. -/
theorem cstr_append_nul_self (s t : Bytes) : cstr (s ++ 0 :: t) = cstr s := by
  induction s with
  | nil => rfl
  | cons b s ih =>
    by_cases hb : b = 0
    · simp [hb]
    · rw [List.cons_append, cstr_cons hb, cstr_cons hb, ih]

theorem cstr_of_noNul {s : Bytes} (h : 0 ∉ s) : cstr s = s := by
  induction s with
  | nil => rfl
  | cons b s ih =>
    rw [List.mem_cons, not_or] at h
    rw [cstr_cons (Ne.symm h.1), ih h.2]

/-- A buffer that has its NUL among the first `n` bytes is read without the others. -/
theorem cstr_eq_of_take {s t : Bytes} {n : ℕ} (hnul : 0 ∈ s.take n) (h : s.take n = t.take n) :
    cstr t = cstr s := by
  induction n generalizing s t with
  | zero => simp at hnul
  | succ n ih =>
    cases s with
    | nil => simp at hnul
    | cons b s =>
      cases t with
      | nil => simp at h
      | cons b' t =>
        simp only [List.take_succ_cons, List.cons.injEq] at h hnul
        obtain ⟨rfl, htail⟩ := h
        by_cases hb : b = 0
        · simp [hb]
        · have hmem : 0 ∈ s.take n := (List.mem_cons.mp hnul).resolve_left (Ne.symm hb)
          rw [cstr_cons hb, cstr_cons hb, ih hmem htail]

/-- A text that ends before the end of its buffer is followed by a NUL. -/
theorem nul_mem_take {s : Bytes} {n : ℕ} (h : (cstr s).length < n)
    (hlen : (cstr s).length < s.length) : 0 ∈ s.take n := by
  induction s generalizing n with
  | nil => simp at hlen
  | cons b s ih =>
    obtain ⟨n, rfl⟩ : ∃ m, n = m + 1 := ⟨n - 1, by omega⟩
    by_cases hb : b = 0
    · simp [hb]
    · rw [cstr_cons hb, List.length_cons] at h hlen
      rw [List.length_cons] at hlen
      rw [List.take_succ_cons, List.mem_cons]
      exact .inr (ih (by omega) (by omega))

/-- The content of a buffer `char[n]` that holds a terminated string. -/
@[ext] structure CStr (n : ℕ) where
  val : Bytes
  noNul : 0 ∉ val
  fits : val.length < n
  deriving DecidableEq

namespace CStr

variable {n : ℕ}

/-- `snprintf(buf, n, "%s", s)`. -/
def snprintf (n : ℕ) [NeZero n] (s : Bytes) : CStr n where
  val := (cstr s).take (n - 1)
  noNul hmem := noNul_cstr s (List.mem_of_mem_take hmem)
  fits := by
    have hn := Nat.pos_of_ne_zero (NeZero.ne n)
    rw [List.length_take]
    omega

def empty [NeZero n] : CStr n := snprintf n []

@[simp] theorem val_empty [NeZero n] : (empty : CStr n).val = [] := List.take_nil

@[simp] theorem cstr_val (c : CStr n) : cstr c.val = c.val := cstr_of_noNul c.noNul

/-- Copying a string into a buffer of the size it already fits keeps it. -/
@[simp] theorem snprintf_val [NeZero n] (c : CStr n) : snprintf n c.val = c := by
  have hfits := c.fits
  ext1
  simp only [snprintf, cstr_val]
  exact List.take_of_length_le (by omega)

@[simp] theorem snprintf_cstr [NeZero n] (s : Bytes) : snprintf n (cstr s) = snprintf n s := by
  ext1
  simp only [snprintf, cstr_of_noNul (noNul_cstr s)]

/-- A string that fits is copied as it is. -/
theorem val_snprintf [NeZero n] {s : Bytes} (hnul : 0 ∉ s) (hfits : s.length < n) :
    (snprintf n s).val = s := by
  show (cstr s).take (n - 1) = s
  rw [cstr_of_noNul hnul]
  exact List.take_of_length_le (Nat.le_sub_one_of_lt hfits)

end CStr

section Blocks

/-- The string `s` written at an offset of the block, with its terminating NUL. -/
def writeAt (block : Bytes) (off : ℕ) (s : Bytes) : Bytes :=
  block.take off ++ s ++ 0 :: block.drop (off + s.length + 1)

variable {block s : Bytes} {off : ℕ}

theorem length_writeAt (h : off + s.length < block.length) :
    (writeAt block off s).length = block.length := by
  simp only [writeAt, List.length_append, List.length_take, List.length_cons, List.length_drop]
  omega

theorem drop_writeAt (h : off ≤ block.length) :
    (writeAt block off s).drop off = s ++ 0 :: block.drop (off + s.length + 1) := by
  unfold writeAt
  rw [List.append_assoc, List.drop_append, List.length_take, Nat.min_eq_left h]
  simp

/-- The string that was written is read back. -/
theorem cstr_drop_writeAt (h : off ≤ block.length) (hs : 0 ∉ s) :
    cstr ((writeAt block off s).drop off) = s := by
  rw [drop_writeAt h]
  exact cstr_append_nul hs _

/-- The bytes after the string are unchanged. -/
theorem drop_writeAt_of_le {k : ℕ} (h : off + s.length < block.length)
    (hk : off + s.length + 1 ≤ k) : (writeAt block off s).drop k = block.drop k := by
  obtain ⟨m, rfl⟩ := Nat.exists_eq_add_of_le hk
  have hlen : (block.take off ++ s).length = off + s.length := by
    simp only [List.length_append, List.length_take]
    omega
  unfold writeAt
  rw [List.drop_append, hlen, List.drop_eq_nil_of_le (by omega), List.nil_append,
    Nat.add_assoc (off + s.length) 1 m, Nat.add_sub_cancel_left, Nat.add_comm 1 m,
    List.drop_succ_cons, List.drop_drop]
  congr 1
  omega

theorem cstr_append_drop (h : 0 ∈ s) : cstr s ++ 0 :: s.drop ((cstr s).length + 1) = s := by
  induction s with
  | nil => simp at h
  | cons b s ih =>
    by_cases hb : b = 0
    · simp [hb]
    · have htail : 0 ∈ s := (List.mem_cons.mp h).resolve_left (Ne.symm hb)
      rw [cstr_cons hb, List.length_cons, List.drop_succ_cons, List.cons_append, ih htail]

/-- Writing a text over itself changes nothing. -/
theorem writeAt_cstr (h : 0 ∈ block.drop off) :
    writeAt block off (cstr (block.drop off)) = block := by
  have htext := cstr_append_drop h
  rw [List.drop_drop] at htext
  rw [writeAt, List.append_assoc, Nat.add_assoc, htext, List.take_append_drop]

/-- The bytes before the string are unchanged. -/
theorem take_writeAt {k : ℕ} (hk : k ≤ off) (h : off ≤ block.length) :
    (writeAt block off s).take k = block.take k := by
  unfold writeAt
  rw [List.append_assoc, List.take_append_of_le_length, List.take_take, Nat.min_eq_left hk]
  rw [List.length_take]
  omega

/-- The block up to the NUL that was written. -/
theorem take_writeAt_nul (h : off ≤ block.length) :
    (writeAt block off s).take (off + s.length + 1) = block.take off ++ s ++ [0] := by
  have hlen : (block.take off ++ s).length = off + s.length := by
    rw [List.length_append, List.length_take, Nat.min_eq_left h]
  unfold writeAt
  rw [← hlen, List.take_length_add_append]
  rfl

/-- A text that ends before the offset is unchanged. -/
theorem cstr_writeAt_of_lt (h : off ≤ block.length) (ht : (cstr block).length < off) :
    cstr (writeAt block off s) = cstr block := by
  have hnul : 0 ∈ block.take off := nul_mem_take ht (by omega)
  exact cstr_eq_of_take hnul (take_writeAt (Nat.le_refl off) h).symm

/-- The bytes before the string and after its NUL are unchanged. -/
theorem getElem?_writeAt {i : ℕ} (h : off + s.length < block.length)
    (hi : i < off ∨ off + s.length < i) : (writeAt block off s)[i]? = block[i]? := by
  rcases hi with hi | hi
  · have hoff : off ≤ block.length := by omega
    have htake := take_writeAt (s := s) (Nat.le_refl off) hoff
    have hbyte := congrArg (fun l : Bytes => l[i]?) htake
    simpa only [List.getElem?_take_of_lt hi] using hbyte
  · have hdrop := drop_writeAt_of_le (s := s) h (Nat.succ_le_of_lt hi)
    have hbyte := congrArg (fun l : Bytes => l[0]?) hdrop
    simpa only [List.getElem?_drop, Nat.add_zero] using hbyte

/-- A text without the separator begins a text if it begins what stands before the separator. -/
theorem prefix_append_cons_iff {needle s t : Bytes} {c : UInt8} (hc : c ∉ needle) :
    needle <+: s ++ c :: t ↔ needle <+: s := by
  constructor
  · intro h
    rcases Nat.lt_or_ge s.length needle.length with hlt | hle
    · have hget := List.IsPrefix.getElem h hlt
      rw [List.getElem_append_right (Nat.le_refl _)] at hget
      simp only [Nat.sub_self, List.getElem_cons_zero] at hget
      exact absurd (hget ▸ List.getElem_mem hlt) hc
    · exact List.prefix_of_prefix_length_le h (List.prefix_append s _) hle
  · intro h
    exact h.trans (List.prefix_append s _)

theorem cstr_eq_nil_iff {t : Bytes} : cstr t = [] ↔ t[0]? = none ∨ t[0]? = some 0 := by
  cases t with
  | nil => simp
  | cons b t =>
    by_cases hb : b = 0
    · simp [hb]
    · simp [cstr_cons hb, hb]

theorem getLast_writeAt (hlast : block.getLast? = some 0) :
    (writeAt block off s).getLast? = some 0 := by
  unfold writeAt
  rw [List.getLast?_append, List.getLast?_cons, List.getLast?_drop]
  split_ifs
  · rfl
  · rw [hlast]
    rfl

/-- A block whose last byte is NUL holds a terminated text at every offset. -/
theorem length_cstr_drop (hlast : block.getLast? = some 0) (h : off < block.length) :
    (cstr (block.drop off)).length < block.length - off := by
  have hlast' : (block.drop off).getLast? = some 0 := by
    rw [List.getLast?_drop, if_neg (by omega), hlast]
  obtain ⟨init, hinit⟩ := List.getLast?_eq_some_iff.mp hlast'
  have hinitial := cstr_prefix (block.drop off)
  have hle := hinitial.length_le
  have hne : (cstr (block.drop off)).length ≠ (block.drop off).length := by
    intro heq
    have hnul := noNul_cstr (block.drop off)
    rw [hinitial.eq_of_length heq, hinit] at hnul
    simp at hnul
  rw [List.length_drop] at hle hne
  omega

end Blocks

end General
