import RuuviGateway.General.CString

/-!
# String buffers that count before they write

A buffer without memory counts the bytes that are printed to it. It is then given a block of that
size and one byte for the NUL, and the same is printed again. Once something does not fit, the
buffer has overflowed for good. An implementation is known by the state of each of its values. -/

namespace General

inductive StrBufState
  | counting (n : ℕ)
  | text (size : ℕ) (s : Bytes)
  | overflow
  deriving DecidableEq

namespace StrBufState

def printf : StrBufState → Bytes → StrBufState
  | counting n, s => counting (n + s.length)
  | text size t, s => if t.length + s.length < size then text size (t ++ s) else overflow
  | overflow, _ => overflow

/-- Printing in pieces is printing the whole. -/
theorem printf_append (b : StrBufState) (s t : Bytes) :
    (b.printf s).printf t = b.printf (s ++ t) := by
  cases b with
  | counting n => simp only [printf, List.length_append, Nat.add_assoc]
  | text size u =>
    by_cases hs : u.length + s.length < size
    · simp only [printf, if_pos hs, List.length_append, List.append_assoc, Nat.add_assoc]
    · have hst : ¬u.length + (s ++ t).length < size := by
        rw [List.length_append]
        omega
      simp only [printf, if_neg hs, if_neg hst]
  | overflow => rfl

theorem printf_text {size : ℕ} {s t : Bytes} (h : t.length + s.length < size) :
    (text size t).printf s = text size (t ++ s) := if_pos h

end StrBufState

structure StrBufOps (β : Type*) where
  null : β
  printf : β → Bytes → β
  isOverflow : β → Bool
  /-- The buffer with a block for what it has counted, unless there is no memory. -/
  initWithAlloc : β → Option β
  state : β → StrBufState

structure StrBufOps.Lawful {β : Type*} (ops : StrBufOps β) : Prop where
  null : ops.state ops.null = .counting 0
  printf : ∀ b s, ops.state (ops.printf b s) = (ops.state b).printf s
  isOverflow : ∀ b, ops.isOverflow b = decide (ops.state b = .overflow)
  initWithAlloc : ∀ b b' n, ops.state b = .counting n → ops.initWithAlloc b = some b' →
    ops.state b' = .text (n + 1) []

/-- The states themselves are an implementation. -/
def StrBufState.ops (memory : ℕ) : StrBufOps StrBufState where
  null := .counting 0
  printf := .printf
  isOverflow b := decide (b = .overflow)
  initWithAlloc
    | .counting n => if n < memory then some (.text (n + 1) []) else none
    | b => some b
  state := id

theorem StrBufState.ops_lawful (memory : ℕ) : (StrBufState.ops memory).Lawful where
  null := rfl
  printf _ _ := rfl
  isOverflow _ := rfl
  initWithAlloc b b' n hb halloc := by
    change b = .counting n at hb
    subst hb
    simp only [ops] at halloc
    split_ifs at halloc
    exact (Option.some.inj halloc).symm

end General
