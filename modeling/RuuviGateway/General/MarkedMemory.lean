import Mathlib.Logic.Function.Basic
import RuuviGateway.General.CString

/-!
# Memory whose bytes are marked

A block is a list of bytes, and a mark on a byte says what it is a part of. The text at a pointer
ends at the first NUL. There is no text in a block that has been freed.
-/

namespace General

variable {ι : Type*}

structure MarkedByte (ι : Type*) where
  val : UInt8
  mark : Option ι

def withMark (mark : Option ι) (s : Bytes) : List (MarkedByte ι) := s.map (⟨·, mark⟩)

def bytesOf (s : List (MarkedByte ι)) : Bytes := s.map MarkedByte.val

@[simp] theorem bytesOf_withMark (mark : Option ι) (s : Bytes) :
    bytesOf (withMark mark s) = s := by
  unfold bytesOf withMark
  rw [List.map_map]
  exact List.map_id s

/-- A text that outlives the memory in question needs no block. -/
inductive TextPointer
  | null
  | text (s : Bytes)
  | inBlock (block offset : ℕ)

def TextPointer.ofText : Option Bytes → TextPointer
  | none => .null
  | some s => .text s

structure MarkedMemory (ι : Type*) where
  next : ℕ
  blocks : ℕ → Option (List (MarkedByte ι))

namespace MarkedMemory

variable (m : MarkedMemory ι)

def alloc (content : List (MarkedByte ι)) : ℕ × MarkedMemory ι :=
  (m.next, ⟨m.next + 1, Function.update m.blocks m.next (some content)⟩)

def free (block : ℕ) : MarkedMemory ι := ⟨m.next, Function.update m.blocks block none⟩

/-- What is read at a pointer. The null pointer stands for no text. -/
def textAt : TextPointer → Option (List (MarkedByte ι))
  | .null => some []
  | .text s => some (withMark none s)
  | .inBlock block offset =>
    (m.blocks block).map fun content => (content.drop offset).takeWhile (·.val ≠ 0)

variable {m}

theorem textAt_free (block offset : ℕ) : (m.free block).textAt (.inBlock block offset) = none := by
  unfold textAt free
  dsimp only
  rw [Function.update_self, Option.map_none]

theorem takeWhile_withMark {mark : Option ι} {s : Bytes} (h : 0 ∉ s) (rest : Bytes) :
    (withMark mark s ++ withMark none (0 :: rest)).takeWhile (·.val ≠ 0) = withMark mark s := by
  rw [List.takeWhile_append_of_pos]
  · exact List.append_nil _
  · intro b hb
    have hmem : b.val ∈ s := by
      rw [← bytesOf_withMark mark s]
      exact List.mem_map_of_mem hb
    exact decide_eq_true fun hzero => h (hzero ▸ hmem)

/-- A text that has just been copied is read again. -/
theorem textAt_alloc {mark : Option ι} {s : Bytes} (h : 0 ∉ s) :
    (m.alloc (withMark mark s ++ withMark none [0])).2.textAt (.inBlock m.next 0) =
      some (withMark mark s) := by
  unfold textAt alloc
  dsimp only
  rw [Function.update_self, Option.map_some, List.drop_zero, takeWhile_withMark h]

theorem textAt_ofText (s : Option Bytes) :
    m.textAt (.ofText s) = some (withMark none (s.getD [])) := by
  cases s with
  | none => rfl
  | some s => rfl

end MarkedMemory

end General
