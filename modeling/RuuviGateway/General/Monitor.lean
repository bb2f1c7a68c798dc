import Mathlib.Data.List.Basic

/-!
# Monitors for event histories

A monitor reads the events of a history and rejects as soon as an event is not allowed.
Histories have their newest event first, so the state after a history is the successor
of the state after its tail.
-/

namespace General

variable {σ ε : Type*}

structure Monitor (σ ε : Type*) where
  start : σ
  next : σ → ε → Option σ

namespace Monitor

variable {M : Monitor σ ε} {history events : List ε} {e : ε} {s : σ}

/-- The state after a history, or `none` if the monitor has rejected it. -/
def after (M : Monitor σ ε) : List ε → Option σ
  | [] => some M.start
  | e :: earlier => (M.after earlier).bind fun s => M.next s e

@[simp] theorem after_nil : M.after [] = some M.start := rfl

theorem after_cons (h : M.after history = some s) : M.after (e :: history) = M.next s e := by
  simp [after, h]

/-- An event that no state of the monitor takes notice of. -/
def Ignores (M : Monitor σ ε) (e : ε) : Prop := ∀ s, M.next s e = some s

theorem after_ignored (he : M.Ignores e) : M.after (e :: history) = M.after history := by
  cases h : M.after history with
  | none => simp [after, h]
  | some s => rw [after_cons h, he s]

theorem after_append_ignored (he : ∀ e ∈ events, M.Ignores e) :
    M.after (events ++ history) = M.after history := by
  induction events with
  | nil => rfl
  | cons e events ih =>
    rw [List.cons_append, after_ignored (he e (by simp)),
      ih fun e' hmem => he e' (List.mem_cons_of_mem _ hmem)]

end Monitor

end General
