import Mathlib.Data.List.Basic

/-!
# What a log of writes leaves

A write puts data at an offset of a place. A place that is written from its start on without gaps
and overlaps has a content: the data of its writes, one after the other.
-/

namespace General

variable {κ α : Type*} [DecidableEq κ]

structure Write (κ α : Type*) where
  place : κ
  offset : ℕ
  data : List α
  deriving DecidableEq

/-- The content of a place after further writes, if they continue the one before. -/
def contentAfter (k : κ) : List (Write κ α) → List α → Option (List α)
  | [], c => some c
  | w :: ws, c =>
      if w.place = k then
        if w.offset = c.length then contentAfter k ws (c ++ w.data) else none
      else contentAfter k ws c

def content (k : κ) (ws : List (Write κ α)) : Option (List α) := contentAfter k ws []

variable {k : κ} {ws ws' : List (Write κ α)} {c : List α}

theorem contentAfter_append (k : κ) (ws ws' : List (Write κ α)) (c : List α) :
    contentAfter k (ws ++ ws') c = (contentAfter k ws c).bind (contentAfter k ws') := by
  induction ws generalizing c with
  | nil => rfl
  | cons w ws ih =>
    rw [List.cons_append, contentAfter, contentAfter]
    split_ifs
    · exact ih _
    · rfl
    · exact ih _

/-- Writes to other places leave the content alone. -/
theorem contentAfter_of_ne (h : ∀ w ∈ ws, w.place ≠ k) (c : List α) :
    contentAfter k ws c = some c := by
  induction ws with
  | nil => rfl
  | cons w ws ih =>
    rw [contentAfter, if_neg (h w List.mem_cons_self)]
    exact ih fun w' hw' => h w' (List.mem_cons_of_mem w hw')

theorem content_append_of_ne (h : ∀ w ∈ ws', w.place ≠ k) (hc : content k ws = some c) :
    content k (ws ++ ws') = some c := by
  rw [content, contentAfter_append]
  exact (congrArg (Option.bind · (contentAfter k ws')) hc).trans (contentAfter_of_ne h c)

theorem content_append_of_ne_left (h : ∀ w ∈ ws, w.place ≠ k) :
    content k (ws ++ ws') = content k ws' := by
  rw [content, contentAfter_append, contentAfter_of_ne h]
  rfl

/-- A write at the end of the content extends it. -/
theorem content_concat (hc : content k ws = some c) (data : List α) :
    content k (ws ++ [⟨k, c.length, data⟩]) = some (c ++ data) := by
  rw [content, contentAfter_append]
  refine (congrArg (Option.bind · _) hc).trans ?_
  rw [Option.bind_some, contentAfter, if_pos rfl, if_pos rfl]
  rfl

end General
