import RuuviGateway.General.CString

/-!
# Reading from a byte stream that gives any part

A source gives any number of its next bytes, at most as many as it is asked for, or nothing for
now, or fails. Its bytes come one after the other.
-/

namespace General

/-- The bytes that have arrived, and the results of the next reads: an error, or how many bytes
there are at most. -/
structure Source where
  incoming : Bytes
  reads : List (Option ℕ)
  deriving DecidableEq

namespace Source

/-- Nothing is read where no result is left. -/
def read (s : Source) (n : ℕ) : Option Bytes × Source :=
  match s.reads.headD (some 0) with
  | none => (none, { s with reads := s.reads.tail })
  | some k => (some (s.incoming.take (min k n)), ⟨s.incoming.drop (min k n), s.reads.tail⟩)

theorem read_cases (s : Source) (n : ℕ) :
    (none ∈ s.reads ∧ s.read n = (none, { s with reads := s.reads.tail })) ∨
      ∃ bytes s', s.read n = (some bytes, s') ∧ bytes.length ≤ n ∧
        bytes ++ s'.incoming = s.incoming ∧ s'.reads = s.reads.tail := by
  rw [read]
  cases hreads : s.reads.headD (some 0) with
  | none =>
    left
    cases h : s.reads with
    | nil => simp [h] at hreads
    | cons r reads =>
      rw [h, List.headD_cons] at hreads
      exact ⟨hreads ▸ List.mem_cons_self, rfl⟩
  | some k =>
    refine .inr ⟨_, _, rfl, ?_, List.take_append_drop _ _, rfl⟩
    rw [List.length_take]
    omega

end Source

end General
