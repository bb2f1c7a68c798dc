import Mathlib.Data.List.Infix
import Mathlib.Data.List.Induction

/-!
# Counting to a row of successes

A counter goes up at every `true`, back to zero at every `false`, and stops for good when it reaches
a limit. It stops exactly on the lists that hold a row of `true` of that length. -/

namespace General

variable {limit c : ℕ} {bs : List Bool}

def streakStep (limit : ℕ) : Option ℕ → Bool → Option ℕ
  | none, _ => none
  | some c, true => if limit ≤ c + 1 then none else some (c + 1)
  | some _, false => some 0

/-- `none` once the counter has reached its limit. -/
def streak (limit : ℕ) (bs : List Bool) : Option ℕ := bs.foldl (streakStep limit) (some 0)

@[simp] theorem streak_nil : streak limit [] = some 0 := rfl

@[simp] theorem streak_concat (b : Bool) :
    streak limit (bs ++ [b]) = streakStep limit (streak limit bs) b := by
  simp [streak]

/-- The list ends with exactly `c` times `true`. -/
def EndsWithRow (bs : List Bool) (c : ℕ) : Prop := ∀ m, List.replicate m true <:+ bs ↔ m ≤ c

theorem endsWithRow_nil : EndsWithRow [] 0 := by
  intro m
  simp

theorem endsWithRow_false (bs : List Bool) : EndsWithRow (bs ++ [false]) 0 := by
  intro m
  cases m with
  | zero => simp
  | succ m => simp [List.replicate_succ', List.suffix_concat_iff]

theorem EndsWithRow.true (h : EndsWithRow bs c) : EndsWithRow (bs ++ [true]) (c + 1) := by
  intro m
  cases m with
  | zero => simp
  | succ m => simp [List.replicate_succ', List.suffix_concat_iff, h m]

/-- Until it stops the counter is the length of the row at the end. -/
theorem streak_spec (hlimit : 0 < limit) (bs : List Bool) :
    (streak limit bs = none ∧ List.replicate limit true <:+: bs) ∨
      ∃ c < limit, streak limit bs = some c ∧ EndsWithRow bs c ∧
        ¬List.replicate limit true <:+: bs := by
  induction bs using List.reverseRecOn with
  | nil => exact .inr ⟨0, hlimit, rfl, endsWithRow_nil, by simp; omega⟩
  | append_singleton bs b ih =>
    rcases ih with ⟨hnone, hrow⟩ | ⟨c, hc, hsome, hend, hrow⟩
    · refine .inl ⟨by simp [hnone, streakStep], ?_⟩
      exact List.infix_concat_iff.mpr (.inr hrow)
    · cases b with
      | false =>
        refine .inr ⟨0, hlimit, by simp [hsome, streakStep], endsWithRow_false bs, ?_⟩
        rw [List.infix_concat_iff, endsWithRow_false bs]
        exact not_or.mpr ⟨by omega, hrow⟩
      | true =>
        have hend' := hend.true
        by_cases hfull : limit ≤ c + 1
        · refine .inl ⟨by simp [hsome, streakStep, hfull], ?_⟩
          exact List.infix_concat_iff.mpr (.inl ((hend' limit).mpr hfull))
        · refine .inr ⟨c + 1, by omega, by simp [hsome, streakStep, hfull], hend', ?_⟩
          rw [List.infix_concat_iff, hend' limit]
          exact not_or.mpr ⟨hfull, hrow⟩

/-- The counter stops exactly on a row of the length of its limit. -/
theorem streak_eq_none_iff (hlimit : 0 < limit) :
    streak limit bs = none ↔ List.replicate limit true <:+: bs := by
  rcases streak_spec hlimit bs with ⟨hnone, hrow⟩ | ⟨c, -, hsome, -, hrow⟩
  · simp [hnone, hrow]
  · simp [hsome, hrow]

end General
