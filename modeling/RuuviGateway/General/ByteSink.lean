import RuuviGateway.General.CString

/-!
# Writing to a byte stream that takes any part

A sink takes any number of the first bytes that it is given, or fails. Whoever writes to it keeps
the rest and goes on there, or writes until all is taken or nothing more is.
-/

namespace General

/-- The result of a write, the number of bytes it takes or an error, and whether the sink says
that a later attempt may succeed. -/
structure SinkWrite where
  taken : Option ℕ
  again : Bool
  deriving DecidableEq

/-- The bytes that have been taken, and the results of the next writes. -/
structure Sink where
  wire : Bytes
  writes : List SinkWrite
  again : Bool
  deriving DecidableEq

namespace Sink

/-- Nothing is taken where no result is left. -/
def write (t : Sink) (data : Bytes) : Option ℕ × Sink :=
  let w := t.writes.headD ⟨none, true⟩
  let wret := w.taken.map (min data.length)
  (wret, ⟨t.wire ++ data.take (wret.getD 0), t.writes.tail, w.again⟩)

theorem write_cases (t : Sink) (data : Bytes) :
    (∃ t', t.write data = (none, t') ∧ t'.wire = t.wire) ∨
      ∃ n t', t.write data = (some n, t') ∧ n ≤ data.length ∧ t'.wire = t.wire ++ data.take n := by
  simp only [write]
  cases (t.writes.headD ⟨none, true⟩).taken with
  | none => exact .inl ⟨_, rfl, by simp⟩
  | some n => exact .inr ⟨_, _, rfl, Nat.min_le_left _ _, rfl⟩

/-- Write until all is taken; an error or a write that takes nothing ends it. -/
def writeAll (t : Sink) : ℕ → Bytes → Bool × Sink
  | 0, data => (data.isEmpty, t)
  | attempts + 1, data =>
      if data = [] then (true, t)
      else
        match t.write data with
        | (none, t) => (false, t)
        | (some 0, t) => (false, t)
        | (some (n + 1), t) => t.writeAll attempts (data.drop (n + 1))

/-- There are enough attempts for all bytes, and what has been taken is their beginning. -/
theorem writeAll_spec {attempts : ℕ} {data : Bytes} (h : data.length ≤ attempts) (t : Sink) :
    ((t.writeAll attempts data).1 = true ∧ (t.writeAll attempts data).2.wire = t.wire ++ data) ∨
      (t.writeAll attempts data).1 = false ∧ ∃ k < data.length,
        (t.writeAll attempts data).2.wire = t.wire ++ data.take k := by
  induction attempts generalizing t data with
  | zero =>
    obtain rfl := List.eq_nil_of_length_eq_zero (Nat.le_zero.mp h)
    exact .inl ⟨rfl, by simp [writeAll]⟩
  | succ attempts ih =>
    rw [writeAll]
    split_ifs with hnil
    · exact .inl ⟨rfl, by simp [hnil]⟩
    have hpos := List.length_pos_of_ne_nil hnil
    rcases t.write_cases data with ⟨t', heq, ht'⟩ | ⟨n, t', heq, hn, ht'⟩
    · rw [heq]
      exact .inr ⟨rfl, 0, hpos, by simp [ht']⟩
    rw [heq]
    cases n with
    | zero => exact .inr ⟨rfl, 0, hpos, by simp [ht']⟩
    | succ n =>
      rcases ih (show (data.drop (n + 1)).length ≤ attempts by
        rw [List.length_drop]; omega) t' with ⟨hok, hwire⟩ | ⟨hfailed, k, hk, hwire⟩
      · exact .inl ⟨hok, by rw [hwire, ht', List.append_assoc, List.take_append_drop]⟩
      · rw [List.length_drop] at hk
        refine .inr ⟨hfailed, n + 1 + k, by omega, ?_⟩
        rw [hwire, ht', List.append_assoc, ← List.take_add]

end Sink

/-- Nothing is lost where a part of what is left has been written. -/
theorem append_take_drop_left {wire text buffer : Bytes} {idx left : ℕ} (n : ℕ)
    (h : wire ++ (buffer.drop idx).take left = text) :
    wire ++ ((buffer.drop idx).take left).take n ++ (buffer.drop (idx + n)).take (left - n) =
      text := by
  rw [← List.drop_drop, ← List.drop_take, List.append_assoc, List.take_append_drop, h]

end General
