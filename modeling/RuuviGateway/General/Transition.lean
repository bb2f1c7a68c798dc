import Mathlib.Data.List.Basic
import Mathlib.Logic.Basic

/-!
# Labelled transition systems with outputs

A system has an initial state and a partial step function. A step takes an input
label and yields a successor together with an output. Runs keep their history of
inputs and outputs with the newest event first, so an induction on a run follows the
last step. A guard restricts the steps a run may take.
-/

namespace General

variable {σ τ ι ω : Type*}

structure System (σ ι ω : Type*) where
  init : σ
  step : σ → ι → Option (σ × ω)

namespace System

variable {S : System σ ι ω} {G H : σ → ι → Prop}

/-- `S.Run G h s`: a run whose steps all meet the guard `G` has history `h` and ends in `s`. -/
inductive Run (S : System σ ι ω) (G : σ → ι → Prop) : List (ι × ω) → σ → Prop
  | init : Run S G [] S.init
  | step {h s i s' o} : Run S G h s → G s i → S.step s i = some (s', o) → Run S G ((i, o) :: h) s'

/-- The guard that admits every step. -/
def anyStep (_ : σ) (_ : ι) : Prop := True

instance (s : σ) (i : ι) : Decidable (anyStep s i) := inferInstanceAs (Decidable True)

/-- Runs without a restriction on their steps. -/
abbrev FreeRun (S : System σ ι ω) : List (ι × ω) → σ → Prop := S.Run anyStep

theorem Run.mono (hGH : ∀ s i, G s i → H s i) {h : List (ι × ω)} {s : σ}
    (hr : S.Run G h s) : S.Run H h s := by
  induction hr with
  | init => exact .init
  | step _ hg hs ih => exact .step ih (hGH _ _ hg) hs

theorem Run.free {h : List (ι × ω)} {s : σ} (hr : S.Run G h s) : S.FreeRun h s :=
  hr.mono fun _ _ _ => trivial

/-- The history of a run determines the state that it ends in. -/
theorem Run.state_unique {h : List (ι × ω)} {s s' : σ} (hr : S.Run G h s) (hr' : S.Run H h s') :
    s = s' := by
  induction hr generalizing s' with
  | init =>
    cases hr'
    rfl
  | step _ _ hs ih =>
    cases hr' with
    | step hr'' _ hs' =>
      obtain rfl := ih hr''
      rw [hs] at hs'
      exact (Prod.mk.inj (Option.some.inj hs')).1

/-- A longer run meets another guard if the shorter one does and the step does. -/
theorem Run.step_iff {h : List (ι × ω)} {s s' : σ} {i : ι} {o : ω} (hr : S.Run G h s)
    (hs : S.step s i = some (s', o)) : S.Run H ((i, o) :: h) s' ↔ S.Run H h s ∧ H s i := by
  constructor
  · intro hr'
    cases hr' with
    | step hr'' hg _ =>
      obtain rfl := hr.state_unique hr''
      exact ⟨hr'', hg⟩
  · rintro ⟨hr', hg⟩
    exact .step hr' hg hs

/-- What holds initially and is kept by every admitted step holds after every run. -/
theorem Run.invariant {I : σ → Prop} (hinit : I S.init)
    (hstep : ∀ s i s' o, I s → G s i → S.step s i = some (s', o) → I s')
    {h : List (ι × ω)} {s : σ} (hr : S.Run G h s) : I s := by
  induction hr with
  | init => exact hinit
  | step _ hg hs ih => exact hstep _ _ _ _ ih hg hs

/-- The same rule for a property that relates the state to the history of the run. -/
theorem Run.historyInvariant {I : List (ι × ω) → σ → Prop} (hinit : I [] S.init)
    (hstep : ∀ h s i s' o, I h s → G s i → S.step s i = some (s', o) → I ((i, o) :: h) s')
    {h : List (ι × ω)} {s : σ} (hr : S.Run G h s) : I h s := by
  induction hr with
  | init => exact hinit
  | step _ hg hs ih => exact hstep _ _ _ _ _ ih hg hs

section Execution

variable [∀ s i, Decidable (G s i)]

/-- Execute a list of inputs in order as long as the guard admits them. -/
def exec (S : System σ ι ω) (G : σ → ι → Prop) [∀ s i, Decidable (G s i)] :
    List ι → List (ι × ω) → σ → Option (List (ι × ω) × σ)
  | [], h, s => some (h, s)
  | i :: is, h, s =>
      if G s i then (S.step s i).bind fun r => S.exec G is ((i, r.2) :: h) r.1 else none

theorem Run.exec {is : List ι} {h h' : List (ι × ω)} {s s' : σ}
    (hr : S.Run G h s) (he : S.exec G is h s = some (h', s')) : S.Run G h' s' := by
  induction is generalizing h s with
  | nil =>
    simp only [System.exec, Option.some.injEq, Prod.mk.injEq] at he
    obtain ⟨rfl, rfl⟩ := he
    exact hr
  | cons i is ih =>
    rw [System.exec] at he
    split_ifs at he with hg
    rw [Option.bind_eq_some_iff] at he
    obtain ⟨⟨s₁, o⟩, hs, he⟩ := he
    exact ih (.step hr hg hs) he

/-- An execution has taken its inputs in order. -/
theorem inputs_of_exec {is : List ι} {h h' : List (ι × ω)} {s s' : σ}
    (he : S.exec G is h s = some (h', s')) : h'.map Prod.fst = is.reverse ++ h.map Prod.fst := by
  induction is generalizing h s with
  | nil =>
    simp only [System.exec, Option.some.injEq, Prod.mk.injEq] at he
    rw [← he.1]
    rfl
  | cons i is ih =>
    rw [System.exec] at he
    split_ifs at he
    rw [Option.bind_eq_some_iff] at he
    obtain ⟨⟨s₁, o⟩, -, he⟩ := he
    rw [ih he, List.reverse_cons, List.append_assoc]
    rfl

/-- A property found at the end of an execution holds at the end of a run. -/
theorem exists_history_of_exec (is : List ι) {P : List (ι × ω) → σ → Bool}
    (he : ((S.exec G is [] S.init).any fun r => P r.1 r.2) = true) :
    ∃ h s, S.Run G h s ∧ h.map Prod.fst = is.reverse ∧ P h s = true := by
  obtain ⟨⟨h, s⟩, hs, hP⟩ := (Option.any_eq_true _ _).mp he
  have hinputs := inputs_of_exec hs
  rw [List.map_nil, List.append_nil] at hinputs
  exact ⟨h, s, Run.exec .init hs, hinputs, hP⟩

theorem exists_run_of_exec (is : List ι) {P : σ → Bool}
    (he : ((S.exec G is [] S.init).any fun r => P r.2) = true) :
    ∃ h s, S.Run G h s ∧ P s = true := by
  obtain ⟨h, s, hr, -, hP⟩ := exists_history_of_exec (P := fun _ => P) is he
  exact ⟨h, s, hr, hP⟩

end Execution

/-- A relation under which every step of the first system is a step of the second with
the same input and the same output. -/
structure Simulation (S : System σ ι ω) (A : System τ ι ω) (R : σ → τ → Prop) : Prop where
  init : R S.init A.init
  step : ∀ s a i s' o, R s a → S.step s i = some (s', o) →
    ∃ a', A.step a i = some (a', o) ∧ R s' a'

/-- A simulated run is a run of the abstract system with the same history. -/
theorem Simulation.run {A : System τ ι ω} {R : σ → τ → Prop} (hR : Simulation S A R)
    {h : List (ι × ω)} {s : σ} (hr : S.FreeRun h s) : ∃ a, A.FreeRun h a ∧ R s a := by
  induction hr with
  | init => exact ⟨_, .init, hR.init⟩
  | step _ _ hs ih =>
    obtain ⟨a, ha, hsa⟩ := ih
    obtain ⟨a', hstep, hR'⟩ := hR.step _ _ _ _ _ hsa hs
    exact ⟨a', .step ha trivial hstep, hR'⟩

open scoped Classical in
/-- The system in which only the admitted steps are possible. -/
noncomputable def restrict (S : System σ ι ω) (G : σ → ι → Prop) : System σ ι ω where
  init := S.init
  step s i := if G s i then S.step s i else none

theorem restrict_step {s : σ} {i : ι} {r : σ × ω} :
    (S.restrict G).step s i = some r ↔ G s i ∧ S.step s i = some r := by
  unfold restrict
  by_cases h : G s i <;> simp [h]

theorem Run.restrict {h : List (ι × ω)} {s : σ} (hr : S.Run G h s) :
    (S.restrict G).FreeRun h s := by
  induction hr with
  | init => exact .init
  | step _ hg hs ih => exact .step ih trivial (restrict_step.mpr ⟨hg, hs⟩)

end System

end General
