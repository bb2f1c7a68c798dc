import Mathlib.Data.List.Basic

/-!
# What holds along a fold

A list of events is folded into a state. A relation between an event and the state that it finds
holds along the fold if it holds of every event of the list.
-/

namespace General

variable {σ ε : Type*} (step : σ → ε → σ) {P Q : σ → ε → Prop}

def AlongFold (P : σ → ε → Prop) (s : σ) : List ε → Prop
  | [] => True
  | e :: es => P s e ∧ AlongFold P (step s e) es

instance AlongFold.decidable [∀ s e, Decidable (P s e)] :
    ∀ s es, Decidable (AlongFold step P s es)
  | _, [] => .isTrue trivial
  | s, e :: es =>
    have := AlongFold.decidable (step s e) es
    inferInstanceAs (Decidable (P s e ∧ AlongFold step P (step s e) es))

variable {step} {s : σ} {es es' : List ε}

theorem AlongFold.append_iff :
    AlongFold step P s (es ++ es') ↔
      AlongFold step P s es ∧ AlongFold step P (es.foldl step s) es' := by
  induction es generalizing s with
  | nil => exact ⟨fun h => ⟨trivial, h⟩, And.right⟩
  | cons e es ih =>
    rw [List.cons_append, List.foldl_cons]
    constructor
    · rintro ⟨he, hes⟩
      exact ⟨⟨he, (ih.mp hes).1⟩, (ih.mp hes).2⟩
    · rintro ⟨⟨he, hes⟩, hes'⟩
      exact ⟨he, ih.mpr ⟨hes, hes'⟩⟩

/-- What a step keeps holds after all events. -/
theorem foldl_keeps {I : σ → Prop} (hstep : ∀ s, ∀ e ∈ es, I s → I (step s e)) (h : I s) :
    I (es.foldl step s) := by
  induction es generalizing s with
  | nil => exact h
  | cons e es ih =>
    exact ih (fun s e hmem => hstep s e (List.mem_cons_of_mem _ hmem))
      (hstep s e List.mem_cons_self h)

theorem AlongFold.map₂ {R : σ → ε → Prop} (h : ∀ s e, P s e → Q s e → R s e)
    (hP : AlongFold step P s es) (hQ : AlongFold step Q s es) : AlongFold step R s es := by
  induction es generalizing s with
  | nil => trivial
  | cons e es ih => exact ⟨h s e hP.1 hQ.1, ih hP.2 hQ.2⟩

/-- An invariant that the events keep gives a second relation along the fold. -/
theorem AlongFold.of_invariant {I : σ → Prop}
    (hstep : ∀ s, ∀ e ∈ es, I s → P s e → Q s e ∧ I (step s e)) (h : I s)
    (hP : AlongFold step P s es) : AlongFold step Q s es ∧ I (es.foldl step s) := by
  induction es generalizing s with
  | nil => exact ⟨trivial, h⟩
  | cons e es ih =>
    obtain ⟨he, hnext⟩ := hstep s e List.mem_cons_self h hP.1
    have hes := ih (fun s e hmem => hstep s e (List.mem_cons_of_mem _ hmem)) hnext hP.2
    exact ⟨⟨he, hes.1⟩, hes.2⟩

/-- An event of which the relation does not hold leaves something behind that stays. -/
theorem foldl_of_not_alongFold {J : σ → Prop} (hleaves : ∀ s e, ¬P s e → J (step s e))
    (hstays : ∀ s e, J s → J (step s e)) (h : ¬AlongFold step P s es) : J (es.foldl step s) := by
  induction es generalizing s with
  | nil => exact absurd trivial h
  | cons e es ih =>
    by_cases hP : P s e
    · exact ih fun hes => h ⟨hP, hes⟩
    · rw [List.foldl_cons]
      exact foldl_keeps (fun s e _ => hstays s e) (hleaves s e hP)

end General
