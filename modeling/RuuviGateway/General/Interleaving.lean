import Mathlib.Tactic.SplitIfs

/-!
# Programs that run interleaved

A program is a tree of actions, each of which is taken at once and answers yes or no. Between two
actions of one task other tasks take theirs, so what is proved of a program alone is stated over a
view: the part of the state that only this task changes, or its share of what all tasks change.
-/

namespace General

variable {κ σ α β : Type}

inductive Prog (κ α : Type)
  | ret (a : α)
  | act (k : κ) (next : Bool → Prog κ α)

namespace Prog

def bind : Prog κ α → (α → Prog κ β) → Prog κ β
  | .ret a, f => f a
  | .act k next, f => .act k fun answer => (next answer).bind f

instance : Monad (Prog κ) where
  pure := .ret
  bind := Prog.bind

def call (k : κ) : Prog κ Bool := .act k .ret

/-- An action whose answer is not looked at. -/
def call_ (k : κ) : Prog κ Unit := .act k fun _ => .ret ()

def whenever (c : Prog κ Bool) (p : Prog κ Unit) : Prog κ Unit :=
  c >>= fun answer => if answer then p else pure ()

theorem whenever_pure (c : Bool) (p : Prog κ Unit) :
    whenever (pure c) p = if c then p else pure () := rfl

def isDone : Prog κ α → Bool
  | .ret _ => true
  | .act _ _ => false

theorem eq_ret_of_isDone {p : Prog κ α} (h : p.isDone = true) : ∃ a, p = .ret a := by
  cases p with
  | ret a => exact ⟨a, rfl⟩
  | act k next => cases h

/-- The action that is next. -/
def first : Prog κ α → Option κ
  | .ret _ => none
  | .act k _ => some k

end Prog

/-- What an action requires of the view, and what it can do to it with each answer. -/
structure View (κ σ : Type) where
  requires : κ → σ → Prop
  step : κ → Bool → σ → σ → Prop

namespace Prog

variable {V : View κ σ} {p : Prog κ α} {f : α → Prog κ β} {s : σ}

/-- Every action of the program finds what it requires, and the program ends in `post`. -/
def Safe (V : View κ σ) : Prog κ α → (α → σ → Prop) → σ → Prop
  | .ret a, post, s => post a s
  | .act k next, post, s =>
      V.requires k s ∧ ∀ answer s', V.step k answer s s' → (next answer).Safe V post s'

theorem safe_pure {post : α → σ → Prop} (a : α) :
    (pure a : Prog κ α).Safe V post s ↔ post a s := Iff.rfl

theorem safe_bind {post : β → σ → Prop} :
    (p >>= f).Safe V post s ↔ p.Safe V (fun a t => (f a).Safe V post t) s := by
  induction p generalizing s with
  | ret a => rfl
  | act k next ih =>
    constructor
    · rintro ⟨hreq, hnext⟩
      exact ⟨hreq, fun answer s' hs => (ih answer).mp (hnext answer s' hs)⟩
    · rintro ⟨hreq, hnext⟩
      exact ⟨hreq, fun answer s' hs => (ih answer).mpr (hnext answer s' hs)⟩

theorem Safe.mono {post post' : α → σ → Prop} (h : p.Safe V post s)
    (hpost : ∀ a t, post a t → post' a t) : p.Safe V post' s := by
  induction p generalizing s with
  | ret a => exact hpost a s h
  | act k next ih => exact ⟨h.1, fun answer s' hs => ih answer (h.2 answer s' hs)⟩

/-- One program after the other. -/
theorem Safe.bind {I : α → σ → Prop} {post : β → σ → Prop} (h : p.Safe V I s)
    (hf : ∀ a t, I a t → (f a).Safe V post t) : (p >>= f).Safe V post s :=
  safe_bind.mpr (h.mono hf)

section Invariant

variable {I : σ → Prop} {q : Prog κ Unit}

/-- Started where the invariant holds, the program ends where it holds. -/
def Keeps (V : View κ σ) (I : σ → Prop) (p : Prog κ α) : Prop :=
  ∀ s, I s → p.Safe V (fun _ => I) s

theorem keeps_pure (a : α) : (pure a : Prog κ α).Keeps V I := fun _ h => h

theorem Keeps.bind (h : p.Keeps V I) (hf : ∀ a, (f a).Keeps V I) : (p >>= f).Keeps V I :=
  fun s hs => (h s hs).bind fun a t ht => hf a t ht

theorem keeps_ite {c : Prop} [Decidable c] {p' : Prog κ α} (h : p.Keeps V I) (h' : p'.Keeps V I) :
    (if c then p else p').Keeps V I := by
  split_ifs
  · exact h
  · exact h'

theorem Keeps.whenever {c : Prog κ Bool} (h : c.Keeps V I) (hq : q.Keeps V I) :
    (whenever c q).Keeps V I := h.bind fun _ => keeps_ite hq (keeps_pure ())

end Invariant

end Prog

end General
