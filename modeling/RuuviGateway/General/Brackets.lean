import Mathlib.Data.List.Basic

/-!
# Programs that acquire and release counted resources

The trace of a program lists what it acquires and releases, in order. It is read against the units
that are held, where only what is held can be released. A balanced program gives back all that it
acquired, so that every counter of a resource is what it was.
-/

namespace General

variable {κ ι α β : Type}

inductive Bracket (κ : Type)
  | acquire (k : κ)
  | release (k : κ)
  deriving DecidableEq

section Counters

variable (covers : κ → ι → Bool)

/-- The counters after one operation. A counter that is zero is not released. -/
def Bracket.apply (c : ι → ℕ) : Bracket κ → ι → ℕ
  | .acquire k => fun i => if covers k i then c i + 1 else c i
  | .release k => fun i => if covers k i then c i - 1 else c i

def applyAll (c : ι → ℕ) (trace : List (Bracket κ)) : ι → ℕ := trace.foldl (Bracket.apply covers) c

/-- What the units that are held add to a counter. -/
def heldCount (held : List κ) (i : ι) : ℕ := held.countP fun k => covers k i

theorem heldCount_cons (k : κ) (held : List κ) (i : ι) :
    heldCount covers (k :: held) i = heldCount covers held i + if covers k i then 1 else 0 :=
  List.countP_cons

theorem apply_acquire (k : κ) (held : List κ) (c : ι → ℕ) :
    Bracket.apply covers (fun i => c i + heldCount covers held i) (.acquire k) =
      fun i => c i + heldCount covers (k :: held) i := by
  funext i
  dsimp only [Bracket.apply]
  rw [heldCount_cons]
  split_ifs <;> omega

theorem apply_release (k : κ) (held : List κ) (c : ι → ℕ) :
    Bracket.apply covers (fun i => c i + heldCount covers (k :: held) i) (.release k) =
      fun i => c i + heldCount covers held i := by
  funext i
  dsimp only [Bracket.apply]
  rw [heldCount_cons]
  split_ifs <;> omega

end Counters

section Walk

variable [DecidableEq κ] {held held' : List κ} {t t' : List (Bracket κ)}

/-- The units that are held after a trace, if it releases only what is held. -/
def walk : List κ → List (Bracket κ) → Option (List κ)
  | held, [] => some held
  | held, .acquire k :: t => walk (k :: held) t
  | held, .release k :: t => if k ∈ held then walk (held.erase k) t else none

theorem walk_release (held : List κ) (k : κ) (t : List (Bracket κ)) :
    walk held (.release k :: t) = if k ∈ held then walk (held.erase k) t else none := rfl

theorem walk_append (held : List κ) (t t' : List (Bracket κ)) :
    walk held (t ++ t') = (walk held t).bind fun held' => walk held' t' := by
  induction t generalizing held with
  | nil => rfl
  | cons op t ih =>
    cases op with
    | acquire k => exact ih (k :: held)
    | release k =>
      simp only [List.cons_append, walk_release]
      split_ifs
      · exact ih (held.erase k)
      · rfl

theorem walk_trans {held₁ held₂ held₃ : List κ} (h : walk held₁ t = some held₂)
    (h' : walk held₂ t' = some held₃) : walk held₁ (t ++ t') = some held₃ := by
  rw [walk_append, h]
  exact h'

/-- What is held after an operation that can be walked. -/
def heldAfter (held : List κ) : Bracket κ → List κ
  | .acquire k => k :: held
  | .release k => held.erase k

theorem walk_cons {op : Bracket κ} (h : walk held (op :: t) ≠ none) :
    walk held [op] = some (heldAfter held op) ∧ walk (heldAfter held op) t ≠ none := by
  cases op with
  | acquire k => exact ⟨rfl, h⟩
  | release k =>
    rw [walk_release] at h ⊢
    split_ifs at h ⊢ with hk
    · exact ⟨rfl, h⟩
    · exact absurd rfl h

/-- One counter, with `n` units that are held elsewhere. -/
theorem apply_of_walk {covers : κ → ι → Bool} {op : Bracket κ} {c : ι → ℕ} {i : ι} {n : ℕ}
    (h : walk held [op] = some held') (hc : c i = n + heldCount covers held i) :
    Bracket.apply covers c op i = n + heldCount covers held' i := by
  cases op with
  | acquire k =>
    obtain rfl := Option.some.inj h
    dsimp only [Bracket.apply]
    rw [heldCount_cons, hc]
    split_ifs <;> omega
  | release k =>
    rw [walk_release] at h
    split_ifs at h with hk
    obtain rfl := Option.some.inj h
    have hcount : heldCount covers held i = heldCount covers (k :: held.erase k) i :=
      (List.perm_cons_erase hk).countP_eq _
    dsimp only [Bracket.apply]
    rw [hc, hcount, heldCount_cons]
    split_ifs <;> omega

/-- The counters follow the units that are held, whatever else is counted. -/
theorem applyAll_of_walk (covers : κ → ι → Bool) (h : walk held t = some held') (c : ι → ℕ) :
    applyAll covers (fun i => c i + heldCount covers held i) t =
      fun i => c i + heldCount covers held' i := by
  induction t generalizing held with
  | nil =>
    rw [← Option.some.inj h]
    rfl
  | cons op t ih =>
    rw [applyAll, List.foldl_cons]
    cases op with
    | acquire k =>
      rw [apply_acquire]
      exact ih h
    | release k =>
      rw [walk_release] at h
      split_ifs at h with hk
      have hperm : heldCount covers held = heldCount covers (k :: held.erase k) := by
        funext i
        exact (List.perm_cons_erase hk).countP_eq _
      rw [hperm, apply_release]
      exact ih h

/-- Without anything held before and after, no counter has changed. -/
theorem applyAll_of_walk_nil (covers : κ → ι → Bool) (h : walk [] t = some []) (c : ι → ℕ) :
    applyAll covers c t = c := applyAll_of_walk covers h c

end Walk

/-- A program that has run: its result, unless it stopped without one, and its trace. -/
structure Bracketed (κ α : Type) where
  result : Option α
  trace : List (Bracket κ)

namespace Bracketed

instance : Monad (Bracketed κ) where
  pure a := ⟨some a, []⟩
  bind m f :=
    match m.result with
    | none => ⟨none, m.trace⟩
    | some a => ⟨(f a).result, m.trace ++ (f a).trace⟩

def acquire (k : κ) : Bracketed κ Unit := ⟨some (), [.acquire k]⟩

def release (k : κ) : Bracketed κ Unit := ⟨some (), [.release k]⟩

/-- A call that has no result where its behaviour is not defined. -/
def ofOption (a : Option α) : Bracketed κ α := ⟨a, []⟩

theorem bind_none {m : Bracketed κ α} {f : α → Bracketed κ β} (h : m.result = none) :
    m >>= f = ⟨none, m.trace⟩ := by
  change (match m.result with | none => _ | some a => _) = _
  rw [h]

theorem bind_some {m : Bracketed κ α} {f : α → Bracketed κ β} {a : α} (h : m.result = some a) :
    m >>= f = ⟨(f a).result, m.trace ++ (f a).trace⟩ := by
  change (match m.result with | none => _ | some a => _) = _
  rw [h]

@[simp] theorem result_bind (m : Bracketed κ α) (f : α → Bracketed κ β) :
    (m >>= f).result = m.result.bind fun a => (f a).result := by
  cases h : m.result with
  | none => rw [bind_none h, Option.bind_none]
  | some a => rw [bind_some h, Option.bind_some]

@[simp] theorem result_pure (a : α) : (pure a : Bracketed κ α).result = some a := rfl

@[simp] theorem result_acquire (k : κ) : (acquire k).result = some () := rfl

@[simp] theorem result_release (k : κ) : (release k).result = some () := rfl

@[simp] theorem result_ofOption (a : Option α) : (ofOption a : Bracketed κ α).result = a := rfl

section Rules

variable [DecidableEq κ] {m : Bracketed κ α} {f : α → Bracketed κ β}
  {held held₁ held₂ held₃ : List κ}

/-- Started with some units, the program comes to a result only with the others. -/
def Leaves (m : Bracketed κ α) (held held' : List κ) : Prop :=
  m.result ≠ none → walk held m.trace = some held'

/-- Started with any units, the program comes to a result only with the same. -/
def Balanced (m : Bracketed κ α) : Prop := ∀ held, m.Leaves held held

theorem leaves_acquire (k : κ) (held : List κ) : (acquire k).Leaves held (k :: held) :=
  fun _ => rfl

theorem leaves_release (k : κ) (held : List κ) : (release k).Leaves (k :: held) held := by
  intro _
  change (if k ∈ k :: held then some ((k :: held).erase k) else none) = _
  rw [if_pos List.mem_cons_self, List.erase_cons_head]

theorem Leaves.bind (h : m.Leaves held₁ held₂)
    (hf : ∀ a, m.result = some a → (f a).Leaves held₂ held₃) :
    (m >>= f).Leaves held₁ held₃ := by
  intro hresult
  cases hm : m.result with
  | none =>
    rw [bind_none hm] at hresult
    exact absurd rfl hresult
  | some a =>
    rw [bind_some hm] at hresult ⊢
    have hfirst : walk held₁ m.trace = some held₂ := h (by rw [hm]; exact Option.some_ne_none a)
    exact walk_trans hfirst (hf a hm hresult)

theorem balanced_pure (a : α) : (pure a : Bracketed κ α).Balanced := fun _ _ => rfl

theorem balanced_ofOption (a : Option α) : (ofOption a : Bracketed κ α).Balanced := fun _ _ => rfl

theorem Balanced.bind (h : m.Balanced) (hf : ∀ a, m.result = some a → (f a).Balanced) :
    (m >>= f).Balanced := fun held => (h held).bind fun a ha => hf a ha held

theorem balanced_ite {c : Prop} [Decidable c] {m' : Bracketed κ α} (h : c → m.Balanced)
    (h' : ¬c → m'.Balanced) : (if c then m else m').Balanced := by
  split_ifs with hc
  · exact h hc
  · exact h' hc

/-- A balanced program leaves every counter as it was. -/
theorem Balanced.applyAll (h : m.Balanced) (hresult : m.result ≠ none) (covers : κ → ι → Bool)
    (c : ι → ℕ) : applyAll covers c m.trace = c := applyAll_of_walk_nil covers (h [] hresult) c

end Rules

end Bracketed

end General
