import Mathlib.Data.List.Basic
import Mathlib.Logic.Function.Basic

/-!
# Signals that coalesce

A signal that is sent to a task stays pending until the task takes all pending signals at once. What
it has taken it handles in the order of the numbers of the signals. A signal that is sent again
while it is pending is not counted twice. -/

namespace General

variable {σ α : Type*} {num : σ → ℕ}

/-- Insert a signal in the order of the numbers, unless its number is there. -/
def insertSignal (num : σ → ℕ) (sig : σ) : List σ → List σ
  | [] => [sig]
  | sig' :: sigs =>
      if num sig < num sig' then sig :: sig' :: sigs
      else if num sig = num sig' then sig' :: sigs
      else sig' :: insertSignal num sig sigs

theorem insertSignal_cons (sig sig' : σ) (sigs : List σ) :
    insertSignal num sig (sig' :: sigs) =
      if num sig < num sig' then sig :: sig' :: sigs
      else if num sig = num sig' then sig' :: sigs
      else sig' :: insertSignal num sig sigs := rfl

theorem mem_insertSignal_of_mem {sig sig' : σ} {sigs : List σ} (h : sig' ∈ sigs) :
    sig' ∈ insertSignal num sig sigs := by
  induction sigs with
  | nil => exact absurd h List.not_mem_nil
  | cons head tail ih =>
    rw [insertSignal_cons]
    split_ifs
    · exact List.mem_cons_of_mem _ h
    · exact h
    · rcases List.mem_cons.mp h with rfl | htail
      · exact List.mem_cons_self
      · exact List.mem_cons_of_mem _ (ih htail)

theorem mem_insertSignal_self (hnum : Function.Injective num) (sig : σ) (sigs : List σ) :
    sig ∈ insertSignal num sig sigs := by
  induction sigs with
  | nil => exact List.mem_singleton_self _
  | cons head tail ih =>
    rw [insertSignal_cons]
    split_ifs with _ heq
    · exact List.mem_cons_self
    · exact hnum heq ▸ List.mem_cons_self
    · exact List.mem_cons_of_mem _ ih

theorem eq_or_mem_of_mem_insertSignal {sig sig' : σ} {sigs : List σ}
    (h : sig' ∈ insertSignal num sig sigs) : sig' = sig ∨ sig' ∈ sigs := by
  induction sigs with
  | nil => exact .inl (List.mem_singleton.mp h)
  | cons head tail ih =>
    rw [insertSignal_cons] at h
    split_ifs at h
    · exact List.mem_cons.mp h
    · exact .inr h
    · rcases List.mem_cons.mp h with rfl | htail
      · exact .inr List.mem_cons_self
      · exact (ih htail).imp id (List.mem_cons_of_mem _)

theorem insertSignal_ne_nil (sig : σ) (sigs : List σ) : insertSignal num sig sigs ≠ [] := by
  cases sigs with
  | nil => exact List.cons_ne_nil _ _
  | cons head tail =>
    rw [insertSignal_cons]
    split_ifs <;> exact List.cons_ne_nil _ _

/-- The numbers stay in order. -/
theorem insertSignal_ascending {sigs : List σ} (sig : σ)
    (h : sigs.Pairwise fun a b => num a < num b) :
    (insertSignal num sig sigs).Pairwise fun a b => num a < num b := by
  induction sigs with
  | nil => exact List.pairwise_singleton _ _
  | cons head tail ih =>
    obtain ⟨hhead, htail⟩ := List.pairwise_cons.mp h
    rw [insertSignal_cons]
    split_ifs with hlt heq
    · refine List.pairwise_cons.mpr ⟨fun b hb => ?_, h⟩
      rcases List.mem_cons.mp hb with rfl | hb
      · exact hlt
      · exact Nat.lt_trans hlt (hhead b hb)
    · exact h
    · refine List.pairwise_cons.mpr ⟨fun b hb => ?_, ih htail⟩
      rcases eq_or_mem_of_mem_insertSignal hb with rfl | hb
      · omega
      · exact hhead b hb

theorem insertSignal_of_lt {sig : σ} {sigs : List σ} (h : ∀ sig' ∈ sigs, num sig < num sig') :
    insertSignal num sig sigs = sig :: sigs := by
  cases sigs with
  | nil => rfl
  | cons head tail => exact if_pos (h head List.mem_cons_self)

theorem insertSignal_of_gt {sig : σ} {sigs : List σ} (h : ∀ sig' ∈ sigs, num sig' < num sig) :
    insertSignal num sig sigs = sigs ++ [sig] := by
  induction sigs with
  | nil => rfl
  | cons head tail ih =>
    have hhead := h head List.mem_cons_self
    rw [insertSignal_cons, if_neg (Nat.lt_asymm hhead), if_neg (Nat.ne_of_gt hhead),
      ih fun sig' hsig' => h sig' (List.mem_cons_of_mem _ hsig'), List.cons_append]

section Selection

variable {ρ : Type*} {num' : ρ → ℕ} {f : σ → Option ρ}

theorem filterMap_insertSignal_of_none {sig : σ} (hsig : f sig = none) (sigs : List σ) :
    (insertSignal num sig sigs).filterMap f = sigs.filterMap f := by
  induction sigs with
  | nil => exact List.filterMap_cons_none hsig
  | cons head tail ih =>
    rw [insertSignal_cons]
    split_ifs
    · exact List.filterMap_cons_none hsig
    · rfl
    · rw [List.filterMap_cons, List.filterMap_cons, ih]

/-- What is selected from the signals is inserted in the same order. -/
theorem filterMap_insertSignal (hnum : Function.Injective num)
    (hf : ∀ sig a, f sig = some a → num' a = num sig) {sig : σ} {a : ρ} (hsig : f sig = some a)
    {sigs : List σ} (h : sigs.Pairwise fun a b => num a < num b) :
    (insertSignal num sig sigs).filterMap f = insertSignal num' a (sigs.filterMap f) := by
  have ha := hf sig a hsig
  induction sigs with
  | nil => exact List.filterMap_cons_some hsig
  | cons head tail ih =>
    obtain ⟨hhead, htail⟩ := List.pairwise_cons.mp h
    rw [insertSignal_cons]
    split_ifs with hlt heq
    · rw [List.filterMap_cons_some hsig, insertSignal_of_lt fun c hc => ?_]
      obtain ⟨sig', hsig', hc⟩ := List.mem_filterMap.mp hc
      rw [ha, hf sig' c hc]
      rcases List.mem_cons.mp hsig' with rfl | hsig'
      · exact hlt
      · exact Nat.lt_trans hlt (hhead sig' hsig')
    · obtain rfl := hnum heq
      rw [List.filterMap_cons_some hsig, insertSignal_cons, if_neg (Nat.lt_irrefl _), if_pos rfl]
    · cases hselected : f head with
      | none =>
        rw [List.filterMap_cons_none hselected, List.filterMap_cons_none hselected]
        exact ih htail
      | some c =>
        have hc := hf head c hselected
        rw [List.filterMap_cons_some hselected, List.filterMap_cons_some hselected,
          insertSignal_cons,
          if_neg (by omega), if_neg (by omega), ih htail]

end Selection

/-- The signals that a task has not taken, and those that it has taken and not handled. -/
structure Mailbox (num : σ → ℕ) where
  pending : List σ
  taken : List σ
  pendingAscending : pending.Pairwise fun a b => num a < num b
  takenAscending : taken.Pairwise fun a b => num a < num b

namespace Mailbox

def empty : Mailbox num := ⟨[], [], .nil, .nil⟩

def send (m : Mailbox num) (sig : σ) : Mailbox num :=
  { m with
    pending := insertSignal num sig m.pending
    pendingAscending := insertSignal_ascending sig m.pendingAscending }

/-- A task that has handled all it has taken takes what is pending. -/
def take (m : Mailbox num) : Option (Mailbox num) :=
  match m.taken with
  | [] => some ⟨[], m.pending, .nil, m.pendingAscending⟩
  | _ :: _ => none

/-- The next signal to handle. -/
def next (m : Mailbox num) : Option (σ × Mailbox num) :=
  match htaken : m.taken with
  | [] => none
  | sig :: sigs =>
      some (sig, { m with
        taken := sigs
        takenAscending := (List.pairwise_cons.mp (htaken ▸ m.takenAscending)).2 })

/-- Nothing is pending or taken. -/
def Idle (m : Mailbox num) : Prop := m.pending = [] ∧ m.taken = []

variable {m m' : Mailbox num} {sig : σ}

theorem take_spec (h : m.take = some m') :
    m.taken = [] ∧ m'.pending = [] ∧ m'.taken = m.pending := by
  unfold take at h
  split at h
  case h_1 htaken =>
    obtain rfl := Option.some.inj h
    exact ⟨htaken, rfl, rfl⟩
  case h_2 => cases h

theorem exists_take (h : m.taken = []) : ∃ m', m.take = some m' := by
  unfold take
  split
  case h_1 => exact ⟨_, rfl⟩
  case h_2 htaken => cases h.symm.trans htaken

theorem exists_next {sigs : List σ} (h : m.taken = sig :: sigs) :
    ∃ m', m.next = some (sig, m') := by
  unfold next
  split
  case h_1 htaken => cases h.symm.trans htaken
  case h_2 htaken =>
    cases h.symm.trans htaken
    exact ⟨_, rfl⟩

theorem next_spec (h : m.next = some (sig, m')) :
    m.taken = sig :: m'.taken ∧ m'.pending = m.pending := by
  unfold next at h
  split at h
  case h_1 => cases h
  case h_2 sig' sigs htaken =>
    obtain ⟨rfl, rfl⟩ := Prod.mk.inj (Option.some.inj h)
    exact ⟨htaken, rfl⟩

/-- The signal is pending, or taken and not handled. -/
def Holds (m : Mailbox num) (sig : σ) : Prop := sig ∈ m.pending ∨ sig ∈ m.taken

theorem holds_send_self (hnum : Function.Injective num) (m : Mailbox num) (sig : σ) :
    (m.send sig).Holds sig := .inl (mem_insertSignal_self hnum sig m.pending)

theorem Holds.send (h : m.Holds sig) (sig' : σ) : (m.send sig').Holds sig :=
  h.imp_left mem_insertSignal_of_mem

theorem holds_take (h : m.take = some m') : m'.Holds sig ↔ m.Holds sig := by
  obtain ⟨htaken, hpending, htaken'⟩ := take_spec h
  simp [Holds, htaken, hpending, htaken']

theorem holds_next {sig' : σ} (h : m.next = some (sig', m')) :
    m.Holds sig ↔ sig = sig' ∨ m'.Holds sig := by
  obtain ⟨htaken, hpending⟩ := next_spec h
  simp [Holds, htaken, hpending, or_left_comm]

section Count

variable [DecidableEq σ]

/-- How often the mailbox holds the signal. -/
def count (m : Mailbox num) (sig : σ) : ℕ := m.pending.count sig + m.taken.count sig

theorem count_insertSignal_le (num : σ → ℕ) (sig sig' : σ) (sigs : List σ) :
    (insertSignal num sig' sigs).count sig ≤ sigs.count sig + if sig' = sig then 1 else 0 := by
  induction sigs with
  | nil => simp [insertSignal, List.count_singleton]
  | cons head tail ih =>
    rw [insertSignal_cons]
    split_ifs <;> simp_all [List.count_cons]
    omega

theorem count_send_self_le (m : Mailbox num) (sig : σ) :
    (m.send sig).count sig ≤ m.count sig + 1 := by
  have h := count_insertSignal_le num sig sig m.pending
  simp only [count, send, if_true] at h ⊢
  omega

theorem count_send_le (m : Mailbox num) {sig' : σ} (h : sig' ≠ sig) :
    (m.send sig').count sig ≤ m.count sig := by
  have hcount := count_insertSignal_le num sig sig' m.pending
  simp only [count, send, if_neg h] at hcount ⊢
  omega

theorem count_take (h : m.take = some m') (sig : σ) : m'.count sig = m.count sig := by
  obtain ⟨htaken, hpending, htaken'⟩ := take_spec h
  simp [count, htaken, hpending, htaken']

theorem count_next {sig' : σ} (h : m.next = some (sig', m')) (sig : σ) :
    m.count sig = m'.count sig + if sig' = sig then 1 else 0 := by
  obtain ⟨htaken, hpending⟩ := next_spec h
  simp [count, htaken, hpending, List.count_cons]
  omega

end Count

end Mailbox

/-- If no signal depends on what is there when it is handled, the last one decides. -/
theorem foldl_eq_of_getLast {f : α → σ → α} {g : σ → α} {sigs : List σ}
    (hset : ∀ sig ∈ sigs, ∀ x, f x sig = g sig) (x : α) :
    sigs.foldl f x = (sigs.getLast?.map g).getD x := by
  induction sigs generalizing x with
  | nil => rfl
  | cons sig sigs ih =>
    have htail : ∀ sig' ∈ sigs, ∀ x, f x sig' = g sig' :=
      fun sig' h => hset sig' (List.mem_cons_of_mem _ h)
    rw [List.foldl_cons, ih htail, hset sig List.mem_cons_self]
    cases sigs with
    | nil => rfl
    | cons sig' sigs => rfl

end General
