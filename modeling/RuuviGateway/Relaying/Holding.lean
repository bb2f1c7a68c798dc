import RuuviGateway.General.Brackets
import RuuviGateway.Relaying.Status

/-!
# What a request holds

A request suspends relaying and locks the configuration. Both are counted, by the counters of
`gw_status.c` and by the depth of the recursive mutex, so that a request gives back what it took if
and only if it leaves the counters as they were.
-/

namespace RuuviGateway.Relaying

open General

inductive Resource
  | relaying (scope : Scope)
  /-- `g_gw_cfg_mutex`. -/
  | gwCfgMutex
  deriving DecidableEq

inductive Counter
  | suspended (via : Via)
  | gwCfgMutexDepth
  deriving DecidableEq

def Resource.covers : Resource → Counter → Bool
  | .relaying scope, .suspended via => scope.covers via
  | .gwCfgMutex, .gwCfgMutexDepth => true
  | _, _ => false

/-- The counters of relaying beside the depth of the mutex. -/
def counters (s : Status) (depth : ℕ) : Counter → ℕ
  | .suspended via => s.cntSuspended via
  | .gwCfgMutexDepth => depth

variable (s : Status) (depth : ℕ) (scope : Scope)

theorem counters_suspend : counters (s.suspend scope).1 depth =
    Bracket.apply Resource.covers (counters s depth) (.acquire (.relaying scope)) := by
  funext i
  cases i <;> rfl

theorem counters_resume : counters (s.resume scope).1 depth =
    Bracket.apply Resource.covers (counters s depth) (.release (.relaying scope)) := by
  funext i
  cases i with
  | gwCfgMutexDepth => rfl
  | suspended via =>
    dsimp only [counters, Status.resume, Bracket.apply, Resource.covers]
    by_cases hcovers : scope.covers via = true
    · by_cases hzero : s.cntSuspended via = 0 <;> simp [hcovers, hzero]
    · simp [hcovers]

/-- A program that suspends relaying, resumes it and locks the configuration. -/
abbrev Request (α : Type) := Bracketed Resource α

def suspendRelaying (scope : Scope) : Request Unit := .acquire (.relaying scope)

def resumeRelaying (scope : Scope) : Request Unit := .release (.relaying scope)

def gwCfgLockRo : Request Unit := .acquire .gwCfgMutex

def gwCfgUnlockRo : Request Unit := .release .gwCfgMutex

/-- A request that resumes what it suspends, though it may keep the configuration locked. -/
def KeepsRelaying {α : Type} (m : Request α) : Prop :=
  m.result ≠ none → ∃ n, ∀ held, walk held m.trace = some (List.replicate n .gwCfgMutex ++ held)

section KeepsRelaying

open Bracketed

variable {α β : Type} {m : Request α} {f : α → Request β}

theorem keepsRelaying_of_balanced (h : m.Balanced) : KeepsRelaying m :=
  fun hresult => ⟨0, fun held => h held hresult⟩

theorem keepsRelaying_pure (a : α) : KeepsRelaying (pure a : Request α) :=
  keepsRelaying_of_balanced (balanced_pure a)

theorem keepsRelaying_ite {c : Prop} [Decidable c] {m' : Request α} (h : c → KeepsRelaying m)
    (h' : ¬c → KeepsRelaying m') : KeepsRelaying (if c then m else m') := by
  split_ifs with hc
  · exact h hc
  · exact h' hc

theorem KeepsRelaying.bind (h : KeepsRelaying m)
    (hf : ∀ a, m.result = some a → KeepsRelaying (f a)) : KeepsRelaying (m >>= f) := by
  intro hresult
  cases hm : m.result with
  | none =>
    rw [bind_none hm] at hresult
    exact absurd rfl hresult
  | some a =>
    rw [bind_some hm] at hresult ⊢
    obtain ⟨n, hn⟩ := h (by rw [hm]; exact Option.some_ne_none a)
    obtain ⟨n', hn'⟩ := hf a hm hresult
    refine ⟨n' + n, fun held => ?_⟩
    rw [List.replicate_add, List.append_assoc]
    exact walk_trans (hn held) (hn' _)

/-- Suspending before and resuming after. -/
theorem KeepsRelaying.around (h : KeepsRelaying m) (scope : Scope)
    (hf : ∀ a, m.result = some a → KeepsRelaying (f a)) :
    KeepsRelaying (do suspendRelaying scope; let a ← m; resumeRelaying scope; f a) := by
  intro hresult
  change (suspendRelaying scope >>= fun _ => m >>= fun a => resumeRelaying scope >>=
    fun _ => f a).result
    ≠ none at hresult
  rw [result_bind] at hresult
  cases hm : m.result with
  | none => simp [suspendRelaying, hm] at hresult
  | some a =>
    obtain ⟨n, hn⟩ := h (by rw [hm]; exact Option.some_ne_none a)
    obtain ⟨n', hn'⟩ := hf a hm (by simpa [suspendRelaying, resumeRelaying, hm] using hresult)
    refine ⟨n' + n, fun held => ?_⟩
    have hwhole : (suspendRelaying scope >>= fun _ => m >>= fun a =>
        resumeRelaying scope >>= fun _ => f a).trace =
        .acquire (.relaying scope) :: (m.trace ++ .release (.relaying scope) :: (f a).trace) := by
      rw [bind_some (a := ()) rfl, bind_some hm, bind_some (a := ()) rfl]
      rfl
    change walk held (suspendRelaying scope >>= fun _ => m >>= fun a =>
        resumeRelaying scope >>= fun _ => f a).trace = _
    rw [hwhole, walk]
    refine walk_trans (hn _) ?_
    have hmem : Resource.relaying scope ∈
        List.replicate n Resource.gwCfgMutex ++ Resource.relaying scope :: held := by simp
    have herase : (List.replicate n Resource.gwCfgMutex ++
        Resource.relaying scope :: held).erase (.relaying scope) =
          List.replicate n .gwCfgMutex ++ held := by
      rw [List.erase_append_right _ (by simp [List.mem_replicate]), List.erase_cons_head]
    rw [walk, if_pos hmem, herase, List.replicate_add, List.append_assoc]
    exact hn' _

end KeepsRelaying

end RuuviGateway.Relaying
