import Mathlib.Data.List.Range
import Mathlib.Data.Nat.ModEq
import RuuviGateway.General.Streak

/-!
# The watch on the free heap

The main task samples the free heap ten times a second. It looks at the greatest of the samples of a
window, leaves out the last sample of each window, and restarts the gateway when five windows in a
row stay below the limit.
-/

namespace RuuviGateway.MainLoop

open General

section Handler

/-- The samples of a window: the period of the log over the period of the samples. -/
def heapUsageStatNum : ℕ := 10 * 1000 / 100

def ruuviFreeHeapLim : ℕ := 50 * 1024

def ruuviMaxLowHeapMemCnt : ℕ := 5

/-- The static variables of `main_task_handle_sig_log_heap_usage`. -/
structure HeapUsage where
  statCnt : ℕ
  minFreeHeap : ℕ
  maxFreeHeap : ℕ
  limitCnt : ℕ
  deriving DecidableEq, Repr

def HeapUsage.initial : HeapUsage := ⟨0, 0xffffffff, 0, 0⟩

/-- `main_task_handle_sig_log_heap_usage`; `none` if the gateway is restarted. -/
def HeapUsage.sample (u : HeapUsage) (freeHeap : ℕ) : Option HeapUsage :=
  let u := { u with statCnt := u.statCnt + 1 }
  if u.statCnt < heapUsageStatNum then
    some { u with
      minFreeHeap := if freeHeap < u.minFreeHeap then freeHeap else u.minFreeHeap
      maxFreeHeap := if u.maxFreeHeap < freeHeap then freeHeap else u.maxFreeHeap }
  else if u.maxFreeHeap < ruuviFreeHeapLim then
    if ruuviMaxLowHeapMemCnt ≤ u.limitCnt + 1 then none
    else some ⟨0, 0xffffffff, 0, u.limitCnt + 1⟩
  else some ⟨0, 0xffffffff, 0, 0⟩

def HeapUsage.run (samples : List ℕ) : Option HeapUsage :=
  samples.foldl (fun u freeHeap => u.bind (·.sample freeHeap)) (some .initial)

@[simp] theorem HeapUsage.run_nil : HeapUsage.run [] = some .initial := rfl

@[simp] theorem HeapUsage.run_concat (samples : List ℕ) (freeHeap : ℕ) :
    HeapUsage.run (samples ++ [freeHeap]) = (HeapUsage.run samples).bind (·.sample freeHeap) := by
  simp [run]

end Handler

section Windows

/-- All samples of a window but the last. -/
def heapWindow (samples : List ℕ) (k : ℕ) : List ℕ :=
  (samples.drop (heapUsageStatNum * k)).take (heapUsageStatNum - 1)

def isLowHeapWindow (samples : List ℕ) (k : ℕ) : Bool :=
  (heapWindow samples k).all fun freeHeap => decide (freeHeap < ruuviFreeHeapLim)

/-- The windows that are complete: which of them stay below the limit. -/
def lowHeapWindows (samples : List ℕ) : List Bool :=
  (List.range (samples.length / heapUsageStatNum)).map (isLowHeapWindow samples)

/-- The samples since the last complete window. -/
def openHeapWindow (samples : List ℕ) : List ℕ :=
  samples.drop (heapUsageStatNum * (samples.length / heapUsageStatNum))

variable {samples : List ℕ} {freeHeap k : ℕ}

theorem length_openHeapWindow (samples : List ℕ) : (openHeapWindow samples).length =
    samples.length % heapUsageStatNum := by
  have h := Nat.div_add_mod samples.length heapUsageStatNum
  simp only [openHeapWindow, List.length_drop]
  omega

/-- A complete window does not depend on later samples. -/
theorem isLowHeapWindow_concat (hk : k < samples.length / heapUsageStatNum) :
    isLowHeapWindow (samples ++ [freeHeap]) k = isLowHeapWindow samples k := by
  have hcomplete : heapUsageStatNum * k + heapUsageStatNum ≤ samples.length := by
    simp only [heapUsageStatNum] at hk ⊢
    omega
  have hlen : heapUsageStatNum - 1 ≤ (samples.drop (heapUsageStatNum * k)).length := by
    simp only [List.length_drop]
    omega
  rw [isLowHeapWindow, heapWindow, List.drop_append_of_le_length (by omega),
    List.take_append_of_le_length hlen]
  rfl

/-- A sample that does not complete its window. -/
theorem windows_concat_of_lt (freeHeap : ℕ)
    (h : samples.length % heapUsageStatNum + 1 < heapUsageStatNum) :
    lowHeapWindows (samples ++ [freeHeap]) = lowHeapWindows samples ∧
      openHeapWindow (samples ++ [freeHeap]) = openHeapWindow samples ++ [freeHeap] := by
  have hdiv : (samples.length + 1) / heapUsageStatNum = samples.length / heapUsageStatNum := by
    simp only [heapUsageStatNum] at h ⊢
    omega
  constructor
  · simp only [lowHeapWindows, List.length_append, List.length_singleton, hdiv]
    exact List.map_congr_left fun k hk => isLowHeapWindow_concat (List.mem_range.mp hk)
  · simp only [openHeapWindow, List.length_append, List.length_singleton, hdiv]
    exact List.drop_append_of_le_length (Nat.mul_div_le _ _)

/-- The last sample of a window, which does not count. -/
theorem windows_concat_of_eq (freeHeap : ℕ)
    (h : samples.length % heapUsageStatNum + 1 = heapUsageStatNum) :
    lowHeapWindows (samples ++ [freeHeap]) = lowHeapWindows samples ++
        [(openHeapWindow samples).all fun freeHeap => decide (freeHeap < ruuviFreeHeapLim)] ∧
      openHeapWindow (samples ++ [freeHeap]) = [] := by
  have hdiv : (samples.length + 1) / heapUsageStatNum =
      samples.length / heapUsageStatNum + 1 := by
    simp only [heapUsageStatNum] at h ⊢
    omega
  constructor
  · simp only [lowHeapWindows, List.length_append, List.length_singleton, hdiv, List.range_succ,
      List.map_append, List.map_singleton]
    congr 1
    · exact List.map_congr_left fun k hk => isLowHeapWindow_concat (List.mem_range.mp hk)
    · have hlen := length_openHeapWindow samples
      simp only [openHeapWindow] at hlen
      rw [isLowHeapWindow, heapWindow, List.drop_append_of_le_length (Nat.mul_div_le _ _),
        List.take_append_of_le_length (by omega), List.take_of_length_le (by omega)]
      rfl
  · simp only [openHeapWindow, List.length_append, List.length_singleton, hdiv]
    refine List.drop_of_length_le ?_
    simp only [heapUsageStatNum, List.length_append, List.length_singleton] at h ⊢
    omega

end Windows

section Restart

variable {samples : List ℕ} {u : HeapUsage} {freeHeap : ℕ}

/-- What the static variables say about the samples so far. -/
structure HeapUsage.Counts (u : HeapUsage) (samples : List ℕ) : Prop where
  statCnt : u.statCnt = samples.length % heapUsageStatNum
  maxFreeHeap : u.maxFreeHeap < ruuviFreeHeapLim ↔
    ∀ freeHeap ∈ openHeapWindow samples, freeHeap < ruuviFreeHeapLim
  limitCnt : streak ruuviMaxLowHeapMemCnt (lowHeapWindows samples) = some u.limitCnt

theorem HeapUsage.counts_initial : HeapUsage.initial.Counts [] where
  statCnt := rfl
  maxFreeHeap := by simp [initial, openHeapWindow, ruuviFreeHeapLim]
  limitCnt := rfl

theorem HeapUsage.Counts.sample (h : u.Counts samples) (freeHeap : ℕ) :
    (u.sample freeHeap = none ∧ streak ruuviMaxLowHeapMemCnt
        (lowHeapWindows (samples ++ [freeHeap])) = none) ∨
      ∃ u', u.sample freeHeap = some u' ∧ u'.Counts (samples ++ [freeHeap]) := by
  have hmod := Nat.mod_lt samples.length (show 0 < heapUsageStatNum by decide)
  have hcnt := h.statCnt
  have hlength : (samples ++ [freeHeap]).length = samples.length + 1 := by simp
  by_cases hopen : samples.length % heapUsageStatNum + 1 < heapUsageStatNum
  · obtain ⟨hwindows, hsamples⟩ := windows_concat_of_lt freeHeap hopen
    refine .inr ⟨_, if_pos (by simpa [hcnt] using hopen), ?_, ?_, hwindows ▸ h.limitCnt⟩
    · simp only [hcnt, hlength, heapUsageStatNum] at hopen ⊢
      omega
    · simp only [hsamples, List.forall_mem_append, List.forall_mem_singleton, ← h.maxFreeHeap]
      split_ifs <;> omega
  · have heq : samples.length % heapUsageStatNum + 1 = heapUsageStatNum := by omega
    obtain ⟨hwindows, hsamples⟩ := windows_concat_of_eq freeHeap heq
    have hfull : ¬u.statCnt + 1 < heapUsageStatNum := by omega
    have hzero : (samples ++ [freeHeap]).length % heapUsageStatNum = 0 := by
      simp only [hlength, heapUsageStatNum] at heq ⊢
      omega
    simp only [HeapUsage.sample, if_neg hfull, hwindows, streak_concat, h.limitCnt]
    by_cases hlow : u.maxFreeHeap < ruuviFreeHeapLim
    · have hall := h.maxFreeHeap.mp hlow
      have hstep : ((openHeapWindow samples).all fun freeHeap =>
          decide (freeHeap < ruuviFreeHeapLim)) = true := by simpa using hall
      simp only [if_pos hlow, hstep, streakStep]
      by_cases hlimit : ruuviMaxLowHeapMemCnt ≤ u.limitCnt + 1
      · simp [hlimit]
      · refine .inr ⟨_, if_neg hlimit, hzero.symm, by simp [hsamples, ruuviFreeHeapLim], ?_⟩
        simp [hwindows, h.limitCnt, hstep, streakStep, hlimit]
    · have hstep : ((openHeapWindow samples).all fun freeHeap =>
          decide (freeHeap < ruuviFreeHeapLim)) = false := by
        simpa using (not_congr h.maxFreeHeap).mp hlow
      refine .inr ⟨_, if_neg hlow, hzero.symm, by simp [hsamples, ruuviFreeHeapLim], ?_⟩
      simp [hwindows, h.limitCnt, hstep, streakStep]

/-- The windows after a restart do not undo it. -/
theorem streak_lowHeapWindows_concat
    (h : streak ruuviMaxLowHeapMemCnt (lowHeapWindows samples) = none) (freeHeap : ℕ) :
    streak ruuviMaxLowHeapMemCnt (lowHeapWindows (samples ++ [freeHeap])) = none := by
  have hmod := Nat.mod_lt samples.length (show 0 < heapUsageStatNum by decide)
  by_cases hopen : samples.length % heapUsageStatNum + 1 < heapUsageStatNum
  · rw [(windows_concat_of_lt freeHeap hopen).1, h]
  · rw [(windows_concat_of_eq freeHeap (by omega)).1, streak_concat, h, streakStep]

theorem heapUsage_run (samples : List ℕ) :
    (HeapUsage.run samples = none ∧
        streak ruuviMaxLowHeapMemCnt (lowHeapWindows samples) = none) ∨
      ∃ u, HeapUsage.run samples = some u ∧ u.Counts samples := by
  induction samples using List.reverseRecOn with
  | nil => exact .inr ⟨_, rfl, HeapUsage.counts_initial⟩
  | append_singleton samples freeHeap ih =>
    rcases ih with ⟨hnone, hstreak⟩ | ⟨u, hsome, hcounts⟩
    · exact .inl ⟨by simp [hnone], streak_lowHeapWindows_concat hstreak freeHeap⟩
    · simpa [hsome] using hcounts.sample freeHeap

/-- The samples restart the gateway exactly if five windows in a row stay below the limit. -/
theorem heapUsage_run_eq_none_iff : HeapUsage.run samples = none ↔
    List.replicate ruuviMaxLowHeapMemCnt true <:+: lowHeapWindows samples := by
  rw [← streak_eq_none_iff (by decide)]
  rcases heapUsage_run samples with ⟨hnone, hstreak⟩ | ⟨u, hsome, hcounts⟩
  · simp [hnone, hstreak]
  · simp [hsome, hcounts.limitCnt]

end Restart

end RuuviGateway.MainLoop
