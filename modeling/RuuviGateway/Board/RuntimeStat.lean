import Mathlib.Data.List.Sort
import RuuviGateway.General.CString
import RuuviGateway.General.Slots
import RuuviGateway.General.Transition

/-!
# Run times and stacks of the tasks

A report asks the operating system for its tasks, and logs how long each of them has run since the
report before, from a table with the counters of then. A second table keeps the smallest free stack
that has been seen under the name of a task.
-/

namespace RuuviGateway.Board

open General

section Tables

def runtimeStatMaxNumTasks : ℕ := 24

def configMaxTaskNameLen : ℕ := 16

instance : NeZero configMaxTaskNameLen := ⟨by decide⟩

/-- `TaskStatus_t`. -/
structure TaskStatus where
  taskName : CStr configMaxTaskNameLen
  taskNumber : ℕ
  basePriority : ℕ
  runTimeCounter : UInt32
  stackHighWaterMark : UInt32

/-- `runtime_stat_task_info_t`, with the number 0 in a free slot. -/
structure TaskInfo where
  taskNumber : ℕ
  runtimeCounter : UInt32
  deriving DecidableEq

/-- `runtime_stat_accumulated_task_info_t`. -/
structure AccumulatedTaskInfo where
  taskName : CStr configMaxTaskNameLen
  minFreeStackSize : UInt32

def uint32Max : UInt32 := 0xffffffff

/-- `runtime_stat_update_accumulated_info` from one slot on. -/
def updateAccumulatedInfo (taskName : CStr configMaxTaskNameLen) (freeStackSize : UInt32) :
    List AccumulatedTaskInfo → List AccumulatedTaskInfo
  | [] => []
  | info :: infos =>
      let info := if info.taskName.val = [] then ⟨taskName, uint32Max⟩ else info
      if info.taskName = taskName then
        { info with minFreeStackSize := min info.minFreeStackSize freeStackSize } :: infos
      else info :: updateAccumulatedInfo taskName freeStackSize infos

/-- What `runtime_stat_for_each_accumulated_info` calls back with. -/
def forEachAccumulatedInfo (infos : List AccumulatedTaskInfo) : List AccumulatedTaskInfo :=
  infos.filter fun info => info.taskName.val ≠ []

end Tables

section Report

/-- A line of the report. -/
structure TaskLine where
  task : TaskStatus
  runtimeCounterDelta : UInt32
  percentageOfCpuUsage : UInt32

def percentage (delta totalTimeDelta : UInt32) : UInt32 :=
  if totalTimeDelta = 0 then uint32Max else (delta * 100 + totalTimeDelta / 2) / totalTimeDelta

def TaskStatus.info (task : TaskStatus) : TaskInfo := ⟨task.taskNumber, task.runTimeCounter⟩

def runtimeStatFindTaskInfo (tasks : List TaskInfo) (taskNum : ℕ) : Option TaskInfo :=
  Slots.lookup TaskInfo.taskNumber tasks taskNum

/-- The counters in `log_runtime_statistics_handle_task`: the line, the table, and the mask of the
slots that are in use. -/
def handleTask (totalTimeDelta : UInt32) (tasks : List TaskInfo) (mask : ℕ) (task : TaskStatus) :
    TaskLine × List TaskInfo × ℕ :=
  let before := (runtimeStatFindTaskInfo tasks task.taskNumber).map TaskInfo.runtimeCounter
  let delta := task.runTimeCounter - before.getD 0
  let (idx, tasks) := Slots.store TaskInfo.taskNumber 0 tasks task.info
  (⟨task, delta, percentage delta totalTimeDelta⟩, tasks,
    match idx with
    | none => mask
    | some i => mask ||| 2 ^ i)

def handleTasks (totalTimeDelta : UInt32) :
    List TaskStatus → List TaskInfo → ℕ → List TaskLine × List TaskInfo × ℕ
  | [], tasks, mask => ([], tasks, mask)
  | task :: others, tasks, mask =>
      let (line, tasks, mask) := handleTask totalTimeDelta tasks mask task
      let (lines, tasks, mask) := handleTasks totalTimeDelta others tasks mask
      (line :: lines, tasks, mask)

def runtimeStatRemoveDeletedTasksInfo (tasks : List TaskInfo) (mask : ℕ) : List TaskInfo :=
  Slots.keep ⟨0, 0⟩ tasks fun i => mask.testBit i

def logRuntimeCompareTasks (task₁ task₂ : TaskStatus) : Bool :=
  if task₁.basePriority = task₂.basePriority then decide (task₁.taskNumber ≤ task₂.taskNumber)
  else decide (task₁.basePriority ≤ task₂.basePriority)

def logRuntimeSortTasks (tasks : List TaskStatus) : List TaskStatus :=
  tasks.mergeSort logRuntimeCompareTasks

/-- What `uxTaskGetSystemState` returns: no tasks where they are more than the array has. -/
structure SystemState where
  tasks : List TaskStatus
  totalTime : UInt32
  length_le : tasks.length ≤ runtimeStatMaxNumTasks
  nodup : (tasks.map TaskStatus.taskNumber).Nodup
  numbered : ∀ task ∈ tasks, task.taskNumber ≠ 0

structure RuntimeStat where
  accumulated : List AccumulatedTaskInfo
  tasksInfo : List TaskInfo
  prevTotalTime : UInt32

/-- `log_runtime_statistics`, with the lines that it logs. -/
def logRuntimeStatistics (s : RuntimeStat) (state : SystemState) : RuntimeStat × List TaskLine :=
  let totalTimeDelta := state.totalTime - s.prevTotalTime
  let s := { s with prevTotalTime := state.totalTime }
  if state.tasks = [] then (s, [])
  else
    let (lines, tasks, mask) :=
      handleTasks totalTimeDelta (logRuntimeSortTasks state.tasks) s.tasksInfo 0
    ({ s with
        tasksInfo := runtimeStatRemoveDeletedTasksInfo tasks mask
        accumulated := lines.foldl (fun infos line =>
          updateAccumulatedInfo line.task.taskName line.task.stackHighWaterMark infos)
            s.accumulated }, lines)

/-- A report does nothing where there is no memory for the tasks. -/
def runtimeStat : System RuntimeStat (Option SystemState) (List TaskLine) where
  init :=
    { accumulated := .replicate runtimeStatMaxNumTasks ⟨.empty, 0⟩
      tasksInfo := .replicate runtimeStatMaxNumTasks ⟨0, 0⟩
      prevTotalTime := 0 }
  step s label :=
    match label with
    | none => some (s, [])
    | some state => some (logRuntimeStatistics s state)

end Report

section RunTimes

open Slots

variable {slots start : List TaskInfo} {done todo : List TaskStatus} {mask : ℕ} {k : ℕ}
  {delta : UInt32}

/-- The counter that the table has for a task. -/
def counterOf (slots : List TaskInfo) (k : ℕ) : Option UInt32 :=
  (runtimeStatFindTaskInfo slots k).map TaskInfo.runtimeCounter

def line (delta : UInt32) (start : List TaskInfo) (task : TaskStatus) : TaskLine :=
  let used := task.runTimeCounter - (counterOf start task.taskNumber).getD 0
  ⟨task, used, percentage used delta⟩

def numbers (tasks : List TaskStatus) : List ℕ := tasks.map TaskStatus.taskNumber

/-- The numbers in the slots that are in use. -/
def usedNumbers (slots : List TaskInfo) : Finset ℕ :=
  ((slots.map TaskInfo.taskNumber).filter (· ≠ 0)).toFinset

/-- The table within a report that began with the slots `start`, after the tasks `done`. -/
structure Within (start : List TaskInfo) (done : List TaskStatus) (slots : List TaskInfo)
    (mask : ℕ) : Prop where
  length : slots.length = runtimeStatMaxNumTasks
  distinct : Distinct TaskInfo.taskNumber 0 slots
  numbered : ∀ task ∈ done, task.taskNumber ≠ 0
  found : ∀ task ∈ done, lookup TaskInfo.taskNumber slots task.taskNumber = some task.info
  kept : ∀ k ≠ 0, k ∉ numbers done →
    lookup TaskInfo.taskNumber slots k = lookup TaskInfo.taskNumber start k
  masked : ∀ i (hi : i < slots.length), mask.testBit i = true ↔ slots[i].taskNumber ∈ numbers done

theorem mem_usedNumbers : k ∈ usedNumbers slots ↔ k ≠ 0 ∧ ∃ y ∈ slots, y.taskNumber = k := by
  simp only [usedNumbers, List.mem_toFinset, List.mem_filter, List.mem_map, decide_eq_true_eq]
  exact and_comm

/-- The numbers in the table are those of the last report and of the tasks so far. -/
theorem Within.keys (h : Within start done slots mask) (hd : Distinct TaskInfo.taskNumber 0 start)
    {y : TaskInfo} (hy : y ∈ slots) :
    y.taskNumber = 0 ∨ y.taskNumber ∈ usedNumbers start ∪ (numbers done).toFinset := by
  by_cases hzero : y.taskNumber = 0
  · exact .inl hzero
  right
  rw [Finset.mem_union, mem_usedNumbers, List.mem_toFinset]
  by_cases hdone : y.taskNumber ∈ numbers done
  · exact .inr hdone
  · have hfound := (lookup_eq_some h.distinct hzero).mpr ⟨hy, rfl⟩
    rw [h.kept _ hzero hdone, lookup_eq_some hd hzero] at hfound
    exact .inl ⟨hzero, y, hfound⟩

/-- The last report and this one do not have more tasks together than there are slots. -/
def Roomy (start : List TaskInfo) (tasks : List TaskStatus) : Prop :=
  (usedNumbers start ∪ (numbers tasks).toFinset).card ≤ runtimeStatMaxNumTasks

/-- A task finds a slot. -/
theorem Within.takes (h : Within start done slots mask) {task : TaskStatus}
    (hd : Distinct TaskInfo.taskNumber 0 start) (hroom : Roomy start (done ++ task :: todo))
    (hnumber : task.taskNumber ≠ 0) (hnew : task.taskNumber ∉ numbers done) :
    ∃ i, store TaskInfo.taskNumber 0 slots task.info = (some i, slots.set i task.info) ∧
      Takes TaskInfo.taskNumber 0 slots task.info i := by
  rcases store_cases TaskInfo.taskNumber 0 slots task.info with hi | ⟨-, hnone, hfull⟩
  · exact hi
  exfalso
  have hfresh : task.taskNumber ∉ usedNumbers start ∪ (numbers done).toFinset := by
    rw [Finset.mem_union, mem_usedNumbers, List.mem_toFinset, not_or]
    refine ⟨?_, hnew⟩
    rintro ⟨-, y, hy, hkey⟩
    have hfound := (lookup_eq_some hd hnumber).mpr ⟨hy, hkey⟩
    rw [← h.kept _ hnumber hnew, lookup_eq_some h.distinct hnumber] at hfound
    exact index_eq_none hnone y hfound.1 hkey
  have hsub : insert task.taskNumber (usedNumbers start ∪ (numbers done).toFinset) ⊆
      usedNumbers start ∪ (numbers (done ++ task :: todo)).toFinset := by
    intro k
    simp only [Finset.mem_insert, Finset.mem_union, List.mem_toFinset, numbers, List.map_append,
      List.map_cons, List.mem_append, List.mem_cons]
    rintro (hk | hk | hk) <;> simp [hk]
  obtain ⟨i, hi⟩ := exists_index h.distinct (fun y hy => h.keys hd hy)
    ((Finset.card_le_card hsub).trans (hroom.trans h.length.ge)) hfresh
  rw [hfull] at hi
  cases hi

theorem Within.handleTask (h : Within start done slots mask) (delta : UInt32) {task : TaskStatus}
    (hd : Distinct TaskInfo.taskNumber 0 start) (hroom : Roomy start (done ++ task :: todo))
    (hnumber : task.taskNumber ≠ 0) (hnew : task.taskNumber ∉ numbers done) :
    (handleTask delta slots mask task).1 = line delta start task ∧
      Within start (done ++ [task]) (handleTask delta slots mask task).2.1
        (handleTask delta slots mask task).2.2 := by
  constructor
  · simp only [Board.handleTask, line, counterOf, runtimeStatFindTaskInfo, h.kept _ hnumber hnew]
  obtain ⟨i, hstore, htakes⟩ := h.takes hd hroom hnumber hnew
  have hlookup {k : ℕ} (hk : k ≠ 0) : lookup TaskInfo.taskNumber (slots.set i task.info) k =
      if k = task.taskNumber then some task.info else lookup TaskInfo.taskNumber slots k :=
    htakes.lookup h.distinct hnumber hk
  have hnumbers : numbers (done ++ [task]) = numbers done ++ [task.taskNumber] := by simp [numbers]
  simp only [Board.handleTask, hstore]
  constructor
  case length => rw [List.length_set, h.length]
  case distinct => exact htakes.distinct h.distinct hnumber
  case numbered => simpa [or_imp, forall_and] using ⟨h.numbered, hnumber⟩
  case found =>
    intro t ht
    rw [List.mem_append, List.mem_singleton] at ht
    rcases ht with ht | rfl
    · rw [hlookup (h.numbered t ht), if_neg, h.found t ht]
      rintro heq
      exact hnew (heq ▸ List.mem_map_of_mem ht)
    · rw [hlookup hnumber, if_pos rfl]
  case kept =>
    intro k hk hkdone
    rw [hnumbers, List.mem_append, List.mem_singleton, not_or] at hkdone
    rw [hlookup hk, if_neg hkdone.2, h.kept k hk hkdone.1]
  case masked =>
    intro j hj
    rw [List.length_set] at hj
    rw [Nat.testBit_or, Nat.testBit_two_pow, List.getElem_set, hnumbers, List.mem_append,
      List.mem_singleton, Bool.or_eq_true, h.masked j hj, decide_eq_true_eq]
    split_ifs with hij
    · exact ⟨fun _ => .inr rfl, fun _ => .inr hij⟩
    · have hne := htakes.key_ne h.distinct hnumber hj hij
      simp only [hij, or_false]
      exact ⟨.inl, fun hmem => hmem.resolve_right hne⟩

theorem Within.handleTasks (h : Within start done slots mask)
    (hd : Distinct TaskInfo.taskNumber 0 start) (hroom : Roomy start (done ++ todo))
    (hnumbered : ∀ task ∈ todo, task.taskNumber ≠ 0) (hnodup : (numbers (done ++ todo)).Nodup) :
    (handleTasks delta todo slots mask).1 = todo.map (line delta start) ∧
      Within start (done ++ todo) (handleTasks delta todo slots mask).2.1
        (handleTasks delta todo slots mask).2.2 := by
  induction todo generalizing done slots mask with
  | nil => exact ⟨rfl, by simpa [Board.handleTasks] using h⟩
  | cons task todo ih =>
    have hnew : task.taskNumber ∉ numbers done := by
      rw [numbers, List.map_append, List.nodup_append] at hnodup
      exact fun hmem => hnodup.2.2 _ hmem _ (List.mem_map_of_mem List.mem_cons_self) rfl
    obtain ⟨hline, hnext⟩ := h.handleTask delta hd hroom (hnumbered task List.mem_cons_self) hnew
    rw [List.append_cons] at hroom hnodup ⊢
    obtain ⟨hlines, hend⟩ :=
      ih hnext hroom (fun t ht => hnumbered t (List.mem_cons_of_mem task ht)) hnodup
    exact ⟨by simp only [Board.handleTasks, hline, hlines, List.map_cons], hend⟩

/-- The table between two reports, the last one of which has listed these tasks. -/
structure Held (slots : List TaskInfo) (listed : List TaskStatus) : Prop where
  length : slots.length = runtimeStatMaxNumTasks
  distinct : Distinct TaskInfo.taskNumber 0 slots
  holds : ∀ x, x.taskNumber ≠ 0 → (x ∈ slots ↔ ∃ task ∈ listed, x = task.info)

theorem Held.within (h : Held slots done) : Within slots [] slots 0 where
  length := h.length
  distinct := h.distinct
  numbered := by simp
  found := by simp
  kept _ _ _ := rfl
  masked := by simp [numbers]

theorem Held.counterOf (h : Held slots done) {c : UInt32} (hk : k ≠ 0) :
    counterOf slots k = some c ↔ ∃ task ∈ done, task.taskNumber = k ∧ task.runTimeCounter = c := by
  simp only [Board.counterOf, runtimeStatFindTaskInfo, Option.map_eq_some_iff,
    lookup_eq_some h.distinct hk]
  constructor
  · rintro ⟨x, ⟨hx, rfl⟩, rfl⟩
    obtain ⟨task, htask, rfl⟩ := (h.holds x hk).mp hx
    exact ⟨task, htask, rfl, rfl⟩
  · rintro ⟨task, htask, rfl, rfl⟩
    exact ⟨task.info, ⟨(h.holds task.info hk).mpr ⟨task, htask, rfl⟩, rfl⟩, rfl⟩

theorem Held.roomy (h : Held slots done) {tasks : List TaskStatus}
    (hroom : ((numbers done).toFinset ∪ (numbers tasks).toFinset).card ≤ runtimeStatMaxNumTasks) :
    Roomy slots tasks := by
  refine (Finset.card_le_card (Finset.union_subset_union_left ?_)).trans hroom
  intro k hk
  obtain ⟨hne, y, hy, rfl⟩ := mem_usedNumbers.mp hk
  obtain ⟨task, htask, rfl⟩ := (h.holds y hne).mp hy
  exact List.mem_toFinset.mpr (List.mem_map_of_mem htask)

/-- Behind the last task, the slots of the others are freed. -/
theorem Within.held (h : Within start done slots mask) :
    Held (runtimeStatRemoveDeletedTasksInfo slots mask) done where
  length := by rw [runtimeStatRemoveDeletedTasksInfo, length_keep, h.length]
  distinct := distinct_keep h.distinct rfl
  holds x hx := by
    have hmem : x ∈ runtimeStatRemoveDeletedTasksInfo slots mask ↔
        ∃ i, ∃ hi : i < slots.length, slots[i] = x ∧ mask.testBit i = true :=
      mem_keep TaskInfo.taskNumber hx
    rw [hmem]
    constructor
    · rintro ⟨i, hi, rfl, hkept⟩
      obtain ⟨task, htask, hkey⟩ := List.mem_map.mp ((h.masked i hi).mp hkept)
      have hfound := h.found task htask
      rw [hkey, (lookup_eq_some h.distinct hx).mpr ⟨List.getElem_mem hi, rfl⟩] at hfound
      exact ⟨task, htask, Option.some.inj hfound⟩
    · rintro ⟨task, htask, rfl⟩
      obtain ⟨hslots, -⟩ := (lookup_eq_some h.distinct hx).mp (h.found task htask)
      obtain ⟨i, hi, hslot⟩ := List.mem_iff_getElem.mp hslots
      refine ⟨i, hi, hslot, (h.masked i hi).mpr ?_⟩
      rw [hslot]
      exact List.mem_map_of_mem htask

end RunTimes

section Reports

variable {s : RuntimeStat} {h : List (Option SystemState × List TaskLine)} {k : ℕ}

/-- The tasks of the last report that has listed any. -/
def lastListed : List (Option SystemState × List TaskLine) → List TaskStatus
  | [] => []
  | (none, _) :: h => lastListed h
  | (some state, _) :: h => if state.tasks = [] then lastListed h else state.tasks

/-- Any two reports in a row have at most as many tasks together as there are slots. -/
def FitsTable : List (Option SystemState × List TaskLine) → Prop
  | [] => True
  | (none, _) :: h => FitsTable h
  | (some state, _) :: h =>
      ((numbers (lastListed h)).toFinset ∪ (numbers state.tasks).toFinset).card ≤
        runtimeStatMaxNumTasks ∧ FitsTable h

/-- The run times that the reports have shown for a task since it was not listed, added up. -/
def shown (k : ℕ) : List (Option SystemState × List TaskLine) → UInt32
  | [] => 0
  | (_, lines) :: h =>
      if lines.isEmpty then shown k h
      else
        match lines.find? fun line => line.task.taskNumber = k with
        | none => 0
        | some line => shown k h + line.runtimeCounterDelta

theorem perm_logRuntimeSortTasks (tasks : List TaskStatus) :
    (logRuntimeSortTasks tasks).Perm tasks := List.mergeSort_perm _ _

/-- What a report with tasks logs, and the table behind it. -/
theorem logRuntimeStatistics_listed {state : SystemState} {listed : List TaskStatus}
    (hheld : Held s.tasksInfo listed) (htasks : state.tasks ≠ [])
    (hroom : ((numbers listed).toFinset ∪ (numbers state.tasks).toFinset).card ≤
      runtimeStatMaxNumTasks) :
    (logRuntimeStatistics s state).2 = (logRuntimeSortTasks state.tasks).map
        (line (state.totalTime - s.prevTotalTime) s.tasksInfo) ∧
      Held (logRuntimeStatistics s state).1.tasksInfo state.tasks := by
  have hperm := perm_logRuntimeSortTasks state.tasks
  have hnumbers : (numbers (logRuntimeSortTasks state.tasks)).Perm (numbers state.tasks) :=
    hperm.map TaskStatus.taskNumber
  have hroomy : Roomy s.tasksInfo ([] ++ logRuntimeSortTasks state.tasks) := by
    apply hheld.roomy
    rwa [List.nil_append, List.toFinset_eq_of_perm _ _ hnumbers]
  obtain ⟨hlines, hwithin⟩ := hheld.within.handleTasks hheld.distinct hroomy
    (fun task htask => state.numbered task (hperm.subset htask))
    (hnumbers.nodup_iff.mpr state.nodup)
  simp only [logRuntimeStatistics, if_neg htasks]
  refine ⟨hlines, ?_⟩
  have hsorted := hwithin.held
  refine ⟨hsorted.length, hsorted.distinct, fun x hx => (hsorted.holds x hx).trans ?_⟩
  simp only [List.nil_append, hperm.mem_iff]

theorem held_init : Held runtimeStat.init.tasksInfo [] where
  length := List.length_replicate
  distinct := by
    intro i j hi hj _
    left
    simp [runtimeStat]
  holds x hx := by
    have hnot : x ∉ runtimeStat.init.tasksInfo := by
      intro hmem
      rw [List.eq_of_mem_replicate hmem] at hx
      exact hx rfl
    simp [hnot]

/-- The line of a task in a report. -/
theorem find_lines {tasks : List TaskStatus} (delta : UInt32) (start : List TaskInfo) (k : ℕ) :
    (tasks.map (line delta start)).find? (fun line => line.task.taskNumber = k) =
      (tasks.find? fun task => task.taskNumber = k).map (line delta start) :=
  List.find?_map

/-- A report adds to what has been shown for a task just what its counter has grown by. -/
theorem shown_listed {state : SystemState} (hheld : Held s.tasksInfo (lastListed h))
    (htasks : state.tasks ≠ []) (hfits : FitsTable ((some state, []) :: h)) (hk : k ≠ 0)
    (hshown : shown k h = (counterOf s.tasksInfo k).getD 0) :
    shown k ((some state, (logRuntimeStatistics s state).2) :: h) =
      (counterOf (logRuntimeStatistics s state).1.tasksInfo k).getD 0 := by
  obtain ⟨hlines, hnext⟩ := logRuntimeStatistics_listed hheld htasks hfits.1
  have hperm := perm_logRuntimeSortTasks state.tasks
  have hsorted : logRuntimeSortTasks state.tasks ≠ [] := by
    intro hnil
    rw [hnil] at hperm
    exact htasks hperm.nil_eq.symm
  rw [shown, hlines, if_neg (by simpa using hsorted), find_lines]
  cases hfind : (logRuntimeSortTasks state.tasks).find? fun task => task.taskNumber = k with
  | none =>
    cases hcounter : counterOf (logRuntimeStatistics s state).1.tasksInfo k with
    | none => rfl
    | some c =>
      obtain ⟨task, htask, hkey, -⟩ := (hnext.counterOf hk).mp hcounter
      exact absurd hkey (by simpa using List.find?_eq_none.mp hfind task (hperm.symm.subset htask))
  | some task =>
    have hkey : task.taskNumber = k := by simpa using List.find?_some hfind
    have hmem := hperm.subset (List.mem_of_find?_eq_some hfind)
    rw [(hnext.counterOf hk).mpr ⟨task, hmem, hkey, rfl⟩, hshown]
    simp only [Option.map_some, line, hkey, Option.getD_some]
    rw [UInt32.add_comm, UInt32.sub_add_cancel]

/-- What has been shown for a task is its counter in the table. -/
theorem shown_run (hr : runtimeStat.FreeRun h s) (hfits : FitsTable h) :
    Held s.tasksInfo (lastListed h) ∧ ∀ k ≠ 0, shown k h = (counterOf s.tasksInfo k).getD 0 := by
  induction hr with
  | init =>
    refine ⟨held_init, fun k hk => ?_⟩
    cases hcounter : counterOf runtimeStat.init.tasksInfo k with
    | none => rfl
    | some c =>
      obtain ⟨task, htask, -⟩ := (held_init.counterOf hk).mp hcounter
      exact absurd htask List.not_mem_nil
  | @step h s label s' o _ _ hs ih =>
    cases label with
    | none =>
      obtain ⟨rfl, rfl⟩ := Prod.mk.inj (Option.some.inj hs)
      exact ih hfits
    | some state =>
      obtain ⟨hheld, hshown⟩ := ih hfits.2
      have heq : logRuntimeStatistics s state = (s', o) := Option.some.inj hs
      obtain rfl : (logRuntimeStatistics s state).1 = s' := congrArg Prod.fst heq
      obtain rfl : (logRuntimeStatistics s state).2 = o := congrArg Prod.snd heq
      by_cases htasks : state.tasks = []
      · have hnothing : logRuntimeStatistics s state =
            ({ s with prevTotalTime := state.totalTime }, []) := by
          simp only [logRuntimeStatistics, if_pos htasks]
        rw [hnothing]
        simpa [lastListed, shown, htasks] using ⟨hheld, hshown⟩
      · refine ⟨?_, fun k hk => shown_listed hheld htasks hfits hk (hshown k hk)⟩
        rw [lastListed, if_neg htasks]
        exact (logRuntimeStatistics_listed hheld htasks hfits.1).2

/-- As long as any two reports in a row find room, the run times that the reports show for a task
since it was created add up to its counter. -/
theorem shown_eq_counter (hr : runtimeStat.FreeRun h s) (hfits : FitsTable h)
    {task : TaskStatus} (htask : task ∈ lastListed h) (hnumber : task.taskNumber ≠ 0) :
    shown task.taskNumber h = task.runTimeCounter := by
  obtain ⟨hheld, hshown⟩ := shown_run hr hfits
  rw [hshown _ hnumber, (hheld.counterOf hnumber).mpr ⟨task, htask, rfl, rfl⟩, Option.getD_some]

def sampleState (counter : UInt32) : SystemState where
  tasks := [⟨.snprintf configMaxTaskNameLen (ascii "main"), 1, 1, counter, 700⟩]
  totalTime := counter
  length_le := Nat.le_of_ble_eq_true rfl
  nodup := List.nodup_singleton _
  numbered := by simp

theorem shown_eq_counter_sample :
    ∃ h s, runtimeStat.FreeRun h s ∧ h.length = 2 ∧ shown 1 h = 50 := by
  have hrun : runtimeStat.FreeRun [(some (sampleState 50), _), (some (sampleState 20), _)] _ :=
    .step (.step .init trivial rfl) trivial rfl
  exact ⟨_, _, hrun, rfl, shown_eq_counter hrun ⟨by decide, by decide, trivial⟩
    (List.mem_singleton.mpr rfl) (by decide)⟩

end Reports

section Accumulated

variable {infos padding : List AccumulatedTaskInfo} {s : RuntimeStat}
  {h : List (Option SystemState × List TaskLine)}

/-- What the reports say about the stacks: a name and a free stack, the last one first. -/
abbrev StackSizes := List (CStr configMaxTaskNameLen × UInt32)

variable {sizes : StackSizes} {taskName : CStr configMaxTaskNameLen} {free : UInt32}

def stackSizes (h : List (Option SystemState × List TaskLine)) : StackSizes :=
  h.flatMap fun event =>
    (event.2.map fun line => (line.task.taskName, line.task.stackHighWaterMark)).reverse

/-- The names in the order in which they have come up. A task without a name is not counted. -/
def namesOf : StackSizes → List (CStr configMaxTaskNameLen)
  | [] => []
  | (taskName, _) :: sizes =>
      if taskName.val = [] ∨ taskName ∈ namesOf sizes then namesOf sizes
      else namesOf sizes ++ [taskName]

/-- The smallest free stack under a name. -/
def minFree (taskName : CStr configMaxTaskNameLen) : StackSizes → UInt32
  | [] => uint32Max
  | (other, free) :: sizes =>
      if other = taskName then min (minFree taskName sizes) free else minFree taskName sizes

/-- The entries of the first names that there are slots for. -/
def entries (sizes : StackSizes) : List AccumulatedTaskInfo :=
  ((namesOf sizes).take runtimeStatMaxNumTasks).map fun n => ⟨n, minFree n sizes⟩

/-- The table holds the entries, and behind them slots without a name. -/
structure Accumulates (infos : List AccumulatedTaskInfo) (sizes : StackSizes) : Prop where
  length : infos.length = runtimeStatMaxNumTasks
  shape : ∃ padding, infos = entries sizes ++ padding ∧ ∀ info ∈ padding, info.taskName.val = []

theorem updateAccumulatedInfo_append (taskName : CStr configMaxTaskNameLen) (free : UInt32)
    (hnamed : ∀ info ∈ infos, info.taskName.val ≠ [] ∧ info.taskName ≠ taskName) :
    updateAccumulatedInfo taskName free (infos ++ padding) =
      infos ++ updateAccumulatedInfo taskName free padding := by
  induction infos with
  | nil => rfl
  | cons info infos ih =>
    obtain ⟨hne, hother⟩ := hnamed info List.mem_cons_self
    rw [List.cons_append, updateAccumulatedInfo, List.cons_append,
      ← ih fun i hi => hnamed i (List.mem_cons_of_mem info hi)]
    simp only [if_neg hne, if_neg hother]

/-- The entry of the name is the only one that changes. -/
theorem updateAccumulatedInfo_entry (free size : UInt32) (hne : taskName.val ≠ [])
    (hnamed : ∀ info ∈ infos, info.taskName.val ≠ [] ∧ info.taskName ≠ taskName) :
    updateAccumulatedInfo taskName free (infos ++ ⟨taskName, size⟩ :: padding) =
      infos ++ ⟨taskName, min size free⟩ :: padding := by
  rw [updateAccumulatedInfo_append taskName free hnamed, updateAccumulatedInfo]
  simp only [if_neg hne, if_true]

theorem length_updateAccumulatedInfo (taskName : CStr configMaxTaskNameLen) (free : UInt32) :
    (updateAccumulatedInfo taskName free infos).length = infos.length := by
  induction infos with
  | nil => rfl
  | cons info infos ih =>
    simp only [updateAccumulatedInfo]
    split_ifs <;> simp [ih]

/-- A name that no slot has takes the first one without a name. -/
theorem updateAccumulatedInfo_unnamed (taskName : CStr configMaxTaskNameLen) (free : UInt32)
    (hpadding : ∀ info ∈ padding, info.taskName.val = []) :
    updateAccumulatedInfo taskName free padding =
      (padding.take 1).map (fun _ => ⟨taskName, min uint32Max free⟩) ++ padding.drop 1 := by
  cases padding with
  | nil => rfl
  | cons info padding =>
    simp [updateAccumulatedInfo, hpadding info List.mem_cons_self]

theorem updateAccumulatedInfo_nil (free : UInt32) (hnil : taskName.val = [])
    (hpadding : ∀ info ∈ padding, info.taskName.val = []) :
    ∀ info ∈ updateAccumulatedInfo taskName free padding, info.taskName.val = [] := by
  cases padding with
  | nil => simp [updateAccumulatedInfo]
  | cons info padding =>
    obtain ⟨hfirst, hrest⟩ := List.forall_mem_cons.mp hpadding
    simp only [updateAccumulatedInfo, if_pos hfirst, if_true, List.forall_mem_cons]
    exact ⟨hnil, hrest⟩

theorem minFree_of_ne {other : CStr configMaxTaskNameLen} (hne : taskName ≠ other) :
    minFree other ((taskName, free) :: sizes) = minFree other sizes := if_neg hne

theorem mem_namesOf {n : CStr configMaxTaskNameLen} (hn : n ∈ namesOf sizes) : n.val ≠ [] := by
  induction sizes with
  | nil => simp [namesOf] at hn
  | cons size sizes ih =>
    rw [namesOf] at hn
    split_ifs at hn with hskip
    · exact ih hn
    · rcases List.mem_append.mp hn with hn | hn
      · exact ih hn
      · rw [List.mem_singleton.mp hn]
        exact fun hnil => hskip (.inl hnil)

theorem nodup_namesOf (sizes : StackSizes) : (namesOf sizes).Nodup := by
  induction sizes with
  | nil => exact List.nodup_nil
  | cons size sizes ih =>
    rw [namesOf]
    split_ifs with hskip
    · exact ih
    · rw [not_or] at hskip
      exact List.nodup_append.mpr ⟨ih, List.nodup_singleton _, fun a ha b hb heq =>
        hskip.2 (List.mem_singleton.mp hb ▸ heq ▸ ha)⟩

theorem minFree_of_notMem (hne : taskName.val ≠ []) (hnew : taskName ∉ namesOf sizes) :
    minFree taskName sizes = uint32Max := by
  induction sizes with
  | nil => rfl
  | cons size sizes ih =>
    rw [namesOf] at hnew
    by_cases hsame : size.1 = taskName
    · exfalso
      rw [hsame] at hnew
      split_ifs at hnew with hskip
      · exact hskip.elim hne hnew
      · exact hnew (List.mem_append_right _ (List.mem_singleton.mpr rfl))
    · rw [minFree_of_ne hsame]
      apply ih
      intro hmem
      split_ifs at hnew
      · exact hnew hmem
      · exact hnew (List.mem_append_left _ hmem)

/-- Names other than the new one keep their entries. -/
theorem map_entries_of_notMem (free : UInt32) (sizes : StackSizes)
    {names : List (CStr configMaxTaskNameLen)} (hnew : taskName ∉ names) :
    names.map (fun n => AccumulatedTaskInfo.mk n (minFree n ((taskName, free) :: sizes))) =
      names.map fun n => ⟨n, minFree n sizes⟩ := by
  apply List.map_congr_left
  intro n hn
  rw [minFree_of_ne]
  rintro rfl
  exact hnew hn

theorem entries_named {names : List (CStr configMaxTaskNameLen)} (hsub : names ⊆ namesOf sizes)
    (hnew : taskName ∉ names) : ∀ info ∈ names.map fun n => AccumulatedTaskInfo.mk n
      (minFree n sizes), info.taskName.val ≠ [] ∧ info.taskName ≠ taskName := by
  intro info hinfo
  obtain ⟨n, hn, rfl⟩ := List.mem_map.mp hinfo
  exact ⟨mem_namesOf (hsub hn), fun heq => hnew (heq ▸ hn)⟩

/-- A name with a slot, which stands between those of two lists of other names. -/
theorem updateAccumulatedInfo_known (free : UInt32) (padding : List AccumulatedTaskInfo)
    (hmem : taskName ∈ (namesOf sizes).take runtimeStatMaxNumTasks) :
    updateAccumulatedInfo taskName free (entries sizes ++ padding) =
      entries ((taskName, free) :: sizes) ++ padding := by
  have htake : (namesOf sizes).take runtimeStatMaxNumTasks ⊆ namesOf sizes := List.take_subset _ _
  have hne := mem_namesOf (htake hmem)
  obtain ⟨before, after, hsplit⟩ := List.append_of_mem hmem
  have hnodup := (nodup_namesOf sizes).sublist (List.take_sublist runtimeStatMaxNumTasks _)
  rw [hsplit, List.nodup_append, List.nodup_cons] at hnodup
  have hbefore : taskName ∉ before := fun hb => hnodup.2.2 _ hb _ List.mem_cons_self rfl
  have hsub : before ⊆ namesOf sizes := by
    intro n hn
    apply htake
    rw [hsplit]
    exact List.mem_append_left _ hn
  rw [entries, entries, namesOf, if_pos (.inr (htake hmem)), hsplit, List.map_append,
    List.map_append, List.map_cons, List.map_cons, map_entries_of_notMem free sizes hbefore,
    map_entries_of_notMem free sizes hnodup.2.1.1, List.append_assoc, List.append_assoc,
    List.cons_append, updateAccumulatedInfo_entry free _ hne (entries_named hsub hbefore), minFree,
    if_pos rfl, List.cons_append]

/-- A name that comes too late for a slot finds none. -/
theorem padding_eq_nil_of_late
    (hlength : (entries sizes ++ padding).length = runtimeStatMaxNumTasks)
    (hmem : taskName ∉ (namesOf sizes).take runtimeStatMaxNumTasks)
    (hlate : taskName ∈ namesOf sizes) : padding = [] := by
  have hfull : runtimeStatMaxNumTasks ≤ (namesOf sizes).length := by
    by_contra hshort
    rw [List.take_of_length_le (by omega)] at hmem
    exact hmem hlate
  rw [List.length_append, entries, List.length_map, List.length_take,
    Nat.min_eq_left hfull] at hlength
  exact List.eq_nil_of_length_eq_zero (by omega)

/-- A new name takes the first slot behind the others, if there is one. -/
theorem entries_new (free : UInt32)
    (hlength : (entries sizes ++ padding).length = runtimeStatMaxNumTasks)
    (hne : taskName.val ≠ []) (hnew : taskName ∉ namesOf sizes) :
    entries ((taskName, free) :: sizes) = entries sizes ++
      (padding.take 1).map fun _ => ⟨taskName, min uint32Max free⟩ := by
  rw [List.length_append, entries, List.length_map, List.length_take] at hlength
  have hcount : padding.length = runtimeStatMaxNumTasks - (namesOf sizes).length := by omega
  have hlast : (padding.take 1).map
      (fun _ => AccumulatedTaskInfo.mk taskName (min uint32Max free)) =
      ([taskName].take (runtimeStatMaxNumTasks - (namesOf sizes).length)).map
        fun n => ⟨n, minFree n ((taskName, free) :: sizes)⟩ := by
    rw [← hcount]
    cases padding with
    | nil => rfl
    | cons info padding => simp [minFree, minFree_of_notMem hne hnew]
  have hothers := map_entries_of_notMem free sizes
    (fun hmem => hnew (List.take_subset runtimeStatMaxNumTasks _ hmem))
  rw [hlast, entries, entries, namesOf, if_neg (not_or.mpr ⟨hne, hnew⟩), List.take_append,
    List.map_append, hothers]

theorem Accumulates.update (h : Accumulates infos sizes) (taskName : CStr configMaxTaskNameLen)
    (free : UInt32) :
    Accumulates (updateAccumulatedInfo taskName free infos) ((taskName, free) :: sizes) := by
  obtain ⟨hlength, padding, rfl, hpadding⟩ := h
  refine ⟨by rw [length_updateAccumulatedInfo, hlength], ?_⟩
  by_cases hmem : taskName ∈ (namesOf sizes).take runtimeStatMaxNumTasks
  · exact ⟨padding, updateAccumulatedInfo_known free padding hmem, hpadding⟩
  have hpast : updateAccumulatedInfo taskName free (entries sizes ++ padding) =
      entries sizes ++ updateAccumulatedInfo taskName free padding :=
    updateAccumulatedInfo_append taskName free (entries_named (List.take_subset _ _) hmem)
  rw [hpast]
  by_cases hskip : taskName.val = [] ∨ taskName ∈ namesOf sizes
  · refine ⟨updateAccumulatedInfo taskName free padding, ?_, ?_⟩
    · rw [entries, entries, namesOf, if_pos hskip, map_entries_of_notMem free sizes hmem]
    · rcases hskip with hnil | hlate
      · exact updateAccumulatedInfo_nil free hnil hpadding
      · simp [padding_eq_nil_of_late hlength hmem hlate, updateAccumulatedInfo]
  · rw [not_or] at hskip
    refine ⟨padding.drop 1, ?_, fun info hinfo => hpadding info (List.mem_of_mem_drop hinfo)⟩
    rw [updateAccumulatedInfo_unnamed taskName free hpadding, ← List.append_assoc,
      entries_new free hlength hskip.1 hskip.2]

theorem Accumulates.lines (h : Accumulates infos sizes) (lines : List TaskLine) :
    Accumulates (lines.foldl (fun infos line =>
        updateAccumulatedInfo line.task.taskName line.task.stackHighWaterMark infos) infos)
      ((lines.map fun line => (line.task.taskName, line.task.stackHighWaterMark)).reverse ++
        sizes) := by
  induction lines generalizing infos sizes with
  | nil => exact h
  | cons line lines ih =>
    rw [List.foldl_cons, List.map_cons, List.reverse_cons, List.append_assoc]
    exact ih (h.update line.task.taskName line.task.stackHighWaterMark)

theorem accumulates_run (hr : runtimeStat.FreeRun h s) :
    Accumulates s.accumulated (stackSizes h) := by
  induction hr with
  | init =>
    refine ⟨List.length_replicate, _, (List.nil_append _).symm, fun info hinfo => ?_⟩
    rw [List.eq_of_mem_replicate hinfo]
    exact CStr.val_empty
  | @step h s label s' o _ _ hs ih =>
    rw [stackSizes, List.flatMap_cons]
    cases label with
    | none =>
      obtain ⟨rfl, rfl⟩ := Prod.mk.inj (Option.some.inj hs)
      exact ih
    | some state =>
      have heq : logRuntimeStatistics s state = (s', o) := Option.some.inj hs
      obtain rfl : (logRuntimeStatistics s state).1 = s' := congrArg Prod.fst heq
      obtain rfl : (logRuntimeStatistics s state).2 = o := congrArg Prod.snd heq
      have hlines := ih.lines (logRuntimeStatistics s state).2
      rw [logRuntimeStatistics] at hlines ⊢
      dsimp only at hlines ⊢
      split_ifs at hlines ⊢
      · exact hlines
      · exact hlines

end Accumulated

end RuuviGateway.Board
