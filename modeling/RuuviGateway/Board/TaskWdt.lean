import Mathlib.Data.List.Nodup
import RuuviGateway.General.Transition

/-!
# The task watchdog

The tasks subscribe to the watchdog and report to it. Its hardware timer starts again when all of
them have reported since it was fed. When the timer expires, the watchdog names the tasks that have
not, and the gateway restarts.
-/

namespace RuuviGateway.Board

open General

section TaskWdt

abbrev TaskHandle := ℕ

/-- The results of type `esp_err_t`. -/
inductive EspErr
  | ok
  | noMem
  | invalidArg
  | invalidState
  | notFound
  deriving DecidableEq, Repr

/-- `twdt_task_t`. -/
structure TwdtTask where
  taskHandle : TaskHandle
  hasReset : Bool
  deriving DecidableEq, Repr

/-- `twdt_config_t`. -/
structure TwdtConfig where
  list : List TwdtTask
  timeout : ℕ
  panic : Bool
  deriving DecidableEq, Repr

/-- The watchdog, the ticks of the hardware timer since it was fed, and whether the gateway has been
aborted. -/
structure TaskWdt where
  twdtConfig : Option TwdtConfig
  ticks : ℕ
  aborted : Bool
  deriving DecidableEq, Repr

/-- The ticks of 500 µs of the first stage. -/
def stageTicks (timeout : ℕ) : ℕ := timeout * 1000000 % 0x100000000 / 500

/-- Whether the task is there, and whether all other tasks have reset. -/
def findTaskInTwdtList (list : List TwdtTask) (handle : TaskHandle) : Bool × Bool :=
  (list.any fun task => task.taskHandle = handle,
    list.all fun task => task.taskHandle = handle ∨ task.hasReset)

def resetHwTimer (c : TwdtConfig) (w : TaskWdt) : TaskWdt :=
  { w with
    twdtConfig := some { c with list := c.list.map fun task => { task with hasReset := false } }
    ticks := 0 }

/-- `esp_task_wdt_init` the first time. -/
def espTaskWdtInit (timeout : ℕ) (panic : Bool) : TaskWdt := ⟨some ⟨[], timeout, panic⟩, 0, false⟩

variable (current : TaskHandle) (handle : Option TaskHandle) (w : TaskWdt)

/-- Without a handle it is the current task. -/
def espTaskWdtAdd (allocated : Bool) : EspErr × TaskWdt :=
  match w.twdtConfig with
  | none => (.invalidState, w)
  | some c =>
      let handle := handle.getD current
      let (found, allReset) := findTaskInTwdtList c.list handle
      if found then (.invalidArg, w)
      else if !allocated then (.noMem, w)
      else
        let c := { c with list := c.list ++ [⟨handle, true⟩] }
        (.ok, if allReset then resetHwTimer c w else { w with twdtConfig := some c })

def espTaskWdtReset : EspErr × TaskWdt :=
  match w.twdtConfig with
  | none => (.invalidState, w)
  | some c =>
      let (found, allReset) := findTaskInTwdtList c.list current
      if !found then (.notFound, w)
      else
        let c := { c with list := c.list.map fun task =>
          if task.taskHandle = current then { task with hasReset := true } else task }
        (.ok, if allReset then resetHwTimer c w else { w with twdtConfig := some c })

def espTaskWdtDelete : EspErr × TaskWdt :=
  match w.twdtConfig with
  | none => (.notFound, w)
  | some c =>
      let handle := handle.getD current
      let (found, allReset) := findTaskInTwdtList c.list handle
      if !found then (.invalidArg, w)
      else
        let c := { c with list := c.list.eraseP fun task => task.taskHandle = handle }
        (.ok, if allReset then resetHwTimer c w else { w with twdtConfig := some c })

/-- The interrupt when the timer has expired, and the tasks that it names. The timer is fed, and the
flags stay. -/
def taskWdtIsr (c : TwdtConfig) : List TaskHandle × TaskWdt :=
  if c.list = [] then ([], { w with ticks := 0 })
  else
    ((c.list.filter fun task => !task.hasReset).map TwdtTask.taskHandle,
      { w with ticks := 0, aborted := c.panic })

/-- A tick of the hardware timer, with the interrupt if it expires. -/
def hwTick : Option (List TaskHandle) × TaskWdt :=
  match w.twdtConfig with
  | none => (none, w)
  | some c =>
      if w.ticks + 1 < stageTicks c.timeout then (none, { w with ticks := w.ticks + 1 })
      else (if c.list = [] then none else some (taskWdtIsr w c).1, (taskWdtIsr w c).2)

end TaskWdt

section System

inductive WdtLabel
  | add (current : TaskHandle) (handle : Option TaskHandle) (allocated : Bool)
  | reset (current : TaskHandle)
  | delete (current : TaskHandle) (handle : Option TaskHandle)
  | tick
  deriving DecidableEq

/-- A call returns; a tick passes or ends in an interrupt that names the tasks. -/
inductive WdtOut
  | returned (err : EspErr)
  | passed
  | interrupted (names : List TaskHandle)
  deriving DecidableEq

/-- The watchdog from its start on, until it aborts. -/
def taskWdtSystem (timeout : ℕ) (panic : Bool) : System TaskWdt WdtLabel WdtOut where
  init := espTaskWdtInit timeout panic
  step w label :=
    if w.aborted then none
    else
      match label with
      | .add current handle allocated =>
          let (err, w) := espTaskWdtAdd current handle w allocated
          some (w, .returned err)
      | .reset current =>
          let (err, w) := espTaskWdtReset current w
          some (w, .returned err)
      | .delete current handle =>
          let (err, w) := espTaskWdtDelete current handle w
          some (w, .returned err)
      | .tick =>
          match hwTick w with
          | (none, w) => some (w, .passed)
          | (some names, w) => some (w, .interrupted names)

/-- The tasks that are subscribed. -/
def TaskWdt.handles (w : TaskWdt) : List TaskHandle :=
  match w.twdtConfig with
  | none => []
  | some c => c.list.map TwdtTask.taskHandle

/-- The ticks since the task has subscribed or reported. -/
def silentTicks (t : TaskHandle) : List (WdtLabel × WdtOut) → ℕ
  | [] => 0
  | (.tick, _) :: h => silentTicks t h + 1
  | (.add current handle _, .returned .ok) :: h =>
      if handle.getD current = t then 0 else silentTicks t h
  | (.reset current, .returned .ok) :: h => if current = t then 0 else silentTicks t h
  | _ :: h => silentTicks t h

end System

section Calls

variable (current : TaskHandle) (handle : Option TaskHandle) {w : TaskWdt} {c : TwdtConfig}

/-- A call that has changed the list: the timer is fed if all tasks have reset. -/
def settle (c : TwdtConfig) (w : TaskWdt) : TaskWdt :=
  if c.list.all TwdtTask.hasReset then resetHwTimer c w else { w with twdtConfig := some c }

theorem espTaskWdtAdd_cases (hc : w.twdtConfig = some c) (allocated : Bool) :
    (∃ err, err ≠ EspErr.ok ∧ espTaskWdtAdd current handle w allocated = (err, w)) ∨
      handle.getD current ∉ c.list.map TwdtTask.taskHandle ∧
        espTaskWdtAdd current handle w allocated =
          (.ok, settle { c with list := c.list ++ [⟨handle.getD current, true⟩] } w) := by
  by_cases hfound : handle.getD current ∈ c.list.map TwdtTask.taskHandle
  · left
    obtain ⟨task, htask, hhandle⟩ := List.mem_map.mp hfound
    refine ⟨.invalidArg, by simp, ?_⟩
    have hany : c.list.any (fun task => task.taskHandle = handle.getD current) = true :=
      List.any_eq_true.mpr ⟨task, htask, decide_eq_true hhandle⟩
    simp only [espTaskWdtAdd, hc, findTaskInTwdtList, hany, if_true]
  · have hnone : ∀ task ∈ c.list, task.taskHandle ≠ handle.getD current := fun task htask heq =>
      hfound (List.mem_map.mpr ⟨task, htask, heq⟩)
    have hany : c.list.any (fun task => task.taskHandle = handle.getD current) = false := by
      simpa using hnone
    have hall : c.list.all (fun task => task.taskHandle = handle.getD current ∨ task.hasReset) =
        (c.list ++ [TwdtTask.mk (handle.getD current) true]).all TwdtTask.hasReset := by
      rw [Bool.eq_iff_iff]
      simp only [List.all_append, List.all_cons, List.all_nil, Bool.and_true, List.all_eq_true,
        decide_eq_true_eq]
      exact ⟨fun h task htask => (h task htask).resolve_left (hnone task htask),
        fun h task htask => .inr (h task htask)⟩
    cases allocated with
    | false =>
      refine .inl ⟨.noMem, by simp, ?_⟩
      simp [espTaskWdtAdd, hc, findTaskInTwdtList, hany]
    | true =>
      refine .inr ⟨hfound, ?_⟩
      simp only [espTaskWdtAdd, hc, findTaskInTwdtList, hany, hall, settle]
      rfl

theorem espTaskWdtReset_cases (hc : w.twdtConfig = some c) :
    (∃ err, err ≠ EspErr.ok ∧ espTaskWdtReset current w = (err, w)) ∨
      espTaskWdtReset current w =
        (.ok, settle { c with list := c.list.map fun task =>
          if task.taskHandle = current then { task with hasReset := true } else task } w) := by
  cases hany : c.list.any (fun task => task.taskHandle = current) with
  | false =>
    refine .inl ⟨.notFound, by simp, ?_⟩
    simp only [espTaskWdtReset, hc, findTaskInTwdtList, hany]
    rfl
  | true =>
    right
    have hall : c.list.all (fun task => task.taskHandle = current ∨ task.hasReset) =
        (c.list.map fun task => if task.taskHandle = current then { task with hasReset := true }
          else task).all TwdtTask.hasReset := by
      rw [List.all_map]
      refine List.all_congr rfl fun task => ?_
      by_cases heq : task.taskHandle = current <;> simp [heq]
    simp only [espTaskWdtReset, hc, findTaskInTwdtList, hany, hall, settle]
    rfl

/-- Of tasks with different handles just this one is left out. -/
theorem mem_eraseP_handle {list : List TwdtTask} (hdistinct : (list.map TwdtTask.taskHandle).Nodup)
    (t : TaskHandle) (task : TwdtTask) :
    task ∈ (list.eraseP fun task => task.taskHandle = t) ↔ task ∈ list ∧ task.taskHandle ≠ t := by
  induction list with
  | nil => simp
  | cons first list ih =>
    rw [List.map_cons, List.nodup_cons] at hdistinct
    by_cases hfirst : first.taskHandle = t
    · have hother : ∀ task ∈ list, task.taskHandle ≠ t := fun task htask heq =>
        hdistinct.1 (List.mem_map.mpr ⟨task, htask, heq.trans hfirst.symm⟩)
      rw [List.eraseP_cons_of_pos (by simpa using hfirst), List.mem_cons]
      constructor
      · exact fun htask => ⟨.inr htask, hother task htask⟩
      · rintro ⟨rfl | htask, hne⟩
        · exact absurd hfirst hne
        · exact htask
    · rw [List.eraseP_cons_of_neg (by simpa using hfirst), List.mem_cons, List.mem_cons,
        ih hdistinct.2]
      constructor
      · rintro (rfl | ⟨htask, hne⟩)
        · exact ⟨.inl rfl, hfirst⟩
        · exact ⟨.inr htask, hne⟩
      · rintro ⟨rfl | htask, hne⟩
        · exact .inl rfl
        · exact .inr ⟨htask, hne⟩

theorem espTaskWdtDelete_cases (hc : w.twdtConfig = some c)
    (hdistinct : (c.list.map TwdtTask.taskHandle).Nodup) :
    (∃ err, err ≠ EspErr.ok ∧ espTaskWdtDelete current handle w = (err, w)) ∨
      espTaskWdtDelete current handle w = (.ok, settle { c with
        list := c.list.eraseP fun task => task.taskHandle = handle.getD current } w) := by
  cases hany : c.list.any (fun task => task.taskHandle = handle.getD current) with
  | false =>
    refine .inl ⟨.invalidArg, by simp, ?_⟩
    simp only [espTaskWdtDelete, hc, findTaskInTwdtList, hany]
    rfl
  | true =>
    right
    have hall : c.list.all (fun task => task.taskHandle = handle.getD current ∨ task.hasReset) =
        (c.list.eraseP fun task => task.taskHandle = handle.getD current).all
          TwdtTask.hasReset := by
      rw [Bool.eq_iff_iff]
      simp only [List.all_eq_true, decide_eq_true_eq, mem_eraseP_handle hdistinct]
      exact ⟨fun h task htask => (h task htask.1).resolve_left htask.2, fun h task htask =>
        or_iff_not_imp_left.mpr fun hne => h task ⟨htask, hne⟩⟩
    simp only [espTaskWdtDelete, hc, findTaskInTwdtList, hany, hall, settle]
    rfl

end Calls

section Invariant

variable {n : ℕ} {h : List (WdtLabel × WdtOut)} {w : TaskWdt} {c c' : TwdtConfig} {ticks : ℕ}
  {e : WdtLabel × WdtOut}

/-- What the flags tell: a task that has not reset has been silent since the timer was fed. If the
gateway is aborted by the interrupt, no task has been silent for two rounds of the timer. -/
structure Watched (n : ℕ) (h : List (WdtLabel × WdtOut)) (c : TwdtConfig) (ticks : ℕ) : Prop where
  distinct : (c.list.map TwdtTask.taskHandle).Nodup
  ticks_lt : ticks < n
  silent : ∀ task ∈ c.list, task.hasReset = false → ticks ≤ silentTicks task.taskHandle h
  heard : c.panic = true → ∀ task ∈ c.list, silentTicks task.taskHandle h < n + ticks ∧
    (task.hasReset = true → silentTicks task.taskHandle h ≤ ticks)

/-- There is a task to wait for. -/
def TwdtConfig.Waiting (c : TwdtConfig) : Prop :=
  c.list ≠ [] → ∃ task ∈ c.list, task.hasReset = false

/-- The invariant of the watchdog until it aborts. -/
def Guarding (timeout : ℕ) (panic : Bool) (h : List (WdtLabel × WdtOut)) (w : TaskWdt) : Prop :=
  ∃ c, w.twdtConfig = some c ∧ c.timeout = timeout ∧ c.panic = panic ∧
    Watched (stageTicks timeout) h c w.ticks ∧ c.Waiting

theorem Watched.resetHwTimer (hw : Watched n h c ticks)
    (hall : ∀ task ∈ c.list, task.hasReset = true) :
    Watched n h { c with list := c.list.map fun task => { task with hasReset := false } } 0 where
  distinct := by
    rw [List.map_map]
    exact hw.distinct
  ticks_lt := Nat.lt_of_le_of_lt (Nat.zero_le _) hw.ticks_lt
  silent _ _ _ := Nat.zero_le _
  heard hpanic task htask := by
    obtain ⟨task, hmem, rfl⟩ := List.mem_map.mp htask
    have hle := (hw.heard hpanic task hmem).2 (hall task hmem)
    have hlt := hw.ticks_lt
    exact ⟨by dsimp only; omega, fun hfalse => absurd hfalse Bool.false_ne_true⟩

theorem guarding_settle {timeout : ℕ} (hw : Watched (stageTicks timeout) h c w.ticks)
    (htimeout : c.timeout = timeout) : Guarding timeout c.panic h (settle c w) := by
  rw [settle]
  split_ifs with hall
  · rw [List.all_eq_true] at hall
    refine ⟨_, rfl, htimeout, rfl, hw.resetHwTimer hall, fun hne => ?_⟩
    obtain ⟨task, htask⟩ := List.exists_mem_of_ne_nil _ hne
    obtain ⟨task, hmem, rfl⟩ := List.mem_map.mp htask
    exact ⟨_, htask, rfl⟩
  · refine ⟨c, rfl, htimeout, rfl, hw, fun _ => ?_⟩
    simpa using hall

theorem Watched.of_silentTicks (hw : Watched n h c ticks)
    (hsame : ∀ t, silentTicks t (e :: h) = silentTicks t h) : Watched n (e :: h) c ticks where
  distinct := hw.distinct
  ticks_lt := hw.ticks_lt
  silent task htask hreset := by
    rw [hsame]
    exact hw.silent task htask hreset
  heard hpanic task htask := by
    rw [hsame]
    exact hw.heard hpanic task htask

theorem Watched.add {current t : TaskHandle} {handle : Option TaskHandle} {allocated : Bool}
    (hw : Watched n h c ticks) (ht : handle.getD current = t)
    (hnew : t ∉ c.list.map TwdtTask.taskHandle) :
    Watched n ((.add current handle allocated, .returned .ok) :: h)
      { c with list := c.list ++ [⟨t, true⟩] } ticks := by
  have hold : ∀ task ∈ c.list, silentTicks task.taskHandle
      ((.add current handle allocated, .returned .ok) :: h) = silentTicks task.taskHandle h := by
    intro task htask
    have hne : t ≠ task.taskHandle := fun heq => hnew (List.mem_map.mpr ⟨task, htask, heq.symm⟩)
    rw [silentTicks, ht, if_neg hne]
  have hself : silentTicks t ((.add current handle allocated, .returned .ok) :: h) = 0 := by
    rw [silentTicks, ht, if_pos rfl]
  constructor
  · rw [List.map_append, List.nodup_append]
    refine ⟨hw.distinct, List.nodup_singleton _, ?_⟩
    intro a ha b hb heq
    rw [List.map_singleton, List.mem_singleton] at hb
    rw [heq, hb] at ha
    exact hnew ha
  · exact hw.ticks_lt
  · intro task htask hreset
    rcases List.mem_append.mp htask with htask | htask
    · rw [hold task htask]
      exact hw.silent task htask hreset
    · rw [List.mem_singleton.mp htask] at hreset
      exact absurd hreset.symm Bool.false_ne_true
  · intro hpanic task htask
    rcases List.mem_append.mp htask with htask | htask
    · rw [hold task htask]
      exact hw.heard hpanic task htask
    · rw [List.mem_singleton.mp htask]
      have hlt := hw.ticks_lt
      dsimp only
      rw [hself]
      omega

theorem Watched.reset {current : TaskHandle} (hw : Watched n h c ticks) :
    Watched n ((.reset current, .returned .ok) :: h)
      { c with list := c.list.map fun task =>
        if task.taskHandle = current then { task with hasReset := true } else task } ticks := by
  have hlt := hw.ticks_lt
  have hhandle : (TwdtTask.taskHandle ∘ fun task : TwdtTask =>
      if task.taskHandle = current then { task with hasReset := true } else task) =
        TwdtTask.taskHandle := by
    funext task
    dsimp only [Function.comp]
    split_ifs <;> rfl
  constructor
  · rw [List.map_map, hhandle]
    exact hw.distinct
  · exact hlt
  · intro task htask hreset
    obtain ⟨task, hmem, rfl⟩ := List.mem_map.mp htask
    by_cases heq : task.taskHandle = current
    · rw [if_pos heq] at hreset
      exact absurd hreset.symm Bool.false_ne_true
    · rw [if_neg heq] at hreset ⊢
      rw [silentTicks, if_neg fun h => heq h.symm]
      exact hw.silent task hmem hreset
  · intro hpanic task htask
    obtain ⟨task, hmem, rfl⟩ := List.mem_map.mp htask
    by_cases heq : task.taskHandle = current
    · rw [if_pos heq]
      dsimp only
      rw [silentTicks, if_pos heq.symm]
      omega
    · rw [if_neg heq, silentTicks, if_neg fun h => heq h.symm]
      exact hw.heard hpanic task hmem

theorem Watched.delete {current t : TaskHandle} {handle : Option TaskHandle}
    (hw : Watched n h c ticks) :
    Watched n ((.delete current handle, .returned .ok) :: h)
      { c with list := c.list.eraseP fun task => task.taskHandle = t } ticks where
  distinct := hw.distinct.sublist (List.eraseP_sublist.map _)
  ticks_lt := hw.ticks_lt
  silent task htask := hw.silent task (List.mem_of_mem_eraseP htask)
  heard hpanic task htask := hw.heard hpanic task (List.mem_of_mem_eraseP htask)

theorem Watched.tick (hw : Watched n h c ticks) (hlt : ticks + 1 < n) (out : WdtOut) :
    Watched n ((.tick, out) :: h) c (ticks + 1) where
  distinct := hw.distinct
  ticks_lt := hlt
  silent task htask hreset := by
    rw [silentTicks]
    exact Nat.succ_le_succ (hw.silent task htask hreset)
  heard hpanic task htask := by
    obtain ⟨hround, hreset⟩ := hw.heard hpanic task htask
    rw [silentTicks]
    exact ⟨by omega, fun h => Nat.succ_le_succ (hreset h)⟩

end Invariant

section Run

variable {timeout : ℕ} {panic : Bool} {h : List (WdtLabel × WdtOut)} {w w' : TaskWdt}
  {label : WdtLabel} {out : WdtOut}

/-- The named tasks have been silent since the timer was fed, and there is one. -/
def Blames (timeout : ℕ) (h : List (WdtLabel × WdtOut)) (w : TaskWdt) (names : List TaskHandle) :
    Prop :=
  names ≠ [] ∧ ∀ t ∈ names, t ∈ w.handles ∧ stageTicks timeout ≤ silentTicks t h

/-- A call that has failed changes nothing. -/
theorem Guarding.failed {err : EspErr} (hg : Guarding timeout panic h w) (herr : err ≠ .ok)
    (hlabel : label ≠ .tick) : Guarding timeout panic ((label, .returned err) :: h) w := by
  obtain ⟨c, hc, htimeout, hpanic, hw, hwaiting⟩ := hg
  refine ⟨c, hc, htimeout, hpanic, hw.of_silentTicks fun t => ?_, hwaiting⟩
  cases label with
  | tick => exact absurd rfl hlabel
  | add current handle allocated => cases err <;> first | rfl | exact absurd rfl herr
  | reset current => cases err <;> first | rfl | exact absurd rfl herr
  | delete current handle => rfl

theorem guarding_add {current : TaskHandle} {handle : Option TaskHandle} {allocated : Bool}
    (hg : Guarding timeout panic h w) :
    Guarding timeout panic ((.add current handle allocated,
        .returned (espTaskWdtAdd current handle w allocated).1) :: h)
      (espTaskWdtAdd current handle w allocated).2 := by
  have hg' := hg
  obtain ⟨c, hc, htimeout, hpanic, hw, -⟩ := hg
  rcases espTaskWdtAdd_cases current handle hc allocated with
    ⟨err, herr, heq⟩ | ⟨hnew, heq⟩
  · rw [heq]
    exact hg'.failed herr (by simp)
  · rw [heq, ← hpanic]
    exact guarding_settle (hw.add rfl hnew) htimeout

theorem guarding_reset {current : TaskHandle} (hg : Guarding timeout panic h w) :
    Guarding timeout panic ((.reset current, .returned (espTaskWdtReset current w).1) :: h)
      (espTaskWdtReset current w).2 := by
  have hg' := hg
  obtain ⟨c, hc, htimeout, hpanic, hw, -⟩ := hg
  rcases espTaskWdtReset_cases current hc with ⟨err, herr, heq⟩ | heq
  · rw [heq]
    exact hg'.failed herr (by simp)
  · rw [heq, ← hpanic]
    exact guarding_settle hw.reset htimeout

theorem guarding_delete {current : TaskHandle} {handle : Option TaskHandle}
    (hg : Guarding timeout panic h w) :
    Guarding timeout panic ((.delete current handle,
        .returned (espTaskWdtDelete current handle w).1) :: h)
      (espTaskWdtDelete current handle w).2 := by
  have hg' := hg
  obtain ⟨c, hc, htimeout, hpanic, hw, -⟩ := hg
  rcases espTaskWdtDelete_cases current handle hc hw.distinct with
    ⟨err, herr, heq⟩ | heq
  · rw [heq]
    exact hg'.failed herr (by simp)
  · rw [heq, ← hpanic]
    exact guarding_settle hw.delete htimeout

/-- The timer goes on, or it expires: then it blames a task, if there is one. -/
theorem guarding_tick (hg : Guarding timeout panic h w) :
    (∃ w', hwTick w = (none, w') ∧ Guarding timeout panic ((.tick, .passed) :: h) w') ∨
      ∃ names w', hwTick w = (some names, w') ∧ w'.aborted = panic ∧
        Blames timeout ((.tick, .interrupted names) :: h) w' names ∧
        (panic = false → Guarding timeout panic ((.tick, .interrupted names) :: h) w') := by
  obtain ⟨c, hc, rfl, rfl, hw, hwaiting⟩ := hg
  have hpos : 0 < stageTicks c.timeout := Nat.lt_of_le_of_lt (Nat.zero_le _) hw.ticks_lt
  simp only [hwTick, hc]
  by_cases hlt : w.ticks + 1 < stageTicks c.timeout
  · rw [if_pos hlt]
    exact .inl ⟨_, rfl, c, rfl, rfl, rfl, hw.tick hlt _, hwaiting⟩
  rw [if_neg hlt, taskWdtIsr]
  by_cases hnil : c.list = []
  · rw [if_pos hnil, if_pos hnil]
    refine .inl ⟨_, rfl, c, hc, rfl, rfl, ⟨hw.distinct, hpos, ?_, ?_⟩, hwaiting⟩
    · exact fun _ _ _ => Nat.zero_le _
    · intro _ task htask
      rw [hnil] at htask
      exact absurd htask List.not_mem_nil
  rw [if_neg hnil, if_neg hnil]
  refine .inr ⟨_, _, rfl, rfl, ⟨?_, ?_⟩, ?_⟩
  · obtain ⟨task, htask, hreset⟩ := hwaiting hnil
    exact List.ne_nil_of_mem (List.mem_map_of_mem
      (List.mem_filter.mpr ⟨htask, by rw [hreset]; rfl⟩))
  · intro t ht
    obtain ⟨task, htask, rfl⟩ := List.mem_map.mp ht
    obtain ⟨hmem, hreset⟩ := List.mem_filter.mp htask
    constructor
    · simp only [TaskWdt.handles, hc]
      exact List.mem_map_of_mem hmem
    · have hsilent := hw.silent task hmem (by simpa using hreset)
      rw [silentTicks]
      omega
  · intro hpanic
    refine ⟨c, hc, rfl, rfl, ⟨hw.distinct, hpos, fun _ _ _ => Nat.zero_le _, ?_⟩, hwaiting⟩
    intro htrue
    rw [hpanic] at htrue
    exact absurd htrue Bool.false_ne_true

theorem guarding_init (hpos : 0 < stageTicks timeout) :
    Guarding timeout panic [] (espTaskWdtInit timeout panic) :=
  ⟨_, rfl, rfl, rfl, ⟨List.nodup_nil, hpos, by simp, by simp⟩, fun hne => absurd rfl hne⟩

theorem guarding_step (hg : Guarding timeout panic h w) (halive : w.aborted = false)
    (hs : (taskWdtSystem timeout panic).step w label = some (w', out)) :
    (w'.aborted = false → Guarding timeout panic ((label, out) :: h) w') ∧
      ∀ names, out = .interrupted names → Blames timeout ((label, out) :: h) w' names := by
  simp only [taskWdtSystem, halive, Bool.false_eq_true, if_false] at hs
  cases label with
  | add current handle allocated =>
    obtain rfl := congrArg Prod.fst (Option.some.inj hs)
    obtain rfl := congrArg Prod.snd (Option.some.inj hs)
    exact ⟨fun _ => guarding_add hg, fun names hout => WdtOut.noConfusion hout⟩
  | reset current =>
    obtain rfl := congrArg Prod.fst (Option.some.inj hs)
    obtain rfl := congrArg Prod.snd (Option.some.inj hs)
    exact ⟨fun _ => guarding_reset hg, fun names hout => WdtOut.noConfusion hout⟩
  | delete current handle =>
    obtain rfl := congrArg Prod.fst (Option.some.inj hs)
    obtain rfl := congrArg Prod.snd (Option.some.inj hs)
    exact ⟨fun _ => guarding_delete hg, fun names hout => WdtOut.noConfusion hout⟩
  | tick =>
    rcases guarding_tick hg with ⟨w₁, htick, hg'⟩ | ⟨names, w₁, htick, habort, hblames, hg'⟩
    · simp only [htick, Option.some.injEq, Prod.mk.injEq] at hs
      obtain ⟨rfl, rfl⟩ := hs
      exact ⟨fun _ => hg', fun names hout => WdtOut.noConfusion hout⟩
    · simp only [htick, Option.some.injEq, Prod.mk.injEq] at hs
      obtain ⟨rfl, rfl⟩ := hs
      refine ⟨fun halive' => hg' (habort ▸ halive'), fun names' hout => ?_⟩
      cases hout
      exact hblames

/-- The watchdog names tasks that have been silent for its time, and never none; a gateway that it
aborts does not run on with a task that has been silent for twice that time. -/
theorem watchdog_run (hpos : 0 < stageTicks timeout)
    (hr : (taskWdtSystem timeout panic).FreeRun h w) :
    (∀ names h₁, h = (.tick, .interrupted names) :: h₁ → Blames timeout h w names) ∧
      (panic = true → w.aborted = false →
        ∀ t ∈ w.handles, silentTicks t h < 2 * stageTicks timeout) := by
  have hinv : (w.aborted = false → Guarding timeout panic h w) ∧
      ∀ names h₁, h = (.tick, .interrupted names) :: h₁ → Blames timeout h w names := by
    induction hr with
    | init => exact ⟨fun _ => guarding_init hpos, by simp⟩
    | @step h w label w' out _ _ hs ih =>
      have halive : w.aborted = false := by
        by_contra haborted
        simp [taskWdtSystem, haborted] at hs
      obtain ⟨hg, hblames⟩ := guarding_step (ih.1 halive) halive hs
      refine ⟨hg, fun names h₁ heq => ?_⟩
      cases heq
      exact hblames names rfl
  refine ⟨hinv.2, fun hpanic halive t ht => ?_⟩
  obtain ⟨c, hc, -, hpanic', hw, -⟩ := hinv.1 halive
  simp only [TaskWdt.handles, hc] at ht
  obtain ⟨task, htask, rfl⟩ := List.mem_map.mp ht
  have hround := ((hw.heard (hpanic'.trans hpanic)) task htask).1
  have hlt := hw.ticks_lt
  omega

theorem step_passed {c : TwdtConfig} (halive : w.aborted = false) (hc : w.twdtConfig = some c)
    (hlt : w.ticks + 1 < stageTicks c.timeout) : (taskWdtSystem timeout panic).step w .tick =
      some ({ w with ticks := w.ticks + 1 }, .passed) := by
  have htick : hwTick w = (none, { w with ticks := w.ticks + 1 }) := by
    simp only [hwTick, hc, if_pos hlt]
  simp only [taskWdtSystem, halive, Bool.false_eq_true, if_false, htick]

theorem run_ticks {c : TwdtConfig} (hr : (taskWdtSystem timeout panic).FreeRun h w)
    (halive : w.aborted = false) (hc : w.twdtConfig = some c) (k : ℕ)
    (hk : w.ticks + k < stageTicks c.timeout) :
    (taskWdtSystem timeout panic).FreeRun (List.replicate k (.tick, .passed) ++ h)
      { w with ticks := w.ticks + k } := by
  induction k with
  | zero => exact hr
  | succ k ih => exact .step (ih (by omega)) trivial (step_passed halive hc hk)

/-- Two tasks subscribe, and one of them reports. -/
def sampleHistory : List (WdtLabel × WdtOut) :=
  [(.reset 1, .returned .ok), (.reset 1, .returned .ok), (.add 2 none true, .returned .ok),
    (.add 1 none true, .returned .ok)]

def sampleConfig : TwdtConfig := ⟨[⟨1, true⟩, ⟨2, false⟩], 1, true⟩

theorem run_sampleHistory : (taskWdtSystem 1 true).FreeRun sampleHistory
    ⟨some sampleConfig, 0, false⟩ :=
  .step (.step (.step (.step .init trivial rfl) trivial rfl) trivial rfl) trivial rfl

theorem run_expired : (taskWdtSystem 1 true).FreeRun
    ((.tick, .interrupted [2]) :: (List.replicate 1999 (.tick, .passed) ++ sampleHistory))
    ⟨some sampleConfig, 0, true⟩ := by
  refine .step (run_ticks run_sampleHistory rfl rfl 1999 (by decide)) trivial ?_
  have hround : ¬0 + 1999 + 1 < stageTicks sampleConfig.timeout := by decide
  simp only [taskWdtSystem, hwTick, if_neg hround]
  rfl

/-- The other one is named after a second. -/
theorem watchdog_run_sample : ∃ h w, (taskWdtSystem 1 true).FreeRun h w ∧
    h.head? = some (.tick, .interrupted [2]) ∧ stageTicks 1 ≤ silentTicks 2 h := by
  obtain ⟨-, hsilent⟩ := (watchdog_run (by decide) run_expired).1 [2] _ rfl
  exact ⟨_, _, run_expired, rfl, (hsilent 2 List.mem_cons_self).2⟩

end Run

end RuuviGateway.Board
