import RuuviGateway.AdvTable.Window

/-!
# Clearing the table against a fresh one

A cleared table keeps its hash table, so a tag that reports again is updated and not inserted: its
counter starts at one, whatever the report carries. Apart from these reports the further runs of the
cleared table and of a fresh one are related by their windows.
-/

namespace RuuviGateway.AdvTable

open General

variable {t s : Table} {history : List (Op × Outcome)} {ops : List Op}

/-- What the operations return, one after the other. -/
def results (t : Table) : List Op → List Result
  | [] => []
  | op :: ops => (op.apply t).2 :: results (op.apply t).1 ops

/-- A report of a tag that is only known from before the table was cleared brings its own count. -/
def Op.CountsFirst (t : Table) : Op → Prop
  | .put adv _ => t.stale adv.tagMac = true → adv.samplesCounter = 1
  | _ => True

def CountsFirst (t : Table) : List Op → Prop
  | [] => True
  | op :: ops => op.CountsFirst t ∧ CountsFirst (op.apply t).1 ops

section Stale

/-- No tag is left from before a clear: all hashed cells have a report. -/
def NoStale (t : Table) : Prop := ∀ e, t.isInHashTable e → ¬t.IsFree e

theorem noStale_init : NoStale advTableInit := by
  intro e he
  simp [advTableInit] at he

theorem NoStale.stale_eq (hn : NoStale t) (h : Invariant t) (mac : MacAddressBin) :
    t.stale mac = false := by
  unfold Table.stale
  cases hs : advHashTableSearch t mac with
  | none => rfl
  | some e =>
    have hin := ((h.search_eq_some_iff mac e).mp hs).1
    exact decide_eq_false (hn e hin)

theorem NoStale.put (hn : NoStale t) (h : Invariant t) {adv : AdvReport} (hadv : adv.dataLen ≠ 0) :
    NoStale (advTablePut t adv).1 := by
  rcases h.put_cases adv with ⟨t', hst, hput⟩ | ⟨e, -, -, hput⟩
  · rw [hput, advTableEnqueue_eq]
    intro x hx
    simp only [hst.isInHashTable, Table.IsFree, hst.advReport] at hx ⊢
    by_cases hxe : x = targetElem t adv
    · rw [hxe, Function.update_self]
      simpa using hadv
    · rw [Function.update_of_ne hxe] at hx ⊢
      exact hn x hx
  · rw [hput]
    intro x hx
    by_cases hxe : x = e
    · subst hxe
      simp only [Table.IsFree, Table.setAdvReport, Function.update_self]
      exact hn x hx
    · simp only [Table.IsFree, Table.setAdvReport, Function.update_of_ne hxe]
      exact hn x hx

theorem NoStale.apply (hn : NoStale t) (h : Invariant t) {op : Op} (hop : op ≠ .clear) :
    NoStale (op.apply t).1 := by
  cases op with
  | put adv hadv => exact hn.put h hadv
  | readAndClear k =>
    dsimp only [Op.apply]
    rw [h.readAndClear_eq]
    exact hn
  | readList3Head =>
    dsimp only [Op.apply]
    unfold advTableReadRetransmissionList3Head
    cases t.advReportsRetransmissionList .list3 with
    | nil => exact hn
    | cons e rest => exact hn
  | historyRead q => exact hn
  | statisticsRead =>
    dsimp only [Op.apply]
    rw [h.statisticsRead_eq]
    intro x hx
    simp only [Table.IsFree, Table.resetCounters]
    split_ifs
    · exact hn x hx
    · exact hn x hx
  | clear => exact absurd rfl hop

end Stale

section Simulation

/-- The table `s` has the same window as `t` and no tag from before a clear. -/
structure Mirrors (t s : Table) : Prop where
  left : Invariant t
  leftFreed : FreedCells t
  right : Invariant s
  rightFreed : FreedCells s
  noStale : NoStale s
  window : t.window = s.window

theorem mirrors_clear (h : Invariant t) : Mirrors (advTableClear t) advTableInit where
  left := h.apply .clear
  leftFreed := by
    rw [h.clear_eq]
    exact fun _ _ => rfl
  right := invariant_init
  rightFreed := freedCells_init
  noStale := noStale_init
  window := by
    rw [h.clear_eq]
    simp [Table.window, Table.liveElems, Table.cleared, AdvReport.freed, advTableInit,
      AdvReport.zero]

theorem Mirrors.apply_eq (hm : Mirrors t s) {op : Op} (hc : op.CountsFirst t) :
    ((op.apply t).1.window, (op.apply t).2) = ((op.apply s).1.window, (op.apply s).2) := by
  rw [hm.left.window_apply hm.leftFreed, hm.right.window_apply hm.rightFreed, ← hm.window]
  cases op with
  | put adv hadv =>
    have hfresh : Op.stale s (.put adv hadv) = false := hm.noStale.stale_eq hm.right _
    rw [hfresh]
    cases hstale : Op.stale t (.put adv hadv) with
    | false => rfl
    | true =>
      have hone : { adv with samplesCounter := 1 } = adv := by
        rw [← hc hstale]
      simp only [Window.apply, Window.put, hone, if_true, Bool.false_eq_true, if_false]
  | readAndClear k => rfl
  | readList3Head => rfl
  | historyRead q => rfl
  | statisticsRead => rfl
  | clear => rfl

theorem Mirrors.apply (hm : Mirrors t s) {op : Op} (hop : op ≠ .clear) (hc : op.CountsFirst t) :
    Mirrors (op.apply t).1 (op.apply s).1 where
  left := hm.left.apply op
  leftFreed := hm.leftFreed.apply hm.left op
  right := hm.right.apply op
  rightFreed := hm.rightFreed.apply hm.right op
  noStale := hm.noStale.apply hm.right hop
  window := (Prod.ext_iff.mp (hm.apply_eq hc)).1

theorem Mirrors.results_eq (hm : Mirrors t s) (hops : .clear ∉ ops) (hc : CountsFirst t ops) :
    results t ops = results s ops := by
  induction ops generalizing t s with
  | nil => rfl
  | cons op ops ih =>
    rw [List.mem_cons, not_or] at hops
    have hresult : (op.apply t).2 = (op.apply s).2 := (Prod.ext_iff.mp (hm.apply_eq hc.1)).2
    rw [results, results, hresult, ih (hm.apply (Ne.symm hops.1) hc.1) hops.2 hc.2]

/-- The history without a filter. -/
def readAll : HistoryQuery := ⟨0, false, 0, false⟩

theorem Invariant.historyRead_all (h : Invariant t) :
    advTableHistoryRead t readAll = t.window.reports := by
  rw [h.window_historyRead, Window.historyRead, List.takeWhile_eq_self_iff]
  intro r _
  simp [readAll, HistoryQuery.stopsAt]

/-- The history shows the counter of a report that was just inserted. -/
theorem Mirrors.countsFirst (hm : Mirrors t s) (op : Op)
    (hread : results t [op, .historyRead readAll] = results s [op, .historyRead readAll]) :
    op.CountsFirst t := by
  cases op with
  | put adv hadv =>
    intro hstale
    have hreports :
        (advTablePut t adv).1.window.reports = (advTablePut s adv).1.window.reports := by
      have ht := (hm.left.put adv hadv).historyRead_all
      have hs := (hm.right.put adv hadv).historyRead_all
      simp only [results, Op.apply, List.cons.injEq, Result.reports.injEq, and_true] at hread
      rw [← ht, ← hs]
      exact hread.2
    have hleft := congrArg Prod.fst (hm.left.window_put hm.leftFreed hadv)
    have hright := congrArg Prod.fst (hm.right.window_put hm.rightFreed hadv)
    have hnone : t.window.find adv.tagMac = none := by
      rw [hm.left.find_window]
      unfold Table.stale at hstale
      cases hs : advHashTableSearch t adv.tagMac with
      | none => rfl
      | some e =>
        rw [hs] at hstale
        have hfree : t.IsFree e := by simpa using hstale
        simp [hfree]
    simp only [hstale, Window.put, hnone, if_true] at hleft
    simp only [hm.noStale.stale_eq hm.right, Window.put, ← hm.window, hnone, Bool.false_eq_true,
      if_false] at hright
    rw [hleft, hright] at hreports
    have hhead := congrArg List.head? hreports
    simp only [Window.accept, touch, List.take_succ_cons, List.head?_cons,
      Option.some.injEq] at hhead
    rw [← hhead]
  | readAndClear k => trivial
  | readList3Head => trivial
  | historyRead q => trivial
  | statisticsRead => trivial
  | clear => trivial

theorem Mirrors.countsFirst_all (hm : Mirrors t s) (hops : .clear ∉ ops)
    (hsame : ∀ pre, pre <+: ops →
      results t (pre ++ [.historyRead readAll]) = results s (pre ++ [.historyRead readAll])) :
    CountsFirst t ops := by
  induction ops generalizing t s with
  | nil => exact trivial
  | cons op ops ih =>
    rw [List.mem_cons, not_or] at hops
    have hfirst : op.CountsFirst t := hm.countsFirst op (hsame [op] ⟨ops, rfl⟩)
    refine ⟨hfirst, ih (hm.apply (Ne.symm hops.1) hfirst) hops.2 ?_⟩
    intro pre hpre
    have hcons := hsame (op :: pre) (List.cons_prefix_cons.mpr ⟨rfl, hpre⟩)
    rw [List.cons_append, results, results, List.cons.injEq] at hcons
    exact hcons.2

end Simulation

/-- A cleared table is as good as a fresh one exactly for those operations whose reports of formerly
known tags bring their own count. Any other report is seen by a read right after it. -/
theorem advTableClear_fresh (hr : advTable.FreeRun history t) (hops : .clear ∉ ops) :
    (CountsFirst (advTableClear t) ops → results (advTableClear t) ops = results advTableInit ops) ∧
    (¬CountsFirst (advTableClear t) ops → ∃ pre, pre <+: ops ∧
      results (advTableClear t) (pre ++ [.historyRead readAll]) ≠
        results advTableInit (pre ++ [.historyRead readAll])) := by
  have hm := mirrors_clear (invariant_run hr)
  constructor
  · exact hm.results_eq hops
  · intro hcounts
    by_contra hsame
    apply hcounts
    apply hm.countsFirst_all hops
    intro pre hpre
    by_contra hdiff
    exact hsame ⟨pre, hpre, hdiff⟩

theorem advTableClear_fresh_sample :
    results (advTableClear ((samplePut 1).apply advTableInit).1)
        [samplePut 2, .readAndClear .list1] =
      results advTableInit [samplePut 2, .readAndClear .list1] := by
  have hrun : advTable.FreeRun _ ((samplePut 1).apply advTableInit).1 := .step .init trivial rfl
  refine (advTableClear_fresh hrun (by simp [samplePut])).1 ⟨?_, trivial, trivial⟩
  intro hstale
  revert hstale
  decide +kernel

/-- A tag that reports before and after the clear is counted after it, and not in a fresh table. -/
theorem advTableClear_not_fresh : ¬∀ (history : List (Op × Outcome)) (t : Table) (ops : List Op),
    advTable.FreeRun history t → .clear ∉ ops →
    results (advTableClear t) ops = results advTableInit ops := by
  intro hall
  have hrun : advTable.FreeRun _ ((samplePut 1).apply advTableInit).1 := .step .init trivial rfl
  have hsame := hall _ _ [samplePut 1, .statisticsRead] hrun (by simp [samplePut])
  revert hsame
  decide +kernel

end RuuviGateway.AdvTable
