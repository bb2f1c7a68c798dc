import RuuviGateway.AdvTable.Delivery
import RuuviGateway.AdvTable.Window

/-!
# The history is a filter over a recency list

The accepted reports are read off the history of operations, the most recent one of each tag
first. After every run the window holds the first hundred of them. A history read stops at the
first report that fails its test, which finds all others if the timestamps are in order.
-/

namespace RuuviGateway.AdvTable

open General General.IntrusiveList

variable {t : Table} {history : List Event} {q : HistoryQuery}

section Accepted

/-- The latest accepted report of each tag since the table was last cleared, newest first. -/
def recent : List Event → List AdvReport
  | [] => []
  | (.put adv _, o) :: earlier =>
      if o.result = .updated true then touch AdvReport.tagMac adv (recent earlier)
      else recent earlier
  | (.clear, _) :: _ => []
  | _ :: earlier => recent earlier

/-- The timestamps of all puts, newest first. -/
def putTimestamps : List Event → List UInt32
  | [] => []
  | (.put adv _, _) :: earlier => adv.timestamp :: putTimestamps earlier
  | _ :: earlier => putTimestamps earlier

theorem nodup_recent (history : List Event) : ((recent history).map AdvReport.tagMac).Nodup := by
  induction history with
  | nil => exact List.nodup_nil
  | cons event earlier ih =>
    obtain ⟨op, o⟩ := event
    cases op with
    | put adv hadv =>
      unfold recent
      split_ifs
      · exact nodup_touch ih
      · exact ih
    | clear => exact List.nodup_nil
    | readAndClear k => exact ih
    | readList3Head => exact ih
    | historyRead q => exact ih
    | statisticsRead => exact ih

theorem recent_sublist (history : List Event) :
    ((recent history).map AdvReport.timestamp).Sublist (putTimestamps history) := by
  induction history with
  | nil => exact List.Sublist.refl _
  | cons event earlier ih =>
    obtain ⟨op, o⟩ := event
    cases op with
    | put adv hadv =>
      unfold recent putTimestamps
      split_ifs
      · rw [touch, List.map_cons]
        exact ((List.filter_sublist.map _).trans ih).cons_cons _
      · exact ih.cons _
    | clear => exact List.nil_sublist _
    | readAndClear k => exact ih
    | readList3Head => exact ih
    | historyRead q => exact ih
    | statisticsRead => exact ih

end Accepted

section Contents

/-- A report apart from its number of samples. -/
def AdvReport.uncounted (r : AdvReport) : AdvReport := { r with samplesCounter := 0 }

/-- The window holds the latest hundred accepted reports. -/
def Holds (w : Window) (history : List Event) : Prop :=
  w.reports.map AdvReport.uncounted =
    ((recent history).take maxAdvsTable).map AdvReport.uncounted

theorem Holds.accept {w : Window} {adv r : AdvReport} (h : Holds w history)
    (hr : r.uncounted = adv.uncounted) :
    (w.accept r).reports.map AdvReport.uncounted =
      ((touch AdvReport.tagMac adv (recent history)).take maxAdvsTable).map
        AdvReport.uncounted := by
  have hmac (y : AdvReport) : y.uncounted.tagMac = y.tagMac := rfl
  rw [Window.accept, take_touch (nodup_recent history), List.map_take, List.map_take,
    map_touch hmac, map_touch hmac, hr, h]

/-- What a put does to a window, apart from the number of samples. -/
theorem put_cases (w : Window) (stale : Bool) (adv : AdvReport) :
    (∃ r, r.uncounted = adv.uncounted ∧ w.put stale adv = (w.accept r, true)) ∨
    ((w.put stale adv).2 = false ∧
      (w.put stale adv).1.reports.map AdvReport.uncounted = w.reports.map AdvReport.uncounted) := by
  unfold Window.put
  split
  case h_1 =>
    left
    split_ifs
    · exact ⟨{ adv with samplesCounter := 1 }, rfl, rfl⟩
    · exact ⟨adv, rfl, rfl⟩
  case h_2 prev _ =>
    split_ifs
    · right
      refine ⟨rfl, ?_⟩
      rw [List.map_map]
      apply List.map_congr_left
      intro r _
      rw [Function.comp_apply]
      split_ifs <;> rfl
    · left
      exact ⟨{ adv with samplesCounter := prev.samplesCounter + 1 }, rfl, rfl⟩

theorem reports_resetCounters (w : Window) :
    w.resetCounters.reports.map AdvReport.uncounted = w.reports.map AdvReport.uncounted := by
  rw [Window.resetCounters, List.map_append, List.map_map]
  conv_rhs => rw [← List.takeWhile_append_dropWhile
    (p := fun r : AdvReport => decide (r.timestamp ≠ 0))
    (l := w.reports), List.map_append]
  rfl

theorem Holds.apply {w : Window} (h : Holds w history) (stale : Bool) (op : Op)
    (recycled : Option MacAddressBin) (dropped : Option Elem) :
    Holds (w.apply stale op).1 ((op, ⟨(w.apply stale op).2, recycled, dropped⟩) :: history) := by
  cases op with
  | put adv hadv =>
    rcases put_cases w stale adv with ⟨r, hr, hput⟩ | ⟨hkept, hreports⟩
    · have hresult : w.apply stale (.put adv hadv) = (w.accept r, .updated true) := by
        simp only [Window.apply, hput]
      rw [hresult]
      exact h.accept hr
    · have hresult : w.apply stale (.put adv hadv) = ((w.put stale adv).1, .updated false) := by
        simp only [Window.apply, hkept]
      rw [hresult]
      exact hreports.trans h
  | readAndClear k => exact h
  | readList3Head => exact h
  | historyRead q => exact h
  | statisticsRead => exact (reports_resetCounters w).trans h
  | clear => rfl

theorem window_init : advTableInit.window = Window.empty := by
  simp [Table.window, Window.empty, Table.liveElems, advTableInit, AdvReport.zero]

theorem holds_run (hr : advTable.FreeRun history t) :
    Invariant t ∧ FreedCells t ∧ Holds t.window history := by
  refine hr.historyInvariant
    (I := fun history t => Invariant t ∧ FreedCells t ∧ Holds t.window history)
    ⟨invariant_init, freedCells_init,
      congrArg (List.map _) (congrArg Window.reports window_init)⟩ ?_
  rintro history s op s' o ⟨h, hf, hholds⟩ _ hstep
  simp only [advTable, Option.some.injEq, Prod.mk.injEq] at hstep
  obtain ⟨rfl, rfl⟩ := hstep
  have happly := h.window_apply hf op
  rw [Prod.ext_iff] at happly
  refine ⟨h.apply op, hf.apply h op, ?_⟩
  have hkept := hholds.apply (op.stale s) op (op.recycled s) (op.dropped s)
  rw [← happly.1, ← happly.2] at hkept
  exact hkept

end Contents

section Filter

/-- The reports that a history read asks for. In counter mode the difference to the filter counts,
modulo 2^32. -/
def HistoryQuery.passes (q : HistoryQuery) (r : AdvReport) : Bool :=
  !q.flagUseFilter ||
    if q.flagUseTimestamps then decide (q.curTime.toNat - r.timestamp.toNat ≤ q.filter.toNat)
    else decide (0 < (r.timestamp - q.filter).toInt32)

/-- The timestamps, newest first, are in order: they do not decrease and the current time is not
before them, or as counters they do not fall behind around the filter. -/
def HistoryQuery.Ordered (q : HistoryQuery) (stamps : List UInt32) : Prop :=
  if q.flagUseTimestamps then
    stamps.Pairwise (fun newer older => older ≤ newer) ∧ ∀ s ∈ stamps, s ≤ q.curTime
  else
    stamps.Pairwise fun newer older => (older - q.filter).toInt32 ≤ (newer - q.filter).toInt32

theorem HistoryQuery.Ordered.sublist {stamps stamps' : List UInt32} (h : q.Ordered stamps)
    (hsub : stamps'.Sublist stamps) : q.Ordered stamps' := by
  unfold HistoryQuery.Ordered at h ⊢
  split_ifs at h ⊢ with hmode
  · exact ⟨h.1.sublist hsub, fun s hs => h.2 s (hsub.subset hs)⟩
  · exact h.sublist hsub

theorem HistoryQuery.stopsAt_eq {r : AdvReport} (h : q.flagUseFilter = true →
    q.flagUseTimestamps = true → r.timestamp ≤ q.curTime) : (!q.stopsAt r) = q.passes r := by
  unfold HistoryQuery.stopsAt HistoryQuery.passes
  cases hfilter : q.flagUseFilter
  · simp
  · cases hmode : q.flagUseTimestamps
    · simp only [Bool.true_and, Bool.not_true, Bool.false_or, Bool.false_eq_true, if_false]
      rw [← decide_not, decide_eq_decide, Int32.not_le]
    · have hle := h hfilter hmode
      have hsub : (q.curTime - r.timestamp).toNat = q.curTime.toNat - r.timestamp.toNat :=
        UInt32.toNat_sub_of_le _ _ hle
      simp only [Bool.true_and, Bool.not_true, Bool.false_or, if_true]
      rw [← decide_not, decide_eq_decide, gt_iff_lt, UInt32.lt_iff_toNat_lt, hsub]
      omega

theorem HistoryQuery.Ordered.formSuffix {reports : List AdvReport}
    (h : q.flagUseFilter = true → q.Ordered (reports.map AdvReport.timestamp)) :
    FormSuffix (fun r => ¬q.passes r) reports := by
  unfold FormSuffix HistoryQuery.passes
  cases hfilter : q.flagUseFilter
  · exact List.pairwise_of_forall fun _ _ hfail => absurd rfl hfail
  · have hordered := h hfilter
    unfold HistoryQuery.Ordered at hordered
    cases hmode : q.flagUseTimestamps
    · rw [hmode, if_neg (by simp), List.pairwise_map] at hordered
      refine hordered.imp ?_
      intro newer older hle hfail
      simp only [Bool.not_true, Bool.false_or, Bool.false_eq_true, if_false, decide_eq_true_eq,
        Int32.not_lt] at hfail ⊢
      exact Int32.le_trans hle hfail
    · rw [hmode, if_pos rfl, List.pairwise_map] at hordered
      refine hordered.1.imp ?_
      intro newer older hle hfail
      simp only [Bool.not_true, Bool.false_or, if_true, decide_eq_true_eq, not_le] at hfail ⊢
      have hnat : older.timestamp.toNat ≤ newer.timestamp.toNat := hle
      omega

end Filter

section Reading

/-- The tag that a new one displaces from a full table. -/
theorem Invariant.recycledBy_full (h : Invariant t) {adv : AdvReport}
    (hfull : t.window.reports.length = maxAdvsTable)
    (hnew : adv.tagMac ∉ t.window.reports.map AdvReport.tagMac) :
    recycledBy t adv = t.window.reports.getLast?.map AdvReport.tagMac := by
  have hall (x : Elem) : ¬t.IsFree x := by
    intro hfree
    have hlt := h.length_liveElems_lt hfree
    rw [Table.window_reports, List.length_map] at hfull
    omega
  have hs : advHashTableSearch t adv.tagMac = none := by
    rw [h.search_eq_none_iff]
    intro x _ hmac
    apply hnew
    rw [← hmac]
    exact List.mem_map_of_mem (List.mem_map_of_mem (h.mem_liveElems.mpr (hall x)))
  have hevicted := h.evicted_last hs (hall _)
  have hnone : (t.window.find adv.tagMac).isNone = true := by
    rw [h.find_window, hs]
    rfl
  rw [Window.evicted, if_pos ⟨hnone, hfull⟩] at hevicted
  rw [hevicted]
  simp [recycledBy, hs, h.liveHashed _ (hall _)]

theorem Holds.tagMacs {w : Window} (h : Holds w history) :
    w.reports.map AdvReport.tagMac = ((recent history).take maxAdvsTable).map AdvReport.tagMac := by
  have hmacs := congrArg (List.map AdvReport.tagMac) h
  rw [List.map_map, List.map_map] at hmacs
  exact hmacs

theorem Holds.timestamps {w : Window} (h : Holds w history) :
    w.reports.map AdvReport.timestamp =
      ((recent history).take maxAdvsTable).map AdvReport.timestamp := by
  have hstamps := congrArg (List.map AdvReport.timestamp) h
  rw [List.map_map, List.map_map] at hstamps
  exact hstamps

/-- What a history read returns: the accepted reports that pass the test, newest first and each
tag once, and what a new tag displaces from a full table: the tag that reported least recently. -/
structure ReadsHistory (t : Table) (history : List Event) (q : HistoryQuery) : Prop where
  filtered : (advTableHistoryRead t q).map AdvReport.uncounted =
    (((recent history).take maxAdvsTable).filter q.passes).map AdvReport.uncounted
  oncePerMac : ((advTableHistoryRead t q).map AdvReport.tagMac).Nodup
  stored : ∀ r ∈ advTableHistoryRead t q, storedBy r.tagMac history = some r
  evicts : ∀ adv : AdvReport, maxAdvsTable ≤ (recent history).length →
    adv.tagMac ∉ ((recent history).take maxAdvsTable).map AdvReport.tagMac →
    recycledBy t adv = ((recent history).take maxAdvsTable).getLast?.map AdvReport.tagMac

theorem historyRead_filter (h : Invariant t) (hholds : Holds t.window history)
    (hq : q.flagUseFilter = true → q.Ordered (putTimestamps history)) :
    advTableHistoryRead t q = t.window.reports.filter q.passes := by
  have hordered : q.flagUseFilter = true →
      q.Ordered (t.window.reports.map AdvReport.timestamp) := by
    intro hfilter
    apply (hq hfilter).sublist
    rw [hholds.timestamps]
    exact ((List.take_sublist _ _).map _).trans (recent_sublist history)
  have hstops : t.window.historyRead q = t.window.reports.takeWhile q.passes := by
    apply takeWhile_congr
    intro r hr
    apply HistoryQuery.stopsAt_eq
    intro hfilter hmode
    have hle := hordered hfilter
    rw [HistoryQuery.Ordered, if_pos hmode] at hle
    exact hle.2 _ (List.mem_map_of_mem hr)
  rw [h.window_historyRead, hstops, takeWhile_eq_filter (HistoryQuery.Ordered.formSuffix hordered)]

/-- History reads agree with a plain filter over the accepted reports. -/
theorem advTable_readsHistory (hr : advTable.FreeRun history t) (q : HistoryQuery)
    (hq : q.flagUseFilter = true → q.Ordered (putTimestamps history)) :
    ReadsHistory t history q := by
  obtain ⟨h, -, hholds⟩ := holds_run hr
  have hread := historyRead_filter h hholds hq
  constructor
  case filtered =>
    have hpasses (r : AdvReport) : q.passes r.uncounted = q.passes r := rfl
    have hcommute (reports : List AdvReport) : (reports.filter q.passes).map AdvReport.uncounted =
        (reports.map AdvReport.uncounted).filter q.passes := by
      rw [List.filter_map]
      rfl
    rw [hread, hcommute, hcommute, hholds]
  case oncePerMac =>
    rw [hread]
    exact h.nodup_macs.sublist (List.filter_sublist.map _)
  case stored =>
    intro r hmem
    rw [hread] at hmem
    obtain ⟨e, he, rfl⟩ := List.mem_map.mp (List.mem_of_mem_filter hmem)
    exact (accounts_run hr).2.stored e (h.liveHashed e (h.mem_liveElems.mp he))
  case evicts =>
    intro adv hlen hnew
    have hfull : t.window.reports.length = maxAdvsTable := by
      have hlength := congrArg List.length hholds
      rw [List.length_map, List.length_map, List.length_take, Nat.min_eq_left hlen] at hlength
      exact hlength
    rw [h.recycledBy_full hfull (hholds.tagMacs ▸ hnew), ← List.getLast?_map, hholds.tagMacs,
      List.getLast?_map]

end Reading

section Counters

/-- A report of the tag whose MAC bytes are all `n`, with a counter instead of a time. -/
def sampleCounted (n : UInt8) (counter : UInt32) : AdvReport :=
  { sampleReport n with timestamp := counter }

theorem dataLen_sampleCounted (n : UInt8) (counter : UInt32) :
    (sampleCounted n counter).dataLen ≠ 0 := by
  simp [sampleCounted, sampleReport]

def sampleCount (n : UInt8) (counter : UInt32) : Op :=
  .put (sampleCounted n counter) (dataLen_sampleCounted n counter)

/-- Asks for the counters after `filter`. -/
def sampleAfter (filter : UInt32) : HistoryQuery := ⟨0, false, filter, true⟩

/-- A counter that wrapped around, with a filter between its two values. -/
def sampleWrapped : Table :=
  ((sampleCount 2 3).apply ((sampleCount 1 0xfffffffe).apply advTableInit).1).1

theorem advTable_readsHistory_wrapped : ∃ history, advTable.FreeRun history sampleWrapped ∧
    ReadsHistory sampleWrapped history (sampleAfter 0xffffffff) := by
  have hrun : advTable.FreeRun _ sampleWrapped := .step (.step .init trivial rfl) trivial rfl
  refine ⟨_, hrun, advTable_readsHistory hrun _ ?_⟩
  intro _
  change List.Pairwise _ [(3 : UInt32), 0xfffffffe]
  decide

/-- The counter jumps by almost 2^32: the newer report is before the filter and the older one
after it. -/
def sampleJumped : Table :=
  ((sampleCount 2 0xffffffff).apply ((sampleCount 1 5).apply advTableInit).1).1

theorem advTable_readsNothing_jumped : ∃ history, advTable.FreeRun history sampleJumped ∧
    (putTimestamps history).Pairwise (fun newer older => older ≤ newer) ∧
    (∀ s ∈ putTimestamps history, -0x7fffffff ≤ (s - 0).toInt32) ∧
    advTableHistoryRead sampleJumped (sampleAfter 0) = [] ∧
    (recent history).filter (sampleAfter 0).passes = [sampleCounted 1 5] := by
  have hrun : advTable.FreeRun _ sampleJumped := .step (.step .init trivial rfl) trivial rfl
  refine ⟨_, hrun, ?_, ?_, ?_, ?_⟩
  · change List.Pairwise _ [(0xffffffff : UInt32), 5]
    decide
  · change ∀ s ∈ [(0xffffffff : UInt32), 5], _
    rw [List.forall_mem_cons, List.forall_mem_singleton]
    decide
  · decide +kernel
  · decide +kernel

end Counters

end RuuviGateway.AdvTable
