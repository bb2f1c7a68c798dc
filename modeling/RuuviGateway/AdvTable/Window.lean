import RuuviGateway.AdvTable.Representation
import RuuviGateway.General.RecencyList

/-!
# The table as a recency list of reports

What the cells, flags and buckets represent: the latest reports of at most one hundred tags, the
most recently accepted one first, and for each retransmission list the tags that stand in it. The
operations of the table are shown to be the operations of this window.
-/

namespace RuuviGateway.AdvTable

open General General.IntrusiveList

structure Window where
  reports : List AdvReport
  queue : ListNo → List MacAddressBin

namespace Window

def empty : Window := ⟨[], fun _ => []⟩

def find (w : Window) (mac : MacAddressBin) : Option AdvReport :=
  w.reports.find? fun r => r.tagMac = mac

/-- The tag that a report of another tag displaces from a full window. -/
def evicted (w : Window) (mac : MacAddressBin) : Option MacAddressBin :=
  if (w.find mac).isNone ∧ w.reports.length = maxAdvsTable then
    w.reports.getLast?.map AdvReport.tagMac
  else none

/-- The tag of the new report takes the place of the tag that it displaces. -/
def enqueue (queue : List MacAddressBin) (evicted : Option MacAddressBin) (mac : MacAddressBin) :
    List MacAddressBin :=
  let queue := queue.map fun m => if evicted = some m then mac else m
  if mac ∈ queue then queue else queue ++ [mac]

def accept (w : Window) (r : AdvReport) : Window where
  reports := (touch AdvReport.tagMac r w.reports).take maxAdvsTable
  queue k := enqueue (w.queue k) (w.evicted r.tagMac) r.tagMac

/-- A tag that was forgotten by clearing only is `stale`: its samples are counted on from zero. -/
def put (w : Window) (stale : Bool) (adv : AdvReport) : Window × Bool :=
  match w.find adv.tagMac with
  | none => (w.accept (if stale then { adv with samplesCounter := 1 } else adv), true)
  | some prev =>
    if advTableCheckIfAdvMustBeDiscarded adv prev then
      ({ w with
        reports := w.reports.map fun r => if r.tagMac = adv.tagMac then r.countSample else r },
        false)
    else (w.accept { adv with samplesCounter := prev.samplesCounter + 1 }, true)

/-- The reports that a queue stands for. -/
def queued (w : Window) (k : ListNo) : List AdvReport := (w.queue k).filterMap w.find

def readAndClear (w : Window) (k : ListNo) : Window :=
  { w with queue := Function.update w.queue k [] }

def popHead (w : Window) (k : ListNo) : Window :=
  { w with queue := Function.update w.queue k (w.queue k).tail }

def historyRead (w : Window) (q : HistoryQuery) : List AdvReport :=
  w.reports.takeWhile fun r => !q.stopsAt r

/-- The reports before the first one without a timestamp. -/
def counted (w : Window) : List AdvReport := w.reports.takeWhile fun r => r.timestamp ≠ 0

def resetCounters (w : Window) : Window :=
  { w with reports := w.counted.map (fun r => { r with samplesCounter := 0 }) ++
      w.reports.dropWhile fun r => r.timestamp ≠ 0 }

def apply (w : Window) (stale : Bool) : Op → Window × Result
  | .put adv _ => let r := w.put stale adv; (r.1, .updated r.2)
  | .readAndClear k => (w.readAndClear k, .reports (w.queued k))
  | .readList3Head => (w.popHead .list3, .head (w.queued .list3).head?)
  | .historyRead q => (w, .reports (w.historyRead q))
  | .statisticsRead => (w.resetCounters, .reports w.counted)
  | .clear => (empty, .cleared)

end Window

section Abstraction

variable {t t' : Table} {adv r : AdvReport} {e : Elem}

/-- The cells with a report, the most recently accepted one first. -/
def Table.liveElems (t : Table) : List Elem :=
  t.advReportsHistList.filter fun e => ¬t.IsFree e

def Table.window (t : Table) : Window where
  reports := t.liveElems.map t.advReport
  queue k := (t.advReportsRetransmissionList k).map t.macOf

@[simp] theorem Table.window_reports (t : Table) :
    t.window.reports = t.liveElems.map t.advReport := rfl

@[simp] theorem Table.window_queue (t : Table) (k : ListNo) :
    t.window.queue k = (t.advReportsRetransmissionList k).map t.macOf := rfl

/-- The tag is known to the table from before it was cleared. -/
def Table.stale (t : Table) (mac : MacAddressBin) : Bool :=
  ((advHashTableSearch t mac).map fun e => decide (t.IsFree e)).getD false

def Op.stale (t : Table) : Op → Bool
  | .put adv _ => t.stale adv.tagMac
  | _ => false

theorem Invariant.mem_liveElems (h : Invariant t) : e ∈ t.liveElems ↔ ¬t.IsFree e := by
  simp [Table.liveElems, h.mem_hist]

theorem Invariant.nodup_liveElems (h : Invariant t) : t.liveElems.Nodup :=
  h.hist_nodup.filter _

theorem Invariant.nodup_macs (h : Invariant t) :
    (t.window.reports.map AdvReport.tagMac).Nodup := by
  rw [Table.window_reports, List.map_map, List.nodup_map_iff_inj_on h.nodup_liveElems]
  intro x hx y hy hxy
  exact h.macInjective x y (h.liveHashed x (h.mem_liveElems.mp hx))
    (h.liveHashed y (h.mem_liveElems.mp hy)) hxy

theorem Invariant.find_macOf (h : Invariant t) (he : ¬t.IsFree e) :
    t.window.find (t.macOf e) = some (t.advReport e) := by
  have hmem : t.advReport e ∈ t.window.reports :=
    List.mem_map_of_mem (h.mem_liveElems.mpr he)
  cases hfind : t.window.find (t.macOf e) with
  | none =>
    have hno := List.find?_eq_none.mp hfind _ hmem
    simp at hno
  | some r =>
    obtain ⟨x, hx, rfl⟩ := List.mem_map.mp (List.mem_of_find?_eq_some hfind)
    have hmac : t.macOf x = t.macOf e := by simpa using List.find?_some hfind
    rw [h.macInjective x e (h.liveHashed x (h.mem_liveElems.mp hx)) (h.liveHashed e he) hmac]

/-- Searching the window is searching the hash table for a cell with a report. -/
theorem Invariant.find_window (h : Invariant t) (mac : MacAddressBin) :
    t.window.find mac =
      ((advHashTableSearch t mac).filter fun e => ¬t.IsFree e).map t.advReport := by
  cases hs : advHashTableSearch t mac with
  | none =>
    have hno := (h.search_eq_none_iff mac).mp hs
    rw [Window.find, List.find?_eq_none.mpr]
    · rfl
    · intro r hr
      obtain ⟨x, hx, rfl⟩ := List.mem_map.mp hr
      simpa using hno x (h.liveHashed x (h.mem_liveElems.mp hx))
  | some e =>
    obtain ⟨hin, rfl⟩ := (h.search_eq_some_iff mac e).mp hs
    by_cases he : t.IsFree e
    · rw [Window.find, List.find?_eq_none.mpr]
      · simp [he]
      · intro r hr
        obtain ⟨x, hx, rfl⟩ := List.mem_map.mp hr
        have hlive := h.mem_liveElems.mp hx
        simp only [decide_eq_true_eq]
        intro hmac
        rw [h.macInjective x e (h.liveHashed x hlive) hin hmac] at hlive
        exact hlive he
    · rw [h.find_macOf he]
      simp [he]

theorem Invariant.length_liveElems_lt (h : Invariant t) (he : t.IsFree e) :
    t.liveElems.length < maxAdvsTable := by
  have hnodup : (e :: t.liveElems).Nodup :=
    List.nodup_cons.mpr ⟨fun hmem => h.mem_liveElems.mp hmem he, h.nodup_liveElems⟩
  exact Nat.lt_of_succ_le (by simpa using hnodup.length_le_card)

theorem Invariant.length_hist (h : Invariant t) : t.advReportsHistList.length = maxAdvsTable := by
  rw [h.histPerm.length_eq, List.length_finRange]

/-- If even the last cell has a report then all cells have one. -/
theorem Invariant.liveElems_of_full (h : Invariant t) (hlast : ¬t.IsFree t.lastElem) :
    t.liveElems = t.advReportsHistList := by
  rw [Table.liveElems, List.filter_eq_self]
  intro x hx
  rw [decide_eq_true_eq]
  intro hfree
  exact hlast (h.freeSuffix.getLast t.histNonempty hx hfree)

theorem Invariant.listed_live (h : Invariant t) {k : ListNo}
    (he : e ∈ t.advReportsRetransmissionList k) : ¬t.IsFree e := by
  intro hfree
  have hflag := ((h.listAgrees k).mem_iff e).mp he
  rw [h.freeUnlisted e hfree k] at hflag
  cases hflag

theorem Invariant.liveElems_eq_takeWhile (h : Invariant t) :
    t.liveElems = t.advReportsHistList.takeWhile fun e => ¬t.IsFree e := by
  rw [takeWhile_eq_filter]
  · rfl
  · apply h.freeSuffix.congr
    intro x _
    simp

end Abstraction

section Accepting

variable {t t' : Table} {r : AdvReport} {e : Elem}

theorem Invariant.liveElems_enqueue (h : Invariant t) (hst : Stored t t' e r)
    (hr : r.dataLen ≠ 0) :
    (advTableEnqueue t' e).liveElems = e :: t.liveElems.filter (· ≠ e) := by
  rw [advTableEnqueue_eq]
  simp only [Table.liveElems, Table.IsFree, hst.hist, hst.advReport, h.hist_nodup.erase_eq_filter]
  rw [List.filter_cons_of_pos (by simpa using hr), List.filter_filter, List.filter_filter]
  congr 1
  apply List.filter_congr
  intro x _
  by_cases hx : x = e
  · simp [hx]
  · simp [hx]

theorem Invariant.reports_enqueue (h : Invariant t) (hst : Stored t t' e r) (hr : r.dataLen ≠ 0) :
    (advTableEnqueue t' e).window.reports = r :: (t.liveElems.filter (· ≠ e)).map t.advReport := by
  have hreports : (advTableEnqueue t' e).advReport = Function.update t.advReport e r := by
    rw [advTableEnqueue_eq]
    exact hst.advReport
  rw [Table.window_reports, h.liveElems_enqueue hst hr, hreports, List.map_cons,
    Function.update_self]
  congr 1
  apply List.map_congr_left
  intro x hx
  have hne : x ≠ e := by simpa using (List.mem_filter.mp hx).2
  exact Function.update_of_ne hne _ _

/-- The cell was free or its tag reports again. -/
theorem Invariant.reports_accept_own (h : Invariant t) (hst : Stored t t' e r)
    (hr : r.dataLen ≠ 0) (hown : ¬t.IsFree e → t.macOf e = r.tagMac) :
    (advTableEnqueue t' e).window.reports = (t.window.accept r).reports := by
  have hfilter : (t.liveElems.filter (· ≠ e)).map t.advReport =
      t.window.reports.filter fun y => y.tagMac ≠ r.tagMac := by
    rw [Table.window_reports, List.filter_map]
    congr 1
    apply List.filter_congr
    intro x hx
    have hlive := h.mem_liveElems.mp hx
    by_cases hxe : x = e
    · subst hxe
      simp [hown hlive]
    · have hmac := hst.fresh x hxe (h.liveHashed x hlive)
      simp [hxe, hmac]
  have hlen :=
    (List.Nodup.cons (a := e) (by simp) (h.nodup_liveElems.filter (· ≠ e))).length_le_card
  rw [h.reports_enqueue hst hr, hfilter, Window.accept, touch, List.take_of_length_le]
  rw [← hfilter]
  simpa using hlen

/-- A report of another tag displaces the oldest one. -/
theorem Invariant.reports_accept_last (h : Invariant t) (hst : Stored t t' t.lastElem r)
    (hr : r.dataLen ≠ 0) (hlive : ¬t.IsFree t.lastElem) (hmac : t.macOf t.lastElem ≠ r.tagMac) :
    (advTableEnqueue t' t.lastElem).window.reports = (t.window.accept r).reports := by
  have hall := h.liveElems_of_full hlive
  have hfresh : r.tagMac ∉ t.window.reports.map AdvReport.tagMac := by
    rw [Table.window_reports, List.map_map]
    intro hmem
    obtain ⟨x, hx, hxr⟩ := List.mem_map.mp hmem
    by_cases hxe : x = t.lastElem
    · exact hmac (hxe ▸ hxr)
    · exact hst.fresh x hxe (h.liveHashed x (h.mem_liveElems.mp hx)) hxr
  have hlen : t.window.reports.length = 99 + 1 := by
    rw [Table.window_reports, List.length_map, hall, h.length_hist]
  have hdrop : t.advReportsHistList.filter (· ≠ t.lastElem) = t.advReportsHistList.dropLast := by
    have hsplit := List.dropLast_append_getLast t.histNonempty
    have hnodup := h.hist_nodup
    rw [← hsplit, List.nodup_append] at hnodup
    conv_lhs => rw [← hsplit]
    rw [List.filter_append, List.filter_eq_self.mpr]
    · simp [Table.lastElem]
    · intro x hx
      have hne : x ≠ t.lastElem := hnodup.2.2 x hx _ (List.mem_singleton_self _)
      simpa using hne
  rw [h.reports_enqueue hst hr, hall, hdrop, Window.accept]
  refine Eq.trans ?_ (take_touch_full hlen hfresh).symm
  rw [Table.window_reports, hall, List.map_dropLast]

theorem Invariant.queue_enqueue (h : Invariant t) (hst : Stored t t' e r) (k : ListNo)
    (hevicted : ∀ x, ¬t.IsFree x →
      (if t.window.evicted r.tagMac = some (t.macOf x) then r.tagMac else t.macOf x) =
        if x = e then r.tagMac else t.macOf x) :
    (advTableEnqueue t' e).window.queue k = (t.window.accept r).queue k := by
  have hmacs : (advTableEnqueue t' e).macOf = fun x => if x = e then r.tagMac else t.macOf x := by
    funext x
    rw [Table.macOf, advTableEnqueue_eq]
    dsimp only
    rw [hst.advReport, Function.update_apply]
    split_ifs <;> rfl
  have hreplaced : (t.window.queue k).map (fun m =>
      if t.window.evicted r.tagMac = some m then r.tagMac else m) =
        (t.advReportsRetransmissionList k).map fun x => if x = e then r.tagMac else t.macOf x := by
    rw [Table.window_queue, List.map_map]
    apply List.map_congr_left
    intro x hx
    exact hevicted x (h.listed_live hx)
  have hmem : (r.tagMac ∈ (t.advReportsRetransmissionList k).map
      fun x => if x = e then r.tagMac else t.macOf x) ↔ t.isInRetransmissionList k e = true := by
    rw [← (h.listAgrees k).mem_iff e, List.mem_map]
    constructor
    · rintro ⟨x, hx, hxr⟩
      by_cases hxe : x = e
      · exact hxe ▸ hx
      · rw [if_neg hxe] at hxr
        exact absurd hxr (hst.fresh x hxe (h.liveHashed x (h.listed_live hx)))
    · intro he
      exact ⟨e, he, if_pos rfl⟩
  have hlists : (advTableEnqueue t' e).advReportsRetransmissionList k =
      if t.isInRetransmissionList k e then t.advReportsRetransmissionList k
      else t.advReportsRetransmissionList k ++ [e] := by
    rw [advTableEnqueue_eq]
    dsimp only
    rw [hst.flags, hst.lists]
  rw [Table.window_queue, hmacs, hlists]
  simp only [Window.accept, Window.enqueue, hreplaced]
  by_cases hflag : t.isInRetransmissionList k e = true
  · rw [if_pos hflag, if_pos (hmem.mpr hflag)]
  · rw [if_neg hflag, if_neg (mt hmem.mp hflag), List.map_append]
    simp

theorem Invariant.evicted_own (h : Invariant t) (hown : ¬t.IsFree e → t.macOf e = r.tagMac) :
    t.window.evicted r.tagMac = none := by
  unfold Window.evicted
  by_cases he : t.IsFree e
  · have hlen := h.length_liveElems_lt he
    rw [if_neg]
    rintro ⟨-, hfull⟩
    rw [Table.window_reports, List.length_map] at hfull
    omega
  · rw [if_neg]
    rintro ⟨hnone, -⟩
    rw [← hown he, h.find_macOf he] at hnone
    cases hnone

theorem Invariant.evicted_last (h : Invariant t) {mac : MacAddressBin}
    (hs : advHashTableSearch t mac = none) (hlive : ¬t.IsFree t.lastElem) :
    t.window.evicted mac = some (t.macOf t.lastElem) := by
  have hall := h.liveElems_of_full hlive
  have hlast : t.window.reports.getLast? = some (t.advReport t.lastElem) := by
    rw [Table.window_reports, hall, List.getLast?_map, List.getLast?_eq_some_getLast t.histNonempty]
    rfl
  have hnone : t.window.find mac = none := by
    rw [h.find_window, hs]
    rfl
  have hfull : t.window.reports.length = maxAdvsTable := by
    rw [Table.window_reports, List.length_map, hall, h.length_hist]
  rw [Window.evicted, if_pos ⟨by simp [hnone], hfull⟩, hlast]
  rfl

/-- Storing and queueing a report is accepting it into the window. -/
theorem Invariant.window_accept (h : Invariant t) {adv : AdvReport}
    (hst : Stored t t' (targetElem t adv) r) (hmac : r.tagMac = adv.tagMac) (hr : r.dataLen ≠ 0) :
    (advTableEnqueue t' (targetElem t adv)).window = t.window.accept r := by
  have hcases : (¬t.IsFree (targetElem t adv) → t.macOf (targetElem t adv) = r.tagMac) ∨
      (targetElem t adv = t.lastElem ∧ ¬t.IsFree t.lastElem ∧
        advHashTableSearch t r.tagMac = none) := by
    rw [hmac]
    unfold targetElem
    cases hs : advHashTableSearch t adv.tagMac with
    | some e =>
      left
      intro _
      exact ((h.search_eq_some_iff _ _).mp hs).2
    | none =>
      by_cases hfree : t.IsFree t.lastElem
      · left
        intro hlive
        exact absurd hfree hlive
      · right
        exact ⟨rfl, hfree, rfl⟩
  have hext {w w' : Window} (hreports : w.reports = w'.reports)
      (hqueue : ∀ k, w.queue k = w'.queue k) : w = w' := by
    cases w
    cases w'
    rw [Window.mk.injEq]
    exact ⟨hreports, funext hqueue⟩
  rcases hcases with hown | ⟨hlast, hlive, hs⟩
  · apply hext (h.reports_accept_own hst hr hown)
    intro k
    apply h.queue_enqueue hst
    intro x hx
    rw [h.evicted_own hown, if_neg (by simp)]
    split_ifs with hxe
    · rw [hxe] at hx ⊢
      exact hown hx
    · rfl
  · rw [hlast] at hst ⊢
    have hnone := (h.search_eq_none_iff _).mp hs
    have hin := h.liveHashed _ hlive
    apply hext (h.reports_accept_last hst hr hlive (hnone _ hin))
    intro k
    apply h.queue_enqueue hst
    intro x hx
    rw [h.evicted_last hs hlive]
    by_cases hxe : x = t.lastElem
    · rw [if_pos (by rw [hxe]), if_pos hxe]
    · have hne : t.macOf t.lastElem ≠ t.macOf x :=
        fun hxmac => hxe (h.macInjective x _ (h.liveHashed x hx) hin hxmac.symm)
      rw [if_neg (by simpa using hne), if_neg hxe]

end Accepting

section Freed

variable {t : Table}

/-- A cell without a report has neither a timestamp nor a sample count. -/
def FreedCells (t : Table) : Prop := ∀ e, t.IsFree e → (t.advReport e).freed = t.advReport e

theorem freedCells_init : FreedCells advTableInit := fun _ _ => rfl

theorem FreedCells.put (hf : FreedCells t) (h : Invariant t) (adv : AdvReport)
    (hadv : adv.dataLen ≠ 0) : FreedCells (advTablePut t adv).1 := by
  rcases h.put_cases adv with ⟨t', hst, hput⟩ | ⟨e, -, hdiscarded, hput⟩
  · rw [hput, advTableEnqueue_eq]
    intro x hx
    rw [Table.IsFree] at hx
    rw [hst.advReport] at hx ⊢
    by_cases hxe : x = targetElem t adv
    · subst hxe
      simp [hadv] at hx
    · rw [Function.update_of_ne hxe] at hx ⊢
      exact hf x hx
  · rw [hput]
    intro x hx
    by_cases hxe : x = e
    · subst hxe
      have hfree : (t.advReport x).dataLen = 0 := by
        simpa [Table.IsFree, Table.setAdvReport, AdvReport.countSample] using hx
      rw [not_discarded_of_prevFree hadv hfree] at hdiscarded
      cases hdiscarded
    · simp only [Table.IsFree, Table.setAdvReport, Function.update_of_ne hxe] at hx ⊢
      exact hf x hx

theorem FreedCells.resetCounters (hf : FreedCells t) (q : List Elem) :
    FreedCells (t.resetCounters q) := by
  intro x hx
  simp only [Table.IsFree, Table.resetCounters] at hx ⊢
  split_ifs at hx ⊢ with hq
  · have hfreed := hf x hx
    rw [AdvReport.freed] at hfreed ⊢
    rw [← hfreed]
  · exact hf x hx

theorem FreedCells.apply (hf : FreedCells t) (h : Invariant t) (op : Op) :
    FreedCells (op.apply t).1 := by
  cases op with
  | put adv hadv => exact hf.put h adv hadv
  | readAndClear k =>
    dsimp only [Op.apply]
    rw [h.readAndClear_eq]
    exact hf
  | readList3Head =>
    dsimp only [Op.apply]
    unfold advTableReadRetransmissionList3Head
    cases t.advReportsRetransmissionList .list3 with
    | nil => exact hf
    | cons e rest => exact hf
  | historyRead q => exact hf
  | statisticsRead =>
    dsimp only [Op.apply]
    rw [h.statisticsRead_eq]
    exact hf.resetCounters _
  | clear =>
    dsimp only [Op.apply]
    rw [h.clear_eq]
    exact fun _ _ => rfl

end Freed

section Refinement

variable {t : Table} {adv : AdvReport} {e : Elem}

theorem Invariant.window_countSample (h : Invariant t)
    (hs : advHashTableSearch t adv.tagMac = some e) :
    (t.setAdvReport e (t.advReport e).countSample).window = { t.window with
      reports := t.window.reports.map fun r =>
        if r.tagMac = adv.tagMac then r.countSample else r } := by
  obtain ⟨hin, hmac⟩ := (h.search_eq_some_iff _ _).mp hs
  have hreport : ∀ x, (t.setAdvReport e (t.advReport e).countSample).advReport x =
      if x = e then (t.advReport x).countSample else t.advReport x := by
    intro x
    by_cases hx : x = e
    · subst hx
      simp [Table.setAdvReport]
    · simp [Table.setAdvReport, hx]
  have hlive : (t.setAdvReport e (t.advReport e).countSample).liveElems = t.liveElems := by
    apply List.filter_congr
    intro x _
    simp only [Table.IsFree, hreport]
    split_ifs <;> rfl
  have hreports : t.liveElems.map (t.setAdvReport e (t.advReport e).countSample).advReport =
      (t.liveElems.map t.advReport).map fun r =>
        if r.tagMac = adv.tagMac then r.countSample else r := by
    rw [List.map_map]
    apply List.map_congr_left
    intro x hx
    rw [hreport]
    apply if_congr _ rfl rfl
    rw [← hmac]
    constructor
    · rintro rfl
      rfl
    · exact h.macInjective x e (h.liveHashed x (h.mem_liveElems.mp hx)) hin
  have hmacs : (t.setAdvReport e (t.advReport e).countSample).macOf = t.macOf := by
    funext x
    rw [Table.macOf, hreport]
    split_ifs <;> rfl
  have hwindow : (t.setAdvReport e (t.advReport e).countSample).window =
      ⟨t.liveElems.map (t.setAdvReport e (t.advReport e).countSample).advReport,
        fun k => (t.advReportsRetransmissionList k).map t.macOf⟩ := by
    rw [← hlive, ← hmacs]
    rfl
  rw [hwindow, hreports]
  rfl

/-- A put on the table is a put on its window. -/
theorem Invariant.window_put (h : Invariant t) (hf : FreedCells t) (hadv : adv.dataLen ≠ 0) :
    ((advTablePut t adv).1.window, (advTablePut t adv).2) =
      t.window.put (t.stale adv.tagMac) adv := by
  have haccept (hnot : ∀ e, advHashTableSearch t adv.tagMac = some e →
      advTableCheckIfAdvMustBeDiscarded adv (t.advReport e) = false) :
      ((advTablePut t adv).1.window, (advTablePut t adv).2) =
        (t.window.accept (storedReport t adv), true) := by
    rcases h.put_cases adv with ⟨t', hst, hput⟩ | ⟨e, hs, hdiscarded, -⟩
    · rw [hput, h.window_accept hst (storedReport_tagMac t adv) (by simpa using hadv)]
    · rw [hnot e hs] at hdiscarded
      cases hdiscarded
  have hfind := h.find_window adv.tagMac
  unfold Window.put
  cases hs : advHashTableSearch t adv.tagMac with
  | none =>
    rw [hs, Option.filter_none, Option.map_none] at hfind
    rw [haccept (by simp [hs]), hfind]
    simp [storedReport, AdvReport.replacing, Table.stale, hs]
  | some e =>
    rw [hs] at hfind
    by_cases hfree : t.IsFree e
    · have hcounter : (t.advReport e).samplesCounter = 0 := by
        rw [← hf e hfree]
        rfl
      have hnot := not_discarded_of_prevFree hadv hfree
      rw [Option.filter_some_neg (by simpa using hfree), Option.map_none] at hfind
      have hstale : t.stale adv.tagMac = true := by
        rw [Table.stale, hs]
        exact decide_eq_true hfree
      rw [haccept (by simpa [hs] using hnot), hfind]
      simp [storedReport, AdvReport.replacing, hstale, hs, hcounter]
    · rw [Option.filter_some_pos (by simpa using hfree), Option.map_some] at hfind
      rw [hfind]
      by_cases hdiscarded : advTableCheckIfAdvMustBeDiscarded adv (t.advReport e) = true
      · have hput : advTablePut t adv = (t.setAdvReport e (t.advReport e).countSample, false) := by
          simp [advTablePut, advTableStore, hs, hdiscarded, AdvReport.countSample]
        rw [hput, h.window_countSample hs]
        simp [hdiscarded]
      · rw [Bool.not_eq_true] at hdiscarded
        rw [haccept (by simpa [hs] using hdiscarded)]
        simp [storedReport, AdvReport.replacing, hs, hdiscarded]

theorem Invariant.window_queued (h : Invariant t) (k : ListNo) :
    t.window.queued k = (t.advReportsRetransmissionList k).map t.advReport := by
  have hall : ∀ q ⊆ t.advReportsRetransmissionList k,
      (q.map t.macOf).filterMap t.window.find = q.map t.advReport := by
    intro q hq
    induction q with
    | nil => rfl
    | cons e q ih =>
      rw [List.cons_subset] at hq
      rw [List.map_cons, List.map_cons,
        List.filterMap_cons_some (h.find_macOf (h.listed_live hq.1)), ih hq.2]
  exact hall _ (List.Subset.refl _)

theorem Invariant.takeWhile_hist (h : Invariant t) (p : AdvReport → Bool) :
    (t.advReportsHistList.takeWhile fun e => ¬t.IsFree e ∧ p (t.advReport e)).map t.advReport =
      t.window.reports.takeWhile p := by
  rw [Table.window_reports, List.takeWhile_map, h.liveElems_eq_takeWhile, List.takeWhile_takeWhile]
  congr 2
  funext x
  simp [and_comm]

theorem historyLoop_spec (t : Table) (q : HistoryQuery) (hist : List Elem)
    (reports : List AdvReport) (hlen : reports.length + hist.length ≤ maxAdvsTable) :
    historyLoop t q hist reports = reports ++
      (hist.takeWhile fun e => ¬t.IsFree e ∧ !q.stopsAt (t.advReport e)).map t.advReport := by
  induction hist generalizing reports with
  | nil => simp [historyLoop]
  | cons e hist ih =>
    rw [List.length_cons] at hlen
    have hroom : ¬reports.length ≥ maxAdvsTable := by omega
    rw [historyLoop, if_neg hroom]
    by_cases hfree : (t.advReport e).dataLen = 0
    · simp [hfree]
    · by_cases hstop : q.stopsAt (t.advReport e)
      · simp [hfree, hstop]
      · rw [if_neg hfree, if_neg hstop,
          ih _ (by rw [List.length_append, List.length_singleton]; omega)]
        simp [hfree, hstop]

theorem Invariant.window_historyRead (h : Invariant t) (q : HistoryQuery) :
    advTableHistoryRead t q = t.window.historyRead q := by
  rw [advTableHistoryRead, historyLoop_spec t q _ [] (by simp [h.length_hist]), List.nil_append]
  exact h.takeWhile_hist fun r => !q.stopsAt r

/-- The cells that a statistics read reaches all have a report. -/
theorem FreedCells.counted_eq (hf : FreedCells t) (h : Invariant t) :
    t.counted t.advReportsHistList = t.counted t.liveElems := by
  have htimed (x : Elem) (hx : t.IsFree x) : (t.advReport x).timestamp = 0 := by
    rw [← hf x hx]
    rfl
  rw [h.liveElems_eq_takeWhile, Table.counted, Table.counted, List.takeWhile_takeWhile]
  congr 1
  funext x
  by_cases hx : t.IsFree x
  · simp [htimed x hx]
  · simp [hx]

theorem Invariant.window_counted (h : Invariant t) (hf : FreedCells t) :
    (t.counted t.advReportsHistList).map t.advReport = t.window.counted := by
  rw [hf.counted_eq h, Window.counted, Table.window_reports, List.takeWhile_map]
  rfl

theorem Invariant.window_resetCounters (h : Invariant t) (hf : FreedCells t) :
    (t.resetCounters (t.counted t.advReportsHistList)).window = t.window.resetCounters := by
  rw [hf.counted_eq h]
  set q := t.counted t.liveElems with hq
  have hlive : (t.resetCounters q).liveElems = t.liveElems := by
    apply List.filter_congr
    intro x _
    simp only [Table.IsFree, Table.resetCounters]
    split_ifs <;> rfl
  have hmacs : (t.resetCounters q).macOf = t.macOf := by
    funext x
    simp only [Table.macOf, Table.resetCounters]
    split_ifs <;> rfl
  have hsplit :=
    List.takeWhile_append_dropWhile (p := fun x => decide ((t.advReport x).timestamp ≠ 0))
    (l := t.liveElems)
  set rest := t.liveElems.dropWhile fun x => decide ((t.advReport x).timestamp ≠ 0) with hrest
  have hnodup := h.nodup_liveElems
  rw [← hsplit, List.nodup_append] at hnodup
  have hreports : t.liveElems.map (t.resetCounters q).advReport =
      (q.map t.advReport).map (fun r => { r with samplesCounter := 0 }) ++
        rest.map t.advReport := by
    conv_lhs => rw [← hsplit]
    rw [List.map_append, List.map_map]
    congr 1
    · apply List.map_congr_left
      intro x hx
      exact if_pos hx
    · apply List.map_congr_left
      intro x hx
      exact if_neg fun hxq => hnodup.2.2 x hxq x hx rfl
  have hwindow : (t.resetCounters q).window =
      ⟨t.liveElems.map (t.resetCounters q).advReport,
        fun k => (t.advReportsRetransmissionList k).map t.macOf⟩ := by
    rw [← hlive, ← hmacs]
    rfl
  rw [hwindow, hreports, Window.resetCounters, Window.counted, Table.window_reports,
    List.takeWhile_map, List.dropWhile_map]
  rfl

/-- An operation on the table is the operation on its window, with the same result. -/
theorem Invariant.window_apply (h : Invariant t) (hf : FreedCells t) (op : Op) :
    ((op.apply t).1.window, (op.apply t).2) = t.window.apply (op.stale t) op := by
  cases op with
  | put adv hadv =>
    have hput := h.window_put hf hadv
    rw [Prod.ext_iff] at hput
    dsimp only [Op.apply, Window.apply, Op.stale]
    rw [← hput.1, ← hput.2]
  | readAndClear k =>
    dsimp only [Op.apply, Window.apply]
    rw [h.readAndClear_eq, h.window_queued]
    have hqueue : (t.withoutList k).window = t.window.readAndClear k := by
      rw [Table.window, Window.readAndClear, Window.mk.injEq]
      constructor
      · rfl
      · funext j
        by_cases hj : j = k
        · subst hj
          simp [Table.withoutList]
        · simp [Table.withoutList, hj]
    rw [hqueue]
  | readList3Head =>
    dsimp only [Op.apply, Window.apply]
    rw [h.window_queued]
    unfold advTableReadRetransmissionList3Head
    cases hlist : t.advReportsRetransmissionList .list3 with
    | nil =>
      have hpop : t.window.popHead .list3 = t.window := by
        have hnil : t.window.queue .list3 = [] := by simp [hlist]
        have hsame := Function.update_eq_self ListNo.list3 t.window.queue
        rw [hnil] at hsame
        rw [Window.popHead, hnil, List.tail_nil, hsame]
      rw [hpop]
      rfl
    | cons e rest =>
      have hpop : (t.removeHead .list3 e).window = t.window.popHead .list3 := by
        rw [Table.window, Window.popHead, Window.mk.injEq]
        constructor
        · rfl
        · funext j
          by_cases hj : j = .list3
          · subst hj
            simp [Table.removeHead, hlist]
          · simp [Table.removeHead, hj]
      dsimp only
      rw [hpop]
      rfl
  | historyRead q =>
    dsimp only [Op.apply, Window.apply]
    rw [h.window_historyRead]
  | statisticsRead =>
    dsimp only [Op.apply, Window.apply]
    rw [h.statisticsRead_eq, h.window_resetCounters hf, h.window_counted hf]
  | clear =>
    dsimp only [Op.apply, Window.apply]
    rw [h.clear_eq]
    have hempty : t.cleared.window = Window.empty := by
      simp [Table.window, Window.empty, Table.liveElems, Table.cleared, AdvReport.freed]
    rw [hempty]

end Refinement

end RuuviGateway.AdvTable
