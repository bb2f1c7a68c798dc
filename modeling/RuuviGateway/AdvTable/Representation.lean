import RuuviGateway.AdvTable.Invariant

/-!
# Every operation keeps the representation invariant

A put stores its report in one cell and, if the report is news, queues that cell. The
remaining operations only read, empty a retransmission list or mark cells as free. The
last section states the invariant in terms of the data structures alone, for every run.
-/

namespace RuuviGateway.AdvTable

open General General.IntrusiveList

variable {t t' : Table} {adv r : AdvReport} {e : Elem}

section Buckets

theorem advHashTableRemove_buckets (h : t.BucketsAgree) (e : Elem) :
    (advHashTableRemove t e).BucketsAgree := by
  intro i
  unfold advHashTableRemove
  by_cases hin : t.isInHashTable e
  · rw [if_pos hin]
    by_cases hi : i = hashIdx (t.macOf e)
    · subst hi
      simp only [Function.update_self]
      refine (h _).remove fun x => ?_
      by_cases hx : x = e <;> simp [hx]
    · simp only [Function.update_of_ne hi]
      refine (h i).congr fun x => ?_
      by_cases hx : x = e
      · subst hx
        simp [Ne.symm hi]
      · simp [hx]
  · rw [if_neg hin]
    exact h i

theorem advHashTableRemove_isInHashTable (t : Table) (e : Elem) :
    (advHashTableRemove t e).isInHashTable = Function.update t.isInHashTable e false := by
  unfold advHashTableRemove
  by_cases hin : t.isInHashTable e
  · rw [if_pos hin]
  · have hflag := Function.update_eq_self e t.isInHashTable
    rw [Bool.eq_false_of_not_eq_true hin] at hflag
    rw [if_neg hin, hflag]

theorem setAdvReport_buckets (h : t.BucketsAgree) (e : Elem) (r : AdvReport)
    (hr : t.isInHashTable e = true → r.tagMac = t.macOf e) :
    (t.setAdvReport e r).BucketsAgree := by
  intro i
  refine (h i).congr fun x => ?_
  by_cases hx : x = e
  · subst hx
    by_cases hin : t.isInHashTable x
    · simp [Table.macOf, Table.setAdvReport, hr hin]
    · simp [Table.setAdvReport, hin]
  · simp [Table.macOf, Table.setAdvReport, hx]

theorem advHashTableAdd_buckets (h : t.BucketsAgree) (e : Elem) (he : t.isInHashTable e = false) :
    (advHashTableAdd t e).BucketsAgree := by
  intro i
  unfold advHashTableAdd
  by_cases hi : i = hashIdx (t.macOf e)
  · subst hi
    simp only [Function.update_self]
    refine (h _).insertTail (by simp [he]) fun x => ?_
    by_cases hx : x = e <;> simp [hx]
  · simp only [Function.update_of_ne hi]
    refine (h i).congr fun x => ?_
    by_cases hx : x = e
    · subst hx
      simp [Ne.symm hi]
    · simp [hx]

end Buckets

section Put

theorem Invariant.stored_new (h : Invariant t) (hs : advHashTableSearch t adv.tagMac = none) :
    Stored t (advHashTableAdd ((advHashTableRemove t t.lastElem).setAdvReport t.lastElem adv)
      t.lastElem) t.lastElem adv := by
  have hframe : ∀ e, (advHashTableRemove t e).advReport = t.advReport ∧
      (advHashTableRemove t e).isInRetransmissionList = t.isInRetransmissionList ∧
      (advHashTableRemove t e).advReportsRetransmissionList = t.advReportsRetransmissionList ∧
      (advHashTableRemove t e).advReportsHistList = t.advReportsHistList := by
    intro e
    unfold advHashTableRemove
    split_ifs <;> exact ⟨rfl, rfl, rfl, rfl⟩
  obtain ⟨hreport, hflags, hlists, hhist⟩ := hframe t.lastElem
  have hout := advHashTableRemove_isInHashTable t t.lastElem
  have hremoved := advHashTableRemove_buckets h.bucketsAgree t.lastElem
  refine ⟨?_, ?_, hflags, hlists, hhist, ?_, ?_⟩
  · simp [advHashTableAdd, Table.setAdvReport, hreport]
  · simp [advHashTableAdd, Table.setAdvReport, hout]
  · refine advHashTableAdd_buckets (setAdvReport_buckets hremoved _ _ ?_) _ ?_
    · simp [hout]
    · simp [Table.setAdvReport, hout]
  · intro x _ hin
    exact (h.search_eq_none_iff _).mp hs x hin

theorem Invariant.stored_update (h : Invariant t)
    (hs : advHashTableSearch t adv.tagMac = some e) (hr : r.tagMac = adv.tagMac) :
    Stored t (t.setAdvReport e r) e r := by
  obtain ⟨hin, hmac⟩ := (h.search_eq_some_iff _ _).mp hs
  have hflag := Function.update_eq_self e t.isInHashTable
  rw [hin] at hflag
  refine ⟨rfl, hflag.symm, rfl, rfl, rfl, ?_, ?_⟩
  · exact setAdvReport_buckets h.bucketsAgree e r fun _ => hr.trans hmac.symm
  · intro x hx hxin hxmac
    exact hx (h.macInjective x e hxin hin (hxmac.trans (hr.trans hmac.symm)))

/-- An accepted report continues the sample count of the report it replaces. -/
def AdvReport.replacing (adv : AdvReport) : Option AdvReport → AdvReport
  | none => adv
  | some prev => { adv with samplesCounter := prev.samplesCounter + 1 }

/-- A repeated sample is only counted. -/
def AdvReport.countSample (prev : AdvReport) : AdvReport :=
  { prev with samplesCounter := prev.samplesCounter + 1 }

/-- The report that an accepting put leaves in its cell. -/
def storedReport (t : Table) (adv : AdvReport) : AdvReport :=
  adv.replacing ((advHashTableSearch t adv.tagMac).map t.advReport)

/-- The cell that a put uses. -/
def targetElem (t : Table) (adv : AdvReport) : Elem :=
  (advHashTableSearch t adv.tagMac).getD t.lastElem

/-- A put stores its report and queues the cell, or it only counts a repeated sample. -/
theorem Invariant.put_cases (h : Invariant t) (adv : AdvReport) :
    (∃ t', Stored t t' (targetElem t adv) (storedReport t adv) ∧
      advTablePut t adv = (advTableEnqueue t' (targetElem t adv), true)) ∨
    (∃ e, advHashTableSearch t adv.tagMac = some e ∧
      advTableCheckIfAdvMustBeDiscarded adv (t.advReport e) = true ∧
      advTablePut t adv = (t.setAdvReport e (t.advReport e).countSample, false)) := by
  unfold advTablePut advTableStore targetElem storedReport
  cases hs : advHashTableSearch t adv.tagMac with
  | none => exact .inl ⟨_, h.stored_new hs, rfl⟩
  | some e =>
    dsimp only
    by_cases hd : advTableCheckIfAdvMustBeDiscarded adv (t.advReport e) = true
    · rw [if_pos hd]
      exact .inr ⟨e, rfl, hd, rfl⟩
    · rw [if_neg hd]
      exact .inl ⟨_, h.stored_update hs rfl, rfl⟩

@[simp] theorem storedReport_tagMac (t : Table) (adv : AdvReport) :
    (storedReport t adv).tagMac = adv.tagMac := by
  unfold storedReport AdvReport.replacing
  split <;> rfl

@[simp] theorem storedReport_dataLen (t : Table) (adv : AdvReport) :
    (storedReport t adv).dataLen = adv.dataLen := by
  unfold storedReport AdvReport.replacing
  split <;> rfl

/-- Storing a report with data and queueing its cell keeps the invariant. -/
theorem Invariant.enqueue (h : Invariant t) (hst : Stored t t' e r) (hr : r.dataLen ≠ 0) :
    Invariant (advTableEnqueue t' e) := by
  have hreport : ∀ x, t'.advReport x = if x = e then r else t.advReport x := by
    intro x
    rw [hst.advReport, Function.update_apply]
  have hhash : ∀ x, t'.isInHashTable x = if x = e then true else t.isInHashTable x := by
    intro x
    rw [hst.isInHashTable, Function.update_apply]
  rw [advTableEnqueue_eq]
  constructor
  · simp only [hst.hist]
    exact (moveToFront_perm (h.mem_hist e)).trans h.histPerm
  · intro k
    simp only [hst.flags, hst.lists]
    by_cases hin : t.isInRetransmissionList k e
    · rw [if_pos hin]
      refine (h.listAgrees k).congr fun x => ?_
      by_cases hx : x = e <;> simp [hx, hin]
    · rw [if_neg hin]
      refine (h.listAgrees k).insertTail (Bool.eq_false_of_not_eq_true hin) fun x => ?_
      rw [Function.update_apply]
  · exact hst.buckets
  · intro x y hx hy hxy
    simp only [Table.macOf, hreport, hhash] at hx hy hxy
    by_cases hxe : x = e <;> by_cases hye : y = e
    · exact hxe.trans hye.symm
    · simp only [hxe, hye, if_true, if_false] at hxy hy
      exact absurd hxy.symm (hst.fresh y hye hy)
    · simp only [hxe, hye, if_true, if_false] at hxy hx
      exact absurd hxy (hst.fresh x hxe hx)
    · simp only [hxe, hye, if_false] at hx hy hxy
      exact h.macInjective x y hx hy hxy
  · simp only [hst.hist]
    refine h.freeSuffix.moveToFront h.hist_nodup ?_ fun x hx => ?_
    · simpa [Table.IsFree, hreport] using hr
    · simp [Table.IsFree, hreport, hx]
  · simp only [hst.hist]
    refine h.unhashedSuffix.moveToFront h.hist_nodup ?_ fun x hx => ?_
    · simp [hhash]
    · simp [hhash, hx]
  · intro x hx k
    simp only [Table.IsFree, hreport] at hx
    by_cases hxe : x = e
    · simp [hxe, hr] at hx
    · simp only [hxe, if_false] at hx
      simpa [hst.flags, hxe] using h.freeUnlisted x hx k
  · intro x hx
    simp only [Table.IsFree, hreport] at hx
    by_cases hxe : x = e
    · simp [hhash, hxe]
    · simp only [hxe, if_false] at hx
      simpa [hhash, hxe] using h.liveHashed x hx
  · intro x hx
    by_cases hxe : x = e
    · simp [hhash, hxe] at hx
    · simp only [hhash, hxe, if_false] at hx
      simpa [hreport, hxe] using h.unhashedUnused x hx

/-- The sample counters do not matter for the invariant. -/
theorem Invariant.recount (h : Invariant t) {f : Elem → AdvReport}
    (hf : ∀ x, f x = { t.advReport x with samplesCounter := (f x).samplesCounter }) :
    Invariant { t with advReport := f } :=
  have hmac : ∀ x, (f x).tagMac = t.macOf x := fun x => by rw [hf x]
  have hlen : ∀ x, (f x).dataLen = (t.advReport x).dataLen := fun x => by rw [hf x]
  have hts : ∀ x, (f x).timestamp = (t.advReport x).timestamp := fun x => by rw [hf x]
  { histPerm := h.histPerm
    listAgrees := h.listAgrees
    bucketsAgree := fun i => (h.bucketsAgree i).congr fun x => by simp [Table.macOf, hmac]
    macInjective := fun x y hx hy hxy =>
      h.macInjective x y hx hy (by simpa [Table.macOf, hmac] using hxy)
    freeSuffix := h.freeSuffix.congr fun x _ => by simp [Table.IsFree, hlen]
    unhashedSuffix := h.unhashedSuffix
    freeUnlisted := fun x hx => h.freeUnlisted x (by simpa [Table.IsFree, hlen] using hx)
    liveHashed := fun x hx => h.liveHashed x (by simpa [Table.IsFree, hlen] using hx)
    unhashedUnused := fun x hx => (hts x).trans (h.unhashedUnused x hx) }

theorem Invariant.put (h : Invariant t) (adv : AdvReport) (hadv : adv.dataLen ≠ 0) :
    Invariant (advTablePut t adv).1 := by
  rcases h.put_cases adv with ⟨t', hst, hput⟩ | ⟨e, _, _, hput⟩
  · rw [hput]
    exact h.enqueue hst (by simpa using hadv)
  · rw [hput]
    refine h.recount fun x => ?_
    rw [Function.update_apply]
    split_ifs with hx <;> simp [AdvReport.countSample, hx]

end Put

section Reads

theorem Invariant.withoutList (h : Invariant t) (k : ListNo) : Invariant (t.withoutList k) where
  histPerm := h.histPerm
  listAgrees j := by
    by_cases hj : j = k
    · subst hj
      simpa [Table.withoutList] using agrees_nil fun _ => rfl
    · simpa [Table.withoutList, hj] using h.listAgrees j
  bucketsAgree := h.bucketsAgree
  macInjective := h.macInjective
  freeSuffix := h.freeSuffix
  unhashedSuffix := h.unhashedSuffix
  freeUnlisted x hx j := by
    by_cases hj : j = k
    · subst hj
      simp [Table.withoutList]
    · simpa [Table.withoutList, hj] using h.freeUnlisted x hx j
  liveHashed := h.liveHashed
  unhashedUnused := h.unhashedUnused

theorem Invariant.removeHead (h : Invariant t) {k : ListNo} {rest : List Elem}
    (hk : t.advReportsRetransmissionList k = e :: rest) : Invariant (t.removeHead k e) where
  histPerm := h.histPerm
  listAgrees j := by
    by_cases hj : j = k
    · subst hj
      have hflags : ∀ x, (t.removeHead j e).isInRetransmissionList j x =
          if x = e then false else t.isInRetransmissionList j x := by
        intro x
        simp [removeHead_flags]
      have hagree := (h.listAgrees j).remove hflags
      rw [hk, List.erase_cons_head] at hagree
      simpa [Table.removeHead, hk] using hagree
    · simpa [Table.removeHead, hj] using h.listAgrees j
  bucketsAgree := h.bucketsAgree
  macInjective := h.macInjective
  freeSuffix := h.freeSuffix
  unhashedSuffix := h.unhashedSuffix
  freeUnlisted x hx j := by
    rw [removeHead_flags, h.freeUnlisted x hx j]
    simp
  liveHashed := h.liveHashed
  unhashedUnused := h.unhashedUnused

theorem Invariant.list3Head (h : Invariant t) :
    Invariant (advTableReadRetransmissionList3Head t).1 := by
  unfold advTableReadRetransmissionList3Head
  cases hk : t.advReportsRetransmissionList .list3 with
  | nil => exact h
  | cons e rest => exact h.removeHead hk

theorem Invariant.resetCounters (h : Invariant t) (q : List Elem) :
    Invariant (t.resetCounters q) := by
  refine h.recount fun x => ?_
  split_ifs <;> rfl

theorem Invariant.cleared (h : Invariant t) : Invariant t.cleared where
  histPerm := h.histPerm
  listAgrees _ := agrees_nil fun _ => rfl
  bucketsAgree := h.bucketsAgree
  macInjective := h.macInjective
  freeSuffix := List.pairwise_of_forall fun _ _ _ => rfl
  unhashedSuffix := h.unhashedSuffix
  freeUnlisted _ _ _ := rfl
  liveHashed _ hx := absurd rfl hx
  unhashedUnused _ _ := rfl

end Reads

section Runs

/-- What an observer of the table sees of one operation: its result, the MAC whose cell it
recycled, and the element that a full output table would have lost. -/
structure Outcome where
  result : Result
  recycled : Option MacAddressBin
  dropped : Option Elem

def Op.recycled (t : Table) : Op → Option MacAddressBin
  | .put adv _ => recycledBy t adv
  | _ => none

def Op.dropped (t : Table) : Op → Option Elem
  | .readAndClear k => (advTableReadRetransmissionListAndClear k t).dropped
  | _ => none

def Op.outcome (t : Table) (op : Op) : Outcome :=
  ⟨(op.apply t).2, op.recycled t, op.dropped t⟩

/-- The advertisement table as a system: any operation may follow any other one. -/
def advTable : System Table Op Outcome where
  init := advTableInit
  step t op := some ((op.apply t).1, op.outcome t)

theorem Invariant.apply (h : Invariant t) (op : Op) : Invariant (op.apply t).1 := by
  cases op with
  | put adv hadv => exact h.put adv hadv
  | readAndClear k =>
    dsimp only [Op.apply]
    rw [h.readAndClear_eq]
    exact h.withoutList k
  | readList3Head => exact h.list3Head
  | historyRead q => exact h
  | statisticsRead =>
    dsimp only [Op.apply]
    rw [h.statisticsRead_eq]
    exact h.resetCounters _
  | clear =>
    dsimp only [Op.apply]
    rw [h.clear_eq]
    exact h.cleared

theorem invariant_run {history : List (Op × Outcome)} (hr : advTable.FreeRun history t) :
    Invariant t := by
  refine hr.invariant invariant_init fun s op s' o hs _ hstep => ?_
  simp only [advTable, Option.some.injEq, Prod.mk.injEq] at hstep
  rw [← hstep.1]
  exact hs.apply op

/-- The agreement of the five lists with the flags and the keys of the cells. -/
structure WellFormed (t : Table) : Prop where
  hist : t.advReportsHistList.Perm (List.finRange maxAdvsTable)
  lists : ∀ k elem, (t.advReportsRetransmissionList k).count elem =
    if t.isInRetransmissionList k elem then 1 else 0
  buckets : ∀ i elem, (t.advHashTable i).count elem =
    if t.isInHashTable elem ∧ i = hashIdx (t.advReport elem).tagMac then 1 else 0
  macs : ∀ elem elem', t.isInHashTable elem → t.isInHashTable elem' →
    (t.advReport elem).tagMac = (t.advReport elem').tagMac → elem = elem'
  free : ∃ live free, t.advReportsHistList = live ++ free ∧
    (∀ elem ∈ live, (t.advReport elem).dataLen ≠ 0) ∧
    (∀ elem ∈ free, (t.advReport elem).dataLen = 0) ∧
    ∀ elem ∈ free, ∀ k, elem ∉ t.advReportsRetransmissionList k

/-- After every run the table represents its lists and flags consistently. -/
theorem advTable_wellFormed {t : Table} {history : List (Op × Outcome)}
    (hr : advTable.FreeRun history t) : WellFormed t := by
  have h := invariant_run hr
  obtain ⟨live, free, hsplit, hlive, hfree⟩ := formSuffix_iff.mp h.freeSuffix
  refine ⟨h.histPerm, h.listAgrees, ?_, h.macInjective, live, free, hsplit, hlive, hfree, ?_⟩
  · intro i elem
    rw [h.bucketsAgree i elem]
    refine if_congr ?_ rfl rfl
    rw [Bool.and_eq_true, decide_eq_true_iff]
    exact and_congr_right fun _ => eq_comm
  · intro elem hmem k hlisted
    have hflag := h.freeUnlisted elem (hfree elem hmem) k
    rw [((h.listAgrees k).mem_iff elem).mp hlisted] at hflag
    cases hflag

/-- A five-byte report of the tag whose MAC bytes are all `n`. -/
def sampleReport (n : UInt8) : AdvReport :=
  { AdvReport.zero with
    timestamp := 1000
    tagMac := ⟨Vector.replicate macAddressNumBytes n⟩
    dataLen := 5 }

def samplePut (n : UInt8) : Op := .put (sampleReport n) (by simp [sampleReport])

theorem advTable_wellFormed_afterClear :
    WellFormed (Op.clear.apply ((samplePut 1).apply advTableInit).1).1 :=
  advTable_wellFormed (.step (.step .init trivial rfl) trivial rfl)

end Runs

end RuuviGateway.AdvTable
