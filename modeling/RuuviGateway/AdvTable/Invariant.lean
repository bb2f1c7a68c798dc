import Mathlib.Data.Fintype.Card
import RuuviGateway.AdvTable.Table
import RuuviGateway.General.IntrusiveList
import RuuviGateway.General.Transition

/-!
# The representation invariant of the advertisement table

Each operation is first brought into a form without loops. The invariant then follows
list by list from the rules for intrusive lists.
-/

namespace RuuviGateway.AdvTable

open General General.IntrusiveList

variable {t : Table} {adv : AdvReport} {elem : Elem} {k : ListNo}

abbrev Table.macOf (t : Table) (elem : Elem) : MacAddressBin := (t.advReport elem).tagMac

/-- A cell that is marked as free in the history list. -/
abbrev Table.IsFree (t : Table) (elem : Elem) : Prop := (t.advReport elem).dataLen = 0

/-- A cell in the hash table is in the bucket of its own MAC and in no other one. -/
def Table.BucketsAgree (t : Table) : Prop :=
  ∀ i, Agrees (fun elem => t.isInHashTable elem && decide (hashIdx (t.macOf elem) = i))
    (t.advHashTable i)

/-- The invariant that the operations keep. Beyond the agreement of lists and flags it
says that live cells are always in the hash table, and that cells which were never in it
have no timestamp and stand at the end of the history list. -/
structure Invariant (t : Table) : Prop where
  histPerm : t.advReportsHistList.Perm (List.finRange maxAdvsTable)
  listAgrees : ∀ k, Agrees (t.isInRetransmissionList k) (t.advReportsRetransmissionList k)
  bucketsAgree : t.BucketsAgree
  macInjective : ∀ elem elem', t.isInHashTable elem → t.isInHashTable elem' →
    t.macOf elem = t.macOf elem' → elem = elem'
  freeSuffix : FormSuffix t.IsFree t.advReportsHistList
  unhashedSuffix : FormSuffix (fun elem => t.isInHashTable elem = false) t.advReportsHistList
  freeUnlisted : ∀ elem, t.IsFree elem → ∀ k, t.isInRetransmissionList k elem = false
  liveHashed : ∀ elem, ¬t.IsFree elem → t.isInHashTable elem
  unhashedUnused : ∀ elem, t.isInHashTable elem = false → (t.advReport elem).timestamp = 0

theorem invariant_init : Invariant advTableInit where
  histPerm := List.Perm.refl _
  listAgrees _ := agrees_nil fun _ => rfl
  bucketsAgree _ := agrees_nil fun _ => rfl
  macInjective _ _ h := by simp [advTableInit] at h
  freeSuffix := List.pairwise_of_forall fun _ _ _ => rfl
  unhashedSuffix := List.pairwise_of_forall fun _ _ _ => rfl
  freeUnlisted _ _ _ := rfl
  liveHashed _ h := absurd rfl h
  unhashedUnused _ _ := rfl

theorem Invariant.mem_hist (h : Invariant t) (elem : Elem) : elem ∈ t.advReportsHistList :=
  h.histPerm.mem_iff.mpr (List.mem_finRange elem)

theorem Invariant.hist_nodup (h : Invariant t) : t.advReportsHistList.Nodup :=
  h.histPerm.nodup_iff.mpr (List.nodup_finRange _)

theorem Invariant.list_length (h : Invariant t) (k : ListNo) :
    (t.advReportsRetransmissionList k).length ≤ maxAdvsTable := by
  simpa using List.Nodup.length_le_card (h.listAgrees k).nodup

/-! ## Searching the hash table -/

theorem Invariant.search_eq_some_iff (h : Invariant t) (mac : MacAddressBin) (elem : Elem) :
    advHashTableSearch t mac = some elem ↔ t.isInHashTable elem ∧ t.macOf elem = mac := by
  have hbucket : ∀ e, e ∈ t.advHashTable (hashIdx mac) ↔
      t.isInHashTable e ∧ hashIdx (t.macOf e) = hashIdx mac := by
    intro e
    simp [(h.bucketsAgree (hashIdx mac)).mem_iff e]
  constructor
  · intro hs
    have hmac := List.find?_some hs
    have hmem := (hbucket elem).mp (List.mem_of_find?_eq_some hs)
    simp only [decide_eq_true_eq] at hmac
    exact ⟨hmem.1, hmac.symm⟩
  · rintro ⟨hin, rfl⟩
    cases hs : advHashTableSearch t (t.macOf elem) with
    | none =>
      have hnone := List.find?_eq_none.mp hs elem ((hbucket elem).mpr ⟨hin, rfl⟩)
      simp at hnone
    | some e =>
      have hmac := List.find?_some hs
      have hmem := (hbucket e).mp (List.mem_of_find?_eq_some hs)
      simp only [decide_eq_true_eq] at hmac
      rw [h.macInjective e elem hmem.1 hin hmac.symm]

theorem Invariant.search_eq_none_iff (h : Invariant t) (mac : MacAddressBin) :
    advHashTableSearch t mac = none ↔ ∀ elem, t.isInHashTable elem → t.macOf elem ≠ mac := by
  constructor
  · intro hs elem hin hmac
    rw [(h.search_eq_some_iff mac elem).mpr ⟨hin, hmac⟩] at hs
    cases hs
  · intro hno
    cases hs : advHashTableSearch t mac with
    | none => rfl
    | some elem =>
      obtain ⟨hin, hmac⟩ := (h.search_eq_some_iff mac elem).mp hs
      exact absurd hmac (hno elem hin)

/-! ## Operations without loops -/

/-- The table after a retransmission list has been emptied. -/
def Table.withoutList (t : Table) (k : ListNo) : Table :=
  { t with
    advReportsRetransmissionList := Function.update t.advReportsRetransmissionList k []
    isInRetransmissionList := Function.update t.isInRetransmissionList k fun _ => false }

theorem removeHead_flags (t : Table) (k : ListNo) (e : Elem) (j : ListNo) (x : Elem) :
    (t.removeHead k e).isInRetransmissionList j x =
      if j = k ∧ x = e then false else t.isInRetransmissionList j x := by
  unfold Table.removeHead
  by_cases hj : j = k
  · subst hj
    by_cases hx : x = e
    · subst hx
      simp
    · simp [hx]
  · simp [hj]

/-- The flags that remain after the members of `q` have been removed from list `k`. -/
def Table.unflag (t : Table) (k : ListNo) (q : List Elem) : ListNo → Elem → Bool :=
  Function.update t.isInRetransmissionList k fun x =>
    if x ∈ q then false else t.isInRetransmissionList k x

@[simp] theorem unflag_nil (t : Table) (k : ListNo) : t.unflag k [] = t.isInRetransmissionList := by
  simp [Table.unflag]

theorem unflag_removeHead (t : Table) (k : ListNo) (e : Elem) (q : List Elem) :
    (t.removeHead k e).unflag k q = t.unflag k (e :: q) := by
  funext j x
  by_cases hj : j = k
  · subst hj
    simp only [Table.unflag, Function.update_self, removeHead_flags, List.mem_cons]
    by_cases hx : x = e <;> simp [hx]
  · simp [Table.unflag, removeHead_flags, hj]

theorem drainLoop_spec (k : ListNo) (q : List Elem) (t : Table) (reports : List AdvReport)
    (hq : t.advReportsRetransmissionList k = q) (hlen : reports.length + q.length ≤ maxAdvsTable) :
    drainLoop k q t reports =
      ⟨{ t with
          advReportsRetransmissionList := Function.update t.advReportsRetransmissionList k []
          isInRetransmissionList := t.unflag k q },
        reports ++ q.map t.advReport, none⟩ := by
  induction q generalizing t reports with
  | nil =>
    have hsame := Function.update_eq_self k t.advReportsRetransmissionList
    rw [hq] at hsame
    simp [drainLoop, hsame]
  | cons e q ih =>
    have hroom : ¬ reports.length ≥ maxAdvsTable := by
      simp only [List.length_cons] at hlen
      omega
    have hhead : (t.removeHead k e).advReportsRetransmissionList k = q := by
      simp [Table.removeHead, hq]
    rw [drainLoop, if_neg hroom, ih _ _ hhead (by simp at hlen ⊢; omega), unflag_removeHead]
    simp [Table.removeHead]

theorem retransmissionListClearLoop_spec (k : ListNo) (q : List Elem) (t : Table)
    (hq : t.advReportsRetransmissionList k = q) :
    retransmissionListClearLoop k q t =
      { t with
        advReportsRetransmissionList := Function.update t.advReportsRetransmissionList k []
        isInRetransmissionList := t.unflag k q } := by
  induction q generalizing t with
  | nil =>
    have hsame := Function.update_eq_self k t.advReportsRetransmissionList
    rw [hq] at hsame
    simp [retransmissionListClearLoop, hsame]
  | cons e q ih =>
    have hhead : (t.removeHead k e).advReportsRetransmissionList k = q := by
      simp [Table.removeHead, hq]
    rw [retransmissionListClearLoop, ih _ hhead, unflag_removeHead]
    simp [Table.removeHead]

/-- Where flags and list agree, removing the members leaves no flag set. -/
theorem unflag_of_agrees
    (h : Agrees (t.isInRetransmissionList k) (t.advReportsRetransmissionList k)) :
    t.unflag k (t.advReportsRetransmissionList k) =
      Function.update t.isInRetransmissionList k fun _ => false := by
  unfold Table.unflag
  congr 1
  funext x
  by_cases hx : x ∈ t.advReportsRetransmissionList k
  · simp [hx]
  · have hflag := mt (h.mem_iff x).mpr hx
    simpa [hx] using hflag

theorem Invariant.readAndClear_eq (h : Invariant t) (k : ListNo) :
    advTableReadRetransmissionListAndClear k t =
      ⟨t.withoutList k, (t.advReportsRetransmissionList k).map t.advReport, none⟩ := by
  unfold advTableReadRetransmissionListAndClear
  rw [drainLoop_spec k _ t [] rfl (by simpa using h.list_length k),
    unflag_of_agrees (h.listAgrees k)]
  rfl

theorem freeLoop_spec (q : List Elem) (hq : q.Nodup) (t : Table) :
    freeLoop q t =
      { t with advReport := fun x => if x ∈ q then (t.advReport x).freed else t.advReport x } := by
  induction q generalizing t with
  | nil => simp [freeLoop]
  | cons e q ih =>
    rw [List.nodup_cons] at hq
    rw [freeLoop, ih hq.2]
    simp only [Table.setAdvReport, Table.mk.injEq, and_true]
    funext x
    by_cases hx : x = e
    · subst hx
      simp [hq.1]
    · simp [hx]

/-- The table after `adv_table_clear`. -/
def Table.cleared (t : Table) : Table :=
  { t with
    advReport := fun x => (t.advReport x).freed
    advReportsRetransmissionList := fun _ => []
    isInRetransmissionList := fun _ _ => false }

theorem Invariant.clear_eq (h : Invariant t) : advTableClear t = t.cleared := by
  have hstep : ∀ (t : Table) (k : ListNo),
      Agrees (t.isInRetransmissionList k) (t.advReportsRetransmissionList k) →
      advRetransmissionListClear k t = t.withoutList k := by
    intro t k hk
    rw [advRetransmissionListClear, retransmissionListClearLoop_spec k _ t rfl, unflag_of_agrees hk]
    rfl
  dsimp only [advTableClear]
  rw [hstep t .list1 (h.listAgrees _),
    hstep _ .list2 (by simpa [Table.withoutList] using h.listAgrees .list2),
    hstep _ .list3 (by simpa [Table.withoutList] using h.listAgrees .list3),
    freeLoop_spec _ (by simpa [Table.withoutList] using h.hist_nodup)]
  simp only [Table.withoutList, h.mem_hist, if_true, Table.cleared, Table.mk.injEq, true_and,
    and_true]
  constructor
  · funext j
    cases j <;> simp
  · funext j
    cases j <;> simp

/-- The entries that a statistics read reaches. -/
def Table.counted (t : Table) (q : List Elem) : List Elem :=
  q.takeWhile fun x => decide ((t.advReport x).timestamp ≠ 0)

def Table.resetCounters (t : Table) (q : List Elem) : Table :=
  { t with
    advReport := fun x =>
      if x ∈ q then { t.advReport x with samplesCounter := 0 } else t.advReport x }

theorem counted_reset (t : Table) (e : Elem) (q : List Elem) :
    (t.setAdvReport e { t.advReport e with samplesCounter := 0 }).counted q = t.counted q := by
  unfold Table.counted
  congr 1
  funext x
  by_cases hx : x = e
  · subst hx
    simp [Table.setAdvReport]
  · simp [Table.setAdvReport, hx]

theorem statisticsLoop_spec (q : List Elem) (hq : q.Nodup) (t : Table) (reports : List AdvReport)
    (hlen : reports.length + q.length ≤ maxAdvsTable) :
    statisticsLoop q t reports =
      (t.resetCounters (t.counted q), reports ++ (t.counted q).map t.advReport) := by
  induction q generalizing t reports with
  | nil => simp [statisticsLoop, Table.counted, Table.resetCounters]
  | cons e q ih =>
    rw [List.nodup_cons] at hq
    have hroom : ¬ reports.length ≥ maxAdvsTable := by
      simp only [List.length_cons] at hlen
      omega
    rw [statisticsLoop, if_neg hroom]
    by_cases hts : (t.advReport e).timestamp = 0
    · simp [hts, Table.counted, Table.resetCounters]
    · have hnot : e ∉ t.counted q := fun hm => hq.1 (List.takeWhile_subset _ hm)
      have hcons : t.counted (e :: q) = e :: t.counted q := by simp [Table.counted, hts]
      rw [if_neg hts, ih hq.2 _ _ (by simp at hlen ⊢; omega), counted_reset, hcons]
      refine Prod.ext ?_ ?_
      · simp only [Table.resetCounters, Table.setAdvReport, Table.mk.injEq, and_true]
        funext x
        by_cases hx : x = e
        · subst hx
          simp [hnot]
        · simp [hx]
      · have hmap : (t.counted q).map (t.setAdvReport e
            { t.advReport e with samplesCounter := 0 }).advReport =
            (t.counted q).map t.advReport := by
          refine List.map_congr_left fun x hx => ?_
          have hne : x ≠ e := fun hxe => hnot (hxe ▸ hx)
          simp [Table.setAdvReport, hne]
        simp [hmap]

theorem Invariant.statisticsRead_eq (h : Invariant t) :
    advTableStatisticsRead t =
      (t.resetCounters (t.counted t.advReportsHistList),
        (t.counted t.advReportsHistList).map t.advReport) := by
  have hlen : t.advReportsHistList.length = maxAdvsTable := by
    rw [h.histPerm.length_eq, List.length_finRange]
  unfold advTableStatisticsRead
  rw [statisticsLoop_spec _ h.hist_nodup t [] (by simp [hlen])]
  rfl

/-! ## What a put can do -/

theorem advTableEnqueue_eq (t : Table) (e : Elem) :
    advTableEnqueue t e =
      { t with
        advReportsRetransmissionList := fun k =>
          if t.isInRetransmissionList k e then t.advReportsRetransmissionList k
          else t.advReportsRetransmissionList k ++ [e]
        isInRetransmissionList := fun k => Function.update (t.isInRetransmissionList k) e true
        advReportsHistList := e :: t.advReportsHistList.erase e
        histNonempty := List.cons_ne_nil _ _ } := by
  have hone : ∀ (t : Table) (k : ListNo), t.insertRetransmission e k =
      { t with
        advReportsRetransmissionList := Function.update t.advReportsRetransmissionList k
          (if t.isInRetransmissionList k e then t.advReportsRetransmissionList k
            else t.advReportsRetransmissionList k ++ [e])
        isInRetransmissionList := Function.update t.isInRetransmissionList k
          (Function.update (t.isInRetransmissionList k) e true) } := by
    intro t k
    unfold Table.insertRetransmission
    by_cases hin : t.isInRetransmissionList k e
    · have hflag := Function.update_eq_self e (t.isInRetransmissionList k)
      rw [hin] at hflag
      simp [hin, hflag]
    · simp [hin]
  dsimp only [advTableEnqueue]
  rw [hone, hone, hone]
  simp only [Table.moveToHistHead, Table.mk.injEq, true_and, and_true]
  constructor
  · funext k
    cases k <;> simp
  · funext k
    cases k <;> simp

/-- `t'` is `t` after the report `r` has been stored in the cell `e`, before the cell is
queued for retransmission. -/
structure Stored (t t' : Table) (e : Elem) (r : AdvReport) : Prop where
  advReport : t'.advReport = Function.update t.advReport e r
  isInHashTable : t'.isInHashTable = Function.update t.isInHashTable e true
  flags : t'.isInRetransmissionList = t.isInRetransmissionList
  lists : t'.advReportsRetransmissionList = t.advReportsRetransmissionList
  hist : t'.advReportsHistList = t.advReportsHistList
  buckets : t'.BucketsAgree
  fresh : ∀ x, x ≠ e → t.isInHashTable x → t.macOf x ≠ r.tagMac

end RuuviGateway.AdvTable
