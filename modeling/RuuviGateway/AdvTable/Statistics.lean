import RuuviGateway.AdvTable.Delivery
import RuuviGateway.General.RecencyList

/-!
# Sample counts

The puts for a MAC and the samples that were reported for it are read off the history of operations.
Each put adds one sample to the stored counter or starts it, and each statistics read moves the
stored counters to the reports, as long as it is not stopped by a timestamp of zero.
-/

namespace RuuviGateway.AdvTable

open General General.IntrusiveList

variable {t : Table} {history : List Event} {mac : MacAddressBin}

section Account

/-- The puts for a MAC since it last entered the table. -/
def putsOf (mac : MacAddressBin) : List Event → ℕ
  | [] => 0
  | (.put adv _, o) :: earlier =>
      if adv.tagMac = mac then putsOf mac earlier + 1
      else if o.recycled = some mac then 0
      else putsOf mac earlier
  | _ :: earlier => putsOf mac earlier

/-- The samples of a MAC in the result of a read. -/
def samplesOf (mac : MacAddressBin) : Result → ℕ
  | .reports reports =>
      reports.foldr (fun r n => if r.tagMac = mac then r.samplesCounter.toNat + n else n) 0
  | _ => 0

/-- The samples that statistics reads have reported for a MAC since it last entered the table. -/
def reportedOf (mac : MacAddressBin) : List Event → ℕ
  | [] => 0
  | (.put _ _, o) :: earlier => if o.recycled = some mac then 0 else reportedOf mac earlier
  | (.statisticsRead, o) :: earlier => reportedOf mac earlier + samplesOf mac o.result
  | _ :: earlier => reportedOf mac earlier

/-- How often a MAC is in the result of a read. -/
def listedIn (mac : MacAddressBin) : Result → ℕ
  | .reports reports => (reports.map AdvReport.tagMac).count mac
  | _ => 0

/-- Every statistics read listed every stored MAC exactly once, and no other one. -/
def ListsAll : List Event → Prop
  | [] => True
  | (.statisticsRead, o) :: earlier =>
      (∀ mac, listedIn mac o.result = if (storedBy mac earlier).isSome then 1 else 0) ∧
        ListsAll earlier
  | _ :: earlier => ListsAll earlier

/-- The stored counter of a MAC, zero if the MAC is not in the table. -/
def storedCount (mac : MacAddressBin) (history : List Event) : ℕ :=
  ((storedBy mac history).map fun r => r.samplesCounter.toNat).getD 0

/-- The operation loses no sample: an inserted report brings its first sample, a counter that is
incremented does not wrap around, and no stored timestamp stops a read. -/
def Op.Counts (t : Table) : Op → Prop
  | .put adv _ =>
      match advHashTableSearch t adv.tagMac with
      | none => adv.samplesCounter = 1
      | some elem => (t.advReport elem).samplesCounter ≠ 0xffffffff
  | .statisticsRead => ∀ elem, t.isInHashTable elem → (t.advReport elem).timestamp ≠ 0
  | .clear => False
  | _ => True

end Account

section Balance

/-- Every sample of a MAC is reported or stored. -/
structure Balanced (history : List Event) : Prop where
  sums : ∀ mac, reportedOf mac history + storedCount mac history = putsOf mac history
  absent : ∀ mac, storedBy mac history = none → putsOf mac history = 0

theorem balanced_init : Balanced [] where
  sums _ := rfl
  absent _ _ := rfl

theorem Balanced.reported_absent (hb : Balanced history) (hmac : storedBy mac history = none) :
    reportedOf mac history = 0 := by
  have hsum := hb.sums mac
  rw [hb.absent mac hmac] at hsum
  omega

/-- The counter of the MAC of a put after it. -/
def nextCounter (t : Table) (adv : AdvReport) : UInt32 :=
  match advHashTableSearch t adv.tagMac with
  | none => adv.samplesCounter
  | some elem => (t.advReport elem).samplesCounter + 1

theorem Accounts.storedBy_put (h : Invariant t) (ha : Accounts t history) {adv : AdvReport}
    (hadv : adv.dataLen ≠ 0) :
    ∃ r, storedBy adv.tagMac ((.put adv hadv, (Op.put adv hadv).outcome t) :: history) = some r ∧
      r.samplesCounter = nextCounter t adv := by
  have hold := ha.search h adv.tagMac
  unfold nextCounter
  dsimp only [Op.outcome, Op.apply]
  rcases h.put_cases adv with ⟨t', -, hput⟩ | ⟨e, hs, -, hput⟩
  · simp only [hput, storedBy, if_true]
    rw [hold]
    cases hs : advHashTableSearch t adv.tagMac with
    | none => exact ⟨adv, rfl, rfl⟩
    | some e => exact ⟨adv.replacing (some (t.advReport e)), rfl, rfl⟩
  · simp only [hput, storedBy, if_true, Result.updated.injEq, Bool.false_eq_true, if_false]
    rw [hold, hs]
    exact ⟨(t.advReport e).countSample, rfl, rfl⟩

theorem recycledBy_own (h : Invariant t) (adv : AdvReport) :
    recycledBy t adv ≠ some adv.tagMac := by
  intro hrec
  exact ((h.recycledBy_iff adv _).mp hrec).1 rfl

/-- A put counts its sample exactly when it meets the guard. -/
theorem Balanced.put_own (hb : Balanced history) (h : Invariant t) (ha : Accounts t history)
    {adv : AdvReport} {hadv : adv.dataLen ≠ 0} {event : Event}
    (hevent : event = (.put adv hadv, (Op.put adv hadv).outcome t)) :
    reportedOf adv.tagMac (event :: history) + storedCount adv.tagMac (event :: history) =
      putsOf adv.tagMac (event :: history) ↔ Op.Counts t (.put adv hadv) := by
  subst hevent
  obtain ⟨r, hr, hcounter⟩ := ha.storedBy_put h hadv
  have hreported : reportedOf adv.tagMac ((.put adv hadv, (Op.put adv hadv).outcome t) :: history) =
      reportedOf adv.tagMac history := if_neg (recycledBy_own h adv)
  have hputs : putsOf adv.tagMac ((.put adv hadv, (Op.put adv hadv).outcome t) :: history) =
      putsOf adv.tagMac history + 1 := if_pos rfl
  have hold := ha.search h adv.tagMac
  have hsum := hb.sums adv.tagMac
  rw [hreported, hputs, storedCount, hr, Option.map_some, Option.getD_some, hcounter]
  unfold nextCounter Op.Counts
  dsimp only
  cases hs : advHashTableSearch t adv.tagMac with
  | none =>
    rw [hs] at hold
    rw [hb.absent _ hold, hb.reported_absent hold, ← UInt32.toNat_inj]
    simp
  | some e =>
    rw [hs] at hold
    rw [storedCount, hold, Option.map_map, Option.map_some, Option.getD_some, Function.comp_apply]
      at hsum
    dsimp only
    rw [← hsum, UInt32.toNat_add, Ne, ← UInt32.toNat_inj]
    have hlt := (t.advReport e).samplesCounter.toNat_lt
    simp only [UInt32.reduceToNat, Nat.reducePow]
    omega

theorem Balanced.put (hb : Balanced history) (h : Invariant t) (ha : Accounts t history)
    {adv : AdvReport} {hadv : adv.dataLen ≠ 0} (hcounts : Op.Counts t (.put adv hadv)) :
    Balanced ((.put adv hadv, (Op.put adv hadv).outcome t) :: history) := by
  obtain ⟨r, hr, -⟩ := ha.storedBy_put h hadv
  constructor
  · intro mac
    by_cases hmac : adv.tagMac = mac
    · subst hmac
      exact (hb.put_own h ha rfl).mpr hcounts
    · simp only [reportedOf, storedCount, storedBy, putsOf, if_neg hmac]
      split_ifs
      · rfl
      · exact hb.sums mac
  · intro mac hnone
    by_cases hmac : adv.tagMac = mac
    · subst hmac
      rw [hr] at hnone
      cases hnone
    · simp only [storedBy, putsOf, if_neg hmac] at hnone ⊢
      split_ifs at hnone ⊢
      · rfl
      · exact hb.absent mac hnone

theorem samplesOf_eq_zero {q : List Elem} (hq : ∀ x ∈ q, t.macOf x ≠ mac) :
    samplesOf mac (.reports (q.map t.advReport)) = 0 := by
  induction q with
  | nil => rfl
  | cons x q ih =>
    rw [List.forall_mem_cons] at hq
    have hrest := ih hq.2
    rw [samplesOf] at hrest ⊢
    rw [List.map_cons, List.foldr_cons, hrest, if_neg hq.1]

/-- A read reports the counter of every MAC that it lists. -/
theorem Invariant.samplesOf_counted (h : Invariant t) {q : List Elem} (hq : q.Nodup)
    (hin : ∀ x ∈ q, t.isInHashTable x) {e : Elem} (he : t.isInHashTable e) :
    samplesOf (t.macOf e) (.reports (q.map t.advReport)) =
      if e ∈ q then (t.advReport e).samplesCounter.toNat else 0 := by
  induction q with
  | nil => rfl
  | cons x q ih =>
    rw [List.nodup_cons] at hq
    rw [List.forall_mem_cons] at hin
    have hrest := ih hq.2 hin.2
    rw [samplesOf] at hrest ⊢
    rw [List.map_cons, List.foldr_cons, hrest]
    by_cases hx : x = e
    · subst hx
      simp [hq.1]
    · have hmac : t.macOf x ≠ t.macOf e := fun hxe => hx (h.macInjective x e hin.1 he hxe)
      simp [hmac, Ne.symm hx]

theorem Invariant.listedIn_counted (h : Invariant t) {q : List Elem} (hq : q.Nodup)
    (hin : ∀ x ∈ q, t.isInHashTable x) {e : Elem} (he : t.isInHashTable e) :
    listedIn (t.macOf e) (.reports (q.map t.advReport)) = if e ∈ q then 1 else 0 := by
  have hmem : t.macOf e ∈ (q.map t.advReport).map AdvReport.tagMac ↔ e ∈ q := by
    rw [List.map_map, List.mem_map]
    constructor
    · rintro ⟨x, hx, hxe⟩
      rw [← h.macInjective x e (hin x hx) he hxe]
      exact hx
    · intro hmem
      exact ⟨e, hmem, rfl⟩
  have hnodup : ((q.map t.advReport).map AdvReport.tagMac).Nodup := by
    rw [List.map_map, List.nodup_map_iff_inj_on hq]
    intro x hx y hy hxy
    exact h.macInjective x y (hin x hx) (hin y hy) hxy
  rw [listedIn]
  split_ifs with he
  · exact List.count_eq_one_of_mem hnodup (hmem.mpr he)
  · exact List.count_eq_zero.mpr (mt hmem.mp he)

/-- The cells that a statistics read lists are in the hash table. -/
theorem Invariant.counted_hashed (h : Invariant t) {q : List Elem} {e : Elem}
    (he : e ∈ t.counted q) : t.isInHashTable e := by
  have htime := List.mem_takeWhile_imp he
  by_contra hin
  rw [Bool.not_eq_true] at hin
  rw [h.unhashedUnused e hin] at htime
  simp at htime

theorem Balanced.statisticsRead (hb : Balanced history) (h : Invariant t)
    (ha : Accounts t history) :
    Balanced ((.statisticsRead, Op.statisticsRead.outcome t) :: history) := by
  set q := t.counted t.advReportsHistList with hq
  have hnodup : q.Nodup := h.hist_nodup.sublist (List.takeWhile_sublist _)
  have hhashed : ∀ x ∈ q, t.isInHashTable x := fun x hx => h.counted_hashed hx
  have hresult : (Op.statisticsRead.outcome t).result = .reports (q.map t.advReport) := by
    dsimp only [Op.outcome, Op.apply]
    rw [h.statisticsRead_eq]
  constructor
  · intro mac
    have hsum := hb.sums mac
    rw [storedCount] at hsum ⊢
    simp only [reportedOf, putsOf, storedBy, hresult]
    cases hs : advHashTableSearch t mac with
    | none =>
      have hnone := (h.search_eq_none_iff mac).mp hs
      rw [ha.absent mac hnone] at hsum ⊢
      have hunlisted : samplesOf mac (.reports (q.map t.advReport)) = 0 := by
        exact samplesOf_eq_zero fun x hx => hnone x (hhashed x hx)
      rw [hunlisted]
      split_ifs <;> exact hsum
    | some e =>
      obtain ⟨hin, rfl⟩ := (h.search_eq_some_iff mac e).mp hs
      have hlisted := h.listedIn_counted hnodup hhashed hin
      rw [ha.stored e hin] at hsum ⊢
      rw [h.samplesOf_counted hnodup hhashed hin]
      by_cases he : e ∈ q
      · rw [if_pos he, if_pos]
        · simpa using hsum
        · rw [if_pos he, listedIn] at hlisted
          exact List.count_pos_iff.mp (by omega)
      · rw [if_neg he, if_neg]
        · exact hsum
        · rw [if_neg he, listedIn] at hlisted
          exact List.count_eq_zero.mp hlisted
  · intro mac hnone
    simp only [storedBy, putsOf, hresult] at hnone ⊢
    apply hb.absent mac
    split_ifs at hnone
    · simpa using hnone
    · exact hnone

end Balance

section Listing

/-- A read lists all stored reports exactly when it meets no timestamp of zero. -/
theorem Invariant.lists_iff (h : Invariant t) (ha : Accounts t history) :
    (∀ mac, listedIn mac (Op.statisticsRead.outcome t).result =
      if (storedBy mac history).isSome then 1 else 0) ↔ Op.statisticsRead.Counts t := by
  have hresult : (Op.statisticsRead.outcome t).result =
      .reports ((t.counted t.advReportsHistList).map t.advReport) := by
    dsimp only [Op.outcome, Op.apply]
    rw [h.statisticsRead_eq]
  have hnodup : (t.counted t.advReportsHistList).Nodup :=
    h.hist_nodup.sublist (List.takeWhile_sublist _)
  have hhashed : ∀ x ∈ t.counted t.advReportsHistList, t.isInHashTable x :=
    fun x hx => h.counted_hashed hx
  rw [hresult]
  constructor
  · intro hall e he
    have hlisted := hall (t.macOf e)
    rw [h.listedIn_counted hnodup hhashed he, ha.stored e he] at hlisted
    have hmem : e ∈ t.counted t.advReportsHistList := by
      by_contra hno
      rw [if_neg hno] at hlisted
      cases hlisted
    simpa using List.mem_takeWhile_imp hmem
  · intro hcounts mac
    have htimed (x : Elem) : decide ((t.advReport x).timestamp ≠ 0) = t.isInHashTable x := by
      cases hin : t.isInHashTable x with
      | false => simp [h.unhashedUnused x hin]
      | true => simp [hcounts x hin]
    have hcounted :
        t.counted t.advReportsHistList = t.advReportsHistList.filter t.isInHashTable := by
      rw [Table.counted, takeWhile_congr fun x _ => htimed x]
      apply takeWhile_eq_filter
      apply h.unhashedSuffix.congr
      intro x _
      simp
    cases hs : advHashTableSearch t mac with
    | none =>
      have hnone := (h.search_eq_none_iff mac).mp hs
      rw [ha.absent mac hnone, listedIn, List.count_eq_zero.mpr]
      · rfl
      · intro hmem
        rw [List.map_map] at hmem
        obtain ⟨x, hx, hxmac⟩ := List.mem_map.mp hmem
        exact hnone x (hhashed x hx) hxmac
    | some e =>
      obtain ⟨hin, rfl⟩ := (h.search_eq_some_iff mac e).mp hs
      have hmem : e ∈ t.counted t.advReportsHistList := by
        rw [hcounted]
        exact List.mem_filter.mpr ⟨h.mem_hist e, hin⟩
      rw [h.listedIn_counted hnodup hhashed hin, ha.stored e hin, if_pos hmem]
      rfl

end Listing

section Runs

/-- What a run should keep: the reads so far listed every stored MAC, and for the MACs in the table
the reported samples and the stored ones add up to the puts. -/
structure ConservesSamples (t : Table) (history : List Event) : Prop where
  listed : ListsAll history
  sums : ∀ elem, t.isInHashTable elem →
    reportedOf (t.macOf elem) history + (t.advReport elem).samplesCounter.toNat =
      putsOf (t.macOf elem) history

theorem Accounts.conserves (ha : Accounts t history) (hl : ListsAll history)
    (hb : Balanced history) : ConservesSamples t history where
  listed := hl
  sums e he := by
    have hsum := hb.sums (t.macOf e)
    rw [storedCount, ha.stored e he] at hsum
    exact hsum

theorem Balanced.apply (hb : Balanced history) (h : Invariant t) (ha : Accounts t history)
    {op : Op} (hop : op.Counts t) : Balanced ((op, op.outcome t) :: history) := by
  cases op with
  | put adv hadv => exact hb.put h ha hop
  | statisticsRead => exact hb.statisticsRead h ha
  | clear => exact absurd hop id
  | readAndClear k => exact ⟨hb.sums, hb.absent⟩
  | readList3Head => exact ⟨hb.sums, hb.absent⟩
  | historyRead q => exact ⟨hb.sums, hb.absent⟩

theorem ListsAll.apply (hl : ListsAll history) (h : Invariant t) (ha : Accounts t history)
    {op : Op} (hop : op.Counts t) : ListsAll ((op, op.outcome t) :: history) := by
  cases op with
  | statisticsRead => exact ⟨(h.lists_iff ha).mpr hop, hl⟩
  | put adv hadv => exact hl
  | readAndClear k => exact hl
  | readList3Head => exact hl
  | historyRead q => exact hl
  | clear => exact hl

/-- The guard is needed: an operation that does not meet it loses a sample or a stored MAC. -/
theorem ConservesSamples.counts (hb : Balanced history) (h : Invariant t) (ha : Accounts t history)
    {op : Op} (hop : op ≠ .clear)
    (hc : ConservesSamples (op.apply t).1 ((op, op.outcome t) :: history)) : op.Counts t := by
  cases op with
  | put adv hadv =>
    apply (hb.put_own h ha rfl).mp
    obtain ⟨r, hr, -⟩ := ha.storedBy_put h hadv
    have ha' := ha.apply h (.put adv hadv)
    have hsearch := ha'.search (h.apply _) adv.tagMac
    rw [hr] at hsearch
    obtain ⟨e, hs, rfl⟩ := Option.map_eq_some_iff.mp hsearch.symm
    obtain ⟨hin, hmac⟩ := ((h.apply _).search_eq_some_iff _ _).mp hs
    have hsum := hc.sums e hin
    rw [hmac] at hsum
    rw [storedCount, hr]
    exact hsum
  | statisticsRead => exact (h.lists_iff ha).mp hc.listed.1
  | clear => exact absurd rfl hop
  | readAndClear k => trivial
  | readList3Head => trivial
  | historyRead q => trivial

theorem balanced_run (hr : advTable.Run (fun t op => op.Counts t) history t) :
    Balanced history ∧ ListsAll history := by
  induction hr with
  | init => exact ⟨balanced_init, trivial⟩
  | step hr hop hstep ih =>
    obtain ⟨h, ha⟩ := accounts_run hr.free
    simp only [advTable, Option.some.injEq, Prod.mk.injEq] at hstep
    rw [← hstep.2]
    exact ⟨ih.1.apply h ha hop, ih.2.apply h ha hop⟩

/-- Statistics conserve samples along every run whose operations all count, and the first operation
that does not count breaks it. -/
theorem advTable_conservesSamples (hr : advTable.Run (fun t op => op.Counts t) history t) :
    ConservesSamples t history ∧ ∀ op, op ≠ .clear →
      (ConservesSamples (op.apply t).1 ((op, op.outcome t) :: history) ↔ op.Counts t) := by
  obtain ⟨h, ha⟩ := accounts_run hr.free
  obtain ⟨hb, hl⟩ := balanced_run hr
  refine ⟨ha.conserves hl hb, ?_⟩
  intro op hop
  constructor
  · exact ConservesSamples.counts hb h ha hop
  · intro hcounts
    exact (ha.apply h op).conserves (hl.apply h ha hcounts) (hb.apply h ha hcounts)

/-- A report that brings its first sample. -/
def samplePutCounted (n : UInt8) : Op :=
  .put { sampleReport n with samplesCounter := 1 } (show (5 : UInt8) ≠ 0 by decide)

theorem advTable_conservesSamples_sample : ∃ history,
    advTable.FreeRun history ((samplePutCounted 1).apply advTableInit).1 ∧
      ConservesSamples ((samplePutCounted 1).apply advTableInit).1 history := by
  have hcounts : (samplePutCounted 1).Counts advTable.init := rfl
  have hrun :
      advTable.Run (fun t op => op.Counts t) _ ((samplePutCounted 1).apply advTableInit).1 :=
    .step .init hcounts rfl
  exact ⟨_, hrun.free, (advTable_conservesSamples hrun).1⟩

/-- The first report of a tag in counter mode. -/
def samplePutFirst (n : UInt8) : Op :=
  .put { sampleReport n with timestamp := 0 } (show (5 : UInt8) ≠ 0 by decide)

def sampleInserted : Table := ((samplePut 1).apply advTableInit).1

def sampleUntimed : Table := ((samplePutFirst 1).apply advTableInit).1

/-- The first report of a tag is not counted, and a stored tag is not listed after a report with the
timestamp zero. -/
theorem advTable_losesSamples :
    (∃ history, advTable.FreeRun history sampleInserted ∧ ∃ elem,
      sampleInserted.isInHashTable elem ∧
      reportedOf (sampleInserted.macOf elem) history +
        (sampleInserted.advReport elem).samplesCounter.toNat = 0 ∧
      putsOf (sampleInserted.macOf elem) history = 1) ∧
    ∃ history, advTable.FreeRun history sampleUntimed ∧ ∃ elem,
      sampleUntimed.isInHashTable elem ∧ putsOf (sampleUntimed.macOf elem) history = 1 ∧
      (advTableStatisticsRead sampleUntimed).2 = [] := by
  have hinserted : advTable.FreeRun _ sampleInserted := .step .init trivial rfl
  have huntimed : advTable.FreeRun _ sampleUntimed := .step .init trivial rfl
  constructor
  · refine ⟨_, hinserted, advTableInit.lastElem, ?_, ?_, ?_⟩
    · decide +kernel
    · decide +kernel
    · decide +kernel
  · refine ⟨_, huntimed, advTableInit.lastElem, ?_, ?_, ?_⟩
    · decide +kernel
    · decide +kernel
    · decide +kernel

end Runs

end RuuviGateway.AdvTable
