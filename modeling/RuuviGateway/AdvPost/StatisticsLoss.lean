import RuuviGateway.AdvPost.AsyncComm
import RuuviGateway.AdvTable.Statistics
import RuuviGateway.Http.AsyncRequest

/-!
# Samples and failed statistics requests

The statistics are read, and the counters of the samples reset, before most of the steps that can
fail. A request that fails afterwards loses the samples that it has read.
-/

namespace RuuviGateway.AdvPost

open AdvTable General

section Model

/-- What a statistics request depends on: the steps of `adv_post_stat`, and those of
`http_post_stat`. -/
structure StatRequest where
  env : Env
  outcome : Http.StatOutcome

/-- The result of `http_post_stat`: the JSON is generated, the client is created, and the first
`esp_http_client_perform` succeeds. -/
def StatRequest.isPosted (r : StatRequest) : Bool :=
  r.outcome.jsonCreated && r.outcome.clientInit && r.outcome.send.postDataSet &&
    r.outcome.send.again

/-- `adv_post_statistics_do_send`. -/
def StatRequest.doSend (r : StatRequest) (w : World) : World × Bool :=
  advPostStatisticsDoSend w { r.env with httpPostStat := r.isPosted }

/-- The samples that are counted for a MAC, which is `none` if the MAC is not in the table. -/
def countOf (t : Table) (mac : MacAddressBin) : Option UInt32 :=
  (advHashTableSearch t mac).map fun elem => (t.advReport elem).samplesCounter

/-- A request that fails leaves every sample counted. -/
def StatRequest.KeepsSamples (r : StatRequest) (w : World) : Prop :=
  (r.doSend w).2 = false → ∀ mac, countOf (r.doSend w).1.table mac = countOf w.table mac

/-- The configuration is copied and there is memory for the reports. -/
def StatRequest.Reads (r : StatRequest) : Prop :=
  r.env.gwCfgGetHttpStatCopy = true ∧ r.env.statReportsAllocated = true

instance (r : StatRequest) : Decidable r.Reads := inferInstanceAs (Decidable (_ ∧ _))

/-- The steps after the read. -/
def StatRequest.Completes (r : StatRequest) : Prop :=
  r.env.resetInfoGet = true ∧ r.env.statInfoGenerated = true ∧ r.isPosted = true

instance (r : StatRequest) : Decidable r.Completes := inferInstanceAs (Decidable (_ ∧ _))

/-- The entries that a read reaches have no samples. -/
def NothingCounted (t : Table) : Prop :=
  ∀ mac elem, advHashTableSearch t mac = some elem →
    elem ∈ t.counted (t.advReportsHistList.take maxAdvsTable) →
      (t.advReport elem).samplesCounter = 0

/-- The request does not fail after it has read samples. -/
def StatRequest.LosesNothing (r : StatRequest) (w : World) : Prop :=
  r.Reads → r.Completes ∨ NothingCounted w.table

/-- The reports that have been posted last. -/
def postedReports : List Effect → List AdvReport
  | .httpPostStat reports true :: _ => reports
  | _ => []

/-- The other tasks use the table, and the posting task sends the statistics. -/
inductive StatLabel
  | table (op : Op)
  | request (r : StatRequest)

inductive StatOutput
  | table (o : Outcome)
  | started (reports : List AdvReport)
  | failed

def World.statStep (w : World) : StatLabel → Option (World × StatOutput)
  | .table .statisticsRead => none
  | .table op => some ({ w with table := (op.apply w.table).1 }, .table (op.outcome w.table))
  | .request r =>
    let sent := r.doSend w
    some (sent.1, if sent.2 then .started (postedReports sent.1.log) else .failed)

def statistics (nonce statNonce : UInt32) : System World StatLabel StatOutput where
  init := .initial nonce statNonce
  step := World.statStep

/-- What has happened to the table if only the requests that were started have read it. -/
def tableEvent : StatLabel × StatOutput → Option Event
  | (.table op, .table o) => some (op, o)
  | (.request _, .started reports) => some (.statisticsRead, ⟨.reports reports, none, none⟩)
  | _ => none

/-- The samples of a MAC since the last statistics, or since it entered the table. -/
def samplesSince (mac : MacAddressBin) : List Event → ℕ
  | [] => 0
  | (.put adv _, o) :: earlier =>
    if adv.tagMac = mac then samplesSince mac earlier + 1
    else if o.recycled = some mac then 0
    else samplesSince mac earlier
  | (.statisticsRead, _) :: _ => 0
  | _ :: earlier => samplesSince mac earlier

def StatLabel.LosesNothing (w : World) : StatLabel → Prop
  | .table _ => True
  | .request r => r.LosesNothing w

end Model

section Calls

variable {t : Table} {w : World} {r : StatRequest}

/-- The request is posted exactly if `http_post_stat` says so. -/
theorem isPosted_eq {osStrToUint32Cptr : Bytes → ℕ → UInt32 × ℕ} {task : ℕ}
    {useSslClientCert useSslServerCert started : Bool} {http http' : Http.World}
    (h : Http.httpPostStat osStrToUint32Cptr task useSslClientCert useSslServerCert r.outcome http =
      some (started, http')) : started = r.isPosted := by
  obtain ⟨locked, -, hsent⟩ := Option.map_eq_some_iff.mp h
  refine (congrArg Prod.fst hsent).symm.trans ?_
  unfold Http.httpSendStatisticsInternal Http.World.send Http.httpSendAsync StatRequest.isPosted
  cases r.outcome.jsonCreated with
  | false => rfl
  | true =>
    cases r.outcome.clientInit with
    | false => rfl
    | true =>
      cases r.outcome.send.postDataSet with
      | false => rfl
      | true => cases r.outcome.send.again <;> rfl

theorem resetCounters_cons (t : Table) (e : Elem) (q : List Elem) :
    (t.setAdvReport e { t.advReport e with samplesCounter := 0 }).resetCounters q =
      t.resetCounters (e :: q) := by
  simp only [Table.resetCounters, Table.setAdvReport, Table.mk.injEq, and_true]
  funext x
  by_cases hx : x = e
  · subst hx
    simp
  · simp [hx]

/-- A read resets the counters of what it reaches, whatever the table. -/
theorem statisticsLoop_table (q : List Elem) (t : Table) (reports : List AdvReport) :
    (statisticsLoop q t reports).1 =
      t.resetCounters (t.counted (q.take (maxAdvsTable - reports.length))) := by
  induction q generalizing t reports with
  | nil => simp [statisticsLoop, Table.counted, Table.resetCounters]
  | cons e q ih =>
    rw [statisticsLoop]
    by_cases hfull : reports.length ≥ maxAdvsTable
    · rw [if_pos hfull, Nat.sub_eq_zero_of_le hfull]
      simp [Table.counted, Table.resetCounters]
    · obtain ⟨n, hn⟩ : ∃ n, maxAdvsTable - reports.length = n + 1 :=
        ⟨maxAdvsTable - reports.length - 1, by omega⟩
      rw [if_neg hfull, hn, List.take_succ_cons]
      by_cases hts : (t.advReport e).timestamp = 0
      · simp [hts, Table.counted, Table.resetCounters]
      · have hrest : maxAdvsTable - (reports ++ [t.advReport e]).length = n := by
          rw [List.length_append, List.length_singleton]
          omega
        have hcons : t.counted (e :: q.take n) = e :: t.counted (q.take n) := by
          simp [Table.counted, hts]
        rw [if_neg hts, ih, hrest, counted_reset, resetCounters_cons, hcons]

theorem statisticsRead_table (t : Table) : (advTableStatisticsRead t).1 =
    t.resetCounters (t.counted (t.advReportsHistList.take maxAdvsTable)) :=
  statisticsLoop_table t.advReportsHistList t []

theorem search_resetCounters (t : Table) (q : List Elem) (mac : MacAddressBin) :
    advHashTableSearch (t.resetCounters q) mac = advHashTableSearch t mac := by
  unfold advHashTableSearch Table.resetCounters
  dsimp only
  congr 1
  funext x
  split_ifs <;> rfl

/-- Nothing is lost by a read that finds nothing. -/
theorem countOf_statisticsRead_iff :
    (∀ mac, countOf (advTableStatisticsRead t).1 mac = countOf t mac) ↔ NothingCounted t := by
  rw [statisticsRead_table]
  unfold countOf NothingCounted
  refine forall_congr' fun mac => ?_
  rw [search_resetCounters]
  cases advHashTableSearch t mac with
  | none => simp
  | some e =>
    simp only [Option.map_some, Option.some.injEq, Table.resetCounters, forall_eq']
    constructor
    · intro hsame hreached
      rw [if_pos hreached] at hsame
      exact hsame.symm
    · intro hzero
      split_ifs with hreached
      · exact (hzero hreached).symm
      · rfl

/-- A request reads the table if it comes so far, and is started if nothing fails afterwards. -/
theorem doSend_eq (r : StatRequest) (w : World) :
    (r.doSend w).1.table = (if r.Reads then (advTableStatisticsRead w.table).1 else w.table) ∧
      ((r.doSend w).2 = true ↔ r.Reads ∧ r.Completes) ∧
      ((r.doSend w).2 = true →
        postedReports (r.doSend w).1.log = (advTableStatisticsRead w.table).2) := by
  by_cases hreads : r.Reads
  · obtain ⟨hcopy, hreports⟩ := hreads
    unfold StatRequest.doSend advPostStatisticsDoSend advPostStat StatRequest.Completes
    cases r.env.resetInfoGet with
    | false => simp [StatRequest.Reads, hcopy, hreports]
    | true =>
      cases r.env.statInfoGenerated with
      | false => simp [StatRequest.Reads, hcopy, hreports]
      | true =>
        cases r.isPosted <;> simp [StatRequest.Reads, hcopy, hreports, World.emit, postedReports]
  · have hunread : r.doSend w = (w, false) := by
      rw [StatRequest.Reads, not_and_or, Bool.not_eq_true, Bool.not_eq_true] at hreads
      unfold StatRequest.doSend advPostStatisticsDoSend advPostStat
      rcases hreads with hcopy | hreports
      · simp [hcopy]
      · simp [hreports]
    simp [hunread, hreads]

theorem keepsSamples_iff : r.KeepsSamples w ↔ r.LosesNothing w := by
  obtain ⟨htable, hstarted, -⟩ := doSend_eq r w
  unfold StatRequest.KeepsSamples StatRequest.LosesNothing
  rw [htable, ← Bool.not_eq_true, hstarted]
  by_cases hreads : r.Reads
  · rw [if_pos hreads, countOf_statisticsRead_iff]
    by_cases hcompletes : r.Completes <;> simp [hreads, hcompletes]
  · simp [hreads]

end Calls

section Runs

variable {t : Table} {w : World} {history : List Event} {nonce statNonce : UInt32}

/-- A table in which nothing is counted is not changed by a read. -/
theorem statisticsRead_of_nothingCounted (h : Invariant t) (hnothing : NothingCounted t) :
    (advTableStatisticsRead t).1 = t := by
  have hlen : t.advReportsHistList.length ≤ maxAdvsTable := by
    rw [h.histPerm.length_eq, List.length_finRange]
  rw [statisticsRead_table]
  unfold Table.resetCounters
  have hsame : (fun x => if x ∈ t.counted (t.advReportsHistList.take maxAdvsTable) then
      { t.advReport x with samplesCounter := 0 } else t.advReport x) = t.advReport := by
    funext x
    split_ifs with hx
    · have hhashed := h.counted_hashed hx
      have hsearch := (h.search_eq_some_iff _ x).mpr ⟨hhashed, rfl⟩
      rw [← hnothing _ x hsearch hx]
    · rfl
  rw [hsame]

/-- The request that was started has posted what the table holds. -/
theorem started_outcome (r : StatRequest) (hstarted : (r.doSend w).2 = true) :
    (⟨.reports (postedReports (r.doSend w).1.log), none, none⟩ : Outcome) =
        Op.statisticsRead.outcome w.table ∧
      (r.doSend w).1.table = (advTableStatisticsRead w.table).1 := by
  obtain ⟨htable, hcompletes, hposted⟩ := doSend_eq r w
  rw [hposted hstarted, htable, if_pos (hcompletes.mp hstarted).1]
  exact ⟨rfl, rfl⟩

/-- Without the requests that failed, the history is one of the table. -/
theorem table_run {history : List (StatLabel × StatOutput)}
    (hr : (statistics nonce statNonce).Run (fun w label => label.LosesNothing w) history w) :
    advTable.FreeRun (history.filterMap tableEvent) w.table := by
  refine hr.historyInvariant (I := fun history w =>
    advTable.FreeRun (history.filterMap tableEvent) w.table) .init ?_
  intro history w label w' o hrun hkeeps hstep
  cases label with
  | table op =>
    have happly : w' = { w with table := (op.apply w.table).1 } ∧
        o = .table (op.outcome w.table) := by
      cases op <;> cases hstep
      all_goals exact ⟨rfl, rfl⟩
    obtain ⟨rfl, rfl⟩ := happly
    exact .step hrun trivial rfl
  | request r =>
    simp only [statistics, World.statStep, Option.some.injEq, Prod.mk.injEq] at hstep
    obtain ⟨rfl, rfl⟩ := hstep
    by_cases hstarted : (r.doSend w).2 = true
    · obtain ⟨houtcome, htable⟩ := started_outcome r hstarted
      rw [if_pos hstarted, htable]
      refine .step (i := .statisticsRead) hrun trivial ?_
      rw [houtcome]
      rfl
    · rw [if_neg hstarted]
      have hsame : (r.doSend w).1.table = w.table := by
        obtain ⟨htable, hcompletes, -⟩ := doSend_eq r w
        rw [htable]
        split_ifs with hreads
        · have hfailed := mt hcompletes.mpr hstarted
          have hnothing := (hkeeps hreads).resolve_left fun hc => hfailed ⟨hreads, hc⟩
          exact statisticsRead_of_nothingCounted (invariant_run hrun) hnothing
        · rfl
      rw [hsame]
      exact hrun

/-- After a read of all stored reports nothing is stored of the samples. -/
theorem storedCount_statisticsRead (h : Invariant t) (ha : Accounts t history)
    (hcounts : Op.statisticsRead.Counts t) (mac : MacAddressBin) :
    storedCount mac ((.statisticsRead, Op.statisticsRead.outcome t) :: history) = 0 := by
  have hlisted := (h.lists_iff ha).mpr hcounts mac
  unfold storedCount storedBy
  cases hresult : (Op.statisticsRead.outcome t).result with
  | reports reports =>
    rw [hresult] at hlisted
    dsimp only
    split_ifs with hmem
    · cases storedBy mac history <;> rfl
    · have hnone : storedBy mac history = none := by
        by_contra hsome
        rw [if_pos (Option.isSome_iff_ne_none.mpr hsome), listedIn] at hlisted
        exact hmem (List.count_pos_iff.mp (by omega))
      rw [hnone]
      rfl
  | updated | head | cleared => cases hresult

/-- The puts since the last statistics are those that have not been reported. -/
theorem reported_add_samplesSince
    (hr : advTable.Run (fun t op => op.Counts t) history t) (mac : MacAddressBin) :
    reportedOf mac history + samplesSince mac history = putsOf mac history := by
  induction hr with
  | init => rfl
  | @step history t op t' o hr hop hstep ih =>
    obtain ⟨h, ha⟩ := accounts_run hr.free
    obtain ⟨hb, -⟩ := balanced_run hr
    simp only [advTable, Option.some.injEq, Prod.mk.injEq] at hstep
    obtain ⟨-, rfl⟩ := hstep
    cases op with
    | put adv hadv =>
      have hown : ((Op.put adv hadv).outcome t).recycled ≠ some adv.tagMac := recycledBy_own h adv
      simp only [reportedOf, samplesSince, putsOf]
      by_cases hmac : adv.tagMac = mac
      · subst hmac
        rw [if_neg hown, if_pos rfl, if_pos rfl, ← Nat.add_assoc, ih]
      · rw [if_neg hmac, if_neg hmac]
        split_ifs
        · rfl
        · exact ih
    | statisticsRead =>
      have hsum := (hb.statisticsRead h ha).sums mac
      rw [storedCount_statisticsRead h ha hop mac] at hsum
      exact hsum
    | clear => exact absurd hop id
    | readAndClear k => exact ih
    | readList3Head => exact ih
    | historyRead q => exact ih

/-- The counter of a stored MAC counts the samples since the last statistics. -/
theorem counter_eq_samplesSince (hr : advTable.Run (fun t op => op.Counts t) history t)
    {elem : Elem} (hin : t.isInHashTable elem) :
    (t.advReport elem).samplesCounter.toNat = samplesSince (t.macOf elem) history := by
  obtain ⟨-, ha⟩ := accounts_run hr.free
  have hsum := (balanced_run hr).1.sums (t.macOf elem)
  rw [storedCount, ha.stored elem hin, ← reported_add_samplesSince hr] at hsum
  exact Nat.add_left_cancel hsum

/-- A read that is not stopped reports the entry of every stored MAC. -/
theorem mem_statisticsRead (h : Invariant t) (ha : Accounts t history)
    (hcounts : Op.statisticsRead.Counts t) {elem : Elem} (hin : t.isInHashTable elem) :
    t.advReport elem ∈ (advTableStatisticsRead t).2 := by
  have hlisted := (h.lists_iff ha).mpr hcounts (t.macOf elem)
  rw [ha.stored elem hin] at hlisted
  dsimp only [Op.outcome, Op.apply] at hlisted
  rw [h.statisticsRead_eq] at hlisted ⊢
  have hmem : t.macOf elem ∈
      ((t.counted t.advReportsHistList).map t.advReport).map AdvReport.tagMac :=
    List.count_pos_iff.mp (Nat.lt_of_lt_of_eq Nat.one_pos hlisted.symm)
  rw [List.map_map, List.mem_map] at hmem
  obtain ⟨x, hx, hmac⟩ := hmem
  obtain rfl := h.macInjective x elem (h.counted_hashed hx) hin hmac
  exact List.mem_map_of_mem hx

/-- A request loses no sample if and only if it does not fail after it has read some. In every run
of such requests the table is the one that the requests that were started leave on their own, and
the next one reports all samples since the last of them, as far as these are counted. -/
theorem statistics_keepSamples_iff (r : StatRequest) (w : World) :
    (r.KeepsSamples w ↔ r.LosesNothing w) ∧
    ∀ (nonce statNonce : UInt32) (history : List (StatLabel × StatOutput)),
      (statistics nonce statNonce).Run (fun w label => label.LosesNothing w) history w →
      advTable.FreeRun (history.filterMap tableEvent) w.table ∧
      (advTable.Run (fun t op => op.Counts t) (history.filterMap tableEvent) w.table →
        Op.statisticsRead.Counts w.table → ∀ elem : Elem,
        (r.doSend w).2 = true → w.table.isInHashTable elem →
        ∃ report ∈ postedReports (r.doSend w).1.log, report.tagMac = w.table.macOf elem ∧
          report.samplesCounter.toNat =
            samplesSince (w.table.macOf elem) (history.filterMap tableEvent)) := by
  refine ⟨keepsSamples_iff, fun nonce statNonce history hr => ⟨table_run hr, ?_⟩⟩
  intro hrun hcounts elem hstarted hin
  obtain ⟨h, ha⟩ := accounts_run hrun.free
  obtain ⟨-, -, hposted⟩ := doSend_eq r w
  refine ⟨w.table.advReport elem, ?_, rfl, counter_eq_samplesSince hrun hin⟩
  rw [hposted hstarted]
  exact mem_statisticsRead h ha hcounts hin

def sampleStatOutcome : Http.StatOutcome := ⟨true, ⟨true, true, true⟩, true, ⟨true, [], true⟩⟩

def startedRequest : StatRequest := ⟨{}, sampleStatOutcome⟩

/-- There is no memory for the reports. -/
def unreadRequest : StatRequest := ⟨{ statReportsAllocated := false }, sampleStatOutcome⟩

/-- There is no memory for the reset info. -/
def failedRequest : StatRequest := ⟨{ resetInfoGet := false }, sampleStatOutcome⟩

/-- A world with a sample of one tag. -/
def sampledWorld : World :=
  { World.initial 0 0 with table := ((samplePutCounted 1).apply advTableInit).1 }

/-- A request that fails before it reads leaves the sample to the next one. -/
theorem statistics_keepSamples_sample :
    (unreadRequest.doSend sampledWorld).2 = false ∧
      ∃ report ∈ postedReports (startedRequest.doSend sampledWorld).1.log,
        report.samplesCounter = 1 := by
  have hput : (StatLabel.table (samplePutCounted 1)).LosesNothing (World.initial 0 0) := trivial
  have hunread : (StatLabel.request unreadRequest).LosesNothing sampledWorld :=
    fun hreads => absurd hreads.2 Bool.false_ne_true
  have hrun : (statistics 0 0).Run (fun w label => label.LosesNothing w) _ sampledWorld :=
    .step (.step .init hput rfl) hunread rfl
  have hcounted : advTable.Run (fun t op => op.Counts t) _ sampledWorld.table :=
    .step (i := samplePutCounted 1) .init rfl rfl
  have hcounts : ∀ elem, sampledWorld.table.isInHashTable elem →
      (sampledWorld.table.advReport elem).timestamp ≠ 0 := by decide +kernel
  obtain ⟨-, hnext⟩ := (statistics_keepSamples_iff startedRequest sampledWorld).2 0 0 _ hrun
  obtain ⟨report, hposted, -, hsamples⟩ := hnext hcounted hcounts advTableInit.lastElem
    (by decide +kernel) (by decide +kernel)
  refine ⟨by decide +kernel, report, hposted, UInt32.toNat_inj.mp (hsamples.trans ?_)⟩
  decide +kernel

/-- A request that fails after the read makes the next one report no samples. -/
theorem statistics_losesSamples :
    (¬∀ (r : StatRequest) (w : World), r.KeepsSamples w) ∧
      ∃ history w, (statistics 0 0).FreeRun history w ∧
        samplesSince (w.table.macOf advTableInit.lastElem) (history.filterMap tableEvent) = 1 ∧
        (postedReports (startedRequest.doSend w).1.log).map AdvReport.samplesCounter = [0] := by
  constructor
  · intro h
    have hkept := h failedRequest sampledWorld (by decide +kernel)
      ⟨Vector.replicate macAddressNumBytes 1⟩
    exact absurd hkept (by decide +kernel)
  · refine ⟨_, _, .step (i := .request failedRequest)
      (.step (i := .table (samplePutCounted 1)) .init trivial rfl) trivial rfl, ?_, ?_⟩
    · decide +kernel
    · decide +kernel

end Runs

end RuuviGateway.AdvPost
