import RuuviGateway.AdvPost.ReportJson
import RuuviGateway.AdvTable.History
import RuuviGateway.General.Numerals
import RuuviGateway.Http.QueryParams

/-!
# Polling the history

`GET /history` answers with the stored reports: those of the last seconds, or those after a counter.
A client that has no time to go by asks for the counter that it has seen last, and expects the
reports that were received since.
-/

namespace RuuviGateway.Http

open AdvPost AdvTable General

section Request

def httpServerDefaultHistoryIntervalSeconds : UInt32 := 60

variable (hasMemory : Bytes → Bool)

/-- The number that a parameter of the query gives. -/
def numberFromParams (params key : Bytes) : Option UInt32 :=
  ((httpServerGetFromParams params key).filter hasMemory).map fun value => (strtoul value 0).1

/-- `http_server_get_filter_from_params`: whether there is a filter, and the filter. -/
def httpServerGetFilterFromParams (params : Bytes) (flagUseTimestamps flagTimeIsSynchronized : Bool)
    (flagUseFilter : Bool) (filter : UInt32) : Bool × UInt32 :=
  if flagUseTimestamps then
    match numberFromParams hasMemory params (ascii "time=") with
    | none => (flagUseFilter, filter)
    | some seconds => (if flagTimeIsSynchronized then true else flagUseFilter, seconds)
  else
    match numberFromParams hasMemory params (ascii "counter=") with
    | none => (flagUseFilter, filter)
    | some counter => (true, counter)

def httpServerGetDecodeFromParams (params : Bytes) : Bool :=
  match (httpServerGetFromParams params (ascii "decode=")).filter hasMemory with
  | none => true
  | some value => decide (value ≠ ascii "false")

/-- What the answer depends on besides the stored reports. The time is read once for the reports and
once for the answer. -/
structure HistoryRequest where
  params : Option Bytes
  ntpUse : Bool
  timeIsSynchronized : Bool
  curTime : UInt32
  answerTime : UInt32
  macAddr : Bytes
  coordinates : Bytes

variable (r : HistoryRequest)

def HistoryRequest.query : HistoryQuery :=
  let filter := if r.ntpUse then httpServerDefaultHistoryIntervalSeconds else 0
  let flagUseFilter := r.ntpUse && r.timeIsSynchronized
  let (flagUseFilter, filter) :=
    match r.params with
    | none => (flagUseFilter, filter)
    | some params =>
        httpServerGetFilterFromParams hasMemory params r.ntpUse r.timeIsSynchronized flagUseFilter
          filter
  ⟨r.curTime, r.ntpUse, filter, flagUseFilter⟩

def HistoryRequest.advsParams : AdvPost.AdvsParams where
  flagRawData := true
  flagDecode := (r.params.map (httpServerGetDecodeFromParams hasMemory)).getD true
  flagUseTimestamps := r.ntpUse
  curTime := r.answerTime
  flagUseNonce := false
  nonce := 0
  macAddr := r.macAddr
  coordinates := r.coordinates

/-- The document with which `http_server_resp_history` answers, if there is memory for it. -/
def httpServerRespHistory (E : JsonEnv) (t : Table) : Json :=
  cbJsonStreamGenAdvs E (r.advsParams hasMemory) (advTableHistoryRead t (r.query hasMemory))

end Request

section Answer

variable {hasMemory : Bytes → Bool} {r : HistoryRequest} {q : Option (List Param)}

theorem isNameText_filters : IsNameText (ascii "time") ∧ IsNameText (ascii "counter") := by
  simp [IsNameText, ascii, ampersand, equalsSign]

def timeName : ParamName := ⟨ascii "time", isNameText_filters.1⟩

def counterName : ParamName := ⟨ascii "counter", isNameText_filters.2⟩

/-- The number that the first parameter of the name gives. -/
def numberOf (hasMemory : Bytes → Bool) (name : ParamName) (q : Option (List Param)) :
    Option UInt32 :=
  ((q.bind (valueOf name)).filter hasMemory).map fun value => (strtoul value 0).1

/-- The reports that a request asks for: those of the last seconds, once the time is known, or those
after a counter. -/
def HistoryRequest.wanted (hasMemory : Bytes → Bool) (r : HistoryRequest)
    (q : Option (List Param)) : HistoryQuery :=
  if r.ntpUse then
    ⟨r.curTime, true, (numberOf hasMemory timeName q).getD httpServerDefaultHistoryIntervalSeconds,
      r.timeIsSynchronized⟩
  else
    ⟨r.curTime, false, (numberOf hasMemory counterName q).getD 0,
      (numberOf hasMemory counterName q).isSome⟩

theorem numberFromParams_queryText (hasMemory : Bytes → Bool) {ps : List Param} {name : ParamName}
    (h : KeyOnlyAsName (some ps) name) :
    numberFromParams hasMemory (queryText ps) name.key = numberOf hasMemory name (some ps) := by
  obtain ⟨ps', heq, hall⟩ := h
  obtain rfl := Option.some.inj heq
  rw [numberFromParams, numberOf, Option.bind_some,
    httpServerGetFromParams_queryText ((strstr_queryText_iff name ps).mpr hall)]

/-- The query is read as it is meant where the name of the filter stands for itself only. -/
theorem query_eq_wanted (hparams : r.params = q.map queryText)
    (hname : q.isSome → KeyOnlyAsName q (if r.ntpUse then timeName else counterName)) :
    r.query hasMemory = r.wanted hasMemory q := by
  cases q with
  | none =>
    rw [Option.map_none] at hparams
    cases hntp : r.ntpUse <;>
      simp [HistoryRequest.query, HistoryRequest.wanted, hparams, hntp, numberOf]
  | some ps =>
    rw [Option.map_some] at hparams
    cases hntp : r.ntpUse with
    | false =>
      have hkey := numberFromParams_queryText hasMemory
        (show KeyOnlyAsName (some ps) counterName by simpa [hntp] using hname rfl)
      have hcounter : counterName.key = ascii "counter=" := by decide
      rw [hcounter] at hkey
      simp only [HistoryRequest.query, HistoryRequest.wanted, hparams, hntp,
        httpServerGetFilterFromParams, hkey]
      cases numberOf hasMemory counterName (some ps) <;> rfl
    | true =>
      have hkey := numberFromParams_queryText hasMemory
        (show KeyOnlyAsName (some ps) timeName by simpa [hntp] using hname rfl)
      have htime : timeName.key = ascii "time=" := by decide
      rw [htime] at hkey
      simp only [HistoryRequest.query, HistoryRequest.wanted, hparams, hntp,
        httpServerGetFilterFromParams, hkey]
      cases numberOf hasMemory timeName (some ps) <;> cases r.timeIsSynchronized <;> rfl

def tagsOf (answer : Json) : Option Json :=
  (answer.getObjectItem "data").bind (Json.getObjectItem · "tags")

/-- The tags of the answer are the stored reports that are asked for, the most recent one first. -/
theorem history_answered {E : JsonEnv} {t : Table} {history : List AdvTable.Event}
    (hr : advTable.FreeRun history t) (hparams : r.params = q.map queryText)
    (hname : q.isSome → KeyOnlyAsName q (if r.ntpUse then timeName else counterName))
    (hordered : (r.wanted hasMemory q).flagUseFilter = true →
      (r.wanted hasMemory q).Ordered (putTimestamps history)) :
    tagsOf (httpServerRespHistory hasMemory r E t) = some (.object
      ((((recent history).take maxAdvsTable).filter (r.wanted hasMemory q).passes).map
        (cbJsonStreamGenAdv E (r.advsParams hasMemory)))) := by
  obtain ⟨hinv, -, hholds⟩ := holds_run hr
  have hread := historyRead_filter hinv hholds hordered
  have huncounted (reports : List AdvReport) :
      reports.map (cbJsonStreamGenAdv E (r.advsParams hasMemory)) =
        (reports.map AdvReport.uncounted).map (cbJsonStreamGenAdv E (r.advsParams hasMemory)) := by
    rw [List.map_map]
    rfl
  have hcommute (reports : List AdvReport) :
      (reports.filter (r.wanted hasMemory q).passes).map AdvReport.uncounted =
        (reports.map AdvReport.uncounted).filter (r.wanted hasMemory q).passes := by
    rw [List.filter_map]
    rfl
  rw [tagsOf, httpServerRespHistory, tags_cbJsonStreamGenAdvs, query_eq_wanted hparams hname, hread,
    huncounted, hcommute, hholds, ← hcommute, ← huncounted]

def sampleTimeRequest : HistoryRequest := ⟨none, true, true, 1010, 1010, [], []⟩

theorem history_answered_sample : ∃ history t, advTable.FreeRun history t ∧
    tagsOf (httpServerRespHistory (fun _ => true) sampleTimeRequest sampleJsonEnv t) =
      some (.object ((((recent history).take maxAdvsTable).filter
        (sampleTimeRequest.wanted (fun _ => true) none).passes).map
          (cbJsonStreamGenAdv sampleJsonEnv (sampleTimeRequest.advsParams fun _ => true)))) := by
  have hrun : advTable.FreeRun [(samplePut 1, _)] _ := .step .init trivial rfl
  have hwanted : sampleTimeRequest.wanted (fun _ => true) none =
      ⟨1010, true, httpServerDefaultHistoryIntervalSeconds, true⟩ := rfl
  refine ⟨_, _, hrun, history_answered hrun rfl (by simp) fun _ => ?_⟩
  rw [hwanted, HistoryQuery.Ordered, if_pos rfl]
  exact ⟨List.pairwise_singleton _ _, List.forall_mem_singleton.mpr (by decide)⟩

end Answer

section Counter

/-- The table, and `g_received_advertisements`. -/
structure CounterTable where
  table : Table
  received : ℕ

/-- `metrics_received_advs_increment` of the counter that reports are stamped with. -/
def metricsReceivedAdvsIncrement (E : JsonEnv) (received : ℕ) (secondaryPhy : BlePhy) : ℕ :=
  if secondaryPhy = E.reCaUartBlePhyNotSet then received + 1 else received

/-- `adv_put_to_table` without a time to go by: a report is stamped with the counter, and counted
before it is put. -/
def counterMode (E : JsonEnv) : System CounterTable Op Outcome where
  init := ⟨advTableInit, 0⟩
  step c op :=
    match op with
    | .put adv _ =>
        if adv.timestamp = UInt32.ofNat c.received then
          some (⟨(op.apply c.table).1, metricsReceivedAdvsIncrement E c.received adv.secondaryPhy⟩,
            op.outcome c.table)
        else none
    | _ => some (⟨(op.apply c.table).1, c.received⟩, op.outcome c.table)

variable {E : JsonEnv} {history earlier later : List AdvTable.Event} {c c₀ : CounterTable}

theorem counterMode_advTable (E : JsonEnv) :
    System.Simulation (counterMode E) advTable fun c t => c.table = t where
  init := rfl
  step := by
    rintro c _ op c' o rfl hs
    refine ⟨c'.table, ?_, rfl⟩
    cases op with
    | put adv hadv =>
      simp only [counterMode] at hs
      split_ifs at hs
      obtain ⟨rfl, rfl⟩ := Prod.mk.inj (Option.some.inj hs)
      rfl
    | _ =>
      obtain ⟨rfl, rfl⟩ := Prod.mk.inj (Option.some.inj hs)
      rfl

theorem counterMode_run (hr : (counterMode E).FreeRun history c) :
    advTable.FreeRun history c.table := by
  obtain ⟨_, hrun, rfl⟩ := (counterMode_advTable E).run hr
  exact hrun

/-- The stamps of a run are in order and not beyond the counter, and a counted report is before
it. -/
structure Stamped (E : JsonEnv) (history : List AdvTable.Event) (c : CounterTable) : Prop where
  ordered : (putTimestamps history).Pairwise fun newer older => older.toNat ≤ newer.toNat
  stamp_le : ∀ s ∈ putTimestamps history, s.toNat ≤ c.received
  counted : ∀ r ∈ recent history, r.secondaryPhy = E.reCaUartBlePhyNotSet →
    r.timestamp.toNat < c.received

theorem le_metricsReceivedAdvsIncrement (E : JsonEnv) (received : ℕ) (phy : BlePhy) :
    received ≤ metricsReceivedAdvsIncrement E received phy := by
  rw [metricsReceivedAdvsIncrement]
  split_ifs <;> omega

/-- A step is a put with the counter as its stamp, or leaves the counter. -/
theorem counterMode_step {op : Op} {o : Outcome} {c c' : CounterTable}
    (hs : (counterMode E).step c op = some (c', o)) :
    (∃ adv hadv, op = .put adv hadv ∧ adv.timestamp = UInt32.ofNat c.received ∧
        c'.received = metricsReceivedAdvsIncrement E c.received adv.secondaryPhy) ∨
      (∀ adv hadv, op ≠ .put adv hadv) ∧ c'.received = c.received := by
  cases op with
  | put adv hadv =>
    simp only [counterMode] at hs
    split_ifs at hs with hstamp
    obtain ⟨rfl, rfl⟩ := Prod.mk.inj (Option.some.inj hs)
    exact .inl ⟨adv, hadv, rfl, hstamp, rfl⟩
  | _ =>
    obtain ⟨rfl, rfl⟩ := Prod.mk.inj (Option.some.inj hs)
    exact .inr ⟨by simp, rfl⟩

theorem putTimestamps_of_ne {op : Op} {o : Outcome} (h : ∀ adv hadv, op ≠ .put adv hadv) :
    putTimestamps ((op, o) :: history) = putTimestamps history := by
  cases op with
  | put adv hadv => exact absurd rfl (h adv hadv)
  | _ => rfl

theorem recent_of_ne {op : Op} {o : Outcome} (h : ∀ adv hadv, op ≠ .put adv hadv) :
    recent ((op, o) :: history) ⊆ recent history := by
  cases op with
  | put adv hadv => exact absurd rfl (h adv hadv)
  | clear => exact List.nil_subset _
  | _ => exact List.Subset.refl _

theorem mem_recent_put {adv : AdvReport} {hadv : adv.dataLen ≠ 0} {o : Outcome} {r : AdvReport}
    (h : r ∈ recent ((.put adv hadv, o) :: history)) : r = adv ∨ r ∈ recent history := by
  rw [recent] at h
  split_ifs at h
  · rw [touch, List.mem_cons] at h
    exact h.imp_right List.mem_of_mem_filter
  · exact .inr h

theorem stamped (hr : (counterMode E).FreeRun history c) (hc : c.received < 2 ^ 31) :
    Stamped E history c := by
  induction hr with
  | init => exact ⟨List.Pairwise.nil, by simp [putTimestamps], by simp [recent]⟩
  | @step history c op c' o _ _ hs ih =>
    rcases counterMode_step hs with ⟨adv, hadv, rfl, hstamp, hreceived⟩ | ⟨hne, hreceived⟩
    · have hle := le_metricsReceivedAdvsIncrement E c.received adv.secondaryPhy
      obtain ⟨hordered, hstamps, hcounted⟩ := ih (by omega)
      have hnat : adv.timestamp.toNat = c.received := by
        rw [hstamp]
        exact UInt32.toNat_ofNat_of_lt' (by simp only [UInt32.size]; omega)
      refine ⟨?_, ?_, ?_⟩
      · rw [putTimestamps, List.pairwise_cons]
        exact ⟨fun s hs => hnat ▸ hstamps s hs, hordered⟩
      · rw [putTimestamps, List.forall_mem_cons]
        exact ⟨by omega, fun s hs => (hstamps s hs).trans (by omega)⟩
      · intro r hr hphy
        rcases mem_recent_put hr with rfl | hr
        · rw [hreceived, metricsReceivedAdvsIncrement, if_pos hphy]
          omega
        · exact (hcounted r hr hphy).trans_le (by omega)
    · obtain ⟨hordered, hstamps, hcounted⟩ := ih (by omega)
      refine ⟨?_, ?_, ?_⟩
      · rw [putTimestamps_of_ne hne]
        exact hordered
      · rw [putTimestamps_of_ne hne, hreceived]
        exact hstamps
      · rw [hreceived]
        exact fun r hr => hcounted r (recent_of_ne hne hr)

end Counter

section Polling

variable {E : JsonEnv} {earlier later : List AdvTable.Event} {c c₀ : CounterTable}
  {hasMemory : Bytes → Bool} {r : HistoryRequest} {ps : List Param} {newest : AdvReport}

/-- What was put later has the counter of then or a higher one. -/
theorem le_stamp_later (hr₀ : (counterMode E).FreeRun earlier c₀)
    (hr : (counterMode E).FreeRun (later ++ earlier) c) (hc : c.received < 2 ^ 31) :
    c₀.received ≤ c.received ∧ ∀ s ∈ putTimestamps later, c₀.received ≤ s.toNat := by
  induction later generalizing c with
  | nil =>
    obtain rfl := hr₀.state_unique hr
    exact ⟨Nat.le_refl _, by simp [putTimestamps]⟩
  | cons event later ih =>
    cases hr with
    | @step _ c' op _ o hr' _ hs =>
      rcases counterMode_step hs with ⟨adv, hadv, rfl, hstamp, hreceived⟩ | ⟨hne, hreceived⟩
      · have hle := le_metricsReceivedAdvsIncrement E c'.received adv.secondaryPhy
        obtain ⟨hcount, hstamps⟩ := ih hr' (by omega)
        have hnat : adv.timestamp.toNat = c'.received := by
          rw [hstamp]
          exact UInt32.toNat_ofNat_of_lt' (by simp only [UInt32.size]; omega)
        rw [putTimestamps, List.forall_mem_cons]
        exact ⟨by omega, by omega, hstamps⟩
      · obtain ⟨hcount, hstamps⟩ := ih hr' (by omega)
        rw [putTimestamps_of_ne hne]
        exact ⟨by omega, hstamps⟩

/-- What is accepted later comes before what has been left of earlier. -/
theorem recent_append (later earlier : List AdvTable.Event) :
    ∃ rest, recent (later ++ earlier) = recent later ++ rest ∧ rest.Sublist (recent earlier) := by
  induction later with
  | nil => exact ⟨recent earlier, rfl, List.Sublist.refl _⟩
  | cons event later ih =>
    obtain ⟨rest, hrest, hsub⟩ := ih
    obtain ⟨op, o⟩ := event
    cases op with
    | put adv hadv =>
      rw [List.cons_append, recent, recent]
      split_ifs
      · refine ⟨rest.filter fun y => y.tagMac ≠ adv.tagMac, ?_, List.filter_sublist.trans hsub⟩
        rw [hrest, touch, touch, List.filter_append, List.cons_append]
      · exact ⟨rest, hrest, hsub⟩
    | clear => exact ⟨[], by simp [recent], List.nil_sublist _⟩
    | _ => exact ⟨rest, hrest, hsub⟩

theorem toInt_toInt32_sub {a b : UInt32} (ha : a.toNat < 2 ^ 31) (hb : b.toNat < 2 ^ 31) :
    (a - b).toInt32.toInt = a.toNat - b.toNat := by
  rw [UInt32.toInt32_sub, Int32.toInt_sub]
  have htoInt {x : UInt32} (hx : x.toNat < 2 ^ 31) : x.toInt32.toInt = x.toNat := by
    rw [← Int32.toInt_toBitVec, UInt32.toBitVec_toInt32,
      BitVec.toInt_eq_toNat_of_lt (by simp; omega), UInt32.toNat_toBitVec]
  rw [htoInt ha, htoInt hb, Int.bmod_eq_of_le] <;> omega

variable {n : UInt32} {curTime : UInt32}

/-- As long as the counter has not reached 2^31, it is compared as a number. -/
theorem passes_counter (hn : n.toNat < 2 ^ 31) {x : AdvReport} (hx : x.timestamp.toNat < 2 ^ 31) :
    (HistoryQuery.mk curTime false n true).passes x = decide (n.toNat < x.timestamp.toNat) := by
  simp only [HistoryQuery.passes, Bool.not_true, Bool.false_or, Bool.false_eq_true, if_false,
    decide_eq_decide]
  rw [Int32.lt_iff_toInt_lt, toInt_toInt32_sub hx hn, Int32.toInt_zero]
  omega

theorem Stamped.ordered_counter (h : Stamped E earlier c) (hc : c.received < 2 ^ 31)
    (hn : n.toNat < 2 ^ 31) :
    (HistoryQuery.mk curTime false n true).Ordered (putTimestamps earlier) := by
  rw [HistoryQuery.Ordered, if_neg (by simp)]
  refine h.ordered.imp_of_mem fun {x y} hx hy hle => ?_
  have hxLe := h.stamp_le x hx
  have hyLe := h.stamp_le y hy
  dsimp only
  rw [Int32.le_iff_toInt_le, toInt_toInt32_sub (by omega) hn, toInt_toInt32_sub (by omega) hn]
  omega

theorem Stamped.recent_le (h : Stamped E earlier c) {x : AdvReport} (hx : x ∈ recent earlier) :
    x.timestamp.toNat ≤ c.received :=
  h.stamp_le _ ((recent_sublist earlier).subset (List.mem_map_of_mem hx))

/-- The head of a list that is in order is its greatest element. -/
theorem Stamped.le_newest (h : Stamped E earlier c)
    (hnewest : (recent earlier).head? = some newest) {x : AdvReport} (hx : x ∈ recent earlier) :
    x.timestamp.toNat ≤ newest.timestamp.toNat := by
  obtain ⟨others, hothers⟩ := List.head?_eq_some_iff.mp hnewest
  have hordered := h.ordered.sublist (recent_sublist earlier)
  rw [hothers, List.map_cons, List.pairwise_cons] at hordered
  rw [hothers, List.mem_cons] at hx
  rcases hx with rfl | hx
  · exact Nat.le_refl _
  · exact hordered.1 _ (List.mem_map_of_mem hx)

/-- The two polls of a client: the newest report that the first one can have returned, and what has
been put since. -/
structure Polls (E : JsonEnv) (earlier later : List AdvTable.Event) (c₀ c : CounterTable)
    (newest : AdvReport) : Prop where
  first : (counterMode E).FreeRun earlier c₀
  second : (counterMode E).FreeRun (later ++ earlier) c
  received_lt : c.received < 2 ^ 31
  newest_eq : (recent earlier).head? = some newest

variable (h : Polls E earlier later c₀ c newest)

include h

theorem Polls.newest_le : newest.timestamp.toNat ≤ c₀.received ∧ c₀.received ≤ c.received ∧
    (newest.secondaryPhy = E.reCaUartBlePhyNotSet → newest.timestamp.toNat < c₀.received) := by
  have hcount := (le_stamp_later h.first h.second h.received_lt).1
  have hstamped := stamped h.first (hcount.trans_lt h.received_lt)
  have hmem := List.mem_of_head? h.newest_eq
  exact ⟨hstamped.recent_le hmem, hcount, hstamped.counted newest hmem⟩

theorem Polls.later_le {x : AdvReport} (hx : x ∈ recent later) :
    c₀.received ≤ x.timestamp.toNat ∧ x.timestamp.toNat ≤ c.received := by
  obtain ⟨rest, hrest, -⟩ := recent_append later earlier
  have hstamps := (le_stamp_later h.first h.second h.received_lt).2
  refine ⟨hstamps _ ((recent_sublist later).subset (List.mem_map_of_mem hx)), ?_⟩
  apply (stamped h.second h.received_lt).recent_le
  rw [hrest]
  exact List.mem_append_left _ hx

theorem Polls.filter_recent :
    ((recent (later ++ earlier)).take maxAdvsTable).filter
        (HistoryQuery.mk curTime false newest.timestamp true).passes =
      ((recent later).take maxAdvsTable).filter fun x => x.timestamp ≠ newest.timestamp := by
  obtain ⟨hnewest, hcount, -⟩ := h.newest_le
  have hreceived := h.received_lt
  obtain ⟨rest, hrest, hsub⟩ := recent_append later earlier
  have hnone : ((rest.take (maxAdvsTable - (recent later).length)).filter
      (HistoryQuery.mk curTime false newest.timestamp true).passes) = [] := by
    rw [List.filter_eq_nil_iff]
    intro x hx
    have hle := (stamped h.first (by omega)).le_newest h.newest_eq
      (hsub.subset (List.mem_of_mem_take hx))
    rw [passes_counter (by omega) (by omega), decide_eq_true_eq]
    omega
  rw [hrest, List.take_append, List.filter_append, hnone, List.append_nil]
  apply List.filter_congr
  intro x hx
  have hle := h.later_le (List.mem_of_mem_take hx)
  rw [passes_counter (by omega) (by omega), decide_eq_decide, ne_eq, ← UInt32.toNat_inj]
  omega

omit h

theorem wanted_counter (hmode : r.ntpUse = false) {value : Bytes}
    (hvalue : valueOf counterName ps = some value) (hmemory : hasMemory value = true)
    (hasks : denoted 0 value = some (n.toNat : ℤ)) :
    r.wanted hasMemory (some ps) = ⟨r.curTime, false, n, true⟩ := by
  have hlt := n.toNat_lt
  have htoNat := (toNat_strtoul_eq_iff hasks).mpr (by omega)
  have hnumber : numberOf hasMemory counterName (some ps) = some n := by
    rw [numberOf, Option.bind_some, hvalue, Option.filter_some_pos hmemory, Option.map_some,
      Option.some.injEq, ← UInt32.toNat_inj]
    omega
  simp [HistoryRequest.wanted, hmode, hnumber]

/-- A client that asks for the counter of the newest report that it has got finds what has been
accepted since, but for what has been stamped with the same counter, and nothing else. A newest
report of the primary PHY has advanced the counter, so that nothing is missing. -/
theorem history_polled (h : Polls E earlier later c₀ c newest) (hmode : r.ntpUse = false)
    (hparams : r.params = some (queryText ps)) (hname : KeyOnlyAsName (some ps) counterName)
    {value : Bytes} (hvalue : valueOf counterName ps = some value)
    (hmemory : hasMemory value = true)
    (hasks : denoted 0 value = some (newest.timestamp.toNat : ℤ)) :
    tagsOf (httpServerRespHistory hasMemory r E c.table) = some (.object
        ((((recent later).take maxAdvsTable).filter fun x => x.timestamp ≠ newest.timestamp).map
          (cbJsonStreamGenAdv E (r.advsParams hasMemory)))) ∧
      (newest.secondaryPhy = E.reCaUartBlePhyNotSet →
        ((recent later).take maxAdvsTable).filter (fun x => x.timestamp ≠ newest.timestamp) =
          (recent later).take maxAdvsTable) := by
  obtain ⟨hnewest, hcount, hcounted⟩ := h.newest_le
  have hreceived := h.received_lt
  have hwanted := wanted_counter hmode hvalue hmemory hasks
  have hordered : (r.wanted hasMemory (some ps)).Ordered (putTimestamps (later ++ earlier)) := by
    rw [hwanted]
    exact (stamped h.second hreceived).ordered_counter hreceived (by omega)
  have hanswer : tagsOf (httpServerRespHistory hasMemory r E c.table) = _ :=
    history_answered (counterMode_run h.second) (q := some ps) hparams
      (fun _ => by simpa [hmode] using hname) fun _ => hordered
  rw [hwanted, h.filter_recent] at hanswer
  refine ⟨hanswer, fun hphy => List.filter_eq_self.mpr fun x hx => ?_⟩
  have hle := h.later_le (List.mem_of_mem_take hx)
  have hlt := hcounted hphy
  rw [decide_eq_true_eq, ne_eq, ← UInt32.toNat_inj]
  omega

def sampleCounterRequest : HistoryRequest :=
  ⟨some (queryText [⟨counterName, ascii "0", by simp [ascii, ampersand]⟩]), false, false, 0, 0, [],
    []⟩

theorem history_polled_sample :
    ∃ c₀ c earlier later, (counterMode sampleJsonEnv).FreeRun earlier c₀ ∧
      (counterMode sampleJsonEnv).FreeRun (later ++ earlier) c ∧
      tagsOf (httpServerRespHistory (fun _ => true) sampleCounterRequest sampleJsonEnv c.table) =
        some (.object ((((recent later).take maxAdvsTable).filter
          fun x => x.timestamp ≠ (sampleCounted 1 0).timestamp).map
            (cbJsonStreamGenAdv sampleJsonEnv
              (sampleCounterRequest.advsParams fun _ => true)))) := by
  have hrun₀ : (counterMode sampleJsonEnv).FreeRun [(sampleCount 1 0, _)] _ :=
    .step .init trivial rfl
  have hrun : (counterMode sampleJsonEnv).FreeRun ([(sampleCount 2 1, _)] ++ _) _ :=
    .step hrun₀ trivial rfl
  refine ⟨_, _, _, _, hrun₀, hrun, ?_⟩
  exact (history_polled ⟨hrun₀, hrun, by decide, rfl⟩ rfl rfl
    ⟨_, rfl, by simp⟩ rfl rfl (by decide)).1

end Polling

end RuuviGateway.Http
