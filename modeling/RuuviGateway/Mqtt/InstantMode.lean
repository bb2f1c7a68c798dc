import RuuviGateway.AdvTable.Representation
import RuuviGateway.General.Signals
import RuuviGateway.General.Transition

/-!
# MQTT instant mode

The `adv_mqtt` task takes the reports of list 3 one by one and publishes each of them. Between any
two of its accesses to shared data other tasks put reports, connect and disconnect the client, and
change the relaying mode and the configuration.
-/

namespace RuuviGateway.AdvMqtt

open AdvTable General

section State

inductive AdvMqttSig
  | stop
  | onRecvAdv
  | mqttConnected
  | taskWatchdogFeed
  | gwCfgReady
  | gwCfgChangedRuuvi
  | relayingModeChanged
  | cfgModeActivated
  | cfgModeDeactivated
  deriving DecidableEq, Repr

/-- `adv_mqtt_conv_to_sig_num`. -/
def AdvMqttSig.num : AdvMqttSig → ℕ
  | .stop => 0
  | .onRecvAdv => 1
  | .mqttConnected => 2
  | .taskWatchdogFeed => 3
  | .gwCfgReady => 4
  | .gwCfgChangedRuuvi => 5
  | .relayingModeChanged => 6
  | .cfgModeActivated => 7
  | .cfgModeDeactivated => 8

/-- What the handler of `ADV_MQTT_SIG_ON_RECV_ADV` does next. -/
inductive Handler
  | idle
  | checkRelaying
  | checkInstantMode
  | checkBuffer
  | readHead
  | publish (report : AdvReport)
  | checkEmpty
  | sendSignal
  deriving DecidableEq

/-- The last two fields are a record of the reports that the handler has removed from list 3, and of
its calls of `mqtt_publish_adv` with their results. -/
structure World where
  table : Table
  mailbox : Mailbox AdvMqttSig.num
  retryTimerRunning : Bool
  mqttConnected : Bool
  cntRelayingViaMqttSuspended : ℕ
  gwCfgMqttUseMqtt : Bool
  gwCfgMqttSendingInterval : UInt32
  flagMqttInstantModeActive : Bool
  flagStop : Bool
  handler : Handler
  removed : List AdvReport
  published : List (AdvReport × Bool)

def World.initial : World where
  table := advTableInit
  mailbox := .empty
  retryTimerRunning := false
  mqttConnected := false
  cntRelayingViaMqttSuspended := 0
  gwCfgMqttUseMqtt := false
  gwCfgMqttSendingInterval := 0
  flagMqttInstantModeActive := false
  flagStop := false
  handler := .idle
  removed := []
  published := []

end State

section Handlers

/-- What `mqtt_publish_adv` depends on, down to `esp_mqtt_client_publish`. -/
structure PublishOutcome where
  jsonCreated : Bool
  clientPresent : Bool
  fits : Bool
  published : Bool

def mqttPublishAdv (o : PublishOutcome) : Bool :=
  if !o.jsonCreated then false
  else if !o.clientPresent then false
  else if !o.fits then false
  else o.published

/-- The buffer check, and the publication if there is one. -/
structure Outcome where
  bufferAvailable : Bool
  publish : PublishOutcome

variable (w : World)

def World.gwStatusIsRelayingViaMqttEnabled : Bool := decide (w.cntRelayingViaMqttSuspended = 0)

/-- Signals are gone once the task has ended. -/
def World.send (sig : AdvMqttSig) : World :=
  if w.flagStop then w else { w with mailbox := w.mailbox.send sig }

def advMqttOnGwCfgChange : World :=
  { w with flagMqttInstantModeActive :=
      w.gwCfgMqttUseMqtt && decide (w.gwCfgMqttSendingInterval = 0) }

/-- The task ends, with its timers and its signals. -/
def advMqttHandleSigStop : World :=
  { w with flagStop := true, retryTimerRunning := false, mailbox := .empty }

/-- The handlers, of which that of `ADV_MQTT_SIG_ON_RECV_ADV` goes on if the client is connected. -/
def advMqttHandleSig : AdvMqttSig → World
  | .stop => advMqttHandleSigStop w
  | .onRecvAdv => if w.mqttConnected then { w with handler := .checkRelaying } else w
  | .gwCfgReady | .gwCfgChangedRuuvi | .cfgModeDeactivated => advMqttOnGwCfgChange w
  | .mqttConnected | .taskWatchdogFeed | .relayingModeChanged | .cfgModeActivated => w

/-- One access of `adv_mqtt_handle_sig_recv_adv` to shared data, and what follows from it. -/
def advMqttHandleSigRecvAdv (o : Outcome) : Option World :=
  match w.handler with
  | .idle => none
  | .checkRelaying => some { w with
      handler := if w.gwStatusIsRelayingViaMqttEnabled then .checkInstantMode else .idle }
  | .checkInstantMode => some { w with
      handler := if w.flagMqttInstantModeActive then .checkBuffer else .idle }
  | .checkBuffer => some (if o.bufferAvailable then { w with handler := .readHead }
      else { w with retryTimerRunning := true, handler := .idle })
  | .readHead =>
    match advTableReadRetransmissionList3Head w.table with
    | (table, none) => some { w with table := table, handler := .checkEmpty }
    | (table, some report) => some { w with
        table := table
        handler := .publish report
        removed := w.removed ++ [report] }
  | .publish report => some { w with
      handler := .checkEmpty
      published := w.published ++ [(report, mqttPublishAdv o.publish)] }
  | .checkEmpty => some { w with
      handler := if advTableReadRetransmissionList3IsEmpty w.table then .idle else .sendSignal }
  | .sendSignal => some { w.send .onRecvAdv with handler := .idle }

end Handlers

section Steps

inductive Label
  /-- Another task works on the table. It notifies of a put that is accepted. -/
  | tableOp (op : Op)
  | signal (sig : AdvMqttSig)
  | connected
  | disconnected
  | suspendRelaying
  | resumeRelaying
  | gwCfgChanged (useMqtt : Bool) (sendingInterval : UInt32)
  | retryTimerExpires
  /-- The task takes all pending signals. -/
  | take
  /-- The task handles the next of the signals that it has taken. -/
  | next
  /-- The handler goes on. -/
  | goOn (o : Outcome)

variable (w : World)

/-- Only the task itself reads the head of list 3. -/
def World.tableOp : Op → Option World
  | .readList3Head => none
  | op =>
    let r := op.apply w.table
    let w := { w with table := r.1 }
    some (if r.2 = .updated true then w.send .onRecvAdv else w)

def World.step : Label → Option (World × Unit)
  | .tableOp op => (w.tableOp op).map (·, ())
  | .signal sig => some (w.send sig, ())
  | .connected => some ({ w with mqttConnected := true }, ())
  | .disconnected => some ({ w with mqttConnected := false }, ())
  | .suspendRelaying =>
    some ({ w with cntRelayingViaMqttSuspended := w.cntRelayingViaMqttSuspended + 1 }, ())
  | .resumeRelaying =>
    some ({ w with cntRelayingViaMqttSuspended := w.cntRelayingViaMqttSuspended - 1 }, ())
  | .gwCfgChanged useMqtt sendingInterval => some ({ w with
      gwCfgMqttUseMqtt := useMqtt
      gwCfgMqttSendingInterval := sendingInterval }, ())
  | .retryTimerExpires =>
    if w.retryTimerRunning then some ({ w with retryTimerRunning := false }.send .onRecvAdv, ())
    else none
  | .take =>
    if w.handler = .idle then w.mailbox.take.map fun m => ({ w with mailbox := m }, ()) else none
  | .next =>
    if w.handler = .idle then
      w.mailbox.next.map fun r => (advMqttHandleSig { w with mailbox := r.2 } r.1, ())
    else none
  | .goOn o => (advMqttHandleSigRecvAdv w o).map (·, ())

def instantMode : System World Label Unit where
  init := .initial
  step := World.step

end Steps

section Property

variable (w : World)

/-- Nothing keeps the handler from publishing. -/
def World.Active : Prop :=
  w.flagMqttInstantModeActive = true ∧ w.mqttConnected = true ∧
    w.gwStatusIsRelayingViaMqttEnabled = true

def World.Waiting : Prop := w.table.advReportsRetransmissionList .list3 ≠ []

/-- The signal is pending or taken and still to be handled, or the retry timer runs. -/
def World.Armed : Prop :=
  .onRecvAdv ∈ w.mailbox.pending ∨ .onRecvAdv ∈ w.mailbox.taken ∨ w.retryTimerRunning = true

def Handler.inFlight : Handler → List AdvReport
  | .publish report => [report]
  | _ => []

/-- What the handler has removed it has published successfully, each report once, but for the one
that it is about to publish. -/
structure Lossless : Prop where
  once : w.removed = w.published.map Prod.fst ++ w.handler.inFlight
  succeeded : ∀ call ∈ w.published, call.2 = true

/-- Reports that can be published are going to be. -/
def Served : Prop := w.Active → w.Waiting → w.handler = .idle → w.Armed

/-- The handler gives up while reports wait only if something is left that calls it again, and what
it publishes is published. A task that has ended calls no handler again. -/
def StepSuits : Label → Prop
  | .goOn o => match w.handler with
    | .checkRelaying => w.gwStatusIsRelayingViaMqttEnabled = false → w.Waiting → w.Armed
    | .checkInstantMode => w.flagMqttInstantModeActive = false → w.Waiting → w.Armed
    | .publish _ => o.publish.jsonCreated = true ∧ o.publish.clientPresent = true ∧
        o.publish.fits = true ∧ o.publish.published = true
    | _ => True
  | .next => match w.mailbox.taken with
    | .onRecvAdv :: _ => w.mqttConnected = false → w.Waiting →
        .onRecvAdv ∈ w.mailbox.pending ∨ w.retryTimerRunning = true
    | .stop :: _ => ¬w.Waiting
    | _ => True
  | .tableOp (.put _ _) => w.flagStop = false
  | _ => True

end Property

section Table

variable {t : Table}

/-- No report waits for MQTT. -/
def NoneWaiting (t : Table) : Prop := t.advReportsRetransmissionList .list3 = []

theorem NoneWaiting.removeHead (h : NoneWaiting t) (k : ListNo) (e : Elem) :
    NoneWaiting (t.removeHead k e) := by
  unfold NoneWaiting Table.removeHead at *
  by_cases hk : .list3 = k
  · subst hk
    dsimp only
    rw [Function.update_self, h]
    rfl
  · dsimp only
    rw [Function.update_of_ne hk, h]

theorem NoneWaiting.drainLoop (k : ListNo) (q : List Elem) (h : NoneWaiting t)
    (reports : List AdvReport) : NoneWaiting (drainLoop k q t reports).table := by
  induction q generalizing t reports with
  | nil => exact h
  | cons e q ih =>
    unfold AdvTable.drainLoop
    dsimp only
    split_ifs
    · exact h.removeHead k e
    · exact ih (h.removeHead k e) _

theorem NoneWaiting.clearLoop (k : ListNo) (q : List Elem) (h : NoneWaiting t) :
    NoneWaiting (retransmissionListClearLoop k q t) := by
  induction q generalizing t with
  | nil => exact h
  | cons e q ih => exact ih (h.removeHead k e)

theorem NoneWaiting.freeLoop (q : List Elem) (h : NoneWaiting t) : NoneWaiting (freeLoop q t) := by
  induction q generalizing t with
  | nil => exact h
  | cons e q ih => exact ih h

theorem NoneWaiting.setAdvReport (h : NoneWaiting t) (e : Elem) (adv : AdvReport) :
    NoneWaiting (t.setAdvReport e adv) := h

theorem NoneWaiting.statisticsLoop (q : List Elem) (h : NoneWaiting t)
    (reports : List AdvReport) : NoneWaiting (statisticsLoop q t reports).1 := by
  induction q generalizing t reports with
  | nil => exact h
  | cons e q ih =>
    unfold AdvTable.statisticsLoop
    split_ifs
    · exact h
    · exact h
    · exact ih (h.setAdvReport _ _) _

/-- Only a put that is accepted makes a report wait. -/
theorem NoneWaiting.apply {op : Op} (h : NoneWaiting t)
    (hput : (op.apply t).2 ≠ .updated true) : NoneWaiting (op.apply t).1 := by
  cases op with
  | put adv hadv =>
    unfold Op.apply advTablePut advTableStore at *
    dsimp only at *
    cases hsearch : advHashTableSearch t adv.tagMac with
    | none =>
      rw [hsearch] at hput
      exact absurd rfl hput
    | some e =>
      rw [hsearch] at hput
      dsimp only at *
      split_ifs at hput ⊢ with hdiscard
      · exact h
      · exact absurd rfl hput
  | readAndClear k => exact h.drainLoop k _ _
  | readList3Head =>
    unfold Op.apply advTableReadRetransmissionList3Head
    rw [show t.advReportsRetransmissionList .list3 = [] from h]
    exact h
  | historyRead q => exact h
  | statisticsRead => exact h.statisticsLoop _ _
  | clear => exact (((h.clearLoop .list1 _).clearLoop .list2 _).clearLoop .list3 _).freeLoop _

end Table

section Invariant

variable {w w' : World} {l : Label}

@[simp] theorem send_removed (w : World) (sig : AdvMqttSig) : (w.send sig).removed = w.removed := by
  unfold World.send
  split_ifs <;> rfl

@[simp] theorem send_published (w : World) (sig : AdvMqttSig) :
    (w.send sig).published = w.published := by
  unfold World.send
  split_ifs <;> rfl

@[simp] theorem send_handler (w : World) (sig : AdvMqttSig) : (w.send sig).handler = w.handler := by
  unfold World.send
  split_ifs <;> rfl

@[simp] theorem send_table (w : World) (sig : AdvMqttSig) : (w.send sig).table = w.table := by
  unfold World.send
  split_ifs <;> rfl

@[simp] theorem send_flagStop (w : World) (sig : AdvMqttSig) :
    (w.send sig).flagStop = w.flagStop := by
  unfold World.send
  split_ifs <;> rfl

theorem tableOp_eq {op : Op} (h : w.tableOp op = some w') :
    w' = (if (op.apply w.table).2 = .updated true
      then { w with table := (op.apply w.table).1 }.send .onRecvAdv
      else { w with table := (op.apply w.table).1 }) := by
  unfold World.tableOp at h
  cases op with
  | readList3Head => cases h
  | put adv hadv => exact (Option.some.inj h).symm
  | readAndClear k => exact (Option.some.inj h).symm
  | historyRead q => exact (Option.some.inj h).symm
  | statisticsRead => exact (Option.some.inj h).symm
  | clear => exact (Option.some.inj h).symm

theorem next_eq (h : w.step .next = some (w', ())) : w.handler = .idle ∧
    ∃ sig m, w.mailbox.next = some (sig, m) ∧
      w' = advMqttHandleSig { w with mailbox := m } sig := by
  unfold World.step at h
  dsimp only at h
  split_ifs at h with hidle
  obtain ⟨⟨sig, m⟩, hnext, heq⟩ := Option.map_eq_some_iff.mp h
  exact ⟨hidle, sig, m, hnext, (Prod.mk.inj heq).1.symm⟩

theorem take_eq (h : w.step .take = some (w', ())) : w.handler = .idle ∧
    ∃ m, w.mailbox.take = some m ∧ w' = { w with mailbox := m } := by
  unfold World.step at h
  dsimp only at h
  split_ifs at h with hidle
  obtain ⟨m, htake, heq⟩ := Option.map_eq_some_iff.mp h
  exact ⟨hidle, m, htake, (Prod.mk.inj heq).1.symm⟩

theorem retryTimerExpires_eq (h : w.step .retryTimerExpires = some (w', ())) :
    w' = { w with retryTimerRunning := false }.send .onRecvAdv := by
  unfold World.step at h
  dsimp only at h
  split_ifs at h
  exact (Prod.mk.inj (Option.some.inj h)).1.symm

theorem goOn_eq {o : Outcome} (h : w.step (.goOn o) = some (w', ())) :
    advMqttHandleSigRecvAdv w o = some w' := by
  obtain ⟨w'', hgo, heq⟩ := Option.map_eq_some_iff.mp h
  rw [hgo, (Prod.mk.inj heq).1]

/-- No step but those of the handler touches the record. -/
theorem step_record (h : w.step l = some (w', ())) (hl : ∀ o, l ≠ .goOn o) :
    w'.removed = w.removed ∧ w'.published = w.published ∧
      w'.handler.inFlight = w.handler.inFlight := by
  cases l with
  | tableOp op =>
    obtain ⟨w'', hop, heq⟩ := Option.map_eq_some_iff.mp h
    obtain rfl := (Prod.mk.inj heq).1
    rw [tableOp_eq hop]
    split_ifs
    · rw [send_removed, send_published, send_handler]
      exact ⟨rfl, rfl, rfl⟩
    · exact ⟨rfl, rfl, rfl⟩
  | signal sig =>
    obtain rfl := (Prod.mk.inj (Option.some.inj h)).1
    rw [send_removed, send_published, send_handler]
    exact ⟨rfl, rfl, rfl⟩
  | connected =>
    obtain rfl := (Prod.mk.inj (Option.some.inj h)).1
    exact ⟨rfl, rfl, rfl⟩
  | disconnected =>
    obtain rfl := (Prod.mk.inj (Option.some.inj h)).1
    exact ⟨rfl, rfl, rfl⟩
  | suspendRelaying =>
    obtain rfl := (Prod.mk.inj (Option.some.inj h)).1
    exact ⟨rfl, rfl, rfl⟩
  | resumeRelaying =>
    obtain rfl := (Prod.mk.inj (Option.some.inj h)).1
    exact ⟨rfl, rfl, rfl⟩
  | gwCfgChanged useMqtt sendingInterval =>
    obtain rfl := (Prod.mk.inj (Option.some.inj h)).1
    exact ⟨rfl, rfl, rfl⟩
  | retryTimerExpires =>
    rw [retryTimerExpires_eq h, send_removed, send_published, send_handler]
    exact ⟨rfl, rfl, rfl⟩
  | take =>
    obtain ⟨-, m, -, rfl⟩ := take_eq h
    exact ⟨rfl, rfl, rfl⟩
  | next =>
    obtain ⟨hidle, sig, m, -, rfl⟩ := next_eq h
    cases sig with
    | onRecvAdv =>
      unfold advMqttHandleSig
      dsimp only
      split_ifs
      · exact ⟨rfl, rfl, (congrArg Handler.inFlight hidle).symm⟩
      · exact ⟨rfl, rfl, rfl⟩
    | _ => exact ⟨rfl, rfl, rfl⟩
  | goOn o => exact absurd rfl (hl o)

theorem Lossless.step (hw : Lossless w) (hg : StepSuits w l) (h : w.step l = some (w', ())) :
    Lossless w' := by
  by_cases hl : ∃ o, l = .goOn o
  · obtain ⟨o, rfl⟩ := hl
    have hgo := goOn_eq h
    have honce := hw.once
    unfold advMqttHandleSigRecvAdv at hgo
    cases hhandler : w.handler with
    | idle =>
      rw [hhandler] at hgo
      cases hgo
    | checkRelaying =>
      rw [hhandler] at hgo honce
      obtain rfl := Option.some.inj hgo
      refine ⟨?_, hw.succeeded⟩
      dsimp only
      split_ifs <;> exact honce
    | checkInstantMode =>
      rw [hhandler] at hgo honce
      obtain rfl := Option.some.inj hgo
      refine ⟨?_, hw.succeeded⟩
      dsimp only
      split_ifs <;> exact honce
    | checkBuffer =>
      rw [hhandler] at hgo honce
      dsimp only at hgo
      split_ifs at hgo
      · obtain rfl := Option.some.inj hgo
        exact ⟨honce, hw.succeeded⟩
      · obtain rfl := Option.some.inj hgo
        exact ⟨honce, hw.succeeded⟩
    | readHead =>
      rw [hhandler] at hgo honce
      dsimp only at hgo
      split at hgo
      · obtain rfl := Option.some.inj hgo
        exact ⟨honce, hw.succeeded⟩
      · obtain rfl := Option.some.inj hgo
        have hremoved : w.removed = w.published.map Prod.fst := honce.trans (List.append_nil _)
        refine ⟨?_, hw.succeeded⟩
        show w.removed ++ _ = _
        rw [hremoved]
        rfl
    | publish report =>
      rw [hhandler] at hgo honce
      obtain rfl := Option.some.inj hgo
      unfold StepSuits at hg
      dsimp only at hg
      rw [hhandler] at hg
      obtain ⟨hjson, hclient, hfits, hpublished⟩ := hg
      have hresult : mqttPublishAdv o.publish = true := by
        unfold mqttPublishAdv
        rw [hjson, hclient, hfits, hpublished]
        rfl
      constructor
      · show w.removed = (w.published ++ [(report, mqttPublishAdv o.publish)]).map Prod.fst ++ []
        rw [honce, List.map_append, List.append_nil]
        rfl
      · intro call hcall
        rcases List.mem_append.mp hcall with hold | hnew
        · exact hw.succeeded call hold
        · rw [List.mem_singleton.mp hnew]
          exact hresult
    | checkEmpty =>
      rw [hhandler] at hgo honce
      obtain rfl := Option.some.inj hgo
      refine ⟨?_, hw.succeeded⟩
      dsimp only
      split_ifs <;> exact honce
    | sendSignal =>
      rw [hhandler] at hgo honce
      obtain rfl := Option.some.inj hgo
      have hpublished := send_published w .onRecvAdv
      refine ⟨?_, fun call hcall => hw.succeeded call (hpublished ▸ hcall)⟩
      show (w.send .onRecvAdv).removed = (w.send .onRecvAdv).published.map Prod.fst ++ []
      rw [send_removed, hpublished]
      exact honce
  · obtain ⟨hremoved, hpublished, hflight⟩ := step_record h fun o ho => hl ⟨o, ho⟩
    refine ⟨?_, fun call hcall => hw.succeeded call (hpublished ▸ hcall)⟩
    rw [hremoved, hpublished, hflight]
    exact hw.once

theorem AdvMqttSig.num_injective : Function.Injective AdvMqttSig.num := by
  intro sig sig' h
  cases sig <;> cases sig' <;> first | rfl | cases h

/-- A signal that is sent to the task is pending. -/
theorem armed_of_send (h : w.flagStop = false) : (w.send .onRecvAdv).Armed := by
  unfold World.send
  rw [if_neg (Bool.eq_false_iff.mp h)]
  exact .inl (mem_insertSignal_self AdvMqttSig.num_injective _ _)

theorem World.Armed.send (h : w.Armed) (sig : AdvMqttSig) : (w.send sig).Armed := by
  unfold World.send
  split_ifs
  · exact h
  · exact h.imp_left mem_insertSignal_of_mem

/-- A put is the only operation that can say that a report was accepted. -/
theorem put_of_updated {op : Op} {t : Table} (h : (op.apply t).2 = .updated true) :
    ∃ adv hadv, op = .put adv hadv := by
  cases op with
  | put adv hadv => exact ⟨adv, hadv, rfl⟩
  | readAndClear k => cases h
  | readList3Head => cases h
  | historyRead q => cases h
  | statisticsRead => cases h
  | clear => cases h

/-- Reports that wait are looked at again, whatever keeps them from being published. -/
structure Kept (w : World) : Prop where
  stopped : w.flagStop = true → ¬w.Waiting
  armed : w.Waiting → w.handler = .idle → w.Armed

theorem Kept.flagStop (hw : Kept w) (hwaiting : w.Waiting) : w.flagStop = false :=
  Bool.eq_false_iff.mpr fun hstop => hw.stopped hstop hwaiting

theorem World.Waiting.of_table (hwaiting : w'.Waiting) (htable : w'.table = w.table) :
    w.Waiting := by
  unfold World.Waiting at hwaiting
  rwa [htable] at hwaiting

/-- A step that touches neither the table nor the task keeps what is left to call the handler. -/
theorem Kept.of_eq (hw : Kept w) (htable : w'.table = w.table) (hstop : w'.flagStop = w.flagStop)
    (hhandler : w'.handler = w.handler) (harmed : w.Armed → w'.Armed) : Kept w' := by
  constructor
  · exact fun hs hwaiting => hw.stopped (hstop ▸ hs) (hwaiting.of_table htable)
  · exact fun hwaiting hidle => harmed (hw.armed (hwaiting.of_table htable) (hhandler ▸ hidle))

/-- A report that waits after an operation was waiting before it, or has just been accepted. -/
theorem waiting_of_apply {op : Op} {t : Table} (hput : (op.apply t).2 ≠ .updated true)
    (h : (op.apply t).1.advReportsRetransmissionList .list3 ≠ []) :
    t.advReportsRetransmissionList .list3 ≠ [] :=
  fun hnone => h (NoneWaiting.apply hnone hput)

theorem Kept.tableOp {op : Op} (hw : Kept w) (hg : StepSuits w (.tableOp op))
    (h : w.tableOp op = some w') : Kept w' := by
  rw [tableOp_eq h]
  split_ifs with hupdated
  · obtain ⟨adv, hadv, rfl⟩ := put_of_updated hupdated
    have hstop : w.flagStop = false := hg
    constructor
    · intro hs
      rw [send_flagStop] at hs
      exact absurd hs (Bool.eq_false_iff.mp hstop)
    · exact fun _ _ => armed_of_send hstop
  · constructor
    · exact fun hs hwaiting => hw.stopped hs (waiting_of_apply hupdated hwaiting)
    · exact fun hwaiting hidle => hw.armed (waiting_of_apply hupdated hwaiting) hidle

theorem Kept.next (hw : Kept w) (hg : StepSuits w .next) (h : w.step .next = some (w', ())) :
    Kept w' := by
  obtain ⟨hidle, sig, m, hnext, rfl⟩ := next_eq h
  obtain ⟨htaken, hpending⟩ := Mailbox.next_spec hnext
  unfold StepSuits at hg
  dsimp only at hg
  rw [htaken] at hg
  -- A signal other than that of a report leaves that of a report where it is.
  have hrest (hsig : sig ≠ .onRecvAdv) (harmed : w.Armed) :
      .onRecvAdv ∈ m.pending ∨ .onRecvAdv ∈ m.taken ∨ w.retryTimerRunning = true := by
    unfold World.Armed at harmed
    rw [htaken, ← hpending] at harmed
    rcases harmed with hp | ht | hr
    · exact .inl hp
    · exact .inr (.inl ((List.mem_cons.mp ht).resolve_left hsig.symm))
    · exact .inr (.inr hr)
  cases sig with
  | stop => exact ⟨fun _ => hg, fun hwaiting => absurd hwaiting hg⟩
  | onRecvAdv =>
    unfold advMqttHandleSig
    dsimp only
    split_ifs with hconnected
    · exact ⟨hw.stopped, fun _ hhandler => nomatch hhandler⟩
    · refine ⟨hw.stopped, fun hwaiting _ => ?_⟩
      rcases hg (Bool.eq_false_iff.mpr hconnected) hwaiting with hp | hr
      · exact .inl (hpending.symm ▸ hp)
      · exact .inr (.inr hr)
  | mqttConnected => exact hw.of_eq rfl rfl rfl (hrest nofun)
  | taskWatchdogFeed => exact hw.of_eq rfl rfl rfl (hrest nofun)
  | gwCfgReady => exact hw.of_eq rfl rfl rfl (hrest nofun)
  | gwCfgChangedRuuvi => exact hw.of_eq rfl rfl rfl (hrest nofun)
  | relayingModeChanged => exact hw.of_eq rfl rfl rfl (hrest nofun)
  | cfgModeActivated => exact hw.of_eq rfl rfl rfl (hrest nofun)
  | cfgModeDeactivated => exact hw.of_eq rfl rfl rfl (hrest nofun)

theorem Kept.goOn {o : Outcome} (hw : Kept w) (hg : StepSuits w (.goOn o))
    (h : advMqttHandleSigRecvAdv w o = some w') : Kept w' := by
  unfold StepSuits at hg
  dsimp only at hg
  unfold advMqttHandleSigRecvAdv at h
  cases hhandler : w.handler with
  | idle =>
    rw [hhandler] at h
    cases h
  | checkRelaying =>
    rw [hhandler] at h hg
    obtain rfl := Option.some.inj h
    refine ⟨hw.stopped, fun hwaiting hidle => ?_⟩
    dsimp only at hidle
    split_ifs at hidle with henabled
    exact hg (Bool.eq_false_iff.mpr henabled) hwaiting
  | checkInstantMode =>
    rw [hhandler] at h hg
    obtain rfl := Option.some.inj h
    refine ⟨hw.stopped, fun hwaiting hidle => ?_⟩
    dsimp only at hidle
    split_ifs at hidle with hactive
    exact hg (Bool.eq_false_iff.mpr hactive) hwaiting
  | checkBuffer =>
    rw [hhandler] at h
    dsimp only at h
    split_ifs at h
    · obtain rfl := Option.some.inj h
      exact ⟨hw.stopped, fun _ hidle => nomatch hidle⟩
    · obtain rfl := Option.some.inj h
      exact ⟨hw.stopped, fun _ _ => .inr (.inr rfl)⟩
  | readHead =>
    rw [hhandler] at h
    have hread := @waiting_of_apply .readList3Head w.table nofun
    unfold Op.apply at hread
    dsimp only at h hread
    split at h
    case h_1 t heq =>
      obtain rfl := Option.some.inj h
      rw [heq] at hread
      exact ⟨fun hs hwaiting => hw.stopped hs (hread hwaiting), fun _ hidle => nomatch hidle⟩
    case h_2 t report heq =>
      obtain rfl := Option.some.inj h
      rw [heq] at hread
      exact ⟨fun hs hwaiting => hw.stopped hs (hread hwaiting), fun _ hidle => nomatch hidle⟩
  | publish report =>
    rw [hhandler] at h
    obtain rfl := Option.some.inj h
    exact ⟨hw.stopped, fun _ hidle => nomatch hidle⟩
  | checkEmpty =>
    rw [hhandler] at h
    obtain rfl := Option.some.inj h
    refine ⟨hw.stopped, fun hwaiting hidle => ?_⟩
    dsimp only at hidle
    split_ifs at hidle with hempty
    exact absurd (List.isEmpty_iff.mp hempty) hwaiting
  | sendSignal =>
    rw [hhandler] at h
    obtain rfl := Option.some.inj h
    have htable := send_table w .onRecvAdv
    constructor
    · intro hs hwaiting
      have hstop : w.flagStop = true := (send_flagStop w .onRecvAdv).symm.trans hs
      exact hw.stopped hstop (hwaiting.of_table htable)
    · exact fun hwaiting _ => armed_of_send (hw.flagStop (hwaiting.of_table htable))

theorem Kept.step (hw : Kept w) (hg : StepSuits w l) (h : w.step l = some (w', ())) : Kept w' := by
  cases l with
  | tableOp op =>
    obtain ⟨w'', hop, heq⟩ := Option.map_eq_some_iff.mp h
    obtain rfl := (Prod.mk.inj heq).1
    exact hw.tableOp hg hop
  | signal sig =>
    obtain rfl := (Prod.mk.inj (Option.some.inj h)).1
    exact hw.of_eq (send_table w sig) (send_flagStop w sig) (send_handler w sig) fun h => h.send sig
  | connected =>
    obtain rfl := (Prod.mk.inj (Option.some.inj h)).1
    exact hw.of_eq rfl rfl rfl id
  | disconnected =>
    obtain rfl := (Prod.mk.inj (Option.some.inj h)).1
    exact hw.of_eq rfl rfl rfl id
  | suspendRelaying =>
    obtain rfl := (Prod.mk.inj (Option.some.inj h)).1
    exact hw.of_eq rfl rfl rfl id
  | resumeRelaying =>
    obtain rfl := (Prod.mk.inj (Option.some.inj h)).1
    exact hw.of_eq rfl rfl rfl id
  | gwCfgChanged useMqtt sendingInterval =>
    obtain rfl := (Prod.mk.inj (Option.some.inj h)).1
    exact hw.of_eq rfl rfl rfl id
  | retryTimerExpires =>
    rw [retryTimerExpires_eq h]
    have htable := send_table { w with retryTimerRunning := false } .onRecvAdv
    constructor
    · intro hs hwaiting
      rw [send_flagStop] at hs
      exact hw.stopped hs (hwaiting.of_table htable)
    · exact fun hwaiting _ => armed_of_send (hw.flagStop (hwaiting.of_table htable))
  | take =>
    obtain ⟨-, m, htake, rfl⟩ := take_eq h
    obtain ⟨htaken, -, htaken'⟩ := Mailbox.take_spec htake
    refine hw.of_eq rfl rfl rfl fun harmed => ?_
    rcases harmed with hp | ht | hr
    · exact .inr (.inl (htaken'.symm ▸ hp))
    · exact absurd (htaken ▸ ht) List.not_mem_nil
    · exact .inr (.inr hr)
  | next => exact hw.next hg h
  | goOn o => exact hw.goOn hg (goOn_eq h)

theorem Kept.initial : Kept World.initial :=
  ⟨fun hs => absurd hs Bool.false_ne_true, fun hwaiting => absurd rfl hwaiting⟩

theorem Lossless.initial : Lossless World.initial := ⟨rfl, nofun⟩

end Invariant

section Runs

variable {w : World}

theorem Kept.served (hw : Kept w) : Served w := fun _ hwaiting hidle => hw.armed hwaiting hidle

def sampleOutcome (published : Bool) : Outcome := ⟨true, true, true, true, published⟩

/-- Instant mode is active, and two reports wait for a client that is connected. -/
def startedWorld : World :=
  { World.initial with
    table := ((samplePut 2).apply ((samplePut 1).apply advTableInit).1).1
    mailbox := Mailbox.empty.send .onRecvAdv
    mqttConnected := true
    gwCfgMqttUseMqtt := true
    flagMqttInstantModeActive := true }

theorem run_started : ∃ history, instantMode.Run StepSuits history startedWorld := by
  have hcfg : instantMode.Run StepSuits _ _ :=
    .step (i := Label.gwCfgChanged true 0) .init trivial rfl
  have hsent := hcfg.step (i := Label.signal .gwCfgChangedRuuvi) trivial rfl
  have htaken := hsent.step (i := Label.take) trivial rfl
  have hactive := htaken.step (i := Label.next) trivial rfl
  have hconnected := hactive.step (i := Label.connected) trivial rfl
  have hput := hconnected.step (i := Label.tableOp (samplePut 1)) rfl rfl
  have hput' := hput.step (i := Label.tableOp (samplePut 2)) rfl rfl
  exact ⟨_, hput'⟩

end Runs

end RuuviGateway.AdvMqtt
