import RuuviGateway.AdvPost.Receiving
import RuuviGateway.AdvTable.Window
import RuuviGateway.Config.Sample

/-!
# Reports belong to the configuration in force

Once the configuration is ready, the cache agrees with the stored configuration or a signal that
refreshes it is due, and the table holds reports that the cache accepts or is about to be cleared.
So whenever no signal is pending, the table belongs to the stored configuration. The main task
clears the configuration mode before it notifies of that, so the filter comes back only after the
notification.
-/

namespace RuuviGateway.AdvPost

open AdvTable Config General

variable {P : Platform}

section Cache

/-- What a scan filter is for. -/
def PassesFilter (filter : GwCfgScanFilter) (mac : MacAddressBin) : Prop :=
  filter.addresses = [] ∨ (mac ∈ filter.addresses ↔ filter.scanFilterAllowListed = true)

/-- The cache has the given filter. -/
def CfgCache.HasFilter (cache : CfgCache) (filter : GwCfgScanFilter) : Prop :=
  cache.scanFilterAllowListed = filter.scanFilterAllowListed ∧
    cache.scanFilterMacs = if filter.scanFilterLength ≠ 0 then some filter.addresses else none

theorem CfgCache.HasFilter.passes {cache : CfgCache} {filter : GwCfgScanFilter}
    (h : cache.HasFilter filter) {mac : MacAddressBin}
    (hpass : advPostCheckIfMacFilteredOut cache mac = false) : PassesFilter filter mac := by
  obtain ⟨hallow, hmacs⟩ := h
  have hlen := filter.length_addresses
  unfold advPostCheckIfMacFilteredOut at hpass
  by_cases hzero : filter.scanFilterLength = 0
  · exact .inl (List.eq_nil_of_length_eq_zero (hlen.trans hzero))
  · rw [if_pos hzero] at hmacs
    rw [hmacs] at hpass
    dsimp only at hpass
    rw [if_neg (by rw [hlen]; exact hzero), hallow] at hpass
    refine .inr ?_
    split_ifs at hpass with hlisted
    · simpa [hlisted] using hpass
    · simpa [hlisted] using hpass

/-- A report that the cache lets pass has been stamped in the time mode of the cache. -/
def CfgCache.Accepts (cache : CfgCache) (o : Origin) : Prop :=
  advPostCheckIfMacFilteredOut cache o.mac = false ∧
    o.timestamp.source = if cache.flagUseNtp then .wallClock else .receptionCounter

theorem handleScanFilter_hasFilter {cache : CfgCache} {filter : GwCfgScanFilter} {allocated : Bool}
    (hcache : cache.scanFilterMacs = none)
    (h : (Receiver.handleScanFilter cache filter allocated).2 = true) :
    (Receiver.handleScanFilter cache filter allocated).1.HasFilter filter := by
  unfold Receiver.handleScanFilter at h ⊢
  dsimp only at h ⊢
  split_ifs at h ⊢ with hlen halloc
  · exact ⟨rfl, (if_pos hlen).symm⟩
  · exact ⟨rfl, hcache.trans (if_neg hlen).symm⟩

theorem handleScanFilter_ntp (cache : CfgCache) (filter : GwCfgScanFilter) (allocated : Bool) :
    (Receiver.handleScanFilter cache filter allocated).1.flagUseNtp = cache.flagUseNtp := by
  unfold Receiver.handleScanFilter
  dsimp only
  split_ifs <;> rfl

end Cache

namespace Receiver

/-- The signal is pending, or the posting task has taken it and has not begun its handler. -/
def Due (s : Receiver P) (sig : CfgSig) : Prop :=
  s.pending sig = true ∨ s.batch sig = true ∨ s.handling = .start sig

def RefreshDue (s : Receiver P) : Prop := ∃ sig : CfgSig, sig.refreshes = true ∧ s.Due sig

/-- From the activation of the configuration mode until its end has been notified. -/
def Active (s : Receiver P) : Prop := s.cfgMode = true ∨ s.main = .deactivating

/-- The posting task waits, and none of the signals about the configuration is there. -/
def NoSignalPending (s : Receiver P) : Prop :=
  s.handling = .waiting ∧ ∀ sig, s.pending sig = false

/-- The reports in the table belong to a configuration. While `anyMac` holds the filter does not
matter. -/
structure Belongs (s : Receiver P) (anyMac : Prop) (cfg : GwCfgRuuvi P) : Prop where
  passes : ∀ e, ¬s.table.IsFree e → anyMac ∨ PassesFilter cfg.scanFilter (s.table.macOf e)
  recorded : ∀ e, ¬s.table.IsFree e → ∃ o ∈ s.origins,
    o.mac = s.table.macOf e ∧ o.timestamp.value = (s.table.advReport e).timestamp
  source : ∀ o ∈ s.origins,
    o.timestamp.source = if cfg.ntp.ntpUse then .wallClock else .receptionCounter

end Receiver

section Steps

variable {s s' : Receiver P}

theorem lockRo_eq_some {g : GwCfgGlobals P} :
    s.lockRo = some g ↔ s.setter = .free ∧ s.session = some g := by
  unfold Receiver.lockRo
  cases s.setter <;> simp

/-- What the tasks do to the store, the mode, the signals and the cache, one constructor for each
step. -/
inductive Moves (default : GwCfg P) (s : Receiver P) : Receiver P → Prop
  | opens (hsession : s.session = none) :
      Moves default s { s with session := some (Config.gwCfgInit default s.deinitialized) }
  | closes (hfree : s.setter = .free) (hfirst : s.deinitialized = false) :
      Moves default s { s with session := none, deinitialized := true }
  | setsSilently (g : GwCfgGlobals P) (args : GivenSections P) (hfree : s.setter = .free)
      (hsession : s.session = some g) (hsame : .gwCfgChangedRuuvi ∉ changedEvents g args) :
      Moves default s { s with setter := .notified args }
  | sets (args : GivenSections P) :
      Moves default s ({ s with setter := .notified args }.raise .gwCfgChangedRuuvi)
  | stores (g : GwCfgGlobals P) (args : GivenSections P) (hsetter : s.setter = .notified args)
      (hsession : s.session = some g) :
      Moves default s { s with session := some (g.set args).1, setter := .stored g.gwCfgReady }
  | finishes : Moves default s { s with setter := .free }
  | announces (g : GwCfgGlobals P) (wasReady : Bool) (hsetter : s.setter = .stored wasReady)
      (hsession : s.session = some g) (hcallback : g.cbOnChangeCfg = true) :
      Moves default s
        { { s with setter := .free }.raise .gwCfgReady with readyNotified := true }
  | updatesUrl (g : GwCfgGlobals P) (url : Bytes) (hfree : s.setter = .free)
      (hsession : s.session = some g) :
      Moves default s { s with session := some (g.updateFwUpdateUrl url).1 }
  | setsMode : Moves default s { s with cfgMode := true, main := .activating }
  | notifiesActivated (hmain : s.main = .activating) :
      Moves default s ({ s with main := .idle }.raise .cfgModeActivated)
  | clearsMode : Moves default s { s with cfgMode := false, main := .deactivating }
  | notifiesDeactivated : Moves default s ({ s with main := .idle }.raise .cfgModeDeactivated)
  | scans : Moves default s (s.raise .bleScanChanged)
  | takes (hhandling : s.handling = .waiting) :
      Moves default s
        { s with batch := s.pending, pending := fun _ => false, handling := .next }
  | waits (hhandling : s.handling = .next) (hempty : ∀ sig, s.batch sig = false) :
      Moves default s { s with handling := .waiting }
  | picks (sig : CfgSig) (hhandling : s.handling = .next) (hsig : s.batch sig = true)
      (hfirst : sig = .cfgModeDeactivated → s.batch .cfgModeActivated = false) :
      Moves default s
        { s with batch := Function.update s.batch sig false, handling := .start sig }
  | startsBleScan (hhandling : s.handling = .start .bleScanChanged) :
      Moves default s { s with handling := .cacheUnlocked }
  | dropsFilter (hhandling : s.handling = .start .cfgModeActivated) :
      Moves default s
        { s with cache := { s.cache with scanFilterMacs := none }, handling := .cacheUnlocked }
  | readsNtp (g : GwCfgGlobals P) (sig : CfgSig) (hhandling : s.handling = .start sig)
      (hrefreshes : sig.refreshes = true) (hfree : s.setter = .free)
      (hsession : s.session = some g) :
      Moves default s { s with handling := .ntpRead g.gatewayConfig.ruuviCfg.ntp.ntpUse }
  | locksCache (flagUseNtp : Bool) (hhandling : s.handling = .ntpRead flagUseNtp) :
      Moves default s
        { s with
          cache := { s.cache with flagUseNtp := flagUseNtp, scanFilterMacs := none }
          handling := .cacheLocked }
  | readsFilter (g : GwCfgGlobals P) (allocated : Bool) (hhandling : s.handling = .cacheLocked)
      (hsession : s.session = some g) :
      Moves default s
        { s with
          cache := (Receiver.handleScanFilter s.cache g.gatewayConfig.ruuviCfg.scanFilter
            allocated).1
          handling := if (Receiver.handleScanFilter s.cache g.gatewayConfig.ruuviCfg.scanFilter
            allocated).2 then .filterRead else .restarting }
  | unlocksCache (hhandling : s.handling = .filterRead) :
      Moves default s { s with handling := .cacheUnlocked }
  | clears (hhandling : s.handling = .cacheUnlocked) :
      Moves default s
        { s with table := advTableClear s.table, origins := [], handling := .next }

/-- The steps of the receiving task and of the other users of the table. -/
def ReceiverLabel.usesTable : ReceiverLabel P → Bool
  | .receive _ | .tryLockCache | .putReport _ | .useTable _ => true
  | _ => false

/-- The end of the configuration mode is handled only if no activation is in the batch. -/
theorem ascending_deactivated {batch : CfgSig → Bool}
    (h : CfgSig.ascending.find? batch = some .cfgModeDeactivated) :
    batch .cfgModeActivated = false := by
  simp only [CfgSig.ascending, List.find?] at h
  split at h
  · cases h
  split at h
  · cases h
  split at h
  · cases h
  split at h
  · cases h
  · assumption

theorem advPost_moves {allocated : Bool} {default : GwCfg P}
    (hnext : s.advPost allocated = some s') : Moves default s s' := by
  unfold Receiver.advPost at hnext
  split at hnext
  · cases hnext
  · cases hnext
  next hhandling =>
    split at hnext
    next hnone =>
      have hempty (sig : CfgSig) : s.batch sig = false := by
        have hmem : sig ∈ CfgSig.ascending := by cases sig <;> decide
        simpa using List.find?_eq_none.mp hnone sig hmem
      exact Option.some.inj hnext ▸ .waits hhandling hempty
    next sig hsome =>
      refine Option.some.inj hnext ▸ .picks sig hhandling (List.find?_some hsome) ?_
      rintro rfl
      exact ascending_deactivated hsome
  next hhandling => exact Option.some.inj hnext ▸ .startsBleScan hhandling
  next hhandling =>
    split_ifs at hnext
    exact Option.some.inj hnext ▸ .dropsFilter hhandling
  next sig hble hactivated hhandling =>
    obtain ⟨g, hlock, rfl⟩ := Option.map_eq_some_iff.mp hnext
    obtain ⟨hfree, hsession⟩ := lockRo_eq_some.mp hlock
    have hrefreshes : sig.refreshes = true := by
      cases sig with
      | bleScanChanged => simp at hble
      | cfgModeActivated => simp at hactivated
      | gwCfgReady => rfl
      | gwCfgChangedRuuvi => rfl
      | cfgModeDeactivated => rfl
    exact .readsNtp g sig hhandling hrefreshes hfree hsession
  next flagUseNtp hhandling =>
    split_ifs at hnext
    exact Option.some.inj hnext ▸ .locksCache flagUseNtp hhandling
  next hhandling =>
    obtain ⟨g, hlock, rfl⟩ := Option.map_eq_some_iff.mp hnext
    exact .readsFilter g allocated hhandling (lockRo_eq_some.mp hlock).2
  next hhandling => exact Option.some.inj hnext ▸ .unlocksCache hhandling
  next hhandling => exact Option.some.inj hnext ▸ .clears hhandling

theorem next_moves {default : GwCfg P} {label : ReceiverLabel P}
    (hlabel : label.usesTable = false) (hnext : s.next default label = some s') :
    Moves default s s' := by
  cases label with
  | gwCfgInit =>
    dsimp only [Receiver.next, Receiver.gwCfgInit] at hnext
    split at hnext
    next hsession => exact Option.some.inj hnext ▸ .opens hsession
    · cases hnext
  | gwCfgDeinit =>
    dsimp only [Receiver.next, Receiver.gwCfgDeinit] at hnext
    split_ifs at hnext with hdeinit
    obtain ⟨g, hlock, rfl⟩ := Option.map_eq_some_iff.mp hnext
    exact .closes (lockRo_eq_some.mp hlock).1 (Bool.eq_false_iff.mpr hdeinit)
  | setNotify args =>
    obtain ⟨g, hlock, rfl⟩ := Option.map_eq_some_iff.mp hnext
    obtain ⟨hfree, hsession⟩ := lockRo_eq_some.mp hlock
    by_cases hchanged : .gwCfgChangedRuuvi ∈ changedEvents g args
    · rw [if_pos hchanged]
      exact .sets args
    · rw [if_neg hchanged]
      exact .setsSilently g args hfree hsession hchanged
  | setStore =>
    dsimp only [Receiver.next, Receiver.setStore] at hnext
    split at hnext
    next args hsetter =>
      obtain ⟨g, hsession, rfl⟩ := Option.map_eq_some_iff.mp hnext
      exact .stores g args hsetter hsession
    · cases hnext
  | setFinish =>
    dsimp only [Receiver.next, Receiver.setFinish] at hnext
    split at hnext
    next wasReady hsetter =>
      obtain ⟨g, hsession, rfl⟩ := Option.map_eq_some_iff.mp hnext
      by_cases hannounce : (!wasReady && g.cbOnChangeCfg) = true
      · rw [if_pos hannounce]
        exact .announces g wasReady hsetter hsession (Bool.and_eq_true_iff.mp hannounce).2
      · rw [if_neg hannounce]
        exact .finishes
    · cases hnext
  | updateFwUpdateUrl url =>
    obtain ⟨g, hlock, rfl⟩ := Option.map_eq_some_iff.mp hnext
    obtain ⟨hfree, hsession⟩ := lockRo_eq_some.mp hlock
    exact .updatesUrl g url hfree hsession
  | setCfgMode =>
    dsimp only [Receiver.next, Receiver.setCfgMode] at hnext
    split_ifs at hnext
    exact Option.some.inj hnext ▸ .setsMode
  | notifyActivated =>
    dsimp only [Receiver.next, Receiver.notifyActivated] at hnext
    split_ifs at hnext with hmain
    exact Option.some.inj hnext ▸ .notifiesActivated hmain
  | clearCfgMode =>
    obtain ⟨g, -, hg⟩ := Option.bind_eq_some_iff.mp hnext
    split_ifs at hg
    exact Option.some.inj hg ▸ .clearsMode
  | notifyDeactivated =>
    dsimp only [Receiver.next, Receiver.notifyDeactivated] at hnext
    split_ifs at hnext
    exact Option.some.inj hnext ▸ .notifiesDeactivated
  | bleScanChanged => exact Option.some.inj hnext ▸ .scans
  | takeSignals =>
    dsimp only [Receiver.next, Receiver.takeSignals] at hnext
    split_ifs at hnext with hwaiting
    exact Option.some.inj hnext ▸ .takes hwaiting
  | advPost allocated => exact advPost_moves hnext
  | receive payload => cases hlabel
  | tryLockCache => cases hlabel
  | putReport clock => cases hlabel
  | useTable op => cases hlabel

end Steps

section Table

variable {s s' : Receiver P}

/-- The posting task has changed the cache and has not cleared the table yet. -/
def Handling.clears : Handling → Bool
  | .cacheLocked | .filterRead | .cacheUnlocked | .restarting => true
  | _ => false

/-- The table and the cache. -/
structure TableInvariant (s : Receiver P) : Prop where
  table : AdvTable.Invariant s.table
  recorded : ∀ e, ¬s.table.IsFree e → ∃ o ∈ s.origins,
    o.mac = s.table.macOf e ∧ o.timestamp.value = (s.table.advReport e).timestamp
  accepted : s.handling.clears = false → ∀ o ∈ s.origins, s.cache.Accepts o

/-- An empty table belongs to whatever the cache says. -/
theorem TableInvariant.cleared (h : TableInvariant s) (htable : s'.table = advTableClear s.table)
    (horigins : s'.origins = []) : TableInvariant s' := by
  have hclear : s'.table = s.table.cleared := htable.trans h.table.clear_eq
  constructor
  · rw [hclear]
    exact h.table.cleared
  · intro e he
    rw [hclear] at he
    exact absurd rfl he
  · intro _ o ho
    rw [horigins] at ho
    cases ho

theorem TableInvariant.receive (h : TableInvariant s) {payload : Option ParsedReport}
    (hnext : s.receive payload = some s') : TableInvariant s' := by
  unfold Receiver.receive at hnext
  split at hnext
  · rw [← Option.some.inj hnext]
    split_ifs
    · exact ⟨h.table, h.recorded, h.accepted⟩
    · exact h
  · cases hnext

theorem TableInvariant.tryLockCache (h : TableInvariant s) (hnext : s.tryLockCache = some s') :
    TableInvariant s' := by
  unfold Receiver.tryLockCache at hnext
  split at hnext
  · rw [← Option.some.inj hnext]
    exact ⟨h.table, h.recorded, h.accepted⟩
  · cases hnext

/-- Every live cell comes from one of the given reports. -/
def Recorded (t : Table) (origins : List Origin) : Prop :=
  ∀ e, ¬t.IsFree e → ∃ o ∈ origins, o.mac = t.macOf e ∧
    o.timestamp.value = (t.advReport e).timestamp

/-- An accepted put leaves its report in a cell and keeps the other reports, and a refused one keeps
all reports but for a sample count. -/
theorem Recorded.put {t : Table} {origins : List Origin} (hrec : Recorded t origins)
    (h : AdvTable.Invariant t) (adv : AdvReport) (source : TimeSource) :
    Recorded (advTablePut t adv).1 (if (advTablePut t adv).2 then
      ⟨adv.tagMac, ⟨adv.timestamp, source⟩⟩ :: origins else origins) := by
  rcases h.put_cases adv with ⟨t', hst, hput⟩ | ⟨e', hsearch, hdiscarded, hput⟩
  · rw [hput, advTableEnqueue_eq]
    intro e he
    unfold Table.IsFree at he
    unfold Table.macOf
    dsimp only at he ⊢
    rw [hst.advReport] at he ⊢
    by_cases htarget : e = targetElem t adv
    · subst htarget
      refine ⟨_, List.mem_cons_self, ?_, ?_⟩
      · rw [Function.update_self, storedReport_tagMac]
      · rw [Function.update_self]
        unfold storedReport AdvReport.replacing
        split <;> rfl
    · rw [Function.update_of_ne htarget] at he ⊢
      obtain ⟨o, ho, hsame⟩ := hrec e he
      exact ⟨o, List.mem_cons_of_mem _ ho, hsame⟩
  · rw [hput]
    intro e he
    by_cases hcounted : e = e'
    · subst hcounted
      have hlive : ¬t.IsFree e := by
        simpa [Table.IsFree, Table.setAdvReport, AdvReport.countSample] using he
      obtain ⟨o, ho, hmac, htime⟩ := hrec e hlive
      refine ⟨o, ho, ?_, ?_⟩
      · simpa [Table.macOf, Table.setAdvReport, AdvReport.countSample] using hmac
      · simpa [Table.setAdvReport, AdvReport.countSample] using htime
    · have hlive : ¬t.IsFree e := by
        simpa [Table.IsFree, Table.setAdvReport, Function.update_of_ne hcounted] using he
      obtain ⟨o, ho, hmac, htime⟩ := hrec e hlive
      refine ⟨o, ho, ?_, ?_⟩
      · simpa [Table.macOf, Table.setAdvReport, Function.update_of_ne hcounted] using hmac
      · simpa [Table.setAdvReport, Function.update_of_ne hcounted] using htime

theorem Recorded.apply {t : Table} {origins : List Origin} (hrec : Recorded t origins)
    (h : AdvTable.Invariant t) {op : Op} (hput : ∀ adv hadv, op ≠ .put adv hadv) :
    Recorded (op.apply t).1 origins := by
  cases op with
  | put adv hadv => exact absurd rfl (hput adv hadv)
  | readAndClear k =>
    dsimp only [Op.apply]
    rw [h.readAndClear_eq]
    exact hrec
  | readList3Head =>
    dsimp only [Op.apply]
    unfold advTableReadRetransmissionList3Head
    cases t.advReportsRetransmissionList .list3 with
    | nil => exact hrec
    | cons e rest => exact hrec
  | historyRead q => exact hrec
  | statisticsRead =>
    dsimp only [Op.apply]
    rw [h.statisticsRead_eq]
    intro e he
    have hlive : ¬t.IsFree e := by
      unfold Table.IsFree Table.resetCounters at he
      dsimp only at he
      split_ifs at he <;> exact he
    obtain ⟨o, ho, hmac, htime⟩ := hrec e hlive
    refine ⟨o, ho, ?_, ?_⟩
    · unfold Table.macOf Table.resetCounters
      dsimp only
      split_ifs <;> exact hmac
    · unfold Table.resetCounters
      dsimp only
      split_ifs <;> exact htime
  | clear =>
    dsimp only [Op.apply]
    rw [h.clear_eq]
    exact fun e he => absurd rfl he

/-- A report that passes both tests has been accepted by the cache. -/
theorem accepts_timestamp {cache : CfgCache} {mac : MacAddressBin} {clock : Clock}
    (hpass : advPostCheckIfMacFilteredOut cache mac = false)
    (hsync : (cache.flagUseNtp && !clock.timeIsSynchronized) = false) :
    cache.Accepts ⟨mac, clock.timestamp cache.flagUseNtp⟩ := by
  refine ⟨hpass, ?_⟩
  unfold Clock.timestamp
  cases hntp : cache.flagUseNtp with
  | false => rfl
  | true =>
    rw [hntp] at hsync
    have hsynced : clock.timeIsSynchronized = true := by simpa using hsync
    rw [hsynced]
    rfl

theorem TableInvariant.putReport (h : TableInvariant s) {clock : Clock}
    (hnext : s.putReport clock = some s') : TableInvariant s' := by
  have hidle : TableInvariant { s with reception := .idle } :=
    ⟨h.table, h.recorded, h.accepted⟩
  unfold Receiver.putReport at hnext
  split at hnext
  · exact Option.some.inj hnext ▸ hidle
  next report hreception =>
    dsimp only at hnext
    by_cases hfiltered : advPostCheckIfMacFilteredOut s.cache report.adv.tagMac = true
    · rw [if_pos hfiltered] at hnext
      exact Option.some.inj hnext ▸ hidle
    rw [if_neg hfiltered] at hnext
    by_cases hsync : (s.cache.flagUseNtp && !clock.timeIsSynchronized) = true
    · rw [if_pos hsync] at hnext
      exact Option.some.inj hnext ▸ hidle
    rw [if_neg hsync] at hnext
    rw [← Option.some.inj hnext]
    have hnew := accepts_timestamp (Bool.eq_false_iff.mpr hfiltered) (Bool.eq_false_iff.mpr hsync)
    refine ⟨h.table.put _ report.hasData, ?_, ?_⟩
    · exact Recorded.put h.recorded h.table
        { report.adv with timestamp := (clock.timestamp s.cache.flagUseNtp).value }
        (clock.timestamp s.cache.flagUseNtp).source
    · intro hclears o ho
      dsimp only at ho
      split_ifs at ho
      · rcases List.mem_cons.mp ho with rfl | ho
        · exact hnew
        · exact h.accepted hclears o ho
      · exact h.accepted hclears o ho
  · cases hnext

theorem TableInvariant.useTable (h : TableInvariant s) {op : Op}
    (hnext : s.useTable op = some s') : TableInvariant s' := by
  cases op with
  | put adv hadv => cases hnext
  | clear =>
    rw [← Option.some.inj hnext]
    exact h.cleared rfl rfl
  | readAndClear k =>
    rw [← Option.some.inj hnext]
    exact ⟨h.table.apply _, Recorded.apply h.recorded h.table nofun, h.accepted⟩
  | readList3Head =>
    rw [← Option.some.inj hnext]
    exact ⟨h.table.apply _, Recorded.apply h.recorded h.table nofun, h.accepted⟩
  | historyRead q =>
    rw [← Option.some.inj hnext]
    exact ⟨h.table.apply _, Recorded.apply h.recorded h.table nofun, h.accepted⟩
  | statisticsRead =>
    rw [← Option.some.inj hnext]
    exact ⟨h.table.apply _, Recorded.apply h.recorded h.table nofun, h.accepted⟩

theorem TableInvariant.moves (h : TableInvariant s) {default : GwCfg P}
    (hmoves : Moves default s s') : TableInvariant s' := by
  cases hmoves with
  | takes hhandling => exact ⟨h.table, h.recorded, fun _ => h.accepted (by rw [hhandling]; rfl)⟩
  | waits hhandling => exact ⟨h.table, h.recorded, fun _ => h.accepted (by rw [hhandling]; rfl)⟩
  | picks sig hhandling =>
    exact ⟨h.table, h.recorded, fun _ => h.accepted (by rw [hhandling]; rfl)⟩
  | readsNtp g sig hhandling =>
    exact ⟨h.table, h.recorded, fun _ => h.accepted (by rw [hhandling]; rfl)⟩
  | startsBleScan => exact ⟨h.table, h.recorded, nofun⟩
  | dropsFilter => exact ⟨h.table, h.recorded, nofun⟩
  | locksCache => exact ⟨h.table, h.recorded, nofun⟩
  | readsFilter =>
    refine ⟨h.table, h.recorded, fun hclears => ?_⟩
    dsimp only at hclears
    split_ifs at hclears <;> cases hclears
  | unlocksCache => exact ⟨h.table, h.recorded, nofun⟩
  | clears => exact h.cleared rfl rfl
  | _ => exact ⟨h.table, h.recorded, h.accepted⟩

theorem TableInvariant.next (h : TableInvariant s) {default : GwCfg P} {label : ReceiverLabel P}
    (hnext : s.next default label = some s') : TableInvariant s' := by
  by_cases hlabel : label.usesTable = true
  · cases label with
    | receive payload => exact h.receive hnext
    | tryLockCache => exact h.tryLockCache hnext
    | putReport clock => exact h.putReport hnext
    | useTable op => exact h.useTable hnext
    | _ => cases hlabel
  · exact h.moves (next_moves (Bool.eq_false_iff.mpr hlabel) hnext)

end Table

section Store

variable {s s' : Receiver P}

/-- The sessions of the store. The first one is never announced. -/
structure StoreInvariant (s : Receiver P) : Prop where
  ready : s.readyNotified = true →
    s.deinitialized = true ∧ ∃ g, s.session = some g ∧ g.gwCfgReady = true
  callback : ∀ g, s.session = some g → g.cbOnChangeCfg = s.deinitialized
  stored : ∀ wasReady, s.setter = .stored wasReady → ∃ g, s.session = some g ∧ g.gwCfgReady = true

/-- The session is replaced by one that is ready if the old one was. -/
theorem StoreInvariant.update (h : StoreInvariant s) {g g' : GwCfgGlobals P} {setter : Setter P}
    (hsession : s.session = some g) (hready : g.gwCfgReady = true → g'.gwCfgReady = true)
    (hcallback : g'.cbOnChangeCfg = g.cbOnChangeCfg)
    (hsetter : ∀ wasReady, setter = .stored wasReady → g'.gwCfgReady = true) :
    StoreInvariant { s with session := some g', setter := setter } := by
  constructor
  · intro hnotified
    obtain ⟨hdeinit, g₀, hg₀, hg₀ready⟩ := h.ready hnotified
    rw [hsession] at hg₀
    rw [← Option.some.inj hg₀] at hg₀ready
    exact ⟨hdeinit, g', rfl, hready hg₀ready⟩
  · intro g₁ hg₁
    rw [← Option.some.inj hg₁, hcallback]
    exact h.callback g hsession
  · exact fun wasReady hstored => ⟨g', rfl, hsetter wasReady hstored⟩

theorem StoreInvariant.moves (h : StoreInvariant s) {default : GwCfg P}
    (hmoves : Moves default s s') : StoreInvariant s' := by
  cases hmoves with
  | opens hsession =>
    refine ⟨fun hnotified => ?_, fun g hg => ?_, fun wasReady hstored => ?_⟩
    · obtain ⟨-, g, hg, -⟩ := h.ready hnotified
      rw [hsession] at hg
      cases hg
    · rw [← Option.some.inj hg]
      rfl
    · obtain ⟨g, hg, -⟩ := h.stored wasReady hstored
      rw [hsession] at hg
      cases hg
  | closes hfree hfirst =>
    refine ⟨fun hnotified => ?_, fun g hg => absurd hg.symm (Option.some_ne_none g),
      fun wasReady hstored => ?_⟩
    · rw [(h.ready hnotified).1] at hfirst
      cases hfirst
    · rw [hfree] at hstored
      cases hstored
  | setsSilently => exact ⟨h.ready, h.callback, nofun⟩
  | sets => exact ⟨h.ready, h.callback, nofun⟩
  | stores g args hsetter hsession =>
    exact h.update hsession (fun _ => rfl) rfl fun _ _ => rfl
  | finishes => exact ⟨h.ready, h.callback, nofun⟩
  | announces g wasReady hsetter hsession hcallback =>
    obtain ⟨g', hg', hready⟩ := h.stored wasReady hsetter
    refine ⟨fun _ => ⟨?_, g', hg', hready⟩, h.callback, nofun⟩
    exact (h.callback g hsession).symm.trans hcallback
  | updatesUrl g url hfree hsession =>
    refine h.update hsession id rfl fun wasReady hstored => ?_
    rw [hfree] at hstored
    cases hstored
  | _ => exact ⟨h.ready, h.callback, h.stored⟩

end Store

section Modes

variable {s s' : Receiver P}

/-- An activation that is still to be handled is followed by the end of the mode, or the mode has
not ended. -/
structure ModeInvariant (s : Receiver P) : Prop where
  activating : s.main = .activating → s.cfgMode = true
  pending : s.pending .cfgModeActivated = true → s.Active ∨ s.pending .cfgModeDeactivated = true
  taken : s.batch .cfgModeActivated = true ∨ s.handling = .start .cfgModeActivated →
    s.Active ∨ s.pending .cfgModeDeactivated = true ∨ s.batch .cfgModeDeactivated = true

theorem raise_pending (s : Receiver P) (sig sig' : CfgSig) :
    (s.raise sig).pending sig' = true ↔ sig' = sig ∨ s.pending sig' = true := by
  unfold Receiver.raise
  dsimp only
  rw [Function.update_apply]
  split_ifs with h <;> simp [h]

theorem ModeInvariant.raise (h : ModeInvariant s) (sig : CfgSig) (hsig : sig ≠ .cfgModeActivated) :
    ModeInvariant (s.raise sig) := by
  have hkept {sig' : CfgSig} (hpending : s.pending sig' = true) :
      (s.raise sig).pending sig' = true := (raise_pending s sig sig').mpr (.inr hpending)
  refine ⟨h.activating, fun hpending => ?_, fun htaken => ?_⟩
  · rcases (raise_pending _ _ _).mp hpending with hnew | hold
    · exact absurd hnew.symm hsig
    · exact (h.pending hold).imp id hkept
  · exact (h.taken htaken).imp id (Or.imp_left hkept)

/-- A handler that is not at the start of an activation leaves the activation that is to be handled
in the batch. -/
theorem ModeInvariant.kept (h : ModeInvariant s) {handling : Handling}
    (hne : handling ≠ .start .cfgModeActivated)
    (htaken : s.batch .cfgModeActivated = true ∨ handling = .start .cfgModeActivated) :
    s.Active ∨ s.pending .cfgModeDeactivated = true ∨ s.batch .cfgModeDeactivated = true :=
  h.taken (.inl (htaken.resolve_right hne))

theorem ModeInvariant.moves (h : ModeInvariant s) {default : GwCfg P}
    (hmoves : Moves default s s') : ModeInvariant s' := by
  cases hmoves with
  | sets args =>
    exact ModeInvariant.raise (s := { s with setter := .notified args })
      ⟨h.activating, h.pending, h.taken⟩ _ nofun
  | announces =>
    have hraised := ModeInvariant.raise (s := { s with setter := .free })
      ⟨h.activating, h.pending, h.taken⟩ .gwCfgReady nofun
    exact ⟨hraised.activating, hraised.pending, hraised.taken⟩
  | setsMode => exact ⟨fun _ => rfl, fun _ => .inl (.inl rfl), fun _ => .inl (.inl rfl)⟩
  | notifiesActivated hmain =>
    have hactive : s.cfgMode = true := h.activating hmain
    exact ⟨nofun, fun _ => .inl (.inl hactive), fun _ => .inl (.inl hactive)⟩
  | clearsMode => exact ⟨nofun, fun _ => .inl (.inr rfl), fun _ => .inl (.inr rfl)⟩
  | notifiesDeactivated =>
    have hpending := (raise_pending { s with main := .idle } .cfgModeDeactivated
      .cfgModeDeactivated).mpr (.inl rfl)
    exact ⟨nofun, fun _ => .inr hpending, fun _ => .inr (.inl hpending)⟩
  | scans => exact h.raise _ nofun
  | takes =>
    refine ⟨h.activating, nofun, fun htaken => ?_⟩
    exact (h.pending (htaken.resolve_right nofun)).imp id .inr
  | waits => exact ⟨h.activating, h.pending, h.kept nofun⟩
  | picks sig hhandling hsig hfirst =>
    refine ⟨h.activating, h.pending, fun htaken => ?_⟩
    have hbatch : s.batch .cfgModeActivated = true := by
      rcases htaken with hbatch | hstart
      · dsimp only at hbatch
        rw [Function.update_apply] at hbatch
        split_ifs at hbatch
        exact hbatch
      · rw [← Handling.start.inj hstart]
        exact hsig
    -- the end of the mode is not what has been picked, so it is still in the batch
    have hne : CfgSig.cfgModeDeactivated ≠ sig := by
      rintro rfl
      rw [hfirst rfl] at hbatch
      cases hbatch
    refine (h.taken (.inl hbatch)).imp id (Or.imp id fun hdeactivated => ?_)
    exact (Function.update_of_ne hne _ _).trans hdeactivated
  | startsBleScan => exact ⟨h.activating, h.pending, h.kept nofun⟩
  | dropsFilter => exact ⟨h.activating, h.pending, h.kept nofun⟩
  | readsNtp => exact ⟨h.activating, h.pending, h.kept nofun⟩
  | locksCache => exact ⟨h.activating, h.pending, h.kept nofun⟩
  | readsFilter =>
    refine ⟨h.activating, h.pending, h.kept ?_⟩
    split_ifs <;> nofun
  | unlocksCache => exact ⟨h.activating, h.pending, h.kept nofun⟩
  | clears => exact ⟨h.activating, h.pending, h.kept nofun⟩
  | _ => exact ⟨h.activating, h.pending, h.taken⟩

end Modes

section Refresh

variable {s s' : Receiver P}

/-- The time mode that the posting task goes by. It is read before the cache is locked. -/
def Receiver.ntpUse (s : Receiver P) : Bool :=
  match s.handling with
  | .ntpRead flagUseNtp => flagUseNtp
  | _ => s.cache.flagUseNtp

/-- The posting task has still to read the filter. -/
def Handling.awaitsFilter : Handling → Bool
  | .ntpRead _ | .cacheLocked | .restarting => true
  | _ => false

structure Fresh (s : Receiver P) (cfg : GwCfgRuuvi P) : Prop where
  ntp : s.ntpUse = cfg.ntp.ntpUse
  filter : s.handling.awaitsFilter = true ∨ s.cache.HasFilter cfg.scanFilter ∨
    (s.cache.scanFilterMacs = none ∧ s.Active)

/-- From the announcement of the configuration on, the cache is fresh or its refresh is due. An
update that is about to be stored has made the refresh due. -/
structure FreshInvariant (s : Receiver P) : Prop where
  waiting : s.handling = .waiting → ∀ sig, s.batch sig = false
  locked : s.handling = .cacheLocked → s.cache.scanFilterMacs = none
  announced : ∀ args g, s.setter = .notified args → s.session = some g → s.readyNotified = true →
    s.RefreshDue ∨ (g.set args).1.gatewayConfig.ruuviCfg = g.gatewayConfig.ruuviCfg
  fresh : ∀ g, s.session = some g → s.readyNotified = true →
    s.RefreshDue ∨ Fresh s g.gatewayConfig.ruuviCfg

/-- A ready store notifies of every change of the section. -/
theorem set_ruuviCfg {g : GwCfgGlobals P} {args : GivenSections P} (hready : g.gwCfgReady = true)
    (h : .gwCfgChangedRuuvi ∉ changedEvents g args) :
    (g.set args).1.gatewayConfig.ruuviCfg = g.gatewayConfig.ruuviCfg := by
  change (setSection gwCfgRuuviCmp args.ruuvi g.gatewayConfig.ruuviCfg).1 = _
  cases hflag : (setSection gwCfgRuuviCmp args.ruuvi g.gatewayConfig.ruuviCfg).2 with
  | true =>
    obtain ⟨new, -, hevents⟩ := sectionEvents_modified changedRuuviEvents hflag
    refine absurd ?_ h
    unfold changedEvents gwCfgSetRuuviEvents
    rw [hready, hevents]
    simp [changedRuuviEvents]
  | false =>
    cases hruuvi : args.ruuvi with
    | none => rfl
    | some new =>
      rw [hruuvi] at hflag
      unfold setSection at hflag ⊢
      dsimp only at hflag ⊢
      split_ifs at hflag ⊢
      rfl

theorem refreshDue_raise (s : Receiver P) (sig : CfgSig) (hsig : sig.refreshes = true) :
    (s.raise sig).RefreshDue :=
  ⟨sig, hsig, .inl ((raise_pending s sig sig).mpr (.inl rfl))⟩

theorem Receiver.RefreshDue.raise (h : s.RefreshDue) (sig : CfgSig) : (s.raise sig).RefreshDue := by
  obtain ⟨due, hdue, hpending | hrest⟩ := h
  · exact ⟨due, hdue, .inl ((raise_pending s sig due).mpr (.inr hpending))⟩
  · exact ⟨due, hdue, .inr hrest⟩

/-- A refresh stays due while its handler is not begun. -/
theorem Receiver.RefreshDue.kept (h : s.RefreshDue) (hpending : s'.pending = s.pending)
    (hbatch : s'.batch = s.batch)
    (hhandling : ∀ sig, s.handling = .start sig → sig.refreshes = false) : s'.RefreshDue := by
  obtain ⟨due, hdue, hdue'⟩ := h
  refine ⟨due, hdue, ?_⟩
  rcases hdue' with hdue' | hdue' | hdue'
  · exact .inl (hpending ▸ hdue')
  · exact .inr (.inl (hbatch ▸ hdue'))
  · rw [hhandling due hdue'] at hdue
    cases hdue

theorem Receiver.RefreshDue.takes (h : s.RefreshDue) (hhandling : s.handling = .waiting)
    (hempty : ∀ sig, s.batch sig = false) :
    { s with batch := s.pending, pending := fun _ => false, handling := .next }.RefreshDue := by
  obtain ⟨due, hdue, hpending | hbatch | hstart⟩ := h
  · exact ⟨due, hdue, .inr (.inl hpending)⟩
  · rw [hempty due] at hbatch
    cases hbatch
  · rw [hhandling] at hstart
    cases hstart

theorem Receiver.RefreshDue.picks (h : s.RefreshDue) {sig : CfgSig}
    (hhandling : s.handling = .next) :
    { s with
      batch := Function.update s.batch sig false
      handling := .start sig }.RefreshDue := by
  obtain ⟨due, hdue, hpending | hbatch | hstart⟩ := h
  · exact ⟨due, hdue, .inl hpending⟩
  · by_cases hsig : due = sig
    · exact ⟨due, hdue, .inr (.inr (congrArg Handling.start hsig.symm))⟩
    · exact ⟨due, hdue, .inr (.inl ((Function.update_of_ne hsig _ _).trans hbatch))⟩
  · rw [hhandling] at hstart
    cases hstart

/-- A handler that does not change the cache keeps it fresh. -/
theorem Fresh.congr {cfg : GwCfgRuuvi P} (h : Fresh s cfg) (hcache : s'.cache = s.cache)
    (hntp : s'.ntpUse = s.ntpUse) (hawaits : s'.handling.awaitsFilter = s.handling.awaitsFilter)
    (hactive : s.Active → s'.Active) : Fresh s' cfg := by
  refine ⟨hntp.trans h.ntp, ?_⟩
  rw [hawaits, hcache]
  exact h.filter.imp id (Or.imp id (And.imp_right hactive))

theorem ntpUse_of_read (h : s.handling.awaitsFilter = false) : s.ntpUse = s.cache.flagUseNtp := by
  unfold Receiver.ntpUse
  cases hhandling : s.handling with
  | ntpRead flagUseNtp =>
    rw [hhandling] at h
    cases h
  | _ => rfl

/-- So does a step from one state in which no filter is awaited to another. -/
theorem Fresh.read {cfg : GwCfgRuuvi P} (h : Fresh s cfg) (hread : s.handling.awaitsFilter = false)
    (hread' : s'.handling.awaitsFilter = false) (hcache : s'.cache = s.cache)
    (hactive : s.Active → s'.Active) : Fresh s' cfg := by
  refine h.congr hcache ?_ (hread'.trans hread.symm) hactive
  rw [ntpUse_of_read hread, ntpUse_of_read hread', hcache]

/-- The store and the pending signals are as before, and what is due is still due. -/
theorem FreshInvariant.step (h : FreshInvariant s) (hsetter : s'.setter = s.setter)
    (hsession : s'.session = s.session) (hready : s'.readyNotified = s.readyNotified)
    (hdue : s.RefreshDue → s'.RefreshDue)
    (hwaiting : s'.handling = .waiting → ∀ sig, s'.batch sig = false)
    (hlocked : s'.handling = .cacheLocked → s'.cache.scanFilterMacs = none)
    (hfresh : ∀ g, s.session = some g → Fresh s g.gatewayConfig.ruuviCfg →
      s'.RefreshDue ∨ Fresh s' g.gatewayConfig.ruuviCfg) : FreshInvariant s' := by
  refine ⟨hwaiting, hlocked, ?_, ?_⟩
  · intro args g
    rw [hsetter, hsession, hready]
    exact fun hargs hg hnotified => (h.announced args g hargs hg hnotified).imp hdue id
  · intro g
    rw [hsession, hready]
    intro hg hnotified
    rcases h.fresh g hg hnotified with hdue' | hfresh'
    · exact .inl (hdue hdue')
    · exact hfresh g hg hfresh'

/-- Another signal is sent, and the mode does not end silently. -/
theorem FreshInvariant.raise (h : FreshInvariant s) (sig : CfgSig) : FreshInvariant (s.raise sig) :=
  h.step rfl rfl rfl (·.raise sig) h.waiting h.locked fun _ _ hfresh => .inr
    (hfresh.congr rfl rfl rfl id)

/-- The mode is switched. -/
theorem FreshInvariant.mode (h : FreshInvariant s) (cfgMode : Bool) (main : MainStage)
    (hactive : s.Active → { s with cfgMode := cfgMode, main := main }.Active) :
    FreshInvariant { s with cfgMode := cfgMode, main := main } :=
  h.step rfl rfl rfl id h.waiting h.locked fun _ _ hfresh => .inr (hfresh.congr rfl rfl rfl hactive)

/-- The handler goes on without a look at the configuration or the cache. -/
theorem FreshInvariant.advance (h : FreshInvariant s) {handling : Handling}
    (hstart : ∀ sig, s.handling = .start sig → sig.refreshes = false)
    (hread : s.handling.awaitsFilter = false) (hread' : handling.awaitsFilter = false)
    (hwaiting : handling = .waiting → ∀ sig, s.batch sig = false) :
    FreshInvariant { s with handling := handling } := by
  refine h.step rfl rfl rfl (·.kept rfl rfl hstart) hwaiting (fun hlocked => ?_)
    fun g hg hfresh => .inr (hfresh.read hread hread' rfl id)
  rw [show handling = .cacheLocked from hlocked] at hread'
  cases hread'

theorem FreshInvariant.moves (h : FreshInvariant s) (hstore : StoreInvariant s)
    (hmode : ModeInvariant s) {default : GwCfg P} (hmoves : Moves default s s') :
    FreshInvariant s' := by
  cases hmoves with
  | opens hsession =>
    have hnone (hnotified : s.readyNotified = true) : False := by
      obtain ⟨-, g, hg, -⟩ := hstore.ready hnotified
      rw [hsession] at hg
      cases hg
    exact ⟨h.waiting, h.locked, fun _ _ _ _ hnotified => (hnone hnotified).elim,
      fun _ _ hnotified => (hnone hnotified).elim⟩
  | closes =>
    exact ⟨h.waiting, h.locked, fun _ g _ hg => absurd hg.symm (Option.some_ne_none g),
      fun g hg => absurd hg.symm (Option.some_ne_none g)⟩
  | setsSilently g args hfree hsession hsame =>
    refine ⟨h.waiting, h.locked, fun args' g' hargs hg hnotified => .inr ?_,
      fun g hg hnotified => (h.fresh g hg hnotified).imp id (·.congr rfl rfl rfl id)⟩
    obtain ⟨-, g'', hg'', hready⟩ := hstore.ready hnotified
    have hgeq : g = g' := Option.some.inj (hsession.symm.trans hg)
    have hgeq' : g = g'' := Option.some.inj (hsession.symm.trans hg'')
    rw [← Setter.notified.inj hargs, ← hgeq]
    rw [← hgeq'] at hready
    exact set_ruuviCfg hready hsame
  | sets args =>
    have hdue := refreshDue_raise { s with setter := .notified args } .gwCfgChangedRuuvi rfl
    exact ⟨h.waiting, h.locked, fun _ _ _ _ _ => .inl hdue, fun _ _ _ => .inl hdue⟩
  | stores g args hsetter hsession =>
    refine ⟨h.waiting, h.locked, fun _ _ hargs => (nomatch hargs), fun g' hg' hnotified => ?_⟩
    rw [← Option.some.inj hg']
    rcases h.announced args g hsetter hsession hnotified with hdue | hsame
    · exact .inl hdue
    · rw [hsame]
      exact (h.fresh g hsession hnotified).imp id (·.congr rfl rfl rfl id)
  | finishes =>
    exact ⟨h.waiting, h.locked, fun _ _ hargs => (nomatch hargs), fun g hg hnotified =>
      (h.fresh g hg hnotified).imp id (·.congr rfl rfl rfl id)⟩
  | announces =>
    have hdue := refreshDue_raise { s with setter := .free } .gwCfgReady rfl
    exact ⟨h.waiting, h.locked, fun _ _ hargs => (nomatch hargs), fun _ _ _ => .inl hdue⟩
  | updatesUrl g url hfree hsession =>
    refine ⟨h.waiting, h.locked, fun args g' hargs => ?_, fun g' hg' hnotified => ?_⟩
    · rw [hfree] at hargs
      cases hargs
    · rw [← Option.some.inj hg']
      exact (h.fresh g hsession hnotified).imp id fun hfresh => ⟨hfresh.ntp, hfresh.filter⟩
  | setsMode => exact h.mode true .activating fun _ => .inl rfl
  | notifiesActivated hmain =>
    exact (h.mode s.cfgMode .idle fun _ => .inl (hmode.activating hmain)).raise _
  | clearsMode => exact h.mode false .deactivating fun _ => .inr rfl
  | notifiesDeactivated =>
    have hdue := refreshDue_raise { s with main := .idle } .cfgModeDeactivated rfl
    exact h.step rfl rfl rfl (fun _ => hdue) h.waiting h.locked fun _ _ _ => .inl hdue
  | scans => exact h.raise _
  | takes hhandling =>
    refine h.step rfl rfl rfl (·.takes hhandling (h.waiting hhandling)) nofun nofun
      fun g hg hfresh => .inr (hfresh.read ?_ rfl rfl id)
    · rw [hhandling]
      rfl
  | waits hhandling hempty =>
    refine h.advance ?_ ?_ rfl fun _ => hempty
    · rw [hhandling]
      nofun
    · rw [hhandling]
      rfl
  | picks sig hhandling =>
    refine h.step rfl rfl rfl (·.picks hhandling) nofun nofun
      fun g hg hfresh => .inr (hfresh.read ?_ rfl rfl id)
    · rw [hhandling]
      rfl
  | startsBleScan hhandling =>
    refine h.advance ?_ ?_ rfl nofun
    · intro sig hsig
      rw [hhandling] at hsig
      exact Handling.start.inj hsig ▸ rfl
    · rw [hhandling]
      rfl
  | dropsFilter hhandling =>
    refine h.step rfl rfl rfl (·.kept rfl rfl ?_) nofun nofun fun g hg hfresh => ?_
    · intro sig hsig
      rw [hhandling] at hsig
      exact Handling.start.inj hsig ▸ rfl
    · have hntp : s.cache.flagUseNtp = g.gatewayConfig.ruuviCfg.ntp.ntpUse := by
        rw [← hfresh.ntp, ntpUse_of_read (by rw [hhandling]; rfl)]
      -- the filter may go as long as its return is still to come
      rcases hmode.taken (.inr hhandling) with hactive | hpending | hbatch
      · exact .inr ⟨hntp, .inr (.inr ⟨rfl, hactive⟩)⟩
      · exact .inl ⟨.cfgModeDeactivated, rfl, .inl hpending⟩
      · exact .inl ⟨.cfgModeDeactivated, rfl, .inr (.inl hbatch)⟩
  | readsNtp g sig hhandling hrefreshes hfree hsession =>
    refine ⟨nofun, nofun, fun args g' hargs => ?_, fun g' hg' _ => .inr ⟨?_, .inl rfl⟩⟩
    · rw [hfree] at hargs
      cases hargs
    · rw [← Option.some.inj (hsession.symm.trans hg')]
      rfl
  | locksCache flagUseNtp hhandling =>
    refine h.step rfl rfl rfl (·.kept rfl rfl ?_) nofun (fun _ => rfl)
      fun g hg hfresh => .inr ⟨?_, .inl rfl⟩
    · rw [hhandling]
      nofun
    · rw [← hfresh.ntp]
      unfold Receiver.ntpUse
      rw [hhandling]
  | readsFilter g allocated hhandling hsession =>
    have hcache := h.locked hhandling
    refine h.step rfl rfl rfl (·.kept rfl rfl ?_) ?_ ?_ fun g' hg' hfresh => .inr ⟨?_, ?_⟩
    · rw [hhandling]
      nofun
    · dsimp only
      split_ifs <;> nofun
    · dsimp only
      split_ifs <;> nofun
    · rw [← hfresh.ntp]
      unfold Receiver.ntpUse
      rw [hhandling]
      dsimp only
      split_ifs <;> exact handleScanFilter_ntp _ _ _
    · rw [← Option.some.inj (hsession.symm.trans hg')]
      dsimp only
      by_cases hallocated : (Receiver.handleScanFilter s.cache
          g.gatewayConfig.ruuviCfg.scanFilter allocated).2 = true
      · exact .inr (.inl (handleScanFilter_hasFilter hcache hallocated))
      · rw [if_neg hallocated]
        exact .inl rfl
  | unlocksCache hhandling =>
    refine h.advance ?_ ?_ rfl nofun
    · rw [hhandling]
      nofun
    · rw [hhandling]
      rfl
  | clears hhandling =>
    refine h.step rfl rfl rfl (·.kept rfl rfl ?_) nofun nofun
      fun g hg hfresh => .inr (hfresh.read ?_ rfl rfl id)
    · rw [hhandling]
      nofun
    · rw [hhandling]
      rfl

end Refresh

section Runs

variable {s s' : Receiver P} {default : GwCfg P}

/-- All of the invariant. -/
structure ReceiverInvariant (s : Receiver P) : Prop where
  table : TableInvariant s
  store : StoreInvariant s
  mode : ModeInvariant s
  fresh : FreshInvariant s

theorem receiverInvariant_initial : ReceiverInvariant (Receiver.initial : Receiver P) where
  table := ⟨invariant_init, fun _ he => absurd rfl he, fun _ _ ho => nomatch ho⟩
  store := ⟨nofun, fun g hg => absurd hg.symm (Option.some_ne_none g), nofun⟩
  mode := ⟨nofun, nofun, fun htaken => by rcases htaken with h | h <;> cases h⟩
  fresh := ⟨fun _ _ => rfl, nofun, fun _ _ hargs => (nomatch hargs),
    fun g hg => absurd hg.symm (Option.some_ne_none g)⟩

/-- Whoever uses the table does not change anything else. -/
theorem next_usesTable {label : ReceiverLabel P} (hlabel : label.usesTable = true)
    (hnext : s.next default label = some s') : ∃ reception table origins,
      s' = { s with reception := reception, table := table, origins := origins } := by
  cases label with
  | receive payload =>
    dsimp only [Receiver.next, Receiver.receive] at hnext
    split at hnext
    · rw [← Option.some.inj hnext]
      split_ifs
      · exact ⟨_, _, _, rfl⟩
      · exact ⟨_, _, _, rfl⟩
    · cases hnext
  | tryLockCache =>
    dsimp only [Receiver.next, Receiver.tryLockCache] at hnext
    split at hnext
    · exact ⟨_, _, _, (Option.some.inj hnext).symm⟩
    · cases hnext
  | putReport clock =>
    dsimp only [Receiver.next, Receiver.putReport] at hnext
    split at hnext
    · exact ⟨_, _, _, (Option.some.inj hnext).symm⟩
    · split_ifs at hnext <;> exact ⟨_, _, _, (Option.some.inj hnext).symm⟩
    · cases hnext
  | useTable op =>
    cases op with
    | put adv hadv => cases hnext
    | _ => exact ⟨_, _, _, (Option.some.inj hnext).symm⟩
  | _ => cases hlabel

theorem ReceiverInvariant.next (h : ReceiverInvariant s) {label : ReceiverLabel P}
    (hnext : s.next default label = some s') : ReceiverInvariant s' := by
  refine ⟨h.table.next hnext, ?_, ?_, ?_⟩
  all_goals
    by_cases hlabel : label.usesTable = true
    · obtain ⟨reception, table, origins, rfl⟩ := next_usesTable hlabel hnext
      first
      | exact ⟨h.store.ready, h.store.callback, h.store.stored⟩
      | exact ⟨h.mode.activating, h.mode.pending, h.mode.taken⟩
      | exact h.fresh.step rfl rfl rfl id h.fresh.waiting h.fresh.locked
          fun _ _ hfresh => .inr (hfresh.congr rfl rfl rfl id)
    · have hmoves := next_moves (Bool.eq_false_iff.mpr hlabel) hnext
      first
      | exact h.store.moves hmoves
      | exact h.mode.moves hmoves
      | exact h.fresh.moves h.store h.mode hmoves

theorem receiverInvariant_run {history : List (ReceiverLabel P × Unit)}
    (hr : (receiving default).FreeRun history s) : ReceiverInvariant s := by
  refine hr.invariant receiverInvariant_initial fun s label s' o hs _ hstep => ?_
  obtain ⟨s'', hnext, hpair⟩ := Option.map_eq_some_iff.mp hstep
  rw [← (Prod.mk.inj hpair).1]
  exact hs.next hnext

/-- Without a signal nothing is due. -/
theorem Receiver.NoSignalPending.fresh (hquiet : s.NoSignalPending) (h : FreshInvariant s)
    (hnotified : s.readyNotified = true) {g : GwCfgGlobals P} (hsession : s.session = some g) :
    Fresh s g.gatewayConfig.ruuviCfg := by
  obtain ⟨hhandling, hpending⟩ := hquiet
  refine (h.fresh g hsession hnotified).resolve_left ?_
  rintro ⟨sig, -, hsig | hsig | hsig⟩
  · rw [hpending sig] at hsig
    cases hsig
  · rw [h.waiting hhandling sig] at hsig
    cases hsig
  · rw [hhandling] at hsig
    cases hsig

/-- Once the configuration has been announced, the reports in the table belong to the stored
configuration whenever no signal is pending, where any address may be there until the end of the
configuration mode has been notified. -/
theorem reports_inForce {history : List (ReceiverLabel P × Unit)}
    (hr : (receiving default).FreeRun history s) (hnotified : s.readyNotified = true)
    (hquiet : s.NoSignalPending) {g : GwCfgGlobals P} (hsession : s.session = some g) :
    s.Belongs s.Active g.gatewayConfig.ruuviCfg := by
  have h := receiverInvariant_run hr
  have hfresh := hquiet.fresh h.fresh hnotified hsession
  have haccepted := h.table.accepted (by rw [hquiet.1]; rfl)
  have hntp : s.cache.flagUseNtp = g.gatewayConfig.ruuviCfg.ntp.ntpUse := by
    rw [← hfresh.ntp, ntpUse_of_read (by rw [hquiet.1]; rfl)]
  refine ⟨fun e he => ?_, h.table.recorded, fun o ho => ?_⟩
  · obtain ⟨o, ho, hmac, -⟩ := h.table.recorded e he
    rcases hfresh.filter with hawaits | hfilter | ⟨-, hactive⟩
    · rw [hquiet.1] at hawaits
      cases hawaits
    · exact .inr (hmac ▸ hfilter.passes (haccepted o ho).1)
    · exact .inl hactive
  · rw [← hntp]
    exact (haccepted o ho).2

end Runs

section Samples

instance (filter : GwCfgScanFilter) (mac : MacAddressBin) : Decidable (PassesFilter filter mac) :=
  inferInstanceAs (Decidable (_ ∨ (_ ↔ _)))

/-- A filter that lets only one sensor pass. -/
def sampleOneSensor : GwCfgScanFilter where
  scanFilterAllowListed := true
  scanFilterLength := 1
  scanFilterList := List.replicate gwCfgMaxNumSensors (sampleReport 1).tagMac
  size := List.length_replicate
  bounded := by decide

def sampleOneSensorCfg : GwCfg samplePlatform :=
  { sampleDefault with ruuviCfg.scanFilter := sampleOneSensor }

theorem sampleReport_hasData (n : UInt8) : (sampleReport n).dataLen ≠ 0 := by simp [sampleReport]

def sampleReceived (n : UInt8) : ParsedReport := ⟨sampleReport n, sampleReport_hasData n⟩

/-- The store is opened twice, and the second session gets a configuration. -/
def sampleStart : List (ReceiverLabel samplePlatform) :=
  [.gwCfgInit, .gwCfgDeinit, .gwCfgInit, .setNotify (.ofUpdate (some sampleOneSensorCfg)),
   .setStore]

/-- The posting task handles the signal that refreshes the cache. -/
def sampleRefresh : List (ReceiverLabel samplePlatform) :=
  .takeSignals :: List.replicate 7 (.advPost true)

def samplePutAt (n : UInt8) (clock : Clock) : List (ReceiverLabel samplePlatform) :=
  [.receive (some (sampleReceived n)), .tryLockCache, .putReport clock]

/-- The state is quiet after its start, and has a report of the given sensor. -/
def Receiver.quietWith (s : Receiver samplePlatform) (n : UInt8) : Bool :=
  s.handling = .waiting && CfgSig.ascending.all (fun sig => !s.pending sig) &&
    (List.finRange maxAdvsTable).any fun e =>
      (s.table.advReport e).dataLen ≠ 0 && s.table.macOf e = (sampleReport n).tagMac

/-- A report comes in after the start, and is accepted. -/
def sampleAccepted : List (ReceiverLabel samplePlatform) :=
  sampleStart ++ [.setFinish] ++ sampleRefresh ++ samplePutAt 1 ⟨true, 1800000000, 3⟩

/-- A report comes in while the configuration mode is active, and the mode ends. -/
def sampleModeEnds : List (ReceiverLabel samplePlatform) :=
  sampleStart ++ [.setFinish] ++ sampleRefresh ++ [.setCfgMode, .notifyActivated, .takeSignals] ++
    List.replicate 4 (.advPost true) ++ samplePutAt 2 ⟨true, 1800000000, 3⟩ ++ [.clearCfgMode]

/-- A report comes in before the configuration is announced. -/
def sampleTooEarly : List (ReceiverLabel samplePlatform) :=
  sampleStart ++ samplePutAt 1 ⟨false, 0, 3⟩

theorem noSignalPending_of_quiet {s : Receiver samplePlatform} {n : UInt8}
    (h : s.quietWith n = true) : s.NoSignalPending := by
  unfold Receiver.quietWith at h
  simp only [Bool.and_eq_true, decide_eq_true_eq, List.all_eq_true] at h
  refine ⟨h.1.1, fun sig => ?_⟩
  have hmem : sig ∈ CfgSig.ascending := by cases sig <;> decide
  simpa using h.1.2 sig hmem

theorem reports_inForce_accepted : ∃ history s g,
    (receiving sampleDefault).FreeRun history s ∧ s.quietWith 1 = true ∧ s.session = some g ∧
      s.Belongs s.Active g.gatewayConfig.ruuviCfg := by
  obtain ⟨history, s, hr, hs⟩ := System.exists_run_of_exec (S := receiving sampleDefault)
    (G := fun _ _ => True) sampleAccepted
    (P := fun s => s.quietWith 1 && s.readyNotified && s.session.isSome) (by decide +kernel)
  rw [Bool.and_eq_true, Bool.and_eq_true] at hs
  obtain ⟨g, hg⟩ := Option.isSome_iff_exists.mp hs.2
  exact ⟨history, s, g, hr, hs.1.1, hg,
    reports_inForce hr hs.1.2 (noSignalPending_of_quiet hs.1.1) hg⟩

/-- A report that the stored filter refuses is in the table after the mode has ended, and one that
has no valid time is there before the configuration has been announced. -/
theorem reports_notInForce :
    (∃ history s g, (receiving sampleDefault).FreeRun history s ∧ s.readyNotified = true ∧
      s.NoSignalPending ∧ s.session = some g ∧
      ¬s.Belongs (s.cfgMode = true) g.gatewayConfig.ruuviCfg) ∧
    (∃ history s g, (receiving sampleDefault).FreeRun history s ∧ s.main = .idle ∧
      s.NoSignalPending ∧ s.session = some g ∧
      ¬s.Belongs (s.cfgMode = true) g.gatewayConfig.ruuviCfg) := by
  constructor
  · obtain ⟨history, s, hr, hs⟩ := System.exists_run_of_exec (S := receiving sampleDefault)
      (G := fun _ _ => True) sampleModeEnds
      (P := fun s => s.quietWith 2 && s.readyNotified && !s.cfgMode && s.session.any fun g =>
        (List.finRange maxAdvsTable).any fun e => (s.table.advReport e).dataLen ≠ 0 &&
          !decide (PassesFilter g.gatewayConfig.ruuviCfg.scanFilter (s.table.macOf e)))
      (by decide +kernel)
    simp only [Bool.and_eq_true] at hs
    obtain ⟨⟨⟨hquiet, hnotified⟩, hmode⟩, hany⟩ := hs
    obtain ⟨g, hg, hstray⟩ := (Option.any_eq_true _ _).mp hany
    obtain ⟨e, -, he⟩ := List.any_eq_true.mp hstray
    rw [Bool.and_eq_true, decide_eq_true_eq, Bool.not_eq_true', decide_eq_false_iff_not] at he
    refine ⟨history, s, g, hr, hnotified, noSignalPending_of_quiet hquiet, hg, fun hbelongs => ?_⟩
    rcases hbelongs.passes e he.1 with hactive | hpasses
    · rw [hactive] at hmode
      cases hmode
    · exact he.2 hpasses
  · obtain ⟨history, s, hr, hs⟩ := System.exists_run_of_exec (S := receiving sampleDefault)
      (G := fun _ _ => True) sampleTooEarly
      (P := fun s => s.quietWith 1 && decide (s.main = .idle) && s.session.any fun g =>
        s.origins.any fun o => o.timestamp.source ≠
          if g.gatewayConfig.ruuviCfg.ntp.ntpUse then .wallClock else .receptionCounter)
      (by decide +kernel)
    simp only [Bool.and_eq_true] at hs
    obtain ⟨⟨hquiet, hmain⟩, hany⟩ := hs
    obtain ⟨g, hg, hmixed⟩ := (Option.any_eq_true _ _).mp hany
    obtain ⟨o, ho, hsource⟩ := List.any_eq_true.mp hmixed
    refine ⟨history, s, g, hr, of_decide_eq_true hmain, noSignalPending_of_quiet hquiet, hg, ?_⟩
    exact fun hbelongs => of_decide_eq_true hsource (hbelongs.source o ho)

end Samples

end RuuviGateway.AdvPost
