import Mathlib.Data.List.TakeWhile
import RuuviGateway.AdvTable.Representation

/-!
# Delivery through the retransmission lists

What has been stored and what is still to be delivered is read off the history of
operations and results alone, newest event first. The table is then shown to agree with
this account after every run.
-/

namespace RuuviGateway.AdvTable

open General General.IntrusiveList

variable {t : Table} {history : List (Op × Outcome)} {mac : MacAddressBin}

/-- One operation together with what it returned. -/
abbrev Event := Op × Outcome

/-! ## The account of a history -/

/-- A put accepted a report of `mac`. -/
def Event.Accepts (mac : MacAddressBin) (event : Event) : Prop :=
  match event.1 with
  | .put adv _ => event.2.result = .updated true ∧ adv.tagMac = mac
  | _ => False

/-- A read of list `k` returned a report of `mac`. -/
def Event.Releases (k : ListNo) (mac : MacAddressBin) (event : Event) : Prop :=
  match event.1, event.2.result with
  | .readAndClear j, .reports reports => j = k ∧ mac ∈ reports.map AdvReport.tagMac
  | .readList3Head, .head (some report) => k = .list3 ∧ report.tagMac = mac
  | _, _ => False

/-- The cell of `mac` was recycled for another MAC, or the table was cleared. -/
def Event.Loses (mac : MacAddressBin) (event : Event) : Prop :=
  event.2.recycled = some mac ∨ match event.1 with
    | .clear => True
    | _ => False

/-- A report of `mac` was accepted since list `k` last released or lost that MAC. -/
def Awaiting (k : ListNo) (mac : MacAddressBin) : List Event → Prop
  | [] => False
  | event :: earlier =>
      event.Accepts mac ∨
        (¬event.Releases k mac ∧ ¬event.Loses mac ∧ Awaiting k mac earlier)

/-- The last report of `mac` that a put accepted. -/
def lastAccepted (mac : MacAddressBin) : List Event → Option AdvReport
  | [] => none
  | (.put adv _, o) :: earlier =>
      if o.result = .updated true ∧ adv.tagMac = mac then some adv else lastAccepted mac earlier
  | _ :: earlier => lastAccepted mac earlier

/-- The report of `mac` with the number of its samples: accepted reports replace it,
repeated ones count, and a statistics read starts a new count. -/
def storedBy (mac : MacAddressBin) : List Event → Option AdvReport
  | [] => none
  | (.put adv _, o) :: earlier =>
      if adv.tagMac = mac then
        if o.result = .updated true then some (adv.replacing (storedBy mac earlier))
        else (storedBy mac earlier).map AdvReport.countSample
      else if o.recycled = some mac then none
      else storedBy mac earlier
  | (.statisticsRead, o) :: earlier =>
      match o.result with
      | .reports reports =>
          if mac ∈ reports.map AdvReport.tagMac then
            (storedBy mac earlier).map fun prev => { prev with samplesCounter := 0 }
          else storedBy mac earlier
      | _ => storedBy mac earlier
  | (.clear, _) :: earlier => (storedBy mac earlier).map AdvReport.freed
  | _ :: earlier => storedBy mac earlier

/-- A stored report with data is the last accepted one, up to its number of samples. -/
theorem storedBy_lastAccepted {r : AdvReport} (hr : storedBy mac history = some r)
    (hlive : r.dataLen ≠ 0) :
    ∃ adv, lastAccepted mac history = some adv ∧
      r = { adv with samplesCounter := r.samplesCounter } := by
  induction history generalizing r with
  | nil => cases hr
  | cons event earlier ih =>
    have hcounted : ∀ (f : AdvReport → UInt32),
        (storedBy mac earlier).map (fun prev => { prev with samplesCounter := f prev }) = some r →
        ∃ adv, lastAccepted mac earlier = some adv ∧
          r = { adv with samplesCounter := r.samplesCounter } := by
      intro f hmap
      obtain ⟨prev, hprev, rfl⟩ := Option.map_eq_some_iff.mp hmap
      obtain ⟨adv, hadv, hsame⟩ := ih hprev hlive
      refine ⟨adv, hadv, ?_⟩
      rw [hsame]
    obtain ⟨op, o⟩ := event
    cases op with
    | put adv hadv =>
      simp only [storedBy, lastAccepted] at hr ⊢
      by_cases hmac : adv.tagMac = mac
      · rw [if_pos hmac] at hr
        by_cases hres : o.result = .updated true
        · rw [if_pos hres, Option.some.injEq] at hr
          rw [if_pos ⟨hres, hmac⟩, ← hr]
          refine ⟨adv, rfl, ?_⟩
          cases storedBy mac earlier <;> rfl
        · rw [if_neg hres] at hr
          rw [if_neg fun h => hres h.1]
          exact hcounted (fun prev => prev.samplesCounter + 1) hr
      · rw [if_neg hmac] at hr
        rw [if_neg fun h => hmac h.2]
        split_ifs at hr
        exact ih hr hlive
    | statisticsRead =>
      simp only [storedBy, lastAccepted] at hr ⊢
      split at hr
      · split_ifs at hr
        · exact hcounted (fun _ => 0) hr
        · exact ih hr hlive
      · exact ih hr hlive
    | clear =>
      obtain ⟨prev, -, rfl⟩ := Option.map_eq_some_iff.mp hr
      exact absurd rfl hlive
    | readAndClear k => exact ih hr hlive
    | readList3Head => exact ih hr hlive
    | historyRead q => exact ih hr hlive

/-! ## The table agrees with the account -/

/-- The stored reports are those of the cells in the hash table, and a MAC awaits delivery
through a list when the cell of that MAC is on it. -/
structure Accounts (t : Table) (history : List Event) : Prop where
  stored : ∀ e, t.isInHashTable e → storedBy (t.macOf e) history = some (t.advReport e)
  absent : ∀ mac, (∀ e, t.isInHashTable e → t.macOf e ≠ mac) → storedBy mac history = none
  awaiting : ∀ k mac, Awaiting k mac history ↔
    ∃ e, t.isInRetransmissionList k e = true ∧ t.macOf e = mac

theorem accounts_init : Accounts advTableInit [] where
  stored e he := by simp [advTableInit] at he
  absent _ _ := rfl
  awaiting k mac := by simp [Awaiting, advTableInit]

theorem Invariant.listed_hashed (h : Invariant t) {k : ListNo} {e : Elem}
    (he : t.isInRetransmissionList k e = true) : t.isInHashTable e := by
  refine h.liveHashed e fun hfree => ?_
  rw [h.freeUnlisted e hfree k] at he
  cases he

theorem Accounts.search (h : Invariant t) (ha : Accounts t history) (mac : MacAddressBin) :
    storedBy mac history = (advHashTableSearch t mac).map t.advReport := by
  cases hs : advHashTableSearch t mac with
  | none => exact ha.absent mac ((h.search_eq_none_iff mac).mp hs)
  | some e =>
    obtain ⟨hin, rfl⟩ := (h.search_eq_some_iff mac e).mp hs
    exact ha.stored e hin

/-- A put recycles the MAC that its target cell has held so far, unless it is its own. -/
theorem Invariant.recycledBy_iff (h : Invariant t) (adv : AdvReport) (mac : MacAddressBin) :
    recycledBy t adv = some mac ↔ mac ≠ adv.tagMac ∧
      t.isInHashTable (targetElem t adv) ∧ t.macOf (targetElem t adv) = mac := by
  unfold recycledBy targetElem
  cases hs : advHashTableSearch t adv.tagMac with
  | none =>
    have hnone := (h.search_eq_none_iff _).mp hs
    by_cases hin : t.isInHashTable t.lastElem
    · simp only [hin, if_true, Option.some.injEq, Option.getD_none, true_and]
      refine ⟨fun hmac => ⟨?_, hmac⟩, fun hmac => hmac.2⟩
      rw [← hmac]
      exact hnone _ hin
    · simp [hin]
  | some e =>
    obtain ⟨hin, hmac⟩ := (h.search_eq_some_iff _ _).mp hs
    simp only [Option.getD_some, reduceCtorEq, false_iff, not_and]
    intro hne _ hmac'
    exact hne (hmac'.symm.trans hmac)

theorem Accounts.accept (h : Invariant t) (ha : Accounts t history) {adv : AdvReport}
    {hadv : adv.dataLen ≠ 0} {t' : Table}
    (hst : Stored t t' (targetElem t adv) (storedReport t adv)) :
    Accounts (advTableEnqueue t' (targetElem t adv))
      ((.put adv hadv, ⟨.updated true, recycledBy t adv, none⟩) :: history) := by
  have hrecycled := h.recycledBy_iff adv
  have hold := ha.search h adv.tagMac
  set e := targetElem t adv with he
  have hreport : ∀ x, t'.advReport x = if x = e then storedReport t adv else t.advReport x := by
    intro x
    rw [hst.advReport, Function.update_apply]
  have hhash : ∀ x, t'.isInHashTable x = if x = e then true else t.isInHashTable x := by
    intro x
    rw [hst.isInHashTable, Function.update_apply]
  -- a hashed cell other than the target keeps its MAC, and that MAC is not the recycled one
  have hkept : ∀ x, x ≠ e → t.isInHashTable x → adv.tagMac ≠ t.macOf x ∧
      recycledBy t adv ≠ some (t.macOf x) := by
    intro x hx hin
    refine ⟨fun hmac => hst.fresh x hx hin (by simp [hmac]), fun hrec => ?_⟩
    obtain ⟨-, hein, hemac⟩ := (hrecycled _).mp hrec
    exact hx (h.macInjective x e hin hein hemac.symm)
  rw [advTableEnqueue_eq]
  constructor
  · intro x hx
    simp only [Table.macOf, hreport, hhash] at hx ⊢
    by_cases hxe : x = e
    · simp only [hxe, if_true, storedReport_tagMac, storedBy, hold]
      rfl
    · simp only [hxe, if_false] at hx ⊢
      obtain ⟨hmac, hrec⟩ := hkept x hxe hx
      simp only [storedBy, hmac, hrec, if_false]
      exact ha.stored x hx
  · intro mac hmac
    simp only [Table.macOf, hreport, hhash] at hmac
    have hown : adv.tagMac ≠ mac := by
      simpa using hmac e
    simp only [storedBy, hown, if_false]
    split_ifs with hrec
    · rfl
    · refine ha.absent mac fun x hx hxmac => ?_
      by_cases hxe : x = e
      · subst hxe
        exact hrec ((hrecycled mac).mpr ⟨hown.symm, hx, hxmac⟩)
      · exact hmac x (by simpa [hxe] using hx) (by simpa [hxe] using hxmac)
  · intro k mac
    have hcases : (∃ x, Function.update (t'.isInRetransmissionList k) e true x = true ∧
        (t'.advReport x).tagMac = mac) ↔ adv.tagMac = mac ∨
        ∃ x, x ≠ e ∧ t.isInRetransmissionList k x = true ∧ t.macOf x = mac := by
      constructor
      · rintro ⟨x, hx, hxmac⟩
        rw [Function.update_apply, hst.flags] at hx
        rw [hreport] at hxmac
        by_cases hxe : x = e
        · simp only [hxe, if_true, storedReport_tagMac] at hxmac
          exact .inl hxmac
        · simp only [hxe, if_false] at hx hxmac
          exact .inr ⟨x, hxe, hx, hxmac⟩
      · rintro (hmac | ⟨x, hxe, hx, hxmac⟩)
        · exact ⟨e, by simp, by simp [hreport, hmac]⟩
        · exact ⟨x, by simpa [hxe, hst.flags] using hx, by simpa [hreport, hxe] using hxmac⟩
    refine Iff.trans ?_ hcases.symm
    simp only [Awaiting, Event.Accepts, Event.Releases, Event.Loses, or_false, not_false_eq_true,
      true_and, ha.awaiting k mac]
    by_cases hown : adv.tagMac = mac
    · simp [hown]
    · simp only [hown, false_or]
      constructor
      · rintro ⟨hlost, x, hx, hxmac⟩
        refine ⟨x, fun hxe => hlost ?_, hx, hxmac⟩
        subst hxe
        exact (hrecycled mac).mpr ⟨Ne.symm hown, h.listed_hashed hx, hxmac⟩
      · rintro ⟨x, hxe, hx, hxmac⟩
        refine ⟨fun hlost => ?_, x, hx, hxmac⟩
        rw [← hxmac] at hlost
        exact (hkept x hxe (h.listed_hashed hx)).2 hlost

theorem Accounts.countSample (h : Invariant t) (ha : Accounts t history) {adv : AdvReport}
    {hadv : adv.dataLen ≠ 0} {e : Elem} (hs : advHashTableSearch t adv.tagMac = some e) :
    Accounts (t.setAdvReport e (t.advReport e).countSample)
      ((.put adv hadv, ⟨.updated false, recycledBy t adv, none⟩) :: history) := by
  obtain ⟨hin, hmac⟩ := (h.search_eq_some_iff _ _).mp hs
  have hrec : recycledBy t adv = none := by simp [recycledBy, hs]
  have hmacs : ∀ x, (t.setAdvReport e (t.advReport e).countSample).macOf x = t.macOf x := by
    intro x
    rcases eq_or_ne x e with rfl | hx
    · simp [Table.macOf, Table.setAdvReport, AdvReport.countSample]
    · simp [Table.macOf, Table.setAdvReport, hx]
  constructor
  · intro x hx
    rw [hmacs]
    rcases eq_or_ne x e with rfl | hxe
    · have hprev := ha.stored x hin
      rw [hmac] at hprev ⊢
      simp [storedBy, hprev, Table.setAdvReport]
    · have hne : adv.tagMac ≠ t.macOf x := fun hxmac =>
        hxe (h.macInjective x e hx hin (hxmac.symm.trans hmac.symm))
      simp only [storedBy, hne, hrec, if_false, reduceCtorEq]
      rw [ha.stored x hx]
      simp [Table.setAdvReport, hxe]
  · intro mac hno
    have habsent : ∀ x, t.isInHashTable x → t.macOf x ≠ mac := fun x hx => hmacs x ▸ hno x hx
    have hne : adv.tagMac ≠ mac := fun hown => habsent e hin (hmac.trans hown)
    simp only [storedBy, hne, hrec, if_false, reduceCtorEq]
    exact ha.absent mac habsent
  · intro k mac
    simp only [Awaiting, Event.Accepts, Event.Releases, Event.Loses, hrec, hmacs, ha.awaiting k mac]
    simp [Table.setAdvReport]

/-- A read that returns the reports of `q` from list `k` releases exactly the MACs of `q`. -/
theorem Accounts.release (h : Invariant t) (ha : Accounts t history) {t' : Table} {k : ListNo}
    {q : List Elem} {event : Event} (hreport : t'.advReport = t.advReport)
    (hhash : t'.isInHashTable = t.isInHashTable)
    (hflags : ∀ j x, t'.isInRetransmissionList j x = true ↔
      t.isInRetransmissionList j x = true ∧ ¬(j = k ∧ x ∈ q))
    (hq : ∀ x ∈ q, t.isInRetransmissionList k x = true)
    (hstored : ∀ mac, storedBy mac (event :: history) = storedBy mac history)
    (haccepts : ∀ mac, ¬event.Accepts mac) (hloses : ∀ mac, ¬event.Loses mac)
    (hreleases : ∀ j mac, event.Releases j mac ↔ j = k ∧ ∃ x ∈ q, t.macOf x = mac) :
    Accounts t' (event :: history) := by
  have hmacs : ∀ x, t'.macOf x = t.macOf x := fun x => by simp [Table.macOf, hreport]
  constructor
  · intro x hx
    rw [hhash] at hx
    rw [hmacs, hstored, hreport]
    exact ha.stored x hx
  · intro mac hno
    rw [hstored]
    exact ha.absent mac fun x hx => hmacs x ▸ hno x (hhash ▸ hx)
  · intro j mac
    simp only [Awaiting, haccepts, hloses, false_or, not_false_eq_true, true_and, hmacs, hflags,
      hreleases, ha.awaiting j mac]
    constructor
    · rintro ⟨hnot, x, hx, hxmac⟩
      exact ⟨x, ⟨hx, fun hjx => hnot ⟨hjx.1, x, hjx.2, hxmac⟩⟩, hxmac⟩
    · rintro ⟨x, ⟨hx, hnot⟩, hxmac⟩
      refine ⟨?_, x, hx, hxmac⟩
      rintro ⟨rfl, y, hy, hymac⟩
      have hxy := h.macInjective x y (h.listed_hashed hx) (h.listed_hashed (hq y hy))
        (hxmac.trans hymac.symm)
      exact hnot ⟨rfl, hxy ▸ hy⟩

theorem Accounts.statisticsRead (h : Invariant t) (ha : Accounts t history) {q : List Elem}
    (hq : ∀ x ∈ q, (t.advReport x).timestamp ≠ 0) :
    Accounts (t.resetCounters q)
      ((.statisticsRead, ⟨.reports (q.map t.advReport), none, none⟩) :: history) := by
  have hmacs : ∀ x, (t.resetCounters q).macOf x = t.macOf x := by
    intro x
    simp only [Table.macOf, Table.resetCounters]
    split_ifs <;> rfl
  have hhashed : ∀ x ∈ q, t.isInHashTable x := by
    intro x hx
    by_contra hin
    exact hq x hx (h.unhashedUnused x (by simpa using hin))
  have hread : ∀ x, t.isInHashTable x →
      (t.macOf x ∈ (q.map t.advReport).map AdvReport.tagMac ↔ x ∈ q) := by
    intro x hx
    simp only [List.map_map, List.mem_map, Function.comp_apply]
    refine ⟨?_, fun hxq => ⟨x, hxq, rfl⟩⟩
    rintro ⟨y, hy, hyx⟩
    exact h.macInjective y x (hhashed y hy) hx hyx ▸ hy
  constructor
  · intro x hx
    have hcell : (t.resetCounters q).advReport x =
        if x ∈ q then { t.advReport x with samplesCounter := 0 } else t.advReport x := rfl
    rw [hmacs, hcell]
    simp only [storedBy, hread x hx, ha.stored x hx]
    split_ifs <;> rfl
  · intro mac hno
    have habsent := ha.absent mac fun x hx => hmacs x ▸ hno x hx
    simp only [storedBy, habsent]
    split_ifs <;> rfl
  · intro k mac
    simp only [Awaiting, Event.Accepts, Event.Releases, Event.Loses, hmacs, ha.awaiting k mac]
    simp [Table.resetCounters]

theorem Accounts.cleared (ha : Accounts t history) {dropped : Option Elem} :
    Accounts t.cleared ((.clear, ⟨.cleared, none, dropped⟩) :: history) where
  stored x hx := by
    have hmac : t.cleared.macOf x = t.macOf x := rfl
    rw [hmac, storedBy, ha.stored x hx]
    rfl
  absent mac hno := by
    rw [storedBy, ha.absent mac hno]
    rfl
  awaiting k mac := by simp [Awaiting, Event.Accepts, Event.Loses, Table.cleared]

theorem Accounts.readAndClear (h : Invariant t) (ha : Accounts t history) (k : ListNo) :
    Accounts (t.withoutList k)
      ((.readAndClear k,
        ⟨.reports ((t.advReportsRetransmissionList k).map t.advReport), none, none⟩) ::
        history) := by
  have hmem := (h.listAgrees k).mem_iff
  refine ha.release h rfl rfl ?_ (fun x hx => (hmem x).mp hx) (fun _ => rfl)
    (by simp [Event.Accepts]) (by simp [Event.Loses]) ?_
  · intro j x
    by_cases hj : j = k
    · subst hj
      simp [Table.withoutList, hmem]
    · simp [Table.withoutList, hj]
  · intro j mac
    simp only [Event.Releases, List.map_map, List.mem_map, Function.comp_apply]
    exact and_congr_left fun _ => eq_comm

theorem Accounts.list3Head (h : Invariant t) (ha : Accounts t history) :
    Accounts (advTableReadRetransmissionList3Head t).1
      ((.readList3Head, ⟨.head (advTableReadRetransmissionList3Head t).2, none, none⟩) ::
        history) := by
  unfold advTableReadRetransmissionList3Head
  cases hk : t.advReportsRetransmissionList .list3 with
  | nil =>
    refine ha.release (k := .list3) (q := []) h rfl rfl ?_ ?_ (fun _ => rfl)
      (by simp [Event.Accepts]) (by simp [Event.Loses]) ?_
    · simp
    · simp
    · simp [Event.Releases]
  | cons e rest =>
    have he : e ∈ t.advReportsRetransmissionList .list3 := by simp [hk]
    refine ha.release (k := .list3) (q := [e]) h rfl rfl ?_ ?_ (fun _ => rfl)
      (by simp [Event.Accepts]) (by simp [Event.Loses]) ?_
    · intro j x
      rw [removeHead_flags]
      split_ifs with hjx
      · simp [hjx]
      · simpa using fun _ hj => (not_and.mp hjx) hj
    · intro x hx
      rw [List.mem_singleton.mp hx]
      exact ((h.listAgrees .list3).mem_iff e).mp he
    · simp [Event.Releases]

theorem Accounts.apply (h : Invariant t) (ha : Accounts t history) (op : Op) :
    Accounts (op.apply t).1 ((op, op.outcome t) :: history) := by
  cases op with
  | put adv hadv =>
    dsimp only [Op.outcome, Op.apply, Op.recycled, Op.dropped]
    rcases h.put_cases adv with ⟨t', hst, hput⟩ | ⟨e, hs, _, hput⟩
    · rw [hput]
      exact ha.accept h hst
    · rw [hput]
      exact ha.countSample h hs
  | readAndClear k =>
    dsimp only [Op.outcome, Op.apply, Op.recycled, Op.dropped]
    rw [h.readAndClear_eq]
    exact ha.readAndClear h k
  | readList3Head => exact ha.list3Head h
  | historyRead q =>
    refine ha.release (k := .list1) (q := []) h rfl rfl ?_ ?_ (fun _ => rfl)
      (by simp [Event.Accepts]) (by simp [Event.Loses, Op.outcome, Op.recycled]) ?_
    · simp [Op.apply]
    · simp
    · simp [Event.Releases]
  | statisticsRead =>
    dsimp only [Op.outcome, Op.apply, Op.recycled, Op.dropped]
    rw [h.statisticsRead_eq]
    refine ha.statisticsRead h fun x hx => ?_
    simpa using List.mem_takeWhile_imp hx
  | clear =>
    dsimp only [Op.outcome, Op.apply, Op.recycled, Op.dropped]
    rw [h.clear_eq]
    exact ha.cleared

theorem accounts_run (hr : advTable.FreeRun history t) : Invariant t ∧ Accounts t history := by
  refine hr.historyInvariant (I := fun history t => Invariant t ∧ Accounts t history)
    ⟨invariant_init, accounts_init⟩ fun history s op s' o hs _ hstep => ?_
  simp only [advTable, Option.some.injEq, Prod.mk.injEq] at hstep
  rw [← hstep.1, ← hstep.2]
  exact ⟨hs.1.apply op, hs.2.apply hs.1 op⟩

/-! ## Delivery -/

/-- `r` is the report that the history stored for its MAC, with the content last accepted. -/
def IsLatest (history : List Event) (r : AdvReport) : Prop :=
  storedBy r.tagMac history = some r ∧
    ∃ adv, lastAccepted r.tagMac history = some adv ∧
      r = { adv with samplesCounter := r.samplesCounter }

/-- A read of list `k` returns exactly one report, the latest, of every MAC that awaits
delivery through that list, and no element is lost to a full output table. -/
structure Delivers (k : ListNo) (history : List Event) (drain : Drain) : Prop where
  oncePerMac : (drain.reports.map AdvReport.tagMac).Nodup
  latest : ∀ r ∈ drain.reports, IsLatest history r
  awaited : ∀ mac, mac ∈ drain.reports.map AdvReport.tagMac ↔ Awaiting k mac history
  noneDropped : drain.dropped = none

theorem Accounts.isLatest (h : Invariant t) (ha : Accounts t history) {k : ListNo} {e : Elem}
    (he : t.isInRetransmissionList k e = true) : IsLatest history (t.advReport e) := by
  have hstored := ha.stored e (h.listed_hashed he)
  refine ⟨hstored, storedBy_lastAccepted hstored fun hfree => ?_⟩
  rw [h.freeUnlisted e hfree k] at he
  cases he

theorem Accounts.delivers (h : Invariant t) (ha : Accounts t history) (k : ListNo) :
    Delivers k history (advTableReadRetransmissionListAndClear k t) := by
  have hmem := (h.listAgrees k).mem_iff
  rw [h.readAndClear_eq]
  refine ⟨?_, ?_, ?_, rfl⟩
  · rw [List.map_map]
    refine (List.nodup_map_iff_inj_on (h.listAgrees k).nodup).mpr fun x hx y hy hxy => ?_
    exact h.macInjective x y (h.listed_hashed ((hmem x).mp hx))
      (h.listed_hashed ((hmem y).mp hy)) hxy
  · intro r hr
    obtain ⟨e, he, rfl⟩ := List.mem_map.mp hr
    exact ha.isLatest h ((hmem e).mp he)
  · intro mac
    simp only [List.map_map, List.mem_map, Function.comp_apply, ha.awaiting k mac, hmem]

/-- Delivery through the three retransmission lists, after every run: both kinds of reads
return exactly what awaits delivery, each report once and in its latest version. -/
theorem advTable_delivery {t : Table} {history : List (Op × Outcome)}
    (hr : advTable.FreeRun history t) :
    (∀ k, Delivers k history (advTableReadRetransmissionListAndClear k t)) ∧
    (∀ r, (advTableReadRetransmissionList3Head t).2 = some r →
      IsLatest history r ∧ Awaiting .list3 r.tagMac history) ∧
    ((advTableReadRetransmissionList3Head t).2 = none ↔
      ∀ mac, ¬Awaiting .list3 mac history) := by
  obtain ⟨h, ha⟩ := accounts_run hr
  have hmem := (h.listAgrees .list3).mem_iff
  refine ⟨ha.delivers h, ?_, ?_⟩
  · intro r hhead
    unfold advTableReadRetransmissionList3Head at hhead
    cases hk : t.advReportsRetransmissionList .list3 with
    | nil => simp [hk] at hhead
    | cons e rest =>
      simp only [hk, Option.some.injEq] at hhead
      subst hhead
      have he := (hmem e).mp (by simp [hk])
      exact ⟨ha.isLatest h he, (ha.awaiting _ _).mpr ⟨e, he, rfl⟩⟩
  · simp only [ha.awaiting, ← hmem]
    unfold advTableReadRetransmissionList3Head
    cases hk : t.advReportsRetransmissionList .list3 with
    | nil => simp
    | cons e rest =>
      simp only [reduceCtorEq, false_iff, not_forall, not_not]
      exact ⟨_, e, by simp, rfl⟩

/-- Two accepted reports, of which the first has already left list 1. -/
theorem advTable_delivery_twoPuts :
    let t₁ := ((samplePut 1).apply advTableInit).1
    let t₂ := ((Op.readAndClear .list1).apply t₁).1
    let t₃ := ((samplePut 2).apply t₂).1
    ((advTableReadRetransmissionListAndClear .list1 t₃).reports.map AdvReport.tagMac).Nodup ∧
      (advTableReadRetransmissionListAndClear .list1 t₃).reports = [sampleReport 2] := by
  intro t₁ t₂ t₃
  have hrun : advTable.FreeRun _ t₃ :=
    .step (.step (.step .init trivial rfl) trivial rfl) trivial rfl
  exact ⟨((advTable_delivery hrun).1 .list1).oncePerMac, by decide⟩

end RuuviGateway.AdvTable
