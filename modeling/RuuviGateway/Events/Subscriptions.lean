import RuuviGateway.Events.EventMgr
import RuuviGateway.General.Transition

/-!
# Live subscriptions

The history of the calls says which subscriptions of an event are live. The queue of the event lists
them in their order as long as nothing is unsubscribed that is not live, and so far the queues
refine the lists of subscriptions. -/

namespace RuuviGateway.Events

open General

section Calls

inductive Call
  | subscribeSig (event : ℕ) (pSignal : Option ℕ) (sigNum : ℕ) (allocated : Bool)
  | subscribeSigStatic (evInfoMem event : ℕ) (pSignal : Option ℕ) (sigNum : ℕ)
  | unsubscribeSig (event : ℕ) (pSignal : Option ℕ) (sigNum : ℕ)
  | unsubscribeSigStatic (evInfoMem event : ℕ)
  | notify (event : ℕ)

def Call.exec (m : EventMgr) : Call → Option (EventMgr × CallResult)
  | .subscribeSig event pSignal sigNum allocated =>
      eventMgrSubscribeSig event pSignal sigNum allocated m
  | .subscribeSigStatic evInfoMem event pSignal sigNum =>
      eventMgrSubscribeSigStatic evInfoMem event pSignal sigNum m
  | .unsubscribeSig event pSignal sigNum => eventMgrUnsubscribeSig event pSignal sigNum m
  | .unsubscribeSigStatic evInfoMem event => eventMgrUnsubscribeSigStatic evInfoMem event m
  | .notify event => some (eventMgrNotify event m)

/-- The calls in any order. A call waits while the mutex is taken. -/
def eventMgrCalls : System EventMgr Call CallResult where
  init := eventMgrInit
  step m c := if m.mutexTaken then none else c.exec m

/-- The memory of a static entry is not in a queue when it is subscribed. -/
def Resubscribes (m : EventMgr) : Call → Prop
  | .subscribeSigStatic evInfoMem _ _ _ => (.static, evInfoMem) ∉ m.entries
  | .subscribeSig _ _ _ _ => True
  | .unsubscribeSig _ _ _ => True
  | .unsubscribeSigStatic _ _ => True
  | .notify _ => True

instance (m : EventMgr) : (c : Call) → Decidable (Resubscribes m c)
  | .subscribeSigStatic _ _ _ _ => inferInstanceAs (Decidable (_ ∉ _))
  | .subscribeSig _ _ _ _ => inferInstanceAs (Decidable True)
  | .unsubscribeSig _ _ _ => inferInstanceAs (Decidable True)
  | .unsubscribeSigStatic _ _ => inferInstanceAs (Decidable True)
  | .notify _ => inferInstanceAs (Decidable True)

end Calls

section Live

/-- What a subscriber has asked for, with the memory that it has given. -/
structure Subscription where
  evInfoMem : Option ℕ
  pSignal : Option ℕ
  sigNum : ℕ
  deriving DecidableEq

def Subscription.signal (sub : Subscription) : Option ℕ × ℕ := (sub.pSignal, sub.sigNum)

/-- The effect of a call on the live subscriptions of an event. -/
def Call.effect (r : CallResult) (event : ℕ) (subs : List Subscription) : Call → List Subscription
  | .subscribeSig event' pSignal sigNum _ =>
      if r = .subscribed true ∧ event' = event then subs ++ [⟨none, pSignal, sigNum⟩] else subs
  | .subscribeSigStatic evInfoMem event' pSignal sigNum =>
      if event' = event then subs ++ [⟨some evInfoMem, pSignal, sigNum⟩] else subs
  | .unsubscribeSig event' pSignal sigNum =>
      if event' = event then subs.eraseP fun sub => sub.signal = (pSignal, sigNum) else subs
  | .unsubscribeSigStatic evInfoMem event' =>
      if event' = event then subs.eraseP fun sub => sub.evInfoMem = some evInfoMem else subs
  | .notify _ => subs

/-- The live subscriptions of an event in the order of their calls. -/
def live (event : ℕ) : List (Call × CallResult) → List Subscription
  | [] => []
  | (c, r) :: history => c.effect r event (live event history)

/-- The call unsubscribes something live, or it does not unsubscribe. -/
def Call.OfLive (subs : ℕ → List Subscription) : Call → Prop
  | .unsubscribeSig event pSignal sigNum => ∃ sub ∈ subs event, sub.signal = (pSignal, sigNum)
  | .unsubscribeSigStatic evInfoMem event => ∃ sub ∈ subs event, sub.evInfoMem = some evInfoMem
  | .subscribeSig _ _ _ _ => True
  | .subscribeSigStatic _ _ _ _ => True
  | .notify _ => True

/-- What a call about live subscriptions returns. -/
def Call.answer (subs : ℕ → List Subscription) : Call → CallResult
  | .subscribeSig _ _ _ allocated => .subscribed allocated
  | .subscribeSigStatic _ _ _ _ => .subscribed true
  | .unsubscribeSig _ _ _ => .unsubscribed
  | .unsubscribeSigStatic _ _ => .unsubscribed
  | .notify event => .notified ((subs event).map Subscription.signal)

open scoped Classical in
/-- The purpose of the queues: a list of live subscriptions for each event. -/
noncomputable def subscriptions : System (ℕ → List Subscription) Call CallResult where
  init _ := []
  step subs c :=
    if c.OfLive subs then
      some (fun event => c.effect (c.answer subs) event (subs event), c.answer subs)
    else none

/-- Nothing was unsubscribed that was not live then. -/
def UnsubscribesLive : List (Call × CallResult) → Prop
  | [] => True
  | (c, _) :: history => c.OfLive (fun event => live event history) ∧ UnsubscribesLive history

def subscriptionOf (p : EvInfoPtr) (info : EvInfo) : Subscription :=
  ⟨if p.1 = .static then some p.2 else none, info.pSignal, info.sigNum⟩

/-- The subscriptions of the entries in the queue of an event. -/
def EventMgr.queued (m : EventMgr) (event : ℕ) : List Subscription :=
  (m.events event).map fun p => subscriptionOf p (m.evInfo p)

/-- Each notification has sent the signal of each live subscription once, in their order. -/
def Notified (history : List (Call × CallResult)) : Prop :=
  ∀ event sent earlier, (.notify event, .notified sent) :: earlier <:+ history →
    sent = (live event earlier).map Subscription.signal

/-- What holds between two calls. -/
structure Lawful (history : List (Call × CallResult)) (m : EventMgr) : Prop where
  mutexFree : m.mutexTaken = false
  queue : ∀ event, m.queued event = live event history
  nodup : ∀ event, (m.events event).Nodup
  /-- An entry in a queue has not been freed. -/
  inUse : ∀ event, ∀ p ∈ m.events event, m.ledger.released.count p = 0
  /-- An allocated entry that is in no queue was freed once. -/
  ended : ∀ p ∈ m.ledger.obtained, (∀ event, p ∉ m.events event) → m.ledger.released.count p = 1
  /-- Nothing is freed that was not allocated. -/
  owned : ∀ p ∈ m.ledger.released, p ∈ m.ledger.obtained
  notified : Notified history

end Live

section Queued

variable {m : EventMgr} {event event' : ℕ} {p : EvInfoPtr}

/-- What the entries have in common between two calls. -/
structure Consistent (m : EventMgr) : Prop where
  settled : m.ledger.Settled m.heapEntries
  obtained : ∀ p ∈ m.ledger.obtained, p.1 = .heap
  nodup : m.entries.Nodup
  isStatic : ∀ p ∈ m.entries, (m.evInfo p).isStatic = decide (p.1 = .static)
  inRange : ∀ event, ∀ p ∈ m.events event, EventInRange event

theorem Consistent.mem_entries (h : Consistent m) (hp : p ∈ m.events event) : p ∈ m.entries :=
  (h.inRange event p hp).mem_entries hp

theorem Consistent.queue_nodup (h : Consistent m) (event : ℕ) : (m.events event).Nodup := by
  by_cases hevent : EventInRange event
  · exact IntrusiveList.nodup_of_members h.nodup hevent.mem_range
  · rw [List.eq_nil_iff_forall_not_mem.mpr fun p hp => hevent (h.inRange event p hp)]
    exact List.nodup_nil

theorem setInfo_queued (info : EvInfo) (hp : p ∉ m.events event) :
    (m.setInfo p info).queued event = m.queued event := by
  refine List.map_congr_left fun q hq => ?_
  have hne : q ≠ p := by
    rintro rfl
    exact hp hq
  rw [EventMgr.setInfo_evInfo_of_ne hne]

theorem setQueue_queued_of_ne (h : event' ≠ event) (queue : List EvInfoPtr) :
    (m.setQueue event queue).queued event' = m.queued event' := by
  rw [EventMgr.queued, EventMgr.setQueue_events_of_ne h]
  rfl

theorem insertTail_queued :
    (m.insertTail event p).queued event' =
      if event = event' then m.queued event' ++ [subscriptionOf p (m.evInfo p)]
      else m.queued event' := by
  by_cases heq : event = event'
  · subst heq
    rw [if_pos rfl, EventMgr.queued, EventMgr.insertTail, EventMgr.setQueue_events, List.map_append]
    rfl
  · rw [if_neg heq, EventMgr.insertTail, setQueue_queued_of_ne (Ne.symm heq)]

/-- What a search of the entries finds is the first such subscription. -/
theorem remove_queued {found : Subscription → Bool}
    (hp : (m.events event).find? (fun p => found (subscriptionOf p (m.evInfo p))) = some p) :
    (m.remove event p).queued event' =
      if event = event' then (m.queued event').eraseP found else m.queued event' := by
  by_cases heq : event = event'
  · subst heq
    rw [if_pos rfl, EventMgr.queued, EventMgr.remove, EventMgr.setQueue_events,
      IntrusiveList.erase_eq_eraseP hp, EventMgr.queued, List.eraseP_map]
    rfl
  · rw [if_neg heq, EventMgr.remove, setQueue_queued_of_ne (Ne.symm heq)]

theorem remove_not_mem (h : Consistent m) (hp : p ∈ m.events event) (event' : ℕ) :
    p ∉ (m.remove event p).events event' := by
  have hevent := h.inRange event p hp
  have hnodup := (entries_remove hevent hp).nodup_iff.mp h.nodup
  intro hmem
  have hevent' : EventInRange event' := by
    by_cases heq : event' = event
    · rwa [heq]
    · rw [EventMgr.remove, EventMgr.setQueue_events_of_ne heq] at hmem
      exact h.inRange event' p hmem
  exact (List.nodup_cons.mp hnodup).1 (hevent'.mem_entries hmem)

end Queued

section Steps

variable {m m' : EventMgr} {event : ℕ} {p : EvInfoPtr} {r : CallResult}

/-- A new entry. -/
theorem Consistent.insert (h : Consistent m) (hevent : EventInRange event) (hp : p ∉ m.entries)
    {info : EvInfo} {ledger : Ledger EvInfoMem} (hstatic : info.isStatic = decide (p.1 = .static))
    (hsettled : ledger.Settled ((p :: m.entries).filter fun p => p.1 = .heap))
    (hobtained : ∀ p ∈ ledger.obtained, p.1 = .heap) :
    Consistent ((({ m with ledger := ledger }.setInfo p info).lock.insertTail event p).unlock) := by
  have hperm : (({ m with ledger := ledger }.setInfo p info).insertTail event p).entries.Perm
      (p :: m.entries) :=
    entries_insertTail hevent p
  constructor
  · exact hsettled.of_perm (hperm.symm.filter _)
  · exact hobtained
  · exact hperm.nodup_iff.mpr (List.nodup_cons.mpr ⟨hp, h.nodup⟩)
  · intro q hq
    by_cases heq : q = p
    · rw [heq]
      exact (congrArg EvInfo.isStatic EventMgr.setInfo_evInfo).trans hstatic
    · have hmem : q ∈ m.entries := (List.mem_cons.mp (hperm.mem_iff.mp hq)).resolve_left heq
      have hinfo : (m.setInfo p info).evInfo q = m.evInfo q := EventMgr.setInfo_evInfo_of_ne heq
      exact (congrArg EvInfo.isStatic hinfo).trans (h.isStatic q hmem)
  · intro event' q hq
    by_cases heq : event' = event
    · rwa [heq]
    · have hqueue : (m.insertTail event p).events event' = m.events event' :=
        EventMgr.setQueue_events_of_ne heq
      exact h.inRange event' q (hqueue ▸ hq)

theorem insert_queued (hp : p ∉ m.entries) (h : Consistent m) (info : EvInfo)
    (ledger : Ledger EvInfoMem) (event' : ℕ) :
    ((({ m with ledger := ledger }.setInfo p info).lock.insertTail event p).unlock).queued event' =
      if event = event' then m.queued event' ++ [subscriptionOf p info] else m.queued event' := by
  have hnot : p ∉ m.events event' := fun hmem => hp (h.mem_entries hmem)
  have hset : ({ m with ledger := ledger }.setInfo p info).queued event' = m.queued event' :=
    setInfo_queued info hnot
  have hinsert : (({ m with ledger := ledger }.setInfo p info).insertTail event p).queued event' =
      _ := insertTail_queued
  rw [hset, EventMgr.setInfo_evInfo] at hinsert
  exact hinsert

/-- What becomes of an entry that is unsubscribed. -/
def EventMgr.giveBack (p : EvInfoPtr) (m : EventMgr) : EventMgr :=
  if p.1 = .static then m else m.free p

theorem giveBack_events (p : EvInfoPtr) (m : EventMgr) : (m.giveBack p).events = m.events := by
  rw [EventMgr.giveBack]
  split_ifs <;> rfl

theorem giveBack_evInfo (p : EvInfoPtr) (m : EventMgr) : (m.giveBack p).evInfo = m.evInfo := by
  rw [EventMgr.giveBack]
  split_ifs <;> rfl

theorem giveBack_entries (p : EvInfoPtr) (m : EventMgr) : (m.giveBack p).entries = m.entries := by
  rw [EventMgr.entries, giveBack_events]
  rfl

theorem giveBack_queued (p : EvInfoPtr) (m : EventMgr) (event' : ℕ) :
    (m.giveBack p).queued event' = m.queued event' := by
  rw [EventMgr.queued, giveBack_events, giveBack_evInfo]
  rfl

theorem giveBack_obtained (p : EvInfoPtr) (m : EventMgr) :
    (m.giveBack p).ledger.obtained = m.ledger.obtained := by
  rw [EventMgr.giveBack]
  split_ifs <;> rfl

/-- An allocated entry is released, and a static one was not counted. -/
theorem giveBack_settled {entries : List EvInfoPtr}
    (h : m.ledger.Settled ((p :: entries).filter fun p => p.1 = .heap)) :
    (m.giveBack p).ledger.Settled (entries.filter fun p => p.1 = .heap) := by
  obtain ⟨kind, n⟩ := p
  cases kind with
  | static => exact h
  | heap => exact Ledger.Settled.release (p := some n) h

/-- An entry that is found. -/
theorem Consistent.remove (h : Consistent m) (hp : p ∈ m.events event) :
    Consistent (((m.lock.remove event p).resetInfo p).giveBack p).unlock := by
  have hevent := h.inRange event p hp
  have hperm : m.entries.Perm (p :: (m.remove event p).entries) := entries_remove hevent hp
  have hnodup := List.nodup_cons.mp (hperm.nodup_iff.mp h.nodup)
  have hsettled : m.ledger.Settled
      ((p :: (m.remove event p).entries).filter fun p => p.1 = .heap) :=
    h.settled.of_perm (hperm.filter _)
  have hentries : (((m.lock.remove event p).resetInfo p).giveBack p).unlock.entries =
      (m.remove event p).entries := giveBack_entries _ _
  have hinfo : (((m.lock.remove event p).resetInfo p).giveBack p).unlock.evInfo =
      (m.resetInfo p).evInfo := giveBack_evInfo _ _
  have hevents : (((m.lock.remove event p).resetInfo p).giveBack p).unlock.events =
      (m.remove event p).events := giveBack_events _ _
  have hobtained : (((m.lock.remove event p).resetInfo p).giveBack p).unlock.ledger.obtained =
      m.ledger.obtained := giveBack_obtained _ _
  constructor
  · rw [EventMgr.heapEntries, hentries]
    exact giveBack_settled hsettled
  · rw [hobtained]
    exact h.obtained
  · rw [hentries]
    exact hnodup.2
  · intro q hq
    rw [hentries] at hq
    have hne : q ≠ p := by
      rintro rfl
      exact hnodup.1 hq
    rw [hinfo, EventMgr.resetInfo, EventMgr.setInfo_evInfo_of_ne hne]
    exact h.isStatic q (hperm.mem_iff.mpr (List.mem_cons_of_mem _ hq))
  · intro event' q hq
    rw [hevents] at hq
    by_cases heq : event' = event
    · rwa [heq]
    · rw [EventMgr.remove, EventMgr.setQueue_events_of_ne heq] at hq
      exact h.inRange event' q hq

theorem removeFound_queued (h : Consistent m) (hp : p ∈ m.events event)
    {found : Subscription → Bool} (hfind :
      (m.events event).find? (fun p => found (subscriptionOf p (m.evInfo p))) = some p)
    (event' : ℕ) :
    (((m.lock.remove event p).resetInfo p).giveBack p).unlock.queued event' =
      if event = event' then (m.queued event').eraseP found else m.queued event' := by
  have hgive : (((m.lock.remove event p).resetInfo p).giveBack p).queued event' =
      ((m.remove event p).resetInfo p).queued event' := giveBack_queued _ _ _
  have hreset : ((m.remove event p).resetInfo p).queued event' = (m.remove event p).queued event' :=
    setInfo_queued _ (remove_not_mem h hp event')
  exact (hgive.trans hreset).trans (remove_queued hfind)

/-- A call that keeps what holds between two calls, and changes the queues as it should. -/
structure Kept (m : EventMgr) (c : Call) (r : CallResult) (m' : EventMgr) : Prop where
  consistent : Consistent m'
  mutexFree : m'.mutexTaken = false
  queued : ∀ event, m'.queued event = c.effect r event (m.queued event)
  answered : r = c.answer m.queued

theorem Consistent.heap_fresh (h : Consistent m) : (.heap, m.ledger.next) ∉ m.entries := by
  intro hmem
  have hlt := h.settled.lt_next_of_held (mem_heapEntries.mpr ⟨hmem, rfl⟩)
  exact Nat.lt_irrefl _ hlt

theorem subscribeSig_kept (h : Consistent m) (hfree : m.mutexTaken = false) {pSignal : Option ℕ}
    {sigNum : ℕ} {allocated : Bool}
    (hcall : eventMgrSubscribeSig event pSignal sigNum allocated m = some (m', r)) :
    Kept m (.subscribeSig event pSignal sigNum allocated) r m' := by
  unfold eventMgrSubscribeSig eventMgrCreateEvInfoSig at hcall
  split_ifs at hcall with hevent
  cases allocated with
  | false =>
    obtain ⟨rfl, rfl⟩ := Prod.mk.inj (Option.some.inj hcall)
    refine ⟨h, hfree, ?_, rfl⟩
    intro event'
    rw [Call.effect, if_neg]
    · rfl
    · rintro ⟨hres, -⟩
      cases hres
  | true =>
    obtain ⟨rfl, rfl⟩ := Prod.mk.inj (Option.some.inj hcall)
    have hsettled := h.settled.obtain .heap true
    have hobtained : ∀ p ∈ (m.ledger.obtain .heap true).2.obtained, p.1 = .heap :=
      List.forall_mem_cons.mpr ⟨rfl, h.obtained⟩
    refine ⟨h.insert hevent h.heap_fresh rfl hsettled hobtained, rfl, ?_, rfl⟩
    intro event'
    refine (insert_queued h.heap_fresh h _ _ event').trans ?_
    simp only [Call.effect, true_and]
    rfl

theorem subscribeSigStatic_kept (h : Consistent m) {evInfoMem : ℕ} {pSignal : Option ℕ} {sigNum : ℕ}
    (hnew : (.static, evInfoMem) ∉ m.entries)
    (hcall : eventMgrSubscribeSigStatic evInfoMem event pSignal sigNum m = some (m', r)) :
    Kept m (.subscribeSigStatic evInfoMem event pSignal sigNum) r m' := by
  unfold eventMgrSubscribeSigStatic at hcall
  split_ifs at hcall with hevent
  obtain ⟨rfl, rfl⟩ := Prod.mk.inj (Option.some.inj hcall)
  exact ⟨h.insert hevent hnew rfl h.settled h.obtained, rfl, insert_queued hnew h _ m.ledger, rfl⟩

theorem notify_kept (h : Consistent m) (hfree : m.mutexTaken = false) :
    Kept m (.notify event) (eventMgrNotify event m).2 (eventMgrNotify event m).1 := by
  have hstate : (eventMgrNotify event m).1 = m := by
    unfold eventMgrNotify EventMgr.lock EventMgr.unlock
    split_ifs
    · rfl
    · rw [← hfree]
  rw [hstate]
  refine ⟨h, hfree, fun _ => rfl, ?_⟩
  unfold eventMgrNotify
  split_ifs with hrange
  · have hempty : m.events event = [] := by
      refine List.eq_nil_iff_forall_not_mem.mpr fun p hp => ?_
      obtain ⟨hlow, hhigh⟩ := h.inRange event p hp
      omega
    rw [Call.answer, EventMgr.queued, hempty]
    rfl
  · rw [Call.answer, EventMgr.queued, List.map_map]
    rfl

/-- A call is about something live and keeps what it should, or it does not end. -/
def Call.Ends (c : Call) (r : CallResult) (m m' : EventMgr) : Prop :=
  c.OfLive m.queued ∧ Kept m c r m' ∨ ¬c.OfLive m.queued ∧ m'.mutexTaken = true

/-- An unsubscription takes the first live subscription that it is about, and if there is none it
does not end. -/
theorem unsubscribe_ends (h : Consistent m) (About : Subscription → Prop) [DecidablePred About]
    {c : Call} {found : EvInfoPtr → EvInfo → Bool} {release : EvInfoPtr → EventMgr → EventMgr}
    (hlive : c.OfLive m.queued ↔ ∃ sub ∈ m.queued event, About sub)
    (heffect : ∀ event' subs, c.effect r event' subs =
      if event = event' then subs.eraseP fun sub => About sub else subs)
    (hanswer : c.answer m.queued = .unsubscribed)
    (habout : ∀ p info, found p info = true ↔ About (subscriptionOf p info))
    (hrelease : ∀ p ∈ m.entries, found p (m.evInfo p) = true →
      release p ((m.lock.remove event p).resetInfo p) =
        ((m.lock.remove event p).resetInfo p).giveBack p)
    (hcall : eventMgrUnsubscribe event found release m = some (m', r)) : c.Ends r m m' := by
  have hsearch : ∀ p info, found p info = decide (About (subscriptionOf p info)) :=
    fun p info => Bool.eq_iff_iff.mpr ((habout p info).trans (decide_eq_true_iff).symm)
  unfold eventMgrUnsubscribe at hcall
  split_ifs at hcall with hevent
  dsimp only at hcall
  cases hfind : (m.events event).find? fun p => found p (m.evInfo p) with
  | none =>
    have hfind' : (m.lock.events event).find? (fun p => found p (m.lock.evInfo p)) = none := hfind
    rw [hfind'] at hcall
    obtain ⟨rfl, rfl⟩ := Prod.mk.inj (Option.some.inj hcall)
    refine .inr ⟨?_, rfl⟩
    rw [hlive]
    rintro ⟨sub, hsub, hmatch⟩
    obtain ⟨p, hp, rfl⟩ := List.mem_map.mp hsub
    exact List.find?_eq_none.mp hfind p hp ((habout _ _).mpr hmatch)
  | some p =>
    have hfind' : (m.lock.events event).find? (fun p => found p (m.lock.evInfo p)) = some p := hfind
    have hp := List.mem_of_find?_eq_some hfind
    have hmatch := List.find?_some hfind
    rw [hfind'] at hcall
    dsimp only at hcall
    rw [hrelease p (h.mem_entries hp) hmatch] at hcall
    obtain ⟨rfl, rfl⟩ := Prod.mk.inj (Option.some.inj hcall)
    simp only [hsearch] at hfind
    refine .inl ⟨?_, h.remove hp, rfl, ?_, hanswer.symm⟩
    · exact hlive.mpr ⟨_, List.mem_map_of_mem hp, (habout _ _).mp hmatch⟩
    · intro event'
      rw [heffect]
      exact removeFound_queued h hp hfind event'

theorem unsubscribeSig_ends (h : Consistent m) {pSignal : Option ℕ} {sigNum : ℕ}
    (hcall : eventMgrUnsubscribeSig event pSignal sigNum m = some (m', r)) :
    (Call.unsubscribeSig event pSignal sigNum).Ends r m m' := by
  refine unsubscribe_ends h (fun sub => sub.signal = (pSignal, sigNum)) Iff.rfl (fun _ _ => rfl) rfl
    ?_ ?_ hcall
  · intro p info
    rw [decide_eq_true_iff, subscriptionOf, Subscription.signal, Prod.mk.injEq]
  · intro p hp _
    have hstatic : (((m.lock.remove event p).resetInfo p).evInfo p).isStatic =
        decide (p.1 = .static) := by
      rw [EventMgr.resetInfo, EventMgr.setInfo_evInfo]
      exact h.isStatic p hp
    rw [hstatic, EventMgr.giveBack]
    simp only [decide_eq_true_eq]

theorem unsubscribeSigStatic_ends (h : Consistent m) {evInfoMem : ℕ}
    (hcall : eventMgrUnsubscribeSigStatic evInfoMem event m = some (m', r)) :
    (Call.unsubscribeSigStatic evInfoMem event).Ends r m m' := by
  have hptr : ∀ (p : EvInfoPtr) (info : EvInfo),
      p = (.static, evInfoMem) ↔ (subscriptionOf p info).evInfoMem = some evInfoMem := by
    rintro ⟨kind, n⟩ info
    cases kind <;> simp [subscriptionOf]
  refine unsubscribe_ends h (fun sub => sub.evInfoMem = some evInfoMem) Iff.rfl (fun _ _ => rfl) rfl
    ?_ ?_ hcall
  · intro p info
    rw [decide_eq_true_iff]
    exact hptr p info
  · intro p _ hfound
    rw [of_decide_eq_true hfound]
    rfl

theorem Call.exec_spec (h : Consistent m) (hfree : m.mutexTaken = false) {c : Call}
    (hresub : Resubscribes m c) (hcall : c.exec m = some (m', r)) : c.Ends r m m' := by
  cases c with
  | subscribeSig event pSignal sigNum allocated =>
    exact .inl ⟨trivial, subscribeSig_kept h hfree hcall⟩
  | subscribeSigStatic evInfoMem event pSignal sigNum =>
    exact .inl ⟨trivial, subscribeSigStatic_kept h hresub hcall⟩
  | unsubscribeSig event pSignal sigNum => exact unsubscribeSig_ends h hcall
  | unsubscribeSigStatic evInfoMem event => exact unsubscribeSigStatic_ends h hcall
  | notify event =>
    obtain ⟨rfl, rfl⟩ := Prod.mk.inj (Option.some.inj hcall)
    exact .inl ⟨trivial, notify_kept h hfree⟩

end Steps

section Runs

variable {m : EventMgr} {history : List (Call × CallResult)}

theorem eventMgrCalls_step {c : Call} {m' : EventMgr} {r : CallResult}
    (hstep : eventMgrCalls.step m c = some (m', r)) :
    m.mutexTaken = false ∧ c.exec m = some (m', r) := by
  unfold eventMgrCalls at hstep
  dsimp only at hstep
  split_ifs at hstep with htaken
  exact ⟨Bool.eq_false_iff.mpr htaken, hstep⟩

theorem consistent_init : Consistent eventMgrInit := by
  have hentries : eventMgrInit.entries = [] :=
    List.eq_nil_iff_forall_not_mem.mpr fun p hp =>
      (IntrusiveList.mem_members.mp hp).elim fun _ h => List.not_mem_nil h.2
  constructor
  · rw [EventMgr.heapEntries, hentries]
    exact Ledger.settled_empty
  · exact List.forall_mem_nil _
  · rw [hentries]
    exact List.nodup_nil
  · rw [hentries]
    exact List.forall_mem_nil _
  · exact fun _ => List.forall_mem_nil _

/-- What a run keeps as long as it has unsubscribed live subscriptions. -/
structure Follows (history : List (Call × CallResult)) (m : EventMgr) : Prop where
  consistent : Consistent m
  mutexFree : m.mutexTaken = false
  queued : ∀ event, m.queued event = live event history
  notified : Notified history

theorem Follows.lawful (h : Follows history m) : Lawful history m := by
  constructor
  · exact h.mutexFree
  · exact h.queued
  · exact h.consistent.queue_nodup
  · intro event p hp
    have hmem := h.consistent.mem_entries hp
    by_cases hheap : p.1 = .heap
    · exact h.consistent.settled.count_of_held (mem_heapEntries.mpr ⟨hmem, hheap⟩)
    · refine List.count_eq_zero_of_not_mem fun hreleased => hheap ?_
      exact h.consistent.obtained p (h.consistent.settled.obtained_of_released hreleased)
  · intro p hp hnot
    refine h.consistent.settled.count_of_not_held hp ?_
    intro hheld
    obtain ⟨event, -, hmem⟩ := IntrusiveList.mem_members.mp (mem_heapEntries.mp hheld).1
    exact hnot event hmem
  · exact fun p hp => h.consistent.settled.obtained_of_released hp
  · exact h.notified

theorem Follows.step (h : Follows history m) {c : Call} {r : CallResult} {m' : EventMgr}
    (hkept : Kept m c r m') : Follows ((c, r) :: history) m' := by
  refine ⟨hkept.consistent, hkept.mutexFree, ?_, ?_⟩
  · intro event
    rw [hkept.queued, h.queued]
    rfl
  · intro event sent earlier hsuffix
    rcases List.suffix_cons_iff.mp hsuffix with heq | hsuffix
    · obtain ⟨hhead, rfl⟩ := List.cons.inj heq
      obtain ⟨rfl, rfl⟩ := Prod.mk.inj hhead
      rw [← h.queued]
      exact CallResult.notified.inj hkept.answered
    · exact h.notified event sent earlier hsuffix

/-- A run follows the live subscriptions until it unsubscribes something that is not live. -/
theorem run_follows (hr : eventMgrCalls.Run Resubscribes history m) :
    UnsubscribesLive history ∧ Follows history m ∨
      ¬UnsubscribesLive history ∧ m.mutexTaken = true := by
  induction hr with
  | init =>
    refine .inl ⟨trivial, consistent_init, rfl, fun _ => rfl, ?_⟩
    intro _ _ _ hsuffix
    cases List.eq_nil_of_suffix_nil hsuffix
  | @step history m c m' r _ hresub hstep ih =>
    obtain ⟨hfree, hexec⟩ := eventMgrCalls_step hstep
    rcases ih with ⟨hlive, hfollows⟩ | ⟨-, htaken⟩
    · have hqueued : m.queued = fun event => live event history := funext hfollows.queued
      rcases c.exec_spec hfollows.consistent hfree hresub hexec with ⟨hof, hkept⟩ | ⟨hnot, htaken⟩
      · rw [hqueued] at hof
        exact .inl ⟨⟨hof, hlive⟩, hfollows.step hkept⟩
      · rw [hqueued] at hnot
        exact .inr ⟨fun h => hnot h.1, htaken⟩
    · rw [htaken] at hfree
      cases hfree

/-- The queues represent the lists while the mutex is free. -/
structure Represents (m : EventMgr) (subs : ℕ → List Subscription) : Prop where
  consistent : Consistent m
  mutexFree : m.mutexTaken = false
  queued : m.queued = subs

/-- As long as nothing is unsubscribed that is not live, the queues refine the lists. -/
theorem eventMgrCalls_simulation :
    System.Simulation (eventMgrCalls.restrict fun m c => Resubscribes m c ∧ c.OfLive m.queued)
      subscriptions Represents := by
  refine ⟨⟨consistent_init, rfl, rfl⟩, ?_⟩
  rintro m _ c m' r ⟨hconsistent, hfree, rfl⟩ hstep
  obtain ⟨⟨hresub, hlive⟩, hcall⟩ := System.restrict_step.mp hstep
  obtain ⟨-, hexec⟩ := eventMgrCalls_step hcall
  rcases c.exec_spec hconsistent hfree hresub hexec with ⟨-, hkept⟩ | ⟨hnot, -⟩
  · refine ⟨m'.queued, ?_, hkept.consistent, hkept.mutexFree, rfl⟩
    unfold subscriptions
    dsimp only
    rw [if_pos hlive, funext hkept.queued, ← hkept.answered]
  · exact absurd hlive hnot

/-- Such a run is one of the lists, with the same results. -/
theorem run_represents
    (hr : eventMgrCalls.Run (fun m c => Resubscribes m c ∧ c.OfLive m.queued) history m) :
    ∃ subs, subscriptions.FreeRun history subs ∧ Represents m subs :=
  eventMgrCalls_simulation.run hr.restrict

/-- Exactly if nothing is unsubscribed that is not live. -/
theorem eventMgrCalls_lawful_iff (hr : eventMgrCalls.Run Resubscribes history m) :
    Lawful history m ↔ UnsubscribesLive history := by
  rcases run_follows hr with ⟨hlive, hfollows⟩ | ⟨hnot, htaken⟩
  · exact iff_of_true hfollows.lawful hlive
  · refine iff_of_false ?_ hnot
    intro hlawful
    rw [hlawful.mutexFree] at htaken
    cases htaken

/-- Two subscriptions of one event, of which one is unsubscribed. -/
theorem eventMgrCalls_sample : ∃ history m, m.events 26 = [(.static, 7)] ∧
    (Lawful history m ↔ UnsubscribesLive history) := by
  obtain ⟨history, m, hr, hqueue⟩ := System.exists_run_of_exec
    [.subscribeSig 26 (some 1) 3 true, .subscribeSigStatic 7 26 (some 2) 3, .notify 26,
      .unsubscribeSig 26 (some 1) 3]
    (S := eventMgrCalls) (G := Resubscribes) (P := fun m => m.events 26 = [(.static, 7)])
    (by decide +kernel)
  exact ⟨history, m, of_decide_eq_true hqueue, eventMgrCalls_lawful_iff hr⟩

/-- The second of two equal unsubscriptions does not end. -/
theorem eventMgrCalls_unsubscribedTwice : ∃ history m, eventMgrCalls.Run Resubscribes history m ∧
    ¬Lawful history m := by
  obtain ⟨history, m, hr, htaken⟩ := System.exists_run_of_exec
    [.subscribeSig 26 (some 1) 3 true, .unsubscribeSig 26 (some 1) 3, .unsubscribeSig 26 (some 1) 3]
    (S := eventMgrCalls) (G := Resubscribes) (P := EventMgr.mutexTaken) (by decide +kernel)
  refine ⟨history, m, hr, ?_⟩
  intro hlawful
  rw [hlawful.mutexFree] at htaken
  cases htaken

end Runs

end RuuviGateway.Events
