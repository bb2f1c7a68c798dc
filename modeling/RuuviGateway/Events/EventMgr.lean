import RuuviGateway.General.IntrusiveList
import RuuviGateway.General.Ledger

/-!
# The queues of subscribers

Each event has a queue of entries, in memory that is allocated or that the subscriber gives. An
entry is searched under the mutex. What is not found is not removed, but its fields are reset
through NULL then, and the mutex stays taken. -/

namespace RuuviGateway.Events

open General

abbrev eventMgrEvNone : ℕ := 0

abbrev eventMgrEvLast : ℕ := 27

abbrev osSignalNumNone : ℕ := 0

inductive EvInfoMem
  | heap
  | static
  deriving DecidableEq, Repr

/-- A pointer to an entry: an allocation, or the memory of a subscriber. -/
abbrev EvInfoPtr : Type := EvInfoMem × ℕ

structure EvInfo where
  pSignal : Option ℕ
  sigNum : ℕ
  isStatic : Bool
  deriving DecidableEq

structure EventMgr where
  events : ℕ → List EvInfoPtr
  evInfo : EvInfoPtr → EvInfo
  ledger : Ledger EvInfoMem
  mutexTaken : Bool

def eventMgrInit : EventMgr := ⟨fun _ => [], fun _ => ⟨none, osSignalNumNone, false⟩, .empty, false⟩

inductive CallResult
  | subscribed (success : Bool)
  | unsubscribed
  /-- The signals that were sent. -/
  | notified (sent : List (Option ℕ × ℕ))
  /-- A write through NULL. -/
  | fault
  deriving DecidableEq

def EventInRange (event : ℕ) : Prop := eventMgrEvNone < event ∧ event < eventMgrEvLast

instance (event : ℕ) : Decidable (EventInRange event) := inferInstanceAs (Decidable (_ ∧ _))

namespace EventMgr

variable (m : EventMgr)

def lock : EventMgr := { m with mutexTaken := true }

def unlock : EventMgr := { m with mutexTaken := false }

def setInfo (p : EvInfoPtr) (info : EvInfo) : EventMgr :=
  { m with evInfo := Function.update m.evInfo p info }

def setQueue (event : ℕ) (queue : List EvInfoPtr) : EventMgr :=
  { m with events := Function.update m.events event queue }

def insertTail (event : ℕ) (p : EvInfoPtr) : EventMgr := m.setQueue event (m.events event ++ [p])

def remove (event : ℕ) (p : EvInfoPtr) : EventMgr := m.setQueue event ((m.events event).erase p)

def free (p : EvInfoPtr) : EventMgr := { m with ledger := m.ledger.release p.1 (some p.2) }

def resetInfo (p : EvInfoPtr) : EventMgr :=
  m.setInfo p { m.evInfo p with pSignal := none, sigNum := osSignalNumNone }

section Api

variable {m} {event event' : ℕ} {p q : EvInfoPtr} {info : EvInfo} {queue : List EvInfoPtr}

@[simp] theorem setInfo_events : (m.setInfo p info).events = m.events := rfl

@[simp] theorem setInfo_evInfo : (m.setInfo p info).evInfo p = info := Function.update_self ..

theorem setInfo_evInfo_of_ne (h : q ≠ p) : (m.setInfo p info).evInfo q = m.evInfo q :=
  Function.update_of_ne h ..

@[simp] theorem setQueue_evInfo : (m.setQueue event queue).evInfo = m.evInfo := rfl

@[simp] theorem setQueue_events : (m.setQueue event queue).events event = queue :=
  Function.update_self ..

theorem setQueue_events_of_ne (h : event' ≠ event) :
    (m.setQueue event queue).events event' = m.events event' := Function.update_of_ne h ..

end Api

end EventMgr

section Subscribe

/-- Without memory there is no entry. -/
def eventMgrCreateEvInfoSig (pSignal : Option ℕ) (sigNum : ℕ) (allocated : Bool) (m : EventMgr) :
    Option EvInfoPtr × EventMgr :=
  let r := m.ledger.obtain .heap allocated
  match r.1 with
  | none => (none, m)
  | some n =>
    (some (.heap, n), { m with ledger := r.2 }.setInfo (.heap, n) ⟨pSignal, sigNum, false⟩)

/-- A call that fails its assertion has no result. -/
def eventMgrSubscribeSig (event : ℕ) (pSignal : Option ℕ) (sigNum : ℕ) (allocated : Bool)
    (m : EventMgr) : Option (EventMgr × CallResult) :=
  if EventInRange event then
    let r := eventMgrCreateEvInfoSig pSignal sigNum allocated m
    match r.1 with
    | none => some (r.2, .subscribed false)
    | some p => some ((r.2.lock.insertTail event p).unlock, .subscribed true)
  else none

def eventMgrSubscribeSigStatic (evInfoMem event : ℕ) (pSignal : Option ℕ) (sigNum : ℕ)
    (m : EventMgr) : Option (EventMgr × CallResult) :=
  if EventInRange event then
    let m := m.setInfo (.static, evInfoMem) ⟨pSignal, sigNum, true⟩
    some ((m.lock.insertTail event (.static, evInfoMem)).unlock, .subscribed true)
  else none

end Subscribe

section Unsubscribe

/-- The functions that unsubscribe, which differ in what they search and in what they do with the
entry in the end. -/
def eventMgrUnsubscribe (event : ℕ) (found : EvInfoPtr → EvInfo → Bool)
    (release : EvInfoPtr → EventMgr → EventMgr) (m : EventMgr) : Option (EventMgr × CallResult) :=
  if EventInRange event then
    let m := m.lock
    match (m.events event).find? fun p => found p (m.evInfo p) with
    | none => some (m, .fault)
    | some p => some ((release p ((m.remove event p).resetInfo p)).unlock, .unsubscribed)
  else none

def eventMgrUnsubscribeSig (event : ℕ) (pSignal : Option ℕ) (sigNum : ℕ) :
    EventMgr → Option (EventMgr × CallResult) :=
  eventMgrUnsubscribe event (fun _ info => info.pSignal = pSignal ∧ info.sigNum = sigNum)
    fun p m => if (m.evInfo p).isStatic then m else m.free p

def eventMgrUnsubscribeSigStatic (evInfoMem event : ℕ) :
    EventMgr → Option (EventMgr × CallResult) :=
  eventMgrUnsubscribe event (fun p _ => p = (.static, evInfoMem)) fun _ m => m

end Unsubscribe

section Notify

def EventMgr.signal (m : EventMgr) (p : EvInfoPtr) : Option ℕ × ℕ :=
  ((m.evInfo p).pSignal, (m.evInfo p).sigNum)

def eventMgrNotify (event : ℕ) (m : EventMgr) : EventMgr × CallResult :=
  if event ≤ eventMgrEvNone ∨ eventMgrEvLast ≤ event then (m, .notified [])
  else (m.lock.unlock, .notified ((m.events event).map m.signal))

end Notify

section Entries

variable {m : EventMgr} {event : ℕ} {p : EvInfoPtr}

/-- The entries in all queues. -/
def EventMgr.entries (m : EventMgr) : List EvInfoPtr :=
  IntrusiveList.members (List.range eventMgrEvLast) m.events

/-- The entries that were allocated. -/
def EventMgr.heapEntries (m : EventMgr) : List EvInfoPtr := m.entries.filter fun p => p.1 = .heap

theorem EventInRange.mem_range (h : EventInRange event) : event ∈ List.range eventMgrEvLast :=
  List.mem_range.mpr h.2

theorem EventInRange.mem_entries (h : EventInRange event) (hp : p ∈ m.events event) :
    p ∈ m.entries :=
  IntrusiveList.mem_members.mpr ⟨event, h.mem_range, hp⟩

theorem mem_heapEntries : p ∈ m.heapEntries ↔ p ∈ m.entries ∧ p.1 = .heap := by
  rw [EventMgr.heapEntries, List.mem_filter, decide_eq_true_iff]

theorem entries_insertTail (h : EventInRange event) (p : EvInfoPtr) :
    (m.insertTail event p).entries.Perm (p :: m.entries) := by
  have hqueue : (m.events event ++ [p]).Perm ([p] ++ m.events event) := List.perm_append_comm
  exact IntrusiveList.members_update_perm List.nodup_range h.mem_range hqueue

theorem entries_remove (h : EventInRange event) (hp : p ∈ m.events event) :
    m.entries.Perm (p :: (m.remove event p).entries) := by
  have hqueue : (m.events event).Perm ([p] ++ (m.events event).erase p) := List.perm_cons_erase hp
  exact IntrusiveList.perm_members_update List.nodup_range h.mem_range hqueue

end Entries

end RuuviGateway.Events
