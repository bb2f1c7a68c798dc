import RuuviGateway.AdvPost.NetworkFlag
import RuuviGateway.General.Signals

/-!
# What the tasks know about the network

The drivers of the two interfaces set the bits of the gateway's status and notify events. The
posting task keeps one flag for both interfaces, and the time task starts and stops SNTP. When the
use of NTP changes, SNTP is stopped and the main task is asked to reconnect the network, which is
expected to start it again. -/

namespace RuuviGateway.Network

open General

section Signals

inductive AdvPostSig
  | networkDisconnected
  | networkConnected
  deriving DecidableEq, Repr

def AdvPostSig.num : AdvPostSig → ℕ
  | .networkDisconnected => 1
  | .networkConnected => 2

def AdvPostSig.connects : AdvPostSig → Bool
  | .networkDisconnected => false
  | .networkConnected => true

inductive TimeTaskSig
  | wifiConnected
  | wifiDisconnected
  | ethConnected
  | ethDisconnected
  | gwCfgChangedRuuvi
  deriving DecidableEq, Repr

def TimeTaskSig.num : TimeTaskSig → ℕ
  | .wifiConnected => 0
  | .wifiDisconnected => 1
  | .ethConnected => 2
  | .ethDisconnected => 3
  | .gwCfgChangedRuuvi => 4

/-- What a signal says about the network. -/
def TimeTaskSig.connects : TimeTaskSig → Option Bool
  | .wifiConnected | .ethConnected => some true
  | .wifiDisconnected | .ethDisconnected => some false
  | .gwCfgChangedRuuvi => none

/-- The events that both tasks have subscribed to. -/
inductive NetworkEvent
  | wifiConnected
  | wifiDisconnected
  | ethConnected
  | ethDisconnected
  deriving DecidableEq, Repr

def NetworkEvent.advPostSig : NetworkEvent → AdvPostSig
  | .wifiConnected | .ethConnected => .networkConnected
  | .wifiDisconnected | .ethDisconnected => .networkDisconnected

def NetworkEvent.timeTaskSig : NetworkEvent → TimeTaskSig
  | .wifiConnected => .wifiConnected
  | .wifiDisconnected => .wifiDisconnected
  | .ethConnected => .ethConnected
  | .ethDisconnected => .ethDisconnected

end Signals

section Model

structure NtpCfg where
  ntpUse : Bool
  ntpUseDhcp : Bool
  deriving DecidableEq, Repr

/-- The callbacks of the drivers. That the link is down is also found out at the start. -/
inductive Callback
  | wifiConnectionOk
  | wifiDisconnect
  | ethernetConnectionOk
  | ethernetLinkDown
  | ethernetEventStop
  deriving DecidableEq, Repr

structure Networking where
  /-- The bits of `gw_status`. -/
  wifiConnected : Bool
  ethConnected : Bool
  ntp : NtpCfg
  advPost : Mailbox AdvPostSig.num
  flagNetworkConnected : Bool
  timeTask : Mailbox TimeTaskSig.num
  timeTaskNtp : NtpCfg
  sntpRunning : Bool
  /-- `MAIN_TASK_SIG_RECONNECT_NETWORK` is pending. -/
  reconnectPending : Bool
  /-- The callbacks that are sure to follow from what was done to the interfaces. -/
  owed : List Callback

/-- The tasks have been started, and no interface is connected yet. -/
def Networking.initial (ntp : NtpCfg) : Networking where
  wifiConnected := false
  ethConnected := false
  ntp := ntp
  advPost := .empty
  flagNetworkConnected := false
  timeTask := .empty
  timeTaskNtp := ntp
  sntpRunning := false
  reconnectPending := false
  owed := []

inductive NetworkLabel
  | callback (c : Callback)
  | owedCallback
  | onDisconnectStaCmd
  /-- `esp_eth_stop` succeeds or fails. -/
  | ethernetStop (stopped : Bool)
  | setNtp (ntp : NtpCfg)
  | advPostTake
  | advPostHandle
  | timeTaskTake
  | timeTaskHandle
  | mainReconnect (gwCfgEthUseEth staActive stopped : Bool)
  deriving DecidableEq

namespace Networking

variable (s : Networking)

/-- `gw_status_is_network_connected`. -/
def isNetworkConnected : Bool := s.wifiConnected || s.ethConnected

/-- `event_mgr_notify`. -/
def notify (ev : NetworkEvent) : Networking :=
  { s with advPost := s.advPost.send ev.advPostSig, timeTask := s.timeTask.send ev.timeTaskSig }

def callback : Callback → Networking
  | .wifiConnectionOk => { s with wifiConnected := true }.notify .wifiConnected
  | .wifiDisconnect => { s with wifiConnected := false }.notify .wifiDisconnected
  | .ethernetConnectionOk => { s with ethConnected := true }.notify .ethConnected
  | .ethernetLinkDown => { s with ethConnected := false }.notify .ethDisconnected
  | .ethernetEventStop => s.notify .ethDisconnected

def owedCallback : Option Networking :=
  match s.owed with
  | [] => none
  | c :: owed => some ({ s with owed := owed }.callback c)

def onDisconnectStaCmd : Networking := { s with wifiConnected := false }

/-- A driver that is stopped posts an event. -/
def ethernetStop (stopped : Bool) : Networking :=
  { s with
    ethConnected := false
    owed := if stopped then s.owed ++ [.ethernetEventStop] else s.owed }

/-- `gw_cfg_update` with another configuration. -/
def setNtp (ntp : NtpCfg) : Networking :=
  { s with ntp := ntp, timeTask := s.timeTask.send .gwCfgChangedRuuvi }

def advPostHandleSig (sig : AdvPostSig) : Networking :=
  match sig with
  | .networkDisconnected => { s with flagNetworkConnected := false }
  | .networkConnected => { s with flagNetworkConnected := true }

def timeTaskSntpStart : Networking := { s with sntpRunning := true }

def timeTaskSntpStop : Networking := { s with sntpRunning := false }

/-- `time_task_configure_ntp_sources` reads the stored configuration. -/
def timeTaskOnCfgChanged : Networking :=
  let prev := s.timeTaskNtp
  let s := { s.timeTaskSntpStop with timeTaskNtp := s.ntp }
  if prev.ntpUse ≠ s.timeTaskNtp.ntpUse ∨ prev.ntpUseDhcp ≠ s.timeTaskNtp.ntpUseDhcp then
    { s with reconnectPending := true }
  else if s.timeTaskNtp.ntpUse then s.timeTaskSntpStart
  else s

def timeTaskHandleSig (sig : TimeTaskSig) : Networking :=
  match sig with
  | .wifiConnected | .ethConnected => if s.timeTaskNtp.ntpUse then s.timeTaskSntpStart else s
  | .wifiDisconnected | .ethDisconnected => s.timeTaskSntpStop
  | .gwCfgChangedRuuvi => s.timeTaskOnCfgChanged

/-- `main_task_handle_sig_network_reconnect`. An active interface will be disconnected and connected
again. -/
def mainReconnect (gwCfgEthUseEth staActive stopped : Bool) : Networking :=
  let s := { s with reconnectPending := false }
  if gwCfgEthUseEth then
    let started := s.ethernetStop stopped
    { started with
      owed := if s.ethConnected then started.owed ++ [.ethernetConnectionOk] else started.owed }
  else if staActive then { s with owed := s.owed ++ [.wifiDisconnect, .wifiConnectionOk] }
  else s

def next : NetworkLabel → Option Networking
  | .callback c => some (s.callback c)
  | .owedCallback => s.owedCallback
  | .onDisconnectStaCmd => some s.onDisconnectStaCmd
  | .ethernetStop stopped => some (s.ethernetStop stopped)
  | .setNtp ntp => some (s.setNtp ntp)
  | .advPostTake => s.advPost.take.map fun m => { s with advPost := m }
  | .advPostHandle => s.advPost.next.map fun r => { s with advPost := r.2 }.advPostHandleSig r.1
  | .timeTaskTake => s.timeTask.take.map fun m => { s with timeTask := m }
  | .timeTaskHandle =>
      s.timeTask.next.map fun r => { s with timeTask := r.2 }.timeTaskHandleSig r.1
  | .mainReconnect gwCfgEthUseEth staActive stopped =>
      if s.reconnectPending then some (s.mainReconnect gwCfgEthUseEth staActive stopped) else none

end Networking

/-- The signal among all those of the posting task. -/
def AdvPostSig.sig : AdvPostSig → AdvPost.Sig
  | .networkDisconnected => .networkDisconnected
  | .networkConnected => .networkConnected

/-- The flag is the one of the whole posting task. -/
theorem advPostHandleSig_networkFlag {s : Networking} {w : AdvPost.World}
    (h : w.networkFlag = s.flagNetworkConnected) (env : AdvPost.Env) (sig : AdvPost.Sig) :
    (∀ sig', sig = AdvPostSig.sig sig' → (AdvPost.advPostHandleSig sig w env).networkFlag =
      (s.advPostHandleSig sig').flagNetworkConnected) ∧
    ((∀ sig', sig ≠ AdvPostSig.sig sig') →
      (AdvPost.advPostHandleSig sig w env).networkFlag = s.flagNetworkConnected) := by
  rw [AdvPost.networkFlag_handleSig]
  constructor
  · rintro sig' rfl
    cases sig' <;> rfl
  · intro hother
    cases sig with
    | networkDisconnected => exact absurd rfl (hother .networkDisconnected)
    | networkConnected => exact absurd rfl (hother .networkConnected)
    | _ => exact h

/-- The drivers, the user and the tasks take their steps in any order. -/
def network (ntp : NtpCfg) : System Networking NetworkLabel Unit where
  init := .initial ntp
  step s label := (s.next label).map fun s' => (s', ())

/-- No signal and no callback is pending. -/
structure Networking.Settled (s : Networking) : Prop where
  advPost : s.advPost.Idle
  timeTask : s.timeTask.Idle
  mainTask : s.reconnectPending = false
  owed : s.owed = []

/-- The tasks know whether the network is connected. -/
structure Networking.Known (s : Networking) : Prop where
  advPost : s.flagNetworkConnected = s.isNetworkConnected
  timeTask : s.sntpRunning = (s.ntp.ntpUse && s.isNetworkConnected)

/-- The last signal that is pending, in the order of the numbers, says whether an interface is
connected. -/
structure Networking.LastPendingHolds (s : Networking) : Prop where
  advPost : ∀ sig ∈ s.advPost.pending.getLast?, sig.connects = s.isNetworkConnected
  timeTask : s.ntp.ntpUse = true →
    ∀ sig ∈ s.timeTask.pending.getLast?, ∀ b ∈ sig.connects, b = s.isNetworkConnected

/-- While no other callback is to follow:
the signal of a callback is not pending together with one that has a higher number and says the
opposite of what holds,
a disconnection that is not notified leaves another interface connected,
SNTP is not started by a changed configuration while the network is disconnected,
and a requested reconnection finds an active interface if SNTP has to be started. -/
def NetworkLabel.Keeps (s : Networking) : NetworkLabel → Prop
  | .callback c => s.owed = [] → (s.callback c).LastPendingHolds
  | .owedCallback => ∀ s' ∈ s.owedCallback, s'.owed = [] → s'.LastPendingHolds
  | .onDisconnectStaCmd => s.owed = [] → s.wifiConnected = true → s.ethConnected = true
  | .ethernetStop stopped =>
      (s.ethernetStop stopped).owed = [] → s.ethConnected = true → s.wifiConnected = true
  | .timeTaskHandle =>
      s.owed = [] → s.timeTask.pending = [] → s.timeTask.taken = [.gwCfgChangedRuuvi] →
        s.timeTaskNtp = s.ntp → s.ntp.ntpUse = true → s.isNetworkConnected = true
  | .mainReconnect gwCfgEthUseEth staActive stopped =>
      (s.mainReconnect gwCfgEthUseEth staActive stopped).owed = [] → s.timeTask.Idle →
        s.sntpRunning = false → ¬(s.ntp.ntpUse = true ∧ s.isNetworkConnected = true)
  | .setNtp _ => True
  | .advPostTake => True
  | .advPostHandle => True
  | .timeTaskTake => True

end Model

section Invariant

variable {s s' : Networking}

theorem timeTaskSig_num_injective : Function.Injective TimeTaskSig.num := by
  intro a b h
  cases a <;> cases b <;> first | rfl | cases h

/-- The flag of the posting task after all its signals. -/
def Networking.AdvPostHolds (s : Networking) : Prop :=
  (s.advPost.taken ++ s.advPost.pending).foldl (fun _ sig => sig.connects)
    s.flagNetworkConnected = s.isNetworkConnected

/-- What a signal about the network does with SNTP. -/
def sntpAfter (ntpUse : Bool) (sntpRunning : Bool) (sig : TimeTaskSig) : Bool :=
  match sig.connects with
  | some true => ntpUse || sntpRunning
  | some false => false
  | none => sntpRunning

/-- With what the time task has taken and without anything pending, SNTP is as it should be, unless
the task has yet to read the configuration or the network is to be reconnected. -/
def Networking.TakenHolds (s : Networking) : Prop :=
  .gwCfgChangedRuuvi ∈ s.timeTask.taken ∨
  (s.reconnectPending = true ∧ s.timeTask.taken = [] ∧ s.sntpRunning = false) ∨
  s.timeTask.taken.foldl (sntpAfter s.timeTaskNtp.ntpUse) s.sntpRunning =
    (s.ntp.ntpUse && s.isNetworkConnected)

/-- What is pending for the time task will bring SNTP into its state, or already has. -/
def Networking.TimeTaskHolds (s : Networking) : Prop :=
  .gwCfgChangedRuuvi ∈ s.timeTask.pending ∨
  (s.timeTask.pending ≠ [] ∧ (s.ntp.ntpUse = true →
    ∀ sig ∈ s.timeTask.pending.getLast?, ∀ b ∈ sig.connects, b = s.isNetworkConnected)) ∨
  (s.timeTask.pending = [] ∧ s.TakenHolds)

/-- The time task has the stored configuration unless it is to read it, and runs SNTP only if NTP is
in use. -/
structure Networking.Configured (s : Networking) : Prop where
  ntp : .gwCfgChangedRuuvi ∉ s.timeTask.pending → .gwCfgChangedRuuvi ∉ s.timeTask.taken →
    s.timeTaskNtp = s.ntp
  running : s.sntpRunning = true → s.timeTaskNtp.ntpUse = true

/-- The invariant of the runs that keep the condition. -/
structure Networking.Tracked (s : Networking) : Prop extends s.Configured where
  holds : s.owed = [] → s.AdvPostHolds ∧ s.TimeTaskHolds

/-- A callback sets the bits of the status and sends a signal to each of the tasks. -/
theorem callback_eq (s : Networking) (c : Callback) : ∃ wifi eth ev,
    s.callback c = { s with wifiConnected := wifi, ethConnected := eth }.notify ev := by
  cases c with
  | wifiConnectionOk => exact ⟨_, _, _, rfl⟩
  | wifiDisconnect => exact ⟨_, _, _, rfl⟩
  | ethernetConnectionOk => exact ⟨_, _, _, rfl⟩
  | ethernetLinkDown => exact ⟨_, _, _, rfl⟩
  | ethernetEventStop => exact ⟨_, _, .ethDisconnected, rfl⟩

/-- The last signal decides, and it is one of those that are pending. -/
theorem advPostHolds_of_lastPending (hpending : s.advPost.pending ≠ [])
    (hlast : ∀ sig ∈ s.advPost.pending.getLast?, sig.connects = s.isNetworkConnected) :
    s.AdvPostHolds := by
  have hlist := List.getLast?_append_of_ne_nil s.advPost.taken hpending
  rw [Networking.AdvPostHolds, foldl_eq_of_getLast (g := AdvPostSig.connects) (fun _ _ _ => rfl),
    hlist, List.getLast?_eq_some_getLast hpending]
  exact hlast _ (List.getLast?_eq_some_getLast hpending)

/-- Whatever was to be expected before, the signals of a callback say what holds. -/
theorem Networking.Configured.callback (hs : s.Configured) {c : Callback}
    (hkeeps : (s.callback c).owed = [] → (s.callback c).LastPendingHolds) :
    (s.callback c).Tracked := by
  obtain ⟨wifi, eth, ev, hcallback⟩ := callback_eq s c
  rw [hcallback] at hkeeps ⊢
  refine ⟨⟨fun hpending htaken => ?_, hs.running⟩, fun howed => ?_⟩
  · exact hs.ntp (fun hmem => hpending (mem_insertSignal_of_mem hmem)) htaken
  · have hlast := hkeeps howed
    exact ⟨advPostHolds_of_lastPending (insertSignal_ne_nil _ _) hlast.advPost,
      .inr (.inl ⟨insertSignal_ne_nil _ _, hlast.timeTask⟩)⟩

theorem Networking.Configured.owedCallback (hs : s.Configured)
    (hkeeps : ∀ s' ∈ s.owedCallback, s'.owed = [] → s'.LastPendingHolds)
    (h : s.owedCallback = some s') : s'.Tracked := by
  have hlast := hkeeps s' h
  unfold Networking.owedCallback at h
  split at h
  case h_1 => cases h
  case h_2 c owed howed =>
    obtain rfl := Option.some.inj h
    have hrest : ({ s with owed := owed } : Networking).Configured := ⟨hs.ntp, hs.running⟩
    exact hrest.callback hlast

/-- The bits matter only as far as an interface is connected. -/
theorem holds_of_bits (h : s.AdvPostHolds ∧ s.TimeTaskHolds) {wifi eth : Bool}
    (hnet : (wifi || eth) = s.isNetworkConnected) :
    ({ s with wifiConnected := wifi, ethConnected := eth } : Networking).AdvPostHolds ∧
      ({ s with wifiConnected := wifi, ethConnected := eth } : Networking).TimeTaskHolds := by
  have hsame : ({ s with wifiConnected := wifi, ethConnected := eth } :
    Networking).isNetworkConnected = s.isNetworkConnected := hnet
  unfold Networking.AdvPostHolds Networking.TimeTaskHolds Networking.TakenHolds at *
  rw [hsame]
  exact h

theorem Networking.Tracked.onDisconnectStaCmd (hs : s.Tracked)
    (hkeeps : s.owed = [] → s.wifiConnected = true → s.ethConnected = true) :
    s.onDisconnectStaCmd.Tracked := by
  refine ⟨⟨hs.ntp, hs.running⟩, fun howed => holds_of_bits (hs.holds howed) ?_⟩
  have heth := hkeeps howed
  unfold Networking.isNetworkConnected
  cases hwifi : s.wifiConnected with
  | false => rfl
  | true => rw [heth hwifi]; rfl

theorem Networking.Tracked.ethernetStop (hs : s.Tracked) {stopped : Bool}
    (hkeeps : (s.ethernetStop stopped).owed = [] → s.ethConnected = true →
      s.wifiConnected = true) :
    (s.ethernetStop stopped).Tracked := by
  refine ⟨⟨hs.ntp, hs.running⟩, fun howed => ?_⟩
  have hwifi := hkeeps howed
  have howed' : s.owed = [] := by
    unfold Networking.ethernetStop at howed
    dsimp only at howed
    split_ifs at howed
    · exact (List.append_eq_nil_iff.mp howed).1
    · exact howed
  have hnet : (s.wifiConnected || false) = s.isNetworkConnected := by
    unfold Networking.isNetworkConnected
    cases heth : s.ethConnected with
    | false => rfl
    | true => rw [hwifi heth]; rfl
  exact holds_of_bits (hs.holds howed') hnet

theorem Networking.Tracked.setNtp (hs : s.Tracked) (ntp : NtpCfg) : (s.setNtp ntp).Tracked := by
  have hmem : .gwCfgChangedRuuvi ∈ (s.setNtp ntp).timeTask.pending :=
    mem_insertSignal_self timeTaskSig_num_injective _ _
  exact ⟨⟨fun hpending => absurd hmem hpending, hs.running⟩,
    fun howed => ⟨(hs.holds howed).1, .inl hmem⟩⟩

theorem Networking.Tracked.advPostTake (hs : s.Tracked) {m : Mailbox AdvPostSig.num}
    (h : s.advPost.take = some m) : ({ s with advPost := m } : Networking).Tracked := by
  obtain ⟨htaken, hpending, hnew⟩ := Mailbox.take_spec h
  refine ⟨⟨hs.ntp, hs.running⟩, fun howed => ⟨?_, (hs.holds howed).2⟩⟩
  have hadv := (hs.holds howed).1
  unfold Networking.AdvPostHolds at hadv ⊢
  dsimp only
  rwa [hpending, hnew, List.append_nil, ← List.nil_append s.advPost.pending, ← htaken]

theorem Networking.Tracked.advPostHandle (hs : s.Tracked) {sig : AdvPostSig}
    {m : Mailbox AdvPostSig.num} (h : s.advPost.next = some (sig, m)) :
    (({ s with advPost := m } : Networking).advPostHandleSig sig).Tracked := by
  obtain ⟨htaken, hpending⟩ := Mailbox.next_spec h
  have hflag : ({ s with advPost := m } : Networking).advPostHandleSig sig =
      { s with advPost := m, flagNetworkConnected := sig.connects } := by
    cases sig <;> rfl
  rw [hflag]
  refine ⟨⟨hs.ntp, hs.running⟩, fun howed => ⟨?_, (hs.holds howed).2⟩⟩
  have hadv := (hs.holds howed).1
  unfold Networking.AdvPostHolds at hadv ⊢
  rw [htaken] at hadv
  dsimp only
  rw [hpending]
  exact hadv

/-- Without NTP nothing starts SNTP. -/
theorem foldl_sntpAfter_off (sigs : List TimeTaskSig) :
    sigs.foldl (sntpAfter false) false = false := by
  induction sigs with
  | nil => rfl
  | cons sig sigs ih =>
    have hoff : sntpAfter false false sig = false := by cases sig <;> rfl
    rw [List.foldl_cons, hoff, ih]

/-- With NTP the last signal decides. -/
theorem foldl_sntpAfter_on {sigs : List TimeTaskSig} (hcfg : .gwCfgChangedRuuvi ∉ sigs)
    (hne : sigs ≠ []) {b : Bool}
    (hlast : ∀ sig ∈ sigs.getLast?, ∀ b' ∈ sig.connects, b' = b) (x : Bool) :
    sigs.foldl (sntpAfter true) x = b := by
  have hset : ∀ sig ∈ sigs, ∀ x, sntpAfter true x sig = sig.connects.getD false := by
    intro sig hmem x
    cases sig with
    | gwCfgChangedRuuvi => exact absurd hmem hcfg
    | wifiConnected => rfl
    | wifiDisconnected => rfl
    | ethConnected => rfl
    | ethDisconnected => rfl
  have hget := List.getLast?_eq_some_getLast hne
  rw [foldl_eq_of_getLast hset, hget]
  have hb := hlast _ hget
  cases hsig : sigs.getLast hne with
  | gwCfgChangedRuuvi => exact absurd (hsig ▸ List.getLast_mem hne) hcfg
  | wifiConnected => exact hb true (by rw [hsig]; rfl)
  | wifiDisconnected => exact hb false (by rw [hsig]; rfl)
  | ethConnected => exact hb true (by rw [hsig]; rfl)
  | ethDisconnected => exact hb false (by rw [hsig]; rfl)

theorem Networking.Tracked.timeTaskTake (hs : s.Tracked) {m : Mailbox TimeTaskSig.num}
    (h : s.timeTask.take = some m) : ({ s with timeTask := m } : Networking).Tracked := by
  obtain ⟨htaken, hpending, hnew⟩ := Mailbox.take_spec h
  have hntp : .gwCfgChangedRuuvi ∉ s.timeTask.pending → s.timeTaskNtp = s.ntp := by
    intro hcfg
    refine hs.ntp hcfg ?_
    rw [htaken]
    exact List.not_mem_nil
  refine ⟨⟨fun _ hcfg => hntp (hnew ▸ hcfg), hs.running⟩, fun howed => ⟨(hs.holds howed).1, ?_⟩⟩
  refine .inr (.inr ⟨hpending, ?_⟩)
  unfold Networking.TakenHolds
  dsimp only
  rw [hnew]
  rcases (hs.holds howed).2 with hcfg | ⟨hne, hlast⟩ | ⟨hnil, hold⟩
  · exact .inl hcfg
  · by_cases hcfg : .gwCfgChangedRuuvi ∈ s.timeTask.pending
    · exact .inl hcfg
    · refine .inr (.inr ?_)
      rw [hntp hcfg]
      cases huse : s.ntp.ntpUse with
      | true => exact foldl_sntpAfter_on hcfg hne (hlast huse) _
      | false =>
        have hoff : s.sntpRunning = false := by
          rw [← Bool.not_eq_true]
          intro hrunning
          have hon := hs.running hrunning
          rw [hntp hcfg, huse] at hon
          cases hon
        rw [hoff, foldl_sntpAfter_off]
        rfl
  · rw [Networking.TakenHolds, htaken] at hold
    rw [hnil]
    exact hold

theorem timeTaskHandleSig_network {sig : TimeTaskSig} (hsig : sig ≠ .gwCfgChangedRuuvi) :
    s.timeTaskHandleSig sig =
      { s with sntpRunning := sntpAfter s.timeTaskNtp.ntpUse s.sntpRunning sig } := by
  have hconnected : (if s.timeTaskNtp.ntpUse then s.timeTaskSntpStart else s) =
      { s with sntpRunning := s.timeTaskNtp.ntpUse || s.sntpRunning } := by
    cases s.timeTaskNtp.ntpUse <;> rfl
  cases sig with
  | gwCfgChangedRuuvi => exact absurd rfl hsig
  | wifiConnected => exact hconnected
  | wifiDisconnected => rfl
  | ethConnected => exact hconnected
  | ethDisconnected => rfl

theorem timeTaskOnCfgChanged_cases (s : Networking) :
    s.timeTaskOnCfgChanged =
      { s with sntpRunning := false, timeTaskNtp := s.ntp, reconnectPending := true } ∨
    (s.timeTaskNtp = s.ntp ∧ s.timeTaskOnCfgChanged = { s with sntpRunning := s.ntp.ntpUse }) := by
  by_cases hchanged : s.timeTaskNtp.ntpUse ≠ s.ntp.ntpUse ∨
      s.timeTaskNtp.ntpUseDhcp ≠ s.ntp.ntpUseDhcp
  · exact .inl (if_pos hchanged)
  · rw [not_or, not_not, not_not] at hchanged
    have hsame : s.timeTaskNtp = s.ntp := by
      obtain ⟨use, dhcp⟩ := hchanged
      cases hprev : s.timeTaskNtp
      cases hnew : s.ntp
      rw [hprev, hnew] at use dhcp
      exact congrArg₂ NtpCfg.mk use dhcp
    refine .inr ⟨hsame, ?_⟩
    unfold Networking.timeTaskOnCfgChanged
    dsimp only [Networking.timeTaskSntpStop, Networking.timeTaskSntpStart]
    rw [hsame, if_neg (fun h => h.elim (fun h => h rfl) fun h => h rfl)]
    cases s.ntp.ntpUse <;> rfl

/-- The number of the signal is the highest one. -/
theorem taken_gwCfgChangedRuuvi {sigs : List TimeTaskSig}
    (htaken : s.timeTask.taken = .gwCfgChangedRuuvi :: sigs) : sigs = [] := by
  have hascending := s.timeTask.takenAscending
  rw [htaken, List.pairwise_cons] at hascending
  refine List.eq_nil_iff_forall_not_mem.mpr fun sig hsig => ?_
  have hlt := hascending.1 sig hsig
  cases sig with
  | wifiConnected => exact absurd hlt (by decide)
  | wifiDisconnected => exact absurd hlt (by decide)
  | ethConnected => exact absurd hlt (by decide)
  | ethDisconnected => exact absurd hlt (by decide)
  | gwCfgChangedRuuvi => exact absurd hlt (by decide)

theorem Networking.Tracked.timeTaskHandle_network (hs : s.Tracked) {sig : TimeTaskSig}
    {m : Mailbox TimeTaskSig.num} (h : s.timeTask.next = some (sig, m))
    (hsig : sig ≠ .gwCfgChangedRuuvi) :
    (({ s with timeTask := m } : Networking).timeTaskHandleSig sig).Tracked := by
  obtain ⟨htaken, hpending⟩ := Mailbox.next_spec h
  rw [timeTaskHandleSig_network hsig]
  refine ⟨⟨fun hcfg hcfg' => ?_, fun hrunning => ?_⟩, fun howed => ⟨(hs.holds howed).1, ?_⟩⟩
  · refine hs.ntp (hpending ▸ hcfg) ?_
    rw [htaken, List.mem_cons, not_or]
    exact ⟨hsig.symm, hcfg'⟩
  · -- only a connection starts SNTP
    rcases Bool.eq_false_or_eq_true s.timeTaskNtp.ntpUse with huse | huse
    · exact huse
    · refine hs.running ?_
      dsimp only at hrunning
      rw [huse] at hrunning
      cases sig with
      | gwCfgChangedRuuvi => exact hrunning
      | wifiConnected => exact hrunning
      | wifiDisconnected => cases hrunning
      | ethConnected => exact hrunning
      | ethDisconnected => cases hrunning
  · unfold Networking.TimeTaskHolds Networking.TakenHolds
    dsimp only
    rw [hpending]
    refine (hs.holds howed).2.imp id (Or.imp id (And.imp id fun hold => ?_))
    unfold Networking.TakenHolds at hold
    rw [htaken] at hold
    rcases hold with hcfg | ⟨-, hnil, -⟩ | hfold
    · exact .inl ((List.mem_cons.mp hcfg).resolve_left hsig.symm)
    · cases hnil
    · exact .inr (.inr hfold)

theorem Networking.Tracked.timeTaskHandle_gwCfgChangedRuuvi (hs : s.Tracked)
    {m : Mailbox TimeTaskSig.num} (h : s.timeTask.next = some (.gwCfgChangedRuuvi, m))
    (hkeeps : s.owed = [] → s.timeTask.pending = [] → s.timeTask.taken = [.gwCfgChangedRuuvi] →
      s.timeTaskNtp = s.ntp → s.ntp.ntpUse = true → s.isNetworkConnected = true) :
    (({ s with timeTask := m } : Networking).timeTaskHandleSig .gwCfgChangedRuuvi).Tracked := by
  obtain ⟨htaken, hpending⟩ := Mailbox.next_spec h
  have hnil := taken_gwCfgChangedRuuvi htaken
  rw [hnil] at htaken
  change (({ s with timeTask := m } : Networking).timeTaskOnCfgChanged).Tracked
  rcases timeTaskOnCfgChanged_cases { s with timeTask := m } with hchanged | ⟨hsame, hunchanged⟩
  · rw [hchanged]
    refine ⟨⟨fun _ _ => rfl, fun hrunning => (nomatch hrunning)⟩,
      fun howed => ⟨(hs.holds howed).1, ?_⟩⟩
    unfold Networking.TimeTaskHolds Networking.TakenHolds
    dsimp only
    rw [hpending]
    refine (hs.holds howed).2.imp id (Or.imp id (And.imp id fun _ => ?_))
    exact .inr (.inl ⟨rfl, hnil, rfl⟩)
  · rw [hunchanged]
    refine ⟨⟨fun _ _ => hsame, fun hrunning => ?_⟩, fun howed => ⟨(hs.holds howed).1, ?_⟩⟩
    · exact (congrArg NtpCfg.ntpUse hsame).trans hrunning
    unfold Networking.TimeTaskHolds Networking.TakenHolds
    dsimp only
    rw [hpending, hnil]
    refine (hs.holds howed).2.imp id (Or.imp id fun hold => ⟨hold.1, .inr (.inr ?_)⟩)
    have hnet := hkeeps howed hold.1 htaken hsame
    change s.ntp.ntpUse = (s.ntp.ntpUse && s.isNetworkConnected)
    cases huse : s.ntp.ntpUse with
    | false => rfl
    | true => exact (hnet huse).symm

/-- If no callback is to follow, nothing was done to the interfaces. -/
theorem mainReconnect_idle {gwCfgEthUseEth staActive stopped : Bool}
    (h : (s.mainReconnect gwCfgEthUseEth staActive stopped).owed = []) :
    s.owed = [] ∧
      s.mainReconnect gwCfgEthUseEth staActive stopped = { s with reconnectPending := false } := by
  obtain ⟨_, eth, _, _, _, _, _, _, _, owed⟩ := s
  have hadded : ∀ (owed added : List Callback) (c : Callback), owed ++ c :: added ≠ [] :=
    fun _ _ _ => List.append_ne_nil_of_right_ne_nil _ (List.cons_ne_nil _ _)
  cases gwCfgEthUseEth with
  | true =>
    cases eth with
    | true => exact absurd h (hadded _ _ _)
    | false =>
      cases stopped with
      | true => exact absurd h (hadded _ _ _)
      | false => exact ⟨h, rfl⟩
  | false =>
    cases staActive with
    | true => exact absurd h (hadded _ _ _)
    | false => exact ⟨h, rfl⟩

theorem mainReconnect_configured (hs : s.Configured) (gwCfgEthUseEth staActive stopped : Bool) :
    (s.mainReconnect gwCfgEthUseEth staActive stopped).Configured := by
  cases gwCfgEthUseEth with
  | true => exact ⟨hs.ntp, hs.running⟩
  | false =>
    cases staActive with
    | true => exact ⟨hs.ntp, hs.running⟩
    | false => exact ⟨hs.ntp, hs.running⟩

/-- Either an active interface will be connected again, or SNTP need not be started. -/
theorem Networking.Tracked.mainReconnect (hs : s.Tracked)
    {gwCfgEthUseEth staActive stopped : Bool}
    (hkeeps : (s.mainReconnect gwCfgEthUseEth staActive stopped).owed = [] → s.timeTask.Idle →
      s.sntpRunning = false → ¬(s.ntp.ntpUse = true ∧ s.isNetworkConnected = true)) :
    (s.mainReconnect gwCfgEthUseEth staActive stopped).Tracked := by
  refine ⟨mainReconnect_configured hs.toConfigured _ _ _, fun howed => ?_⟩
  have hneeded := hkeeps howed
  obtain ⟨howed', heq⟩ := mainReconnect_idle howed
  rw [heq]
  refine ⟨(hs.holds howed').1, ?_⟩
  refine (hs.holds howed').2.imp id (Or.imp id fun hold => ⟨hold.1, ?_⟩)
  rcases hold.2 with hcfg | ⟨-, htaken, hoff⟩ | hfold
  · exact .inl hcfg
  · refine .inr (.inr ?_)
    have hnot := hneeded ⟨hold.1, htaken⟩ hoff
    rw [← Bool.and_eq_true, Bool.not_eq_true] at hnot
    change s.timeTask.taken.foldl _ s.sntpRunning = (s.ntp.ntpUse && s.isNetworkConnected)
    rw [htaken, hnot]
    exact hoff
  · exact .inr (.inr hfold)

theorem Networking.Tracked.next (hs : s.Tracked) {label : NetworkLabel} (hkeeps : label.Keeps s)
    (h : s.next label = some s') : s'.Tracked := by
  cases label with
  | callback c =>
    obtain rfl := Option.some.inj h
    have howed : (s.callback c).owed = s.owed := by cases c <;> rfl
    exact hs.toConfigured.callback fun hnone => hkeeps (howed ▸ hnone)
  | owedCallback => exact hs.toConfigured.owedCallback hkeeps h
  | onDisconnectStaCmd =>
    obtain rfl := Option.some.inj h
    exact hs.onDisconnectStaCmd hkeeps
  | ethernetStop stopped =>
    obtain rfl := Option.some.inj h
    exact hs.ethernetStop hkeeps
  | setNtp ntp =>
    obtain rfl := Option.some.inj h
    exact hs.setNtp ntp
  | advPostTake =>
    obtain ⟨m, htake, rfl⟩ := Option.map_eq_some_iff.mp h
    exact hs.advPostTake htake
  | advPostHandle =>
    obtain ⟨⟨sig, m⟩, hnext, rfl⟩ := Option.map_eq_some_iff.mp h
    exact hs.advPostHandle hnext
  | timeTaskTake =>
    obtain ⟨m, htake, rfl⟩ := Option.map_eq_some_iff.mp h
    exact hs.timeTaskTake htake
  | timeTaskHandle =>
    obtain ⟨⟨sig, m⟩, hnext, rfl⟩ := Option.map_eq_some_iff.mp h
    by_cases hsig : sig = .gwCfgChangedRuuvi
    · rw [hsig] at hnext ⊢
      exact hs.timeTaskHandle_gwCfgChangedRuuvi hnext hkeeps
    · exact hs.timeTaskHandle_network hnext hsig
  | mainReconnect gwCfgEthUseEth staActive stopped =>
    simp only [Networking.next] at h
    split_ifs at h
    obtain rfl := Option.some.inj h
    exact hs.mainReconnect hkeeps

theorem initial_tracked (ntp : NtpCfg) : (Networking.initial ntp).Tracked := by
  refine ⟨⟨fun _ _ => rfl, fun h => (nomatch h)⟩, fun _ => ⟨rfl, .inr (.inr ⟨rfl, ?_⟩)⟩⟩
  exact .inr (.inr (Bool.and_false _).symm)

/-- When everything has been handled, the invariant says what the tasks know. -/
theorem Networking.Tracked.known (hs : s.Tracked) (hsettled : s.Settled) : s.Known := by
  obtain ⟨hadv, htime⟩ := hs.holds hsettled.owed
  refine ⟨?_, ?_⟩
  · rw [Networking.AdvPostHolds, hsettled.advPost.1, hsettled.advPost.2] at hadv
    exact hadv
  · have hnot : .gwCfgChangedRuuvi ∉ s.timeTask.taken := by
      rw [hsettled.timeTask.2]
      exact List.not_mem_nil
    rcases htime with hcfg | ⟨hne, -⟩ | ⟨-, hcfg | ⟨hreconnect, -, -⟩ | hfold⟩
    · rw [hsettled.timeTask.1] at hcfg
      cases hcfg
    · exact absurd hsettled.timeTask.1 hne
    · exact absurd hcfg hnot
    · rw [hsettled.mainTask] at hreconnect
      cases hreconnect
    · rw [hsettled.timeTask.2] at hfold
      exact hfold

/-- In every run whose steps keep the condition, the tasks know the network whenever nothing is
pending. -/
theorem network_known {ntp : NtpCfg} {history : List (NetworkLabel × Unit)}
    (hr : (network ntp).Run (fun s label => label.Keeps s) history s) (hsettled : s.Settled) :
    s.flagNetworkConnected = s.isNetworkConnected ∧
      (s.sntpRunning = true ↔ s.ntp.ntpUse = true ∧ s.isNetworkConnected = true) := by
  have htracked : s.Tracked := by
    refine hr.invariant (I := Networking.Tracked) (initial_tracked ntp) ?_
    intro s label s' _ hs hkeeps hstep
    obtain ⟨s₁, hnext, hs₁⟩ := Option.map_eq_some_iff.mp hstep
    obtain ⟨rfl, -⟩ := Prod.mk.inj hs₁
    exact hs.next hkeeps hnext
  have hknown := htracked.known hsettled
  exact ⟨hknown.advPost, by rw [hknown.timeTask, Bool.and_eq_true]⟩

end Invariant

section Samples

instance (s : Networking) : Decidable s.Settled :=
  decidable_of_iff ((s.advPost.pending = [] ∧ s.advPost.taken = []) ∧
    (s.timeTask.pending = [] ∧ s.timeTask.taken = []) ∧ s.reconnectPending = false ∧ s.owed = [])
    ⟨fun h => ⟨h.1, h.2.1, h.2.2.1, h.2.2.2⟩, fun h => ⟨h.advPost, h.timeTask, h.mainTask, h.owed⟩⟩

instance (s : Networking) : Decidable s.LastPendingHolds :=
  decidable_of_iff (_ ∧ _) ⟨fun h => ⟨h.1, h.2⟩, fun h => ⟨h.advPost, h.timeTask⟩⟩

instance (s : Networking) : DecidablePred (NetworkLabel.Keeps s)
  | .callback c => inferInstanceAs (Decidable (_ → (s.callback c).LastPendingHolds))
  | .owedCallback =>
      inferInstanceAs (Decidable (∀ s' ∈ s.owedCallback, s'.owed = [] → s'.LastPendingHolds))
  | .onDisconnectStaCmd => inferInstanceAs (Decidable (_ → _ → _))
  | .ethernetStop _ => inferInstanceAs (Decidable (_ → _ → _))
  | .timeTaskHandle => inferInstanceAs (Decidable (_ → _ → _ → _ → _ → _))
  | .mainReconnect _ _ _ =>
      inferInstanceAs (Decidable (_ → (s.timeTask.pending = [] ∧ s.timeTask.taken = []) → _ → ¬_))
  | .setNtp _ => inferInstanceAs (Decidable True)
  | .advPostTake => inferInstanceAs (Decidable True)
  | .advPostHandle => inferInstanceAs (Decidable True)
  | .timeTaskTake => inferInstanceAs (Decidable True)

/-- Both tasks handle the signal of a callback. -/
def sampleHandled (c : NetworkLabel) : List NetworkLabel :=
  [c, .advPostTake, .advPostHandle, .timeTaskTake, .timeTaskHandle]

/-- The time task handles a change of the configuration, and the main task reconnects the network.
-/
def sampleChanged (ntp : NtpCfg) (staActive : Bool) : List NetworkLabel :=
  [.setNtp ntp, .timeTaskTake, .timeTaskHandle, .mainReconnect false staActive false]

/-- NTP is switched on while Wi-Fi is connected. -/
theorem network_known_sample : ∃ history s,
    (network ⟨false, false⟩).Run (fun s label => label.Keeps s) history s ∧ s.Settled ∧
      s.sntpRunning = true ∧ s.flagNetworkConnected = s.isNetworkConnected ∧
      (s.sntpRunning = true ↔ s.ntp.ntpUse = true ∧ s.isNetworkConnected = true) := by
  obtain ⟨history, s, hrun, hs⟩ := System.exists_run_of_exec
    (sampleHandled (.callback .wifiConnectionOk) ++ sampleChanged ⟨true, false⟩ true ++
      sampleHandled .owedCallback ++ sampleHandled .owedCallback)
    (S := network ⟨false, false⟩) (G := fun s label => label.Keeps s)
    (P := fun s => decide (s.Settled ∧ s.sntpRunning = true)) (by decide +kernel)
  obtain ⟨hsettled, hrunning⟩ := of_decide_eq_true hs
  exact ⟨history, s, hrun, hsettled, hrunning, network_known hrun hsettled⟩

/-- One of two interfaces is disconnected. Or the time servers are to be taken from DHCP while
Ethernet is connected and Wi-Fi, which is configured to be used, is not active. -/
theorem network_notKnown :
    (∃ history s, (network ⟨true, false⟩).FreeRun history s ∧ s.Settled ∧
      s.isNetworkConnected = true ∧ s.flagNetworkConnected = false ∧ s.sntpRunning = false) ∧
    (∃ history s, (network ⟨true, false⟩).FreeRun history s ∧ s.Settled ∧
      s.isNetworkConnected = true ∧ s.flagNetworkConnected = true ∧ s.ntp.ntpUse = true ∧
      s.sntpRunning = false) := by
  constructor
  · obtain ⟨history, s, hrun, hs⟩ := System.exists_run_of_exec
      (sampleHandled (.callback .wifiConnectionOk) ++
        sampleHandled (.callback .ethernetConnectionOk) ++
        sampleHandled (.callback .wifiDisconnect))
      (S := network ⟨true, false⟩) (G := fun _ _ => True)
      (P := fun s => decide (s.Settled ∧ s.isNetworkConnected = true ∧
        s.flagNetworkConnected = false ∧ s.sntpRunning = false)) (by decide +kernel)
    exact ⟨history, s, hrun, of_decide_eq_true hs⟩
  · obtain ⟨history, s, hrun, hs⟩ := System.exists_run_of_exec
      (sampleHandled (.callback .ethernetConnectionOk) ++ sampleChanged ⟨true, true⟩ false)
      (S := network ⟨true, false⟩) (G := fun _ _ => True)
      (P := fun s => decide (s.Settled ∧ s.isNetworkConnected = true ∧
        s.flagNetworkConnected = true ∧ s.ntp.ntpUse = true ∧ s.sntpRunning = false))
      (by decide +kernel)
    exact ⟨history, s, hrun, of_decide_eq_true hs⟩

end Samples

end RuuviGateway.Network
