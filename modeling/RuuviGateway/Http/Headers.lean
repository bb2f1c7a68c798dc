import RuuviGateway.AdvPost.State
import RuuviGateway.General.CString

/-!
# Headers of the responses

A server may change the key that the requests to it are signed with, and the period in which
advertisements are posted to it. The handler of a header takes the target from the action of the
posting task.
-/

namespace RuuviGateway.Http

open General AdvPost

section Targets

abbrev hmacSha256MaxKeySize : ℕ := 64

/-- The key of a target, of which the storage holds less than its size. -/
abbrev HmacSha256Key := { key : Bytes // key.length < hmacSha256MaxKeySize }

/-- What the servers may change: the keys, and the default intervals of the posting timers. -/
structure Targets where
  hmacSha256KeyRuuvi : HmacSha256Key
  hmacSha256KeyCustom : HmacSha256Key
  hmacSha256KeyStats : HmacSha256Key
  adv1DefaultIntervalMs : UInt32
  adv2DefaultIntervalMs : UInt32
  deriving DecidableEq

def hmacSha256SetKeyBin (storage : HmacSha256Key) (key : Bytes) : HmacSha256Key × Bool :=
  if h : key.length < hmacSha256MaxKeySize then
    if storage.val = key then (storage, true) else (⟨key, h⟩, true)
  else (storage, false)

variable (targets : Targets)

def hmacSha256SetKeyForHttpRuuvi (key : Bytes) : Targets × Bool :=
  let (stored, ok) := hmacSha256SetKeyBin targets.hmacSha256KeyRuuvi key
  ({ targets with hmacSha256KeyRuuvi := stored }, ok)

def hmacSha256SetKeyForHttpCustom (key : Bytes) : Targets × Bool :=
  let (stored, ok) := hmacSha256SetKeyBin targets.hmacSha256KeyCustom key
  ({ targets with hmacSha256KeyCustom := stored }, ok)

def hmacSha256SetKeyForStats (key : Bytes) : Targets × Bool :=
  let (stored, ok) := hmacSha256SetKeyBin targets.hmacSha256KeyStats key
  ({ targets with hmacSha256KeyStats := stored }, ok)

def advPostSetHmacSha256Key (action : Action) (key : Bytes) : Targets × Bool :=
  match action with
  | .none => (targets, false)
  | .postAdvsToRuuvi => hmacSha256SetKeyForHttpRuuvi targets key
  | .postAdvsToCustom => hmacSha256SetKeyForHttpCustom targets key
  | .postStats => hmacSha256SetKeyForStats targets key
  | .postAdvsToMqtt => (targets, false)

def advPostSetDefaultPeriod (action : Action) (periodMs : UInt32) : Targets :=
  match action with
  | .none => targets
  | .postAdvsToRuuvi => { targets with adv1DefaultIntervalMs := periodMs }
  | .postAdvsToCustom => { targets with adv2DefaultIntervalMs := periodMs }
  | .postStats => targets
  | .postAdvsToMqtt => targets

end Targets

section Handler

/-- A header: its key and its value. -/
structure Header where
  key : Bytes
  value : Bytes
  deriving DecidableEq

def tolower (c : UInt8) : UInt8 := if 65 ≤ c ∧ c ≤ 90 then c + 32 else c

/-- `0 == strcasecmp(s, s2)`. -/
def strcasecmpEq (s s2 : Bytes) : Bool := s.map tolower == s2.map tolower

def Header.isHmacKey (h : Header) : Bool := strcasecmpEq (ascii "Ruuvi-HMAC-KEY") h.key

def Header.isGatewayRate (h : Header) : Bool := strcasecmpEq (ascii "X-Ruuvi-Gateway-Rate") h.key

def maxPeriodSeconds : UInt32 := 3600

def advPostDefaultIntervalSeconds : UInt32 := 10

def msPerSecond : UInt32 := 1000

/-- The period that the header asks for. -/
def periodSecondsOf (osStrToUint32Cptr : Bytes → ℕ → UInt32 × ℕ) (value : Bytes) : UInt32 :=
  let periodSeconds := (osStrToUint32Cptr value 10).1
  if periodSeconds = 0 ∨ periodSeconds > maxPeriodSeconds then advPostDefaultIntervalSeconds
  else periodSeconds

/-- The length of the content, which a check asks for, is left out. -/
def httpPostEventHandlerOnHeader (osStrToUint32Cptr : Bytes → ℕ → UInt32 × ℕ) (action : Action)
    (h : Header) (targets : Targets) : Targets :=
  if h.isHmacKey then (advPostSetHmacSha256Key targets action h.value).1
  else if h.isGatewayRate then
    advPostSetDefaultPeriod targets action (periodSecondsOf osStrToUint32Cptr h.value * msPerSecond)
  else targets

end Handler

section Recipients

inductive Recipient
  | stats
  | advs1
  | advs2
  deriving DecidableEq, Repr

def Targets.key (targets : Targets) : Recipient → HmacSha256Key
  | .stats => targets.hmacSha256KeyStats
  | .advs1 => targets.hmacSha256KeyRuuvi
  | .advs2 => targets.hmacSha256KeyCustom

/-- There is no period of its own for the statistics. -/
def Targets.period (targets : Targets) : Recipient → Option UInt32
  | .stats => none
  | .advs1 => some targets.adv1DefaultIntervalMs
  | .advs2 => some targets.adv2DefaultIntervalMs

def Recipient.action : Recipient → Action
  | .stats => .postStats
  | .advs1 => .postAdvsToRuuvi
  | .advs2 => .postAdvsToCustom

/-- Nothing changes but, for a key, the key of the recipient and, for a rate, its period. -/
structure ActsOn (r : Recipient) (h : Header) (targets targets' : Targets) : Prop where
  key : ∀ r', targets'.key r' ≠ targets.key r' → r' = r ∧ h.isHmacKey = true
  period : ∀ r', targets'.period r' ≠ targets.period r' → r' = r ∧ h.isGatewayRate = true

variable {targets : Targets}

theorem ActsOn.refl (r : Recipient) (h : Header) (targets : Targets) :
    ActsOn r h targets targets := ⟨fun _ hne => absurd rfl hne, fun _ hne => absurd rfl hne⟩

/-- The action is that of the recipient, or one for which the handler does nothing. -/
def Serves (action : Action) (r : Recipient) : Prop :=
  action = r.action ∨ action = .none ∨ action = .postAdvsToMqtt

theorem key_setHmacSha256Key {r r' : Recipient} (hne : r' ≠ r) (key : Bytes) :
    (advPostSetHmacSha256Key targets r.action key).1.key r' = targets.key r' := by
  cases r <;> cases r' <;> first | rfl | exact absurd rfl hne

theorem period_setHmacSha256Key (action : Action) (r : Recipient) (key : Bytes) :
    (advPostSetHmacSha256Key targets action key).1.period r = targets.period r := by
  cases action <;> cases r <;> rfl

theorem period_setDefaultPeriod {r r' : Recipient} (hne : r' ≠ r) (periodMs : UInt32) :
    (advPostSetDefaultPeriod targets r.action periodMs).period r' = targets.period r' := by
  cases r <;> cases r' <;> first | rfl | exact absurd rfl hne

theorem key_setDefaultPeriod (action : Action) (r : Recipient) (periodMs : UInt32) :
    (advPostSetDefaultPeriod targets action periodMs).key r = targets.key r := by
  cases action <;> cases r <;> rfl

theorem onHeader_actsOn (osStrToUint32Cptr : Bytes → ℕ → UInt32 × ℕ) {action : Action}
    {r : Recipient} (hserves : Serves action r) (h : Header) (targets : Targets) :
    ActsOn r h targets (httpPostEventHandlerOnHeader osStrToUint32Cptr action h targets) := by
  rcases hserves with rfl | rfl | rfl
  · unfold httpPostEventHandlerOnHeader
    split_ifs with hkey hrate
    · constructor
      · intro r' hne
        exact ⟨not_not.mp fun hother => hne (key_setHmacSha256Key hother _), hkey⟩
      · intro r' hne
        exact absurd (period_setHmacSha256Key _ _ _) hne
    · constructor
      · intro r' hne
        exact absurd (key_setDefaultPeriod _ _ _) hne
      · intro r' hne
        exact ⟨not_not.mp fun hother => hne (period_setDefaultPeriod hother _), hrate⟩
    · exact .refl r h targets
  · unfold httpPostEventHandlerOnHeader
    split_ifs <;> exact .refl r h targets
  · unfold httpPostEventHandlerOnHeader
    split_ifs <;> exact .refl r h targets

/-- Other headers leave all targets as they are. -/
theorem onHeader_other (osStrToUint32Cptr : Bytes → ℕ → UInt32 × ℕ) (action : Action) {h : Header}
    (hkey : h.isHmacKey = false) (hrate : h.isGatewayRate = false) (targets : Targets) :
    httpPostEventHandlerOnHeader osStrToUint32Cptr action h targets = targets := by
  rw [httpPostEventHandlerOnHeader, hkey, hrate]
  rfl

end Recipients

end RuuviGateway.Http
