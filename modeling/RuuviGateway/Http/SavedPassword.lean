import RuuviGateway.Config.Credentials
import RuuviGateway.General.MarkedMemory
import RuuviGateway.Http.ValidateUrl

/-!
# Saved secrets in the checks

Each of four handlers of `validate_url` takes a copy of the settings that have the saved secret of
its target, and passes a pointer on to the check: to the copy or to the password of the request. A
byte of a secret is marked with the type of authentication for which the secret is stored.
-/

namespace RuuviGateway.Http

open Config General General.Bracketed Relaying

variable {P : Platform}

section Copies

abbrev SecretMemory := MarkedMemory HttpAuthType

/-- The secret that the settings hold for a type of authentication. -/
def savedSecret (auth : HttpAuth) : HttpAuthType → Bytes
  | .none => []
  | .basic => auth.password
  | .bearer | .token | .apikey => auth.token

/-- Where the secret for a type lies in the union. -/
def secretOffset : HttpAuthType → Option ℕ
  | .none => none
  | .basic => some gwCfgMaxHttpUserLen
  | .bearer | .token | .apikey => some 0

/-- `str_buf_printf_with_alloc` with a secret. -/
def copySecret (storedFor : HttpAuthType) (s : Bytes) (allocated : Bool) (m : SecretMemory) :
    Option (ℕ × SecretMemory) :=
  if allocated then some (m.alloc (withMark (some storedFor) s ++ withMark none [0])) else none

def gwCfgGetHttpPasswordCopy (cfg : GwCfgHttp) : Bool → SecretMemory → Option (ℕ × SecretMemory) :=
  copySecret cfg.authType (savedSecret cfg.auth cfg.authType)

/-- The user and the password of these settings are for basic authentication. -/
def gwCfgGetHttpStatPasswordCopy (cfg : GwCfgHttpStat) :
    Bool → SecretMemory → Option (ℕ × SecretMemory) := copySecret .basic cfg.httpStatPass.val

def gwCfgGetMqttPasswordCopy (cfg : GwCfgMqtt) : Bool → SecretMemory → Option (ℕ × SecretMemory) :=
  copySecret .basic cfg.mqttPass.val

/-- The bytes of the union. -/
def markedAuth (authType : HttpAuthType) (auth : HttpAuth) : List (MarkedByte HttpAuthType) :=
  match secretOffset authType with
  | none => withMark none auth.bytes
  | some offset =>
    let secret := savedSecret auth authType
    withMark none (auth.bytes.take offset) ++ withMark (some authType) secret ++
      withMark none (auth.bytes.drop (offset + secret.length))

/-- A copy of all the settings, of which the block has the union. -/
def gwCfgGetRemoteCfgCopy (cfg : GwCfgRemote) (allocated : Bool) (m : SecretMemory) :
    Option (ℕ × SecretMemory) :=
  if allocated then some (m.alloc (markedAuth cfg.authType cfg.auth)) else none

end Copies

section Handlers

/-- What decides whether a check is reached. -/
structure SavedCopyOutcome where
  urlAccepted : Bool
  copyAllocated : Bool

/-- The pointer that is passed on, and the memory at that time. -/
abbrev PassedOn := TextPointer × SecretMemory

variable (cfg : GwCfgRuuvi P) (p : ValidateUrlParams) (o : SavedCopyOutcome) (m : SecretMemory)

def ValidateUrlParams.passPointer (saved : TextPointer) : TextPointer :=
  if p.flagUseSavedPassword then saved else .ofText p.password

def unlessNonePointer (authType : HttpAuthType) (s : TextPointer) : TextPointer :=
  if authType = .none then .text [] else s

/-- `validate_url_post_advs`, up to the check. -/
def postAdvsPassedOn : Option PassedOn :=
  if !o.urlAccepted then none
  else (gwCfgGetHttpPasswordCopy cfg.http o.copyAllocated m).map fun (saved, m) =>
    (p.passPointer (.inBlock saved 0), m)

/-- `validate_url_post_stat`, up to the check. -/
def postStatPassedOn : Option PassedOn :=
  if !o.urlAccepted then none
  else (gwCfgGetHttpStatPasswordCopy cfg.httpStat o.copyAllocated m).map fun (saved, m) =>
    (unlessNonePointer p.authType (p.passPointer (.inBlock saved 0)), m)

/-- `validate_url_check_mqtt`, up to the check. -/
def checkMqttPassedOn : Option PassedOn :=
  (gwCfgGetMqttPasswordCopy cfg.mqtt o.copyAllocated m).map fun (saved, m) =>
    (unlessNonePointer p.authType (p.passPointer (.inBlock saved 0)), m)

/-- `validate_url_check_remote_cfg`, up to the check. The copy is freed before that. -/
def checkRemoteCfgPassedOn : Option PassedOn :=
  if !o.urlAccepted then none
  else (gwCfgGetRemoteCfgCopy cfg.remote o.copyAllocated m).map fun (copy, m) =>
    let saved := match secretOffset p.authType with
      | none => .null
      | some offset => .inBlock copy offset
    (p.passPointer saved, m.free copy)

inductive CheckTarget
  | postAdvs
  | postStat
  | checkMqtt
  | checkRemoteCfg
  deriving DecidableEq

namespace CheckTarget

def passedOn : CheckTarget → Option PassedOn
  | postAdvs => postAdvsPassedOn cfg p o m
  | postStat => postStatPassedOn cfg p o m
  | checkMqtt => checkMqttPassedOn cfg p o m
  | checkRemoteCfg => checkRemoteCfgPassedOn cfg p o m

/-- The type for which the secret of the target is stored. -/
def storedType : CheckTarget → HttpAuthType
  | postAdvs => cfg.http.authType
  | postStat | checkMqtt => .basic
  | checkRemoteCfg => cfg.remote.authType

def storedSecret : CheckTarget → Bytes
  | postAdvs => savedSecret cfg.http.auth cfg.http.authType
  | postStat => cfg.httpStat.httpStatPass.val
  | checkMqtt => cfg.mqtt.mqttPass.val
  | checkRemoteCfg => savedSecret cfg.remote.auth cfg.remote.authType

end CheckTarget

end Handlers

section Property

variable (target : CheckTarget) (cfg : GwCfgRuuvi P) (p : ValidateUrlParams)

/-- The check can read the password, and it is the right one. -/
def SecretRight (passed : PassedOn) : Prop :=
  ∃ s, passed.2.textAt passed.1 = some s ∧
    (p.flagUseSavedPassword = false → bytesOf s = p.password.getD []) ∧
    (p.flagUseSavedPassword = true →
      (target.storedType cfg = p.authType → bytesOf s = target.storedSecret cfg) ∧
      (target.storedType cfg ≠ p.authType → ∀ b ∈ s, b.mark = none ∨ b.mark = some p.authType))

/-- The URL is not looked at for MQTT. -/
def CheckReached (o : SavedCopyOutcome) : Prop :=
  (target ≠ .checkMqtt → o.urlAccepted = true) ∧ o.copyAllocated = true

/-- The requests that a target is right for. -/
def RequestSuits : Prop :=
  match p.flagUseSavedPassword, target with
  | false, .postAdvs | false, .checkRemoteCfg => True
  | false, .postStat | false, .checkMqtt => p.authType = .none → p.password.getD [] = []
  | true, .postAdvs => cfg.http.authType = p.authType ∨ target.storedSecret cfg = []
  | true, .postStat | true, .checkMqtt =>
    p.authType = .none ∨ p.authType = .basic ∨ target.storedSecret cfg = []
  | true, .checkRemoteCfg => p.authType = .none

end Property

section Decided

variable {target : CheckTarget} {cfg : GwCfgRuuvi P} {p : ValidateUrlParams} {o : SavedCopyOutcome}
  {m : SecretMemory}

theorem noNul_savedSecret (auth : HttpAuth) (authType : HttpAuthType) :
    0 ∉ savedSecret auth authType := by
  cases authType with
  | none => exact List.not_mem_nil
  | basic => exact noNul_cstr _
  | bearer => exact noNul_cstr _
  | token => exact noNul_cstr _
  | apikey => exact noNul_cstr _

theorem noNul_storedSecret (target : CheckTarget) (cfg : GwCfgRuuvi P) :
    0 ∉ target.storedSecret cfg := by
  cases target with
  | postAdvs => exact noNul_savedSecret _ _
  | postStat => exact cfg.httpStat.httpStatPass.noNul
  | checkMqtt => exact cfg.mqtt.mqttPass.noNul
  | checkRemoteCfg => exact noNul_savedSecret _ _

/-- A password of the request is right. -/
theorem secretRight_own (hflag : p.flagUseSavedPassword = false) (saved : TextPointer) :
    SecretRight target cfg p (p.passPointer saved, m) := by
  refine ⟨withMark none (p.password.getD []), ?_, fun _ => bytesOf_withMark _ _, fun h => ?_⟩
  · rw [ValidateUrlParams.passPointer, hflag]
    exact MarkedMemory.textAt_ofText p.password
  · exact absurd (hflag.symm.trans h) (by decide)

/-- A copy of the secret is right for the type for which it is stored. -/
theorem secretRight_copy {saved : TextPointer} (hsaved : m.textAt saved =
      some (withMark (some (target.storedType cfg)) (target.storedSecret cfg))) :
    SecretRight target cfg p (p.passPointer saved, m) ↔ (p.flagUseSavedPassword = true →
      target.storedType cfg = p.authType ∨ target.storedSecret cfg = []) := by
  cases hflag : p.flagUseSavedPassword with
  | false => exact iff_of_true (secretRight_own hflag saved) (fun h => absurd h (by decide))
  | true =>
    have hpointer : p.passPointer saved = saved := by
      rw [ValidateUrlParams.passPointer, hflag, if_pos rfl]
    rw [hpointer]
    constructor
    · rintro ⟨s, hs, -, hright⟩ -
      obtain rfl := Option.some.inj (hsaved.symm.trans hs)
      refine or_iff_not_imp_left.mpr fun htype => ?_
      have hmarks := (hright hflag).2 htype
      rw [List.eq_nil_iff_forall_not_mem]
      intro b hb
      rcases hmarks _ (List.mem_map_of_mem hb) with hnone | hsome
      · cases hnone
      · exact htype (Option.some.inj hsome)
    · intro h
      refine ⟨_, hsaved, fun hfalse => absurd (hflag.symm.trans hfalse) (by decide), fun _ => ?_⟩
      refine ⟨fun _ => bytesOf_withMark _ _, fun htype b hb => ?_⟩
      rw [(h rfl).resolve_left htype] at hb
      exact absurd hb List.not_mem_nil

/-- Without authorization the statistics and MQTT are checked with an empty text. -/
theorem secretRight_unlessNone {saved : TextPointer} (hbasic : target.storedType cfg = .basic)
    (hsaved : m.textAt saved =
      some (withMark (some (target.storedType cfg)) (target.storedSecret cfg))) :
    SecretRight target cfg p (unlessNonePointer p.authType (p.passPointer saved), m) ↔
      match p.flagUseSavedPassword with
      | false => p.authType = .none → p.password.getD [] = []
      | true => p.authType = .none ∨ p.authType = .basic ∨ target.storedSecret cfg = [] := by
  unfold unlessNonePointer
  by_cases hnone : p.authType = .none
  · rw [if_pos hnone]
    have hempty : m.textAt (.text []) = some [] := rfl
    cases hflag : p.flagUseSavedPassword with
    | false =>
      constructor
      · rintro ⟨s, hs, hown, -⟩ -
        obtain rfl := Option.some.inj (hempty.symm.trans hs)
        exact (hown hflag).symm
      · intro h
        refine ⟨[], hempty, fun _ => (h hnone).symm, fun htrue => ?_⟩
        exact absurd (hflag.symm.trans htrue) (by decide)
    | true =>
      refine iff_of_true ⟨[], hempty, ?_, fun _ => ⟨fun htype => ?_, fun _ => ?_⟩⟩ (.inl hnone)
      · exact fun hfalse => absurd (hflag.symm.trans hfalse) (by decide)
      · exact absurd (hbasic.symm.trans (htype.trans hnone)) (by decide)
      · exact fun b hb => absurd hb List.not_mem_nil
  · rw [if_neg hnone, secretRight_copy hsaved, hbasic]
    cases p.flagUseSavedPassword with
    | false => exact iff_of_true (fun h => absurd h (by decide)) (fun h => absurd h hnone)
    | true =>
      constructor
      · exact fun h => .inr ((h rfl).imp_left Eq.symm)
      · exact fun h _ => (h.resolve_left hnone).imp_left Eq.symm

theorem eq_none_of_secretOffset {authType : HttpAuthType} (h : secretOffset authType = none) :
    authType = .none := by
  cases authType with
  | none => rfl
  | basic => cases h
  | bearer => cases h
  | token => cases h
  | apikey => cases h

/-- A secret is never right once its copy has been freed. -/
theorem secretRight_freed (copy : ℕ) (m : SecretMemory) :
    SecretRight .checkRemoteCfg cfg p (p.passPointer (match secretOffset p.authType with
        | none => .null
        | some offset => .inBlock copy offset), m.free copy) ↔
      (p.flagUseSavedPassword = true → p.authType = .none) := by
  cases hflag : p.flagUseSavedPassword with
  | false => exact iff_of_true (secretRight_own hflag _) (fun h => absurd h (by decide))
  | true =>
    rw [ValidateUrlParams.passPointer, hflag, if_pos rfl]
    cases hoffset : secretOffset p.authType with
    | none =>
      have hnone := eq_none_of_secretOffset hoffset
      refine iff_of_true ⟨[], rfl, fun hfalse => ?_, fun _ => ⟨fun htype => ?_, fun _ => ?_⟩⟩
        (fun _ => hnone)
      · exact absurd (hflag.symm.trans hfalse) (by decide)
      · have hstored : cfg.remote.authType = .none := htype.trans hnone
        unfold CheckTarget.storedSecret
        dsimp only
        rw [hstored]
        rfl
      · exact fun b hb => absurd hb List.not_mem_nil
    | some offset =>
      refine iff_of_false ?_ fun h => ?_
      · rintro ⟨s, hs, -⟩
        cases (MarkedMemory.textAt_free copy offset).symm.trans hs
      · rw [h rfl] at hoffset
        cases hoffset

theorem passedOn_eq_none (h : ¬CheckReached target o) : target.passedOn cfg p o m = none := by
  obtain ⟨urlAccepted, copyAllocated⟩ := o
  cases copyAllocated with
  | false => cases target <;> cases urlAccepted <;> rfl
  | true =>
    cases urlAccepted with
    | true => exact absurd ⟨fun _ => rfl, rfl⟩ h
    | false =>
      cases target with
      | postAdvs => rfl
      | postStat => rfl
      | checkMqtt => exact absurd ⟨fun hne => absurd rfl hne, rfl⟩ h
      | checkRemoteCfg => rfl

/-- The memory with a copy of the secret. -/
def withCopy (target : CheckTarget) (cfg : GwCfgRuuvi P) (m : SecretMemory) : SecretMemory :=
  (m.alloc (withMark (some (target.storedType cfg)) (target.storedSecret cfg) ++
    withMark none [0])).2

theorem textAt_withCopy (target : CheckTarget) (cfg : GwCfgRuuvi P) (m : SecretMemory) :
    (withCopy target cfg m).textAt (.inBlock m.next 0) =
      some (withMark (some (target.storedType cfg)) (target.storedSecret cfg)) :=
  MarkedMemory.textAt_alloc (noNul_storedSecret target cfg)

theorem postAdvsPassedOn_eq (h : CheckReached .postAdvs o) : postAdvsPassedOn cfg p o m =
    some (p.passPointer (.inBlock m.next 0), withCopy .postAdvs cfg m) := by
  unfold postAdvsPassedOn gwCfgGetHttpPasswordCopy copySecret
  rw [h.1 (by decide), h.2]
  rfl

theorem postStatPassedOn_eq (h : CheckReached .postStat o) : postStatPassedOn cfg p o m =
    some (unlessNonePointer p.authType (p.passPointer (.inBlock m.next 0)),
      withCopy .postStat cfg m) := by
  unfold postStatPassedOn gwCfgGetHttpStatPasswordCopy copySecret
  rw [h.1 (by decide), h.2]
  rfl

theorem checkMqttPassedOn_eq (h : CheckReached .checkMqtt o) : checkMqttPassedOn cfg p o m =
    some (unlessNonePointer p.authType (p.passPointer (.inBlock m.next 0)),
      withCopy .checkMqtt cfg m) := by
  unfold checkMqttPassedOn gwCfgGetMqttPasswordCopy copySecret
  rw [h.2]
  rfl

theorem checkRemoteCfgPassedOn_eq (h : CheckReached .checkRemoteCfg o) :
    checkRemoteCfgPassedOn cfg p o m = some (p.passPointer (match secretOffset p.authType with
        | none => .null
        | some offset => .inBlock m.next offset),
      (m.alloc (markedAuth cfg.remote.authType cfg.remote.auth)).2.free m.next) := by
  unfold checkRemoteCfgPassedOn gwCfgGetRemoteCfgCopy
  rw [h.1 (by decide), h.2]
  rfl

/-- A check that is reached gets the right password exactly if the request suits. -/
theorem passedOn_right_iff (h : CheckReached target o) :
    ∃ passed, target.passedOn cfg p o m = some passed ∧
      (SecretRight target cfg p passed ↔ RequestSuits target cfg p) := by
  have hsaved := textAt_withCopy target cfg m
  cases target with
  | postAdvs =>
    refine ⟨_, postAdvsPassedOn_eq h, (secretRight_copy hsaved).trans ?_⟩
    unfold RequestSuits
    cases p.flagUseSavedPassword with
    | false => exact iff_of_true (fun h => absurd h (by decide)) trivial
    | true => exact ⟨fun h => h rfl, fun h _ => h⟩
  | postStat =>
    refine ⟨_, postStatPassedOn_eq h, (secretRight_unlessNone rfl hsaved).trans ?_⟩
    unfold RequestSuits
    cases p.flagUseSavedPassword <;> exact Iff.rfl
  | checkMqtt =>
    refine ⟨_, checkMqttPassedOn_eq h, (secretRight_unlessNone rfl hsaved).trans ?_⟩
    unfold RequestSuits
    cases p.flagUseSavedPassword <;> exact Iff.rfl
  | checkRemoteCfg =>
    refine ⟨_, checkRemoteCfgPassedOn_eq h, (secretRight_freed _ _).trans ?_⟩
    unfold RequestSuits
    cases p.flagUseSavedPassword with
    | false => exact iff_of_true (fun h => absurd h (by decide)) trivial
    | true => exact ⟨fun h => h rfl, fun h _ => h⟩

/-- The password that a check gets is the right one, if it is reached, exactly if the request suits
the target. -/
theorem savedSecret_right_iff (target : CheckTarget) (cfg : GwCfgRuuvi P) (p : ValidateUrlParams)
    (o : SavedCopyOutcome) (m : SecretMemory) :
    (∀ passed, target.passedOn cfg p o m = some passed → SecretRight target cfg p passed) ↔
      (CheckReached target o → RequestSuits target cfg p) := by
  by_cases hreached : CheckReached target o
  · have hright : ∃ passed, target.passedOn cfg p o m = some passed ∧
        (SecretRight target cfg p passed ↔ RequestSuits target cfg p) := passedOn_right_iff hreached
    obtain ⟨passed, hpassed, hiff⟩ := hright
    constructor
    · exact fun h _ => hiff.mp (h passed hpassed)
    · intro h passed' hpassed'
      obtain rfl := Option.some.inj (hpassed.symm.trans hpassed')
      exact hiff.mpr (h hreached)
  · refine iff_of_true (fun passed hpassed => ?_) (fun h => absurd h hreached)
    cases (passedOn_eq_none hreached).symm.trans hpassed

/-- The stored password of the remote configuration is asked for. -/
def useSavedPassword : ValidateUrlParams where
  url := ascii "http://192.168.1.2/gw_cfg.json"
  user := some (ascii "admin")
  password := none
  authType := .basic
  flagUseSavedPassword := true
  useSslClientCert := false
  useSslServerCert := false

/-- The password that is passed on to the check of a remote configuration lies in freed memory. -/
theorem savedSecret_not_right :
    ¬∀ passed, CheckTarget.checkRemoteCfg.passedOn
        { sampleDefault.ruuviCfg with remote := sampleRemoteBasic } useSavedPassword ⟨true, true⟩
        ⟨0, fun _ => none⟩ = some passed →
      SecretRight .checkRemoteCfg { sampleDefault.ruuviCfg with remote := sampleRemoteBasic }
        useSavedPassword passed := by
  intro h
  have hright := h _ (checkRemoteCfgPassedOn_eq ⟨fun _ => rfl, rfl⟩)
  have htype := (secretRight_freed _ _).mp hright rfl
  cases htype

end Decided

section Connection

/-! The handlers pass on what the memory has at the pointer. -/

/-- The text at the pointer, if freed memory has `freed`. -/
def PassedOn.asSeen (passed : PassedOn) (freed : Bytes) : Option Bytes :=
  match passed.1 with
  | .null => none
  | pointer => some (((passed.2.textAt pointer).map bytesOf).getD freed)

variable {cfg : GwCfgRuuvi P} {p : ValidateUrlParams} {o : SavedCopyOutcome} {m : SecretMemory}
  {r : ValidateUrlOutcome} {passed : PassedOn}

theorem asSeen_ofText (s : Option Bytes) (freed : Bytes) :
    PassedOn.asSeen (.ofText s, m) freed = s := by
  cases s with
  | none => rfl
  | some s => exact congrArg some (bytesOf_withMark none s)

theorem asSeen_passPointer {block offset : ℕ} {mark : Option HttpAuthType} {s : Bytes}
    (hsaved : m.textAt (.inBlock block offset) = some (withMark mark s)) (freed : Bytes) :
    PassedOn.asSeen (p.passPointer (.inBlock block offset), m) freed = p.pass (some s) := by
  unfold ValidateUrlParams.passPointer ValidateUrlParams.pass
  cases p.flagUseSavedPassword with
  | false => exact asSeen_ofText _ _
  | true =>
    unfold PassedOn.asSeen
    simp only [if_true]
    rw [hsaved, Option.map_some, bytesOf_withMark, Option.getD_some]

theorem asSeen_unlessNone (pointer : TextPointer) (freed : Bytes) :
    PassedOn.asSeen (unlessNonePointer p.authType pointer, m) freed =
      unlessNone p.authType (PassedOn.asSeen (pointer, m) freed) := by
  unfold unlessNonePointer unlessNone
  split_ifs <;> rfl

/-- A handler gets to its check with a copy of the secret. -/
structure CopyMade (target : CheckTarget) (cfg : GwCfgRuuvi P) (o : SavedCopyOutcome)
    (r : ValidateUrlOutcome) : Prop where
  reached : CheckReached target o
  urlAccepted : r.urlAccepted = o.urlAccepted
  savedPassword : r.savedPassword = some (target.storedSecret cfg)
  remoteAllocated : r.remoteCfg.remoteAllocated = true

section

variable (osStrToUint32Cptr : Bytes → ℕ → UInt32 × ℕ) (w : World)

theorem validateUrlPostAdvs_passedOn (hcopy : CopyMade .postAdvs cfg o r)
    (hpassed : postAdvsPassedOn cfg p o m = some passed) :
    validateUrlPostAdvs osStrToUint32Cptr p r w =
      ofOption (httpCheckPostAdvs osStrToUint32Cptr httpServerTask
        (p.checkedWith p.user (passed.asSeen r.freedPassword)) r.postAdvs w) := by
  obtain rfl := Option.some.inj ((postAdvsPassedOn_eq hcopy.reached).symm.trans hpassed)
  unfold validateUrlPostAdvs
  rw [asSeen_passPointer (textAt_withCopy .postAdvs cfg m), hcopy.urlAccepted,
    hcopy.reached.1 (by decide), hcopy.savedPassword]
  rfl

theorem validateUrlPostStat_passedOn (hcopy : CopyMade .postStat cfg o r)
    (hpassed : postStatPassedOn cfg p o m = some passed) :
    validateUrlPostStat osStrToUint32Cptr p r w =
      ofOption (httpCheckPostStat osStrToUint32Cptr httpServerTask
        (p.checkedWith (unlessNone p.authType p.user) (passed.asSeen r.freedPassword)) r.postStat
        w) := by
  obtain rfl := Option.some.inj ((postStatPassedOn_eq hcopy.reached).symm.trans hpassed)
  unfold validateUrlPostStat
  rw [asSeen_unlessNone, asSeen_passPointer (textAt_withCopy .postStat cfg m), hcopy.urlAccepted,
    hcopy.reached.1 (by decide), hcopy.savedPassword]
  rfl

end

theorem validateUrlCheckMqtt_passedOn (params : Bytes) (w : World)
    (hcopy : CopyMade .checkMqtt cfg o r) (hpassed : checkMqttPassedOn cfg p o m = some passed) :
    validateUrlCheckMqtt p r w P params =
      validateUrlOnGetCheckMqtt p r w P params (unlessNone p.authType p.user)
        (passed.asSeen r.freedPassword) := by
  obtain rfl := Option.some.inj ((checkMqttPassedOn_eq hcopy.reached).symm.trans hpassed)
  unfold validateUrlCheckMqtt
  rw [asSeen_unlessNone, asSeen_passPointer (textAt_withCopy .checkMqtt cfg m),
    hcopy.savedPassword]

/-- Where the secret has been, the check of the remote configuration sees freed memory. -/
theorem validateUrlCheckRemoteCfg_passedOn (default gwCfg : GwCfg P) (w : World)
    (hcopy : CopyMade .checkRemoteCfg cfg o r)
    (hpassed : checkRemoteCfgPassedOn cfg p o m = some passed) :
    validateUrlCheckRemoteCfg p r w default gwCfg = (do
      gwCfgLockRo
      gwCfgUnlockRo
      validateUrlOnGetCheckRemoteCfg r w default gwCfg
        (p.checkedWith p.user (passed.asSeen r.freedPassword))) := by
  obtain rfl := Option.some.inj ((checkRemoteCfgPassedOn_eq hcopy.reached).symm.trans hpassed)
  have hseen : PassedOn.asSeen (p.passPointer (match secretOffset p.authType with
        | none => .null
        | some offset => .inBlock m.next offset),
      (m.alloc (markedAuth cfg.remote.authType cfg.remote.auth)).2.free m.next) r.freedPassword =
      p.pass (if p.authType = .none then none else some r.freedPassword) := by
    unfold ValidateUrlParams.passPointer ValidateUrlParams.pass
    cases p.flagUseSavedPassword with
    | false => exact asSeen_ofText _ _
    | true =>
      simp only [if_true]
      cases hoffset : secretOffset p.authType with
      | none => rw [if_pos (eq_none_of_secretOffset hoffset)]; rfl
      | some offset =>
        have hne : p.authType ≠ .none := fun h => by rw [h] at hoffset; cases hoffset
        rw [if_neg hne]
        unfold PassedOn.asSeen
        dsimp only
        rw [MarkedMemory.textAt_free]
        rfl
  unfold validateUrlCheckRemoteCfg
  rw [hseen, hcopy.urlAccepted, hcopy.reached.1 (by decide), hcopy.remoteAllocated]
  rfl

end Connection

end RuuviGateway.Http
