import RuuviGateway.Config.Sample

/-!
# Credentials after a change of the authentication type

The credentials of all types share one block of bytes. A parser reads the fields of the new type
over the block as it is, or over a cleared block. What is left in them of the old credentials
follows from the bytes that the given values overwrite. -/

namespace RuuviGateway.Config

open General

variable {P : Platform} {root : Json}

/-- A member of the union, with the key that it is read from. -/
structure CredentialField where
  key : String
  offset : ℕ
  size : ℕ

namespace CredentialField

variable (f : CredentialField)

def text (auth : HttpAuth) : Bytes := cstr (auth.bytes.drop f.offset)

/-- The value of the JSON, cut to the size of the field. -/
def given (root : Json) : Option Bytes :=
  (jsonWrapGetStringVal root f.key).map fun s => (cstr s).take (f.size - 1)

def Covers (i : ℕ) : Prop := f.offset ≤ i ∧ i < f.offset + f.size

/-- The byte belongs to the given value or is its terminating NUL. -/
def Overwrites (root : Json) (i : ℕ) : Prop :=
  f.offset ≤ i ∧ ∃ s, f.given root = some s ∧ i ≤ f.offset + s.length

def Fresh (root : Json) (auth : HttpAuth) : Prop :=
  f.text auth = [] ∨ f.given root = some (f.text auth)

end CredentialField

def gwCfgHttpFields : HttpAuthType → List CredentialField
  | .none => []
  | .basic => [⟨"http_user", 0, gwCfgMaxHttpUserLen⟩,
      ⟨"http_pass", gwCfgMaxHttpUserLen, gwCfgMaxHttpPassLen⟩]
  | .bearer => [⟨"http_bearer_token", 0, gwCfgMaxHttpBearerTokenLen⟩]
  | .token | .apikey => [⟨"http_api_key", 0, gwCfgMaxHttpBearerTokenLen⟩]

/-- A token and an API key are not supported. -/
def gwCfgRemoteFields : HttpAuthType → List CredentialField
  | .basic => [⟨"remote_cfg_auth_basic_user", 0, gwCfgMaxHttpUserLen⟩,
      ⟨"remote_cfg_auth_basic_pass", gwCfgMaxHttpUserLen, gwCfgMaxHttpPassLen⟩]
  | .bearer => [⟨"remote_cfg_auth_bearer_token", 0, gwCfgMaxHttpBearerTokenLen⟩]
  | .none | .token | .apikey => []

section Property

def secretOffsets : HttpAuthType → List ℕ
  | .none => []
  | .basic => [0, gwCfgMaxHttpUserLen]
  | .bearer | .token | .apikey => [0]

/-- The byte belongs to a user, a password, a token or an API key of that type. -/
def Secret (authType : HttpAuthType) (auth : HttpAuth) (i : ℕ) : Prop :=
  ∃ offset ∈ secretOffsets authType,
    offset ≤ i ∧ i < offset + (cstr (auth.bytes.drop offset)).length

/-- Every field is empty or has the value of the JSON. -/
def FreshCredentials (fields : List CredentialField) (root : Json) (auth : HttpAuth) : Prop :=
  ∀ f ∈ fields, f.Fresh root auth

/-- A byte of the old credentials that lies in a field was overwritten or cleared. -/
def NothingRemains (fields : List CredentialField) (root : Json) (oldType : HttpAuthType)
    (old new : HttpAuth) : Prop :=
  ∀ f ∈ fields, ∀ i, f.Covers i → Secret oldType old i →
    f.Overwrites root i ∨ new.bytes[i]? = some 0

/-- A field without a value in the JSON begins with a NUL in the old block. -/
def EmptyUnlessGiven (fields : List CredentialField) (root : Json) (old : HttpAuth) : Prop :=
  ∀ f ∈ fields, f.given root = none → f.text old = []

/-- The given values reach over the old credentials. -/
def SecretsOverwritten (fields : List CredentialField) (root : Json) (oldType : HttpAuthType)
    (old : HttpAuth) : Prop :=
  ∀ f ∈ fields, ∀ i, f.Covers i → Secret oldType old i → f.Overwrites root i

end Property

section Reading

/-- The fields were read over a block. -/
structure ReadOver (fields : List CredentialField) (root : Json) (old new : HttpAuth) : Prop where
  given : ∀ f ∈ fields, ∀ s, f.given root = some s → f.text new = s
  kept : ∀ f ∈ fields, f.given root = none → (f.text new = [] ↔ f.text old = [])
  bytes : ∀ f ∈ fields, ∀ i, f.Covers i → ¬f.Overwrites root i → new.bytes[i]? = old.bytes[i]?

variable {fields : List CredentialField} {old new : HttpAuth} {oldType : HttpAuthType}

theorem Secret.getElem_ne_zero {i : ℕ} (h : Secret oldType old i) : old.bytes[i]? ≠ some 0 := by
  obtain ⟨offset, -, hle, hlt⟩ := h
  obtain ⟨tail, htail⟩ := cstr_prefix (old.bytes.drop offset)
  intro hzero
  have hmem : (cstr (old.bytes.drop offset))[i - offset]? = some 0 := by
    have hbyte : (old.bytes.drop offset)[i - offset]? = some 0 := by
      rw [List.getElem?_drop, Nat.add_sub_cancel' hle]
      exact hzero
    rwa [← htail, List.getElem?_append_left (by omega)] at hbyte
  exact noNul_cstr _ (List.mem_of_getElem? hmem)

theorem ReadOver.freshCredentials_iff (h : ReadOver fields root old new) :
    FreshCredentials fields root new ↔ EmptyUnlessGiven fields root old := by
  constructor
  · intro hfresh f hf hgiven
    rcases hfresh f hf with hempty | hvalue
    · exact (h.kept f hf hgiven).mp hempty
    · rw [hgiven] at hvalue
      cases hvalue
  · intro hempty f hf
    cases hgiven : f.given root with
    | none => exact .inl ((h.kept f hf hgiven).mpr (hempty f hf hgiven))
    | some s =>
      right
      rw [h.given f hf s hgiven, hgiven]

theorem ReadOver.nothingRemains_iff (h : ReadOver fields root old new) :
    NothingRemains fields root oldType old new ↔ SecretsOverwritten fields root oldType old := by
  constructor
  · intro hnothing f hf i hcovers hsecret
    by_contra hnot
    have hzero := (hnothing f hf i hcovers hsecret).resolve_left hnot
    rw [h.bytes f hf i hcovers hnot] at hzero
    exact hsecret.getElem_ne_zero hzero
  · intro hover f hf i hcovers hsecret
    exact .inl (hover f hf i hcovers hsecret)

/-- Over a cleared block nothing is left of any credentials. -/
theorem ReadOver.of_zero (h : ReadOver fields root .zero new)
    (hsize : ∀ f ∈ fields, f.offset + f.size ≤ gwCfgMaxHttpBearerTokenLen) :
    FreshCredentials fields root new ∧ NothingRemains fields root oldType old new := by
  constructor
  · rw [h.freshCredentials_iff]
    intro f _ _
    simp only [CredentialField.text, HttpAuth.zero, List.drop_replicate]
    cases gwCfgMaxHttpBearerTokenLen - f.offset with
    | zero => rfl
    | succ n => rfl
  · intro f hf i hcovers _
    by_cases hover : f.Overwrites root i
    · exact .inl hover
    · right
      have hlt : i < gwCfgMaxHttpBearerTokenLen := by
        have := hsize f hf
        have := hcovers.2
        omega
      rw [h.bytes f hf i hcovers hover, HttpAuth.zero, List.getElem?_replicate, if_pos hlt]

theorem getElem?_write {n off i : ℕ} {s : CStr n} (h : off + n ≤ gwCfgMaxHttpBearerTokenLen)
    (hi : i < off ∨ off + s.val.length < i) : (old.write off s h).bytes[i]? = old.bytes[i]? := by
  apply getElem?_writeAt _ hi
  have hfits := s.fits
  rw [old.size]
  omega

theorem given_eq {key : String} {off n : ℕ} [NeZero n] :
    (CredentialField.mk key off n).given root =
      (jsonWrapCopyStringVal n root key).map CStr.val := by
  unfold CredentialField.given jsonWrapCopyStringVal
  rw [Option.map_map]
  rfl

/-- A field whose value is written over the old block. -/
theorem readOver_write {key : String} {off n : ℕ} [NeZero n]
    (h : off + n ≤ gwCfgMaxHttpBearerTokenLen) :
    ReadOver [⟨key, off, n⟩] root old
      (((jsonWrapCopyStringVal n root key).map fun s => old.write off s h).getD old) := by
  cases hvalue : jsonWrapCopyStringVal n root key with
  | none =>
    have hgiven : (CredentialField.mk key off n).given root = none := by rw [given_eq, hvalue]; rfl
    constructor
    · intro f hf s hs
      rw [List.mem_singleton.mp hf, hgiven] at hs
      cases hs
    · intro f _ _
      rfl
    · intro f _ i _ _
      rfl
  | some s =>
    have hgiven : (CredentialField.mk key off n).given root = some s.val := by
      rw [given_eq, hvalue]
      rfl
    constructor
    · intro f hf t ht
      rw [List.mem_singleton.mp hf] at ht ⊢
      rw [hgiven] at ht
      rw [← Option.some.inj ht]
      have hoff : off ≤ old.bytes.length := by
        rw [old.size]
        omega
      exact cstr_drop_writeAt hoff s.noNul
    · intro f hf hnone
      rw [List.mem_singleton.mp hf, hgiven] at hnone
      cases hnone
    · intro f hf i hcovers hnot
      rw [List.mem_singleton.mp hf] at hcovers hnot
      apply getElem?_write h
      by_contra hin
      have hle : off ≤ i := hcovers.1
      exact hnot ⟨hle, s.val, hgiven, Nat.le_of_not_lt fun hlt => hin (.inr hlt)⟩

/-- A byte outside of the field keeps its value. -/
theorem getElem?_getD_write {n off i : ℕ} {value : Option (CStr n)}
    (h : off + n ≤ gwCfgMaxHttpBearerTokenLen) (hi : i < off ∨ off + n ≤ i) :
    ((value.map fun s => old.write off s h).getD old).bytes[i]? = old.bytes[i]? := by
  cases value with
  | none => rfl
  | some s =>
    have hfits := s.fits
    exact getElem?_write h (by omega)

end Reading

section Parsers

variable {old : HttpAuth}

theorem parseAuthToken_readOver {key : String} :
    ReadOver [⟨key, 0, gwCfgMaxHttpBearerTokenLen⟩] root old (parseAuthToken key root old) :=
  readOver_write (by decide)

/-- The user and the password do not touch each other. -/
theorem parseAuthBasic_readOver {userKey passKey : String} :
    ReadOver [⟨userKey, 0, gwCfgMaxHttpUserLen⟩,
      ⟨passKey, gwCfgMaxHttpUserLen, gwCfgMaxHttpPassLen⟩]
      root old (parseAuthBasic userKey passKey root old) := by
  have huser : ReadOver [⟨userKey, 0, gwCfgMaxHttpUserLen⟩] root old
      (((jsonWrapCopyStringVal gwCfgMaxHttpUserLen root userKey).map old.setUser).getD old) :=
    readOver_write (by decide)
  unfold parseAuthBasic
  generalize hmid :
    ((jsonWrapCopyStringVal gwCfgMaxHttpUserLen root userKey).map old.setUser).getD old = mid
  rw [hmid] at huser
  have hmidPass : ∀ i, gwCfgMaxHttpUserLen ≤ i → mid.bytes[i]? = old.bytes[i]? := by
    intro i hi
    rw [← hmid]
    exact getElem?_getD_write (by decide) (by omega)
  have hpass : ReadOver [⟨passKey, gwCfgMaxHttpUserLen, gwCfgMaxHttpPassLen⟩] root mid
      (((jsonWrapCopyStringVal gwCfgMaxHttpPassLen root passKey).map mid.setPassword).getD mid) :=
    readOver_write (by decide)
  dsimp only
  generalize hnew :
    ((jsonWrapCopyStringVal gwCfgMaxHttpPassLen root passKey).map mid.setPassword).getD mid = new
  rw [hnew] at hpass
  have hnewUser : ∀ i, i < gwCfgMaxHttpUserLen → new.bytes[i]? = mid.bytes[i]? := by
    intro i hi
    rw [← hnew]
    exact getElem?_getD_write (by decide) (.inl hi)
  have huserText : mid.user.length < gwCfgMaxHttpUserLen → new.user = mid.user := by
    intro hfits
    rw [← hnew]
    cases jsonWrapCopyStringVal gwCfgMaxHttpPassLen root passKey with
    | none => rfl
    | some s => exact mid.user_setPassword s hfits
  constructor
  · intro f hf s hs
    rcases List.mem_pair.mp hf with rfl | rfl
    · have hmidText : mid.user = s := huser.given _ (List.mem_singleton_self _) s hs
      have hfits : mid.user.length < gwCfgMaxHttpUserLen := by
        rw [given_eq] at hs
        obtain ⟨value, -, hvalue⟩ := Option.map_eq_some_iff.mp hs
        rw [hmidText, ← hvalue]
        exact value.fits
      exact (huserText hfits).trans hmidText
    · exact hpass.given _ (List.mem_singleton_self _) s hs
  · intro f hf hnone
    rcases List.mem_pair.mp hf with rfl | rfl
    · rw [← huser.kept _ (List.mem_singleton_self _) hnone]
      simp only [CredentialField.text, List.drop_zero, cstr_eq_nil_iff,
        hnewUser 0 (by decide)]
    · rw [hpass.kept _ (List.mem_singleton_self _) hnone]
      simp only [CredentialField.text, cstr_eq_nil_iff, List.getElem?_drop,
        hmidPass _ (Nat.le_add_right _ _)]
  · intro f hf i hcovers hnot
    rcases List.mem_pair.mp hf with rfl | rfl
    · have hlt : i < gwCfgMaxHttpUserLen := by simpa using hcovers.2
      rw [hnewUser i hlt]
      exact huser.bytes _ (List.mem_singleton_self _) i hcovers hnot
    · rw [hpass.bytes _ (List.mem_singleton_self _) i hcovers hnot]
      exact hmidPass i hcovers.1

theorem readOver_nil {new : HttpAuth} : ReadOver [] root old new :=
  ⟨nofun, nofun, nofun⟩

theorem gwCfgJsonParseHttpAuth_readOver {authType : HttpAuthType} :
    ReadOver (gwCfgHttpFields authType) root old (gwCfgJsonParseHttpAuth root authType old) := by
  cases authType with
  | none => exact readOver_nil
  | basic => exact parseAuthBasic_readOver
  | bearer | token | apikey => exact parseAuthToken_readOver

theorem gwCfgJsonParseHttp_readOver {cfg cfg' : GwCfgHttp}
    (h : gwCfgJsonParseHttp P root cfg = some cfg') (hchange : cfg'.authType ≠ cfg.authType) :
    ReadOver (gwCfgHttpFields cfg'.authType) root cfg.auth cfg'.auth := by
  unfold gwCfgJsonParseHttp at h
  dsimp only at h
  split_ifs at h with huse htarget
  · rw [← Option.some.inj h]
    exact gwCfgJsonParseHttpAuth_readOver
  · obtain ⟨period, -, h⟩ := Option.bind_eq_some_iff.mp h
    rw [← Option.some.inj h]
    exact gwCfgJsonParseHttpAuth_readOver
  · rw [← Option.some.inj h] at hchange
    exact absurd rfl hchange

/-- The block is cleared before the fields of another type are read. -/
theorem gwCfgJsonParseRemote_readOver {cfg cfg' : GwCfgRemote}
    (h : gwCfgJsonParseRemote root cfg = some cfg') (hchange : cfg'.authType ≠ cfg.authType) :
    ReadOver (gwCfgRemoteFields cfg'.authType) root .zero cfg'.auth := by
  unfold gwCfgJsonParseRemote at h
  obtain ⟨interval, -, h⟩ := Option.bind_eq_some_iff.mp h
  rw [← Option.some.inj h] at hchange ⊢
  dsimp only at hchange ⊢
  unfold gwCfgJsonParseRemoteAuth at hchange ⊢
  cases htypeStr : jsonWrapCopyStringVal gwCfgHttpAuthTypeStrSize root "remote_cfg_auth_type" with
  | none =>
    rw [htypeStr] at hchange
    exact absurd rfl hchange
  | some typeStr =>
    rw [htypeStr] at hchange
    dsimp only at hchange ⊢
    cases htype : gwCfgJsonParseRemoteAuthType typeStr.val with
    | none | token | apikey =>
      dsimp only
      exact readOver_nil
    | basic =>
      rw [htype] at hchange
      dsimp only at hchange ⊢
      rw [if_pos (Ne.symm hchange)]
      exact parseAuthBasic_readOver
    | bearer =>
      rw [htype] at hchange
      dsimp only at hchange ⊢
      rw [if_pos (Ne.symm hchange)]
      exact parseAuthToken_readOver

end Parsers

section Change

/-- After a change of the type, the remote configuration holds nothing but the given credentials.
The HTTP section does exactly if the old block is empty where nothing is given, and the given values
reach over the old credentials. -/
theorem authTypeChange_iff (root : Json) :
    (∀ cfg cfg' : GwCfgRemote, gwCfgJsonParseRemote root cfg = some cfg' →
      cfg'.authType ≠ cfg.authType →
        FreshCredentials (gwCfgRemoteFields cfg'.authType) root cfg'.auth ∧
        NothingRemains (gwCfgRemoteFields cfg'.authType) root cfg.authType cfg.auth cfg'.auth) ∧
    ∀ cfg cfg' : GwCfgHttp, gwCfgJsonParseHttp P root cfg = some cfg' →
      cfg'.authType ≠ cfg.authType →
        (FreshCredentials (gwCfgHttpFields cfg'.authType) root cfg'.auth ↔
          EmptyUnlessGiven (gwCfgHttpFields cfg'.authType) root cfg.auth) ∧
        (NothingRemains (gwCfgHttpFields cfg'.authType) root cfg.authType cfg.auth cfg'.auth ↔
          SecretsOverwritten (gwCfgHttpFields cfg'.authType) root cfg.authType cfg.auth) := by
  constructor
  · intro cfg cfg' hparse hchange
    apply (gwCfgJsonParseRemote_readOver hparse hchange).of_zero
    intro f hf
    cases htype : cfg'.authType with
    | none | token | apikey => simp [htype, gwCfgRemoteFields] at hf
    | basic =>
      rw [htype] at hf
      rcases List.mem_pair.mp hf with rfl | rfl <;> decide
    | bearer =>
      rw [htype] at hf
      rw [List.mem_singleton.mp hf]
      decide
  · intro cfg cfg' hparse hchange
    have hread := gwCfgJsonParseHttp_readOver hparse hchange
    exact ⟨hread.freshCredentials_iff, hread.nothingRemains_iff⟩

def sampleHttpBasic : GwCfgHttp :=
  { sampleDefault.ruuviCfg.http with
    useHttp := true
    authType := .basic
    auth := (HttpAuth.zero.setUser (.snprintf _ (ascii "admin"))).setPassword
      (.snprintf _ (ascii "secret")) }

def sampleRemoteBasic : GwCfgRemote :=
  { sampleDefault.ruuviCfg.remote with
    authType := .basic
    auth := (HttpAuth.zero.setUser (.snprintf _ (ascii "admin"))).setPassword
      (.snprintf _ (ascii "secret")) }

/-- The type becomes `bearer`, and no token is given. -/
def bearerJson : Json :=
  .object [("http_auth", .string (ascii "bearer")),
    ("remote_cfg_auth_type", .string (ascii "bearer"))]

def bearerTokenJson : Json :=
  .object [("http_auth", .string (ascii "bearer")), ("http_bearer_token", .string (ascii "token"))]

theorem authTypeChange_sample :
    (∃ cfg', gwCfgJsonParseRemote bearerJson sampleRemoteBasic = some cfg' ∧
      FreshCredentials (gwCfgRemoteFields cfg'.authType) bearerJson cfg'.auth) ∧
    ∃ cfg', gwCfgJsonParseHttp samplePlatform bearerTokenJson sampleHttpBasic = some cfg' ∧
      FreshCredentials (gwCfgHttpFields cfg'.authType) bearerTokenJson cfg'.auth := by
  constructor
  · exact ⟨_, rfl,
      ((authTypeChange_iff (P := samplePlatform) bearerJson).1 sampleRemoteBasic _ rfl
        (by decide)).1⟩
  · refine ⟨_, rfl, ?_⟩
    have hchange :=
      (authTypeChange_iff (P := samplePlatform) bearerTokenJson).2 sampleHttpBasic _ rfl
      (by decide)
    apply hchange.1.mpr
    intro f hf hnone
    rw [List.mem_singleton.mp hf] at hnone
    cases hnone

/-- The user of basic authentication becomes the bearer token. -/
theorem authTypeChange_kept :
    ∃ cfg', gwCfgJsonParseHttp samplePlatform bearerJson sampleHttpBasic = some cfg' ∧
      sampleHttpBasic.authType = .basic ∧ cfg'.authType = .bearer ∧
      cfg'.auth.token = ascii "admin" ∧
      ¬FreshCredentials (gwCfgHttpFields cfg'.authType) bearerJson cfg'.auth ∧
      ¬NothingRemains (gwCfgHttpFields cfg'.authType) bearerJson .basic sampleHttpBasic.auth
        cfg'.auth := by
  refine ⟨_, rfl, rfl, by decide, by decide, ?_, ?_⟩
  · intro hfresh
    rcases hfresh _ (List.mem_singleton_self _) with hempty | hvalue
    · revert hempty
      decide
    · cases hvalue
  · intro hnothing
    have hsecret : Secret .basic sampleHttpBasic.auth 0 := ⟨0, by decide, by decide, by decide⟩
    rcases hnothing _ (List.mem_singleton_self _) 0 ⟨by decide, by decide⟩ hsecret with
      hover | hzero
    · obtain ⟨-, s, hs, -⟩ := hover
      cases hs
    · revert hzero
      decide

end Change

end RuuviGateway.Config
