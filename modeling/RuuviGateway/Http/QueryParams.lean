import Mathlib.Data.List.Find
import RuuviGateway.General.Numerals
import RuuviGateway.Http.ValidateUrl

/-!
# Reading a query string

The lookup of a parameter searches for `name=` in the whole text. It finds the first parameter of
that name if none before it has this text anywhere in it. The pointer to the text may be null, and
what is searched for in it is read through it at once. -/

namespace RuuviGateway.Http

open General

section Search

theorem strstr_eq_none_iff {needle s : Bytes} : strstr needle s = none ↔ ¬needle <:+: s := by
  induction s with
  | nil => simp [strstr]
  | cons b s ih =>
    rw [strstr, List.infix_cons_iff]
    by_cases hfound : needle.isPrefixOf (b :: s) = true
    · rw [if_pos hfound]
      simp [List.isPrefixOf_iff_prefix.mp hfound]
    · rw [if_neg hfound, ih]
      rw [List.isPrefixOf_iff_prefix] at hfound
      simp [hfound]

theorem strstr_eq_self {needle s : Bytes} (h : needle <+: s) : strstr needle s = some s := by
  cases s with
  | nil => rw [List.prefix_nil.mp h]; rfl
  | cons b s => rw [strstr, if_pos (List.isPrefixOf_iff_prefix.mpr h)]

/-- A text without the separator is found in the first part or in what follows it. -/
theorem strstr_append {needle s t : Bytes} {c : UInt8} (hne : needle ≠ []) (hc : c ∉ needle) :
    strstr needle (s ++ c :: t) = ((strstr needle s).map (· ++ c :: t)).or (strstr needle t) := by
  induction s with
  | nil =>
    have hno : ¬needle.isPrefixOf (c :: t) = true := by
      rw [List.isPrefixOf_iff_prefix]
      intro h
      exact hne (List.prefix_nil.mp ((prefix_append_cons_iff (s := []) hc).mp h))
    simp only [List.nil_append, strstr, if_neg hno, if_neg hne]
    rfl
  | cons b s ih =>
    rw [List.cons_append, strstr, strstr]
    by_cases hfound : needle.isPrefixOf (b :: s) = true
    · have hfound' : needle.isPrefixOf (b :: (s ++ c :: t)) = true := by
        rw [List.isPrefixOf_iff_prefix] at hfound ⊢
        exact (prefix_append_cons_iff (s := b :: s) hc).mpr hfound
      rw [if_pos hfound, if_pos hfound']
      rfl
    · have hfound' : ¬needle.isPrefixOf (b :: (s ++ c :: t)) = true := by
        rw [List.isPrefixOf_iff_prefix] at hfound ⊢
        exact fun h => hfound ((prefix_append_cons_iff (s := b :: s) hc).mp h)
      rw [if_neg hfound, if_neg hfound', ih]

end Search

section Query

def ampersand : UInt8 := 0x26

def equalsSign : UInt8 := 0x3d

def IsNameText (s : Bytes) : Prop := ∀ b ∈ s, b ≠ 0 ∧ b ≠ ampersand ∧ b ≠ equalsSign

instance (s : Bytes) : Decidable (IsNameText s) := List.decidableBAll _ _

structure ParamName where
  text : Bytes
  plain : IsNameText text

/-- `name=` -/
def ParamName.key (name : ParamName) : Bytes := name.text ++ [equalsSign]

structure Param where
  name : ParamName
  value : Bytes
  plain : ∀ b ∈ value, b ≠ 0 ∧ b ≠ ampersand

def Param.text (p : Param) : Bytes := p.name.key ++ p.value

/-- `k1=v1&k2=v2&...` -/
def queryText : List Param → Bytes
  | [] => []
  | [p] => p.text
  | p :: q :: ps => p.text ++ ampersand :: queryText (q :: ps)

/-- The text from the first parameter of a name on. -/
def textFrom (name : ParamName) (ps : List Param) : Option Bytes :=
  match ps.dropWhile fun p => p.name.text ≠ name.text with
  | [] => none
  | p :: ps => some (queryText (p :: ps))

def valueOf (name : ParamName) (ps : List Param) : Option Bytes :=
  (ps.find? fun p => p.name.text = name.text).map (·.value)

variable {name : ParamName} {p : Param}

theorem ParamName.key_ne_nil : name.key ≠ [] := by simp [key]

theorem ParamName.ampersand_notMem_key : ampersand ∉ name.key := by
  intro h
  rcases List.mem_append.mp h with h | h
  · exact (name.plain _ h).2.1 rfl
  · exact absurd (List.mem_singleton.mp h) (by decide)

/-- A name ends at the first equals sign. -/
theorem takeWhile_key_append (name : ParamName) (s : Bytes) :
    (name.key ++ s).takeWhile (· ≠ equalsSign) = name.text := by
  rw [ParamName.key, List.append_assoc]
  refine (takeWhile_append_of_stop ?_ ?_).1
  · intro b hb
    simpa using (name.plain b hb).2.2
  · intro b hb
    rw [← Option.some.inj hb]
    decide

theorem key_prefix_text_iff : name.key <+: p.text ↔ p.name.text = name.text := by
  constructor
  · rintro ⟨t, ht⟩
    rw [← takeWhile_key_append p.name p.value, ← takeWhile_key_append name t, ht]
    rfl
  · intro h
    rw [Param.text, ParamName.key, ParamName.key, h]
    exact List.prefix_append _ _

theorem queryText_cons (p : Param) (ps : List Param) :
    ∃ rest, queryText (p :: ps) = p.text ++ rest ∧
      ∀ b, rest.head? = some b → decide (b ≠ 0x26) = false := by
  cases ps with
  | nil => exact ⟨[], (List.append_nil _).symm, nofun⟩
  | cons q ps =>
    refine ⟨ampersand :: queryText (q :: ps), rfl, ?_⟩
    intro b hb
    rw [← Option.some.inj hb]
    rfl

theorem value_queryText (h : p.name.text = name.text) (ps : List Param) :
    ((queryText (p :: ps)).drop name.key.length).takeWhile (· ≠ 0x26) = p.value := by
  obtain ⟨rest, htext, hrest⟩ := queryText_cons p ps
  have hkey : name.key = p.name.key := by rw [ParamName.key, ParamName.key, h]
  rw [htext, Param.text, hkey, List.append_assoc, List.drop_left]
  refine (takeWhile_append_of_stop ?_ hrest).1
  intro b hb
  exact decide_eq_true (p.plain b hb).2

theorem textFrom_cons (h : p.name.text ≠ name.text) (ps : List Param) :
    textFrom name (p :: ps) = textFrom name ps := by
  rw [textFrom, List.dropWhile_cons_of_pos (by simpa using h)]
  rfl

theorem textFrom_cons_self (h : p.name.text = name.text) (ps : List Param) :
    textFrom name (p :: ps) = some (queryText (p :: ps)) := by
  rw [textFrom, List.dropWhile_cons_of_neg (by simpa using h)]

theorem textFrom_suffix {ps : List Param} {s : Bytes} (h : textFrom name ps = some s) :
    s <:+ queryText ps := by
  induction ps with
  | nil => cases h
  | cons p ps ih =>
    by_cases hname : p.name.text = name.text
    · rw [textFrom_cons_self hname] at h
      exact ⟨[], (Option.some.inj h).symm⟩
    · rw [textFrom_cons hname] at h
      refine (ih h).trans ?_
      cases ps with
      | nil => exact List.nil_suffix
      | cons q ps => exact (List.suffix_cons _ _).trans (List.suffix_append _ _)

/-- What is found inside an earlier parameter is not the text from a parameter of the name. -/
theorem strstr_cons_ne (hin : name.key <:+: p.text)
    (ps : List Param) : strstr name.key (queryText (p :: ps)) ≠ textFrom name ps := by
  intro heq
  obtain ⟨r, hr⟩ : ∃ r, strstr name.key p.text = some r := by
    rw [← Option.ne_none_iff_exists']
    exact fun hnone => strstr_eq_none_iff.mp hnone hin
  cases ps with
  | nil =>
    rw [queryText, hr] at heq
    cases heq
  | cons q ps =>
    rw [queryText, strstr_append ParamName.key_ne_nil ParamName.ampersand_notMem_key, hr] at heq
    have hlen := (textFrom_suffix heq.symm).length_le
    simp only [List.length_append, List.length_cons] at hlen
    omega

theorem strstr_cons (hnot : ¬name.key <:+: p.text)
    (ps : List Param) : strstr name.key (queryText (p :: ps)) = strstr name.key (queryText ps) := by
  have hnone := strstr_eq_none_iff.mpr hnot
  cases ps with
  | nil =>
    rw [queryText, queryText, hnone, strstr, if_neg ParamName.key_ne_nil]
  | cons q ps =>
    rw [queryText, strstr_append ParamName.key_ne_nil ParamName.ampersand_notMem_key, hnone]
    rfl

/-- The search finds the first parameter of the name if the key is nowhere in those before it. -/
theorem strstr_queryText_iff (name : ParamName) (ps : List Param) :
    strstr name.key (queryText ps) = textFrom name ps ↔
      ∀ p ∈ ps.takeWhile fun p => p.name.text ≠ name.text, ¬name.key <:+: p.text := by
  induction ps with
  | nil =>
    rw [queryText, strstr, if_neg ParamName.key_ne_nil]
    simp [textFrom]
  | cons p ps ih =>
    by_cases hname : p.name.text = name.text
    · obtain ⟨rest, htext, -⟩ := queryText_cons p ps
      have hprefix : name.key <+: queryText (p :: ps) := by
        rw [htext]
        exact (key_prefix_text_iff.mpr hname).trans (List.prefix_append _ _)
      rw [strstr_eq_self hprefix, textFrom_cons_self hname,
        List.takeWhile_cons_of_neg (by simpa using hname)]
      simp
    · rw [textFrom_cons hname, List.takeWhile_cons_of_pos (by simpa using hname)]
      by_cases hin : name.key <:+: p.text
      · refine iff_of_false (strstr_cons_ne hin ps) ?_
        intro hall
        exact hall p List.mem_cons_self hin
      · rw [strstr_cons hin, ih]
        simp [hin]

end Query

section Words

/-- The words that a value is compared with and what they stand for. -/
structure Words (α : Type) where
  list : List (Bytes × α)
  default : α
  distinct : ∀ w ∈ list, ∀ w' ∈ list, w.1 <+: w'.1 → w.1 = w'.1
  known : ∀ w ∈ list, w.2 ≠ default

variable {α : Type} (W : Words α)

def Words.choose (same : Bytes → Bytes → Bool) (value : Option Bytes) : α :=
  ((value.bind fun v => W.list.find? fun w => same v w.1).map (·.2)).getD W.default

/-- A comparison over the length of the value chooses what it should unless the value is cut short.
-/
theorem Words.choose_isPrefixOf_iff (value : Option Bytes) :
    W.choose List.isPrefixOf value = W.choose (· == ·) value ↔
      ∀ v, value = some v → ∀ w ∈ W.list, v <+: w.1 → v = w.1 := by
  cases value with
  | none => exact iff_of_true rfl nofun
  | some v =>
    constructor
    · intro heq v' hv w hw hprefix
      obtain rfl := Option.some.inj hv
      by_contra hne
      have hwhole : W.list.find? (fun w => v == w.1) = none := by
        rw [List.find?_eq_none]
        intro w' hw' hsame
        rw [beq_iff_eq] at hsame
        exact hne (hsame.trans (W.distinct w' hw' w hw (hsame ▸ hprefix)))
      obtain ⟨w', hfound⟩ : ∃ w', W.list.find? (fun w => v.isPrefixOf w.1) = some w' := by
        rw [← Option.isSome_iff_exists, List.find?_isSome]
        exact ⟨w, hw, List.isPrefixOf_iff_prefix.mpr hprefix⟩
      simp only [choose, Option.bind_some, hfound, hwhole] at heq
      exact W.known w' (List.mem_of_find?_eq_some hfound) heq
    · intro hall
      have hsame : W.list.find? (fun w => v.isPrefixOf w.1) = W.list.find? fun w => v == w.1 := by
        refine List.find?_congr ?_
        intro w hw
        rw [Bool.eq_iff_iff, List.isPrefixOf_iff_prefix, beq_iff_eq]
        exact ⟨hall v rfl w hw, fun h => h ▸ List.prefix_refl _⟩
      simp only [choose, Option.bind_some, hsame]

end Words

section Lookup

inductive QueryFault
  | nullPointer
  deriving DecidableEq

/-- The text is read through a pointer that may be null. -/
def withParams {α : Type} (f : Bytes → α) : Option Bytes → Except QueryFault α
  | none => .error .nullPointer
  | some params => .ok (f params)

/-- `http_server_get_from_params`, with the values that there is memory for. -/
def httpServerGetFromParamsWithAlloc (hasMemory : Bytes → Bool) (params : Option Bytes)
    (key : Bytes) : Except QueryFault (Option Bytes) :=
  withParams (fun s => (httpServerGetFromParams s key).filter hasMemory) params

def validateUrlGetUseSslClientCert (params : Bytes) : Bool :=
  isParamSet params (ascii "use_ssl_client_cert=")

def validateUrlGetUseSslServerCert (params : Bytes) : Bool :=
  isParamSet params (ascii "use_ssl_server_cert=")

def validateUrlGetMqttDisableRetainedMessages (params : Bytes) : Bool :=
  isParamSet params (ascii "mqtt_disable_retained_messages=")

/-- The lookup returns the value of the first parameter of the name, and it is from there. -/
structure LooksUp (q : Option (List Param)) (name : ParamName) : Prop where
  source : ∀ ps, q = some ps → strstr name.key (queryText ps) = textFrom name ps
  result : ∀ hasMemory, httpServerGetFromParamsWithAlloc hasMemory (q.map queryText) name.key =
    .ok ((q.bind (valueOf name)).filter hasMemory)

/-- There is a query, and no parameter before the first one of the name contains the key. -/
def KeyOnlyAsName (q : Option (List Param)) (name : ParamName) : Prop :=
  ∃ ps, q = some ps ∧
    ∀ p ∈ ps.takeWhile fun p => p.name.text ≠ name.text, ¬name.key <:+: p.text

theorem httpServerGetFromParams_queryText {ps : List Param} {name : ParamName}
    (h : strstr name.key (queryText ps) = textFrom name ps) :
    httpServerGetFromParams (queryText ps) name.key = valueOf name ps := by
  rw [httpServerGetFromParams, h]
  clear h
  induction ps with
  | nil => rfl
  | cons p ps ih =>
    by_cases hname : p.name.text = name.text
    · rw [textFrom_cons_self hname, Option.map_some, value_queryText hname, valueOf,
        List.find?_cons_of_pos (by simpa using hname)]
      rfl
    · rw [textFrom_cons hname, ih, valueOf, valueOf, List.find?_cons_of_neg (by simpa using hname)]

theorem looksUp_iff (q : Option (List Param)) (name : ParamName) :
    LooksUp q name ↔ KeyOnlyAsName q name := by
  constructor
  · intro h
    cases q with
    | none => cases h.result fun _ => true
    | some ps => exact ⟨ps, rfl, (strstr_queryText_iff name ps).mp (h.source ps rfl)⟩
  · rintro ⟨ps, rfl, hall⟩
    have hsource := (strstr_queryText_iff name ps).mpr hall
    refine ⟨?_, ?_⟩
    · intro _ hps
      rw [← Option.some.inj hps]
      exact hsource
    · intro hasMemory
      simp only [httpServerGetFromParamsWithAlloc, Option.map_some, withParams,
        httpServerGetFromParams_queryText hsource, Option.bind_some]

/-- A copy of the lookup that compares the value with some words. -/
structure LookupCopy (α : Type) where
  name : ParamName
  words : Words α
  run : Bytes → α
  run_eq : ∀ s, run s = words.choose List.isPrefixOf (httpServerGetFromParams s name.key)

variable {α : Type}

structure LookupCopy.Agrees (c : LookupCopy α) (q : Option (List Param)) : Prop where
  source : ∀ ps, q = some ps → strstr c.name.key (queryText ps) = textFrom c.name ps
  result : withParams c.run (q.map queryText) =
    .ok (c.words.choose (· == ·) (q.bind (valueOf c.name)))

/-- The value is no part of a word that it is not equal to. -/
def LookupCopy.WholeWord (c : LookupCopy α) (q : Option (List Param)) : Prop :=
  ∀ v, q.bind (valueOf c.name) = some v → ∀ w ∈ c.words.list, v <+: w.1 → v = w.1

theorem LookupCopy.agrees_iff (c : LookupCopy α) (q : Option (List Param)) :
    c.Agrees q ↔ KeyOnlyAsName q c.name ∧ c.WholeWord q := by
  have hrun : ∀ ps, strstr c.name.key (queryText ps) = textFrom c.name ps →
      (withParams c.run (some (queryText ps)) = .ok (c.words.choose (· == ·) (valueOf c.name ps)) ↔
        c.WholeWord (some ps)) := by
    intro ps hsource
    rw [withParams, c.run_eq, httpServerGetFromParams_queryText hsource, Except.ok.injEq,
      Words.choose_isPrefixOf_iff]
    rfl
  constructor
  · intro h
    cases q with
    | none => cases h.result
    | some ps =>
      have hsource := h.source ps rfl
      exact ⟨⟨ps, rfl, (strstr_queryText_iff c.name ps).mp hsource⟩, (hrun ps hsource).mp h.result⟩
  · rintro ⟨⟨ps, rfl, hall⟩, hword⟩
    have hsource := (strstr_queryText_iff c.name ps).mpr hall
    refine ⟨?_, (hrun ps hsource).mpr hword⟩
    intro _ hps
    rw [← Option.some.inj hps]
    exact hsource

end Lookup

section Names

def flagWords : Words Bool where
  list := [(ascii "true", true)]
  default := false
  distinct := by simp
  known := by simp

theorem getD_find?_cons {α : Type} (f : Bytes × α → Bool) (w : Bytes × α) (ws : List (Bytes × α))
    (d : α) : (((w :: ws).find? f).map (·.2)).getD d =
      if f w then w.2 else ((ws.find? f).map (·.2)).getD d := by
  rw [List.find?_cons]
  cases f w <;> rfl

theorem isParamSet_eq (s key : Bytes) :
    isParamSet s key = flagWords.choose List.isPrefixOf (httpServerGetFromParams s key) := by
  rw [isParamSet]
  cases httpServerGetFromParams s key with
  | none => rfl
  | some v =>
    simp only [Words.choose, flagWords, Option.bind_some, getD_find?_cons, Option.any_some]
    cases v.isPrefixOf (ascii "true") <;> rfl

def validateTypeList : List (Bytes × ValidateUrlType) :=
  [(ascii "check_post_advs", .postAdvs), (ascii "check_post_stat", .postStat),
    (ascii "check_mqtt", .checkMqtt), (ascii "check_remote_cfg", .checkRemoteCfg),
    (ascii "check_fw_update_url", .checkFwUpdateUrl), (ascii "check_file", .checkFile)]

theorem validateTypeList_distinct : ∀ w ∈ validateTypeList, ∀ w' ∈ validateTypeList,
    w.1 <+: w'.1 → w.1 = w'.1 := by decide +kernel

theorem validateTypeList_known : ∀ w ∈ validateTypeList, w.2 ≠ .invalid := by decide +kernel

def validateTypeWords : Words ValidateUrlType :=
  ⟨validateTypeList, .invalid, validateTypeList_distinct, validateTypeList_known⟩

theorem validateUrlGetValidateTypeFromParams_eq (s : Bytes) :
    validateUrlGetValidateTypeFromParams s =
      validateTypeWords.choose List.isPrefixOf
        (httpServerGetFromParams s (ascii "validate_type=")) := by
  unfold validateUrlGetValidateTypeFromParams
  cases httpServerGetFromParams s (ascii "validate_type=") with
  | none => rfl
  | some v =>
    simp only [Words.choose, validateTypeWords, validateTypeList, Option.bind_some,
      getD_find?_cons]
    rfl

theorem isNameText_keys : IsNameText (ascii "validate_type") ∧
    IsNameText (ascii "use_ssl_client_cert") ∧ IsNameText (ascii "use_ssl_server_cert") ∧
      IsNameText (ascii "mqtt_disable_retained_messages") ∧ IsNameText (ascii "file") := by
  decide +kernel

def fileName : ParamName := ⟨ascii "file", isNameText_keys.2.2.2.2⟩

def validateTypeCopy : LookupCopy ValidateUrlType where
  name := ⟨ascii "validate_type", isNameText_keys.1⟩
  words := validateTypeWords
  run := validateUrlGetValidateTypeFromParams
  run_eq := validateUrlGetValidateTypeFromParams_eq

def useSslClientCertCopy : LookupCopy Bool where
  name := ⟨ascii "use_ssl_client_cert", isNameText_keys.2.1⟩
  words := flagWords
  run := validateUrlGetUseSslClientCert
  run_eq _ := isParamSet_eq _ _

def useSslServerCertCopy : LookupCopy Bool where
  name := ⟨ascii "use_ssl_server_cert", isNameText_keys.2.2.1⟩
  words := flagWords
  run := validateUrlGetUseSslServerCert
  run_eq _ := isParamSet_eq _ _

def mqttDisableRetainedMessagesCopy : LookupCopy Bool where
  name := ⟨ascii "mqtt_disable_retained_messages", isNameText_keys.2.2.2.1⟩
  words := flagWords
  run := validateUrlGetMqttDisableRetainedMessages
  run_eq _ := isParamSet_eq _ _

end Names

/-- The lookup of every name and its four copies do what they should exactly if the key is found as
the name of a parameter first and, for the copies, the value is no part of a word. -/
theorem queryLookup_iff (q : Option (List Param)) :
    (∀ name, LooksUp q name ↔ KeyOnlyAsName q name) ∧
      (validateTypeCopy.Agrees q ↔
        KeyOnlyAsName q validateTypeCopy.name ∧ validateTypeCopy.WholeWord q) ∧
      ∀ c ∈ [useSslClientCertCopy, useSslServerCertCopy, mqttDisableRetainedMessagesCopy],
        c.Agrees q ↔ KeyOnlyAsName q c.name ∧ c.WholeWord q :=
  ⟨looksUp_iff q, validateTypeCopy.agrees_iff q, fun c _ => c.agrees_iff q⟩

/-- `file=` is found in `ssl_file=`, a query that is absent is read, and `t` is taken for `true`. -/
theorem queryLookup_wrong :
    (∃ ps, queryText ps = ascii "ssl_file=a&file=b" ∧ ¬LooksUp (some ps) fileName) ∧
      ¬LooksUp none fileName ∧
      ∃ ps, queryText ps = ascii "use_ssl_client_cert=t" ∧
        ¬useSslClientCertCopy.Agrees (some ps) := by
  refine ⟨⟨[⟨⟨ascii "ssl_file", by decide +kernel⟩, ascii "a", by decide +kernel⟩,
    ⟨fileName, ascii "b", by decide +kernel⟩], by decide +kernel, ?_⟩, ?_,
    ⟨[⟨useSslClientCertCopy.name, ascii "t", by decide +kernel⟩], by decide +kernel, ?_⟩⟩
  · intro h
    have hvalue := h.result fun _ => true
    revert hvalue
    decide +kernel
  · intro h
    cases h.result fun _ => true
  · intro h
    have hresult := h.result
    revert hresult
    decide +kernel

end RuuviGateway.Http
