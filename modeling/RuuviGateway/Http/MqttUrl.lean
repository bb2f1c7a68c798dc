import RuuviGateway.Config.NumericGetters
import RuuviGateway.General.NumberParts
import RuuviGateway.Http.ValidateUrl

/-!
# The URL of an MQTT server

`validate_url_parse_mqtt_url` writes the transport, the server and the port one after another into
the configuration that is passed in. What it accepts is a grammar whose host may be empty and whose
port may begin with blanks and a sign. -/

namespace RuuviGateway.Http

open Config General

section Parser

variable (P : Platform)

/-- The text behind the host. -/
def validateUrlParseMqttPort (portText : Bytes) (cfg : GwCfgMqtt) : Bool × GwCfgMqtt :=
  let (port, rest) := P.osStrToUint32Cptr portText 10
  if rest ≠ [] then (false, cfg)
  else if port = 0 ∨ 0xffff < port then (false, cfg)
  else (true, { cfg with mqttPort := port.toUInt16 })

/-- The text behind the scheme. -/
def validateUrlParseMqttServer (server : Bytes) (cfg : GwCfgMqtt) : Bool × GwCfgMqtt :=
  match indexOf (ascii ":") server with
  | none => (false, cfg)
  | some serverLen =>
    if gwCfgMaxMqttServerLen ≤ serverLen then (false, cfg)
    else
      validateUrlParseMqttPort P (server.drop (serverLen + 1))
        { cfg with mqttServer := .snprintf _ (server.take serverLen) }

/-- `validate_url_parse_mqtt_url` with the configuration that it writes to. -/
def validateUrlParseMqttUrlInto (url : Bytes) (cfg : GwCfgMqtt) : Bool × GwCfgMqtt :=
  match indexOf (ascii "://") url with
  | none => (false, cfg)
  | some separator =>
    match mqttTransportOf ((url.take (separator + 3)).take (mqttUrlPrefixLen - 1)) with
    | none => (false, cfg)
    | some transport =>
      validateUrlParseMqttServer P (url.drop (separator + 3))
        { cfg with mqttTransport := .snprintf _ transport }

end Parser

section Grammar

def colon : UInt8 := 0x3a

inductive MqttScheme
  | mqtt
  | mqtts
  | mqttws
  | mqttwss
  deriving DecidableEq, Repr

def MqttScheme.text : MqttScheme → Bytes
  | .mqtt => ascii "mqtt"
  | .mqtts => ascii "mqtts"
  | .mqttws => ascii "mqttws"
  | .mqttwss => ascii "mqttwss"

def MqttScheme.transport : MqttScheme → CStr gwCfgMaxMqttTransportLen
  | .mqtt => ⟨ascii "TCP", by decide, by decide⟩
  | .mqtts => ⟨ascii "SSL", by decide, by decide⟩
  | .mqttws => ⟨ascii "WS", by decide, by decide⟩
  | .mqttwss => ⟨ascii "WSS", by decide, by decide⟩

/-- The parts of a URL that is accepted. -/
structure MqttUrl where
  scheme : MqttScheme
  host : CStr gwCfgMaxMqttServerLen
  portText : DecimalText
  port : UInt16
  host_colon : colon ∉ host.val
  port_ne : port ≠ 0
  port_denoted : portText.Denotes port.toNat

namespace MqttUrl

variable (u : MqttUrl)

def text : Bytes := u.scheme.text ++ (ascii "://" ++ (u.host.val ++ colon :: u.portText.text))

def write (cfg : GwCfgMqtt) : GwCfgMqtt :=
  { cfg with mqttTransport := u.scheme.transport, mqttServer := u.host, mqttPort := u.port }

/-- The host is not empty, and the port consists of digits. -/
def IsPlain : Prop := u.host.val ≠ [] ∧ u.portText.blanks = [] ∧ u.portText.sign = []

end MqttUrl

end Grammar

section Search

variable {c : UInt8} {needle front rest s : Bytes} {k : ℕ}

/-- The first occurrence of a text. -/
theorem strstr_some (h : strstr needle s = some rest) :
    ∃ front, s = front ++ rest ∧ needle <+: rest ∧
      ∀ start tail, front = start ++ tail → tail ≠ [] → ¬needle <+: tail ++ rest := by
  induction s with
  | nil =>
    unfold strstr at h
    split_ifs at h with hneedle
    obtain rfl := Option.some.inj h
    refine ⟨[], rfl, hneedle ▸ List.prefix_rfl, fun start tail hfront htail => ?_⟩
    exact absurd (List.append_eq_nil_iff.mp hfront.symm).2 htail
  | cons b s ih =>
    unfold strstr at h
    split_ifs at h with hstarts
    · obtain rfl := Option.some.inj h
      refine ⟨[], rfl, List.isPrefixOf_iff_prefix.mp hstarts, fun start tail hfront htail => ?_⟩
      exact absurd (List.append_eq_nil_iff.mp hfront.symm).2 htail
    · obtain ⟨front, rfl, hrest, hfirst⟩ := ih h
      refine ⟨b :: front, rfl, hrest, fun start tail hfront htail hmatch => ?_⟩
      cases start with
      | nil =>
        obtain rfl : b :: front = tail := hfront
        exact hstarts (List.isPrefixOf_iff_prefix.mpr hmatch)
      | cons b' start => exact hfirst start tail (List.cons.inj hfront).2 htail hmatch

/-- A text whose first character does not come before it. -/
theorem strstr_of_notMem (h : c ∉ front) :
    strstr (c :: needle) (front ++ (c :: needle ++ rest)) = some (c :: needle ++ rest) := by
  induction front with
  | nil =>
    rw [List.nil_append, List.cons_append, strstr, ← List.cons_append,
      if_pos (List.isPrefixOf_iff_prefix.mpr (List.prefix_append _ _))]
  | cons b front ih =>
    rw [List.mem_cons, not_or] at h
    rw [List.cons_append, strstr, if_neg fun hstarts => ?_, ih h.2]
    exact h.1 (List.cons_prefix_cons.mp (List.isPrefixOf_iff_prefix.mp hstarts)).1

theorem indexOf_of_notMem (h : c ∉ front) :
    indexOf (c :: needle) (front ++ (c :: needle ++ rest)) = some front.length := by
  rw [indexOf, strstr_of_notMem h, Option.map_some, List.length_append, Nat.add_sub_cancel]

theorem indexOf_some (h : indexOf needle s = some k) :
    ∃ front rest, s = front ++ (needle ++ rest) ∧ front.length = k ∧
      ∀ start tail, front = start ++ tail → tail ≠ [] → ¬needle <+: tail ++ (needle ++ rest) := by
  obtain ⟨behind, hstr, rfl⟩ := Option.map_eq_some_iff.mp h
  obtain ⟨front, rfl, ⟨rest, rfl⟩, hfirst⟩ := strstr_some hstr
  refine ⟨front, rest, rfl, ?_, hfirst⟩
  rw [List.length_append, Nat.add_sub_cancel]

/-- `strchr`. -/
theorem indexOf_singleton_some (h : indexOf [c] s = some k) :
    ∃ front rest, s = front ++ c :: rest ∧ front.length = k ∧ c ∉ front := by
  obtain ⟨front, rest, rfl, hlength, hfirst⟩ := indexOf_some h
  refine ⟨front, rest, rfl, hlength, fun hmem => ?_⟩
  obtain ⟨start, tail, rfl⟩ := List.append_of_mem hmem
  exact hfirst start (c :: tail) rfl (List.cons_ne_nil _ _) (List.prefix_append [c] _)

end Search

section Scheme

variable {P : Platform} {cfg : GwCfgMqtt} {front rest server url transport : Bytes}

theorem colon_notMem_scheme (scheme : MqttScheme) : colon ∉ scheme.text := by
  cases scheme <;> decide

theorem mqttTransportOf_text (scheme : MqttScheme) :
    mqttTransportOf ((scheme.text ++ ascii "://").take (mqttUrlPrefixLen - 1)) =
      some scheme.transport.val := by
  cases scheme <;> decide

theorem mqttTransportOf_some (h : mqttTransportOf front = some transport) :
    ∃ scheme : MqttScheme, front = scheme.text ++ ascii "://" ∧
      transport = scheme.transport.val := by
  unfold mqttTransportOf at h
  split_ifs at h with h1 h2 h3 h4
  · exact ⟨.mqtt, h1, (Option.some.inj h).symm⟩
  · exact ⟨.mqtts, h2, (Option.some.inj h).symm⟩
  · exact ⟨.mqttws, h3, (Option.some.inj h).symm⟩
  · exact ⟨.mqttwss, h4, (Option.some.inj h).symm⟩

/-- None of the schemes is cut off. -/
theorem eq_of_take_eq (scheme : MqttScheme)
    (h : front.take (mqttUrlPrefixLen - 1) = scheme.text ++ ascii "://") :
    front = scheme.text ++ ascii "://" := by
  have hshort : (scheme.text ++ ascii "://").length < mqttUrlPrefixLen - 1 := by
    cases scheme <;> decide
  rw [← h, List.length_take] at hshort
  rw [← h, List.take_of_length_le (by omega)]

theorem length_append_separator (s : Bytes) : (s ++ ascii "://").length = s.length + 3 := by
  rw [List.length_append]
  rfl

theorem parseMqttUrl_scheme (scheme : MqttScheme) :
    validateUrlParseMqttUrlInto P (scheme.text ++ (ascii "://" ++ server)) cfg =
      validateUrlParseMqttServer P server { cfg with mqttTransport := scheme.transport } := by
  have hindex : indexOf (ascii "://") (scheme.text ++ (ascii "://" ++ server)) =
      some scheme.text.length := indexOf_of_notMem (colon_notMem_scheme scheme)
  unfold validateUrlParseMqttUrlInto
  rw [hindex]
  dsimp only
  rw [← List.append_assoc, ← length_append_separator, List.take_left, List.drop_left,
    mqttTransportOf_text]
  dsimp only
  rw [CStr.snprintf_val]

theorem parseMqttUrl_other (h : ∀ (scheme : MqttScheme) server,
    url ≠ scheme.text ++ (ascii "://" ++ server)) :
    validateUrlParseMqttUrlInto P url cfg = (false, cfg) := by
  unfold validateUrlParseMqttUrlInto
  split
  case h_1 => rfl
  case h_2 separator hindex =>
    obtain ⟨front, server, rfl, rfl, -⟩ := indexOf_some hindex
    rw [← List.append_assoc, ← length_append_separator, List.take_left]
    split
    case h_1 => rfl
    case h_2 transport htransport =>
      obtain ⟨scheme, htext, -⟩ := mqttTransportOf_some htransport
      have hfront := List.append_cancel_right (eq_of_take_eq scheme htext)
      exact absurd (congrArg (· ++ _) hfront) (h scheme server)

end Scheme

section Port

variable {P : Platform} {cfg cfg' : GwCfgMqtt} {portText server : Bytes}

/-- The port is in range if it is the value of 16 bits that is stored. -/
theorem mqttPort_inRange_iff (value : UInt32) :
    ¬(value = 0 ∨ 0xffff < value) ↔ value.toUInt16 ≠ 0 ∧ value.toNat = value.toUInt16.toNat := by
  rw [← UInt32.toNat_inj, UInt32.lt_iff_toNat_lt, ne_eq, ← UInt16.toNat_inj, UInt32.toNat_toUInt16]
  simp only [UInt32.reduceToNat, UInt16.toNat_zero, UInt32.toNat_zero]
  omega

theorem parseMqttPort_true_iff (hP : P.osStrToUint32Cptr = strtoul) :
    validateUrlParseMqttPort P portText cfg = (true, cfg') ↔
      ∃ (d : DecimalText) (port : UInt16), port ≠ 0 ∧ d.text = portText ∧ d.Denotes port.toNat ∧
        cfg' = { cfg with mqttPort := port } := by
  unfold validateUrlParseMqttPort
  rw [hP]
  dsimp only
  have hdecimal (port : UInt16) (hport : port ≠ 0) :
      (strtoul portText 10).2 = [] ∧ (strtoul portText 10).1.toNat = port.toNat ↔
        ∃ d : DecimalText, d.text = portText ∧ d.Denotes port.toNat := by
    have hlt := port.toNat_lt
    refine strtoul_decimal_iff (Nat.pos_of_ne_zero fun hzero => hport ?_) (by omega)
    exact UInt16.toNat_inj.mp hzero
  constructor
  · intro h
    split_ifs at h with hrest hrange
    · cases h
    · cases h
    · obtain ⟨hport, hvalue⟩ := (mqttPort_inRange_iff _).mp hrange
      obtain ⟨d, htext, hdenotes⟩ := (hdecimal _ hport).mp ⟨not_not.mp hrest, hvalue⟩
      exact ⟨d, _, hport, htext, hdenotes, (Prod.mk.inj h).2.symm⟩
  · rintro ⟨d, port, hport, htext, hdenotes, rfl⟩
    obtain ⟨hrest, hvalue⟩ := (hdecimal port hport).mpr ⟨d, htext, hdenotes⟩
    have hstored : (strtoul portText 10).1.toUInt16 = port := by
      rw [← UInt16.toNat_inj, UInt32.toNat_toUInt16, hvalue]
      exact Nat.mod_eq_of_lt port.toNat_lt
    rw [if_neg (not_not.mpr hrest), if_neg ((mqttPort_inRange_iff _).mpr ?_), hstored]
    rw [hstored]
    exact ⟨hport, hvalue⟩

theorem parseMqttPort_false (h : (validateUrlParseMqttPort P portText cfg).1 = false) :
    (validateUrlParseMqttPort P portText cfg).2 = cfg := by
  unfold validateUrlParseMqttPort at h ⊢
  dsimp only at h ⊢
  split_ifs at h ⊢
  · rfl
  · rfl

end Port

section Server

variable {P : Platform} {cfg : GwCfgMqtt} {server portText : Bytes}

theorem parseMqttServer_host (host : CStr gwCfgMaxMqttServerLen) (hcolon : colon ∉ host.val) :
    validateUrlParseMqttServer P (host.val ++ colon :: portText) cfg =
      validateUrlParseMqttPort P portText { cfg with mqttServer := host } := by
  have hindex : indexOf [colon] (host.val ++ ([colon] ++ portText)) = some host.val.length :=
    indexOf_of_notMem hcolon
  unfold validateUrlParseMqttServer
  rw [show indexOf (ascii ":") (host.val ++ colon :: portText) = _ from hindex]
  dsimp only
  rw [if_neg (Nat.not_le.mpr host.fits), List.take_left, CStr.snprintf_val,
    List.drop_length_add_append]
  rfl

/-- No host, or one that does not fit. -/
theorem parseMqttServer_other (hserver : 0 ∉ server)
    (h : ∀ (host : CStr gwCfgMaxMqttServerLen) portText, colon ∉ host.val →
      server ≠ host.val ++ colon :: portText) :
    validateUrlParseMqttServer P server cfg = (false, cfg) := by
  unfold validateUrlParseMqttServer
  split
  case h_1 => rfl
  case h_2 serverLen hindex =>
    obtain ⟨host, portText, rfl, rfl, hcolon⟩ := indexOf_singleton_some hindex
    split_ifs with hfits
    · rfl
    · have hnul : 0 ∉ host := fun hmem => hserver (List.mem_append_left _ hmem)
      exact absurd rfl (h ⟨host, hnul, Nat.not_le.mp hfits⟩ portText hcolon)

/-- Without a port nothing but the server is written. -/
theorem parseMqttServer_false (h : (validateUrlParseMqttServer P server cfg).1 = false) :
    ∃ mqttServer, (validateUrlParseMqttServer P server cfg).2 = { cfg with mqttServer } := by
  unfold validateUrlParseMqttServer at h ⊢
  split at h
  case h_1 => exact ⟨cfg.mqttServer, rfl⟩
  case h_2 =>
    split_ifs at h ⊢
    · exact ⟨cfg.mqttServer, rfl⟩
    · exact ⟨_, parseMqttPort_false h⟩

end Server

section Exactness

variable {P : Platform} {cfg : GwCfgMqtt} {url : Bytes}

theorem parseMqttUrl_text (hP : P.osStrToUint32Cptr = strtoul) (u : MqttUrl) :
    validateUrlParseMqttUrlInto P u.text cfg = (true, u.write cfg) := by
  unfold MqttUrl.text
  rw [parseMqttUrl_scheme, parseMqttServer_host _ u.host_colon]
  exact (parseMqttPort_true_iff hP).mpr ⟨u.portText, u.port, u.port_ne, rfl, u.port_denoted, rfl⟩

theorem exists_mqttUrl (hP : P.osStrToUint32Cptr = strtoul) (hurl : 0 ∉ url)
    (h : (validateUrlParseMqttUrlInto P url cfg).1 = true) : ∃ u : MqttUrl, u.text = url := by
  by_cases hscheme : ∃ (scheme : MqttScheme) (server : Bytes),
      url = scheme.text ++ (ascii "://" ++ server)
  · obtain ⟨scheme, server, rfl⟩ := hscheme
    rw [parseMqttUrl_scheme] at h
    by_cases hhost : ∃ (host : CStr gwCfgMaxMqttServerLen) (portText : Bytes),
        colon ∉ host.val ∧ server = host.val ++ colon :: portText
    · obtain ⟨host, portText, hcolon, rfl⟩ := hhost
      rw [parseMqttServer_host host hcolon] at h
      obtain ⟨d, port, hport, rfl, hdenotes, -⟩ := (parseMqttPort_true_iff hP).mp (Prod.ext h rfl)
      exact ⟨⟨scheme, host, d, port, hcolon, hport, hdenotes⟩, rfl⟩
    · have hserver : 0 ∉ server := fun hmem =>
        hurl (List.mem_append_right _ (List.mem_append_right _ hmem))
      rw [parseMqttServer_other hserver fun host portText hcolon heq =>
        hhost ⟨host, portText, hcolon, heq⟩] at h
      cases h
  · rw [parseMqttUrl_other fun scheme server heq => hscheme ⟨scheme, server, heq⟩] at h
    cases h

theorem parseMqttUrl_false (h : (validateUrlParseMqttUrlInto P url cfg).1 = false) :
    ∃ mqttTransport mqttServer,
      (validateUrlParseMqttUrlInto P url cfg).2 = { cfg with mqttTransport, mqttServer } := by
  unfold validateUrlParseMqttUrlInto at h ⊢
  split at h
  case h_1 => exact ⟨cfg.mqttTransport, cfg.mqttServer, rfl⟩
  case h_2 =>
    split at h
    case h_1 => exact ⟨cfg.mqttTransport, cfg.mqttServer, rfl⟩
    case h_2 =>
      obtain ⟨mqttServer, hserver⟩ := parseMqttServer_false h
      exact ⟨_, mqttServer, hserver⟩

/-- What the check of the user's URL is given. -/
theorem validateUrlParseMqttUrl_eq (hurl : 0 ∉ url) (cfg : GwCfgMqtt) :
    validateUrlParseMqttUrl P url =
      match validateUrlParseMqttUrlInto P url cfg with
      | (false, _) => none
      | (true, cfg) => some (cfg.mqttTransport.val, cfg.mqttServer.val, cfg.mqttPort) := by
  unfold validateUrlParseMqttUrl validateUrlParseMqttUrlInto validateUrlParseMqttServer
    validateUrlParseMqttPort
  generalize P.osStrToUint32Cptr = convert
  cases indexOf (ascii "://") url with
  | none => rfl
  | some separator =>
    dsimp only [Option.bind_eq_bind, Option.bind_some]
    cases htransport : mqttTransportOf ((url.take (separator + 3)).take (mqttUrlPrefixLen - 1)) with
    | none => rfl
    | some transport =>
      dsimp only [Option.bind_some]
      obtain ⟨scheme, -, rfl⟩ := mqttTransportOf_some htransport
      cases indexOf (ascii ":") (url.drop (separator + 3)) with
      | none => rfl
      | some serverLen =>
        dsimp only [Option.bind_some]
        by_cases hfits : gwCfgMaxMqttServerLen ≤ serverLen
        · rw [if_pos hfits, if_pos hfits]
          rfl
        · have hserver : (CStr.snprintf gwCfgMaxMqttServerLen
              ((url.drop (separator + 3)).take serverLen)).val =
              (url.drop (separator + 3)).take serverLen :=
            CStr.val_snprintf
              (fun hmem => hurl (List.mem_of_mem_drop (List.mem_of_mem_take hmem)))
              ((List.length_take_le _ _).trans_lt (Nat.not_le.mp hfits))
          rw [if_neg hfits, if_neg hfits]
          generalize convert ((url.drop (separator + 3)).drop (serverLen + 1)) 10 = port
          by_cases hrest : port.2 ≠ []
          · rw [if_pos hrest, if_pos hrest]
            rfl
          · rw [if_neg hrest, if_neg hrest]
            by_cases hrange : port.1 = 0 ∨ 0xffff < port.1
            · rw [if_pos hrange, if_pos hrange]
              rfl
            · rw [if_neg hrange, if_neg hrange]
              dsimp only
              rw [CStr.snprintf_val, hserver]
              rfl

/-- In a plain URL only digits follow the last colon. -/
theorem MqttUrl.IsPlain.colon_before_digits {u : MqttUrl} (h : u.IsPlain) :
    (u.text.reverse.dropWhile (isDigit 10)).head? = some colon := by
  obtain ⟨-, hblanks, hsign⟩ := h
  have htext : u.text =
      u.scheme.text ++ (ascii "://" ++ u.host.val) ++ colon :: u.portText.digits := by
    unfold MqttUrl.text DecimalText.text
    rw [hblanks, hsign, List.append_assoc, List.append_assoc]
    rfl
  rw [htext, List.reverse_append, List.reverse_cons, List.append_assoc, List.singleton_append,
    List.dropWhile_append_of_pos fun b hb => u.portText.isNumeral.2 b (List.mem_reverse.mp hb)]
  rfl

/-- Its port is the number of its digits. -/
theorem MqttUrl.IsPlain.numeral_eq {u : MqttUrl} (h : u.IsPlain) :
    numeral 10 u.portText.digits = u.port.toNat := by
  have hsign := u.portText.signText
  have hdenoted := u.port_denoted
  rw [h.2.2] at hsign
  unfold DecimalText.Denotes at hdenoted
  generalize u.portText.negative = negative at hsign hdenoted
  cases hsign
  exact hdenoted

/-- What is accepted has these parts, and they are what is written. Otherwise the transport and the
server can have been written. -/
theorem mqttUrl_exact (P : Platform) (hP : P.osStrToUint32Cptr = strtoul) (url : Bytes)
    (hurl : 0 ∉ url) (cfg : GwCfgMqtt) :
    ((validateUrlParseMqttUrlInto P url cfg).1 = true ↔ ∃ u : MqttUrl, u.text = url) ∧
    (∀ u : MqttUrl, u.text = url → (validateUrlParseMqttUrlInto P url cfg).2 = u.write cfg) ∧
    ((validateUrlParseMqttUrlInto P url cfg).1 = false → ∃ mqttTransport mqttServer,
      (validateUrlParseMqttUrlInto P url cfg).2 = { cfg with mqttTransport, mqttServer }) := by
  refine ⟨⟨exists_mqttUrl hP hurl, ?_⟩, ?_, parseMqttUrl_false⟩
  · rintro ⟨u, rfl⟩
    rw [parseMqttUrl_text hP]
  · rintro u rfl
    rw [parseMqttUrl_text hP]

/-- The configuration that `validate_url_on_get_check_mqtt` allocates. -/
def mqttCfgCalloc : GwCfgMqtt where
  useMqtt := false
  mqttDisableRetainedMessages := false
  useSslClientCert := false
  useSslServerCert := false
  mqttTransport := .empty
  mqttDataFormat := .ruuviRaw
  mqttServer := .empty
  mqttPort := 0
  mqttSendingInterval := 0
  mqttPrefix := .empty
  mqttClientId := .empty
  mqttUser := .empty
  mqttPass := .empty

def mqttUrlWss : MqttUrl where
  scheme := .mqttwss
  host := ⟨ascii "mqtt.server", by decide, by decide⟩
  portText :=
    ⟨[], [], false, ascii "8884", nofun, .none, nofun, List.all_eq_true.mp (by decide)⟩
  port := 8884
  host_colon := by decide
  port_ne := by decide
  port_denoted := rfl

theorem mqttUrl_exact_wss :
    (validateUrlParseMqttUrlInto strtoulPlatform (ascii "mqttwss://mqtt.server:8884")
      mqttCfgCalloc).1 = true ∧
    (validateUrlParseMqttUrlInto strtoulPlatform (ascii "mqttwss://mqtt.server:8884")
      mqttCfgCalloc).2 = mqttUrlWss.write mqttCfgCalloc := by
  have hexact := mqttUrl_exact strtoulPlatform rfl (ascii "mqttwss://mqtt.server:8884") (by decide)
    mqttCfgCalloc
  exact ⟨hexact.1.mpr ⟨mqttUrlWss, rfl⟩, hexact.2.1 mqttUrlWss rfl⟩

/-- The host can be empty, the port can begin with a blank and a sign, and a URL with the port 0 has
its transport and its server written. -/
theorem mqttUrl_not_plain :
    ((validateUrlParseMqttUrlInto strtoulPlatform (ascii "mqtt://:1883") mqttCfgCalloc).1 = true ∧
      ¬∃ u : MqttUrl, u.IsPlain ∧ u.text = ascii "mqtt://:1883") ∧
    ((validateUrlParseMqttUrlInto strtoulPlatform (ascii "mqtt://h: +1883")
        mqttCfgCalloc).1 = true ∧
      ¬∃ u : MqttUrl, u.IsPlain ∧ u.text = ascii "mqtt://h: +1883") ∧
    (validateUrlParseMqttUrlInto strtoulPlatform (ascii "mqtt://h:0") mqttCfgCalloc).1 = false ∧
    (validateUrlParseMqttUrlInto strtoulPlatform (ascii "mqtt://h:0") mqttCfgCalloc).2 ≠
      mqttCfgCalloc := by
  refine ⟨⟨by decide, ?_⟩, ⟨by decide, ?_⟩, by decide, by decide⟩
  · rintro ⟨u, hplain, htext⟩
    have hserver : (validateUrlParseMqttUrlInto strtoulPlatform (ascii "mqtt://:1883")
        mqttCfgCalloc).2.mqttServer.val = [] := by decide
    rw [← htext, parseMqttUrl_text rfl] at hserver
    exact hplain.1 hserver
  · rintro ⟨u, hplain, htext⟩
    have hhead := hplain.colon_before_digits
    rw [htext] at hhead
    exact absurd hhead (by decide)

end Exactness

end RuuviGateway.Http
