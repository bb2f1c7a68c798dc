import RuuviGateway.General.ByteSink
import RuuviGateway.General.Transition
import RuuviGateway.Mqtt.Packet

/-!
# Publishing over one connection

The client of the broker writes a message from its buffer, and the rest of it, where the message is
longer than the buffer, in further fragments. The gateway does not tell the length of an
advertisement, so that it relies on the message to fit.
-/

namespace RuuviGateway.Mqtt.Publish

open General

section Client

/-- `CONFIG_MQTT_BUFFER_SIZE`. -/
def mqttBufferSize : ℕ := 1024

/-- The part of `esp_mqtt_client` that sending works on. -/
structure Client where
  connection : MqttConnection
  connected : Bool
  transport : Sink
  deriving DecidableEq

variable (c : Client)

def espMqttWrite : Bool × Sink :=
  c.transport.writeAll c.connection.data.length c.connection.data

def espMqttAbortConnection : Client := { c with connected := false }

/-- What the message has taken of the data, which is converted to a signed number. -/
def dataSent (connection : MqttConnection) : ℤ :=
  Int.bmod (connection.data.length - connection.fragmentedMsgDataOffset) (2 ^ 32)

/-- The loop that sends the fragments: `current` is the position in the data. -/
def sendFragments : ℕ → Client → Bytes → ℤ → ℤ → Bool × Client
  | 0, c, _, _, _ => (false, c)
  | rounds + 1, c, data, current, remainingLen =>
      match espMqttWrite c with
      | (false, transport) => (false, espMqttAbortConnection { c with transport := transport })
      | (true, transport) =>
          let current := current + dataSent c.connection
          let remainingLen := remainingLen - dataSent c.connection
          let connection := { c.connection with
            fragmentedMsgDataOffset := 0
            fragmentedMsgTotalLength := 0 }
          if 0 < remainingLen then
            sendFragments rounds
              { c with
                transport := transport
                connection := { connection with
                  data := (data.drop current.toNat).take
                    (min remainingLen.toNat connection.bufferLength) } }
              data current remainingLen
          else (true, { c with transport := transport, connection := connection })

def clearFragments : Client :=
  { c with connection := { c.connection with fragmentedMsgTotalLength := 0 } }

/-- `esp_mqtt_client_publish` with the quality of service 0. A length of 0 stands for the whole
text, but only where the message is created. -/
def espMqttClientPublish (topic data : Bytes) (len : ℕ) (retain : Bool) : ℤ × Client :=
  let text := if len = 0 then data else data.take len
  let c := { c with connection := mqttMsgPublish c.connection topic text retain }
  if c.connection.data = [] then (-1, c)
  else if ¬c.connected then (0, clearFragments c)
  else
    match sendFragments (data.length + 1) c data 0 len with
    | (true, c) => (0, c)
    | (false, c) => (-1, clearFragments c)

end Client

section Gateway

def topicLen : ℕ := 512

instance : NeZero topicLen := ⟨by decide⟩

/-- `mqtt_create_full_topic`, also with an empty beginning. -/
def mqttCreateFullTopic (beginning topic : Bytes) : CStr topicLen :=
  .snprintf topicLen (beginning ++ topic)

variable (beginning : Bytes) (c : Client)

/-- `mqtt_publish_adv` of the text of the message, while the client exists. -/
def mqttPublishAdv (tagMac : Bytes) : Option Bytes → Bool × Client
  | none => (false, c)
  | some json =>
      let topic := (mqttCreateFullTopic beginning tagMac).val
      if mqttBufferSize < topic.length + 2 + 2 + json.length + 2 then (false, c)
      else
        let (messageId, c) := espMqttClientPublish c topic json 0 false
        (decide (0 ≤ messageId), c)

def stateMessage (online : Bool) : Bytes :=
  if online then ascii "\x7b\"state\": \"online\"\x7d" else ascii "\x7b\"state\": \"offline\"\x7d"

/-- `mqtt_publish_connect` and `mqtt_publish_state_offline`. -/
def mqttPublishState (online retain : Bool) : Bool × Client :=
  let message := stateMessage online
  let (messageId, c) := espMqttClientPublish c
    (mqttCreateFullTopic beginning (ascii "gw_status")).val message message.length retain
  (decide (messageId ≠ -1), c)

/-- `esp_mqtt_connect` over a new connection, and whether the broker accepts it. -/
def espMqttConnect (info : MqttConnectInfo) (accepted : Bool) : Bool × Client :=
  let c := { c with connection := mqttMsgConnect c.connection info }
  if c.connection.data = [] then (false, c)
  else
    match espMqttWrite c with
    | (false, transport) => (false, { c with transport := transport })
    | (true, transport) => (accepted, { c with transport := transport, connected := accepted })

def espMqttClientPing : Bool × Client :=
  let c := { c with connection := mqttMsgPingreq c.connection }
  match espMqttWrite c with
  | (false, transport) => (false, espMqttAbortConnection { c with transport := transport })
  | (true, transport) => (true, { c with transport := transport })

/-- What the tasks do with the client, one after the other under its lock. -/
inductive Label
  | connect (info : MqttConnectInfo) (accepted : Bool)
  | ping
  | publishAdv (tagMac : Bytes) (json : Option Bytes)
  | publishState (online retain : Bool)
  | disconnect

/-- The results of the writes of one step. -/
def Client.withWrites (writes : List SinkWrite) : Client :=
  { c with transport := { c.transport with writes := writes } }

/-- What a step returns, and whether the client is connected then. -/
structure Out where
  success : Bool
  connected : Bool
  deriving DecidableEq

def perform : Label → Option (Bool × Client)
  | .connect info accepted =>
      if c.connected then none
      else
        some (espMqttConnect { c with transport := { c.transport with wire := [] } } info accepted)
  | .ping => if c.connected then some (espMqttClientPing c) else none
  | .publishAdv tagMac json => some (mqttPublishAdv beginning c tagMac json)
  | .publishState online retain => some (mqttPublishState beginning c online retain)
  | .disconnect => some (true, espMqttAbortConnection c)

def mqttSystem : System Client (Label × List SinkWrite) Out where
  init := ⟨mqttMsgInit mqttBufferSize, false, ⟨[], [], false⟩⟩
  step c label :=
    (perform beginning (c.withWrites label.2) label.1).map fun (success, c) =>
      (c, ⟨success, c.connected⟩)

end Gateway

section Spec

variable (beginning : Bytes)

/-- The packet that a step is about. -/
def Label.packet : Label → Packet
  | .connect info _ => ⟨fixedHeader .connect 0 0 0, info.variableHeader ++
      info.texts.flatMap lenText⟩
  | .ping => ⟨fixedHeader .pingreq 0 0 0, []⟩
  | .publishAdv tagMac json =>
      publishPacket (mqttCreateFullTopic beginning tagMac).val (json.getD []) false
  | .publishState online retain =>
      publishPacket (mqttCreateFullTopic beginning (ascii "gw_status")).val (stateMessage online)
        retain
  | .disconnect => ⟨0, []⟩

def Label.opens : Label → Bool
  | .connect _ _ => true
  | _ => false

/-- What has been sent over the connection: the step that has opened it, and every step that has
succeeded since. -/
def sent : List ((Label × List SinkWrite) × Out) → List Label
  | [] => []
  | (label, out) :: h =>
      if out.connected then
        (if label.1.opens then [] else sent h) ++ if out.success then [label.1] else []
      else []

/-- An advertisement of this length is let through, but does not fit into the buffer. -/
def Label.CutShort (label : Label) : Prop :=
  match label with
  | .publishAdv tagMac (some json) =>
      (mqttCreateFullTopic beginning tagMac).val.length + json.length = 1018
  | _ => False

instance (label : Label) : Decidable (label.CutShort beginning) := by
  unfold Label.CutShort
  split <;> infer_instance

/-- The steps of a run whose messages fit. -/
def fits (_ : Client) (label : Label × List SinkWrite) : Prop := ¬label.1.CutShort beginning

instance (c : Client) (label : Label × List SinkWrite) : Decidable (fits beginning c label) :=
  inferInstanceAs (Decidable (¬_))

end Spec

section Connection

/-- The connection between two of its messages, after so many of them. -/
structure Ready (n : ℕ) (connection : MqttConnection) : Prop where
  bufferLength : connection.bufferLength = mqttBufferSize
  unfragmented : connection.fragmentedMsgTotalLength = 0
  offset_ge : -(3 * n : ℤ) ≤ connection.fragmentedMsgDataOffset
  offset_le : connection.fragmentedMsgDataOffset ≤ 0

variable {n : ℕ} {connection : MqttConnection} {topic data : Bytes}

theorem Ready.mono (h : Ready n connection) : Ready (n + 1) connection := by
  obtain ⟨hlength, htotal, hge, hle⟩ := h
  exact ⟨hlength, htotal, by push_cast; omega, hle⟩

theorem Ready.failMessage (h : Ready n connection) : Ready n (failMessage connection) :=
  ⟨h.bufferLength, h.unfragmented, h.offset_ge, h.offset_le⟩

theorem Ready.finiMessage (h : Ready n connection) (type : MqttMsgType) (dup qos retain : ℕ)
    (message : Bytes) : Ready (n + 1) (finiMessage connection type dup qos retain message) ∧
      (finiMessage connection type dup qos retain message).data =
        (Packet.mk (fixedHeader type dup qos retain) message).encode := by
  obtain ⟨hlength, htotal, hge, hle⟩ := h
  have hlens := Base128.length_encode_le 4 message.length
  have hpos : 0 < (Base128.encode 4 message.length).length := Base128.length_encode_pos 3 _
  simp only [Mqtt.finiMessage, htotal, if_true, Packet.encode, mqttMaxFixedHeaderSize]
  refine ⟨⟨hlength, rfl, ?_, ?_⟩, trivial⟩
  · push_cast
    omega
  · dsimp only
    omega

theorem appendStrings_eq_some {length : ℕ} {texts : List Bytes} {text : Bytes}
    (h : appendStrings connection length texts = some text)
    (hlength : length ≤ connection.bufferLength) :
    text = texts.flatMap lenText ∧ length + text.length ≤ connection.bufferLength := by
  induction texts generalizing length text with
  | nil =>
    obtain rfl := Option.some.inj h
    simpa using hlength
  | cons s texts ih =>
    simp only [appendStrings, Option.bind_eq_some_iff, Option.map_eq_some_iff] at h
    obtain ⟨first, hfirst, rest, hrest, rfl⟩ := h
    simp only [appendString] at hfirst
    split_ifs at hfirst with hfits
    obtain rfl := Option.some.inj hfirst
    obtain ⟨htexts, hrestLength⟩ := ih hrest (by rw [length_lenText]; omega)
    rw [htexts, List.flatMap_cons, List.length_append]
    rw [htexts] at hrestLength
    exact ⟨rfl, by omega⟩

/-- A message that connects is whole, or there is none. -/
theorem mqttMsgConnect_cases (h : Ready n connection) (info : MqttConnectInfo) :
    Ready (n + 1) (mqttMsgConnect connection info) ∧
      ((mqttMsgConnect connection info).data = [] ∨
        (mqttMsgConnect connection info).data =
            (Packet.mk (fixedHeader .connect 0 0 0)
              (info.variableHeader ++ info.texts.flatMap lenText)).encode ∧
          (info.variableHeader ++ info.texts.flatMap lenText).length ≤ mqttBufferSize) := by
  simp only [mqttMsgConnect]
  split_ifs with hfail
  · exact ⟨h.failMessage.mono, .inl rfl⟩
  cases htexts : appendStrings connection (mqttMaxFixedHeaderSize + info.variableHeader.length)
      info.texts with
  | none => exact ⟨h.failMessage.mono, .inl rfl⟩
  | some texts =>
    obtain ⟨rfl, hlength⟩ := appendStrings_eq_some htexts (by omega)
    obtain ⟨hready, hdata⟩ := h.finiMessage .connect 0 0 0
      (info.variableHeader ++ info.texts.flatMap lenText)
    rw [h.bufferLength] at hlength
    refine ⟨hready, .inr ⟨hdata, ?_⟩⟩
    rw [List.length_append]
    omega

/-- A message that fits into the buffer is whole. -/
theorem mqttMsgPublish_whole (h : Ready n connection) (htopic : topic ≠ [])
    (hfits : topic.length + data.length + 7 ≤ mqttBufferSize) (retain : Bool) :
    Ready (n + 1) (mqttMsgPublish connection topic data retain) ∧
      (mqttMsgPublish connection topic data retain).data =
        (publishPacket topic data retain).encode := by
  have happend : appendString connection mqttMaxFixedHeaderSize topic = some (lenText topic) := by
    rw [appendString, if_neg]
    simp only [h.bufferLength, mqttMaxFixedHeaderSize]
    omega
  simp only [mqttMsgPublish, if_neg htopic, happend]
  rw [if_neg]
  · have hready : Ready n { connection with fragmentedMsgTotalLength := 0 } :=
      ⟨h.bufferLength, rfl, h.offset_ge, h.offset_le⟩
    exact hready.finiMessage .publish 0 0 retain.toNat (lenText topic ++ data)
  · simp only [h.bufferLength, length_lenText, mqttMaxFixedHeaderSize]
    omega

/-- The length counts all of the message, but its last byte is left out. -/
theorem mqttMsgPublish_cutShort (h : Ready n connection) (htopic : topic ≠ [])
    (htopicLen : topic.length < topicLen) (hcut : topic.length + data.length = 1018)
    (retain : Bool) :
    (mqttMsgPublish connection topic data retain).data =
        (publishPacket topic data retain).encode.dropLast ∧
      0 ≤ dataSent (mqttMsgPublish connection topic data retain) := by
  have htopicLen' : topic.length < 512 := htopicLen
  have happend : appendString connection mqttMaxFixedHeaderSize topic = some (lenText topic) := by
    rw [appendString, if_neg]
    simp only [h.bufferLength, mqttMaxFixedHeaderSize, mqttBufferSize]
    omega
  have hlength : mqttMaxFixedHeaderSize + (lenText topic).length = topic.length + 7 := by
    rw [length_lenText, mqttMaxFixedHeaderSize]
    omega
  have hrest : (lenText topic ++ data).length = 1020 := by
    rw [List.length_append, length_lenText]
    omega
  have hdata : data.take (1024 - (topic.length + 7)) = data.dropLast := by
    rw [List.dropLast_eq_take]
    congr 1
    omega
  have hnil : data ≠ [] := List.ne_nil_of_length_pos (by omega)
  have hlens : (Base128.encode 4 1020).length = 2 := by decide
  have hmessage : mqttMsgPublish connection topic data retain =
      { connection with
        data := fixedHeader .publish 0 0 retain.toNat :: Base128.encode 4 1020 ++
          (lenText topic ++ data.dropLast)
        fragmentedMsgTotalLength := 1025
        fragmentedMsgDataOffset := topic.length + 5 } := by
    have htotal : data.length + (topic.length + 7) = 1025 := by omega
    have hoffset : ((topic.length + 7 : ℕ) : ℤ) - ((5 : ℕ) - 1 - (2 : ℕ)) = topic.length + 5 := by
      push_cast
      omega
    simp only [mqttMsgPublish, if_neg htopic, happend, hlength]
    rw [if_pos (by rw [h.bufferLength, mqttBufferSize]; omega)]
    simp only [finiMessage, h.bufferLength, mqttBufferSize, hdata, htotal, mqttMaxFixedHeaderSize]
    rw [if_neg (by decide), hlens, hoffset]
  rw [hmessage]
  constructor
  · simp only [Packet.encode, publishPacket, hrest]
    rw [← List.append_assoc, ← List.append_assoc,
      List.dropLast_append_of_ne_nil hnil]
  · have hlast : data.dropLast.length + topic.length = 1017 := by
      rw [List.length_dropLast]
      omega
    have hsent : (fixedHeader .publish 0 0 retain.toNat :: Base128.encode 4 1020 ++
        (lenText topic ++ data.dropLast)).length = 1022 := by
      rw [List.length_append, List.length_cons, hlens, List.length_append, length_lenText]
      omega
    rw [dataSent, hsent]
    dsimp only
    rw [Int.bmod_eq_of_le] <;> omega

end Connection

section Sending

variable {n len : ℕ} {c : Client} {topic data : Bytes} {retain : Bool}

/-- What a write sends where the connection stays. -/
theorem espMqttWrite_wire (h : (espMqttWrite c).1 = true) :
    (espMqttWrite c).2.wire = c.transport.wire ++ c.connection.data := by
  rcases c.transport.writeAll_spec (Nat.le_refl c.connection.data.length) with
    ⟨-, hwire⟩ | ⟨hfailed, -⟩
  · exact hwire
  · exact absurd h (by rw [espMqttWrite, hfailed]; decide)

/-- Where the message has taken all of the data, one write sends it. -/
theorem espMqttClientPublish_spec {message : MqttConnection}
    (hmessage : mqttMsgPublish c.connection topic (if len = 0 then data else data.take len) retain =
      message) (hdata : message.data ≠ []) (hsent : (len : ℤ) ≤ dataSent message) :
    (∃ offset, (offset = message.fragmentedMsgDataOffset ∨ offset = 0) ∧
      (espMqttClientPublish c topic data len retain).2.connection =
        { message with fragmentedMsgTotalLength := 0, fragmentedMsgDataOffset := offset }) ∧
    ((espMqttClientPublish c topic data len retain).2.connected = true → c.connected = true ∧
      (espMqttClientPublish c topic data len retain).1 = 0 ∧
      (espMqttClientPublish c topic data len retain).2.transport.wire =
        c.transport.wire ++ message.data) := by
  simp only [espMqttClientPublish, hmessage, if_neg hdata]
  by_cases hconnected : c.connected
  · rw [if_neg (not_not.mpr hconnected), sendFragments]
    have hwire := espMqttWrite_wire (c := { c with connection := message })
    cases hwrite : espMqttWrite { c with connection := message } with
    | mk ok transport =>
      rw [hwrite] at hwire
      cases ok with
      | false =>
        refine ⟨⟨_, .inl rfl, rfl⟩, fun h => ?_⟩
        simp [clearFragments, espMqttAbortConnection] at h
      | true =>
        dsimp only
        rw [if_neg (by omega)]
        exact ⟨⟨_, .inr rfl, rfl⟩, fun _ => ⟨hconnected, rfl, hwire rfl⟩⟩
  · rw [if_pos hconnected]
    exact ⟨⟨_, .inl rfl, rfl⟩, fun h => absurd h hconnected⟩

/-- A message that fits is sent as a whole, or the connection is lost. -/
theorem espMqttClientPublish_whole (h : Ready n c.connection) (hn : n < 2 ^ 29)
    (htopic : topic ≠ []) (hfits : topic.length + data.length + 7 ≤ mqttBufferSize)
    (hlen : len = 0 ∨ len = data.length) (retain : Bool) :
    Ready (n + 1) (espMqttClientPublish c topic data len retain).2.connection ∧
      ((espMqttClientPublish c topic data len retain).2.connected = true → c.connected = true ∧
        (espMqttClientPublish c topic data len retain).1 = 0 ∧
        (espMqttClientPublish c topic data len retain).2.transport.wire =
          c.transport.wire ++ (publishPacket topic data retain).encode) := by
  have hall : (if len = 0 then data else data.take len) = data := by
    rcases hlen with rfl | rfl <;> simp
  obtain ⟨hready, hdata⟩ := mqttMsgPublish_whole h htopic hfits retain
  have hsent : (len : ℤ) ≤ dataSent (mqttMsgPublish c.connection topic data retain) := by
    have hge := hready.offset_ge
    have hle := hready.offset_le
    have hlens := Base128.length_encode_le 4 (publishPacket topic data retain).rest.length
    have hlength : (publishPacket topic data retain).encode.length =
        (Base128.encode 4 (publishPacket topic data retain).rest.length).length + 3 +
          topic.length + data.length := by
      simp only [publishPacket, Packet.encode, List.length_append, List.length_cons, length_lenText]
      omega
    rw [mqttBufferSize] at hfits
    rw [dataSent, hdata]
    push_cast at hge
    rw [Int.bmod_eq_of_le] <;> omega
  have hne : (mqttMsgPublish c.connection topic data retain).data ≠ [] := by
    simp [hdata, Packet.encode]
  obtain ⟨⟨offset, hoffset, hconnection⟩, hwire⟩ := espMqttClientPublish_spec
    (congrArg (mqttMsgPublish c.connection topic · retain) hall) hne hsent
  rw [hdata] at hwire
  refine ⟨?_, hwire⟩
  rw [hconnection]
  refine ⟨hready.bufferLength, rfl, ?_, ?_⟩
  · rcases hoffset with rfl | rfl
    · exact hready.offset_ge
    · push_cast
      omega
  · rcases hoffset with rfl | rfl
    · exact hready.offset_le
    · exact Int.le_refl 0

end Sending

section Steps

variable {beginning : Bytes} {n : ℕ} {c c' : Client} {label : Label} {success : Bool}

/-- What one step sends over the connection that is there after it. -/
structure Performed (beginning : Bytes) (n : ℕ) (c : Client) (label : Label) (success : Bool)
    (c' : Client) : Prop where
  ready : Ready (n + 1) c'.connection
  connected : c'.connected = true → label.opens = true ∨ c.connected = true
  wire : c'.connected = true → c'.transport.wire =
    (if label.opens then [] else c.transport.wire) ++
      if success then (label.packet beginning).encode else []
  length : c'.connected = true → success = true →
    (label.packet beginning).rest.length ≤ mqttBufferSize

/-- A step that sends nothing. -/
theorem Performed.unsent (hopens : label.opens = false) (hready : Ready n c'.connection)
    (hconnected : c'.connected = true → c.connected = true)
    (hwire : c'.transport.wire = c.transport.wire) : Performed beginning n c label false c' where
  ready := hready.mono
  connected h := .inr (hconnected h)
  wire _ := by simp [hopens, hwire]
  length _ h := by simp at h

theorem performed_publishAdv (h : Ready n c.connection) (hn : n < 2 ^ 29) (tagMac : Bytes)
    (json : Option Bytes) (hfits : ¬(Label.publishAdv tagMac json).CutShort beginning) :
    Performed beginning n c (.publishAdv tagMac json) (mqttPublishAdv beginning c tagMac json).1
      (mqttPublishAdv beginning c tagMac json).2 := by
  cases json with
  | none => exact .unsent rfl h id rfl
  | some json =>
    simp only [mqttPublishAdv]
    split_ifs with htooLong
    · exact .unsent rfl h id rfl
    by_cases htopic : (mqttCreateFullTopic beginning tagMac).val = []
    · rw [htopic]
      exact .unsent rfl h.failMessage id rfl
    have hlength : (mqttCreateFullTopic beginning tagMac).val.length + json.length + 7 ≤
        mqttBufferSize := by
      have hcut : (mqttCreateFullTopic beginning tagMac).val.length + json.length ≠ 1018 := hfits
      rw [mqttBufferSize] at *
      omega
    obtain ⟨hready, hsent⟩ :=
      espMqttClientPublish_whole h hn htopic hlength (.inl rfl) false
    refine ⟨hready, fun hc => .inr (hsent hc).1, fun hc => ?_, fun hc _ => ?_⟩
    · obtain ⟨-, hret, hwire⟩ := hsent hc
      rw [hwire, hret]
      rfl
    · simp only [Label.packet, publishPacket, List.length_append, length_lenText,
        Option.getD_some]
      omega

theorem performed_publishState (h : Ready n c.connection) (hn : n < 2 ^ 29) (online retain : Bool) :
    Performed beginning n c (.publishState online retain)
      (mqttPublishState beginning c online retain).1
      (mqttPublishState beginning c online retain).2 := by
  simp only [mqttPublishState]
  by_cases htopic : (mqttCreateFullTopic beginning (ascii "gw_status")).val = []
  · rw [htopic]
    exact .unsent rfl h.failMessage id rfl
  have hmessage : (stateMessage online).length ≤ 20 := by cases online <;> decide
  have hlength : (mqttCreateFullTopic beginning (ascii "gw_status")).val.length +
      (stateMessage online).length + 7 ≤ mqttBufferSize := by
    have htopicLen : (mqttCreateFullTopic beginning (ascii "gw_status")).val.length < 512 :=
      (mqttCreateFullTopic beginning (ascii "gw_status")).fits
    rw [mqttBufferSize]
    omega
  obtain ⟨hready, hsent⟩ := espMqttClientPublish_whole h hn htopic hlength (.inr rfl) retain
  refine ⟨hready, fun hc => .inr (hsent hc).1, fun hc => ?_, fun hc _ => ?_⟩
  · obtain ⟨-, hret, hwire⟩ := hsent hc
    rw [hwire, hret]
    rfl
  · simp only [Label.packet, publishPacket, List.length_append, length_lenText]
    omega

theorem performed_connect (beginning : Bytes) (h : Ready n c.connection) (info : MqttConnectInfo)
    (accepted : Bool) : Performed beginning n c (.connect info accepted)
      (espMqttConnect { c with transport := { c.transport with wire := [] }, connected := false }
        info accepted).1
      (espMqttConnect { c with transport := { c.transport with wire := [] }, connected := false }
        info accepted).2 := by
  obtain ⟨hready, hnil | ⟨hdata, hlength⟩⟩ := mqttMsgConnect_cases h info
  · simp only [espMqttConnect, if_pos hnil]
    exact ⟨hready, fun _ => .inl rfl, fun hc => by simp at hc, fun hc => by simp at hc⟩
  have hne : (mqttMsgConnect c.connection info).data ≠ [] := by simp [hdata, Packet.encode]
  have hwire := espMqttWrite_wire (c := ⟨mqttMsgConnect c.connection info, false,
    { c.transport with wire := [] }⟩)
  simp only [espMqttConnect, if_neg hne]
  cases hwrite : espMqttWrite ⟨mqttMsgConnect c.connection info, false,
      { c.transport with wire := [] }⟩ with
  | mk ok transport =>
    rw [hwrite] at hwire
    cases ok with
    | false => exact ⟨hready, fun _ => .inl rfl, fun hc => by simp at hc, fun hc => by simp at hc⟩
    | true =>
      refine ⟨hready, fun _ => .inl rfl, fun hc => ?_, fun _ _ => hlength⟩
      obtain rfl : accepted = true := hc
      exact (hwire rfl).trans (congrArg ([] ++ ·) hdata)

theorem performed_ping (h : Ready n c.connection) :
    Performed beginning n c .ping (espMqttClientPing c).1 (espMqttClientPing c).2 := by
  obtain ⟨hready, hdata⟩ := h.finiMessage .pingreq 0 0 0 []
  have hwire := espMqttWrite_wire (c := { c with connection := mqttMsgPingreq c.connection })
  simp only [espMqttClientPing]
  cases hwrite : espMqttWrite { c with connection := mqttMsgPingreq c.connection } with
  | mk ok transport =>
    rw [hwrite] at hwire
    cases ok with
    | false =>
      exact ⟨hready, fun hc => by simp [espMqttAbortConnection] at hc,
        fun hc => by simp [espMqttAbortConnection] at hc, fun _ hs => by simp at hs⟩
    | true =>
      refine ⟨hready, fun hc => .inr hc, fun _ => ?_, fun _ _ => by simp [Label.packet]⟩
      rw [hwire rfl]
      exact congrArg (c.transport.wire ++ ·) hdata

theorem performed (h : Ready n c.connection) (hn : n < 2 ^ 29)
    (hfits : ¬label.CutShort beginning) (hstep : perform beginning c label = some (success, c')) :
    Performed beginning n c label success c' := by
  cases label with
  | connect info accepted =>
    simp only [perform] at hstep
    split_ifs at hstep with hconnected
    obtain ⟨rfl, rfl⟩ := Prod.mk.inj (Option.some.inj hstep)
    have hperformed := performed_connect beginning h info accepted
    rw [Bool.not_eq_true] at hconnected
    rwa [← hconnected] at hperformed
  | ping =>
    simp only [perform] at hstep
    split_ifs at hstep
    obtain ⟨rfl, rfl⟩ := Prod.mk.inj (Option.some.inj hstep)
    exact performed_ping h
  | publishAdv tagMac json =>
    obtain ⟨rfl, rfl⟩ := Prod.mk.inj (Option.some.inj hstep)
    exact performed_publishAdv h hn tagMac json hfits
  | publishState online retain =>
    obtain ⟨rfl, rfl⟩ := Prod.mk.inj (Option.some.inj hstep)
    exact performed_publishState h hn online retain
  | disconnect =>
    obtain ⟨rfl, rfl⟩ := Prod.mk.inj (Option.some.inj hstep)
    exact ⟨h.mono, fun hc => by simp [espMqttAbortConnection] at hc,
      fun hc => by simp [espMqttAbortConnection] at hc,
      fun hc => by simp [espMqttAbortConnection] at hc⟩

end Steps

section Runs

@[simp] theorem wire_withWrites (c : Client) (writes : List SinkWrite) :
    (c.withWrites writes).transport.wire = c.transport.wire := rfl

variable {beginning : Bytes} {c c' : Client} {h : List ((Label × List SinkWrite) × Out)} {out : Out}

/-- What a run has sent over its connection. -/
structure Wired (beginning : Bytes) (h : List ((Label × List SinkWrite) × Out)) (c : Client) :
    Prop where
  ready : Ready h.length c.connection
  wire : c.connected = true →
    c.transport.wire = ((sent h).map (Label.packet beginning)).flatMap Packet.encode
  length : c.connected = true →
    ∀ label ∈ sent h, (label.packet beginning).rest.length ≤ mqttBufferSize

theorem Wired.step {label : Label × List SinkWrite} (hwired : Wired beginning h c)
    (hlength : h.length < 2 ^ 29) (hfits : ¬label.1.CutShort beginning)
    (hstep : (mqttSystem beginning).step c label = some (c', out)) :
    Wired beginning ((label, out) :: h) c' := by
  simp only [mqttSystem, Option.map_eq_some_iff] at hstep
  obtain ⟨⟨success, c₁⟩, hperform, heq⟩ := hstep
  obtain ⟨rfl, rfl⟩ := Prod.mk.inj heq
  have hdone := performed (c := c.withWrites label.2) hwired.ready hlength hfits hperform
  have hbefore : c₁.connected = true → label.1.opens = false → c.connected = true := by
    intro hc hopens
    exact (hdone.connected hc).resolve_left (by simp [hopens])
  refine ⟨hdone.ready, fun hc => ?_, fun hc l hl => ?_⟩
  · rw [hdone.wire hc, sent, if_pos hc]
    cases hopens : label.1.opens <;> cases success
    · simpa using hwired.wire (hbefore hc hopens)
    · simpa using hwired.wire (hbefore hc hopens)
    · simp
    · simp
  · rw [sent, if_pos hc, List.mem_append] at hl
    rcases hl with hl | hl
    · cases hopens : label.1.opens with
      | true => simp [hopens] at hl
      | false =>
        rw [hopens] at hl
        exact hwired.length (hbefore hc hopens) l hl
    · cases success with
      | false => simp at hl
      | true =>
        obtain rfl : l = label.1 := by simpa using hl
        exact hdone.length hc rfl

theorem wired (hr : (mqttSystem beginning).Run (fits beginning) h c) (hlength : h.length < 2 ^ 29) :
    Wired beginning h c := by
  induction hr with
  | init =>
    refine ⟨⟨rfl, rfl, ?_, Int.le_refl 0⟩, by simp [mqttSystem], by simp [mqttSystem]⟩
    simp [mqttSystem, mqttMsgInit]
  | step _ hfits hs ih =>
    rw [List.length_cons] at hlength
    exact (ih (by omega)).step (by omega) hfits hs

/-- As long as no message is cut short, the broker finds the messages that have been sent in the
bytes of the connection, with their topics and their data. -/
theorem sent_read (hr : (mqttSystem beginning).Run (fits beginning) h c)
    (hlength : h.length < 2 ^ 29) (hconnected : c.connected = true) :
    packetsOf ((sent h).length + 1) c.transport.wire =
        (sent h).map (fun label => (label.packet beginning).encode) ∧
      ∀ tagMac json, Label.publishAdv tagMac (some json) ∈ sent h → json ≠ [] →
        mqttGetPublishTopic ((Label.publishAdv tagMac (some json)).packet beginning).encode =
            some (mqttCreateFullTopic beginning tagMac).val ∧
          mqttGetPublishData ((Label.publishAdv tagMac (some json)).packet beginning).encode =
            some json := by
  have hwired := wired hr hlength
  have hsmall := hwired.length hconnected
  constructor
  · have hpackets : ∀ p ∈ (sent h).map (Label.packet beginning), p.rest.length < 2 ^ 28 := by
      intro p hp
      obtain ⟨label, hlabel, rfl⟩ := List.mem_map.mp hp
      have := hsmall label hlabel
      rw [mqttBufferSize] at this
      omega
    have hread := packetsOf_encode hpackets
    rw [List.length_map, List.map_map, ← hwired.wire hconnected] at hread
    exact hread
  · intro tagMac json hmem hjson
    have hrest : (lenText (mqttCreateFullTopic beginning tagMac).val ++ json).length ≤ 1024 :=
      hsmall _ hmem
    rw [List.length_append, length_lenText] at hrest
    exact publishPacket_read (by omega) hjson (show json.length < 2 ^ 27 by omega)

theorem sent_read_sample :
    ∃ h c, (mqttSystem (ascii "a/")).Run (fits (ascii "a/")) h c ∧ (sent h).length = 3 ∧
      packetsOf 4 c.transport.wire =
        (sent h).map (fun label => (label.packet (ascii "a/")).encode) := by
  obtain ⟨h, c, hr, -, hP⟩ := System.exists_history_of_exec (S := mqttSystem (ascii "a/"))
    (G := fits (ascii "a/"))
    [(.connect ⟨ascii "i", [], [], [], [], 0, false, 120, true⟩ true,
        [⟨some 5, false⟩, ⟨some 100, false⟩]),
      (.publishState true true, [⟨some 100, false⟩]),
      (.publishAdv (ascii "t") (some (ascii "1")), [⟨some 3, false⟩, ⟨some 100, false⟩])]
    (P := fun h c => decide (h.length = 3 ∧ (sent h).length = 3 ∧ c.connected = true)) (by decide)
  obtain ⟨hlength, hsent, hconnected⟩ := of_decide_eq_true hP
  have hread := (sent_read hr (by omega) hconnected).1
  rw [hsent] at hread
  exact ⟨h, c, hr, hsent, hread⟩

/-- An advertisement that is cut short reports its success, but its last byte is never sent. -/
theorem mqttPublishAdv_cutShort {n : ℕ} {tagMac json : Bytes} (hready : Ready n c.connection)
    (hcut : (Label.publishAdv tagMac (some json)).CutShort beginning)
    (hsuccess : (mqttPublishAdv beginning c tagMac (some json)).1 = true)
    (hconnected : (mqttPublishAdv beginning c tagMac (some json)).2.connected = true) :
    (mqttPublishAdv beginning c tagMac (some json)).2.transport.wire = c.transport.wire ++
      (publishPacket (mqttCreateFullTopic beginning tagMac).val json false).encode.dropLast := by
  have hlength : (mqttCreateFullTopic beginning tagMac).val.length + json.length = 1018 := hcut
  simp only [mqttPublishAdv] at hsuccess hconnected ⊢
  rw [if_neg (by rw [mqttBufferSize]; omega)] at hsuccess hconnected ⊢
  by_cases htopic : (mqttCreateFullTopic beginning tagMac).val = []
  · rw [htopic] at hsuccess
    exact absurd hsuccess Bool.false_ne_true
  obtain ⟨hdata, hsent⟩ := mqttMsgPublish_cutShort hready htopic
    (mqttCreateFullTopic beginning tagMac).fits hlength false
  have hne : (mqttMsgPublish c.connection (mqttCreateFullTopic beginning tagMac).val json
      false).data ≠ [] := by
    rw [hdata]
    apply List.ne_nil_of_length_pos
    simp only [Packet.encode, publishPacket, List.length_dropLast, List.length_append,
      List.length_cons, length_lenText]
    omega
  rw [← hdata]
  have hspec := (espMqttClientPublish_spec rfl hne (by simpa using hsent)).2 hconnected
  exact hspec.2.2

theorem mqttSystem_step_publishAdv (tagMac : Bytes) (json : Option Bytes)
    (writes : List SinkWrite) :
    (mqttSystem beginning).step c (.publishAdv tagMac json, writes) =
      some ((mqttPublishAdv beginning (c.withWrites writes) tagMac json).2,
        ⟨(mqttPublishAdv beginning (c.withWrites writes) tagMac json).1,
          (mqttPublishAdv beginning (c.withWrites writes) tagMac json).2.connected⟩) := rfl

/-- The client sends an advertisement that it reports as sent as a whole, except at the one length
that the check of the gateway lets through and the buffer does not hold. -/
theorem publishAdv_sent_iff {tagMac json : Bytes} {writes : List SinkWrite}
    (hr : (mqttSystem beginning).Run (fits beginning) h c) (hlength : h.length < 2 ^ 29)
    (hstep : (mqttSystem beginning).step c (.publishAdv tagMac (some json), writes) =
      some (c', out))
    (hsuccess : out.success = true) (hconnected : out.connected = true) :
    c'.transport.wire = c.transport.wire ++
        (publishPacket (mqttCreateFullTopic beginning tagMac).val json false).encode ↔
      (mqttCreateFullTopic beginning tagMac).val.length + json.length ≠ 1018 := by
  have hready := (wired hr hlength).ready
  rw [mqttSystem_step_publishAdv, Option.some.injEq] at hstep
  obtain ⟨rfl, rfl⟩ := Prod.mk.inj hstep
  constructor
  · intro hwire hcut
    rw [mqttPublishAdv_cutShort (c := c.withWrites writes) hready hcut hsuccess hconnected,
      wire_withWrites] at hwire
    have hlen := congrArg List.length (List.append_cancel_left hwire)
    rw [List.length_dropLast] at hlen
    simp only [Packet.encode, List.length_append, List.length_cons] at hlen
    omega
  · intro hfits
    have hdone := performed_publishAdv (c := c.withWrites writes) hready hlength tagMac (some json)
      hfits
    rw [hdone.wire hconnected, if_pos hsuccess]
    rfl

theorem publishAdv_sent_iff_sample :
    ∃ h c c' out, (mqttSystem []).Run (fits []) h c ∧
      (mqttSystem []).step c (.publishAdv (ascii "t") (some (ascii "1")), [⟨some 100, false⟩]) =
          some (c', out) ∧
        (c'.transport.wire = c.transport.wire ++
            (publishPacket (mqttCreateFullTopic [] (ascii "t")).val (ascii "1") false).encode ↔
          (mqttCreateFullTopic [] (ascii "t")).val.length + (ascii "1").length ≠ 1018) := by
  obtain ⟨h, c, hr, -, hP⟩ := System.exists_history_of_exec (S := mqttSystem []) (G := fits [])
    [(.connect ⟨ascii "i", [], [], [], [], 0, false, 120, true⟩ true, [⟨some 100, false⟩])]
    (P := fun h c => decide (h.length = 1 ∧
      ((mqttSystem []).step c (.publishAdv (ascii "t") (some (ascii "1")),
        [⟨some 100, false⟩])).any fun r => r.2.success && r.2.connected)) (by decide)
  obtain ⟨hlength, hstep⟩ := of_decide_eq_true hP
  obtain ⟨⟨c', out⟩, hstep, hout⟩ := (Option.any_eq_true _ _).mp hstep
  obtain ⟨hsuccess, hconnected⟩ := Bool.and_eq_true_iff.mp hout
  exact ⟨h, c, c', out, hr, hstep, publishAdv_sent_iff hr (by omega) hstep hsuccess hconnected⟩

end Runs

end RuuviGateway.Mqtt.Publish
