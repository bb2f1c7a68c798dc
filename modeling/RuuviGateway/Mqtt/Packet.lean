import RuuviGateway.General.Base128

/-!
# MQTT packets

A packet is a byte with its type and flags, the length of the rest, and the rest. The client builds
it in a buffer behind the room for the longest header; what does not fit is a fragment, whose
header already counts all of the message.
-/

namespace RuuviGateway.Mqtt

open General

section Build

def mqttMaxFixedHeaderSize : ℕ := 5

/-- `mqtt_message_type`, of which the gateway sends these. -/
inductive MqttMsgType
  | connect
  | publish
  | pingreq
  deriving DecidableEq, Repr

def MqttMsgType.num : MqttMsgType → ℕ
  | .connect => 1
  | .publish => 3
  | .pingreq => 12

/-- `mqtt_connection_t`: the bytes of its message, none of them where it cannot be created. -/
structure MqttConnection where
  bufferLength : ℕ
  data : Bytes
  fragmentedMsgTotalLength : ℕ
  fragmentedMsgDataOffset : ℤ
  deriving DecidableEq

/-- `mqtt_msg_init`. -/
def mqttMsgInit (bufferLength : ℕ) : MqttConnection := ⟨bufferLength, [], 0, 0⟩

def fixedHeader (type : MqttMsgType) (dup qos retain : ℕ) : UInt8 :=
  UInt8.ofNat (type.num % 16 * 16 + dup % 2 * 8 + qos % 4 * 2 + retain % 2)

variable (c : MqttConnection)

def failMessage : MqttConnection := { c with data := [] }

/-- `fini_message` of what has been put into the buffer. -/
def finiMessage (type : MqttMsgType) (dup qos retain : ℕ) (message : Bytes) : MqttConnection :=
  let totalLength :=
    if c.fragmentedMsgTotalLength = 0 then message.length
    else c.fragmentedMsgTotalLength - mqttMaxFixedHeaderSize
  let encodedLens := Base128.encode 4 totalLength
  { c with
    data := fixedHeader type dup qos retain :: encodedLens ++ message
    fragmentedMsgDataOffset := c.fragmentedMsgDataOffset -
      (mqttMaxFixedHeaderSize - 1 - encodedLens.length : ℤ) }

/-- A text with its length in two bytes. -/
def lenText (s : Bytes) : Bytes :=
  UInt8.ofNat (s.length / 256) :: UInt8.ofNat (s.length % 256) :: s

/-- `append_string` to so many bytes of the buffer. -/
def appendString (length : ℕ) (s : Bytes) : Option Bytes :=
  if c.bufferLength < length + s.length + 2 then none else some (lenText s)

def appendStrings (length : ℕ) : List Bytes → Option Bytes
  | [] => some []
  | s :: texts =>
      (appendString c length s).bind fun text =>
        (appendStrings (length + text.length) texts).map (text ++ ·)

/-- `mqtt_connect_info_t`. -/
structure MqttConnectInfo where
  clientId : Bytes
  username : Bytes
  password : Bytes
  willTopic : Bytes
  willMessage : Bytes
  willQos : ℕ
  willRetain : Bool
  keepalive : ℕ
  cleanSession : Bool

def MqttConnectInfo.flags (info : MqttConnectInfo) : ℕ :=
  (if info.cleanSession then 2 else 0) +
    (if info.willTopic = [] then 0
      else 4 + (if info.willRetain then 32 else 0) + info.willQos % 4 * 8) +
    (if info.username = [] ∧ info.password = [] then 0 else 128) +
    if info.password = [] then 0 else 64

/-- A password without a user is sent with an empty one. -/
def MqttConnectInfo.texts (info : MqttConnectInfo) : List Bytes :=
  [info.clientId] ++ (if info.willTopic = [] then [] else [info.willTopic, info.willMessage]) ++
    (if info.username = [] ∧ info.password = [] then [] else [info.username]) ++
    if info.password = [] then [] else [info.password]

def MqttConnectInfo.variableHeader (info : MqttConnectInfo) : Bytes :=
  lenText (ascii "MQTT") ++ [4, UInt8.ofNat info.flags, UInt8.ofNat (info.keepalive / 256),
    UInt8.ofNat (info.keepalive % 256)]

/-- `mqtt_msg_connect` for the version 3.1.1 of the protocol. -/
def mqttMsgConnect (info : MqttConnectInfo) : MqttConnection :=
  let length := mqttMaxFixedHeaderSize + info.variableHeader.length
  if c.bufferLength < length ∨ info.clientId = [] then failMessage c
  else
    match appendStrings c length info.texts with
    | none => failMessage c
    | some texts => finiMessage c .connect 0 0 0 (info.variableHeader ++ texts)

def mqttMsgPingreq : MqttConnection := finiMessage c .pingreq 0 0 0 []

/-- `mqtt_msg_publish` with the quality of service 0, which has no message id. -/
def mqttMsgPublish (topic data : Bytes) (retain : Bool) : MqttConnection :=
  if topic = [] then failMessage c
  else
    match appendString c mqttMaxFixedHeaderSize topic with
    | none => failMessage c
    | some text =>
        let length := mqttMaxFixedHeaderSize + text.length
        if c.bufferLength < length + data.length then
          finiMessage { c with
            fragmentedMsgDataOffset := length
            fragmentedMsgTotalLength := data.length + length }
            .publish 0 0 retain.toNat (text ++ data.take (c.bufferLength - length))
        else
          finiMessage { c with fragmentedMsgTotalLength := 0 }
            .publish 0 0 retain.toNat (text ++ data)

end Build

section Read

def mqttGetType (b : UInt8) : ℕ := b.toNat / 16 % 16

def mqttGetQos (b : UInt8) : ℕ := b.toNat / 2 % 4

def mqttGetRetain (b : UInt8) : ℕ := b.toNat % 2

/-- `mqtt_get_total_length`: the length of the packet at the beginning of the buffer, and that of
its fixed header. -/
def mqttGetTotalLength (buffer : Bytes) : ℕ × ℕ :=
  let (totlen, lens) := Base128.decode (buffer.drop 1)
  (totlen + (lens + 1), lens + 1)

/-- The length of the topic, behind the fixed header. -/
def topicLength (buffer : Bytes) (i : ℕ) : ℕ :=
  (buffer.getD i 0).toNat * 256 + (buffer.getD (i + 1) 0).toNat

def mqttGetPublishTopic (buffer : Bytes) : Option Bytes :=
  let i := (mqttGetTotalLength buffer).2
  if buffer.length ≤ i + 2 then none
  else
    let topiclen := topicLength buffer i
    if buffer.length < i + 2 + topiclen then none
    else some ((buffer.drop (i + 2)).take topiclen)

/-- `mqtt_get_publish_data`, which finds no data where there are none. -/
def mqttGetPublishData (buffer : Bytes) : Option Bytes :=
  let (totlen, i) := mqttGetTotalLength buffer
  if buffer.length ≤ i + 2 then none
  else
    let i := i + 2 + topicLength buffer i
    if buffer.length ≤ i then none
    else if 0 < mqttGetQos (buffer.headD 0) ∧ buffer.length ≤ i + 2 then none
    else
      let i := if 0 < mqttGetQos (buffer.headD 0) then i + 2 else i
      if totlen < i then none
      else some ((buffer.drop i).take (if totlen ≤ buffer.length then totlen - i
        else buffer.length - i))

/-- What a stream of bytes holds: one packet after the other, as long as they are complete. -/
def packetsOf : ℕ → Bytes → List Bytes
  | 0, _ => []
  | k + 1, stream =>
      let (totlen, lens) := mqttGetTotalLength stream
      if stream = [] ∨ lens = 1 ∨ stream.length < totlen then []
      else stream.take totlen :: packetsOf k (stream.drop totlen)

end Read

section RoundTrip

/-- A packet: its type and flags, and what follows the length. -/
structure Packet where
  header : UInt8
  rest : Bytes
  deriving DecidableEq

def Packet.encode (p : Packet) : Bytes := p.header :: Base128.encode 4 p.rest.length ++ p.rest

def publishPacket (topic data : Bytes) (retain : Bool) : Packet :=
  ⟨fixedHeader .publish 0 0 retain.toNat, lenText topic ++ data⟩

variable {p : Packet} {ps : List Packet} {topic data : Bytes} {retain : Bool}

theorem mqttGetTotalLength_encode (h : p.rest.length < 2 ^ 28) (rest : Bytes) :
    mqttGetTotalLength (p.encode ++ rest) =
      (p.encode.length, (Base128.encode 4 p.rest.length).length + 1) := by
  have hdecode : Base128.decode (Base128.encode 4 p.rest.length ++ (p.rest ++ rest)) =
      (p.rest.length, (Base128.encode 4 p.rest.length).length) :=
    Base128.decode_encode (by omega) _
  simp only [mqttGetTotalLength, Packet.encode, List.cons_append, List.drop_succ_cons,
    List.drop_zero, List.append_assoc, hdecode, List.length_cons, List.length_append,
    Prod.mk.injEq, and_true]
  omega

/-- The packets are found again in the stream of their bytes. -/
theorem packetsOf_encode (h : ∀ p ∈ ps, p.rest.length < 2 ^ 28) :
    packetsOf (ps.length + 1) (ps.flatMap Packet.encode) = ps.map Packet.encode := by
  induction ps with
  | nil => simp [packetsOf]
  | cons p ps ih =>
    have htotal := mqttGetTotalLength_encode (h p List.mem_cons_self) (ps.flatMap Packet.encode)
    have hpos : 0 < (Base128.encode 4 p.rest.length).length := Base128.length_encode_pos 3 _
    rw [List.flatMap_cons, List.length_cons, packetsOf, htotal]
    dsimp only
    rw [if_neg (by simp [Packet.encode, List.ne_nil_of_length_pos hpos]), List.take_left,
      List.drop_left, ih fun q hq => h q (List.mem_cons_of_mem p hq), List.map_cons]

theorem length_lenText (s : Bytes) : (lenText s).length = s.length + 2 := rfl

theorem mqttGetQos_fixedHeader (type : MqttMsgType) (retain : Bool) :
    mqttGetQos (fixedHeader type 0 0 retain.toNat) = 0 := by
  cases type <;> cases retain <;> decide

theorem topicLength_append {s : Bytes} (h : s.length < 2 ^ 16) (before after : Bytes) :
    topicLength (before ++ (lenText s ++ after)) before.length = s.length := by
  have hfirst : (before ++ (lenText s ++ after)).getD before.length 0 =
      UInt8.ofNat (s.length / 256) := by
    simp [lenText]
  have hsecond : (before ++ (lenText s ++ after)).getD (before.length + 1) 0 =
      UInt8.ofNat (s.length % 256) := by
    simp [lenText]
  simp only [topicLength, hfirst, hsecond, UInt8.toNat_ofNat']
  omega

/-- The getters of a received message find the topic and the data. -/
theorem publishPacket_read (htopicLen : topic.length < 2 ^ 16)
    (hdata : data ≠ []) (hdataLen : data.length < 2 ^ 27) :
    mqttGetPublishTopic (publishPacket topic data retain).encode = some topic ∧
      mqttGetPublishData (publishPacket topic data retain).encode = some data := by
  have hrest : (publishPacket topic data retain).rest.length = topic.length + 2 + data.length := by
    simp [publishPacket, length_lenText]
  have htotal := mqttGetTotalLength_encode
    (show (publishPacket topic data retain).rest.length < 2 ^ 28 by omega) []
  rw [List.append_nil] at htotal
  obtain ⟨before, hbefore, hencode⟩ : ∃ before : Bytes,
      before.length = (Base128.encode 4 (publishPacket topic data retain).rest.length).length + 1 ∧
        (publishPacket topic data retain).encode = before ++ (lenText topic ++ data) :=
    ⟨fixedHeader .publish 0 0 retain.toNat ::
      Base128.encode 4 (publishPacket topic data retain).rest.length, rfl, rfl⟩
  have hqos : mqttGetQos ((publishPacket topic data retain).encode.headD 0) = 0 :=
    mqttGetQos_fixedHeader .publish retain
  rw [← hbefore] at htotal
  rw [hencode] at htotal hqos ⊢
  have hdrop : (before ++ (lenText topic ++ data)).drop (before.length + 2) = topic ++ data := by
    rw [List.drop_append]
    simp [lenText]
  have hdataPos := List.length_pos_of_ne_nil hdata
  constructor
  · simp only [mqttGetPublishTopic, htotal, topicLength_append htopicLen, hdrop]
    rw [if_neg (by simp [length_lenText]; omega), if_neg (by simp [length_lenText]; omega)]
    simp
  · simp only [mqttGetPublishData, htotal, topicLength_append htopicLen, hqos, Nat.lt_irrefl,
      if_false, false_and]
    rw [if_neg (by simp [length_lenText]; omega), if_neg (by simp [length_lenText]; omega),
      if_neg (by simp [length_lenText]; omega), if_pos (Nat.le_refl _), ← List.drop_drop, hdrop]
    have hlen : (before ++ (lenText topic ++ data)).length - (before.length + 2 + topic.length) =
        data.length := by
      simp [length_lenText]
      omega
    rw [hlen]
    simp

end RoundTrip

end RuuviGateway.Mqtt
