import RuuviGateway.General.ByteSource
import RuuviGateway.General.Transition
import RuuviGateway.Mqtt.Packet

/-!
# Receiving messages

The client reads a message in parts: the first byte, the bytes of the length one by one, and the
rest. Where the connection has nothing more for now, the next call goes on from what has been read.
-/

namespace RuuviGateway.Mqtt.Receive

open General

section Receiver

/-- `CONFIG_MQTT_BUFFER_SIZE`. -/
def inBufferLength : ℕ := 1024

/-- The bytes of the input buffer that have been read, and the connection. -/
structure Receiver where
  inBuffer : Bytes
  source : Source
  deriving DecidableEq

/-- What a part of `mqtt_message_receive` comes to: an error, no more data for now, or the part has
been read. -/
inductive Progress
  | failed
  | waiting
  | ready
  deriving DecidableEq, Repr

def mqttGetDup (b : UInt8) : ℕ := b.toNat / 8 % 2

def mqttHasValidMsgHdr (b : UInt8) : Bool :=
  if mqttGetType b ∈ [1, 2, 4, 5, 7, 9, 11, 12, 13, 14] then b.toNat % 16 = 0
  else if mqttGetType b ∈ [6, 8, 10] then b.toNat % 16 = 2
  else if mqttGetType b = 3 then mqttGetQos b < 3 ∧ (0 < mqttGetQos b ∨ mqttGetDup b = 0)
  else false

variable (r : Receiver)

/-- `esp_transport_read` behind what has been read. -/
def transportRead (n : ℕ) : Progress × Receiver :=
  match r.source.read n with
  | (none, source) => (.failed, { r with source := source })
  | (some [], source) => (.waiting, { r with source := source })
  | (some bytes, source) => (.ready, ⟨r.inBuffer ++ bytes, source⟩)

/-- The first byte, which is dropped if it is not the one of a message. -/
def readFirstByte : Progress × Receiver :=
  if r.inBuffer = [] then
    match transportRead r 1 with
    | (.ready, r') =>
        if mqttHasValidMsgHdr (r'.inBuffer.headD 0) then (.ready, r')
        else (.failed, { r' with inBuffer := [] })
    | result => result
  else (.ready, r)

/-- The last byte that has been read tells that more follow. -/
def lengthGoesOn : Bool := r.inBuffer.length < 6 ∧ 128 ≤ (r.inBuffer.getLastD 0).toNat

/-- The loop that reads the bytes of the length. -/
def readLengthBytes : ℕ → Receiver → Progress × Receiver
  | 0, r => (.ready, r)
  | rounds + 1, r =>
      match transportRead r 1 with
      | (.ready, r) => if lengthGoesOn r then readLengthBytes rounds r else (.ready, r)
      | result => result

def readRemainingLength : Progress × Receiver :=
  if r.inBuffer.length = 1 ∨ lengthGoesOn r then readLengthBytes 5 r else (.ready, r)

/-- The rest up to a length, with one read. -/
def readUpTo (totalLen : ℕ) : Progress × Receiver :=
  if r.inBuffer.length < totalLen then
    match transportRead r (totalLen - r.inBuffer.length) with
    | (.ready, r) => if r.inBuffer.length < totalLen then (.waiting, r) else (.ready, r)
    | result => result
  else (.ready, r)

/-- The length of the topic of a message that is longer than the buffer. -/
def readTopicLength (fixedHeaderLen : ℕ) : Progress × Receiver :=
  if r.inBuffer.length < fixedHeaderLen + 2 then
    match transportRead r (r.inBuffer.length - fixedHeaderLen + 2) with
    | (.ready, r) =>
        if r.inBuffer.length < fixedHeaderLen + 2 then (.waiting, r) else (.ready, r)
    | result => result
  else (.ready, r)

/-- The rest of the message. Of a published message that is longer than the buffer, this is what the
buffer holds, if this includes the topic. -/
def readRest : Progress × Receiver :=
  let (totalLen, fixedHeaderLen) := mqttGetTotalLength r.inBuffer
  if inBufferLength < totalLen then
    if mqttGetType (r.inBuffer.headD 0) = MqttMsgType.publish.num then
      match readTopicLength r fixedHeaderLen with
      | (.ready, r) =>
          let totalLen := fixedHeaderLen + topicLength r.inBuffer fixedHeaderLen +
            if 0 < mqttGetQos (r.inBuffer.headD 0) then 2 else 0
          if inBufferLength < totalLen then (.failed, r) else readUpTo r inBufferLength
      | result => result
    else (.failed, r)
  else readUpTo r totalLen

def mqttMessageReceive : Progress × Receiver :=
  match readFirstByte r with
  | (.ready, r) =>
      match readRemainingLength r with
      | (.ready, r) => readRest r
      | result => result
  | result => result

end Receiver

section Connection

/-- A connection until it is given up. -/
structure Connection where
  receiver : Receiver
  connected : Bool
  deriving DecidableEq

/-- Bytes arrive, or the task of the client calls `mqtt_process_receive`, in which the reads have
these results. -/
inductive Label
  | arrive (bytes : Bytes)
  | poll (reads : List (Option ℕ))
  deriving DecidableEq

/-- `mqtt_process_receive` as far as the message goes: it is handled and the buffer is empty again,
and after an error the connection is given up. -/
def mqttProcessReceive (c : Connection) : Connection × Option Bytes :=
  match mqttMessageReceive c.receiver with
  | (.failed, r) => (⟨r, false⟩, none)
  | (.waiting, r) => (⟨r, true⟩, none)
  | (.ready, r) => (⟨{ r with inBuffer := [] }, true⟩, some r.inBuffer)

def Connection.withReads (c : Connection) (reads : List (Option ℕ)) : Connection :=
  { c with receiver := { c.receiver with source := { c.receiver.source with reads := reads } } }

def receiveSystem : System Connection Label (Option Bytes) where
  init := ⟨⟨[], ⟨[], []⟩⟩, true⟩
  step c label :=
    if c.connected then
      match label with
      | .arrive bytes =>
          some ({ c with receiver := { c.receiver with source := { c.receiver.source with
            incoming := c.receiver.source.incoming ++ bytes } } }, none)
      | .poll reads => some (mqttProcessReceive (c.withReads reads))
    else none

/-- What has arrived in the course of a run. -/
def arrived : List (Label × Option Bytes) → Bytes
  | [] => []
  | (.arrive bytes, _) :: h => arrived h ++ bytes
  | (.poll _, _) :: h => arrived h

/-- The messages that have been handled. -/
def handled : List (Label × Option Bytes) → List Bytes
  | [] => []
  | (_, message) :: h => handled h ++ message.toList

end Connection

section Message

variable {p : Packet} {n : ℕ}

def fixedHeaderLen (p : Packet) : ℕ := (Base128.encode 4 p.rest.length).length + 1

/-- A message for which the buffer is long enough. If two or three bytes follow the length, the last
two do not both look like a length that goes on. -/
structure Receivable (p : Packet) : Prop where
  valid : mqttHasValidMsgHdr p.header = true
  length_le : p.encode.length ≤ inBufferLength
  ending : 2 ≤ p.rest.length → p.rest.length ≤ 3 →
    128 ≤ (p.rest.getD (p.rest.length - 2) 0).toNat →
      (p.rest.getD (p.rest.length - 1) 0).toNat < 128

theorem length_encode (p : Packet) : p.encode.length = fixedHeaderLen p + p.rest.length := by
  simp only [Packet.encode, fixedHeaderLen, List.cons_append, List.length_cons, List.length_append]
  omega

theorem fixedHeaderLen_bounds (p : Packet) : 2 ≤ fixedHeaderLen p ∧ fixedHeaderLen p ≤ 5 := by
  have hpos : 0 < (Base128.encode 4 p.rest.length).length := Base128.length_encode_pos 3 _
  have hle := Base128.length_encode_le 4 p.rest.length
  rw [fixedHeaderLen]
  omega

theorem Receivable.rest_lt (hp : Receivable p) : p.rest.length < 128 ^ 4 := by
  have hle := hp.length_le
  rw [length_encode, inBufferLength] at hle
  omega

/-- With so many bytes of the message, the last one tells that the length goes on. -/
def goesOn (p : Packet) (n : ℕ) : Bool := n < 6 ∧ 128 ≤ (p.encode.getD (n - 1) 0).toNat

/-- In the length itself this is so up to its last byte. -/
theorem goesOn_iff (hp : Receivable p) (hn : 1 < n) (hle : n ≤ fixedHeaderLen p) :
    goesOn p n = true ↔ n < fixedHeaderLen p := by
  have hbounds := fixedHeaderLen_bounds p
  have hlt : n - 2 < (Base128.encode 4 p.rest.length).length := by
    rw [fixedHeaderLen] at hle
    omega
  have hbyte : p.encode.getD (n - 1) 0 = (Base128.encode 4 p.rest.length)[n - 2] := by
    obtain ⟨m, rfl⟩ : ∃ m, n = m + 2 := ⟨n - 2, by omega⟩
    have hm : m < (Base128.encode 4 p.rest.length).length := hlt
    simp [Packet.encode, List.getElem?_append_left hm, List.getElem?_eq_getElem hm]
  have hmark : 128 ≤ (Base128.encode 4 p.rest.length)[n - 2].toNat ↔
      n - 2 + 1 < (Base128.encode 4 p.rest.length).length :=
    Base128.marked_encode hp.rest_lt hlt
  rw [goesOn, decide_eq_true_iff, hbyte, hmark, fixedHeaderLen]
  rw [fixedHeaderLen] at hbounds hle
  omega

theorem getD_encode (hn : fixedHeaderLen p ≤ n) :
    p.encode.getD n 0 = p.rest.getD (n - fixedHeaderLen p) 0 := by
  rw [List.getD_eq_getElem?_getD, List.getD_eq_getElem?_getD, Packet.encode,
    List.getElem?_append_right (by simpa [fixedHeaderLen] using hn), List.length_cons,
    fixedHeaderLen]

/-- It is not so of the last byte of the message where it is so of the one before. -/
theorem not_goesOn_length (hp : Receivable p) (hpos : 0 < n)
    (hn : n = 1 ∨ goesOn p n = true) (hlen : n + 1 = p.encode.length) :
    goesOn p p.encode.length = false := by
  rw [Bool.eq_false_iff]
  intro hlast
  have hbounds := fixedHeaderLen_bounds p
  have hlength := length_encode p
  rcases Nat.lt_or_ge (fixedHeaderLen p) n with hlt | hge
  · obtain rfl | hn := hn
    · omega
    rw [goesOn, decide_eq_true_iff] at hn hlast
    rw [getD_encode (by omega)] at hn hlast
    have hending := hp.ending (by omega) (by omega)
    rw [show n - 1 - fixedHeaderLen p = p.rest.length - 2 by omega] at hn
    rw [show p.encode.length - 1 - fixedHeaderLen p = p.rest.length - 1 by omega] at hlast
    have := hending hn.2
    omega
  · have hmore : n < fixedHeaderLen p := by
      rcases Nat.lt_or_ge 1 n with hone | hone
      · exact (goesOn_iff hp hone hge).mp (hn.resolve_left (by omega))
      · omega
    have hend : p.encode.length = fixedHeaderLen p := by omega
    rw [goesOn_iff hp (by omega) (by omega)] at hlast
    omega

end Message

section Parts

variable {p : Packet} {r r' r'' : Receiver} {tail : Bytes} {n : ℕ}

/-- What one part of a call leaves as it was. -/
structure Kept (r r' : Receiver) : Prop where
  stream : r'.inBuffer ++ r'.source.incoming = r.inBuffer ++ r.source.incoming
  reads : r'.source.reads ⊆ r.source.reads

theorem Kept.trans (h : Kept r r') (h' : Kept r' r'') : Kept r r'' :=
  ⟨h'.stream.trans h.stream, List.Subset.trans h'.reads h.reads⟩

theorem Kept.refl (r : Receiver) : Kept r r := ⟨rfl, List.Subset.refl _⟩

theorem transportRead_cases (r : Receiver) (n : ℕ) :
    ∃ result r', transportRead r n = (result, r') ∧ Kept r r' ∧
      (result = .failed ∧ none ∈ r.source.reads ∨
        result = .waiting ∧ r'.inBuffer = r.inBuffer ∨
        result = .ready ∧ r.inBuffer.length < r'.inBuffer.length ∧
          r'.inBuffer.length ≤ r.inBuffer.length + n) := by
  rw [transportRead]
  rcases r.source.read_cases n with ⟨hnone, hread⟩ | ⟨bytes, source, hread, hle, hbytes, hreads⟩
  · rw [hread]
    exact ⟨_, _, rfl, ⟨rfl, (List.tail_sublist _).subset⟩, .inl ⟨rfl, hnone⟩⟩
  · rw [hread]
    cases bytes with
    | nil => exact ⟨_, _, rfl, ⟨by simpa using hbytes, hreads ▸ (List.tail_sublist _).subset⟩,
        .inr (.inl ⟨rfl, rfl⟩)⟩
    | cons b bytes =>
      refine ⟨_, _, rfl, ⟨?_, hreads ▸ (List.tail_sublist _).subset⟩, .inr (.inr ⟨rfl, ?_, ?_⟩)⟩
      · rw [List.append_assoc, hbytes]
      · simp
      · rw [List.length_append]
        omega

/-- What has been read and what has arrived are the message and what follows, as far as they are
there. -/
def Reading (p : Packet) (tail : Bytes) (r : Receiver) : Prop :=
  r.inBuffer ++ r.source.incoming <+: p.encode ++ tail

theorem Reading.kept (h : Reading p tail r) (hkept : Kept r r') : Reading p tail r' := by
  rwa [Reading, hkept.stream]

theorem Reading.inBuffer_begins (h : Reading p tail r)
    (hle : r.inBuffer.length ≤ p.encode.length) : r.inBuffer <+: p.encode :=
  List.prefix_of_prefix_length_le ((List.prefix_append _ _).trans h) (List.prefix_append _ _) hle

theorem Reading.lengthGoesOn_eq (h : Reading p tail r) (hpos : 0 < r.inBuffer.length)
    (hle : r.inBuffer.length ≤ p.encode.length) :
    lengthGoesOn r = goesOn p r.inBuffer.length := by
  obtain ⟨more, hmore⟩ := h.inBuffer_begins hle
  have hlast : r.inBuffer.getLastD 0 = p.encode.getD (r.inBuffer.length - 1) 0 := by
    rw [← hmore, List.getD_eq_getElem?_getD, List.getElem?_append_left (by omega),
      List.getLastD_eq_getLast?, List.getLast?_eq_getElem?]
  rw [lengthGoesOn, goesOn, hlast]

/-- The total length is right as soon as all of the length has been read. -/
theorem Reading.mqttGetTotalLength_eq (hp : Receivable p) (h : Reading p tail r)
    (hge : fixedHeaderLen p ≤ r.inBuffer.length) (hle : r.inBuffer.length ≤ p.encode.length) :
    mqttGetTotalLength r.inBuffer = (p.encode.length, fixedHeaderLen p) := by
  obtain ⟨more, hmore⟩ : p.header :: Base128.encode 4 p.rest.length <+: r.inBuffer :=
    List.prefix_of_prefix_length_le
      ⟨p.rest, by rw [Packet.encode]⟩ (h.inBuffer_begins hle) (by simpa [fixedHeaderLen] using hge)
  have hdecode : Base128.decode (Base128.encode 4 p.rest.length ++ more) =
      (p.rest.length, (Base128.encode 4 p.rest.length).length) :=
    Base128.decode_encode hp.rest_lt _
  rw [← hmore, mqttGetTotalLength, List.cons_append, List.drop_succ_cons, List.drop_zero, hdecode,
    length_encode, fixedHeaderLen, Nat.add_comm]

/-- What the loop comes to: the message is not read to its end without the length complete. -/
theorem readLengthBytes_spec (hp : Receivable p) (rounds : ℕ) (h : Reading p tail r)
    (hpos : 0 < r.inBuffer.length) (hlt : r.inBuffer.length < p.encode.length)
    (hgoes : r.inBuffer.length = 1 ∨ goesOn p r.inBuffer.length = true)
    (hrounds : 6 ≤ r.inBuffer.length + rounds) :
    ∃ result r', readLengthBytes rounds r = (result, r') ∧ Kept r r' ∧
      (result = .failed ∧ none ∈ r.source.reads ∨
        result = .waiting ∧ 0 < r'.inBuffer.length ∧ r'.inBuffer.length < p.encode.length ∨
        result = .ready ∧ fixedHeaderLen p ≤ r'.inBuffer.length ∧
          r'.inBuffer.length ≤ p.encode.length) := by
  induction rounds generalizing r with
  | zero =>
    rw [goesOn, decide_eq_true_iff] at hgoes
    omega
  | succ rounds ih =>
    rw [readLengthBytes]
    obtain ⟨result, r', hread, hkept, hcases⟩ := transportRead_cases r 1
    rw [hread]
    rcases hcases with ⟨rfl, hnone⟩ | ⟨rfl, hsame⟩ | ⟨rfl, hmore, hone⟩
    · exact ⟨_, _, rfl, hkept, .inl ⟨rfl, hnone⟩⟩
    · exact ⟨_, _, rfl, hkept, .inr (.inl ⟨rfl, by rwa [hsame], by rwa [hsame]⟩)⟩
    have h' := h.kept hkept
    have hlen : r'.inBuffer.length = r.inBuffer.length + 1 := by omega
    dsimp only
    rw [h'.lengthGoesOn_eq (by omega) (by omega)]
    cases hgo : goesOn p r'.inBuffer.length with
    | true =>
      have hne : r'.inBuffer.length ≠ p.encode.length := by
        intro hend
        have hstop := not_goesOn_length hp hpos hgoes (by omega)
        rw [hend, hstop] at hgo
        exact Bool.false_ne_true hgo
      obtain ⟨result, r'', heq, hkept', hresult⟩ :=
        ih h' (by omega) (by omega) (.inr hgo) (by omega)
      refine ⟨result, r'', heq, hkept.trans hkept', ?_⟩
      rcases hresult with ⟨hfailed, hnone⟩ | hresult
      · exact .inl ⟨hfailed, hkept.reads hnone⟩
      · exact .inr hresult
    | false =>
      refine ⟨.ready, r', rfl, hkept, .inr (.inr ⟨rfl, ?_, by omega⟩)⟩
      by_contra hshort
      have := (goesOn_iff hp (by omega) (by omega)).mpr (Nat.lt_of_not_ge hshort)
      rw [hgo] at this
      exact Bool.false_ne_true this

theorem readRemainingLength_spec (hp : Receivable p) (h : Reading p tail r)
    (hpos : 0 < r.inBuffer.length) (hlt : r.inBuffer.length < p.encode.length) :
    ∃ result r', readRemainingLength r = (result, r') ∧ Kept r r' ∧
      (result = .failed ∧ none ∈ r.source.reads ∨
        result = .waiting ∧ 0 < r'.inBuffer.length ∧ r'.inBuffer.length < p.encode.length ∨
        result = .ready ∧ fixedHeaderLen p ≤ r'.inBuffer.length ∧
          r'.inBuffer.length ≤ p.encode.length) := by
  rw [readRemainingLength, h.lengthGoesOn_eq hpos (by omega)]
  split_ifs with hgoes
  · exact readLengthBytes_spec hp 5 h hpos hlt hgoes (by omega)
  · refine ⟨_, _, rfl, Kept.refl r, .inr (.inr ⟨rfl, ?_, by omega⟩)⟩
    by_contra hshort
    exact hgoes (.inr ((goesOn_iff hp (by omega) (by omega)).mpr (Nat.lt_of_not_ge hshort)))

theorem readRest_spec (hp : Receivable p) (h : Reading p tail r)
    (hge : fixedHeaderLen p ≤ r.inBuffer.length) (hle : r.inBuffer.length ≤ p.encode.length) :
    ∃ result r', readRest r = (result, r') ∧ Kept r r' ∧
      (result = .failed ∧ none ∈ r.source.reads ∨
        result = .waiting ∧ r'.inBuffer.length < p.encode.length ∨
        result = .ready ∧ r'.inBuffer = p.encode) := by
  have hfull {r' : Receiver} (hkept : Kept r r') (hlen : r'.inBuffer.length = p.encode.length) :
      r'.inBuffer = p.encode :=
    ((h.kept hkept).inBuffer_begins (Nat.le_of_eq hlen)).eq_of_length hlen
  rw [readRest, h.mqttGetTotalLength_eq hp hge hle]
  dsimp only
  rw [if_neg (Nat.not_lt.mpr hp.length_le), readUpTo]
  split_ifs with hlt
  · obtain ⟨result, r', hread, hkept, hcases⟩ :=
      transportRead_cases r (p.encode.length - r.inBuffer.length)
    rw [hread]
    rcases hcases with ⟨rfl, hnone⟩ | ⟨rfl, hsame⟩ | ⟨rfl, hmore, hupTo⟩
    · exact ⟨_, _, rfl, hkept, .inl ⟨rfl, hnone⟩⟩
    · exact ⟨_, _, rfl, hkept, .inr (.inl ⟨rfl, by rwa [hsame]⟩)⟩
    · dsimp only
      split_ifs with hpart
      · exact ⟨_, _, rfl, hkept, .inr (.inl ⟨rfl, hpart⟩)⟩
      · exact ⟨_, _, rfl, hkept, .inr (.inr ⟨rfl, hfull hkept (by omega)⟩)⟩
  · exact ⟨_, _, rfl, Kept.refl r, .inr (.inr ⟨rfl, hfull (Kept.refl r) (by omega)⟩)⟩

theorem readFirstByte_spec (hp : Receivable p) (h : Reading p tail r)
    (hlt : r.inBuffer.length < p.encode.length) :
    ∃ result r', readFirstByte r = (result, r') ∧ Kept r r' ∧
      (result = .failed ∧ none ∈ r.source.reads ∨
        result = .waiting ∧ r'.inBuffer.length < p.encode.length ∨
        result = .ready ∧ 0 < r'.inBuffer.length ∧ r'.inBuffer.length < p.encode.length) := by
  have htwo : 2 ≤ p.encode.length := by
    have := fixedHeaderLen_bounds p
    rw [length_encode]
    omega
  rw [readFirstByte]
  split_ifs with hnil
  · obtain ⟨result, r', hread, hkept, hcases⟩ := transportRead_cases r 1
    rw [hread]
    rw [hnil, List.length_nil] at hcases
    rcases hcases with ⟨rfl, hnone⟩ | ⟨rfl, hsame⟩ | ⟨rfl, hmore, hone⟩
    · exact ⟨_, _, rfl, hkept, .inl ⟨rfl, hnone⟩⟩
    · exact ⟨_, _, rfl, hkept, .inr (.inl ⟨rfl, by rw [hsame, List.length_nil]; omega⟩)⟩
    · have hbyte : r'.inBuffer.headD 0 = p.header := by
        obtain ⟨more, hbytes⟩ := (h.kept hkept).inBuffer_begins (by omega)
        cases hbuffer : r'.inBuffer with
        | nil => rw [hbuffer, List.length_nil] at hmore; omega
        | cons b bs =>
          rw [hbuffer, Packet.encode, List.cons_append, List.cons_append] at hbytes
          exact (List.cons.inj hbytes).1
      dsimp only
      rw [hbyte, if_pos hp.valid]
      exact ⟨_, _, rfl, hkept, .inr (.inr ⟨rfl, hmore, by omega⟩)⟩
  · exact ⟨_, _, rfl, Kept.refl r,
      .inr (.inr ⟨rfl, List.length_pos_of_ne_nil hnil, hlt⟩)⟩

/-- A call comes to an error of the connection, to a part of the message or to all of it. -/
theorem mqttMessageReceive_spec (hp : Receivable p) (h : Reading p tail r)
    (hlt : r.inBuffer.length < p.encode.length) :
    ∃ result r', mqttMessageReceive r = (result, r') ∧ Kept r r' ∧
      (result = .failed ∧ none ∈ r.source.reads ∨
        result = .waiting ∧ r'.inBuffer.length < p.encode.length ∨
        result = .ready ∧ r'.inBuffer = p.encode) := by
  rw [mqttMessageReceive]
  obtain ⟨result, r₁, hfirst, hkept₁, hcases⟩ := readFirstByte_spec hp h hlt
  rw [hfirst]
  rcases hcases with ⟨rfl, hnone⟩ | ⟨rfl, hpart⟩ | ⟨rfl, hpos, hlt⟩
  · exact ⟨_, _, rfl, hkept₁, .inl ⟨rfl, hnone⟩⟩
  · exact ⟨_, _, rfl, hkept₁, .inr (.inl ⟨rfl, hpart⟩)⟩
  obtain ⟨result, r₂, hlength, hkept, hcases⟩ :=
    readRemainingLength_spec hp (h.kept hkept₁) hpos hlt
  have hkept₂ := hkept₁.trans hkept
  dsimp only
  rw [hlength]
  rcases hcases with ⟨rfl, hnone⟩ | ⟨rfl, -, hpart⟩ | ⟨rfl, hge, hle⟩
  · exact ⟨_, _, rfl, hkept₂, .inl ⟨rfl, hkept₁.reads hnone⟩⟩
  · exact ⟨_, _, rfl, hkept₂, .inr (.inl ⟨rfl, hpart⟩)⟩
  obtain ⟨result, r₃, hrest, hkept, hcases⟩ := readRest_spec hp (h.kept hkept₂) hge hle
  dsimp only
  rw [hrest]
  refine ⟨result, r₃, rfl, hkept₂.trans hkept, ?_⟩
  rcases hcases with ⟨hfailed, hnone⟩ | hcases
  · exact .inl ⟨hfailed, hkept₂.reads hnone⟩
  · exact .inr hcases

/-- Nothing comes of a call where nothing has arrived. -/
theorem mqttMessageReceive_nil (hbuffer : r.inBuffer = []) (hincoming : r.source.incoming = []) :
    ∃ result r', mqttMessageReceive r = (result, r') ∧ Kept r r' ∧
      (result = .failed ∧ none ∈ r.source.reads ∨ result = .waiting) := by
  rw [mqttMessageReceive, readFirstByte, if_pos hbuffer]
  obtain ⟨result, r', hread, hkept, hcases⟩ := transportRead_cases r 1
  rw [hread]
  rcases hcases with ⟨rfl, hnone⟩ | ⟨rfl, -⟩ | ⟨rfl, hmore, -⟩
  · exact ⟨_, _, rfl, hkept, .inl ⟨rfl, hnone⟩⟩
  · exact ⟨_, _, rfl, hkept, .inr rfl⟩
  · have hstream := congrArg List.length hkept.stream
    rw [hbuffer, hincoming] at hstream
    rw [hbuffer] at hmore
    simp only [List.length_append, List.length_nil] at hstream hmore
    omega

end Parts

section Run

variable {ps : List Packet} {h : List (Label × Option Bytes)} {s s' : Connection} {label : Label}
  {message : Option Bytes}

/-- A read has failed. -/
def ReadFailed (h : List (Label × Option Bytes)) : Prop :=
  ∃ reads message, (Label.poll reads, message) ∈ h ∧ none ∈ reads

theorem ReadFailed.cons (e : Label × Option Bytes) (hfailed : ReadFailed h) :
    ReadFailed (e :: h) := by
  obtain ⟨reads, message, hmem, hnone⟩ := hfailed
  exact ⟨reads, message, List.mem_cons_of_mem e hmem, hnone⟩

/-- What has been read and what has arrived behind the messages that have been handled. -/
def Connection.unhandled (s : Connection) : Bytes :=
  s.receiver.inBuffer ++ s.receiver.source.incoming

/-- The messages that have come are the handled ones, the one that is read and others. -/
structure Received (ps : List Packet) (h : List (Label × Option Bytes)) (s : Connection)
    (k : ℕ) : Prop where
  handled : handled h = (ps.take k).map Packet.encode
  arrived : s.connected = true →
    arrived h = (ps.take k).flatMap Packet.encode ++ s.unhandled
  buffer : s.connected = true →
    s.receiver.inBuffer = [] ∨
      ∃ p ∈ (ps.drop k).head?, s.receiver.inBuffer.length < p.encode.length
  failed : s.connected = false → ReadFailed h

theorem arrived_prefix_cons (e : Label × Option Bytes) (h : List (Label × Option Bytes)) :
    arrived h <+: arrived (e :: h) := by
  obtain ⟨label, message⟩ := e
  cases label with
  | arrive bytes => exact List.prefix_append _ _
  | poll reads => exact List.prefix_refl _

theorem Received.init : Received ps [] receiveSystem.init 0 where
  handled := rfl
  arrived _ := rfl
  buffer _ := .inl rfl
  failed hfalse := Bool.noConfusion hfalse

variable {k : ℕ} {reads : List (Option ℕ)}

theorem Received.arrive {bytes : Bytes} (hr : Received ps h s k) (hconnected : s.connected = true)
    (hbuffer : s'.receiver.inBuffer = s.receiver.inBuffer)
    (hincoming : s'.receiver.source.incoming = s.receiver.source.incoming ++ bytes)
    (hconnected' : s'.connected = true) :
    Received ps ((.arrive bytes, none) :: h) s' k where
  handled := by rw [Receive.handled, hr.handled, Option.toList_none, List.append_nil]
  arrived _ := by
    rw [Receive.arrived, hr.arrived hconnected, Connection.unhandled, Connection.unhandled, hbuffer,
      hincoming, List.append_assoc, List.append_assoc]
  buffer _ := by
    rw [hbuffer]
    exact hr.buffer hconnected
  failed hfalse := by
    rw [hconnected'] at hfalse
    exact Bool.noConfusion hfalse

/-- A read fails: the connection is given up. -/
theorem Received.fail (hr : Received ps h s k) (hnone : none ∈ reads)
    (hconnected' : s'.connected = false) : Received ps ((.poll reads, none) :: h) s' k where
  handled := by rw [Receive.handled, hr.handled, Option.toList_none, List.append_nil]
  arrived htrue := by
    rw [hconnected'] at htrue
    exact Bool.noConfusion htrue
  buffer htrue := by
    rw [hconnected'] at htrue
    exact Bool.noConfusion htrue
  failed _ := ⟨reads, none, List.mem_cons_self, hnone⟩

/-- A part of the message is read. -/
theorem Received.wait (hr : Received ps h s k) (hconnected : s.connected = true)
    (hunhandled : s'.unhandled = s.unhandled)
    (hbuffer : s'.receiver.inBuffer = [] ∨
      ∃ p ∈ (ps.drop k).head?, s'.receiver.inBuffer.length < p.encode.length)
    (hconnected' : s'.connected = true) : Received ps ((.poll reads, none) :: h) s' k where
  handled := by rw [Receive.handled, hr.handled, Option.toList_none, List.append_nil]
  arrived _ := by rw [Receive.arrived, hr.arrived hconnected, hunhandled]
  buffer _ := hbuffer
  failed hfalse := by
    rw [hconnected'] at hfalse
    exact Bool.noConfusion hfalse

/-- The message is complete. -/
theorem Received.handle {p : Packet} {qs : List Packet} (hr : Received ps h s k)
    (hconnected : s.connected = true) (hdrop : ps.drop k = p :: qs)
    (hbuffer : s'.receiver.inBuffer = [])
    (hunhandled : s.unhandled = p.encode ++ s'.receiver.source.incoming)
    (hconnected' : s'.connected = true) :
    Received ps ((.poll reads, some p.encode) :: h) s' (k + 1) := by
  have htake : ps.take (k + 1) = ps.take k ++ [p] := by
    rw [List.take_add, hdrop, List.take_succ_cons, List.take_zero]
  constructor
  · rw [Receive.handled, hr.handled, htake, List.map_append, Option.toList_some, List.map_singleton]
  · intro _
    rw [Receive.arrived, hr.arrived hconnected, hunhandled, htake, List.flatMap_append,
      List.flatMap_singleton, List.append_assoc, Connection.unhandled, hbuffer, List.nil_append]
  · exact fun _ => .inl hbuffer
  · intro hfalse
    rw [hconnected'] at hfalse
    exact Bool.noConfusion hfalse

/-- What is not handled are the bytes of the messages that come next. -/
theorem Received.unhandled_begins (hr : Received ps h s k) (hconnected : s.connected = true)
    (harrived : Receive.arrived h <+: ps.flatMap Packet.encode) :
    s.unhandled <+: (ps.drop k).flatMap Packet.encode := by
  rw [hr.arrived hconnected] at harrived
  nth_rewrite 2 [← List.take_append_drop k ps] at harrived
  rw [List.flatMap_append] at harrived
  exact (List.prefix_append_right_inj _).mp harrived

/-- Where nothing is left to be read, nothing is handled. -/
theorem Received.poll_nil (hr : Received ps h s k) (hconnected : s.connected = true)
    (hnil : s.unhandled = []) :
    Received ps ((.poll reads, (mqttProcessReceive (s.withReads reads)).2) :: h)
      (mqttProcessReceive (s.withReads reads)).1 k := by
  rw [Connection.unhandled, List.append_eq_nil_iff] at hnil
  obtain ⟨result, r', heq, hkept, hcases⟩ :=
    mqttMessageReceive_nil (r := (s.withReads reads).receiver) hnil.1 hnil.2
  rw [mqttProcessReceive, heq]
  rcases hcases with ⟨rfl, hnone⟩ | rfl
  · exact hr.fail hnone rfl
  · refine hr.wait hconnected hkept.stream (.inl ?_) rfl
    have hstream := hkept.stream
    rw [show (s.withReads reads).receiver.inBuffer = [] from hnil.1,
      show (s.withReads reads).receiver.source.incoming = [] from hnil.2] at hstream
    exact (List.append_eq_nil_iff.mp hstream).1

/-- Where a message has begun, it is handled as soon as it is complete. -/
theorem Received.poll_cons {p : Packet} {qs : List Packet} (hp : Receivable p)
    (hr : Received ps h s k) (hconnected : s.connected = true) (hdrop : ps.drop k = p :: qs)
    (hbegins : s.unhandled <+: p.encode ++ qs.flatMap Packet.encode) :
    ∃ k', Received ps ((.poll reads, (mqttProcessReceive (s.withReads reads)).2) :: h)
      (mqttProcessReceive (s.withReads reads)).1 k' := by
  have hpos : 0 < p.encode.length := by
    rw [Packet.encode]
    simp
  have hreading : Reading p (qs.flatMap Packet.encode) (s.withReads reads).receiver := hbegins
  have hlt : (s.withReads reads).receiver.inBuffer.length < p.encode.length := by
    have hbuffer := hr.buffer hconnected
    rw [hdrop] at hbuffer
    rcases hbuffer with hnil | ⟨q, hq, hlt⟩
    · rwa [show (s.withReads reads).receiver.inBuffer = [] from hnil]
    · cases hq
      exact hlt
  obtain ⟨result, r', heq, hkept, hcases⟩ := mqttMessageReceive_spec hp hreading hlt
  rw [mqttProcessReceive, heq]
  rcases hcases with ⟨rfl, hnone⟩ | ⟨rfl, hpart⟩ | ⟨rfl, hwhole⟩
  · exact ⟨k, hr.fail hnone rfl⟩
  · exact ⟨k, hr.wait hconnected hkept.stream (.inr ⟨p, by rw [hdrop]; rfl, hpart⟩) rfl⟩
  · dsimp only
    rw [hwhole]
    refine ⟨k + 1, hr.handle hconnected hdrop rfl ?_ rfl⟩
    have hstream := hkept.stream
    rw [hwhole] at hstream
    exact hstream.symm

theorem Received.step (hps : ∀ p ∈ ps, Receivable p) (hr : Received ps h s k)
    (harrived : Receive.arrived h <+: ps.flatMap Packet.encode)
    (hs : receiveSystem.step s label = some (s', message)) :
    ∃ k', Received ps ((label, message) :: h) s' k' := by
  have hconnected : s.connected = true := by
    by_contra hgone
    simp [receiveSystem, hgone] at hs
  simp only [receiveSystem, if_pos hconnected] at hs
  cases label with
  | arrive bytes =>
    cases hs
    exact ⟨k, hr.arrive hconnected rfl rfl hconnected⟩
  | poll reads =>
    obtain rfl := congrArg Prod.fst (Option.some.inj hs)
    obtain rfl := congrArg Prod.snd (Option.some.inj hs)
    have hbegins := hr.unhandled_begins hconnected harrived
    cases hdrop : ps.drop k with
    | nil =>
      rw [hdrop, List.flatMap_nil, List.prefix_nil] at hbegins
      exact ⟨k, hr.poll_nil hconnected hbegins⟩
    | cons p qs =>
      have hp : Receivable p := hps p (List.mem_of_mem_drop (hdrop ▸ List.mem_cons_self))
      rw [hdrop, List.flatMap_cons] at hbegins
      exact hr.poll_cons hp hconnected hdrop hbegins

theorem exists_received (hps : ∀ p ∈ ps, Receivable p) (hr : receiveSystem.FreeRun h s)
    (harrived : arrived h <+: ps.flatMap Packet.encode) : ∃ k, Received ps h s k := by
  induction hr with
  | init => exact ⟨0, .init⟩
  | step _ _ hs ih =>
    have hbefore := (arrived_prefix_cons _ _).trans harrived
    obtain ⟨k, hk⟩ := ih hbefore
    exact hk.step hps hbefore hs

section Sample

/-- The answer to a ping, an acknowledgement and a published message. -/
def samplePackets : List Packet :=
  [⟨208, []⟩, ⟨64, [0, 200]⟩, ⟨48, [0, 1, 97, 200, 200]⟩]

def sampleLabels : List Label :=
  [.poll [], .arrive [208], .poll [some 1], .arrive [0, 64], .poll [some 9], .arrive [2],
    .poll [some 1, some 1], .arrive [0, 200, 48, 5, 0], .poll [some 1], .poll [some 4],
    .poll [some 1, some 1, some 2], .arrive [1, 97, 200, 200], .poll [some 3], .poll [some 7]]

theorem receivable_samplePackets : ∀ p ∈ samplePackets, Receivable p := by
  intro p hp
  simp only [samplePackets, List.mem_cons, List.not_mem_nil, or_false] at hp
  rcases hp with rfl | rfl | rfl <;> constructor <;> decide

end Sample

/-- After the first of the two last bytes of such a message a part of the next message is taken for
its end. -/
example : (receiveSystem.exec System.anyStep
    [.arrive [64, 2, 128], .poll [some 1, some 1, some 9], .arrive [128, 208, 0],
      .poll [some 1, some 1, some 1]] [] receiveSystem.init).map (fun r => handled r.1) =
    some [[64, 2, 128, 128, 208, 0]] := by
  decide

end Run

end RuuviGateway.Mqtt.Receive
