import RuuviGateway.AdvTable.Report
import RuuviGateway.Config.Default
import RuuviGateway.General.Json

/-!
# Reports as JSON

The generator functions for the HTTP targets and for MQTT name the value of every field and the type
as which it is printed. The texts, their chunks and the decoders of the data formats come from other
components and are parameters.
-/

namespace RuuviGateway.AdvPost

open AdvTable Config General

section Generator

/-- `JSON_STREAM_GEN_ADD_INT32`. -/
def addInt32 (value : Int32) : Json := .number value.toInt

/-- `JSON_STREAM_GEN_ADD_UINT32`. -/
def addUint32 (value : UInt32) : Json := .number value.toNat

/-- `JSON_STREAM_GEN_ADD_HEX_BUF`. -/
def addHexBuf (bytes : List UInt8) : Json := .string (bytes.flatMap hexUpper)

/-- `json_stream_gen`: the text of a JSON with and without formatting, the results of the calls of
`json_stream_gen_get_next_chunk`, and the reader of a text. -/
structure JsonStreamGen where
  print : (flagFormattedJson : Bool) → Json → Bytes
  nextChunk : (maxChunkSize : ℕ) → Json → ℕ → Option Bytes
  parse : Bytes → Option Json

/-- A data format: `re_N_check_format`, and the values of the fields that `re_N_decode` yields. -/
structure Endpoint where
  checkFormat : Vector UInt8 advDataMaxLen → Bool
  decode : Vector UInt8 advDataMaxLen → Option (String → Json)

/-- What the generator functions take from elsewhere. -/
structure JsonEnv where
  macAddressToStr : MacAddressBin → String
  reCaUartBlePhyNotSet : BlePhy
  reCaUartBlePhy2Mbps : BlePhy
  reCaUartBlePhyCoded : BlePhy
  reCaUartBleGapPowerLevelInvalid : Int8
  re5 : Endpoint
  re6 : Endpoint
  reF0 : Endpoint
  reE0 : Endpoint

/-- The fields that a decoder adds. -/
def Endpoint.items (e : Endpoint) (names : List String) (adv : AdvReport) : List (String × Json) :=
  match e.decode adv.dataBuf with
  | none => []
  | some value => names.map fun name => (name, value name)

def df5Names : List String :=
  ["dataFormat", "temperature", "humidity", "pressure", "accelX", "accelY", "accelZ",
    "movementCounter", "voltage", "txPower", "measurementSequenceNumber", "id"]

def df6Names : List String :=
  ["dataFormat", "temperature", "humidity", "PM1.0", "PM2.5", "PM4.0", "PM10.0", "CO2", "VOC",
    "NOx", "measurementSequenceNumber", "id"]

def dfF0Names : List String :=
  ["dataFormat", "temperature", "humidity", "pressure", "PM1.0", "PM2.5", "PM4.0", "PM10.0", "CO2",
    "VOC", "NOx", "luminosity", "sound_dba_avg", "measurementSequenceNumber", "flag_usb_on",
    "flag_low_battery", "flag_calibration_in_progress", "flag_boost_mode", "id"]

def dfE0Names : List String :=
  ["dataFormat", "temperature", "humidity", "pressure", "PM1.0", "PM2.5", "PM4.0", "PM10.0", "CO2",
    "VOC", "NOx", "luminosity", "sound_dba_avg", "sound_dba_peak", "voltage",
    "measurementSequenceNumber", "flag_usb_on", "flag_low_battery", "flag_calibration_in_progress",
    "flag_boost_mode", "id"]

/-- A decoder is called if it knows the format. -/
def Endpoint.decoded (e : Endpoint) (names : List String) (adv : AdvReport) :
    List (String × Json) :=
  if e.checkFormat adv.dataBuf then e.items names adv else []

end Generator

section Http

/-- `http_json_create_stream_gen_advs_params_t`. -/
structure AdvsParams where
  flagRawData : Bool
  flagDecode : Bool
  flagUseTimestamps : Bool
  curTime : UInt32
  flagUseNonce : Bool
  nonce : UInt32
  macAddr : Bytes
  coordinates : Bytes

variable (E : JsonEnv) (p : AdvsParams)

/-- The secondary PHY, if it has a name. -/
def blePhyItem (adv : AdvReport) : List (String × Json) :=
  if adv.secondaryPhy = E.reCaUartBlePhyNotSet then [("ble_phy", .string (ascii "1M"))]
  else if adv.secondaryPhy = E.reCaUartBlePhy2Mbps then [("ble_phy", .string (ascii "2M"))]
  else if adv.secondaryPhy = E.reCaUartBlePhyCoded then [("ble_phy", .string (ascii "Coded"))]
  else []

/-- The macro converts the signed power to an unsigned value. -/
def bleTxPowerItem (adv : AdvReport) : List (String × Json) :=
  if adv.txPower ≠ E.reCaUartBleGapPowerLevelInvalid then
    [("ble_tx_power", addUint32 adv.txPower.toInt32.toUInt32)]
  else []

/-- The four decoders, one after the other. -/
def httpDecoded (adv : AdvReport) : List (String × Json) :=
  E.re5.decoded df5Names adv ++ E.re6.decoded df6Names adv ++ E.reF0.decoded dfF0Names adv ++
    E.reE0.decoded dfE0Names adv

/-- The fields of the object that `cb_json_stream_gen_adv` generates. -/
def advItems (adv : AdvReport) : List (String × Json) :=
  [("rssi", addInt32 adv.rssi.toInt32)] ++
  [(if p.flagUseTimestamps then "timestamp" else "counter", addUint32 adv.timestamp)] ++
  blePhyItem E adv ++ [("ble_chan", addUint32 adv.chIndex.toUInt32)] ++ bleTxPowerItem E adv ++
  (if p.flagRawData then [("data", addHexBuf adv.data)] else []) ++
  (if p.flagDecode then httpDecoded E adv else [])

def cbJsonStreamGenAdv (adv : AdvReport) : String × Json :=
  (E.macAddressToStr adv.tagMac, .object (advItems E p adv))

/-- What `cb_json_stream_gen_advs` generates. -/
def cbJsonStreamGenAdvs (reports : List AdvReport) : Json :=
  .object [("data", .object (
    [("coordinates", .string p.coordinates)] ++
    (if p.flagUseTimestamps then [("timestamp", addUint32 p.curTime)] else []) ++
    (if p.flagUseNonce then [("nonce", addUint32 p.nonce)] else []) ++
    [("gw_mac", .string p.macAddr)] ++
    [("tags", .object (reports.map (cbJsonStreamGenAdv E p)))]))]

end Http

section Mqtt

/-- The arguments of `mqtt_create_json_str` besides the report. -/
structure MqttParams where
  flagUseTimestamps : Bool
  timestamp : UInt32
  macAddr : Bytes
  coordinatesStr : Bytes
  mqttDataFormat : MqttDataFormat
  maxChunkSize : ℕ

variable (E : JsonEnv) (p : MqttParams)

def MqttParams.flagRawData : Bool :=
  decide (p.mqttDataFormat = .ruuviRaw) || decide (p.mqttDataFormat = .ruuviRawAndDecoded)

def MqttParams.flagDecode : Bool :=
  decide (p.mqttDataFormat = .ruuviRawAndDecoded) || decide (p.mqttDataFormat = .ruuviDecoded)

/-- What `mqtt_cb_json_stream_gen_adv` generates. -/
def mqttCbJsonStreamGenAdv (adv : AdvReport) : Json :=
  .object (
    [("gw_mac", .string p.macAddr), ("rssi", addInt32 adv.rssi.toInt32), ("aoa", .array [])] ++
    (if p.flagUseTimestamps then
      [("gwts", addUint32 p.timestamp), ("ts", addUint32 adv.timestamp)]
    else [("cnt", addUint32 adv.timestamp)]) ++
    (if p.flagRawData then [("data", addHexBuf adv.data)] else []) ++
    (if p.flagDecode then E.re5.decoded df5Names adv ++ E.re6.decoded df6Names adv else []) ++
    [("coords", .string p.coordinatesStr)])

/-- Whether there is memory for the generator and for the text. -/
structure MqttJsonOutcome where
  genCreated : Bool
  strAllocated : Bool

/-- The text, or `none` for the null buffer. -/
def mqttCreateJsonStr (gen : JsonStreamGen) (adv : AdvReport) (o : MqttJsonOutcome) :
    Option Bytes :=
  let chunk := gen.nextChunk p.maxChunkSize (mqttCbJsonStreamGenAdv E p adv)
  if !o.genCreated then none
  else match chunk 0 with
    | none => none
    | some text => match chunk 1 with
      | none => none
      | some next => if next ≠ [] then none else if !o.strAllocated then none else some text

/-- The generator has nothing left after the first chunk. -/
def FitsInOneChunk (gen : JsonStreamGen) (adv : AdvReport) : Prop :=
  gen.nextChunk p.maxChunkSize (mqttCbJsonStreamGenAdv E p adv) 1 = some []

end Mqtt

section Faithfulness

variable (E : JsonEnv)

/-- The entry of a report has its signed values, its time, its channel and its data bytes. -/
structure EntryFaithful (flagUseTimestamps : Bool) (adv : AdvReport) (entry : Json) : Prop where
  rssi : entry.getObjectItem "rssi" = some (.number adv.rssi.toInt)
  txPower : entry.getObjectItem "ble_tx_power" =
    if adv.txPower = E.reCaUartBleGapPowerLevelInvalid then none
    else some (.number adv.txPower.toInt)
  time : entry.getObjectItem (if flagUseTimestamps then "timestamp" else "counter") =
    some (.number adv.timestamp.toNat)
  chan : entry.getObjectItem "ble_chan" = some (.number adv.chIndex.toNat)
  data : entry.getObjectItem "data" = some (.string (adv.data.flatMap hexUpper))
  dataLen : adv.data.length = adv.dataLen.toNat

/-- There is one entry for each report, and it is found under the MAC of the report. -/
structure HttpFaithful (flagUseTimestamps : Bool) (reports : List AdvReport) (root : Json) :
    Prop where
  entries : ∃ items, (root.getObjectItem "data").bind (Json.getObjectItem · "tags") =
      some (.object items) ∧
    items.map Prod.fst = reports.map (fun adv => E.macAddressToStr adv.tagMac) ∧
    (Json.keys items).Nodup ∧
    ∀ adv ∈ reports, ∃ entry,
      (Json.object items).getObjectItem (E.macAddressToStr adv.tagMac) = some entry ∧
        EntryFaithful E flagUseTimestamps adv entry

/-- The text for MQTT carries the same values, and there is none if it does not fit. -/
structure MqttFaithful (gen : JsonStreamGen) (p : MqttParams) (o : MqttJsonOutcome)
    (adv : AdvReport) : Prop where
  fits : FitsInOneChunk E p gen adv → o.genCreated = true → o.strAllocated = true →
    ∃ text root, mqttCreateJsonStr E p gen adv o = some text ∧ gen.parse text = some root ∧
      root.getObjectItem "rssi" = some (.number adv.rssi.toInt) ∧
      root.getObjectItem (if p.flagUseTimestamps then "ts" else "cnt") =
        some (.number adv.timestamp.toNat) ∧
      root.getObjectItem "data" = some (.string (adv.data.flatMap hexUpper))
  tooLong : ¬FitsInOneChunk E p gen adv → mqttCreateJsonStr E p gen adv o = none

end Faithfulness

section Items

variable {E : JsonEnv} {adv : AdvReport}

/-- The names that the server looks up in an entry. -/
def lookedUp : List String :=
  ["rssi", "ble_tx_power", "timestamp", "counter", "ble_chan", "data", "ts", "cnt", "coords"]

theorem find_decoded {e : Endpoint} {names : List String} {key : String}
    (h : ∀ name ∈ names, Json.keyText key ≠ Json.keyText name) :
    Json.find key (e.decoded names adv) = none := by
  apply Json.find_eq_none
  unfold Endpoint.decoded Endpoint.items Json.keys
  split_ifs
  · split
    · exact List.not_mem_nil
    · rw [List.map_map, List.mem_map]
      rintro ⟨name, hname, heq⟩
      exact h name hname heq.symm
  · exact List.not_mem_nil

/-- No decoder uses a name that is looked up. -/
theorem lookedUp_ne_decoded {key : String} (h : key ∈ lookedUp) :
    (∀ name ∈ df5Names, Json.keyText key ≠ Json.keyText name) ∧
      (∀ name ∈ df6Names, Json.keyText key ≠ Json.keyText name) ∧
      (∀ name ∈ dfF0Names, Json.keyText key ≠ Json.keyText name) ∧
      ∀ name ∈ dfE0Names, Json.keyText key ≠ Json.keyText name := by
  revert key
  decide +kernel

theorem find_httpDecoded {key : String} (h : key ∈ lookedUp) :
    Json.find key (httpDecoded E adv) = none := by
  obtain ⟨h5, h6, hF0, hE0⟩ := lookedUp_ne_decoded h
  unfold httpDecoded
  rw [Json.find_append, Json.find_append, Json.find_append, find_decoded h5, find_decoded h6,
    find_decoded hF0, find_decoded hE0]
  rfl

/-- A list of items without the name. -/
theorem find_optional {c : Prop} [Decidable c] {key : String} {items : List (String × Json)}
    (h : Json.find key items = none) : Json.find key (if c then items else []) = none := by
  split_ifs
  · exact h
  · rfl

theorem find_cons_ne {key name : String} {value : Json} {items : List (String × Json)}
    (h : Json.keyText name ≠ Json.keyText key) :
    Json.find key ((name, value) :: items) = Json.find key items := if_neg h

theorem find_cons_eq (key : String) (value : Json) (items : List (String × Json)) :
    Json.find key ((key, value) :: items) = some value := if_pos rfl

theorem find_blePhyItem {key : String} (h : Json.keyText "ble_phy" ≠ Json.keyText key) :
    Json.find key (blePhyItem E adv) = none := by
  unfold blePhyItem
  split_ifs
  · exact find_cons_ne h
  · exact find_cons_ne h
  · exact find_cons_ne h
  · rfl

theorem find_bleTxPowerItem {key : String} (h : Json.keyText "ble_tx_power" ≠ Json.keyText key) :
    Json.find key (bleTxPowerItem E adv) = none := by
  unfold bleTxPowerItem
  exact find_optional (find_cons_ne h)

end Items

section Lookups

variable {E : JsonEnv} {p : AdvsParams} {adv : AdvReport}

theorem find_advItems_rssi :
    Json.find "rssi" (advItems E p adv) = some (.number adv.rssi.toInt) := by
  unfold advItems
  simp only [List.append_assoc, List.cons_append]
  rw [find_cons_eq, addInt32, Int8.toInt_toInt32]

theorem find_advItems_time :
    Json.find (if p.flagUseTimestamps then "timestamp" else "counter") (advItems E p adv) =
      some (.number adv.timestamp.toNat) := by
  unfold advItems
  simp only [List.append_assoc, List.cons_append, List.nil_append]
  rw [find_cons_ne, find_cons_eq]
  · rfl
  · split_ifs <;> decide

theorem timeName_ne (key : String) (h : key ∈ ["ble_chan", "ble_tx_power", "data"])
    (flag : Bool) : Json.keyText (if flag then "timestamp" else "counter") ≠ Json.keyText key := by
  revert key
  cases flag <;> decide

theorem find_advItems_chan :
    Json.find "ble_chan" (advItems E p adv) = some (.number adv.chIndex.toNat) := by
  unfold advItems
  simp only [List.append_assoc, List.cons_append, List.nil_append]
  rw [find_cons_ne (by decide), find_cons_ne (timeName_ne _ (by decide) _), Json.find_append,
    find_blePhyItem (by decide), Option.none_or, find_cons_eq, addUint32, UInt8.toNat_toUInt32]

/-- Behind the channel there are the power, the data and the decoded values. -/
theorem find_advItems_rest {key : String} (hkey : key ∈ ["ble_tx_power", "data"]) :
    Json.find key (advItems E p adv) = (Json.find key (bleTxPowerItem E adv)).or
      (Json.find key (if p.flagRawData then [("data", addHexBuf adv.data)] else [])) := by
  have hnames : Json.keyText "rssi" ≠ Json.keyText key ∧
      Json.keyText "ble_phy" ≠ Json.keyText key ∧ Json.keyText "ble_chan" ≠ Json.keyText key ∧
      key ∈ ["ble_chan", "ble_tx_power", "data"] ∧ key ∈ lookedUp := by
    revert key
    decide
  obtain ⟨hrssi, hphy, hchan, htime, hlooked⟩ := hnames
  unfold advItems
  simp only [List.append_assoc, List.cons_append, List.nil_append]
  rw [find_cons_ne hrssi, find_cons_ne (timeName_ne _ htime _), Json.find_append,
    find_blePhyItem hphy, Option.none_or, find_cons_ne hchan, Json.find_append, Json.find_append,
    find_optional (find_httpDecoded hlooked), Option.or_none]

theorem find_advItems_txPower :
    Json.find "ble_tx_power" (advItems E p adv) =
      if adv.txPower = E.reCaUartBleGapPowerLevelInvalid then none
      else some (addUint32 adv.txPower.toInt32.toUInt32) := by
  rw [find_advItems_rest (by decide), find_optional (find_cons_ne (by decide)), Option.or_none]
  unfold bleTxPowerItem
  by_cases hinvalid : adv.txPower = E.reCaUartBleGapPowerLevelInvalid
  · rw [if_neg (not_not.mpr hinvalid), if_pos hinvalid]
    rfl
  · rw [if_pos hinvalid, if_neg hinvalid, find_cons_eq]

theorem find_advItems_data (hraw : p.flagRawData = true) :
    Json.find "data" (advItems E p adv) = some (.string (adv.data.flatMap hexUpper)) := by
  rw [find_advItems_rest (by decide), find_bleTxPowerItem (by decide), Option.none_or, if_pos hraw,
    find_cons_eq, addHexBuf]

/-- The unsigned value of a power is the signed one exactly if it is not negative. -/
theorem toUInt32_eq_iff (x : Int8) :
    (Json.number (x.toInt32.toUInt32.toNat) = .number x.toInt) ↔ 0 ≤ x := by
  have hvalue : x.toInt = if 2 * x.toInt32.toUInt32.toNat < 2 ^ 32 then
      (x.toInt32.toUInt32.toNat : ℤ) else x.toInt32.toUInt32.toNat - 2 ^ 32 := by
    rw [← Int8.toInt_toInt32]
    exact BitVec.toInt_eq_toNat_cond x.toInt32.toBitVec
  have hlt := x.toInt32.toUInt32.toNat_lt
  have hcast : (Json.number (x.toInt32.toUInt32.toNat) = .number x.toInt) ↔
      (x.toInt32.toUInt32.toNat : ℤ) = x.toInt := by
    rw [Json.number.injEq]
    norm_cast
  rw [hcast, Int8.le_iff_toInt_le, Int8.toInt_zero, hvalue]
  split_ifs <;> omega

theorem entryFaithful_iff (hraw : p.flagRawData = true)
    (hlen : adv.dataLen.toNat ≤ advDataMaxLen) :
    EntryFaithful E p.flagUseTimestamps adv (.object (advItems E p adv)) ↔
      adv.txPower = E.reCaUartBleGapPowerLevelInvalid ∨ 0 ≤ adv.txPower := by
  have hdata : adv.data.length = adv.dataLen.toNat := by
    unfold AdvReport.data
    rw [List.length_take, Vector.length_toList, Nat.min_eq_left hlen]
  constructor
  · intro h
    have htx := h.txPower
    rw [Json.getObjectItem, find_advItems_txPower] at htx
    by_cases hinvalid : adv.txPower = E.reCaUartBleGapPowerLevelInvalid
    · exact .inl hinvalid
    · rw [if_neg hinvalid, if_neg hinvalid] at htx
      exact .inr ((toUInt32_eq_iff _).mp (Option.some.inj htx))
  · intro h
    refine ⟨find_advItems_rssi, ?_, find_advItems_time, find_advItems_chan,
      find_advItems_data hraw, hdata⟩
    rw [Json.getObjectItem, find_advItems_txPower]
    split_ifs with hinvalid
    · rfl
    · exact congrArg some ((toUInt32_eq_iff _).mpr (h.resolve_left hinvalid))

end Lookups

section Documents

variable {E : JsonEnv} {p : AdvsParams} {m : MqttParams} {reports : List AdvReport}

/-- Distinct MACs have distinct names. -/
theorem nodup_keys (hmacs : (reports.map AdvReport.tagMac).Nodup)
    (hstr : ∀ adv ∈ reports, ∀ adv' ∈ reports, Json.keyText (E.macAddressToStr adv.tagMac) =
      Json.keyText (E.macAddressToStr adv'.tagMac) → adv.tagMac = adv'.tagMac) :
    (Json.keys (reports.map (cbJsonStreamGenAdv E p))).Nodup := by
  unfold Json.keys
  rw [List.map_map, List.nodup_map_iff_inj_on (List.Nodup.of_map _ hmacs)]
  intro adv hadv adv' hadv' heq
  exact List.inj_on_of_nodup_map hmacs hadv hadv' (hstr adv hadv adv' hadv' heq)

theorem tags_cbJsonStreamGenAdvs (E : JsonEnv) (p : AdvsParams) (reports : List AdvReport) :
    ((cbJsonStreamGenAdvs E p reports).getObjectItem "data").bind (Json.getObjectItem · "tags") =
      some (.object (reports.map (cbJsonStreamGenAdv E p))) := by
  unfold cbJsonStreamGenAdvs
  rw [Json.getObjectItem, find_cons_eq, Option.bind_some, Json.getObjectItem]
  simp only [List.append_assoc, List.cons_append, List.nil_append]
  rw [find_cons_ne (by decide), Json.find_append, find_optional (find_cons_ne (by decide)),
    Option.none_or, Json.find_append, find_optional (find_cons_ne (by decide)), Option.none_or,
    find_cons_ne (by decide), find_cons_eq]

/-- The JSON for HTTP is faithful exactly if the entry of every report is. -/
theorem httpFaithful_iff (hraw : p.flagRawData = true)
    (hmacs : (reports.map AdvReport.tagMac).Nodup)
    (hstr : ∀ adv ∈ reports, ∀ adv' ∈ reports, Json.keyText (E.macAddressToStr adv.tagMac) =
      Json.keyText (E.macAddressToStr adv'.tagMac) → adv.tagMac = adv'.tagMac)
    (hlen : ∀ adv ∈ reports, adv.dataLen.toNat ≤ advDataMaxLen) :
    HttpFaithful E p.flagUseTimestamps reports (cbJsonStreamGenAdvs E p reports) ↔
      ∀ adv ∈ reports, adv.txPower = E.reCaUartBleGapPowerLevelInvalid ∨ 0 ≤ adv.txPower := by
  have hnodup := nodup_keys (p := p) hmacs hstr
  have hfound (adv : AdvReport) (hadv : adv ∈ reports) :
      (Json.object (reports.map (cbJsonStreamGenAdv E p))).getObjectItem
        (E.macAddressToStr adv.tagMac) = some (.object (advItems E p adv)) :=
    Json.find_of_mem hnodup (List.mem_map_of_mem hadv)
  constructor
  · rintro ⟨items, hitems, -, -, hentries⟩ adv hadv
    obtain rfl : reports.map (cbJsonStreamGenAdv E p) = items := by
      rw [tags_cbJsonStreamGenAdvs] at hitems
      exact Json.object.inj (Option.some.inj hitems)
    obtain ⟨entry, hentry, hfaithful⟩ := hentries adv hadv
    obtain rfl : Json.object (advItems E p adv) = entry :=
      Option.some.inj ((hfound adv hadv).symm.trans hentry)
    exact (entryFaithful_iff hraw (hlen adv hadv)).mp hfaithful
  · intro h
    refine ⟨_, tags_cbJsonStreamGenAdvs E p reports, ?_, hnodup, fun adv hadv => ?_⟩
    · rw [List.map_map]
      rfl
    · exact ⟨_, hfound adv hadv, (entryFaithful_iff hraw (hlen adv hadv)).mpr (h adv hadv)⟩

theorem mqtt_lookups (hraw : m.flagRawData = true) (adv : AdvReport) :
    (mqttCbJsonStreamGenAdv E m adv).getObjectItem "rssi" = some (.number adv.rssi.toInt) ∧
      (mqttCbJsonStreamGenAdv E m adv).getObjectItem (if m.flagUseTimestamps then "ts" else "cnt") =
        some (.number adv.timestamp.toNat) ∧
      (mqttCbJsonStreamGenAdv E m adv).getObjectItem "data" =
        some (.string (adv.data.flatMap hexUpper)) := by
  unfold mqttCbJsonStreamGenAdv
  simp only [Json.getObjectItem, List.append_assoc, List.cons_append, List.nil_append]
  refine ⟨?_, ?_, ?_⟩
  · rw [find_cons_ne (by decide), find_cons_eq, addInt32, Int8.toInt_toInt32]
  · cases m.flagUseTimestamps with
    | true =>
      simp only [if_true, List.cons_append]
      rw [find_cons_ne (by decide), find_cons_ne (by decide), find_cons_ne (by decide),
        find_cons_ne (by decide), find_cons_eq]
      rfl
    | false =>
      simp only [Bool.false_eq_true, if_false, List.cons_append]
      rw [find_cons_ne (by decide), find_cons_ne (by decide), find_cons_ne (by decide),
        find_cons_eq]
      rfl
  · rw [find_cons_ne (by decide), find_cons_ne (by decide), find_cons_ne (by decide), hraw]
    cases m.flagUseTimestamps with
    | true =>
      simp only [if_true, List.cons_append, List.nil_append]
      rw [find_cons_ne (by decide), find_cons_ne (by decide), find_cons_eq]
      rfl
    | false =>
      simp only [Bool.false_eq_true, if_false, if_true, List.cons_append, List.nil_append]
      rw [find_cons_ne (by decide), find_cons_eq]
      rfl

theorem mqttFaithful {gen : JsonStreamGen} {adv : AdvReport} (o : MqttJsonOutcome)
    (hraw : m.flagRawData = true)
    (hparse : gen.parse (gen.print false (mqttCbJsonStreamGenAdv E m adv)) =
      some (mqttCbJsonStreamGenAdv E m adv))
    (hchunk : FitsInOneChunk E m gen adv →
      gen.nextChunk m.maxChunkSize (mqttCbJsonStreamGenAdv E m adv) 0 =
        some (gen.print false (mqttCbJsonStreamGenAdv E m adv))) :
    MqttFaithful E gen m o adv := by
  unfold FitsInOneChunk at hchunk
  constructor
  · intro hfits hcreated hallocated
    refine ⟨_, _, ?_, hparse, mqtt_lookups hraw adv⟩
    unfold mqttCreateJsonStr
    simp [hcreated, hallocated, hchunk hfits, show _ = some [] from hfits]
  · intro hlong
    unfold FitsInOneChunk at hlong
    unfold mqttCreateJsonStr
    cases o.genCreated with
    | false => rfl
    | true =>
      simp only [Bool.not_true, Bool.false_eq_true, if_false]
      cases gen.nextChunk m.maxChunkSize (mqttCbJsonStreamGenAdv E m adv) 0 with
      | none => rfl
      | some text =>
        cases hnext : gen.nextChunk m.maxChunkSize (mqttCbJsonStreamGenAdv E m adv) 1 with
        | none => rfl
        | some next =>
          have hne : next ≠ [] := fun h => hlong (hnext.trans (congrArg some h))
          exact if_pos hne

/-- The JSON for HTTP and for MQTT carry the reports faithfully if and only if no report has a
negative power. -/
theorem reportJson_faithful_iff (E : JsonEnv) (gen : JsonStreamGen) (p : AdvsParams)
    (m : MqttParams) (o : MqttJsonOutcome) (reports : List AdvReport)
    (hraw : p.flagRawData = true) (hmqttRaw : m.flagRawData = true)
    (hmacs : (reports.map AdvReport.tagMac).Nodup)
    (hlen : ∀ adv ∈ reports, adv.dataLen.toNat ≤ advDataMaxLen)
    (hstr : ∀ adv ∈ reports, ∀ adv' ∈ reports, Json.keyText (E.macAddressToStr adv.tagMac) =
      Json.keyText (E.macAddressToStr adv'.tagMac) → adv.tagMac = adv'.tagMac)
    (hhttp : gen.parse (gen.print true (cbJsonStreamGenAdvs E p reports)) =
      some (cbJsonStreamGenAdvs E p reports))
    (hmqtt : ∀ adv ∈ reports, gen.parse (gen.print false (mqttCbJsonStreamGenAdv E m adv)) =
      some (mqttCbJsonStreamGenAdv E m adv))
    (hchunk : ∀ adv ∈ reports, FitsInOneChunk E m gen adv →
      gen.nextChunk m.maxChunkSize (mqttCbJsonStreamGenAdv E m adv) 0 =
        some (gen.print false (mqttCbJsonStreamGenAdv E m adv))) :
    ((∃ root, gen.parse (gen.print true (cbJsonStreamGenAdvs E p reports)) = some root ∧
        HttpFaithful E p.flagUseTimestamps reports root) ∧
      ∀ adv ∈ reports, MqttFaithful E gen m o adv) ↔
    ∀ adv ∈ reports, adv.txPower = E.reCaUartBleGapPowerLevelInvalid ∨ 0 ≤ adv.txPower := by
  have hiff := httpFaithful_iff hraw hmacs hstr hlen
  constructor
  · rintro ⟨⟨root, hroot, hfaithful⟩, -⟩
    obtain rfl := Option.some.inj (hhttp.symm.trans hroot)
    exact hiff.mp hfaithful
  · intro h
    refine ⟨⟨_, hhttp, hiff.mpr h⟩, fun adv hadv => ?_⟩
    exact mqttFaithful o hmqttRaw (hmqtt adv hadv) (hchunk adv hadv)

end Documents

section Sample

def sampleJsonEnv : JsonEnv where
  macAddressToStr mac := String.ofList
    ((((mac.mac.toList.map hexUpper).intersperse (ascii ":")).flatten).map fun b =>
      Char.ofNat b.toNat)
  reCaUartBlePhyNotSet := 0
  reCaUartBlePhy2Mbps := 2
  reCaUartBlePhyCoded := 3
  reCaUartBleGapPowerLevelInvalid := 127
  re5 := ⟨fun _ => false, fun _ => none⟩
  re6 := ⟨fun _ => false, fun _ => none⟩
  reF0 := ⟨fun _ => false, fun _ => none⟩
  reE0 := ⟨fun _ => false, fun _ => none⟩

def sampleAdvsParams : AdvsParams where
  flagRawData := true
  flagDecode := true
  flagUseTimestamps := true
  curTime := 1612358920
  flagUseNonce := false
  nonce := 0
  macAddr := ascii "AA:CC:EE:00:11:22"
  coordinates := ascii ""

def sampleMqttParams : MqttParams where
  flagUseTimestamps := true
  timestamp := 1612358920
  macAddr := ascii "AA:CC:EE:00:11:22"
  coordinatesStr := ascii ""
  mqttDataFormat := .ruuviRaw
  maxChunkSize := 1024

def reportWithPower (txPower : Int8) : AdvReport :=
  { AdvReport.zero with
    timestamp := 1612358929
    tagMac := ⟨#v[0xAA, 0xBB, 0xCC, 0x01, 0x02, 0x03]⟩
    rssi := -70
    chIndex := 37
    txPower := txPower
    dataLen := 1
    dataBuf := (Vector.replicate advDataMaxLen 0).set 0 0xAA }

/-- The formatted text with the digits of the power. -/
def powerHttpText (digits : String) : Bytes :=
  ascii "\x7b\n" ++
    ascii ("  \"data\": \x7b\n    \"coordinates\": \"\",\n    \"timestamp\": 1612358920,\n" ++
    "    \"gw_mac\": \"AA:CC:EE:00:11:22\",\n    \"tags\": \x7b\n" ++
    "      \"AA:BB:CC:01:02:03\": \x7b\n        \"rssi\": -70,\n" ++
    "        \"timestamp\": 1612358929,\n        \"ble_phy\": \"1M\",\n" ++
    "        \"ble_chan\": 37,\n        \"ble_tx_power\": " ++ digits ++
    ",\n        \"data\": \"AA\"\n      \x7d\n    \x7d\n  \x7d\n\x7d")

def powerHttpJson (power : ℚ) : Json :=
  .object [("data", .object [("coordinates", .string (ascii "")), ("timestamp", .number 1612358920),
    ("gw_mac", .string (ascii "AA:CC:EE:00:11:22")),
    ("tags", .object [("AA:BB:CC:01:02:03", .object [("rssi", .number (-70)),
      ("timestamp", .number 1612358929), ("ble_phy", .string (ascii "1M")),
      ("ble_chan", .number 37), ("ble_tx_power", .number power),
      ("data", .string (ascii "AA"))])])])]

def powerMqttText : Bytes :=
  ascii "\x7b\"" ++
    ascii ("gw_mac\":\"AA:CC:EE:00:11:22\",\"rssi\":-70,\"aoa\":[],\"gwts\":1612358920," ++
    "\"ts\":1612358929,\"data\":\"AA\",\"coords\":\"\"\x7d")

def powerMqttJson : Json :=
  .object [("gw_mac", .string (ascii "AA:CC:EE:00:11:22")), ("rssi", .number (-70)),
    ("aoa", .array []), ("gwts", .number 1612358920), ("ts", .number 1612358929),
    ("data", .string (ascii "AA")), ("coords", .string (ascii ""))]

/-- The texts of the report, and what a reader finds in them. -/
def genForPower (digits : String) (power : ℚ) : JsonStreamGen where
  print flagFormattedJson _ := if flagFormattedJson then powerHttpText digits else powerMqttText
  nextChunk _ _ n := if n = 0 then some powerMqttText else some []
  parse text :=
    if text = powerMqttText then some powerMqttJson
    else if text = powerHttpText digits then some (powerHttpJson power)
    else none

theorem sampleMacAddressToStr : sampleJsonEnv.macAddressToStr
    ⟨#v[0xAA, 0xBB, 0xCC, 0x01, 0x02, 0x03]⟩ = "AA:BB:CC:01:02:03" := by
  decide +kernel

theorem httpJson_reportWithPower (txPower : Int8) (h : txPower ≠ 127) :
    cbJsonStreamGenAdvs sampleJsonEnv sampleAdvsParams [reportWithPower txPower] =
      powerHttpJson (txPower.toInt32.toUInt32.toNat : ℕ) := by
  have hpower : bleTxPowerItem sampleJsonEnv (reportWithPower txPower) =
      [("ble_tx_power", addUint32 txPower.toInt32.toUInt32)] := if_pos h
  have hmac : sampleJsonEnv.macAddressToStr (reportWithPower txPower).tagMac =
      "AA:BB:CC:01:02:03" := sampleMacAddressToStr
  have hphy : blePhyItem sampleJsonEnv (reportWithPower txPower) =
      [("ble_phy", .string (ascii "1M"))] := rfl
  have hdata : addHexBuf (reportWithPower txPower).data = .string (ascii "AA") := rfl
  have hdecoded : httpDecoded sampleJsonEnv (reportWithPower txPower) = [] := rfl
  unfold cbJsonStreamGenAdvs powerHttpJson
  rw [List.map_singleton, cbJsonStreamGenAdv, hmac, advItems, hphy, hpower, hdata, hdecoded]
  simp [sampleAdvsParams, reportWithPower, addUint32, addInt32]

theorem mqttJson_reportWithPower (txPower : Int8) :
    mqttCbJsonStreamGenAdv sampleJsonEnv sampleMqttParams (reportWithPower txPower) =
      powerMqttJson := by
  have hdata : addHexBuf (reportWithPower txPower).data = .string (ascii "AA") := rfl
  have hraw : sampleMqttParams.flagRawData = true := rfl
  have hdecode : sampleMqttParams.flagDecode = false := rfl
  unfold mqttCbJsonStreamGenAdv powerMqttJson
  rw [hdata, hraw, hdecode]
  simp [sampleMqttParams, reportWithPower, addUint32, addInt32]

theorem parse_powerHttpText (digits : String) (power : ℚ) :
    (genForPower digits power).parse (powerHttpText digits) = some (powerHttpJson power) := by
  have hne : powerHttpText digits ≠ powerMqttText := by
    intro h
    unfold powerHttpText powerMqttText at h
    have hhead : ascii "\x7b\n" = ascii "\x7b\"" := List.append_inj_left h rfl
    exact absurd hhead (by decide)
  unfold genForPower
  dsimp only
  rw [if_neg hne, if_pos rfl]

theorem parse_powerMqttText (digits : String) (power : ℚ) :
    (genForPower digits power).parse powerMqttText = some powerMqttJson := by
  unfold genForPower
  dsimp only
  rw [if_pos rfl]

theorem dataLen_reportWithPower (txPower : Int8) :
    ∀ adv ∈ [reportWithPower txPower], adv.dataLen.toNat ≤ advDataMaxLen := by
  intro adv hadv
  obtain rfl := List.mem_singleton.mp hadv
  show (1 : UInt8).toNat ≤ advDataMaxLen
  decide

theorem tagMac_singleton (report : AdvReport) :
    ∀ adv ∈ [report], ∀ adv' ∈ [report],
      Json.keyText (sampleJsonEnv.macAddressToStr adv.tagMac) =
        Json.keyText (sampleJsonEnv.macAddressToStr adv'.tagMac) → adv.tagMac = adv'.tagMac := by
  rintro adv hadv adv' hadv' -
  rw [List.mem_singleton.mp hadv, List.mem_singleton.mp hadv']

/-- A report with a power of 4 dBm. -/
theorem reportJson_faithful_sample :
    (∃ root, (genForPower "4" 4).parse ((genForPower "4" 4).print true
        (cbJsonStreamGenAdvs sampleJsonEnv sampleAdvsParams [reportWithPower 4])) = some root ∧
      HttpFaithful sampleJsonEnv true [reportWithPower 4] root) ∧
    ∀ adv ∈ [reportWithPower 4],
      MqttFaithful sampleJsonEnv (genForPower "4" 4) sampleMqttParams ⟨true, true⟩ adv := by
  refine (reportJson_faithful_iff sampleJsonEnv (genForPower "4" 4) sampleAdvsParams
    sampleMqttParams ⟨true, true⟩ [reportWithPower 4] rfl rfl (List.nodup_singleton _)
    (dataLen_reportWithPower 4) (tagMac_singleton _) ?_ ?_ ?_).mpr ?_
  · rw [httpJson_reportWithPower 4 (by decide)]
    exact parse_powerHttpText "4" 4
  · intro adv hadv
    obtain rfl := List.mem_singleton.mp hadv
    rw [mqttJson_reportWithPower]
    exact parse_powerMqttText "4" 4
  · rintro adv - -
    rfl
  · intro adv hadv
    obtain rfl := List.mem_singleton.mp hadv
    exact .inr (by decide)

/-- The power −4 dBm is printed as 4294967292. -/
theorem reportJson_not_faithful :
    ¬((∃ root, (genForPower "4294967292" 4294967292).parse
          ((genForPower "4294967292" 4294967292).print true
            (cbJsonStreamGenAdvs sampleJsonEnv sampleAdvsParams [reportWithPower (-4)])) =
              some root ∧
        HttpFaithful sampleJsonEnv true [reportWithPower (-4)] root) ∧
      ∀ adv ∈ [reportWithPower (-4)], MqttFaithful sampleJsonEnv
        (genForPower "4294967292" 4294967292) sampleMqttParams ⟨true, true⟩ adv) := by
  rintro ⟨⟨root, hroot, hfaithful⟩, -⟩
  obtain rfl := Option.some.inj ((parse_powerHttpText "4294967292" 4294967292).symm.trans hroot)
  rw [show (4294967292 : ℚ) = (((-4 : Int8).toInt32.toUInt32.toNat : ℕ) : ℚ) by rfl,
    ← httpJson_reportWithPower (-4) (by decide)] at hfaithful
  have hiff : HttpFaithful sampleJsonEnv sampleAdvsParams.flagUseTimestamps [reportWithPower (-4)]
      (cbJsonStreamGenAdvs sampleJsonEnv sampleAdvsParams [reportWithPower (-4)]) ↔ _ :=
    httpFaithful_iff rfl (List.nodup_singleton _) (tagMac_singleton _) (dataLen_reportWithPower _)
  exact absurd (hiff.mp hfaithful _ (List.mem_singleton_self _)) (by decide)

end Sample

end RuuviGateway.AdvPost
