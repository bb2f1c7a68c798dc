import RuuviGateway.Config.Default

/-!
# A concrete platform

Functions that behave as those of the Wi-Fi manager and of the wrapper library do, and the default
configuration of one gateway. They show that the assumptions on a platform can be met.
-/

namespace RuuviGateway.Config

open General

section Functions

def sampleAuthTypeStr : HttpServerAuthType → Bytes
  | .basic => ascii "lan_auth_basic"
  | .digest => ascii "lan_auth_digest"
  | .ruuvi => ascii "lan_auth_ruuvi"
  | .default => ascii "lan_auth_default"
  | .allow => ascii "lan_auth_allow"
  | .deny => ascii "lan_auth_deny"
  | .bearer => ascii "lan_auth_bearer"

def sampleAuthType (s : Bytes) : HttpServerAuthType :=
  if s = ascii "lan_auth_allow" then .allow
  else if s = ascii "lan_auth_basic" then .basic
  else if s = ascii "lan_auth_digest" then .digest
  else if s = ascii "lan_auth_ruuvi" then .ruuvi
  else if s = ascii "lan_auth_deny" then .deny
  else if s = ascii "lan_auth_bearer" then .bearer
  else .default

/-- Pairs of hexadecimal digits, separated by colons. -/
def hexText : List UInt8 → Bytes
  | [] => []
  | [b] => hexUpper b
  | b :: bs => hexUpper b ++ 0x3a :: hexText bs

def hexByte (hi lo : UInt8) : Option UInt8 := do
  let hi ← hexDigit hi
  let lo ← hexDigit lo
  return UInt8.ofNat (16 * hi + lo)

def hexBytes : Bytes → Option (List UInt8)
  | [hi, lo] => (hexByte hi lo).map ([·])
  | hi :: lo :: 0x3a :: s => do
    let b ← hexByte hi lo
    let bs ← hexBytes s
    return b :: bs
  | _ => none

def sampleMacAddrFromStr (s : Option Bytes) (old : MacAddressBin) : MacAddressBin :=
  match s.bind hexBytes with
  | some bytes => if h : bytes.length = macAddressNumBytes then ⟨⟨bytes.toArray, h⟩⟩ else old
  | none => old

/-- The leading digits of a text, limited to 32 bits, and the text behind them. -/
def digitsPrefix (base acc : ℕ) : Bytes → UInt32 × Bytes
  | [] => (UInt32.ofNat (min acc 0xffffffff), [])
  | b :: s =>
    match (hexDigit b).filter (· < base) with
    | some digit => digitsPrefix base (base * acc + digit) s
    | none => (UInt32.ofNat (min acc 0xffffffff), b :: s)

def sampleStrToUint32 (s : Bytes) (base : ℕ) : UInt32 × Bytes :=
  digitsPrefix base 0 (if base = 16 ∧ prefixHex.isPrefixOf s then s.drop 2 else s)

def sampleParam : GwCfgDefaultInitParam where
  wifiApSsid := ascii "my_ssid1"
  hostname := ascii "my_ssid1"
  deviceId := #v[0x11, 0x22, 0x33, 0x44, 0x55, 0x66, 0x77, 0x88]
  esp32FwVer := ascii "v1.10.0"
  nrf52FwVer := ascii "v0.7.1"
  nrf52MacAddr := ⟨#v[0xaa, 0xbb, 0xcc, 0xdd, 0xee, 0xff]⟩
  esp32MacAddrWifi := ⟨#v[0xaa, 0xbb, 0xcc, 0xdd, 0xee, 0x11]⟩
  esp32MacAddrEth := ⟨#v[0xaa, 0xbb, 0xcc, 0xdd, 0xee, 0x22]⟩

/-- The digest is that of the text which the identity of this gateway gives. -/
def sampleMd5 (_ : Bytes) : Bytes := ascii "0d6c6f1c27ca628806eb9247740d8ba1"

def sampleWifi (ssid : Bytes) (_ : WifimanHostinfo) : WifimanConfig where
  ap := {
    wifiConfigAp := {
      ssid := .snprintf _ ssid
      password := .empty
      ssidLen := 0
      channel := 1
      authmode := 0
      ssidHidden := 0
      maxConnection := 4
      beaconInterval := 100 }
    wifiSettingsAp := {
      apBandwidth := 1
      apIp := ascii "10.10.0.1"
      apGw := ascii "10.10.0.1"
      apNetmask := ascii "255.255.255.0" } }
  sta := {
    wifiConfigSta := {
      ssid := .empty
      password := .empty
      scanMethod := 0
      bssidSet := false
      bssid := Vector.replicate _ 0
      channel := 0
      listenInterval := 0
      sortMethod := 0
      thresholdRssi := 0
      thresholdAuthmode := 0
      pmfCfgCapable := false
      pmfCfgRequired := false }
    wifiSettingsSta := {
      staPowerSave := 0
      staStaticIp := false
      staticIpAddr := 0
      staticIpNetmask := 0
      staticIpGw := 0 } }

def samplePlatform : Platform where
  httpServerAuthTypeStrMax := 31
  httpServerAuthUserMax := 50
  httpServerAuthPassMax := 50
  httpServerAuthApiKeyMax := 50
  httpServerAuthTypeToStr := sampleAuthTypeStr
  httpServerAuthTypeFromStr := sampleAuthType
  macAddressToStr mac := hexText mac.mac.toList
  macAddrFromStr := sampleMacAddrFromStr
  osStrToUint32Cptr := sampleStrToUint32
  wifimanMd5CalcHexStr := sampleMd5
  wifiManagerDefaultConfigInit := sampleWifi

end Functions

section Lawful

theorem hexByte_hexUpper (b : UInt8) :
    hexByte (hexUpperDigit (b / 16)) (hexUpperDigit (b % 16)) = some b := by
  have hall : ∀ n < 256, hexByte (hexUpperDigit (UInt8.ofNat n / 16))
      (hexUpperDigit (UInt8.ofNat n % 16)) = some (UInt8.ofNat n) := by
    decide +kernel
  simpa using hall b.toNat b.toNat_lt

theorem hexUpperDigit_ne_zero (b : UInt8) :
    hexUpperDigit (b / 16) ≠ 0 ∧ hexUpperDigit (b % 16) ≠ 0 := by
  have hall : ∀ n < 256, hexUpperDigit (UInt8.ofNat n / 16) ≠ 0 ∧
      hexUpperDigit (UInt8.ofNat n % 16) ≠ 0 := by
    decide +kernel
  simpa using hall b.toNat b.toNat_lt

theorem hexBytes_hexText {bs : List UInt8} (hbs : bs ≠ []) : hexBytes (hexText bs) = some bs := by
  induction bs with
  | nil => exact absurd rfl hbs
  | cons b bs ih =>
    cases bs with
    | nil => simp [hexText, hexUpper, hexBytes, hexByte_hexUpper]
    | cons b' bs =>
      have htail := ih (List.cons_ne_nil b' bs)
      simp [hexText, hexUpper, hexBytes, hexByte_hexUpper, htail]

theorem noNul_hexText (bs : List UInt8) : 0 ∉ hexText bs := by
  induction bs with
  | nil => simp [hexText]
  | cons b bs ih =>
    have hb := hexUpperDigit_ne_zero b
    cases bs with
    | nil => simp [hexText, hexUpper, Ne.symm hb.1, Ne.symm hb.2]
    | cons b' bs => simp [hexText, hexUpper, Ne.symm hb.1, Ne.symm hb.2, ih]

theorem samplePlatform_lawful : samplePlatform.Lawful where
  authTypeNoNul t := by cases t <;> decide
  authTypeFits t := by cases t <;> decide
  authType t := by cases t <;> decide
  macNoNul m := noNul_hexText m.mac.toList
  mac m old := by
    have hne : m.mac.toList ≠ [] := by
      intro hnil
      have hlen := congrArg List.length hnil
      simp [macAddressNumBytes] at hlen
    have hsize : m.mac.toList.length = macAddressNumBytes := m.mac.length_toList
    simp only [samplePlatform, sampleMacAddrFromStr, Option.bind_some, hexBytes_hexText hne, hsize,
      dite_true]
    rfl

end Lawful

def sampleDefault : GwCfg samplePlatform :=
  (gwCfgDefaultBuiltIn samplePlatform sampleParam).withIdentity

theorem gwCfgDefaultInit_sample :
    gwCfgDefaultInit samplePlatform sampleParam none = some sampleDefault := rfl

end RuuviGateway.Config
