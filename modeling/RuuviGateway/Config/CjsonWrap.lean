import RuuviGateway.Config.Types
import RuuviGateway.General.Json

/-!
# Reading fields from JSON

The getters of the configuration parser return `none` where the field keeps its value. A getter
of a number takes the text of an item that is not a number. If that item has no text, the code
reads through a null pointer: the result then is an outer `none`.
-/

namespace RuuviGateway.Config

open General

variable {P : Platform} {root : Json} {key : String}

def jsonWrapGetStringVal (root : Json) (key : String) : Option Bytes :=
  (root.getObjectItem key).bind Json.stringValue

def jsonWrapCopyStringVal (n : ℕ) [NeZero n] (root : Json) (key : String) : Option (CStr n) :=
  (jsonWrapGetStringVal root key).map (CStr.snprintf n)

def jsonWrapGetBoolVal (root : Json) (key : String) : Option Bool :=
  match root.getObjectItem key with
  | some (.bool b) => some b
  | _ => none

def prefixHex : Bytes := ascii "0x"

def hexDigit (b : UInt8) : Option ℕ :=
  if 0x30 ≤ b ∧ b ≤ 0x39 then some (b.toNat - 0x30)
  else if 0x41 ≤ b ∧ b ≤ 0x46 then some (b.toNat - 0x41 + 10)
  else if 0x61 ≤ b ∧ b ≤ 0x66 then some (b.toNat - 0x61 + 10)
  else none

def hexValue (acc : ℕ) : Bytes → ℕ
  | [] => acc
  | b :: s =>
    match hexDigit b with
    | some digit => hexValue (16 * acc + digit) s
    | none => acc

/-- `strtoul(s, NULL, 16)` for a text that starts with `0x`. -/
def strtoulHex (s : Bytes) : ℕ := min (hexValue 0 (s.drop 2)) 0xffffffff

/-- `strtol(s, NULL, 16)` for a text that starts with `0x`. -/
def strtolHex (s : Bytes) : ℕ := min (hexValue 0 (s.drop 2)) 0x7fffffff

/-- The number is cut to 16 bits, although the field has 32. -/
def jsonWrapGetUint32Val (P : Platform) (root : Json) (key : String) : Option (Option UInt32) :=
  match root.getObjectItem key with
  | none => some none
  | some (.number q) =>
    let valueint := Json.valueint q
    if 0 ≤ valueint then some (some (UInt32.ofNat (valueint.toNat % 0x10000))) else some none
  | some attr =>
    attr.stringValue.map fun s =>
      let base := if prefixHex.isPrefixOf s then 16 else 10
      let r := P.osStrToUint32Cptr s base
      if r.2 = [] then some r.1 else none

/-- The getter of an unsigned number up to `max`, which may be given in hexadecimal text. -/
def getUintVal (max : ℕ) {α : Type} (ofNat : ℕ → α) (root : Json) (key : String) :
    Option (Option α) :=
  match root.getObjectItem key with
  | none => some none
  | some (.number q) =>
    let valueint := Json.valueint q
    if 0 ≤ valueint ∧ valueint ≤ max then some (some (ofNat valueint.toNat)) else some none
  | some attr =>
    attr.stringValue.map fun s =>
      if prefixHex.isPrefixOf s ∧ strtoulHex s ≤ max then some (ofNat (strtoulHex s)) else none

def jsonWrapGetUint16Val : Json → String → Option (Option UInt16) := getUintVal 0xffff UInt16.ofNat

def jsonWrapGetUint8Val : Json → String → Option (Option UInt8) := getUintVal 0xff UInt8.ofNat

def jsonWrapGetInt8Val (root : Json) (key : String) : Option (Option Int8) :=
  match root.getObjectItem key with
  | none => some none
  | some (.number q) =>
    let valueint := Json.valueint q
    if -0x80 ≤ valueint ∧ valueint ≤ 0x7f then some (some (Int8.ofInt valueint)) else some none
  | some attr =>
    attr.stringValue.map fun s =>
      if prefixHex.isPrefixOf s ∧ strtolHex s ≤ 0x7f then some (Int8.ofInt (strtolHex s)) else none

/-! ## Reading back what was written -/

theorem copyStringVal_none {n : ℕ} [NeZero n] (h : root.getObjectItem key = none) :
    jsonWrapCopyStringVal n root key = none := by
  simp [jsonWrapCopyStringVal, jsonWrapGetStringVal, h]

theorem copyStringVal_string {n : ℕ} [NeZero n] {s : Bytes}
    (h : root.getObjectItem key = some (.string s)) :
    jsonWrapCopyStringVal n root key = some (CStr.snprintf n s) := by
  simp [jsonWrapCopyStringVal, jsonWrapGetStringVal, h, Json.stringValue]

theorem copyStringVal_val {n : ℕ} [NeZero n] {c : CStr n}
    (h : root.getObjectItem key = some (.string c.val)) :
    jsonWrapCopyStringVal n root key = some c := by
  rw [copyStringVal_string h, CStr.snprintf_val]

theorem getBoolVal_none (h : root.getObjectItem key = none) :
    jsonWrapGetBoolVal root key = none := by
  simp [jsonWrapGetBoolVal, h]

theorem getBoolVal_bool {b : Bool} (h : root.getObjectItem key = some (.bool b)) :
    jsonWrapGetBoolVal root key = some b := by
  simp [jsonWrapGetBoolVal, h]

theorem getUint32Val_number {x : UInt32} (hx : x.toNat < 0x10000)
    (h : root.getObjectItem key = some (.number x.toNat)) :
    jsonWrapGetUint32Val P root key = some (some x) := by
  have hvalue : Json.valueint (x.toNat : ℚ) = x.toNat := Json.valueint_natCast (by omega)
  simp only [jsonWrapGetUint32Val, h, hvalue]
  rw [if_pos (by omega), Int.toNat_natCast, Nat.mod_eq_of_lt hx, UInt32.ofNat_toNat]

theorem getUintVal_number {max n : ℕ} {α : Type} {ofNat : ℕ → α} (hn : n ≤ max)
    (hmax : max < 0x7fffffff) (h : root.getObjectItem key = some (.number n)) :
    getUintVal max ofNat root key = some (some (ofNat n)) := by
  have hvalue : Json.valueint (n : ℚ) = n := Json.valueint_natCast (by omega)
  simp only [getUintVal, h, hvalue]
  rw [if_pos (by omega), Int.toNat_natCast]

theorem getUint16Val_number {x : UInt16} (h : root.getObjectItem key = some (.number x.toNat)) :
    jsonWrapGetUint16Val root key = some (some x) := by
  have hx : x.toNat < 65536 := x.toNat_lt
  rw [jsonWrapGetUint16Val, getUintVal_number (by omega) (by decide) h, UInt16.ofNat_toNat]

theorem getUint8Val_number {x : UInt8} (h : root.getObjectItem key = some (.number x.toNat)) :
    jsonWrapGetUint8Val root key = some (some x) := by
  have hx : x.toNat < 256 := x.toNat_lt
  rw [jsonWrapGetUint8Val, getUintVal_number (by omega) (by decide) h, UInt8.ofNat_toNat]

theorem getInt8Val_number {x : Int8} (h : root.getObjectItem key = some (.number x.toInt)) :
    jsonWrapGetInt8Val root key = some (some x) := by
  have hmin := x.le_toInt
  have hmax := x.toInt_lt
  have hvalue : Json.valueint (x.toInt : ℚ) = x.toInt := by
    apply Json.valueint_intCast
    · unfold Json.intMin
      omega
    · unfold Json.intMax
      omega
  simp only [jsonWrapGetInt8Val, h, hvalue]
  rw [if_pos (by omega), Int8.ofInt_toInt]

end RuuviGateway.Config
