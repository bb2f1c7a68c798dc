import RuuviGateway.General.NumberParts

/-!
# Time strings

The parser of dates in ISO 8601, with or without separators. A text is what is left of the string;
it ends where the string does. A field is converted in a buffer of 32 bytes. The calendar of the C
library and the conversion of numbers are other components. -/

namespace RuuviGateway.Time

open General

structure Tm where
  year : ℤ
  mon : ℤ
  mday : ℤ
  hour : ℤ
  min : ℤ
  sec : ℤ
  wday : ℤ
  isdst : ℤ
  deriving DecidableEq, Repr

structure Calendar where
  osMkgmtime : Tm → ℤ
  gmtimeR : ℤ → Tm

section Fields

variable (osStrToUint32Cptr : Bytes → ℕ → UInt32 × Bytes)

abbrev timeStrTmpBufSize : ℕ := 32

/-- The conversion of at most `maxLen` characters, and the text behind its end pointer. -/
def timeStrConvToUint32Cptr (s : Bytes) (maxLen : ℕ) : UInt32 × Bytes :=
  if timeStrTmpBufSize ≤ maxLen then (0xffffffff, s.drop maxLen)
  else
    let r := osStrToUint32Cptr (s.take maxLen) 10
    (r.1, s.drop ((s.take maxLen).length - r.2.length))

/-- What `parse_val_of_tm` returns; the value is absent if it is `INT32_MIN`. -/
structure FieldVal where
  done : Bool
  val : Option ℕ
  cur : Bytes
  deriving DecidableEq

/-- The delimiter is absent if it is NUL. -/
def parseValOfTm (cur : Bytes) (valLen : ℕ) (minVal maxVal : UInt32) (delimiter : Option UInt8) :
    FieldVal :=
  let r := timeStrConvToUint32Cptr osStrToUint32Cptr cur (min valLen cur.length)
  if r.1 < minVal ∨ maxVal < r.1 then ⟨true, none, cur⟩
  else
    match r.2 with
    | [] => ⟨true, some r.1.toNat, []⟩
    | c :: rest =>
      match delimiter with
      | some delimiter =>
        if c = delimiter then ⟨false, some r.1.toNat, rest⟩
        else if isDigit 10 c then ⟨false, some r.1.toNat, c :: rest⟩
        else ⟨true, none, cur⟩
      | none => ⟨false, some r.1.toNat, c :: rest⟩

def dot : UInt8 := 0x2e

def colon : UInt8 := 0x3a

/-- The milliseconds of a fraction by the number of its digits. -/
def msOfDigits (fractSec : UInt32) : ℕ → Option UInt16
  | 0 => some 0
  | 1 => some (fractSec * 100).toUInt16
  | 2 => some (fractSec * 10).toUInt16
  | 3 => some (fractSec * 1).toUInt16
  | 4 => some (fractSec / 10).toUInt16
  | 5 => some (fractSec / 100).toUInt16
  | 6 => some (fractSec / 1000).toUInt16
  | _ => none

/-- The milliseconds of a text that begins with a dot, and the text behind the fraction. -/
def parseMs (cur : Bytes) : Option (UInt16 × Bytes) :=
  let cur := cur.tail
  let r := timeStrConvToUint32Cptr osStrToUint32Cptr cur cur.length
  (msOfDigits r.1 (cur.length - r.2.length)).map fun ms => (ms, r.2)

def timeStrTzHoursMax (positive : Bool) : ℕ := if positive then 14 else 12

/-- The minutes of a zone, if it has any. -/
def parseTzMinutes (cur : Bytes) : Option ℕ :=
  if cur = [] then some 0
  else
    let minutes := parseValOfTm osStrToUint32Cptr cur 2 0 59 none
    if minutes.done then minutes.val else none

/-- The offset in seconds. -/
def tzOffsetSeconds (positive : Bool) (tzHours tzMinutes : ℕ) : Option ℤ :=
  if timeStrTzHoursMax positive < tzHours then none
  else if tzMinutes % 15 ≠ 0 then none
  else
    let offset : ℤ := (tzHours * 60 + tzMinutes) * 60
    some (if positive then offset else -offset)

/-- `parse_tz` behind the sign. -/
def parseTzHours (positive : Bool) (cur : Bytes) : Option ℤ :=
  let hours := parseValOfTm osStrToUint32Cptr cur 2 0 23 (some colon)
  hours.val.bind fun tzHours =>
    (parseTzMinutes osStrToUint32Cptr hours.cur).bind (tzOffsetSeconds positive tzHours)

def parseTz : Bytes → Option ℤ
  | [] => none
  | c :: cur =>
    if c = plus then parseTzHours osStrToUint32Cptr true cur
    else if c = minus then parseTzHours osStrToUint32Cptr false cur
    else none

/-- A date is complete or wrong, or the next field follows. -/
inductive FieldStep
  | done (res : Option Tm)
  | next (tm : Tm) (cur : Bytes)

/-- The functions `time_str_parse_tm_*`, which differ in the field and its bounds. -/
def timeStrParseTm (valLen : ℕ) (minVal maxVal : UInt32) (delimiter : Option UInt8)
    (set : ℕ → Tm → Tm) (tm : Tm) (cur : Bytes) : FieldStep :=
  let r := parseValOfTm osStrToUint32Cptr cur valLen minVal maxVal delimiter
  match r.val with
  | none => .done none
  | some val => if r.done then .done (some (set val tm)) else .next (set val tm) r.cur

def timeStrParseTmYear : Tm → Bytes → FieldStep :=
  timeStrParseTm osStrToUint32Cptr 4 1970 2106 (some minus) fun val tm =>
    { tm with year := val - 1900 }

def timeStrParseTmMon : Tm → Bytes → FieldStep :=
  timeStrParseTm osStrToUint32Cptr 2 1 12 (some minus) fun val tm => { tm with mon := val - 1 }

def timeStrParseTmMday : Tm → Bytes → FieldStep :=
  timeStrParseTm osStrToUint32Cptr 2 1 31 (some 0x54) fun val tm => { tm with mday := val }

def timeStrParseTmHour : Tm → Bytes → FieldStep :=
  timeStrParseTm osStrToUint32Cptr 2 0 23 (some colon) fun val tm => { tm with hour := val }

def timeStrParseTmMin : Tm → Bytes → FieldStep :=
  timeStrParseTm osStrToUint32Cptr 2 0 59 (some colon) fun val tm => { tm with min := val }

/-- A minute may have 61 seconds. -/
def timeStrParseTmSec : Tm → Bytes → FieldStep :=
  timeStrParseTm osStrToUint32Cptr 2 0 60 none fun val tm => { tm with sec := val }

end Fields

section Conversion

def FieldStep.andThen (step : FieldStep) (next : Tm → Bytes → Option (Tm × UInt16)) :
    Option (Tm × UInt16) :=
  match step with
  | .done res => res.map (·, 0)
  | .next tm cur => next tm cur

variable (osStrToUint32Cptr : Bytes → ℕ → UInt32 × Bytes) (C : Calendar)

/-- `time_str_conv_to_tm` behind the seconds: the fraction. -/
def timeStrConvFraction (cur : Bytes) : Option (UInt16 × Bytes) :=
  if cur.head? = some dot then parseMs osStrToUint32Cptr cur else some (0, cur)

/-- The zone, which may be absent. -/
def timeStrConvZone (tm : Tm) (ms : UInt16) (cur : Bytes) : Option (Tm × UInt16) :=
  if cur = [] ∨ cur = ascii "Z" then some (tm, ms)
  else (parseTz osStrToUint32Cptr cur).map fun offset =>
    if offset = 0 then (tm, ms)
    else ({ C.gmtimeR (C.osMkgmtime tm - offset) with isdst := 0 }, ms)

def timeStrConvTail (tm : Tm) (cur : Bytes) : Option (Tm × UInt16) :=
  (timeStrConvFraction osStrToUint32Cptr cur).bind fun (ms, cur) =>
    timeStrConvZone osStrToUint32Cptr C tm ms cur

def timeStrConvToTm (timeStr : Bytes) : Option (Tm × UInt16) :=
  (timeStrParseTmYear osStrToUint32Cptr ⟨0, 0, 1, 0, 0, 0, 0, 0⟩ timeStr).andThen fun tm cur =>
  (timeStrParseTmMon osStrToUint32Cptr tm cur).andThen fun tm cur =>
  (timeStrParseTmMday osStrToUint32Cptr tm cur).andThen fun tm cur =>
  (timeStrParseTmHour osStrToUint32Cptr tm cur).andThen fun tm cur =>
  (timeStrParseTmMin osStrToUint32Cptr tm cur).andThen fun tm cur =>
  (timeStrParseTmSec osStrToUint32Cptr tm cur).andThen (timeStrConvTail osStrToUint32Cptr C)

def timeStrConvToUnixTime (timeStr : Bytes) : ℤ :=
  match timeStrConvToTm osStrToUint32Cptr C timeStr with
  | none => 0
  | some (tm, _) => C.osMkgmtime tm

end Conversion

end RuuviGateway.Time
