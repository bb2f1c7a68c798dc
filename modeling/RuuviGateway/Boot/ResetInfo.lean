import RuuviGateway.General.CString
import RuuviGateway.General.Transition

/-!
# What is known of the last reset

A record in a memory that survives a reset counts the boots and keeps the reason of the last reset
with a text. Its checksum is written at the end of every change but a panic, which prints its text
into the record character by character and closes it only before the restart.
-/

namespace RuuviGateway.Boot

open General

section Record

def dataSoftwareMsgLen : ℕ := 1024

def dataPanicMsgLen : ℕ := 2048

/-- `configMAX_TASK_NAME_LEN`. -/
def maxTaskNameLen : ℕ := 16

instance : NeZero maxTaskNameLen := ⟨by decide⟩

inductive ResetInfoReason
  | sw
  | panic
  | taskWdt
  | other
  deriving DecidableEq, Repr

/-- `reset_info_t` up to the checksum. Both texts of the union begin its one block. -/
structure ResetInfoBody where
  signatureBegin : UInt32
  versionFmt : UInt32
  len : UInt32
  resetCnt : UInt32
  resetReason : ResetInfoReason
  taskName : CStr maxTaskNameLen
  activeTask : CStr maxTaskNameLen
  data : Bytes
  signatureEnd : UInt32
  length_data : data.length = dataPanicMsgLen

structure ResetInfo extends ResetInfoBody where
  crc : UInt32

def resetInfoSignature : UInt32 := 0x52555556

def resetInfoVersionFmt : UInt32 := 1

/-- `sizeof(reset_info_t)`. -/
def sizeofResetInfo : UInt32 := 2108

variable (espCrc32Le : ResetInfoBody → UInt32)

def resetInfoCalcCrc (p : ResetInfoBody) : UInt32 := espCrc32Le p

def ResetInfoBody.close (p : ResetInfoBody) : ResetInfo := ⟨p, resetInfoCalcCrc espCrc32Le p⟩

@[simp] theorem ResetInfoBody.toResetInfoBody_close (p : ResetInfoBody) :
    (p.close espCrc32Le).toResetInfoBody = p := rfl

def resetInfoIsValid (p : ResetInfo) : Bool :=
  if resetInfoCalcCrc espCrc32Le p.toResetInfoBody ≠ p.crc then false
  else if resetInfoSignature ≠ p.signatureBegin then false
  else if ~~~resetInfoSignature ≠ p.signatureEnd then false
  else if resetInfoVersionFmt ≠ p.versionFmt then false
  else if sizeofResetInfo ≠ p.len then false
  else true

/-- The block with a text at its beginning or where the printing has come to. -/
def ResetInfoBody.write (p : ResetInfoBody) (off : ℕ) (s : Bytes)
    (h : off + s.length < dataPanicMsgLen) : ResetInfoBody :=
  { p with
    data := writeAt p.data off s
    length_data := (length_writeAt (by rwa [p.length_data])).trans p.length_data }

def ResetInfoBody.clearData (p : ResetInfoBody) : ResetInfoBody :=
  { p with data := List.replicate dataPanicMsgLen 0, length_data := List.length_replicate }

def resetInfoClear (p : ResetInfo) : ResetInfo :=
  ResetInfoBody.close espCrc32Le (ResetInfoBody.clearData { p.toResetInfoBody with
    signatureBegin := resetInfoSignature
    versionFmt := resetInfoVersionFmt
    len := sizeofResetInfo
    resetReason := .other
    resetCnt := 0
    signatureEnd := ~~~resetInfoSignature })

def resetInfoClearExtraInfo (p : ResetInfo) : ResetInfo :=
  p.toResetInfoBody.clearData.close espCrc32Le

def resetInfoInit (p : ResetInfo) : ResetInfo :=
  let p := if !resetInfoIsValid espCrc32Le p then resetInfoClear espCrc32Le p else p
  ResetInfoBody.close espCrc32Le { p.toResetInfoBody with resetCnt := p.resetCnt + 1 }

/-- `snprintf` into the text of the software. -/
def swMsg (msg : Bytes) : Bytes := (cstr msg).take (dataSoftwareMsgLen - 1)

theorem length_swMsg (msg : Bytes) : 0 + (swMsg msg).length < dataPanicMsgLen := by
  simp only [swMsg, List.length_take, dataSoftwareMsgLen, dataPanicMsgLen]
  omega

def resetInfoSetSw (p : ResetInfo) (msg : Bytes) : ResetInfo :=
  let body := { p.toResetInfoBody with resetReason := .sw }
  (body.write 0 (swMsg msg) (length_swMsg msg)).close espCrc32Le

/-- `reset_info_gen_str_buf`. -/
def resetInfoGenStrBuf (p : ResetInfoBody) : Bytes :=
  match p.resetReason with
  | .sw => ascii "Reset by software: " ++ cstr p.data
  | .panic => ascii "Reset by panic: " ++ cstr p.data
  | .taskWdt => ascii "Reset by task wdt: " ++ p.taskName.val ++ ascii " (active task: " ++
      p.activeTask.val ++ ascii ")"
  | .other => []

def espTaskWdtIsrUserHandler (p : ResetInfo) (taskName activeTask : Bytes) : ResetInfo :=
  ResetInfoBody.close espCrc32Le { p.toResetInfoBody with
    resetReason := .taskWdt
    taskName := .snprintf maxTaskNameLen taskName
    activeTask := .snprintf maxTaskNameLen activeTask }

/-- The record and `g_reset_info_data_panic_str_buf`, which is the number of the characters printed
to it. -/
structure Memory where
  info : ResetInfo
  idx : ℕ

/-- A panic that nothing has announced begins a text of its own. -/
def espPanicHandler (m : Memory) (isHintUnknown : Bool) : Memory :=
  if isHintUnknown then
    let body := { m.info.toResetInfoBody with resetReason := .panic }
    ⟨⟨body.write 0 [] (by decide), m.info.crc⟩, 0⟩
  else m

/-- `panic_print_char_override`; a character that does not fit is dropped. -/
def panicPrintChar (m : Memory) (c : UInt8) : Memory :=
  if h : m.idx + 1 < dataPanicMsgLen then
    ⟨⟨m.info.toResetInfoBody.write m.idx [c] h, m.info.crc⟩, m.idx + 1⟩
  else m

def panicRestart (m : Memory) : Memory := { m with info := m.info.toResetInfoBody.close espCrc32Le }

end Record

section System

inductive Label
  /-- The power returns: the memory has any content. -/
  | powerOn (content : ResetInfo)
  /-- A reset that keeps the memory, and the boot after it. -/
  | reset
  | setSw (msg : Bytes)
  | taskWdt (taskName activeTask : Bytes)
  | panicHandler (isHintUnknown : Bool)
  | panicPrintChar (c : UInt8)
  | panicRestart
  /-- The server has received the statistics with the text. -/
  | clearExtraInfo

variable (espCrc32Le : ResetInfoBody → UInt32)

def Memory.boot (info : ResetInfo) : Memory := ⟨resetInfoInit espCrc32Le info, 0⟩

/-- The memory after a step, and whether a boot has found it valid. Before the power is on there is
no memory. -/
def step : Option Memory → Label → Option (Option Memory × Bool)
  | _, .powerOn content =>
      some (some (.boot espCrc32Le content), resetInfoIsValid espCrc32Le content)
  | none, _ => none
  | some m, .reset => some (some (.boot espCrc32Le m.info), resetInfoIsValid espCrc32Le m.info)
  | some m, .setSw msg => some (some ⟨resetInfoSetSw espCrc32Le m.info msg, 0⟩, true)
  | some m, .taskWdt taskName activeTask =>
      let info := espTaskWdtIsrUserHandler espCrc32Le m.info taskName activeTask
      some (some { m with info := info }, true)
  | some m, .panicHandler isHintUnknown => some (some (espPanicHandler m isHintUnknown), true)
  | some m, .panicPrintChar c => some (some (Boot.panicPrintChar m c), true)
  | some m, .panicRestart => some (some (Boot.panicRestart espCrc32Le m), true)
  | some m, .clearExtraInfo =>
      some (some { m with info := resetInfoClearExtraInfo espCrc32Le m.info }, true)

def resetInfoSystem : System (Option Memory) Label Bool where
  init := none
  step := step espCrc32Le

/-- Without power the record is lost, and a panic does not return to the task that posts the
statistics. -/
def Physical (m : Option Memory) : Label → Prop
  | .powerOn content => resetInfoIsValid espCrc32Le content = false
  | .clearExtraInfo => m.map Memory.idx = some 0
  | _ => True

end System

section Report

/-! What the steps of a run, the last one first, leave to be reported. -/

/-- A boot that has found the record lost or broken. -/
def startsAnew : Label × Bool → Bool
  | (.powerOn _, _) => true
  | (.reset, valid) => !valid
  | _ => false

def isBoot : Label × Bool → Bool
  | (.powerOn _, _) | (.reset, _) => true
  | _ => false

/-- The boots since the record was started. -/
def boots : List (Label × Bool) → ℕ
  | [] => 0
  | e :: h => if startsAnew e then 1 else if isBoot e then boots h + 1 else boots h

def reason : List (Label × Bool) → ResetInfoReason
  | [] => .other
  | e :: h =>
    if startsAnew e then .other
    else match e.1 with
      | .setSw _ => .sw
      | .taskWdt _ _ => .taskWdt
      | .panicHandler true => .panic
      | _ => reason h

/-- The names of the task that has not fed the watchdog and of the active one. -/
def wdtNames : List (Label × Bool) → Option (Bytes × Bytes)
  | [] => none
  | e :: h =>
    if startsAnew e then none
    else match e.1 with
      | .taskWdt taskName activeTask => some (taskName, activeTask)
      | _ => wdtNames h

/-- The characters printed since the last boot or the beginning of the text. -/
def printed : List (Label × Bool) → Bytes
  | [] => []
  | e :: h =>
    match e.1 with
    | .powerOn _ | .reset | .setSw _ | .panicHandler true => []
    | .panicPrintChar c => if (printed h).length + 1 < dataPanicMsgLen then printed h ++ [c]
        else printed h
    | _ => printed h

/-- The text: that of the software, or what has been printed over it. -/
def text : List (Label × Bool) → Bytes
  | [] => []
  | e :: h =>
    if startsAnew e then []
    else match e.1 with
      | .setSw msg => swMsg msg
      | .panicHandler true | .clearExtraInfo => []
      | .panicPrintChar c => if (printed h).length + 1 < dataPanicMsgLen then
          cstr (printed h ++ [c]) else text h
      | _ => text h

/-- Nothing has been printed since the record was closed. -/
def closed : List (Label × Bool) → Bool
  | [] => true
  | e :: h =>
    match e.1 with
    | .panicHandler true | .panicPrintChar _ => false
    | .panicHandler false => closed h
    | _ => true

def report (h : List (Label × Bool)) : Bytes :=
  match reason h, wdtNames h with
  | .sw, _ => ascii "Reset by software: " ++ text h
  | .panic, _ => ascii "Reset by panic: " ++ text h
  | .taskWdt, some (taskName, activeTask) =>
      ascii "Reset by task wdt: " ++ (CStr.snprintf maxTaskNameLen taskName).val ++
        ascii " (active task: " ++ (CStr.snprintf maxTaskNameLen activeTask).val ++ ascii ")"
  | _, _ => []

end Report

section Validity

variable {espCrc32Le : ResetInfoBody → UInt32}

structure ResetInfoBody.HeaderOk (p : ResetInfoBody) : Prop where
  signatureBegin : p.signatureBegin = resetInfoSignature
  signatureEnd : p.signatureEnd = ~~~resetInfoSignature
  versionFmt : p.versionFmt = resetInfoVersionFmt
  len : p.len = sizeofResetInfo

theorem resetInfoIsValid_iff (p : ResetInfo) : resetInfoIsValid espCrc32Le p = true ↔
    p.crc = espCrc32Le p.toResetInfoBody ∧ p.HeaderOk := by
  unfold resetInfoIsValid resetInfoCalcCrc
  constructor
  · intro h
    split_ifs at h with hcrc hbegin hend hversion hlen
    exact ⟨(not_not.mp hcrc).symm, (not_not.mp hbegin).symm, (not_not.mp hend).symm,
      (not_not.mp hversion).symm, (not_not.mp hlen).symm⟩
  · rintro ⟨hcrc, hbegin, hend, hversion, hlen⟩
    simp [hcrc, hbegin, hend, hversion, hlen]

/-- A record that has been closed is valid if its header is. -/
theorem resetInfoIsValid_close {p : ResetInfoBody} (hp : p.HeaderOk) :
    resetInfoIsValid espCrc32Le (p.close espCrc32Le) = true :=
  (resetInfoIsValid_iff _).mpr ⟨rfl, hp⟩

theorem resetInfoInit_of_valid {p : ResetInfo} (hp : resetInfoIsValid espCrc32Le p = true) :
    resetInfoInit espCrc32Le p = ResetInfoBody.close espCrc32Le
      { p.toResetInfoBody with resetCnt := p.resetCnt + 1 } := by
  simp [resetInfoInit, hp]

theorem resetInfoInit_of_invalid {p : ResetInfo} (hp : resetInfoIsValid espCrc32Le p = false) :
    resetInfoInit espCrc32Le p = ResetInfoBody.close espCrc32Le
      { (resetInfoClear espCrc32Le p).toResetInfoBody with resetCnt := 1 } := by
  simp [resetInfoInit, hp, resetInfoClear, ResetInfoBody.clearData, ResetInfoBody.close]

end Validity

section Runs

variable {espCrc32Le : ResetInfoBody → UInt32} {h : List (Label × Bool)} {m m' : Memory}

/-- The record holds what is to be reported. -/
structure Records (espCrc32Le : ResetInfoBody → UInt32) (h : List (Label × Bool)) (m : Memory) :
    Prop where
  header : m.info.HeaderOk
  resetCnt : m.info.resetCnt = UInt32.ofNat (boots h)
  resetReason : m.info.resetReason = reason h
  names : reason h = .taskWdt → ∃ taskName activeTask, wdtNames h = some (taskName, activeTask) ∧
    m.info.taskName = .snprintf maxTaskNameLen taskName ∧
    m.info.activeTask = .snprintf maxTaskNameLen activeTask
  text : cstr m.info.data = text h
  idx : m.idx = (printed h).length
  printed : m.info.data.take m.idx = printed h
  closed : closed h = true → resetInfoIsValid espCrc32Le m.info = true

theorem cstr_zeros (n : ℕ) : cstr (List.replicate n 0) = [] := by
  cases n <;> rfl

/-- A boot that starts the record. -/
theorem records_startsAnew {e : Label × Bool} {info : ResetInfo}
    (hvalid : resetInfoIsValid espCrc32Le info = false) (he : startsAnew e = true) :
    Records espCrc32Le (e :: h) (.boot espCrc32Le info) := by
  have hprinted : printed (e :: h) = [] := by
    rcases e with ⟨_ | _ | _, _⟩ <;> first | rfl | cases he
  unfold Memory.boot
  rw [resetInfoInit_of_invalid hvalid]
  constructor
  · exact ⟨rfl, rfl, rfl, rfl⟩
  · simp [boots, he]
  · simp [reason, he, resetInfoClear, ResetInfoBody.clearData]
  · simp [reason, he]
  · simp [text, he, resetInfoClear, ResetInfoBody.clearData, cstr_zeros]
  · simp [hprinted]
  · simp [hprinted]
  · exact fun _ => resetInfoIsValid_close ⟨rfl, rfl, rfl, rfl⟩

theorem Records.reset (hm : Records espCrc32Le h m)
    (hvalid : resetInfoIsValid espCrc32Le m.info = true) :
    Records espCrc32Le ((.reset, true) :: h) (.boot espCrc32Le m.info) := by
  unfold Memory.boot
  rw [resetInfoInit_of_valid hvalid]
  constructor
  · exact ⟨hm.header.1, hm.header.2, hm.header.3, hm.header.4⟩
  · simp [boots, startsAnew, isBoot, hm.resetCnt]
  · simpa [reason, startsAnew] using hm.resetReason
  · simpa [reason, startsAnew, wdtNames] using hm.names
  · simpa [Boot.text, startsAnew] using hm.text
  · simp [Boot.printed]
  · simp [Boot.printed]
  · exact fun _ => resetInfoIsValid_close ⟨hm.header.1, hm.header.2, hm.header.3, hm.header.4⟩

theorem Records.setSw (hm : Records espCrc32Le h m) (msg : Bytes) :
    Records espCrc32Le ((.setSw msg, true) :: h) ⟨resetInfoSetSw espCrc32Le m.info msg, 0⟩ where
  header := ⟨hm.header.1, hm.header.2, hm.header.3, hm.header.4⟩
  resetCnt := hm.resetCnt
  resetReason := rfl
  names := by simp [reason, startsAnew]
  text := by
    have hnul : 0 ∉ swMsg msg := fun hmem => noNul_cstr msg (List.mem_of_mem_take hmem)
    exact cstr_drop_writeAt (Nat.zero_le m.info.data.length) hnul
  idx := rfl
  printed := rfl
  closed := fun _ => resetInfoIsValid_close ⟨hm.header.1, hm.header.2, hm.header.3, hm.header.4⟩

theorem Records.taskWdt (hm : Records espCrc32Le h m) (taskName activeTask : Bytes) :
    Records espCrc32Le ((.taskWdt taskName activeTask, true) :: h)
      { m with info := espTaskWdtIsrUserHandler espCrc32Le m.info taskName activeTask } where
  header := ⟨hm.header.1, hm.header.2, hm.header.3, hm.header.4⟩
  resetCnt := hm.resetCnt
  resetReason := rfl
  names := fun _ => ⟨taskName, activeTask, rfl, rfl, rfl⟩
  text := hm.text
  idx := hm.idx
  printed := hm.printed
  closed := fun _ => resetInfoIsValid_close ⟨hm.header.1, hm.header.2, hm.header.3, hm.header.4⟩

theorem Records.panicHandler (hm : Records espCrc32Le h m) (isHintUnknown : Bool) :
    Records espCrc32Le ((.panicHandler isHintUnknown, true) :: h)
      (espPanicHandler m isHintUnknown) := by
  cases isHintUnknown with
  | false => exact ⟨hm.header, hm.resetCnt, hm.resetReason, hm.names, hm.text, hm.idx, hm.printed,
      hm.closed⟩
  | true =>
    refine ⟨⟨hm.header.1, hm.header.2, hm.header.3, hm.header.4⟩, hm.resetCnt, rfl, ?_, ?_, rfl,
      rfl, by simp [Boot.closed]⟩
    · simp [reason, startsAnew]
    · exact cstr_drop_writeAt (Nat.zero_le m.info.data.length) List.not_mem_nil

theorem Records.panicPrintChar (hm : Records espCrc32Le h m) (c : UInt8) :
    Records espCrc32Le ((.panicPrintChar c, true) :: h) (Boot.panicPrintChar m c) := by
  have hlen := m.info.length_data
  by_cases hfits : m.idx + 1 < dataPanicMsgLen
  · have hprinted : Boot.printed ((.panicPrintChar c, true) :: h) = Boot.printed h ++ [c] := by
      simp [Boot.printed, ← hm.idx, hfits]
    have hdata : writeAt m.info.data m.idx [c] =
        (Boot.printed h ++ [c]) ++ 0 :: m.info.data.drop (m.idx + 1 + 1) := by
      rw [← hm.printed]
      rfl
    have hidx : m.idx + 1 = (Boot.printed h ++ [c]).length := by simp [hm.idx]
    rw [Boot.panicPrintChar, dif_pos hfits]
    refine ⟨⟨hm.header.1, hm.header.2, hm.header.3, hm.header.4⟩, hm.resetCnt, hm.resetReason,
      hm.names, ?_, hprinted ▸ hidx, ?_, by simp [Boot.closed]⟩
    · have htext : Boot.text ((.panicPrintChar c, true) :: h) = cstr (Boot.printed h ++ [c]) := by
        simp [Boot.text, startsAnew, ← hm.idx, hfits]
      rw [htext]
      show cstr (writeAt m.info.data m.idx [c]) = _
      rw [hdata, cstr_append_nul_self]
    · rw [hprinted]
      show (writeAt m.info.data m.idx [c]).take (m.idx + 1) = _
      rw [hdata, hidx, List.take_left]
  · have hprinted : Boot.printed ((.panicPrintChar c, true) :: h) = Boot.printed h := by
      simp [Boot.printed, ← hm.idx, hfits]
    have htext : Boot.text ((.panicPrintChar c, true) :: h) = Boot.text h := by
      simp [Boot.text, startsAnew, ← hm.idx, hfits]
    rw [Boot.panicPrintChar, dif_neg hfits]
    exact ⟨hm.header, hm.resetCnt, hm.resetReason, hm.names, htext ▸ hm.text, hprinted ▸ hm.idx,
      hprinted ▸ hm.printed, by simp [Boot.closed]⟩

theorem Records.panicRestart (hm : Records espCrc32Le h m) :
    Records espCrc32Le ((.panicRestart, true) :: h) (Boot.panicRestart espCrc32Le m) where
  header := hm.header
  resetCnt := hm.resetCnt
  resetReason := hm.resetReason
  names := hm.names
  text := hm.text
  idx := hm.idx
  printed := hm.printed
  closed := fun _ => resetInfoIsValid_close hm.header

theorem Records.clearExtraInfo (hm : Records espCrc32Le h m) (hidx : m.idx = 0) :
    Records espCrc32Le ((.clearExtraInfo, true) :: h)
      { m with info := resetInfoClearExtraInfo espCrc32Le m.info } where
  header := ⟨hm.header.1, hm.header.2, hm.header.3, hm.header.4⟩
  resetCnt := hm.resetCnt
  resetReason := hm.resetReason
  names := hm.names
  text := cstr_zeros dataPanicMsgLen
  idx := hm.idx
  printed := by
    have hempty : Boot.printed h = [] := List.eq_nil_of_length_eq_zero (hm.idx.symm.trans hidx)
    simp [Boot.printed, hempty, hidx]
  closed := fun _ => resetInfoIsValid_close ⟨hm.header.1, hm.header.2, hm.header.3, hm.header.4⟩

/-- What a step keeps, once there is a record. -/
theorem records_step {o : Option Memory} {l : Label} {valid : Bool}
    (ho : ∀ m, o = some m → Records espCrc32Le h m) (hphysical : Physical espCrc32Le o l)
    (hs : step espCrc32Le o l = some (some m', valid)) :
    Records espCrc32Le ((l, valid) :: h) m' := by
  cases l with
  | powerOn content =>
    cases o <;> cases hs <;> exact records_startsAnew hphysical rfl
  | _ =>
    cases o with
    | none => cases hs
    | some m =>
      have hm := ho m rfl
      cases hs
      first
      | exact hm.setSw _
      | exact hm.taskWdt _ _
      | exact hm.panicHandler _
      | exact hm.panicPrintChar _
      | exact hm.panicRestart
      | exact hm.clearExtraInfo (Option.some.inj hphysical)
      | cases hvalid : resetInfoIsValid espCrc32Le m.info with
        | true => exact hm.reset hvalid
        | false => exact records_startsAnew hvalid rfl

/-- Whatever the order of resets, restarts by the software, watchdogs and panics: the record counts
the boots since it was started and reports the last reason with its text, and it is valid unless a
panic is printing to it. -/
theorem resetInfo_reported
    (hr : (resetInfoSystem espCrc32Le).Run (Physical espCrc32Le) h (some m)) :
    m.info.resetCnt = UInt32.ofNat (boots h) ∧
      resetInfoGenStrBuf m.info.toResetInfoBody = report h ∧
      (closed h = true → resetInfoIsValid espCrc32Le m.info = true) := by
  have hm : Records espCrc32Le h m := by
    refine hr.historyInvariant (I := fun h o => ∀ m, o = some m → Records espCrc32Le h m)
      (by simp [resetInfoSystem]) ?_ m rfl
    rintro h o l o' valid ho hphysical hs m' rfl
    exact records_step ho hphysical hs
  refine ⟨hm.resetCnt, ?_, hm.closed⟩
  unfold resetInfoGenStrBuf report
  rw [hm.resetReason, hm.text]
  cases hreason : reason h with
  | taskWdt =>
    obtain ⟨taskName, activeTask, hnames, htask, hactive⟩ := hm.names hreason
    simp [hnames, htask, hactive]
  | _ => simp

/-- The memory after the power has returned, for a checksum that is not zero. -/
def sampleContent : ResetInfo where
  signatureBegin := 0
  versionFmt := 0
  len := 0
  resetCnt := 0
  resetReason := .other
  taskName := .empty
  activeTask := .empty
  data := List.replicate dataPanicMsgLen 0
  signatureEnd := 0
  length_data := List.length_replicate
  crc := 0

def sampleCrc (p : ResetInfoBody) : UInt32 := p.signatureBegin ^^^ p.len ||| 1

/-- A restart of the software and the boot after it. -/
def sampleHistory : List (Label × Bool) :=
  [(.reset, true), (.setSw (ascii "Low memory"), true), (.powerOn sampleContent, false)]

theorem resetInfo_reported_sample : ∃ m, (resetInfoSystem sampleCrc).Run (Physical sampleCrc)
    sampleHistory (some m) ∧ resetInfoGenStrBuf m.info.toResetInfoBody = report sampleHistory := by
  have hlost : Physical sampleCrc none (.powerOn sampleContent) := rfl
  have hmsg (m : Option Memory) : Physical sampleCrc m (.setSw (ascii "Low memory")) := True.intro
  have hreset (m : Option Memory) : Physical sampleCrc m .reset := True.intro
  have hon := System.Run.step (S := resetInfoSystem sampleCrc) .init hlost rfl
  have hrun := System.Run.step (System.Run.step hon (hmsg _) rfl) (hreset _) rfl
  exact ⟨_, hrun, (resetInfo_reported hrun).2.1⟩

end Runs

end RuuviGateway.Boot
