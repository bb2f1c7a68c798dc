import Mathlib.Data.List.DropRight
import RuuviGateway.General.CString

/-!
# The list of firmware segments

The parser of `info.txt`. Its lines are read into a buffer of 80 bytes on the stack. The search for
the end of a file name does not stop at the end of the line, so a line is parsed together with the
memory behind it: what earlier lines left in the buffer, and what stands behind the buffer as far as
it can be read. Reading further is a fault that halts the gateway.
-/

namespace RuuviGateway.Nrf52Fw

open General

/-- The functions that come from other components. -/
structure Externals where
  /-- The value of a number at the beginning of a text, and how many characters it takes. -/
  osStrToUint32Cptr : Bytes → ℕ → UInt32 × ℕ
  crc32Le : UInt32 → Bytes → UInt32

abbrev segmentFileNameSize : ℕ := 20

instance neZeroFileName : NeZero segmentFileNameSize := ⟨by decide⟩

abbrev infoMaxSegments : ℕ := 5

structure Segment where
  address : UInt32
  size : UInt32
  fileName : CStr segmentFileNameSize
  crc : UInt32
  deriving DecidableEq

structure Info where
  fwVer : UInt32
  segments : List Segment
  bounded : segments.length ≤ infoMaxSegments
  deriving DecidableEq

/-- The cleared record. -/
def Info.zero : Info := ⟨0, [], Nat.zero_le _⟩

section Version

variable (X : Externals)

/-- `endPos` is the position of the end of the token, or `none` for the end of the text. -/
def parseVersionDigit (s : Bytes) (endPos : Option ℕ) : Option UInt8 :=
  let (val, stop) := X.osStrToUint32Cptr s 10
  let complete := match endPos with
    | none => (s.drop stop).isEmpty
    | some pos => pos == stop
  if !complete then none else if val > 255 then none else some val.toUInt8

/-- The digit in its byte of the version. -/
def parseDigitUpdateVer (s : Bytes) (endPos : Option ℕ) (byteNum : UInt32) : Option UInt32 :=
  (parseVersionDigit X s endPos).map fun digit => digit.toUInt32 <<< (8 * byteNum)

/-- The position of the character, as `strchr` finds it. -/
def strchr (s : Bytes) (c : UInt8) : Option ℕ := s.findIdx? (· == c)

def dot : UInt8 := 46

def parseVersion (s : Bytes) : Option UInt32 := do
  let pos1 ← strchr s dot
  let digit1 ← parseDigitUpdateVer X s (some pos1) 3
  let s2 := s.drop (pos1 + 1)
  let pos2 ← strchr s2 dot
  let digit2 ← parseDigitUpdateVer X s2 (some pos2) 2
  let s3 := s2.drop (pos2 + 1)
  if s3.isEmpty then none
  let digit3 ← parseDigitUpdateVer X s3 none 1
  some (digit1 ||| digit2 ||| digit3)

def parseVersionLine (line : Bytes) : Option UInt32 :=
  if line.take 3 = ascii "# v" then parseVersion X (line.drop 3) else none

end Version

section Line

def isBlank (c : UInt8) : Bool := c == 32 || c == 9

/-- The characters that are removed from the end of a line. -/
def isTrailing (c : UInt8) : Bool := c == 10 || c == 13 || isBlank c

/-- `nrf52fw_line_rstrip`: the trailing characters of the text are overwritten with NUL. -/
def lineRstrip (buf : Bytes) : Bytes :=
  let buf := buf.set (buf.length - 1) 0
  let text := cstr buf
  let kept := text.rdropWhile isTrailing
  kept ++ List.replicate (text.length - kept.length) 0 ++ buf.drop text.length

/-- Why a line is no segment: it is rejected, or the gateway halts while it reads the line. -/
inductive LineError
  | halted
  | rejected

/-- A number and the memory behind its last character. -/
def parseNumber (X : Externals) (base : ℕ) (mem : Bytes) : UInt32 × Bytes :=
  let (val, stop) := X.osStrToUint32Cptr (cstr mem) base
  (val, mem.drop stop)

/-- A number with blanks behind it, and the memory from the next token on. -/
def parseNumberThenBlanks (X : Externals) (base : ℕ) (mem : Bytes) :
    Except LineError (UInt32 × Bytes) :=
  let (val, mem) := parseNumber X base mem
  match mem with
  | [] => .error .halted
  | c :: _ => if isBlank c then .ok (val, mem.dropWhile isBlank) else .error .rejected

/-- The file name ends with a blank. The end of the line does not end it. -/
def parseFileName (mem : Bytes) : Except LineError (Bytes × Bytes) :=
  let fileName := mem.takeWhile fun c => !isBlank c
  let mem := mem.dropWhile fun c => !isBlank c
  if mem.isEmpty then .error .halted
  else if fileName.length ≥ segmentFileNameSize then .error .rejected
  else .ok (fileName, mem)

/-- A number that ends the line. -/
def parseNumberAtEnd (X : Externals) (base : ℕ) (mem : Bytes) : Except LineError UInt32 :=
  let (val, mem) := parseNumber X base mem
  match mem with
  | [] => .error .halted
  | c :: _ => if c = 0 then .ok val else .error .rejected

/-- `nrf52fw_parse_segment_info_line` on the memory from the beginning of the line on. -/
def parseSegmentInfoLine (X : Externals) (mem : Bytes) : Except LineError Segment := do
  let (address, mem) ← parseNumberThenBlanks X 16 mem
  let (size, mem) ← parseNumberThenBlanks X 0 mem
  let (fileName, mem) ← parseFileName mem
  let crc ← parseNumberAtEnd X 16 mem
  .ok ⟨address, size, .snprintf _ fileName, crc⟩

end Line

section File

/-- A text file: its content, and how many bytes can be read before a read error, if there is one.
An error looks like the end of the file to `fgets`. -/
structure TextFile where
  content : Bytes
  readable : ℕ

def lineBufSize : ℕ := 80

/-- The lines that `fgets` yields from a stream. The line in progress has room for `room` more
characters. -/
def fgetsLines : ℕ → Bytes → Bytes → List Bytes
  | _, [], [] => []
  | _, line, [] => [line]
  | room, line, c :: stream =>
    if c = 10 ∨ room ≤ 1 then (line ++ [c]) :: fgetsLines (lineBufSize - 1) [] stream
    else fgetsLines (room - 1) (line ++ [c]) stream

def linesOf (stream : Bytes) : List Bytes := fgetsLines (lineBufSize - 1) [] stream

/-- The stack: the line buffer before it is first written, and the readable memory behind it. -/
structure Stack where
  lineBuf : Bytes
  size : lineBuf.length = lineBufSize
  beyond : Bytes

/-- The loop of `nrf52fw_parse_info_file`: the number of the line that was rejected, or zero, and
the record. It is absent if the gateway halts. -/
def parseInfoLoop (X : Externals) (beyond : Bytes) :
    List Bytes → ℕ → Bytes → Info → Option (ℕ × Info)
  | [], _, _, info => some (0, info)
  | line :: lines, lineCnt, buf, info =>
    let lineCnt := lineCnt + 1
    let buf := lineRstrip (writeAt buf 0 line)
    if lineCnt = 1 then
      match parseVersionLine X (cstr buf) with
      | none => some (lineCnt, info)
      | some fwVer => parseInfoLoop X beyond lines lineCnt buf { info with fwVer := fwVer }
    else if hroom : info.segments.length < infoMaxSegments then
      match parseSegmentInfoLine X (buf ++ beyond) with
      | .error .halted => none
      | .error .rejected => some (lineCnt, info)
      | .ok segment =>
        parseInfoLoop X beyond lines lineCnt buf
          ⟨info.fwVer, info.segments ++ [segment], by rwa [List.length_append]⟩
    else some (lineCnt, info)

def parseInfoFile (X : Externals) (stack : Stack) (fd : TextFile) : Option (ℕ × Info) :=
  parseInfoLoop X stack.beyond (linesOf (fd.content.take fd.readable)) 0 stack.lineBuf .zero

/-- `nrf52fw_read_info_txt`. The file is absent if it cannot be opened. -/
def readInfoTxt (X : Externals) (stack : Stack) (infoTxt : Option TextFile) :
    Option (Option Info) :=
  match infoTxt with
  | none => some none
  | some fd => (parseInfoFile X stack fd).map fun (errLineNum, info) =>
      if errLineNum ≠ 0 then none else some info

end File

section Listing

variable {X : Externals} {mem stale : Bytes}

/-- A line as `fgets` and `lineRstrip` leave it, without the memory behind it. -/
def lineMemory (line : Bytes) : Bytes := lineRstrip (line ++ [0])

def versionOfLine (X : Externals) (line : Bytes) : Option UInt32 :=
  parseVersionLine X (cstr (lineMemory line))

def segmentOfLine (X : Externals) (line : Bytes) : Option Segment :=
  (parseSegmentInfoLine X (lineMemory line)).toOption

/-- What a text says: a version and a list of segments, each line by itself. -/
def listing (X : Externals) (content : Bytes) : Option (UInt32 × List Segment) :=
  match linesOf content with
  | [] => none
  | line :: lines =>
    (versionOfLine X line).bind fun fwVer => (lines.mapM (segmentOfLine X)).map fun segments =>
      (fwVer, segments)

/-- The memory ends with a NUL, which ends every text in it. -/
def EndsNul (mem : Bytes) : Prop := mem.getLast? = some 0

theorem EndsNul.nul_mem (h : EndsNul mem) : 0 ∈ mem := List.mem_of_getLast? h

theorem EndsNul.suffix {mem' : Bytes} (h : EndsNul mem) (hs : mem' <:+ mem) (hne : mem' ≠ []) :
    EndsNul mem' := by
  obtain ⟨pre, rfl⟩ := hs
  rw [EndsNul, List.getLast?_append_of_ne_nil _ hne] at h
  exact h

theorem EndsNul.cstr_append (h : EndsNul mem) (stale : Bytes) : cstr (mem ++ stale) = cstr mem := by
  apply cstr_eq_of_take (n := mem.length)
  · rw [List.take_length]
    exact h.nul_mem
  · rw [List.take_length, List.take_left]

theorem EndsNul.length_cstr_lt (h : EndsNul mem) : (cstr mem).length < mem.length := by
  have hne : mem ≠ [] := by
    rintro rfl
    simp [EndsNul] at h
  have hlt : (cstr (mem.drop 0)).length < mem.length - 0 :=
    length_cstr_drop h (List.length_pos_iff.mpr hne)
  simpa using hlt

theorem endsNul_append (line : Bytes) : EndsNul (line ++ [0]) := List.getLast?_append_cons ..

theorem EndsNul.set_last (h : EndsNul mem) : mem.set (mem.length - 1) 0 = mem := by
  obtain ⟨init, rfl⟩ := List.getLast?_eq_some_iff.mp h
  simp

theorem EndsNul.lineRstrip_eq (h : EndsNul mem) : lineRstrip mem =
    (cstr mem).rdropWhile isTrailing ++
      List.replicate ((cstr mem).length - ((cstr mem).rdropWhile isTrailing).length) 0 ++
      mem.drop (cstr mem).length := by
  rw [lineRstrip, h.set_last]

theorem EndsNul.lineRstrip (h : EndsNul mem) : EndsNul (lineRstrip mem) := by
  have hne : mem.drop (cstr mem).length ≠ [] := by
    rw [Ne, List.drop_eq_nil_iff]
    exact Nat.not_le.mpr h.length_cstr_lt
  rw [h.lineRstrip_eq, EndsNul, List.getLast?_append_of_ne_nil _ hne]
  exact h.suffix (List.drop_suffix _ _) hne

/-- Stripping a line leaves the memory behind it as it is, apart from the last byte of the buffer.
-/
theorem EndsNul.lineRstrip_append (h : EndsNul mem) (stale : Bytes) :
    ∃ stale', Nrf52Fw.lineRstrip (mem ++ stale) = Nrf52Fw.lineRstrip mem ++ stale' := by
  cases stale with
  | nil => exact ⟨[], by simp⟩
  | cons c stale =>
    refine ⟨(c :: stale).set stale.length 0, ?_⟩
    have hset : (mem ++ c :: stale).set ((mem ++ c :: stale).length - 1) 0 =
        mem ++ (c :: stale).set stale.length 0 := by
      rw [List.length_append, List.length_cons, List.set_append_right _ _ (by omega)]
      congr 2
      omega
    rw [h.lineRstrip_eq, Nrf52Fw.lineRstrip, hset, h.cstr_append,
      List.drop_append_of_le_length h.length_cstr_lt.le]
    simp only [List.append_assoc]

theorem EndsNul.parseNumber_append (h : EndsNul mem) {base : ℕ}
    (hne : (parseNumber X base mem).2 ≠ []) (stale : Bytes) :
    parseNumber X base (mem ++ stale) =
      ((parseNumber X base mem).1, (parseNumber X base mem).2 ++ stale) := by
  have hlen := Nat.not_le.mp (mt List.drop_eq_nil_iff.mpr hne)
  simp only [parseNumber]
  rw [h.cstr_append, List.drop_append_of_le_length hlen.le]

theorem dropWhile_append_of_ne_nil (stale : Bytes) {p : UInt8 → Bool} (hne : mem.dropWhile p ≠ []) :
    (mem ++ stale).dropWhile p = mem.dropWhile p ++ stale ∧
      (mem ++ stale).takeWhile p = mem.takeWhile p := by
  induction mem with
  | nil => exact absurd rfl hne
  | cons c mem ih =>
    by_cases hc : p c = true
    · rw [List.dropWhile_cons_of_pos hc] at hne
      obtain ⟨hdrop, htake⟩ := ih hne
      rw [List.cons_append, List.dropWhile_cons_of_pos hc, List.dropWhile_cons_of_pos hc,
        List.takeWhile_cons_of_pos hc, List.takeWhile_cons_of_pos hc, hdrop, htake]
      exact ⟨rfl, rfl⟩
    · rw [List.cons_append, List.dropWhile_cons_of_neg hc, List.dropWhile_cons_of_neg hc,
        List.takeWhile_cons_of_neg hc, List.takeWhile_cons_of_neg hc]
      exact ⟨rfl, rfl⟩

theorem EndsNul.dropWhile_ne_nil (h : EndsNul mem) {p : UInt8 → Bool} (hp : p 0 = false) :
    mem.dropWhile p ≠ [] := by
  intro hnil
  have hall := List.dropWhile_eq_nil_iff.mp hnil 0 h.nul_mem
  rw [hp] at hall
  cases hall

theorem ok_of_bind_ok {ε α β : Type} {x : Except ε α} {f : α → Except ε β} {b : β}
    (h : (x >>= f) = .ok b) : ∃ a, x = .ok a ∧ f a = .ok b := by
  cases x with
  | error e => cases h
  | ok a => exact ⟨a, rfl, h⟩

theorem EndsNul.parseNumberThenBlanks_append (h : EndsNul mem) {base : ℕ} {val : UInt32}
    {rest : Bytes} (hval : parseNumberThenBlanks X base mem = .ok (val, rest)) (stale : Bytes) :
    parseNumberThenBlanks X base (mem ++ stale) = .ok (val, rest ++ stale) ∧ EndsNul rest := by
  unfold parseNumberThenBlanks at hval ⊢
  dsimp only at hval
  cases hmem : (parseNumber X base mem).2 with
  | nil =>
    rw [hmem] at hval
    cases hval
  | cons c tail =>
    have hne : (parseNumber X base mem).2 ≠ [] := by
      rw [hmem]
      exact List.cons_ne_nil _ _
    have hend : EndsNul (c :: tail) :=
      h.suffix (hmem ▸ List.drop_suffix _ _) (List.cons_ne_nil _ _)
    have hdrop : (c :: tail).dropWhile isBlank ≠ [] := hend.dropWhile_ne_nil rfl
    rw [hmem] at hval
    rw [h.parseNumber_append hne, hmem]
    dsimp only [List.cons_append] at hval ⊢
    split_ifs at hval ⊢
    simp only [Except.ok.injEq, Prod.mk.injEq] at hval
    obtain ⟨rfl, rfl⟩ := hval
    rw [← List.cons_append, (dropWhile_append_of_ne_nil stale hdrop).1]
    exact ⟨rfl, hend.suffix (List.dropWhile_suffix _) hdrop⟩

theorem EndsNul.parseFileName_append (h : EndsNul mem) {name rest : Bytes}
    (hname : parseFileName mem = .ok (name, rest)) (stale : Bytes) :
    parseFileName (mem ++ stale) = .ok (name, rest ++ stale) ∧ EndsNul rest := by
  unfold parseFileName at hname ⊢
  dsimp only at hname ⊢
  split_ifs at hname with hempty hlong
  simp only [Except.ok.injEq, Prod.mk.injEq] at hname
  obtain ⟨rfl, rfl⟩ := hname
  rw [List.isEmpty_iff] at hempty
  obtain ⟨hdrop, htake⟩ := dropWhile_append_of_ne_nil stale hempty
  rw [hdrop, htake, if_neg (by simp [hempty]), if_neg hlong]
  exact ⟨rfl, h.suffix (List.dropWhile_suffix _) hempty⟩

theorem EndsNul.parseNumberAtEnd_append (h : EndsNul mem) {base : ℕ} {val : UInt32}
    (hval : parseNumberAtEnd X base mem = .ok val) (stale : Bytes) :
    parseNumberAtEnd X base (mem ++ stale) = .ok val := by
  unfold parseNumberAtEnd at hval ⊢
  dsimp only at hval
  cases hmem : (parseNumber X base mem).2 with
  | nil =>
    rw [hmem] at hval
    cases hval
  | cons c tail =>
    have hne : (parseNumber X base mem).2 ≠ [] := by
      rw [hmem]
      exact List.cons_ne_nil _ _
    rw [hmem] at hval
    rw [h.parseNumber_append hne, hmem]
    exact hval

/-- A line that lists a segment by itself lists it whatever stands in the memory behind it. -/
theorem EndsNul.parseSegmentInfoLine_append (h : EndsNul mem) {segment : Segment}
    (hseg : parseSegmentInfoLine X mem = .ok segment) (stale : Bytes) :
    parseSegmentInfoLine X (mem ++ stale) = .ok segment := by
  unfold parseSegmentInfoLine at hseg ⊢
  obtain ⟨⟨address, mem1⟩, haddress, hseg⟩ := ok_of_bind_ok hseg
  obtain ⟨⟨size, mem2⟩, hsize, hseg⟩ := ok_of_bind_ok hseg
  obtain ⟨⟨name, mem3⟩, hname, hseg⟩ := ok_of_bind_ok hseg
  obtain ⟨crc, hcrc, hseg⟩ := ok_of_bind_ok hseg
  obtain ⟨haddress', h1⟩ := h.parseNumberThenBlanks_append haddress stale
  obtain ⟨hsize', h2⟩ := h1.parseNumberThenBlanks_append hsize stale
  obtain ⟨hname', h3⟩ := h2.parseFileName_append hname stale
  have hcrc' := h3.parseNumberAtEnd_append hcrc stale
  rw [haddress']
  dsimp only [bind, Except.bind]
  rw [hsize']
  dsimp only
  rw [hname']
  dsimp only
  rw [hcrc']
  exact hseg

/-- The buffer after a line was read into it. -/
theorem lineRstrip_writeAt (buf line : Bytes) :
    ∃ stale, lineRstrip (writeAt buf 0 line) = lineMemory line ++ stale := by
  have hwrite : writeAt buf 0 line = (line ++ [0]) ++ buf.drop (line.length + 1) := by
    simp [writeAt]
  rw [hwrite]
  exact (endsNul_append line).lineRstrip_append _

theorem parseInfoLoop_listing {beyond : Bytes} {lines : List Bytes} {lineCnt : ℕ} {buf : Bytes}
    {info info' : Info} {segments : List Segment} (hcnt : lineCnt ≠ 0)
    (hlines : lines.mapM (segmentOfLine X) = some segments)
    (hloop : parseInfoLoop X beyond lines lineCnt buf info = some (0, info')) :
    info'.fwVer = info.fwVer ∧ info'.segments = info.segments ++ segments := by
  induction lines generalizing lineCnt buf info segments with
  | nil =>
    simp only [List.mapM_nil, Option.pure_def, Option.some.injEq] at hlines
    simp only [parseInfoLoop, Option.some.injEq, Prod.mk.injEq, true_and] at hloop
    subst hlines
    subst hloop
    exact ⟨rfl, (List.append_nil _).symm⟩
  | cons line lines ih =>
    simp only [List.mapM_cons, Option.bind_eq_bind, Option.bind_eq_some_iff, Option.pure_def,
      Option.some.injEq] at hlines
    obtain ⟨segment, hsegment, rest, hrest, rfl⟩ := hlines
    have hparsed : parseSegmentInfoLine X (lineMemory line) = .ok segment := by
      unfold segmentOfLine at hsegment
      cases hparse : parseSegmentInfoLine X (lineMemory line) with
      | error e =>
        rw [hparse] at hsegment
        cases hsegment
      | ok seg =>
        rw [hparse] at hsegment
        exact congrArg Except.ok (Option.some.inj hsegment)
    obtain ⟨stale, hbuf⟩ := lineRstrip_writeAt buf line
    have hmem : parseSegmentInfoLine X (lineRstrip (writeAt buf 0 line) ++ beyond) =
        .ok segment := by
      rw [hbuf, List.append_assoc]
      exact (endsNul_append line).lineRstrip.parseSegmentInfoLine_append hparsed _
    rw [parseInfoLoop] at hloop
    rw [if_neg (by omega), hmem] at hloop
    split_ifs at hloop with hroom
    · obtain ⟨hver, hsegments⟩ := ih (Nat.succ_ne_zero _) hrest hloop
      refine ⟨hver, ?_⟩
      rw [hsegments, List.append_assoc]
      rfl
    · simp at hloop

/-- A well-formed text that is read to its end yields what it says. -/
theorem readInfoTxt_listing {stack : Stack} {fd : TextFile} {info : Info} {fwVer : UInt32}
    {segments : List Segment} (hread : readInfoTxt X stack (some fd) = some (some info))
    (hlisting : listing X (fd.content.take fd.readable) = some (fwVer, segments)) :
    info.fwVer = fwVer ∧ info.segments = segments := by
  have hfile : parseInfoFile X stack fd = some (0, info) := by
    simp only [readInfoTxt, Option.map_eq_some_iff] at hread
    obtain ⟨⟨errLineNum, info'⟩, hfile, hinfo⟩ := hread
    dsimp only at hinfo
    split_ifs at hinfo with herr
    rw [hfile, not_not.mp herr, Option.some.inj hinfo]
  unfold parseInfoFile at hfile
  unfold listing at hlisting
  cases hlines : linesOf (fd.content.take fd.readable) with
  | nil =>
    rw [hlines] at hlisting
    cases hlisting
  | cons line lines =>
    rw [hlines] at hlisting hfile
    obtain ⟨fwVer', hfwVer, hlisting⟩ := Option.bind_eq_some_iff.mp hlisting
    obtain ⟨segments', hsegments, hlisting⟩ := Option.map_eq_some_iff.mp hlisting
    rw [Prod.mk.injEq] at hlisting
    obtain ⟨rfl, rfl⟩ := hlisting
    obtain ⟨stale, hbuf⟩ := lineRstrip_writeAt stack.lineBuf line
    rw [parseInfoLoop] at hfile
    have hend : EndsNul (lineMemory line) := (endsNul_append line).lineRstrip
    have hversion : parseVersionLine X (cstr (lineMemory line)) = some fwVer' := hfwVer
    rw [if_pos rfl, hbuf, hend.cstr_append, hversion] at hfile
    have hrest := parseInfoLoop_listing (Nat.succ_ne_zero _) hsegments hfile
    exact hrest

end Listing

end RuuviGateway.Nrf52Fw
