import RuuviGateway.General.Numerals
import RuuviGateway.General.Transition
import RuuviGateway.Http.Headers

/-!
# The buffer for a response

The handler of the HTTP client collects the body of a response in a block that it allocates when the
length of the content is announced. The texts of the headers, the data and what the allocations
return are inputs. A store outside of the block is recorded.
-/

namespace RuuviGateway.Http

open General

section Handler

structure HttpRespCbInfo where
  contentLength : UInt32
  offset : UInt32
  buf : Option Bytes
  deriving DecidableEq

structure Receiving where
  cbInfo : HttpRespCbInfo
  /-- A byte outside of the block was written. -/
  overrun : Bool
  deriving DecidableEq

/-- An event, with the block that `os_malloc` returns for it if it is asked for one. -/
inductive HttpEvent
  | onHeader (header : Header) (block : Option Bytes)
  | onData (data : Bytes)
  | other
  deriving DecidableEq

def Header.isContentLength (h : Header) : Bool := strcasecmpEq (ascii "Content-Length") h.key

/-- The header that a length is taken from. -/
def Header.announcesLength (h : Header) : Bool :=
  !h.isHmacKey && !h.isGatewayRate && h.isContentLength

/-- The string `s` and its NUL are stored at an offset of the block. -/
def storeAt (block : Bytes) (off : ℕ) (s : Bytes) : Option Bytes :=
  if off + s.length < block.length then some (writeAt block off s) else none

def Receiving.store (r : Receiving) (block : Bytes) (off : ℕ) (s : Bytes) : Receiving :=
  match storeAt block off s with
  | some block => { r with cbInfo.buf := some block }
  | none => { r with cbInfo.buf := some block, overrun := true }

/-- The size that is asked for, in 32 bits. -/
def bufSize (contentLength : UInt32) : UInt32 := contentLength + 1

def httpPostEventHandlerOnContentLength (contentLength : UInt32) (block : Option Bytes)
    (r : Receiving) : Receiving :=
  let r := { r with cbInfo := ⟨contentLength, 0, none⟩ }
  match block with
  | none => r
  | some block => r.store block 0 []

def httpPostEventHandlerOnData (data : Bytes) (r : Receiving) : Receiving :=
  match r.cbInfo.buf with
  | none => r
  | some block =>
    let remainingBuf := r.cbInfo.contentLength - r.cbInfo.offset
    let dataLen := UInt32.ofNat data.length
    let len := if dataLen ≤ remainingBuf then dataLen else remainingBuf
    let r' := r.store block r.cbInfo.offset.toNat (data.take len.toNat)
    { r' with cbInfo.offset := r.cbInfo.offset + len }

/-- The largest `data_len` of an event. -/
def dataLenMax : ℕ := 0x7fffffff

/-- What `http_post_event_handler` does for the response. There is no user data in a request whose
response is not collected. A step needs a block of the size asked for. -/
def httpPostEventHandler (osStrToUint32Cptr : Bytes → ℕ → UInt32 × Bytes) (userData : Bool)
    (r : Receiving) : HttpEvent → Option Receiving
  | .onHeader header block =>
    if header.announcesLength && userData then
      let contentLength := (osStrToUint32Cptr header.value 10).1
      if block.all fun b => b.length = (bufSize contentLength).toNat then
        some (httpPostEventHandlerOnContentLength contentLength block r)
      else none
    else some r
  | .onData data =>
    if data.length ≤ dataLenMax then
      some (if userData then httpPostEventHandlerOnData data r else r)
    else none
  | .other => some r

end Handler

section Runs

variable (osStrToUint32Cptr : Bytes → ℕ → UInt32 × Bytes) (userData : Bool)

/-- One request. The record is that of the request before, without its block. -/
def responseSystem (init : HttpRespCbInfo) : System Receiving HttpEvent Unit where
  init := ⟨init, false⟩
  step r e := (httpPostEventHandler osStrToUint32Cptr userData r e).map fun r => (r, ())

/-- The bytes received since the last length was announced. -/
def bodySince : List (HttpEvent × Unit) → Bytes
  | [] => []
  | (.onHeader header _, _) :: h => if header.announcesLength then [] else bodySince h
  | (.onData data, _) :: h => bodySince h ++ data
  | (.other, _) :: h => bodySince h

/-- The block has the size asked for, and holds the beginning of the body as a C string. -/
structure Collected (body : Bytes) (r : Receiving) : Prop where
  inside : r.overrun = false
  offset_le : r.cbInfo.offset ≤ r.cbInfo.contentLength
  size : ∀ block, r.cbInfo.buf = some block →
    block.length = (bufSize r.cbInfo.contentLength).toNat
  holds : ∀ block, r.cbInfo.buf = some block →
    block.take (min r.cbInfo.contentLength.toNat body.length + 1) =
      body.take r.cbInfo.contentLength.toNat ++ [0]

/-- The size that is asked for is not zero, or there is no block. -/
def SizeFits (_ : Receiving) : HttpEvent → Prop
  | .onHeader header (some _) =>
    header.announcesLength = true → (osStrToUint32Cptr header.value 10).1 ≠ 0xffffffff
  | _ => True

instance (r : Receiving) : ∀ e, Decidable (SizeFits osStrToUint32Cptr r e)
  | .onHeader _ (some _) => inferInstanceAs (Decidable (_ → _))
  | .onHeader _ none | .onData _ | .other => isTrue trivial

end Runs

section Collecting

variable {osStrToUint32Cptr : Bytes → ℕ → UInt32 × Bytes} {userData : Bool} {r : Receiving}
  {body block data : Bytes}

/-- What the steps preserve. The size that was asked for did not wrap. -/
structure Invariant (body : Bytes) (r : Receiving) : Prop where
  inside : r.overrun = false
  offset_le : r.cbInfo.offset ≤ r.cbInfo.contentLength
  size : ∀ block, r.cbInfo.buf = some block → block.length = r.cbInfo.contentLength.toNat + 1
  fits : ∀ block, r.cbInfo.buf = some block → r.cbInfo.contentLength ≠ 0xffffffff
  offset : ∀ block, r.cbInfo.buf = some block →
    r.cbInfo.offset.toNat = min r.cbInfo.contentLength.toNat body.length
  holds : ∀ block, r.cbInfo.buf = some block →
    block.take (r.cbInfo.offset.toNat + 1) = body.take r.cbInfo.contentLength.toNat ++ [0]

theorem toNat_bufSize {contentLength : UInt32} (h : contentLength ≠ 0xffffffff) :
    (bufSize contentLength).toNat = contentLength.toNat + 1 := by
  have hlt := contentLength.toNat_lt
  have hne : contentLength.toNat ≠ 0xffffffff := fun heq => h (UInt32.toNat_inj.mp heq)
  rw [bufSize, UInt32.toNat_add]
  exact Nat.mod_eq_of_lt (by change contentLength.toNat + 1 < 2 ^ 32; omega)

theorem Invariant.collected (h : Invariant body r) : Collected body r where
  inside := h.inside
  offset_le := h.offset_le
  size block hbuf := by rw [h.size block hbuf, toNat_bufSize (h.fits block hbuf)]
  holds block hbuf := by rw [← h.offset block hbuf, h.holds block hbuf]

theorem Invariant.of_no_block (hinside : r.overrun = false)
    (hoffset : r.cbInfo.offset ≤ r.cbInfo.contentLength) (hbuf : r.cbInfo.buf = none) :
    Invariant body r := by
  constructor
  · exact hinside
  · exact hoffset
  all_goals
    intro block hblock
    rw [hbuf] at hblock
    cases hblock

theorem onContentLength_invariant {contentLength : UInt32} {block : Option Bytes}
    (hr : r.overrun = false)
    (hsize : block.all (fun b => b.length = (bufSize contentLength).toNat) = true)
    (hfits : block.isSome → contentLength ≠ 0xffffffff) :
    Invariant [] (httpPostEventHandlerOnContentLength contentLength block r) := by
  cases block with
  | none => exact .of_no_block hr (UInt32.zero_le) rfl
  | some block =>
    have hne := hfits rfl
    have hlen : block.length = contentLength.toNat + 1 := by
      rw [← toNat_bufSize hne]
      simpa using hsize
    have hstore : storeAt block 0 [] = some (writeAt block 0 []) :=
      if_pos (by rw [hlen]; exact Nat.succ_pos _)
    have hstate : httpPostEventHandlerOnContentLength contentLength (some block) r =
        ⟨⟨contentLength, 0, some (writeAt block 0 [])⟩, r.overrun⟩ := by
      simp only [httpPostEventHandlerOnContentLength, Receiving.store, hstore]
    rw [hstate]
    constructor
    · exact hr
    · exact UInt32.zero_le
    · intro b hb
      rw [← Option.some.inj hb, length_writeAt (by rw [hlen]; exact Nat.succ_pos _)]
      exact hlen
    · intro _ _
      exact hne
    · intro _ _
      simp
    · intro b hb
      rw [← Option.some.inj hb]
      have hoff : 0 ≤ block.length := Nat.zero_le _
      have htake := take_writeAt_nul (s := []) hoff
      simpa using htake

theorem take_append_min (body data : Bytes) (n : ℕ) :
    body.take n ++ data.take (min data.length (n - min n body.length)) = (body ++ data).take n := by
  rw [List.take_append]
  congr 1
  rcases Nat.le_total body.length n with h | h
  · rw [Nat.min_eq_right h, List.take_eq_take_iff]
    omega
  · rw [Nat.min_eq_left h, Nat.sub_self, Nat.sub_eq_zero_of_le h, Nat.min_zero]

theorem toNat_ite_le (a b : UInt32) : (if a ≤ b then a else b).toNat = min a.toNat b.toNat := by
  split_ifs with hle <;> rw [UInt32.le_iff_toNat_le] at hle <;> omega

theorem onData_invariant (h : Invariant body r) (hdata : data.length ≤ dataLenMax) :
    Invariant (body ++ data) (httpPostEventHandlerOnData data r) := by
  unfold httpPostEventHandlerOnData
  cases hbuf : r.cbInfo.buf with
  | none => exact .of_no_block h.inside h.offset_le hbuf
  | some block =>
    have hoffset := h.offset block hbuf
    have hsize := h.size block hbuf
    have hremaining : (r.cbInfo.contentLength - r.cbInfo.offset).toNat =
        r.cbInfo.contentLength.toNat - r.cbInfo.offset.toNat :=
      UInt32.toNat_sub_of_le _ _ h.offset_le
    have hdataLen : (UInt32.ofNat data.length).toNat = data.length := by
      apply UInt32.toNat_ofNat_of_lt'
      unfold dataLenMax at hdata
      change data.length < 2 ^ 32
      omega
    dsimp only
    generalize hlen : (if UInt32.ofNat data.length ≤ r.cbInfo.contentLength - r.cbInfo.offset then
      UInt32.ofNat data.length else r.cbInfo.contentLength - r.cbInfo.offset) = len
    have hlenNat : len.toNat = min data.length
        (r.cbInfo.contentLength.toNat - r.cbInfo.offset.toNat) := by
      rw [← hlen, toNat_ite_le, hdataLen, hremaining]
    have hcopied : (data.take len.toNat).length = len.toNat := by
      rw [List.length_take, hlenNat]
      omega
    have hcl := r.cbInfo.contentLength.toNat_lt
    have hsum : (r.cbInfo.offset + len).toNat = r.cbInfo.offset.toNat + len.toNat := by
      rw [UInt32.toNat_add]
      apply Nat.mod_eq_of_lt
      omega
    have hstore : storeAt block r.cbInfo.offset.toNat (data.take len.toNat) =
        some (writeAt block r.cbInfo.offset.toNat (data.take len.toNat)) :=
      if_pos (by omega)
    simp only [Receiving.store, hstore]
    constructor
    · exact h.inside
    · rw [UInt32.le_iff_toNat_le]
      dsimp only
      omega
    · intro b hb
      rw [← Option.some.inj hb, length_writeAt (by omega)]
      exact hsize
    · intro _ _
      exact h.fits block hbuf
    · intro _ _
      dsimp only
      rw [List.length_append]
      omega
    · intro b hb
      rw [← Option.some.inj hb]
      dsimp only
      have hkept : block.take r.cbInfo.offset.toNat = body.take r.cbInfo.contentLength.toNat := by
        have htake := congrArg (List.take r.cbInfo.offset.toNat) (h.holds block hbuf)
        rw [List.take_take, Nat.min_eq_left (Nat.le_succ _)] at htake
        rw [htake, List.take_append_of_le_length]
        · rw [List.take_take, hoffset, List.take_eq_take_iff]
          omega
        · rw [List.length_take]
          omega
      have hinside : r.cbInfo.offset.toNat ≤ block.length := by omega
      have hnul := take_writeAt_nul (s := data.take len.toNat) hinside
      rw [hcopied] at hnul
      rw [hsum, hnul, hkept, hlenNat, hoffset, take_append_min]

/-- A step keeps the invariant, for the bytes received with it. -/
theorem step_invariant {e : HttpEvent} {r' : Receiving} (huser : userData = true)
    (h : Invariant body r) (hsize : SizeFits osStrToUint32Cptr r e)
    (hstep : httpPostEventHandler osStrToUint32Cptr userData r e = some r')
    (rest : List (HttpEvent × Unit)) (hbody : bodySince rest = body) :
    Invariant (bodySince ((e, ()) :: rest)) r' := by
  subst huser
  cases e with
  | onHeader header block =>
    simp only [httpPostEventHandler, Bool.and_true] at hstep
    rw [bodySince]
    by_cases hlength : header.announcesLength = true
    · rw [if_pos hlength] at hstep ⊢
      split_ifs at hstep with hblock
      rw [← Option.some.inj hstep]
      apply onContentLength_invariant h.inside hblock
      intro hsome
      cases block with
      | none => cases hsome
      | some block => exact hsize hlength
    · rw [if_neg hlength] at hstep ⊢
      rw [← Option.some.inj hstep, hbody]
      exact h
  | onData data =>
    simp only [httpPostEventHandler] at hstep
    split_ifs at hstep with hdata
    rw [bodySince, hbody, ← Option.some.inj hstep]
    exact onData_invariant h hdata
  | other =>
    rw [bodySince, hbody, ← Option.some.inj hstep]
    exact h

/-- Nothing is collected without user data. -/
theorem step_noUserData {e : HttpEvent} {r' : Receiving}
    (hstep : httpPostEventHandler osStrToUint32Cptr false r e = some r') : r' = r := by
  cases e with
  | onHeader header block =>
    simp only [httpPostEventHandler, Bool.and_false] at hstep
    exact (Option.some.inj hstep).symm
  | onData data =>
    simp only [httpPostEventHandler, Bool.false_eq_true, if_false] at hstep
    split_ifs at hstep with hdata
    exact (Option.some.inj hstep).symm
  | other => exact (Option.some.inj hstep).symm

/-- In every run in which no block of size zero is handed out, all stores stay inside of the block,
and it holds the beginning of the body. -/
theorem response_collected {init : HttpRespCbInfo} (hbuf : init.buf = none)
    (hoffset : init.offset ≤ init.contentLength) {h : List (HttpEvent × Unit)}
    (hr : (responseSystem osStrToUint32Cptr userData init).Run (SizeFits osStrToUint32Cptr) h r) :
    Collected (bodySince h) r := by
  have hinit : ∀ body, Invariant body ⟨init, false⟩ := fun _ => .of_no_block rfl hoffset hbuf
  apply Invariant.collected
  cases huser : userData with
  | true =>
    apply hr.historyInvariant (I := fun h r => Invariant (bodySince h) r) (hinit _)
    intro h r e r' o hinv hguard hstep
    obtain ⟨next, hnext, heq⟩ := Option.map_eq_some_iff.mp hstep
    rw [← (Prod.mk.inj heq).1]
    exact step_invariant huser hinv hguard hnext h rfl
  | false =>
    subst huser
    have hsame : r = ⟨init, false⟩ := by
      apply hr.invariant (I := fun r => r = ⟨init, false⟩) rfl
      intro r e r' o hinv _ hstep
      obtain ⟨next, hnext, heq⟩ := Option.map_eq_some_iff.mp hstep
      rw [← (Prod.mk.inj heq).1, step_noUserData hnext]
      exact hinv
    rw [hsame]
    exact hinit _

end Collecting

section Sample

def lengthHeader (text : String) : Header := ⟨ascii "content-length", ascii text⟩

def sampleInit : HttpRespCbInfo := ⟨0, 0, none⟩

/-- More data than announced, in two pieces. -/
def sampleEvents : List HttpEvent :=
  [.onHeader (lengthHeader "5") (some (List.replicate 6 0xff)), .onData (ascii "abc"),
    .onData (ascii "defg")]

theorem response_collected_sample :
    ∃ h r, (responseSystem strtoul true sampleInit).Run (SizeFits strtoul) h r ∧
      r.cbInfo.buf = some (ascii "abcde" ++ [0]) ∧ Collected (bodySince h) r := by
  obtain ⟨h, r, hr, hP⟩ := System.exists_run_of_exec sampleEvents
    (S := responseSystem strtoul true sampleInit) (G := SizeFits strtoul)
    (P := fun r => decide (r.cbInfo.buf = some (ascii "abcde" ++ [0]))) (by decide +kernel)
  exact ⟨h, r, hr, of_decide_eq_true hP, response_collected rfl UInt32.zero_le hr⟩

/-- A length of 2^32 - 1 asks for a block of size zero, and its first byte is written. -/
theorem response_overrun :
    ∃ h r, (responseSystem strtoul true sampleInit).FreeRun h r ∧ ¬Collected (bodySince h) r := by
  have hstep : (responseSystem strtoul true sampleInit).step ⟨sampleInit, false⟩
      (.onHeader (lengthHeader "4294967295") (some [])) =
        some (⟨⟨0xffffffff, 0, some []⟩, true⟩, ()) := by decide +kernel
  refine ⟨_, _, .step .init trivial hstep, ?_⟩
  intro hcollected
  cases hcollected.inside

end Sample

end RuuviGateway.Http
