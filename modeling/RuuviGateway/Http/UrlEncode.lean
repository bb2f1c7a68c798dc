import RuuviGateway.General.PercentEncoding
import RuuviGateway.General.StrBuf

/-!
# Encoding and decoding URLs

`url_encode.c` prints to a string buffer, once to count and once to write. A text in memory ends at
its first NUL, or at the end of the list. The conversion of two digits comes from another component.
-/

namespace RuuviGateway.Http

open General

section Encoder

def rfc3986Table : List UInt8 :=
  [0x00, 0x00, 0x00, 0x00, 0x00, 0x60, 0xff, 0x03, 0xfe, 0xff, 0xff, 0x87, 0xfe, 0xff, 0xff, 0x47,
    0x00, 0x00, 0x00, 0x00, 0x00, 0x00, 0x00, 0x00, 0x00, 0x00, 0x00, 0x00, 0x00, 0x00, 0x00, 0x00]

def rfc3986IsInRange (val : UInt8) : Bool :=
  rfc3986Table.getD (val.toNat / 8) 0 &&& (1 <<< (val % 8)) != 0

variable {β : Type} (ops : StrBufOps β)

/-- The loop of `url_n_encode_to_str_buf`. -/
def urlNEncodeLoop : ℕ → Bytes → β → β
  | 0, _, dst => dst
  | _ + 1, [], dst => dst
  | len + 1, c :: src, dst =>
    if c = 0 then dst
    else urlNEncodeLoop len src
      (ops.printf dst (if rfc3986IsInRange c then [c] else Percent.triple c))

def urlNEncodeToStrBuf (src : Bytes) (len : ℕ) (dst : β) : Bool × β :=
  let dst := urlNEncodeLoop ops len src (ops.printf dst [])
  (!ops.isOverflow dst, dst)

/-- A buffer that is absent is null. -/
def urlNEncodeWithAlloc (src : Bytes) (len : ℕ) : Option β :=
  let counted := (urlNEncodeToStrBuf ops src len ops.null).2
  (ops.initWithAlloc counted).map fun strBuf => (urlNEncodeToStrBuf ops src len strBuf).2

def urlEncodeWithAlloc (src : Bytes) : Option β := urlNEncodeWithAlloc ops src (cstr src).length

end Encoder

section Decoder

variable {β : Type} (ops : StrBufOps β) (osStrToUint32Cptr : Bytes → ℕ → UInt32 × Bytes)

/-- The loop of `url_n_decode_to_str_buf`, which is left early with `false`. -/
def urlNDecodeLoop : ℕ → Bytes → β → Bool × β
  | 0, _, dst => (true, dst)
  | _ + 1, [], dst => (true, dst)
  | len + 1, c :: src, dst =>
    if c = 0 then (true, dst)
    else if c = Percent.percent then
      match src with
      | [] => (false, dst)
      | [_] => (false, dst)
      | c0 :: c1 :: src =>
        if c0 = 0 then (false, dst)
        else if c1 = 0 then (false, dst)
        else
          let r := osStrToUint32Cptr [c0, c1] 16
          if r.2 ≠ [] then (false, dst)
          else urlNDecodeLoop (len - 2) src (ops.printf dst [r.1.toUInt8])
    else urlNDecodeLoop len src (ops.printf dst [c])

def urlNDecodeToStrBuf (src : Bytes) (len : ℕ) (dst : β) : Bool × β :=
  let r := urlNDecodeLoop ops osStrToUint32Cptr len src (ops.printf dst [])
  if !r.1 then r else (!ops.isOverflow r.2, r.2)

def urlNDecodeWithAlloc (src : Bytes) (len : ℕ) : Option β := do
  let counted := urlNDecodeToStrBuf ops osStrToUint32Cptr src len ops.null
  if !counted.1 then failure
  let strBuf ← ops.initWithAlloc counted.2
  let written := urlNDecodeToStrBuf ops osStrToUint32Cptr src len strBuf
  if !written.1 then failure
  return written.2

def urlDecodeWithAlloc (src : Bytes) : Option β :=
  urlNDecodeWithAlloc ops osStrToUint32Cptr src (cstr src).length

end Decoder

section Encoding

/-- The unreserved characters of RFC 3986. -/
def isUnreserved (b : UInt8) : Bool :=
  (0x41 ≤ b && b ≤ 0x5a) || (0x61 ≤ b && b ≤ 0x7a) || (0x30 ≤ b && b ≤ 0x39) ||
    b == 0x2d || b == 0x2e || b == 0x5f || b == 0x7e

theorem rfc3986IsInRange_eq (b : UInt8) : rfc3986IsInRange b = isUnreserved b := by
  have hall : ∀ n < 256, rfc3986IsInRange (UInt8.ofNat n) = isUnreserved (UInt8.ofNat n) := by
    decide +kernel
  simpa using hall b.toNat b.toNat_lt

def encoded (s : Bytes) : Bytes := Percent.encode isUnreserved s

variable {β : Type} {ops : StrBufOps β}

theorem state_urlNEncodeLoop (hops : ops.Lawful) (len : ℕ) (src : Bytes) {dst : β}
    {b : StrBufState} (acc : Bytes) (hdst : ops.state dst = b.printf acc) :
    ops.state (urlNEncodeLoop ops len src dst) =
      b.printf (acc ++ encoded ((cstr src).take len)) := by
  induction len generalizing src dst acc with
  | zero => simpa [urlNEncodeLoop, encoded, Percent.encode] using hdst
  | succ len ih =>
    cases src with
    | nil => simpa [urlNEncodeLoop, encoded, Percent.encode] using hdst
    | cons c src =>
      by_cases hc : c = 0
      · simpa [urlNEncodeLoop, hc, encoded, Percent.encode] using hdst
      · rw [urlNEncodeLoop, if_neg hc, cstr_cons hc, List.take_succ_cons]
        have hpiece : (if rfc3986IsInRange c then [c] else Percent.triple c) =
            Percent.piece isUnreserved c := by rw [rfc3986IsInRange_eq]; rfl
        rw [hpiece, ih src (acc ++ Percent.piece isUnreserved c)]
        · simp [encoded, Percent.encode]
        · rw [hops.printf, hdst, StrBufState.printf_append]

theorem state_urlNEncodeToStrBuf (hops : ops.Lawful) (src : Bytes) (len : ℕ) (dst : β) :
    ops.state (urlNEncodeToStrBuf ops src len dst).2 =
      (ops.state dst).printf (encoded ((cstr src).take len)) :=
  state_urlNEncodeLoop hops len src [] (hops.printf dst [])

end Encoding

section Printed

variable (osStrToUint32Cptr : Bytes → ℕ → UInt32 × Bytes)

/-- What the decoding loop prints, and whether it comes to its end. -/
def printed : ℕ → Bytes → Bytes × Bool
  | 0, _ => ([], true)
  | _ + 1, [] => ([], true)
  | len + 1, c :: src =>
    if c = 0 then ([], true)
    else if c = Percent.percent then
      match src with
      | [] => ([], false)
      | [_] => ([], false)
      | c0 :: c1 :: src =>
        if c0 = 0 then ([], false)
        else if c1 = 0 then ([], false)
        else
          let r := osStrToUint32Cptr [c0, c1] 16
          if r.2 ≠ [] then ([], false)
          else (r.1.toUInt8 :: (printed (len - 2) src).1, (printed (len - 2) src).2)
    else (c :: (printed len src).1, (printed len src).2)

variable {osStrToUint32Cptr} {β : Type} {ops : StrBufOps β}

theorem printed_plain {len : ℕ} {c : UInt8} {src : Bytes} (hnul : c ≠ 0)
    (hc : c ≠ Percent.percent) : printed osStrToUint32Cptr (len + 1) (c :: src) =
      (c :: (printed osStrToUint32Cptr len src).1, (printed osStrToUint32Cptr len src).2) := by
  rcases src with _ | ⟨c0, _ | ⟨c1, src⟩⟩ <;> simp only [printed, if_neg hnul, if_neg hc]

theorem printed_nul {len : ℕ} {src : Bytes} :
    printed osStrToUint32Cptr len (0 :: src) = ([], true) := by
  cases len with
  | zero => rfl
  | succ len => rcases src with _ | ⟨c0, _ | ⟨c1, src⟩⟩ <;> simp only [printed, if_true]

theorem printed_refused {len : ℕ} {c0 c1 : UInt8} {src : Bytes}
    (hr : (osStrToUint32Cptr [c0, c1] 16).2 ≠ []) :
    printed osStrToUint32Cptr (len + 1) (Percent.percent :: c0 :: c1 :: src) = ([], false) := by
  rw [printed, if_neg (by decide), if_pos rfl]
  dsimp only
  split_ifs <;> rfl

theorem printed_escape {len : ℕ} {c0 c1 : UInt8} {src : Bytes} (hc0 : c0 ≠ 0) (hc1 : c1 ≠ 0)
    (hr : (osStrToUint32Cptr [c0, c1] 16).2 = []) :
    printed osStrToUint32Cptr (len + 1) (Percent.percent :: c0 :: c1 :: src) =
      ((osStrToUint32Cptr [c0, c1] 16).1.toUInt8 :: (printed osStrToUint32Cptr (len - 2) src).1,
        (printed osStrToUint32Cptr (len - 2) src).2) := by
  rw [printed, if_neg (by decide), if_pos rfl]
  dsimp only
  rw [if_neg hc0, if_neg hc1, if_neg (not_not.mpr hr)]

/-- The loop prints to the buffer as it stands, and its result does not depend on the buffer. -/
theorem urlNDecodeLoop_eq (hops : ops.Lawful) (len : ℕ) (src : Bytes) {dst : β}
    {b : StrBufState} {acc : Bytes} (hdst : ops.state dst = b.printf acc) :
    (urlNDecodeLoop ops osStrToUint32Cptr len src dst).1 = (printed osStrToUint32Cptr len src).2 ∧
      ops.state (urlNDecodeLoop ops osStrToUint32Cptr len src dst).2 =
        b.printf (acc ++ (printed osStrToUint32Cptr len src).1) := by
  fun_induction urlNDecodeLoop ops osStrToUint32Cptr len src dst generalizing acc
  case case9 len dst c0 c1 src hc0 hc1 r hr hnul ih =>
    rw [printed_escape hc0 hc1 (not_not.mp hr)]
    have hnext : ops.state (ops.printf dst [r.1.toUInt8]) = b.printf (acc ++ [r.1.toUInt8]) := by
      rw [hops.printf, hdst, StrBufState.printf_append]
    simpa using ih hnext
  case case10 len c src dst hnul hc ih =>
    rw [printed_plain hnul hc]
    have hnext : ops.state (ops.printf dst [c]) = b.printf (acc ++ [c]) := by
      rw [hops.printf, hdst, StrBufState.printf_append]
    simpa using ih hnext
  case case3 len src dst =>
    rw [printed_nul]
    simpa using hdst
  case case8 len dst c0 c1 src hc0 hc1 r hr hnul =>
    rw [printed_refused hr]
    simpa using hdst
  all_goals simp [printed, *]

theorem urlNDecodeToStrBuf_spec (hops : ops.Lawful) {src : Bytes} {len : ℕ} {r : Bytes × Bool}
    (hr : printed osStrToUint32Cptr len src = r) (dst : β) :
    (urlNDecodeToStrBuf ops osStrToUint32Cptr src len dst).1 =
        (r.2 && !decide ((ops.state dst).printf r.1 = .overflow)) ∧
      ops.state (urlNDecodeToStrBuf ops osStrToUint32Cptr src len dst).2 =
        (ops.state dst).printf r.1 := by
  obtain ⟨hflag, hstate⟩ := urlNDecodeLoop_eq hops len src (hops.printf dst [])
  rw [hr, List.nil_append] at hstate
  rw [hr] at hflag
  unfold urlNDecodeToStrBuf
  dsimp only
  cases hend : r.2 with
  | false =>
    rw [hend] at hflag
    simp [hflag, hstate]
  | true =>
    rw [hend] at hflag
    simp [hflag, hstate, hops.isOverflow]

end Printed

section RoundTrip

/-- The first character of what the loop looks at, and the rest of it. -/
theorem eq_cons_of_take {src : Bytes} {len : ℕ} {c : UInt8} {t : Bytes}
    (h : (cstr src).take len = c :: t) :
    ∃ src' len', src = c :: src' ∧ len = len' + 1 ∧ c ≠ 0 ∧ (cstr src').take len' = t := by
  rcases len with _ | len
  · cases h
  · rcases src with _ | ⟨b, src⟩
    · cases h
    · by_cases hb : b = 0
      · rw [cstr, if_pos hb] at h
        cases h
      · rw [cstr_cons hb, List.take_succ_cons] at h
        obtain ⟨rfl, rfl⟩ := List.cons.inj h
        exact ⟨src, len, rfl, rfl, hb, rfl⟩

theorem printed_of_take_nil {osStrToUint32Cptr : Bytes → ℕ → UInt32 × Bytes} {src : Bytes}
    {len : ℕ} (h : (cstr src).take len = []) :
    printed osStrToUint32Cptr len src = ([], true) := by
  rcases src with _ | ⟨b, src⟩
  · cases len <;> rfl
  · by_cases hb : b = 0
    · rw [hb, printed_nul]
    · rw [cstr_cons hb] at h
      rcases len with _ | len
      · rfl
      · cases h

theorem strtoul_of_isByte {hi lo : UInt8} (h : Percent.IsByte hi lo) :
    (strtoul [hi, lo] 16).2 = [] ∧ (strtoul [hi, lo] 16).1.toUInt8 = Percent.byteOf hi lo := by
  have hdigits : IsNumeral 16 [hi, lo] := by simp [IsNumeral, h.1, h.2.1]
  have hvalue : strtoul ([hi, lo] ++ []) 16 = _ :=
    strtoul_digits (by decide) hdigits (by simp) fun _ => rfl
  have hsmall := numeral_lt hdigits.2
  rw [List.append_nil] at hvalue
  simp only [List.length_cons, List.length_nil] at hsmall
  rw [hvalue, Nat.min_eq_left (by omega)]
  exact ⟨rfl, by simp [Percent.byteOf]⟩

/-- The decoder prints what a well-formed text decodes to. -/
theorem printed_of_decode {t out : Bytes} (h : Percent.decode t = some out) {src : Bytes}
    {len : ℕ} (ht : (cstr src).take len = t) : printed strtoul len src = (out, true) := by
  induction t using Percent.decode.induct generalizing out src len with
  | case1 =>
    obtain rfl := Option.some.inj h
    exact printed_of_take_nil ht
  | case2 hi lo rest hbyte ih =>
    obtain ⟨src, len, rfl, rfl, -, ht⟩ := eq_cons_of_take ht
    obtain ⟨src, len, rfl, rfl, hhi, ht⟩ := eq_cons_of_take ht
    obtain ⟨src, len, rfl, rfl, hlo, ht⟩ := eq_cons_of_take ht
    rw [Percent.decode_triple hbyte, Option.map_eq_some_iff] at h
    obtain ⟨out, hrest, rfl⟩ := h
    obtain ⟨hend, hvalue⟩ := strtoul_of_isByte hbyte
    rw [printed_escape hhi hlo hend, hvalue]
    have hlen : len + 1 + 1 - 2 = len := rfl
    rw [hlen, ih hrest ht]
  | case3 hi lo rest hbyte =>
    rw [Percent.decode, if_pos rfl, if_neg hbyte] at h
    cases h
  | case4 s hshort =>
    rcases s with _ | ⟨hi, _ | ⟨lo, rest⟩⟩
    · cases h
    · cases h
    · exact (hshort hi lo rest rfl).elim
  | case5 b s hb ih =>
    obtain ⟨src, len, rfl, rfl, hnul, ht⟩ := eq_cons_of_take ht
    rw [Percent.decode_cons hb, Option.map_eq_some_iff] at h
    obtain ⟨out, hrest, rfl⟩ := h
    rw [printed_plain hnul hb, ih hrest ht]

variable {β : Type} {ops : StrBufOps β}

/-- A count can be given a block. -/
def HasMemory (ops : StrBufOps β) (n : ℕ) : Prop :=
  ∀ b, ops.state b = .counting n → (ops.initWithAlloc b).isSome = true

theorem state_null_printf (hops : ops.Lawful) (s : Bytes) :
    (ops.state ops.null).printf s = .counting s.length := by
  rw [hops.null, StrBufState.printf, Nat.zero_add]

theorem state_of_alloc (hops : ops.Lawful) {b b' : β} {s : Bytes}
    (hb : ops.state b = .counting s.length) (halloc : ops.initWithAlloc b = some b') :
    (ops.state b').printf s = .text (s.length + 1) s := by
  rw [hops.initWithAlloc b b' _ hb halloc, StrBufState.printf_text (by simp), List.nil_append]

theorem urlNEncodeWithAlloc_spec (hops : ops.Lawful) {src : Bytes} {len : ℕ} {t : Bytes}
    (ht : encoded ((cstr src).take len) = t) :
    (∀ b, urlNEncodeWithAlloc ops src len = some b → ops.state b = .text (t.length + 1) t) ∧
      (HasMemory ops t.length → (urlNEncodeWithAlloc ops src len).isSome = true) := by
  have hcount := state_urlNEncodeToStrBuf hops src len ops.null
  rw [ht, state_null_printf hops] at hcount
  constructor
  · intro b hb
    obtain ⟨strBuf, halloc, rfl⟩ := Option.map_eq_some_iff.mp hb
    rw [state_urlNEncodeToStrBuf hops, ht]
    exact state_of_alloc hops hcount halloc
  · intro hmem
    rw [urlNEncodeWithAlloc, Option.isSome_map]
    exact hmem _ hcount

theorem urlNDecodeWithAlloc_spec (hops : ops.Lawful)
    {osStrToUint32Cptr : Bytes → ℕ → UInt32 × Bytes} {src : Bytes} {len : ℕ} {t : Bytes}
    (ht : printed osStrToUint32Cptr len src = (t, true)) :
    (∀ b, urlNDecodeWithAlloc ops osStrToUint32Cptr src len = some b →
      ops.state b = .text (t.length + 1) t) ∧
      (HasMemory ops t.length →
        (urlNDecodeWithAlloc ops osStrToUint32Cptr src len).isSome = true) := by
  have hspec := urlNDecodeToStrBuf_spec hops ht
  simp only [Bool.true_and] at hspec
  obtain ⟨hcounted, hcount⟩ := hspec ops.null
  rw [state_null_printf hops] at hcounted hcount
  have hwritten : ∀ strBuf, ops.initWithAlloc
        (urlNDecodeToStrBuf ops osStrToUint32Cptr src len ops.null).2 = some strBuf →
      urlNDecodeWithAlloc ops osStrToUint32Cptr src len =
          some (urlNDecodeToStrBuf ops osStrToUint32Cptr src len strBuf).2 ∧
        ops.state (urlNDecodeToStrBuf ops osStrToUint32Cptr src len strBuf).2 =
          .text (t.length + 1) t := by
    intro strBuf halloc
    obtain ⟨hflag, hstate⟩ := hspec strBuf
    rw [state_of_alloc hops hcount halloc] at hflag hstate
    refine ⟨?_, hstate⟩
    simp [urlNDecodeWithAlloc, hcounted, halloc, hflag]
  constructor
  · intro b hb
    cases halloc : ops.initWithAlloc
        (urlNDecodeToStrBuf ops osStrToUint32Cptr src len ops.null).2 with
    | none => simp [urlNDecodeWithAlloc, hcounted, halloc] at hb
    | some strBuf =>
      obtain ⟨hsome, hstate⟩ := hwritten strBuf halloc
      rw [hsome] at hb
      rw [← Option.some.inj hb]
      exact hstate
  · intro hmem
    obtain ⟨strBuf, halloc⟩ := Option.isSome_iff_exists.mp (hmem _ hcount)
    rw [(hwritten strBuf halloc).1]
    rfl

theorem urlNEncodeLoop_take (src : Bytes) (len : ℕ) (dst : β) :
    urlNEncodeLoop ops len src dst =
      urlNEncodeLoop ops ((cstr src).take len).length ((cstr src).take len) dst := by
  induction len generalizing src dst with
  | zero => rfl
  | succ len ih =>
    rcases src with _ | ⟨c, src⟩
    · rfl
    · by_cases hc : c = 0
      · simp [urlNEncodeLoop, cstr, hc]
      · rw [cstr_cons hc, List.take_succ_cons, List.length_cons, urlNEncodeLoop, urlNEncodeLoop,
          if_neg hc, if_neg hc]
        exact ih src _

/-- Encoding the first `n` bytes is encoding the text cut there. -/
theorem urlNEncodeWithAlloc_take (src : Bytes) (n : ℕ) :
    urlNEncodeWithAlloc ops src n = urlEncodeWithAlloc ops ((cstr src).take n) := by
  have hnul : 0 ∉ (cstr src).take n := fun h => noNul_cstr src (List.mem_of_mem_take h)
  unfold urlEncodeWithAlloc urlNEncodeWithAlloc urlNEncodeToStrBuf
  simp only [urlNEncodeLoop_take src n, cstr_of_noNul hnul]

/-- A character as it stands, or a percent sign and two digits. -/
def IsPiece (piece : Bytes) : Prop :=
  (∃ c, isUnreserved c = true ∧ piece = [c]) ∨
    ∃ hi lo, isDigit 16 hi = true ∧ isDigit 16 lo = true ∧ piece = [Percent.percent, hi, lo]

theorem isPiece_piece (b : UInt8) : IsPiece (Percent.piece isUnreserved b) := by
  have hb := b.toNat_lt
  rw [Percent.piece]
  split_ifs with hplain
  · exact .inl ⟨b, hplain, rfl⟩
  · exact .inr ⟨_, _, (Percent.isDigit_upperHexDigit (by omega)).1,
      (Percent.isDigit_upperHexDigit (by omega)).1, rfl⟩

/-- What is encoded consists of unreserved characters and triples and fills its buffer, and decoding
it gives the text back in a buffer that this fills. Nothing but a lack of memory makes either fail.
-/
theorem urlDecode_urlEncode (hops : ops.Lawful) (src : Bytes) :
    ∃ t, (∃ pieces : List Bytes, t = pieces.flatten ∧ ∀ piece ∈ pieces, IsPiece piece) ∧
      (∀ b, urlEncodeWithAlloc ops src = some b → ops.state b = .text (t.length + 1) t) ∧
      (HasMemory ops t.length → (urlEncodeWithAlloc ops src).isSome = true) ∧
      (∀ enc, cstr enc = t →
        (∀ b, urlDecodeWithAlloc ops strtoul enc = some b →
          ops.state b = .text ((cstr src).length + 1) (cstr src)) ∧
        (HasMemory ops (cstr src).length →
          (urlDecodeWithAlloc ops strtoul enc).isSome = true)) ∧
      ∀ n, urlNEncodeWithAlloc ops src n = urlEncodeWithAlloc ops ((cstr src).take n) := by
  have htake : ∀ s : Bytes, (cstr s).take (cstr s).length = cstr s := fun s => List.take_length
  have henc := urlNEncodeWithAlloc_spec hops (congrArg encoded (htake src))
  refine ⟨encoded (cstr src), ⟨(cstr src).map (Percent.piece isUnreserved), ?_, ?_⟩, henc.1, henc.2,
    ?_, urlNEncodeWithAlloc_take src⟩
  · exact (List.flatMap_def ..)
  · intro piece hpiece
    obtain ⟨b, -, rfl⟩ := List.mem_map.mp hpiece
    exact isPiece_piece b
  · intro enc ht
    have hdecode : Percent.decode (cstr enc) = some (cstr src) := by
      rw [ht]
      exact Percent.decode_encode rfl (noNul_cstr src)
    exact urlNDecodeWithAlloc_spec hops (printed_of_decode hdecode (htake enc))

theorem urlDecode_urlEncode_sample :
    ∃ t, (∃ pieces : List Bytes, t = pieces.flatten ∧ ∀ piece ∈ pieces, IsPiece piece) ∧
      urlEncodeWithAlloc (StrBufState.ops 100) (ascii "a b%ü") = some (.text (t.length + 1) t) ∧
      urlDecodeWithAlloc (StrBufState.ops 100) strtoul t = some (.text 6 (ascii "a b%ü")) := by
  obtain ⟨t, hpieces, htext, hsome, hdecode, -⟩ :=
    urlDecode_urlEncode (StrBufState.ops_lawful 100) (ascii "a b%ü")
  have henc : urlEncodeWithAlloc (StrBufState.ops 100) (ascii "a b%ü") =
      some (.text 12 (ascii "a%20b%25%FC")) := by decide +kernel
  obtain rfl : ascii "a%20b%25%FC" = t := (StrBufState.text.inj (htext _ henc)).2
  exact ⟨_, hpieces, henc, by decide +kernel⟩

end RoundTrip

end RuuviGateway.Http
