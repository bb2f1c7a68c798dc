import RuuviGateway.Http.UrlEncode

/-!
# What the URL decoder accepts

The decoder converts the two characters behind a percent sign with `strtoul`, which also takes a
blank or a sign in place of the first one, and it looks at the limit before the percent sign only.
It agrees with percent-encoding on the texts that are well-formed and on those that it refuses at
some percent sign whatever is behind the limit. -/

namespace RuuviGateway.Http

open General

section Conversion

/-- The decoder accepts the well-formed texts, puts out what they decode to, and looks at nothing
behind the limit or the NUL. -/
structure DecodesExactly {β : Type} (ops : StrBufOps β) (src : Bytes) (len : ℕ) : Prop where
  accepts : ∀ dst, (urlNDecodeToStrBuf ops strtoul src len dst).1 = true ↔
    Percent.WellFormed ((cstr src).take len) ∧
      ops.state (urlNDecodeToStrBuf ops strtoul src len dst).2 ≠ .overflow
  output : ∀ dst, (urlNDecodeToStrBuf ops strtoul src len dst).1 = true →
    ∃ out, Percent.decode ((cstr src).take len) = some out ∧
      ops.state (urlNDecodeToStrBuf ops strtoul src len dst).2 = (ops.state dst).printf out
  locality : ∀ src' dst, (cstr src').take len = (cstr src).take len →
    (urlNDecodeToStrBuf ops strtoul src' len dst).1 =
        (urlNDecodeToStrBuf ops strtoul src len dst).1 ∧
      ops.state (urlNDecodeToStrBuf ops strtoul src' len dst).2 =
        ops.state (urlNDecodeToStrBuf ops strtoul src len dst).2

/-- The first of two characters that are converted as a whole. -/
def Leading (c : UInt8) : Prop := isDigit 16 c = true ∨ isSpace c = true ∨ c = plus ∨ c = minus

/-- The decoder gives up at the percent sign at `i`, whatever is behind the limit. With `cut` the
text ends at the limit. -/
structure RefusedAt (cut : Prop) (t : Bytes) (i : ℕ) : Prop where
  percent : t[i]? = some Percent.percent
  pair : ∀ hi lo, t[i + 1]? = some hi → t[i + 2]? = some lo → ¬(Leading hi ∧ isDigit 16 lo = true)
  single : ∀ hi, t[i + 1]? = some hi → t[i + 2]? = none → cut → ¬Leading hi
  alone : t[i + 1]? = none → ¬cut

theorem RefusedAt.cons {cut : Prop} {t : Bytes} {i : ℕ} (h : RefusedAt cut t i) (b : UInt8) :
    RefusedAt cut (b :: t) (i + 1) :=
  ⟨h.percent, h.pair, h.single, h.alone⟩

theorem RefusedAt.of_cons {cut : Prop} {t : Bytes} {i : ℕ} {b : UInt8}
    (h : RefusedAt cut (b :: t) (i + 1)) : RefusedAt cut t i :=
  ⟨h.percent, h.pair, h.single, h.alone⟩

theorem refusedAt_alone {cut : Prop} (h : ¬cut) : RefusedAt cut [Percent.percent] 0 := by
  refine ⟨rfl, ?_, ?_, fun _ => h⟩
  · intro hi lo hhi
    cases hhi
  · intro hi hhi
    cases hhi

theorem refusedAt_single {cut : Prop} {hi : UInt8} (h : cut → ¬Leading hi) :
    RefusedAt cut [Percent.percent, hi] 0 := by
  refine ⟨rfl, ?_, ?_, ?_⟩
  · intro hi' lo hhi hlo
    cases hlo
  · intro hi' hhi _
    rw [← Option.some.inj hhi]
    exact h
  · intro hnone
    cases hnone

theorem refusedAt_pair {cut : Prop} {hi lo : UInt8} (h : ¬(Leading hi ∧ isDigit 16 lo = true))
    (rest : Bytes) : RefusedAt cut (Percent.percent :: hi :: lo :: rest) 0 := by
  refine ⟨rfl, ?_, ?_, ?_⟩
  · intro hi' lo' hhi hlo
    rw [← Option.some.inj hhi, ← Option.some.inj hlo]
    exact h
  · intro hi' hhi hnone
    cases hnone
  · intro hnone
    cases hnone

theorem ne_percent_of_leading {c : UInt8} (h : Leading c) : c ≠ Percent.percent := by
  rintro rfl
  revert h
  unfold Leading
  decide

section Refused

variable {cut : Prop} {b hi lo : UInt8} {rest : Bytes}

theorem exists_refusedAt_alone : (∃ i, RefusedAt cut [Percent.percent] i) ↔ ¬cut := by
  constructor
  · rintro ⟨i, hi⟩
    cases i with
    | zero => exact hi.alone rfl
    | succ i => cases hi.percent
  · intro h
    exact ⟨0, refusedAt_alone h⟩

theorem exists_refusedAt_single :
    (∃ i, RefusedAt cut [Percent.percent, hi] i) ↔ (cut → ¬Leading hi) := by
  constructor
  · rintro ⟨i, h⟩
    match i with
    | 0 => exact h.single _ rfl rfl
    | 1 =>
      intro _ hleading
      exact ne_percent_of_leading hleading (Option.some.inj h.percent)
  · intro h
    exact ⟨0, refusedAt_single h⟩

/-- Behind what is converted the text is refused where it was. -/
theorem exists_refusedAt_taken (htaken : Leading hi ∧ isDigit 16 lo = true) :
    (∃ i, RefusedAt cut (Percent.percent :: hi :: lo :: rest) i) ↔ ∃ i, RefusedAt cut rest i := by
  constructor
  · rintro ⟨i, h⟩
    match i with
    | 0 => exact absurd htaken (h.pair _ _ rfl rfl)
    | 1 => exact absurd (Option.some.inj h.percent) (ne_percent_of_leading htaken.1)
    | 2 => exact absurd (Option.some.inj h.percent) (Percent.ne_percent_of_isDigit htaken.2)
    | i + 3 => exact ⟨i, h.of_cons.of_cons.of_cons⟩
  · rintro ⟨i, h⟩
    exact ⟨i + 3, ((h.cons _).cons _).cons _⟩

theorem exists_refusedAt_plain (hb : b ≠ Percent.percent) :
    (∃ i, RefusedAt cut (b :: rest) i) ↔ ∃ i, RefusedAt cut rest i := by
  constructor
  · rintro ⟨i, h⟩
    cases i with
    | zero => exact absurd (Option.some.inj h.percent) hb
    | succ i => exact ⟨i, h.of_cons⟩
  · rintro ⟨i, h⟩
    exact ⟨i + 1, h.cons b⟩

end Refused

theorem printed_short {osStrToUint32Cptr : Bytes → ℕ → UInt32 × Bytes} {src : Bytes} {len : ℕ}
    (h : (cstr src).length < 2) :
    printed osStrToUint32Cptr (len + 1) (Percent.percent :: src) = ([], false) := by
  rcases src with _ | ⟨c0, _ | ⟨c1, src⟩⟩
  · rfl
  · rfl
  · by_cases hc0 : c0 = 0
    · simp only [printed, if_pos hc0]
      rfl
    · by_cases hc1 : c1 = 0
      · simp only [printed, if_neg hc0, if_pos hc1]
        rfl
      · rw [cstr_cons hc0, cstr_cons hc1] at h
        simp only [List.length_cons] at h
        omega

/-- A text that is refused at some percent sign is refused with the same output in every memory. -/
theorem printed_of_refusedAt {cut : Prop} {t : Bytes} (h : ∃ i, RefusedAt cut t i) :
    ∃ out, ∀ src len, (cstr src).take len = t → (t.length = len ↔ cut) →
      printed strtoul len src = (out, false) := by
  induction t using Percent.escape_induction with
  | nil =>
    obtain ⟨i, hi⟩ := h
    cases hi.percent
  | alone =>
    have hcut : ¬cut := exists_refusedAt_alone.mp h
    refine ⟨[], ?_⟩
    intro src len ht hlen
    obtain ⟨src, len, rfl, rfl, -, ht⟩ := eq_cons_of_take ht
    rcases List.take_eq_nil_iff.mp ht with hzero | hnil
    · subst hzero
      exact absurd (hlen.mp rfl) hcut
    · exact printed_short (by simp [hnil])
  | single hi =>
    have hlead : cut → ¬Leading hi := exists_refusedAt_single.mp h
    refine ⟨[], ?_⟩
    intro src len ht hlen
    obtain ⟨src, len, rfl, rfl, -, ht⟩ := eq_cons_of_take ht
    obtain ⟨src, len, rfl, rfl, hnul, ht⟩ := eq_cons_of_take ht
    by_cases hshort : (cstr (hi :: src)).length < 2
    · exact printed_short hshort
    · rw [cstr_cons hnul, List.length_cons] at hshort
      rcases List.take_eq_nil_iff.mp ht with hzero | hnil
      · subst hzero
        rcases src with _ | ⟨lo, src⟩
        · exact absurd (by decide) hshort
        · exact printed_refused fun hend => hlead (hlen.mp rfl) (strtoul_pair.mp hend).1
      · exact absurd (by simp [hnil]) hshort
  | escape hi lo rest ih =>
    by_cases htaken : Leading hi ∧ isDigit 16 lo = true
    · obtain ⟨out, hout⟩ := ih ((exists_refusedAt_taken htaken).mp h)
      refine ⟨(strtoul [hi, lo] 16).1.toUInt8 :: out, ?_⟩
      intro src len ht hlen
      obtain ⟨src, len, rfl, rfl, -, ht⟩ := eq_cons_of_take ht
      obtain ⟨src, len, rfl, rfl, hhi, ht⟩ := eq_cons_of_take ht
      obtain ⟨src, len, rfl, rfl, hlo, ht⟩ := eq_cons_of_take ht
      rw [printed_escape hhi hlo (strtoul_pair.mpr htaken)]
      have hlen' : len + 1 + 1 - 2 = len := rfl
      simp only [List.length_cons] at hlen
      rw [hlen', hout src len ht (by rw [← hlen]; omega)]
    · refine ⟨[], ?_⟩
      intro src len ht hlen
      obtain ⟨src, len, rfl, rfl, -, ht⟩ := eq_cons_of_take ht
      obtain ⟨src, len, rfl, rfl, -, ht⟩ := eq_cons_of_take ht
      obtain ⟨src, len, rfl, rfl, -, ht⟩ := eq_cons_of_take ht
      exact printed_refused fun hend => htaken (strtoul_pair.mp hend)
  | plain b rest hb ih =>
    obtain ⟨out, hout⟩ := ih ((exists_refusedAt_plain hb).mp h)
    refine ⟨b :: out, ?_⟩
    intro src len ht hlen
    obtain ⟨src, len, rfl, rfl, hnul, ht⟩ := eq_cons_of_take ht
    rw [List.length_cons, Nat.add_right_cancel_iff] at hlen
    rw [printed_plain hnul hb, hout src len ht hlen]

/-- What may follow a text of `n` bytes: two digits if it ends at the limit, else its NUL. -/
def Continued (cut : Prop) (n len : ℕ) (tail : Bytes) : Prop :=
  (cut ∧ n = len ∧ tail = [0x31, 0x31]) ∨ (¬cut ∧ n < len ∧ tail = [])

theorem Continued.exists_add {cut : Prop} {n k len : ℕ} {tail : Bytes}
    (h : Continued cut (n + k) len tail) : ∃ len', len = len' + k ∧ Continued cut n len' tail := by
  rcases h with ⟨hcut, hlen, htail⟩ | ⟨hcut, hlen, htail⟩
  · exact ⟨n, hlen.symm, .inl ⟨hcut, rfl, htail⟩⟩
  · exact ⟨len - k, by omega, .inr ⟨hcut, by omega, htail⟩⟩

/-- A text that is refused nowhere is accepted in some memory. -/
theorem printed_of_not_refusedAt {cut : Prop} {t : Bytes} (h : ∀ i, ¬RefusedAt cut t i)
    (hnul : 0 ∉ t) {len : ℕ} {tail : Bytes} (htail : Continued cut t.length len tail) :
    (printed strtoul len (t ++ tail)).2 = true := by
  induction t using Percent.escape_induction generalizing len with
  | nil =>
    rcases htail with ⟨-, rfl, -⟩ | ⟨-, -, rfl⟩
    · rw [List.length_nil, printed]
    · cases len <;> rfl
  | alone =>
    have hc : cut := not_not.mp ((not_congr exists_refusedAt_alone).mp (not_exists.mpr h))
    rcases htail with ⟨-, rfl, rfl⟩ | ⟨hc', -, -⟩
    · decide
    · exact absurd hc hc'
  | single hi =>
    have hc : cut ∧ Leading hi := by
      by_contra hc
      exact h 0 (refusedAt_single fun hcut hleading => hc ⟨hcut, hleading⟩)
    have hhi : hi ≠ 0 := by
      rintro rfl
      exact hnul (by simp)
    rcases htail with ⟨-, rfl, rfl⟩ | ⟨hc', -, -⟩
    · change (printed strtoul (1 + 1) (Percent.percent :: hi :: 0x31 :: [0x31])).2 = true
      rw [printed_escape hhi (by decide) (strtoul_pair.mpr ⟨hc.2, by decide⟩)]
      rfl
    · exact absurd hc.1 hc'
  | escape hi lo rest ih =>
    have htaken : Leading hi ∧ isDigit 16 lo = true := by
      by_contra htaken
      exact h 0 (refusedAt_pair htaken rest)
    have hrest : ∀ i, ¬RefusedAt cut rest i :=
      not_exists.mp ((not_congr (exists_refusedAt_taken htaken)).mp (not_exists.mpr h))
    simp only [List.mem_cons, not_or] at hnul
    obtain ⟨-, hhi, hlo, hnul⟩ := hnul
    obtain ⟨len, rfl, hnext⟩ := htail.exists_add (n := rest.length) (k := 3)
    rw [List.cons_append, List.cons_append, List.cons_append,
      printed_escape (Ne.symm hhi) (Ne.symm hlo) (strtoul_pair.mpr htaken)]
    exact ih hrest hnul hnext
  | plain b rest hb ih =>
    have hrest : ∀ i, ¬RefusedAt cut rest i :=
      not_exists.mp ((not_congr (exists_refusedAt_plain hb)).mp (not_exists.mpr h))
    rw [List.mem_cons, not_or] at hnul
    obtain ⟨len, rfl, hnext⟩ := htail.exists_add (n := rest.length) (k := 1)
    rw [List.cons_append, printed_plain (Ne.symm hnul.1) hb]
    exact ih hrest hnul.2 hnext

end Conversion

variable {β : Type} {ops : StrBufOps β}

/-- What is printed decides what the decoder returns. -/
theorem urlNDecodeToStrBuf_congr (hops : ops.Lawful) {src src' : Bytes} {len : ℕ}
    (h : printed strtoul len src' = printed strtoul len src) (dst : β) :
    (urlNDecodeToStrBuf ops strtoul src' len dst).1 =
        (urlNDecodeToStrBuf ops strtoul src len dst).1 ∧
      ops.state (urlNDecodeToStrBuf ops strtoul src' len dst).2 =
        ops.state (urlNDecodeToStrBuf ops strtoul src len dst).2 := by
  obtain ⟨hflag, hstate⟩ := urlNDecodeToStrBuf_spec hops rfl dst
  obtain ⟨hflag', hstate'⟩ := urlNDecodeToStrBuf_spec hops h dst
  exact ⟨hflag'.trans hflag.symm, hstate'.trans hstate.symm⟩

theorem decodesExactly_of_wellFormed (hops : ops.Lawful) {src : Bytes} {len : ℕ}
    (h : Percent.WellFormed ((cstr src).take len)) : DecodesExactly ops src len := by
  obtain ⟨out, hout⟩ := Option.isSome_iff_exists.mp ((Percent.isSome_decode_iff _).mpr h)
  have hprinted := printed_of_decode hout rfl
  refine ⟨?_, ?_, ?_⟩
  · intro dst
    obtain ⟨hflag, hstate⟩ := urlNDecodeToStrBuf_spec hops hprinted dst
    rw [hflag, hstate]
    simp [h]
  · intro dst _
    exact ⟨out, hout, (urlNDecodeToStrBuf_spec hops hprinted dst).2⟩
  · intro src' dst hsrc'
    exact urlNDecodeToStrBuf_congr hops
      ((printed_of_decode hout hsrc').trans hprinted.symm) dst

theorem decodesExactly_of_refusedAt (hops : ops.Lawful) {src : Bytes} {len : ℕ}
    (h : ∃ i, RefusedAt (((cstr src).take len).length = len) ((cstr src).take len) i) :
    DecodesExactly ops src len := by
  obtain ⟨out, hout⟩ := printed_of_refusedAt h
  have hprinted := hout src len rfl Iff.rfl
  have hflag : ∀ dst, (urlNDecodeToStrBuf ops strtoul src len dst).1 = false := by
    intro dst
    rw [(urlNDecodeToStrBuf_spec hops hprinted dst).1]
    rfl
  have hill : ¬Percent.WellFormed ((cstr src).take len) := by
    intro hwell
    obtain ⟨out', hout'⟩ := Option.isSome_iff_exists.mp ((Percent.isSome_decode_iff _).mpr hwell)
    have hends := congrArg Prod.snd (hprinted.symm.trans (printed_of_decode hout' rfl))
    cases hends
  refine ⟨?_, ?_, ?_⟩
  · intro dst
    simp [hflag dst, hill]
  · intro dst htrue
    rw [hflag dst] at htrue
    cases htrue
  · intro src' dst hsrc'
    exact urlNDecodeToStrBuf_congr hops ((hout src' len hsrc' Iff.rfl).trans hprinted.symm) dst

/-- The decoder is exact at a text that is well-formed or refused at one of its percent signs. -/
theorem urlNDecodeToStrBuf_exact_iff (hops : ops.Lawful) (src : Bytes) (len : ℕ) :
    DecodesExactly ops src len ↔ Percent.WellFormed ((cstr src).take len) ∨
      ∃ i, RefusedAt (((cstr src).take len).length = len) ((cstr src).take len) i := by
  constructor
  · intro hexact
    by_contra hnot
    rw [not_or, not_exists] at hnot
    obtain ⟨hill, haccepted⟩ := hnot
    -- The memory in which the text is followed by what the decoder wants to see.
    have hnul : 0 ∉ (cstr src).take len := fun h => noNul_cstr src (List.mem_of_mem_take h)
    obtain ⟨tail, htail, hsame⟩ : ∃ tail, Continued (((cstr src).take len).length = len)
        ((cstr src).take len).length len tail ∧
          (cstr ((cstr src).take len ++ tail)).take len = (cstr src).take len := by
      by_cases hc : ((cstr src).take len).length = len
      · refine ⟨[0x31, 0x31], .inl ⟨hc, hc, rfl⟩, ?_⟩
        rw [cstr_of_noNul (by simp [hnul]), List.take_append_of_le_length hc.ge,
          List.take_take, min_self]
      · refine ⟨[], .inr ⟨hc, by simp at hc ⊢; omega, rfl⟩, ?_⟩
        rw [List.append_nil, cstr_of_noNul hnul, List.take_take, min_self]
    obtain ⟨out, hout⟩ : ∃ out, printed strtoul len ((cstr src).take len ++ tail) = (out, true) :=
      ⟨_, Prod.ext rfl (printed_of_not_refusedAt haccepted hnul htail)⟩
    have hflag := (urlNDecodeToStrBuf_spec hops hout ops.null).1
    rw [state_null_printf hops] at hflag
    have htrue := (hexact.locality _ ops.null hsame).1.symm.trans hflag
    exact hill ((hexact.accepts ops.null).mp htrue).1
  · rintro (hwell | hrefused)
    · exact decodesExactly_of_wellFormed hops hwell
    · exact decodesExactly_of_refusedAt hops hrefused

theorem urlNDecodeToStrBuf_exact_sample :
    DecodesExactly (StrBufState.ops 100) (ascii "a%2") 5 ∧
      DecodesExactly (StrBufState.ops 100) (ascii "a%41&") 4 := by
  refine ⟨(urlNDecodeToStrBuf_exact_iff (StrBufState.ops_lawful 100) _ _).mpr ?_,
    (urlNDecodeToStrBuf_exact_iff (StrBufState.ops_lawful 100) _ _).mpr ?_⟩
  · exact .inr ⟨1, (refusedAt_single fun hcut => absurd hcut (by decide)).cons _⟩
  · exact .inl ((Percent.isSome_decode_iff _).mp (by decide))

/-- `%00` and `% 5` are decoded, and one byte of `%41` is. -/
theorem urlNDecodeToStrBuf_notExact :
    ¬DecodesExactly (StrBufState.ops 100) (ascii "%00") 3 ∧
      ¬DecodesExactly (StrBufState.ops 100) (ascii "% 5") 3 ∧
      ¬DecodesExactly (StrBufState.ops 100) (ascii "%41") 1 := by
  have hill : ∀ src len, Percent.decode ((cstr src).take len) = none →
      (urlNDecodeToStrBuf (StrBufState.ops 100) strtoul src len (.counting 0)).1 = true →
      ¬DecodesExactly (StrBufState.ops 100) src len := by
    intro src len hnone htrue hexact
    have hwell := ((hexact.accepts _).mp htrue).1
    rw [← Percent.isSome_decode_iff, hnone] at hwell
    cases hwell
  exact ⟨hill _ _ (by decide) (by decide),
    hill _ _ (by decide) (by decide),
    hill _ _ (by decide) (by decide)⟩

end RuuviGateway.Http
