import RuuviGateway.General.Numerals

/-!
# The parts of a number in front of other text

A number that `strtoul` reads consists of blanks, a sign, a prefix and its digits. What follows the
digits decides nothing if it begins with a character below the digits, such as a blank or a dot.
-/

namespace General

/-- The text of a sign, and whether it is a minus. -/
inductive SignText : Bytes → Bool → Prop
  | none : SignText [] false
  | plus : SignText [plus] false
  | minus : SignText [minus] true

/-- The text between the sign and the digits, and the base that the digits have. -/
inductive PrefixText (base : ℕ) (digits : Bytes) : Bytes → ℕ → Prop
  | hex (x : UInt8) (hbase : base = 16 ∨ base = 0) (hx : x = 0x78 ∨ x = 0x58) :
    PrefixText base digits [0x30, x] 16
  | given (hbase : base ≠ 0) : PrefixText base digits [] base
  | octal (hbase : base = 0) (hzero : digits.head? = some 0x30) : PrefixText base digits [] 8
  | decimal (hbase : base = 0) (hzero : digits.head? ≠ some 0x30) : PrefixText base digits [] 10

/-- The blanks, the sign and the prefix before the digits of a number. -/
structure NumberParts (base : ℕ) (blanks sign pre : Bytes) (n : NumberText) : Prop where
  space : ∀ c ∈ blanks, isSpace c = true
  signText : SignText sign n.negative
  prefixText : PrefixText base n.digits pre n.base
  isNumeral : IsNumeral n.base n.digits
  stop : ∀ c, n.rest.head? = some c → isDigit n.base c = false
  noPrefix : pre = [] → base = 16 ∨ base = 0 → hasHexPrefix (n.digits ++ n.rest) = false

variable {base : ℕ} {s blanks sign pre : Bytes} {n : NumberText}

theorem isDigit_mono {base base' : ℕ} {c : UInt8} (hle : base ≤ base')
    (h : isDigit base c = true) : isDigit base' c = true := by
  unfold isDigit at h ⊢
  rw [Option.any_eq_true] at h ⊢
  obtain ⟨d, hd, hlt⟩ := h
  exact ⟨d, hd, decide_eq_true ((of_decide_eq_true hlt).trans_le hle)⟩

theorem exists_cons_of_isNumeral {base : ℕ} {digits : Bytes} (h : IsNumeral base digits) :
    ∃ c tail, digits = c :: tail ∧ isDigit base c = true := by
  cases digits with
  | nil => exact absurd rfl h.1
  | cons c tail => exact ⟨c, tail, rfl, h.2 c List.mem_cons_self⟩

/-- What follows the blanks and the sign begins with a digit. -/
theorem NumberParts.exists_cons (h : NumberParts base blanks sign pre n) :
    ∃ c tail, pre ++ (n.digits ++ n.rest) = c :: tail ∧ 48 ≤ c.toNat := by
  obtain ⟨c, tail, hdigits, hc⟩ := exists_cons_of_isNumeral h.isNumeral
  have hle := le_toNat_of_isDigit hc
  have hpre := h.prefixText
  rw [hdigits] at hpre ⊢
  generalize n.base = b at hpre
  cases hpre with
  | hex x hbase hx => exact ⟨0x30, _, rfl, by decide⟩
  | given | octal | decimal => exact ⟨c, _, rfl, hle⟩

theorem NumberParts.readPrefix (h : NumberParts base blanks sign pre n) :
    readPrefix base (pre ++ (n.digits ++ n.rest)) = (n.base, n.digits ++ n.rest) := by
  obtain ⟨c, tail, hdigits, hc⟩ := exists_cons_of_isNumeral h.isNumeral
  have hnone : pre = [] → ¬((base = 16 ∨ base = 0) ∧ hasHexPrefix (n.digits ++ n.rest) = true) := by
    rintro hpre ⟨hbase, hhex⟩
    rw [h.noPrefix hpre hbase] at hhex
    cases hhex
  have hhead : (n.digits ++ n.rest).head? = n.digits.head? := by
    rw [hdigits]
    rfl
  have hpre := h.prefixText
  unfold General.readPrefix
  generalize n.base = b at hpre hc
  cases hpre with
  | hex x hbase hx =>
    have hhex : hasHexPrefix ([0x30, x] ++ (n.digits ++ n.rest)) = true := by
      rw [hdigits]
      rcases hx with rfl | rfl <;> simp [hasHexPrefix, hc]
    rw [if_pos ⟨hbase, hhex⟩]
    rfl
  | given hbase => rw [List.nil_append, if_neg (hnone rfl), if_neg hbase]
  | octal hbase hzero => rw [List.nil_append, if_neg (hnone rfl), if_pos hbase, hhead, if_pos hzero]
  | decimal hbase hzero =>
    rw [List.nil_append, if_neg (hnone rfl), if_pos hbase, hhead, if_neg hzero]

/-- The sign and the blanks are read as what they are before a character from `0` on. -/
theorem readSign_append {sign t : Bytes} {negative : Bool} {c : UInt8} {tail : Bytes}
    (h : SignText sign negative) (ht : t = c :: tail) (hc : 48 ≤ c.toNat) :
    readSign (sign ++ t) = (negative, t) ∧ (sign ++ t).dropWhile isSpace = sign ++ t := by
  subst ht
  cases h with
  | none =>
    refine ⟨readSign_of_ne ?_ ?_, List.dropWhile_cons_of_neg ?_⟩
    · rintro rfl
      exact absurd hc (by decide)
    · rintro rfl
      exact absurd hc (by decide)
    · simp only [isSpace, Bool.or_eq_true, Bool.and_eq_true, beq_iff_eq, decide_eq_true_eq]
      omega
  | plus => exact ⟨rfl, rfl⟩
  | minus => exact ⟨rfl, rfl⟩

/-- The parts of a number are what is read. -/
theorem NumberParts.scan (h : NumberParts base blanks sign pre n) :
    scanNumber base (blanks ++ (sign ++ (pre ++ (n.digits ++ n.rest)))) = n := by
  obtain ⟨c, tail, hcons, hc⟩ := h.exists_cons
  obtain ⟨hsign, hspace⟩ := readSign_append h.signText hcons hc
  obtain ⟨htake, hdrop⟩ := takeWhile_append_of_stop h.isNumeral.2 h.stop
  rw [scanNumber, List.dropWhile_append_of_pos h.space, hspace, hsign]
  simp only [h.readPrefix, htake, hdrop]

theorem exists_signText (s : Bytes) :
    ∃ sign, s = sign ++ (readSign s).2 ∧ SignText sign (readSign s).1 := by
  cases s with
  | nil => exact ⟨[], rfl, .none⟩
  | cons b s =>
    rw [readSign]
    split_ifs with hminus hplus
    · exact ⟨[minus], by rw [hminus]; rfl, .minus⟩
    · exact ⟨[plus], by rw [hplus]; rfl, .plus⟩
    · exact ⟨[], rfl, .none⟩

theorem head?_takeWhile {p : UInt8 → Bool} (h : s.takeWhile p ≠ []) :
    (s.takeWhile p).head? = s.head? := by
  cases s with
  | nil => exact absurd rfl h
  | cons c s =>
    rw [List.takeWhile_cons] at h ⊢
    split_ifs at h ⊢
    · rfl
    · exact absurd rfl h

theorem exists_of_hasHexPrefix (h : hasHexPrefix s = true) :
    ∃ x, s = [0x30, x] ++ s.drop 2 ∧ (x = 0x78 ∨ x = 0x58) := by
  rcases s with _ | ⟨z, _ | ⟨x, _ | ⟨d, s⟩⟩⟩
  · cases h
  · cases h
  · cases h
  · simp only [hasHexPrefix, Bool.and_eq_true, Bool.or_eq_true, beq_iff_eq] at h
    obtain ⟨⟨rfl, hx⟩, -⟩ := h
    exact ⟨x, rfl, hx⟩

/-- What `readPrefix` takes off is a prefix, and there is none in what is left if it takes nothing.
-/
theorem exists_prefixText {r : ℕ × Bytes} (hr : readPrefix base s = r)
    (hdigits : r.2.takeWhile (isDigit r.1) ≠ []) :
    ∃ pre, s = pre ++ r.2 ∧ PrefixText base (r.2.takeWhile (isDigit r.1)) pre r.1 ∧
      (pre = [] → base = 16 ∨ base = 0 → hasHexPrefix r.2 = false) := by
  unfold readPrefix at hr
  split_ifs at hr with hhex hbase hzero
  · rw [← hr]
    obtain ⟨x, hs, hx⟩ := exists_of_hasHexPrefix hhex.2
    exact ⟨[0x30, x], hs, .hex x hhex.1 hx, nofun⟩
  all_goals
    have hnone : base = 16 ∨ base = 0 → hasHexPrefix s = false :=
      fun h => Bool.eq_false_of_not_eq_true fun h' => hhex ⟨h, h'⟩
    rw [← hr] at hdigits ⊢
    have hhead := head?_takeWhile hdigits
    refine ⟨[], rfl, ?_, fun _ => hnone⟩
  · exact .octal hbase (hhead.trans hzero)
  · exact .decimal hbase fun h => hzero (hhead.symm.trans h)
  · exact .given hbase

/-- A number with a digit consists of such parts. -/
theorem exists_numberParts (h : (scanNumber base s).digits ≠ []) :
    ∃ blanks sign pre, NumberParts base blanks sign pre (scanNumber base s) ∧
      s = blanks ++
        (sign ++ (pre ++ ((scanNumber base s).digits ++ (scanNumber base s).rest))) := by
  obtain ⟨sign, hsign, hsignText⟩ := exists_signText (s.dropWhile isSpace)
  obtain ⟨pre, hpre, hprefixText, hnoPrefix⟩ := exists_prefixText rfl h
  have hrest : (scanNumber base s).digits ++ (scanNumber base s).rest =
      (readPrefix base (readSign (s.dropWhile isSpace)).2).2 := List.takeWhile_append_dropWhile
  refine ⟨s.takeWhile isSpace, sign, pre, ⟨?_, hsignText, hprefixText, ⟨h, ?_⟩, ?_, ?_⟩, ?_⟩
  · intro c hc
    exact List.mem_takeWhile_imp hc
  · intro c hc
    exact List.mem_takeWhile_imp hc
  · intro c hc
    have hhead := List.head?_dropWhile_not (isDigit (scanNumber base s).base)
      (readPrefix base (readSign (s.dropWhile isSpace)).2).2
    exact (hc ▸ hhead :)
  · rw [hrest]
    exact hnoPrefix
  · rw [hrest, ← hpre, ← hsign, List.takeWhile_append_dropWhile]

theorem hasHexPrefix_append {v r : Bytes} (hne : v ≠ [])
    (hr : ∀ c, r.head? = some c → c.toNat < 48) :
    hasHexPrefix (v ++ r) = hasHexPrefix v := by
  have hsmall : ∀ c, r.head? = some c → isDigit 16 c = false ∧ c ≠ 0x78 ∧ c ≠ 0x58 := by
    intro c hc
    refine ⟨Bool.eq_false_of_not_eq_true fun hd => ?_, ?_, ?_⟩
    · exact absurd (le_toNat_of_isDigit hd) (Nat.not_le.mpr (hr c hc))
    · rintro rfl
      exact absurd (hr _ hc) (by decide)
    · rintro rfl
      exact absurd (hr _ hc) (by decide)
  rcases v with _ | ⟨z, _ | ⟨x, _ | ⟨d, v⟩⟩⟩
  · exact absurd rfl hne
  · rcases r with _ | ⟨x, _ | ⟨d, r⟩⟩
    · rfl
    · rfl
    · simp [hasHexPrefix, (hsmall x rfl).2]
  · rcases r with _ | ⟨d, r⟩
    · rfl
    · simp [hasHexPrefix, (hsmall d rfl).1]
  · rfl

theorem hasHexPrefix_mono {v : Bytes} (h : hasHexPrefix v = true) (r : Bytes) :
    hasHexPrefix (v ++ r) = true := by
  rcases v with _ | ⟨z, _ | ⟨x, _ | ⟨d, v⟩⟩⟩
  · cases h
  · cases h
  · cases h
  · exact h

/-- What follows a number decides nothing if it begins below the digits. -/
theorem scanNumber_append {r : Bytes} (h : (scanNumber base s).digits ≠ [])
    (hr : ∀ c, r.head? = some c → c.toNat < 48) :
    scanNumber base (s ++ r) =
      { scanNumber base s with rest := (scanNumber base s).rest ++ r } := by
  obtain ⟨blanks, sign, pre, hparts, hs⟩ := exists_numberParts h
  have hnext : NumberParts base blanks sign pre
      { scanNumber base s with rest := (scanNumber base s).rest ++ r } := by
    refine ⟨hparts.space, hparts.signText, hparts.prefixText, hparts.isNumeral, ?_, ?_⟩
    · intro c hc
      rw [List.head?_append, Option.or_eq_some_iff] at hc
      rcases hc with hc | ⟨-, hc⟩
      · exact hparts.stop c hc
      · exact Bool.eq_false_of_not_eq_true fun hd =>
          Nat.not_le.mpr (hr c hc) (le_toNat_of_isDigit hd)
    · intro hpre hbase
      change hasHexPrefix (_ ++ (_ ++ _)) = false
      rw [← List.append_assoc, hasHexPrefix_append (by simp [h]) hr]
      exact hparts.noPrefix hpre hbase
  have hscan := hnext.scan
  rw [← hscan]
  conv_lhs => rw [hs]
  simp only [List.append_assoc]

/-- A number without what follows it is the same number. -/
theorem scanNumber_take (h : (scanNumber base s).digits ≠ []) :
    ∃ t, s = t ++ (scanNumber base s).rest ∧
      scanNumber base t = { scanNumber base s with rest := [] } := by
  obtain ⟨blanks, sign, pre, hparts, hs⟩ := exists_numberParts h
  have hnext : NumberParts base blanks sign pre { scanNumber base s with rest := [] } := by
    refine ⟨hparts.space, hparts.signText, hparts.prefixText, hparts.isNumeral, nofun, ?_⟩
    intro hpre hbase
    refine Bool.eq_false_of_not_eq_true fun hhex => ?_
    rw [List.append_nil] at hhex
    have hmore := hasHexPrefix_mono hhex (scanNumber base s).rest
    rw [hparts.noPrefix hpre hbase] at hmore
    cases hmore
  refine ⟨blanks ++ (sign ++ (pre ++ (scanNumber base s).digits)), ?_, ?_⟩
  · conv_lhs => rw [hs]
    simp only [List.append_assoc]
  · have hscan := hnext.scan
    rwa [List.append_nil] at hscan

section Conversion

/-- A text that is a number as a whole, as `strtoul` reads it. -/
def Denotes (base : ℕ) (s : Bytes) : Prop := (denoted base s).isSome = true

instance (base : ℕ) (s : Bytes) : Decidable (Denotes base s) :=
  inferInstanceAs (Decidable ((denoted base s).isSome = true))

theorem denotes_iff : Denotes base s ↔
    (scanNumber base s).digits ≠ [] ∧ (scanNumber base s).rest = [] := by
  unfold Denotes denoted
  dsimp only
  split_ifs with h
  · refine iff_of_false Bool.false_ne_true ?_
    rintro ⟨hdigits, hrest⟩
    exact h.elim hdigits fun hne => hne hrest
  · rw [not_or, not_not] at h
    exact iff_of_true rfl h

theorem strtoul_of_digits (h : (scanNumber base s).digits ≠ []) :
    strtoul s base = ((scanNumber base s).value, (scanNumber base s).rest) := if_neg h

theorem strtoul_of_no_digits (h : (scanNumber base s).digits = []) : strtoul s base = (0, s) :=
  if_pos h

theorem strtoul_suffix (s : Bytes) (base : ℕ) : (strtoul s base).2 <:+ s := by
  by_cases h : (scanNumber base s).digits = []
  · exact ⟨[], congrArg Prod.snd (strtoul_of_no_digits h)⟩
  · obtain ⟨t, hs, -⟩ := scanNumber_take h
    rw [strtoul_of_digits h]
    exact ⟨t, hs.symm⟩

/-- A number is converted in front of other text as it is alone. -/
theorem Denotes.strtoul_append (h : Denotes base s) {r : Bytes}
    (hr : ∀ c, r.head? = some c → c.toNat < 48) :
    strtoul (s ++ r) base = ((strtoul s base).1, r) := by
  obtain ⟨hdigits, hrest⟩ := denotes_iff.mp h
  have hscan := scanNumber_append hdigits hr
  rw [hrest, List.nil_append] at hscan
  rw [strtoul_of_digits (by rw [hscan]; exact hdigits), strtoul_of_digits hdigits, hscan]
  rfl

/-- What is converted is a number in front of the rest. -/
theorem exists_denotes (h : (scanNumber base s).digits ≠ []) :
    ∃ t, s = t ++ (strtoul s base).2 ∧ Denotes base t ∧
      (strtoul t base).1 = (strtoul s base).1 := by
  obtain ⟨t, hs, hscan⟩ := scanNumber_take h
  have hdigits : (scanNumber base t).digits ≠ [] := by
    rw [hscan]
    exact h
  rw [strtoul_of_digits h]
  refine ⟨t, hs, denotes_iff.mpr ⟨hdigits, by rw [hscan]⟩, ?_⟩
  rw [strtoul_of_digits hdigits, hscan]
  rfl

/-- Digits with the prefix of their base at most, of a value of 32 bits. -/
def IsPlain (base : ℕ) (s : Bytes) : Prop :=
  IsNumeral (readPrefix base s).1 (readPrefix base s).2 ∧
    numeral (readPrefix base s).1 (readPrefix base s).2 < 0x100000000

instance (base : ℕ) (s : Bytes) : Decidable (IsPlain base s) := inferInstanceAs (Decidable (_ ∧ _))

def plainValue (base : ℕ) (s : Bytes) : UInt32 :=
  UInt32.ofNat (numeral (readPrefix base s).1 (readPrefix base s).2)

theorem scanNumber_plain (h : IsNumeral (readPrefix base s).1 (readPrefix base s).2) :
    scanNumber base s = ⟨false, (readPrefix base s).1, (readPrefix base s).2, []⟩ := by
  have htake : (readPrefix base s).2.takeWhile (isDigit (readPrefix base s).1) =
      (readPrefix base s).2 := List.takeWhile_eq_self_iff.mpr h.2
  obtain ⟨pre, hs, hpre, hno⟩ := exists_prefixText rfl (htake.symm ▸ h.1)
  rw [htake] at hpre
  have hparts : NumberParts base [] [] pre
      ⟨false, (readPrefix base s).1, (readPrefix base s).2, []⟩ := by
    refine ⟨nofun, .none, hpre, h, nofun, ?_⟩
    rwa [List.append_nil]
  have hscan := hparts.scan
  simp only [List.nil_append, List.append_nil] at hscan
  rwa [← hs] at hscan

theorem IsPlain.denotes (h : IsPlain base s) : Denotes base s := by
  rw [denotes_iff, scanNumber_plain h.1]
  exact ⟨h.1.1, rfl⟩

theorem IsPlain.strtoul (h : IsPlain base s) : (strtoul s base).1 = plainValue base s := by
  have hscan := scanNumber_plain h.1
  rw [strtoul_of_digits (by rw [hscan]; exact h.1.1), hscan]
  unfold NumberText.value NumberText.magnitude
  dsimp only
  rw [if_neg (Nat.not_le.mpr h.2), if_neg Bool.false_ne_true]
  rfl

/-- Blanks in front of a text are skipped. -/
theorem scanNumber_blanks {blanks : Bytes} (h : ∀ c ∈ blanks, isSpace c = true) (s : Bytes) :
    scanNumber base (blanks ++ s) = scanNumber base s := by
  rw [scanNumber, List.dropWhile_append_of_pos h]
  rfl

theorem notMem_signText {sign : Bytes} {negative : Bool} {c : UInt8} (h : SignText sign negative)
    (hplus : c ≠ plus) (hminus : c ≠ minus) : c ∉ sign := by
  cases h <;> simp [hplus, hminus]

theorem notMem_prefixText {digits pre : Bytes} {b : ℕ} {c : UInt8}
    (h : PrefixText base digits pre b) (hc : c.toNat < 48) : c ∉ pre := by
  cases h with
  | hex x hbase hx =>
    intro hmem
    rcases hx with rfl | rfl <;> rcases List.mem_pair.mp hmem with rfl | rfl <;>
      exact absurd hc (by decide)
  | given | octal | decimal => exact List.not_mem_nil

/-- A character that is no part of a number ends it. -/
theorem digits_append_stop {c : UInt8} (hspace : isSpace c = false) (hplus : c ≠ plus)
    (hminus : c ≠ minus) (hlow : c.toNat < 48) (r : Bytes)
    (h : (scanNumber base (s ++ c :: r)).digits ≠ []) : (scanNumber base s).digits ≠ [] := by
  obtain ⟨blanks, sign, pre, hparts, hs⟩ := exists_numberParts h
  generalize scanNumber base (s ++ c :: r) = n at h hparts hs
  have hfront : c ∉ blanks ++ (sign ++ (pre ++ n.digits)) := by
    simp only [List.mem_append, not_or]
    refine ⟨?_, ?_, ?_, ?_⟩
    · intro hmem
      rw [hparts.space c hmem] at hspace
      cases hspace
    · exact notMem_signText hparts.signText hplus hminus
    · exact notMem_prefixText hparts.prefixText hlow
    · exact fun hmem => ne_of_isDigit (hparts.isNumeral.2 c hmem) hlow rfl
  have hprefix : blanks ++ (sign ++ (pre ++ n.digits)) <+: s := by
    rw [← prefix_append_cons_iff hfront, hs]
    exact ⟨n.rest, by simp only [List.append_assoc]⟩
  obtain ⟨rest, rfl⟩ := hprefix
  have hrest : n.rest = rest ++ c :: r := by
    simpa only [List.append_assoc, List.append_cancel_left_eq] using hs.symm
  have hshort : NumberParts base blanks sign pre { n with rest := rest } := by
    refine ⟨hparts.space, hparts.signText, hparts.prefixText, hparts.isNumeral, ?_, ?_⟩
    · intro b hb
      refine hparts.stop b ?_
      rw [hrest, List.head?_append]
      simp [hb]
    · intro hpre hbase
      refine Bool.eq_false_of_not_eq_true fun hhex => ?_
      have hmore := hasHexPrefix_mono hhex (c :: r)
      rw [List.append_assoc, ← hrest, hparts.noPrefix hpre hbase] at hmore
      cases hmore
  have hscan := hshort.scan
  simp only [List.append_assoc]
  rw [hscan]
  exact h

theorem strtoul_append_stop {c : UInt8} (hspace : isSpace c = false) (hplus : c ≠ plus)
    (hminus : c ≠ minus) (hlow : c.toNat < 48) (r : Bytes) :
    strtoul (s ++ c :: r) base = ((strtoul s base).1, (strtoul s base).2 ++ c :: r) := by
  have hr : ∀ b, (c :: r).head? = some b → b.toNat < 48 := by
    intro b hb
    rw [← Option.some.inj hb]
    exact hlow
  by_cases h : (scanNumber base s).digits = []
  · have hnone : (scanNumber base (s ++ c :: r)).digits = [] := by
      by_contra hne
      exact digits_append_stop hspace hplus hminus hlow r hne h
    rw [strtoul_of_no_digits h, strtoul_of_no_digits hnone]
  · have hscan := scanNumber_append h hr
    rw [strtoul_of_digits h, strtoul_of_digits (by rw [hscan]; exact h), hscan]
    rfl

theorem takeWhile_ne_nil_iff {p : UInt8 → Bool} :
    s.takeWhile p ≠ [] ↔ ∃ c tail, s = c :: tail ∧ p c = true := by
  cases s with
  | nil => simp
  | cons c s => by_cases hc : p c = true <;> simp [hc]

/-- Whatever is a number in a base that the text tells has digits in base 16 too. -/
theorem digits_ne_nil_sixteen (h : (scanNumber 0 s).digits ≠ []) :
    (scanNumber 16 s).digits ≠ [] := by
  unfold scanNumber at h ⊢
  dsimp only at h ⊢
  generalize (readSign (s.dropWhile isSpace)).2 = v at h ⊢
  by_cases hhex : hasHexPrefix v = true
  · have h0 : readPrefix 0 v = (16, v.drop 2) := if_pos ⟨.inr rfl, hhex⟩
    have h16 : readPrefix 16 v = (16, v.drop 2) := if_pos ⟨.inl rfl, hhex⟩
    rw [h0] at h
    rw [h16]
    exact h
  · have h16 : readPrefix 16 v = (16, v) := by
      rw [readPrefix, if_neg (by simp [hhex]), if_neg (by decide)]
    rw [h16, takeWhile_ne_nil_iff]
    unfold readPrefix at h
    rw [if_neg (by simp [hhex]), if_pos rfl, takeWhile_ne_nil_iff] at h
    obtain ⟨c, tail, hv, hc⟩ := h
    refine ⟨c, tail, hv, isDigit_mono ?_ hc⟩
    dsimp only
    split_ifs <;> decide

end Conversion

section Decimal

/-- The parts of a decimal number. -/
structure DecimalText where
  blanks : Bytes
  sign : Bytes
  negative : Bool
  digits : Bytes
  space : ∀ c ∈ blanks, isSpace c = true
  signText : SignText sign negative
  isNumeral : IsNumeral 10 digits

namespace DecimalText

variable (d : DecimalText)

def text : Bytes := d.blanks ++ (d.sign ++ d.digits)

/-- The value of 32 bits. -/
def Denotes (value : ℕ) : Prop :=
  if d.negative then numeral 10 d.digits + value = 0x100000000 else numeral 10 d.digits = value

theorem scan : scanNumber 10 d.text = ⟨d.negative, 10, d.digits, []⟩ := by
  have hparts : NumberParts 10 d.blanks d.sign [] ⟨d.negative, 10, d.digits, []⟩ :=
    ⟨d.space, d.signText, .given (by decide), d.isNumeral, nofun, fun _ h => by omega⟩
  have hscan := hparts.scan
  rwa [List.append_nil] at hscan

end DecimalText

/-- What is read to its end consists of such parts. -/
theorem exists_decimalText (hdigits : (scanNumber 10 s).digits ≠ [])
    (hrest : (scanNumber 10 s).rest = []) : ∃ d : DecimalText, d.text = s := by
  obtain ⟨blanks, sign, pre, hparts, hs⟩ := exists_numberParts hdigits
  obtain ⟨rfl, hbase⟩ : pre = [] ∧ (scanNumber 10 s).base = 10 := by
    have hpre := hparts.prefixText
    generalize (scanNumber 10 s).base = b at hpre
    cases hpre with
    | hex x hbase => omega
    | given => exact ⟨rfl, rfl⟩
    | octal hbase => omega
    | decimal hbase => omega
  rw [hrest, List.append_nil] at hs
  exact ⟨⟨blanks, sign, _, _, hparts.space, hparts.signText, hbase ▸ hparts.isNumeral⟩, hs.symm⟩

/-- A value between zero and the limit. -/
theorem NumberText.toNat_value_eq_iff (n : NumberText) {value : ℕ} (hpos : 0 < value)
    (hlimit : value < 0xffffffff) : n.value.toNat = value ↔
      if n.negative then n.magnitude + value = 0x100000000 else n.magnitude = value := by
  have hmax : (0xffffffff : UInt32).toNat = 4294967295 := rfl
  unfold NumberText.value
  split_ifs with hlarge hneg hneg
  · rw [hmax]
    omega
  · rw [hmax]
    omega
  · rw [UInt32.toNat_neg, UInt32.toNat_ofNat_of_lt' (Nat.not_le.mp hlarge)]
    simp only [UInt32.size]
    omega
  · rw [UInt32.toNat_ofNat_of_lt' (Nat.not_le.mp hlarge)]

theorem strtoul_decimal_iff {value : ℕ} (hpos : 0 < value) (hlimit : value < 0xffffffff) :
    (strtoul s 10).2 = [] ∧ (strtoul s 10).1.toNat = value ↔
      ∃ d : DecimalText, d.text = s ∧ d.Denotes value := by
  constructor
  · rintro ⟨hrest, hvalue⟩
    by_cases hdigits : (scanNumber 10 s).digits = []
    · rw [strtoul_of_no_digits hdigits] at hvalue
      exact absurd hvalue hpos.ne
    · rw [strtoul_of_digits hdigits] at hrest hvalue
      obtain ⟨d, rfl⟩ := exists_decimalText hdigits hrest
      rw [d.scan, NumberText.toNat_value_eq_iff _ hpos hlimit] at hvalue
      exact ⟨d, rfl, hvalue⟩
  · rintro ⟨d, rfl, hvalue⟩
    have hscan := d.scan
    rw [strtoul_of_digits (by rw [hscan]; exact d.isNumeral.1), hscan]
    exact ⟨rfl, (NumberText.toNat_value_eq_iff _ hpos hlimit).mpr hvalue⟩

end Decimal

end General
