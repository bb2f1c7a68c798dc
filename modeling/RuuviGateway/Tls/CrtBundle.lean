import Mathlib.Data.List.Sort
import RuuviGateway.General.BinarySearch
import RuuviGateway.General.FirstDifference

/-!
# The bundle of trusted certificates

A script packs the subjects and the public keys of the trusted certificates, sorted by subject. The
gateway finds the certificates in the bundle again, and looks up the issuer of an untrusted
certificate by binary search.
-/

namespace RuuviGateway.Tls

open General

section Generate

/-- What the bundle keeps of a certificate, both in DER format. -/
structure Certificate where
  subject : Bytes
  publicKey : Bytes
  deriving DecidableEq

/-- `struct.pack` of a number of two bytes. -/
def packH (n : ℕ) : Option Bytes :=
  if n < 65536 then some [UInt8.ofNat (n / 256), UInt8.ofNat (n % 256)] else none

def compressedCrt (crt : Certificate) : Option Bytes :=
  (packH crt.subject.length).bind fun nameLen =>
    (packH crt.publicKey.length).map fun keyLen =>
      nameLen ++ keyLen ++ crt.subject ++ crt.publicKey

def compressedCrts : List Certificate → Option Bytes
  | [] => some []
  | crt :: crts => (compressedCrt crt).bind fun first => (compressedCrts crts).map (first ++ ·)

def sortedBySubject (certificates : List Certificate) : List Certificate :=
  certificates.mergeSort fun a b => decide (numbers a.subject ≤ numbers b.subject)

/-- `create_bundle`; `none` if a length cannot be packed. -/
def createBundle (certificates : List Certificate) : Option Bytes :=
  (packH certificates.length).bind fun header =>
    (compressedCrts (sortedBySubject certificates)).map (header ++ ·)

end Generate

section Init

def bundleHeaderOffset : ℕ := 2

def crtHeaderOffset : ℕ := 4

def bundleMaxCerts : ℕ := 400

inductive BundleErr
  | invalidArg
  | noMem
  deriving DecidableEq, Repr

/-- `crt_bundle_t`: the positions of the certificates in the bundle. -/
structure CrtBundle where
  x509Bundle : Bytes
  crts : List ℕ
  numCerts : ℕ
  deriving DecidableEq

/-- The two bytes at the beginning as a number. -/
def uint16 (bs : Bytes) : ℕ := (bs.headD 0).toNat * 256 + (bs.tail.headD 0).toNat

/-- The positions of so many certificates from the current one on, and the end of the last one. -/
def readCrts (bundle : Bytes) : ℕ → ℕ → Option (List ℕ × ℕ)
  | 0, curCrt => some ([], curCrt)
  | n + 1, curCrt =>
      if bundle.length < curCrt + crtHeaderOffset then none
      else
        let nameLen := uint16 (bundle.drop curCrt)
        let keyLen := uint16 (bundle.drop (curCrt + 2))
        (readCrts bundle n (curCrt + crtHeaderOffset + nameLen + keyLen)).map fun r =>
          (curCrt :: r.1, r.2)

def espCrtBundleInit (bundle : Bytes) (allocated : Bool) : Except BundleErr CrtBundle :=
  if bundle.length < bundleHeaderOffset + crtHeaderOffset then .error .invalidArg
  else
    let numCerts := uint16 bundle
    if bundleMaxCerts < numCerts then .error .invalidArg
    else if !allocated then .error .noMem
    else
      match readCrts bundle numCerts bundleHeaderOffset with
      | none => .error .invalidArg
      | some (crts, curCrt) =>
          if bundle.length < curCrt then .error .invalidArg else .ok ⟨bundle, crts, numCerts⟩

/-- `esp_crt_bundle_attach` with the bundle of the binary, if no other one is set. -/
def espCrtBundleAttach (imported : Bytes) (allocated : Bool) :
    Option CrtBundle → Except BundleErr CrtBundle
  | some b => .ok b
  | none => espCrtBundleInit imported allocated

end Init

section Verify

/-- What the callback reads of a certificate: the name of the issuer, and what lies behind it. -/
structure Child where
  issuerRaw : Bytes
  behind : Bytes

def badcertNotTrusted : UInt32 := 0x8

def badcertBadMd : UInt32 := 0x4000

def x509FatalError : ℤ := -0x3000

variable (b : CrtBundle) (child : Child) (i : ℕ)

def CrtBundle.nameLen : ℕ := uint16 (b.x509Bundle.drop (b.crts.getD i 0))

def CrtBundle.keyLen : ℕ := uint16 (b.x509Bundle.drop (b.crts.getD i 0 + 2))

/-- The name of a certificate of the bundle, and what lies behind it. -/
def CrtBundle.crtName : Bytes := b.x509Bundle.drop (b.crts.getD i 0 + crtHeaderOffset)

def CrtBundle.pubKey : Bytes := ((b.crtName i).drop (b.nameLen i)).take (b.keyLen i)

/-- The comparison of the issuer with the name of a certificate of the bundle. -/
def compareIssuer : Ordering :=
  memcmp (b.nameLen i) (child.issuerRaw ++ child.behind) (b.crtName i)

/-- `esp_crt_verify_callback`, where `esp_crt_check_signature` returns these values for the keys. -/
def espCrtVerifyCallback (crtBundle : Option CrtBundle) (espCrtCheckSignature : Bytes → ℤ)
    (flags : UInt32) : ℤ × UInt32 :=
  if flags &&& ~~~badcertBadMd ≠ badcertNotTrusted then (0, flags)
  else
    match crtBundle with
    | none => (x509FatalError, flags)
    | some b =>
        match binarySearch (compareIssuer b child) (b.numCerts + 1) 0 (b.numCerts - 1) with
        | none => (x509FatalError, flags)
        | some middle =>
            if espCrtCheckSignature (b.pubKey middle) = 0 then (0, 0) else (x509FatalError, flags)

end Verify

section Names

/-- The length that the header of a value in DER format gives, with that of the header. -/
def derLength : Bytes → Option ℕ
  | _ :: first :: rest =>
      if first.toNat < 0x80 then some (2 + first.toNat)
      else if first.toNat = 0x81 then
        if rest.length < 1 then none else some (3 + (rest.headD 0).toNat)
      else if first.toNat = 0x82 then if rest.length < 2 then none else some (4 + uint16 rest)
      else none
  | _ => none

/-- A name is a sequence. -/
def IsDerName (bs : Bytes) : Prop := bs.head? = some 0x30 ∧ derLength bs = some bs.length

instance (bs : Bytes) : Decidable (IsDerName bs) :=
  inferInstanceAs (Decidable (bs.head? = some 0x30 ∧ derLength bs = some bs.length))

variable {a b : Bytes}

theorem uint16_append (h : 2 ≤ a.length) (rest : Bytes) : uint16 (a ++ rest) = uint16 a := by
  match a with
  | [] => simp at h
  | [_] => simp at h
  | _ :: _ :: _ => rfl

theorem derLength_append {n : ℕ} (h : derLength a = some n) (rest : Bytes) :
    derLength (a ++ rest) = some n := by
  match a with
  | [] => simp [derLength] at h
  | [_] => simp [derLength] at h
  | _ :: first :: more =>
    rw [derLength] at h
    rw [List.cons_append, List.cons_append, derLength]
    split_ifs at h with hshort hone hempty htwo hmore
    · rw [if_pos hshort, h]
    · have hlong : ¬(more ++ rest).length < 1 := by
        rw [List.length_append]
        omega
      have hhead : (more ++ rest).headD 0 = more.headD 0 := by
        cases more with
        | nil => simp at hempty
        | cons c more => rfl
      rw [if_neg hshort, if_pos hone, if_neg hlong, hhead, h]
    · have hlong : ¬(more ++ rest).length < 2 := by
        rw [List.length_append]
        omega
      rw [if_neg hshort, if_neg hone, if_pos htwo, if_neg hlong, uint16_append (by omega), h]

/-- No name is the beginning of another one. -/
theorem IsDerName.eq_of_begins (ha : IsDerName a) (hb : IsDerName b) (h : a <+: b) : a = b := by
  obtain ⟨rest, rfl⟩ := h
  have hlen := derLength_append ha.2 rest
  rw [hb.2, Option.some.injEq, List.length_append] at hlen
  have hrest : rest = [] := List.eq_nil_of_length_eq_zero (by omega)
  rw [hrest, List.append_nil]

end Names

section Packing

variable {bundle bytes : Bytes} {crts certificates : List Certificate} {crt : Certificate} {n : ℕ}

theorem packH_eq_some (h : packH n = some bytes) :
    n < 65536 ∧ bytes.length = 2 ∧ uint16 bytes = n := by
  rw [packH] at h
  split_ifs at h with hn
  obtain rfl := Option.some.inj h
  refine ⟨hn, rfl, ?_⟩
  simp only [uint16, List.headD_cons, List.tail_cons, UInt8.toNat_ofNat']
  omega

/-- A certificate stands at a position of the bundle. -/
structure StandsAt (bundle : Bytes) (crt : Certificate) (position : ℕ) : Prop where
  nameLen : uint16 (bundle.drop position) = crt.subject.length
  keyLen : uint16 (bundle.drop (position + 2)) = crt.publicKey.length
  data : crt.subject ++ crt.publicKey <+: bundle.drop (position + crtHeaderOffset)

theorem standsAt_compressedCrt (h : compressedCrt crt = some bytes) (before behind : Bytes) :
    StandsAt (before ++ (bytes ++ behind)) crt before.length ∧
      bytes.length = crtHeaderOffset + crt.subject.length + crt.publicKey.length := by
  simp only [compressedCrt, Option.bind_eq_some_iff, Option.map_eq_some_iff] at h
  obtain ⟨nameLen, hname, keyLen, hkey, rfl⟩ := h
  obtain ⟨-, hnameLen, hnameValue⟩ := packH_eq_some hname
  obtain ⟨-, hkeyLen, hkeyValue⟩ := packH_eq_some hkey
  refine ⟨⟨?_, ?_, ?_⟩, ?_⟩
  · rw [List.drop_left]
    simp only [List.append_assoc]
    rw [uint16_append (Nat.le_of_eq hnameLen.symm), hnameValue]
  · rw [← List.drop_drop, List.drop_left]
    simp only [List.append_assoc]
    rw [← hnameLen, List.drop_left, uint16_append (Nat.le_of_eq hkeyLen.symm), hkeyValue]
  · rw [← List.drop_drop, List.drop_left]
    have hheader : crtHeaderOffset = (nameLen ++ keyLen).length := by
      rw [List.length_append, hnameLen, hkeyLen, crtHeaderOffset]
    simp only [List.append_assoc]
    rw [← List.append_assoc nameLen, hheader, List.drop_left, ← List.append_assoc]
    exact List.prefix_append _ _
  · simp only [List.length_append, hnameLen, hkeyLen, crtHeaderOffset]

/-- The certificates that have been packed are found again, one after the other. -/
theorem readCrts_compressedCrts (h : compressedCrts crts = some bytes) (before : Bytes) :
    ∃ positions, readCrts (before ++ bytes) crts.length before.length =
        some (positions, (before ++ bytes).length) ∧
      List.Forall₂ (StandsAt (before ++ bytes)) crts positions := by
  induction crts generalizing before bytes with
  | nil =>
    obtain rfl := Option.some.inj h
    exact ⟨[], by rw [List.append_nil]; rfl, .nil⟩
  | cons crt crts ih =>
    simp only [compressedCrts, Option.bind_eq_some_iff, Option.map_eq_some_iff] at h
    obtain ⟨first, hfirst, more, hmore, rfl⟩ := h
    obtain ⟨hstands, hlen⟩ := standsAt_compressedCrt hfirst before more
    obtain ⟨positions, hread, hall⟩ := ih hmore (before ++ first)
    have hend : before.length + crtHeaderOffset + crt.subject.length + crt.publicKey.length =
        (before ++ first).length := by
      rw [List.length_append, hlen]
      omega
    rw [List.append_assoc] at hread hall
    refine ⟨before.length :: positions, ?_, .cons hstands hall⟩
    rw [List.length_cons, readCrts, if_neg, hstands.nameLen, hstands.keyLen]
    · dsimp only
      rw [hend, hread]
      rfl
    · simp only [List.length_append, hlen]
      omega

/-- The bundle of a script is accepted, with the certificates sorted by subject. -/
theorem espCrtBundleInit_createBundle (h : createBundle certificates = some bundle)
    (hne : certificates ≠ []) (hmax : certificates.length ≤ bundleMaxCerts) :
    ∃ positions, espCrtBundleInit bundle true = .ok ⟨bundle, positions, certificates.length⟩ ∧
      List.Forall₂ (StandsAt bundle) (sortedBySubject certificates) positions := by
  simp only [createBundle, Option.bind_eq_some_iff, Option.map_eq_some_iff] at h
  obtain ⟨header, hheader, more, hmore, rfl⟩ := h
  obtain ⟨-, hheaderLen, hvalue⟩ := packH_eq_some hheader
  obtain ⟨positions, hread, hall⟩ := readCrts_compressedCrts hmore header
  have hsorted : (sortedBySubject certificates).length = certificates.length :=
    List.length_mergeSort _
  have hlen : bundleHeaderOffset + crtHeaderOffset ≤ (header ++ more).length := by
    cases hcrts : sortedBySubject certificates with
    | nil =>
      rw [hcrts] at hsorted
      exact absurd (List.eq_nil_of_length_eq_zero hsorted.symm) hne
    | cons crt crts =>
      rw [hcrts] at hmore
      simp only [compressedCrts, Option.bind_eq_some_iff, Option.map_eq_some_iff] at hmore
      obtain ⟨first, hfirst, rest, -, rfl⟩ := hmore
      have hfirstLen := (standsAt_compressedCrt hfirst [] []).2
      simp only [List.length_append, hheaderLen, hfirstLen, bundleHeaderOffset]
      omega
  have hnum : uint16 (header ++ more) = certificates.length := by
    rw [uint16_append (Nat.le_of_eq hheaderLen.symm), hvalue]
  have hoffset : bundleHeaderOffset = header.length := hheaderLen.symm
  refine ⟨positions, ?_, hall⟩
  rw [hsorted] at hread
  rw [espCrtBundleInit, if_neg (Nat.not_lt.mpr hlen), hnum, if_neg (Nat.not_lt.mpr hmax), hoffset,
    hread]
  simp

end Packing

section Lookup

variable {b : CrtBundle} {child : Child} {crts certificates : List Certificate} {i : ℕ}

/-- The certificates of a bundle in its order, with names of which none is the beginning of another
one. -/
structure CrtBundle.Holds (b : CrtBundle) (crts : List Certificate) : Prop where
  numCerts : b.numCerts = crts.length
  stands : ∀ i (hi : i < crts.length), StandsAt b.x509Bundle crts[i] (b.crts.getD i 0)
  names : ∀ crt ∈ crts, IsDerName crt.subject
  ascending : crts.Pairwise fun a b => numbers a.subject < numbers b.subject

theorem pubKey_eq (h : b.Holds crts) (hi : i < crts.length) :
    b.pubKey i = crts[i].publicKey := by
  obtain ⟨hname, hkey, rest, hdata⟩ := h.stands i hi
  rw [CrtBundle.pubKey, CrtBundle.nameLen, CrtBundle.keyLen, CrtBundle.crtName, hname, hkey,
    ← hdata, List.append_assoc, List.drop_left, List.take_left]

theorem compareIssuer_eq (h : b.Holds crts) (hissuer : IsDerName child.issuerRaw)
    (hi : i < crts.length) :
    (compareIssuer b child i = .lt ↔ numbers child.issuerRaw < numbers crts[i].subject) ∧
      (compareIssuer b child i = .eq ↔ child.issuerRaw = crts[i].subject) := by
  obtain ⟨hname, -, rest, hdata⟩ := h.stands i hi
  have hder := h.names crts[i] (List.getElem_mem hi)
  rw [compareIssuer, CrtBundle.nameLen, CrtBundle.crtName, hname, ← hdata, List.append_assoc]
  by_cases heq : child.issuerRaw = crts[i].subject
  · rw [heq, memcmp_append_self]
    simp
  · obtain ⟨hlt, hne⟩ := memcmp_append (fun hp => heq (hissuer.eq_of_begins hder hp))
      (fun hp => heq (hder.eq_of_begins hissuer hp).symm) child.behind
      (crts[i].publicKey ++ rest)
    exact ⟨hlt, iff_of_false hne heq⟩

theorem compareIssuer_gt (h : b.Holds crts) (hissuer : IsDerName child.issuerRaw)
    (hi : i < crts.length) :
    compareIssuer b child i = .gt ↔ numbers crts[i].subject < numbers child.issuerRaw := by
  obtain ⟨hlt, heq⟩ := compareIssuer_eq h hissuer hi
  rw [← numbers_inj] at heq
  rcases lt_trichotomy (numbers child.issuerRaw) (numbers crts[i].subject) with
    hless | hsame | hmore
  · rw [hlt.mpr hless]
    exact iff_of_false (by simp) (lt_asymm hless)
  · rw [heq.mpr hsame, hsame]
    exact iff_of_false (by simp) (lt_irrefl _)
  · refine iff_of_true ?_ hmore
    cases hcompare : compareIssuer b child i with
    | gt => rfl
    | lt => exact absurd (hlt.mp hcompare) (lt_asymm hmore)
    | eq => exact absurd (heq.mp hcompare) (ne_of_gt hmore)

theorem ordered_compareIssuer (h : b.Holds crts) (hissuer : IsDerName child.issuerRaw) :
    Ordered crts.length (compareIssuer b child) := by
  intro i j hij hj
  have hi : i < crts.length := Nat.lt_trans hij hj
  have hless : numbers crts[i].subject < numbers crts[j].subject :=
    List.pairwise_iff_getElem.mp h.ascending i j hi hj hij
  rw [(compareIssuer_eq h hissuer hi).1, (compareIssuer_eq h hissuer hj).1,
    compareIssuer_gt h hissuer hi, compareIssuer_gt h hissuer hj]
  exact ⟨fun hlt => lt_trans hlt hless, fun hgt => lt_trans hless hgt⟩

/-- The search finds the certificate of the issuer, if the bundle has it. -/
theorem search_spec (h : b.Holds crts) (hissuer : IsDerName child.issuerRaw) :
    (∃ i, ∃ hi : i < crts.length, crts[i].subject = child.issuerRaw ∧
        binarySearch (compareIssuer b child) (b.numCerts + 1) 0 (b.numCerts - 1) = some i) ∨
      child.issuerRaw ∉ crts.map Certificate.subject ∧
        binarySearch (compareIssuer b child) (b.numCerts + 1) 0 (b.numCerts - 1) = none := by
  rw [h.numCerts]
  cases hsearch : binarySearch (compareIssuer b child) (crts.length + 1) 0 (crts.length - 1) with
  | some i =>
    obtain ⟨-, hto, heq⟩ := binarySearch_eq_some (by omega) hsearch
    have hi : i < crts.length := by omega
    exact .inl ⟨i, hi, ((compareIssuer_eq h hissuer hi).2.mp heq).symm, rfl⟩
  | none =>
    refine .inr ⟨fun hmem => ?_, rfl⟩
    obtain ⟨crt, hcrt, hsubject⟩ := List.mem_map.mp hmem
    obtain ⟨i, hi, rfl⟩ := List.getElem_of_mem hcrt
    have hsome : (binarySearch (compareIssuer b child) (crts.length + 1) 0
        (crts.length - 1)).isSome = true :=
      binarySearch_isSome (ordered_compareIssuer h hissuer)
        ((compareIssuer_eq h hissuer hi).2.mpr hsubject.symm) (by omega) (by omega) (by omega)
        (by omega) (by omega)
    rw [hsearch] at hsome
    exact Bool.false_ne_true hsome

/-- A subject stands in the bundle once. -/
theorem CrtBundle.Holds.eq_of_subject {j : ℕ} (h : b.Holds crts) (hi : i < crts.length)
    (hj : j < crts.length) (hsubject : crts[i].subject = crts[j].subject) : i = j := by
  have hascending := List.pairwise_iff_getElem.mp h.ascending
  rcases Nat.lt_trichotomy i j with hlt | hsame | hgt
  · have hless := hascending i j hi hj hlt
    rw [hsubject] at hless
    exact absurd hless (lt_irrefl _)
  · exact hsame
  · have hless := hascending j i hj hi hgt
    rw [hsubject] at hless
    exact absurd hless (lt_irrefl _)

/-- What the callback should do with a bundle of these certificates. -/
def trusts (certificates : List Certificate) (espCrtCheckSignature : Bytes → ℤ) (child : Child) :
    Bool :=
  certificates.any fun crt =>
    crt.subject = child.issuerRaw ∧ espCrtCheckSignature crt.publicKey = 0

theorem espCrtVerifyCallback_eq (h : b.Holds crts) (hissuer : IsDerName child.issuerRaw)
    (espCrtCheckSignature : Bytes → ℤ) (flags : UInt32) :
    espCrtVerifyCallback child (some b) espCrtCheckSignature flags =
      if flags &&& ~~~badcertBadMd ≠ badcertNotTrusted then (0, flags)
      else if trusts crts espCrtCheckSignature child then (0, 0) else (x509FatalError, flags) := by
  rw [espCrtVerifyCallback]
  split_ifs with hflags htrusts
  · rfl
  · rw [trusts, List.any_eq_true] at htrusts
    obtain ⟨crt, hcrt, hboth⟩ := htrusts
    obtain ⟨hsubject, hverified⟩ := of_decide_eq_true hboth
    rcases search_spec h hissuer with ⟨i, hi, hfound, hsearch⟩ | ⟨hmissing, -⟩
    · obtain ⟨j, hj, rfl⟩ := List.getElem_of_mem hcrt
      obtain rfl := h.eq_of_subject hi hj (hfound.trans hsubject.symm)
      rw [hsearch]
      dsimp only
      rw [pubKey_eq h hi, if_pos hverified]
    · exact absurd (List.mem_map.mpr ⟨crt, hcrt, hsubject⟩) hmissing
  · rcases search_spec h hissuer with ⟨i, hi, hfound, hsearch⟩ | ⟨-, hsearch⟩
    · rw [hsearch]
      dsimp only
      rw [pubKey_eq h hi, if_neg]
      intro hverified
      exact htrusts (List.any_eq_true.mpr
        ⟨crts[i], List.getElem_mem hi, decide_eq_true ⟨hfound, hverified⟩⟩)
    · rw [hsearch]

end Lookup

section Bundle

variable {certificates : List Certificate} {bundle : Bytes} {child : Child}

theorem ascending_sortedBySubject (hdistinct : (certificates.map Certificate.subject).Nodup) :
    (sortedBySubject certificates).Pairwise fun a b => numbers a.subject < numbers b.subject := by
  have htotal : ∀ a b : Certificate, (decide (numbers a.subject ≤ numbers b.subject) ||
      decide (numbers b.subject ≤ numbers a.subject)) = true := by
    intro a b
    simpa using le_total (numbers a.subject) (numbers b.subject)
  have hle : (sortedBySubject certificates).Pairwise fun a b =>
      decide (numbers a.subject ≤ numbers b.subject) = true := by
    refine List.pairwise_mergeSort (fun a b c hab hbc => ?_) htotal certificates
    exact decide_eq_true (le_trans (of_decide_eq_true hab) (of_decide_eq_true hbc))
  have hne : (sortedBySubject certificates).Pairwise fun a b => a.subject ≠ b.subject := by
    have hperm : ((sortedBySubject certificates).map Certificate.subject).Nodup :=
      ((List.mergeSort_perm _ _).map _).nodup_iff.mpr hdistinct
    exact List.pairwise_map.mp hperm
  refine (hle.and hne).imp fun h => lt_of_le_of_ne (of_decide_eq_true h.1) fun heq => h.2 ?_
  exact numbers_inj.mp heq

/-- Of a bundle that the script has made of certificates with different subjects, the gateway trusts
exactly what one of them has signed. -/
theorem crtBundle_trusts (hcreate : createBundle certificates = some bundle)
    (hne : certificates ≠ []) (hmax : certificates.length ≤ bundleMaxCerts)
    (hnames : ∀ crt ∈ certificates, IsDerName crt.subject)
    (hdistinct : (certificates.map Certificate.subject).Nodup)
    (hissuer : IsDerName child.issuerRaw) (espCrtCheckSignature : Bytes → ℤ) (flags : UInt32) :
    ∃ b, espCrtBundleAttach bundle true none = .ok b ∧
      espCrtVerifyCallback child (some b) espCrtCheckSignature flags =
        if flags &&& ~~~badcertBadMd ≠ badcertNotTrusted then (0, flags)
        else if trusts certificates espCrtCheckSignature child then (0, 0)
        else (x509FatalError, flags) := by
  obtain ⟨positions, hinit, hall⟩ := espCrtBundleInit_createBundle hcreate hne hmax
  have hperm : (sortedBySubject certificates).Perm certificates := List.mergeSort_perm _ _
  have hholds : CrtBundle.Holds ⟨bundle, positions, certificates.length⟩
      (sortedBySubject certificates) := by
    refine ⟨(List.length_mergeSort _).symm, fun i hi => ?_, fun crt hcrt => ?_,
      ascending_sortedBySubject hdistinct⟩
    · have hi' : i < positions.length := hall.length_eq ▸ hi
      rw [List.getD_eq_getElem?_getD, List.getElem?_eq_getElem hi']
      exact (List.forall₂_iff_get.mp hall).2 i hi hi'
    · exact hnames crt (hperm.mem_iff.mp hcrt)
  refine ⟨_, hinit, ?_⟩
  rw [espCrtVerifyCallback_eq hholds hissuer]
  have hsame : trusts (sortedBySubject certificates) espCrtCheckSignature child =
      trusts certificates espCrtCheckSignature child := hperm.any_eq
  rw [hsame]

section Sample

/-- Three authorities, sorted by their names. -/
def sampleCertificates : List Certificate :=
  [⟨[0x30, 1, 5], [11]⟩, ⟨[0x30, 1, 7], [12, 12]⟩, ⟨[0x30, 2, 3, 4], [13]⟩]

theorem createBundle_sample : createBundle sampleCertificates =
    some [0, 3, 0, 3, 0, 1, 0x30, 1, 5, 11, 0, 3, 0, 2, 0x30, 1, 7, 12, 12,
      0, 4, 0, 1, 0x30, 2, 3, 4, 13] := by
  have hsorted : sortedBySubject sampleCertificates = sampleCertificates :=
    List.mergeSort_of_pairwise (by decide)
  rw [createBundle, hsorted]
  decide

/-- A certificate that the third one has signed is trusted. -/
theorem crtBundle_trusts_sample : ∃ bundle b, createBundle sampleCertificates = some bundle ∧
    espCrtBundleAttach bundle true none = .ok b ∧
    espCrtVerifyCallback ⟨[0x30, 2, 3, 4], [1, 2]⟩ (some b)
      (fun key => if key = [13] then 0 else -1) 8 = (0, 0) := by
  obtain ⟨b, hattach, hverify⟩ := crtBundle_trusts createBundle_sample (by decide) (by decide)
    (by decide) (by decide) (show IsDerName (Child.issuerRaw ⟨[0x30, 2, 3, 4], [1, 2]⟩) by decide)
    (fun key => if key = [13] then 0 else -1) 8
  exact ⟨_, b, createBundle_sample, hattach, hverify.trans (by decide)⟩

end Sample

end Bundle

section Inside

variable {b : CrtBundle} {bundle : Bytes} {positions : List ℕ} {n curCrt last i : ℕ}

theorem readCrts_inside (h : readCrts bundle n curCrt = some (positions, last)) :
    positions.length = n ∧ curCrt ≤ last ∧
      ∀ p ∈ positions, p + crtHeaderOffset ≤ bundle.length ∧
        p + crtHeaderOffset + uint16 (bundle.drop p) + uint16 (bundle.drop (p + 2)) ≤ last := by
  induction n generalizing curCrt positions with
  | zero =>
    obtain ⟨rfl, rfl⟩ := Prod.mk.inj (Option.some.inj h)
    exact ⟨rfl, Nat.le_refl _, by simp⟩
  | succ n ih =>
    rw [readCrts] at h
    split_ifs at h with hshort
    simp only [Option.map_eq_some_iff, Prod.mk.injEq] at h
    obtain ⟨⟨more, last'⟩, hread, rfl, rfl⟩ := h
    obtain ⟨hlen, hle, hall⟩ := ih hread
    refine ⟨by rw [List.length_cons, hlen], by omega, fun p hp => ?_⟩
    rcases List.mem_cons.mp hp with rfl | hp
    · exact ⟨Nat.le_of_not_lt hshort, hle⟩
    · exact hall p hp

/-- Whatever the bytes of an accepted bundle are, its names and keys lie in it. -/
theorem crtBundle_inside {allocated : Bool} (h : espCrtBundleInit bundle allocated = .ok b)
    (hi : i < b.numCerts) :
    b.crts.getD i 0 + crtHeaderOffset + b.nameLen i + b.keyLen i ≤ bundle.length := by
  simp only [espCrtBundleInit] at h
  cases hread : readCrts bundle (uint16 bundle) bundleHeaderOffset with
  | none =>
    rw [hread] at h
    split_ifs at h
  | some r =>
    obtain ⟨positions, last⟩ := r
    rw [hread] at h
    dsimp only at h
    split_ifs at h with hsize hmax hmem hlast
    obtain rfl := Except.ok.inj h
    obtain ⟨hlen, -, hall⟩ := readCrts_inside hread
    have hi' : i < positions.length := by
      rw [hlen]
      exact hi
    have hposition : positions.getD i 0 = positions[i] := by
      rw [List.getD_eq_getElem?_getD, List.getElem?_eq_getElem hi', Option.getD_some]
    have hinside := (hall positions[i] (List.getElem_mem hi')).2
    simp only [CrtBundle.nameLen, CrtBundle.keyLen, hposition]
    omega

/-- One certificate, with a byte behind it. -/
def sampleBundle : Bytes := [0, 1, 0, 1, 0, 2, 7, 8, 9, 10]

theorem crtBundle_inside_sample : ∃ b, espCrtBundleInit sampleBundle true = .ok b ∧
    b.crts.getD 0 0 + crtHeaderOffset + b.nameLen 0 + b.keyLen 0 ≤ sampleBundle.length := by
  have hread : readCrts sampleBundle (uint16 sampleBundle) bundleHeaderOffset = some ([2], 9) := by
    decide
  have hinit : espCrtBundleInit sampleBundle true = .ok ⟨sampleBundle, [2], 1⟩ := by
    simp only [espCrtBundleInit, hread]
    rw [if_neg (by decide), if_neg (by decide), if_neg (by decide), if_neg (by decide)]
    rfl
  exact ⟨_, hinit, crtBundle_inside hinit (by decide)⟩

end Inside

end RuuviGateway.Tls
