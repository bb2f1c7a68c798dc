import RuuviGateway.FwUpdate.Tasks
import RuuviGateway.Relaying.GiveBack

/-!
# The base URL of one update

A request copies its URL into a buffer of fixed size, removes the slash at its end and checks what
is in the buffer. An automatic check prints the URL of the release into the same buffer and checks
the URL itself. Both write the buffer before they know whether an update will be started.
-/

namespace RuuviGateway.FwUpdate

open Config General Http Relaying

section Model

def slash : UInt8 := 0x2f

/-- `len - 1` as a `size_t`. -/
def indexOfLast (len : ℕ) : ℕ := (len + 0xffffffff) % 0x100000000

/-- The bytes of a buffer that a text and its NUL take. -/
def textBytes (len : ℕ) : List ℕ := List.range (len + 1)

/-- What one request or one automatic check does with its URL: the indices at which it accesses the
buffer, the URL that it checks, whether it starts an update, and the buffer that the update reads.
-/
structure UrlHandling where
  accesses : List ℕ
  checked : Option Bytes
  started : Bool
  cfg : FwUpdateConfig

def UrlHandling.refused (accesses : List ℕ) (cfg : FwUpdateConfig) : UrlHandling :=
  ⟨accesses, none, false, cfg⟩

/-- The three files are there. -/
def FilesFound (files : String → CheckFileOutcome) (url : Bytes) : Prop :=
  (httpServerCheckFwUpdateBinaryFiles url files).result.map Prod.fst = some 200

instance (files : String → CheckFileOutcome) (url : Bytes) : Decidable (FilesFound files url) :=
  inferInstanceAs (Decidable (_ = _))

/-- `fw_update_run` follows a check that finds the files. -/
def UrlHandling.check (accesses : List ℕ) (url : Bytes) (files : String → CheckFileOutcome)
    (taskCreated : Bool) (cfg : FwUpdateConfig) : UrlHandling :=
  ⟨accesses, some url, decide (FilesFound files url) && taskCreated, cfg⟩

/-- The accesses of `json_fw_update_parse`: the copy, `strlen`, and the last character. -/
def jsonFwUpdateParseAccesses (root : Json) : List ℕ :=
  (@jsonWrapCopyStringVal _ fwUpdateUrlMaxLen_neZero root "url").elim [] fun url =>
    textBytes url.val.length ++ [indexOfLast url.val.length]

/-- `http_server_cb_on_post_fw_update`, as far as the URL is concerned. -/
def postFwUpdateUrl (body : Option Json) (files : String → CheckFileOutcome) (taskCreated : Bool)
    (cfg : FwUpdateConfig) : UrlHandling :=
  let accesses := body.elim [] jsonFwUpdateParseAccesses
  let r := jsonFwUpdateParseHttpBody body cfg
  if !r.1 then .refused accesses r.2
  else if !fwUpdateBinariesIsUrlValid r.2 then .refused accesses r.2
  else .check accesses r.2.binariesUrl.val files taskCreated r.2

/-- `http_server_cb_on_user_req_download_latest_release_info` from the release info on, which is
`none` if it could not be downloaded or is not JSON. -/
def downloadLatestReleaseInfoUrl (info : Option Json) (esp32FwVer : Bytes)
    (cycle : AutoUpdateCycleType) (files : String → CheckFileOutcome) (taskCreated : Bool)
    (cfg : FwUpdateConfig) : UrlHandling :=
  match info.bind fun root => updateUrl root esp32FwVer cycle with
  | none => .refused [] cfg
  | some url =>
    let cfg := fwUpdateSetBinariesUrl url
    .check (textBytes cfg.binariesUrl.val.length) url files taskCreated cfg

/-- Where a URL comes from. -/
inductive UrlSource
  | post (body : Option Json)
  | autoCheck (info : Option Json) (esp32FwVer : Bytes) (cycle : AutoUpdateCycleType)

def UrlSource.handle (files : String → CheckFileOutcome) (taskCreated : Bool)
    (cfg : FwUpdateConfig) : UrlSource → UrlHandling
  | .post body => postFwUpdateUrl body files taskCreated cfg
  | .autoCheck info esp32FwVer cycle =>
    downloadLatestReleaseInfoUrl info esp32FwVer cycle files taskCreated cfg

def UrlSource.given : UrlSource → Option Bytes
  | .post body => body.bind fun root => jsonWrapGetStringVal root "url"
  | .autoCheck info esp32FwVer cycle => info.bind fun root => updateUrl root esp32FwVer cycle

/-- The two texts are the same but for one slash at the end of the first. -/
def UpToSlash (url base : Bytes) : Prop := url = base ∨ url = base ++ [slash]

/-- The URL was handled inside the buffer. An update that was started downloads from the URL that
was given and from the one that was checked; without an update the buffer is as it was. -/
structure UrlHandling.Faithful (h : UrlHandling) (given : Option Bytes) (cfg : FwUpdateConfig) :
    Prop where
  inside : ∀ i ∈ h.accesses, i < fwUpdateUrlMaxLen + 1
  given : h.started = true → ∃ url, given = some url ∧ UpToSlash url h.cfg.binariesUrl.val
  checked : h.started = true → ∃ url, h.checked = some url ∧ UpToSlash url h.cfg.binariesUrl.val
  kept : h.started = false → h.cfg = cfg

instance (url base : Bytes) : Decidable (UpToSlash url base) :=
  inferInstanceAs (Decidable (_ ∨ _))

def withoutSlash (url : Bytes) : Bytes := if url.getLast? = some slash then url.dropLast else url

/-- What the buffer has room for. -/
def UrlSource.stored (url : Bytes) : UrlSource → Bytes
  | .post _ => withoutSlash (url.take fwUpdateUrlMaxLen)
  | .autoCheck _ _ _ => url.take fwUpdateUrlMaxLen

def UrlSource.toCheck (url : Bytes) : UrlSource → Bytes
  | .post body => (post body).stored url
  | .autoCheck _ _ _ => url

/-- The URL is valid, its files are there, and the task can be created. A request looks at what is
stored of the URL, an automatic check at the URL. -/
def UrlSource.Starts (files : String → CheckFileOutcome) (taskCreated : Bool) (url : Bytes) :
    UrlSource → Prop
  | .post body => httpDownloadIsUrlValid ((post body).stored url) = true ∧
      FilesFound files ((post body).stored url) ∧ taskCreated = true
  | .autoCheck _ _ _ => FilesFound files url ∧ taskCreated = true

/-- The URL has 128 characters at most, not counting a slash at its end; a request takes only one
slash away. -/
def UrlSource.Fits (url : Bytes) : UrlSource → Prop
  | .post _ => url.length ≤ fwUpdateUrlMaxLen ∨ ∃ base : Bytes,
      base.length = fwUpdateUrlMaxLen ∧ base.getLast? ≠ some slash ∧ url = base ++ [slash]
  | .autoCheck _ _ _ => url.length ≤ fwUpdateUrlMaxLen ∨ ∃ base : Bytes,
      base.length = fwUpdateUrlMaxLen ∧ url = base ++ [slash]

/-- The URL is not empty. If an update is started it fits, and if none is started the buffer holds
it already. -/
structure UrlSource.Suits (source : UrlSource) (files : String → CheckFileOutcome)
    (taskCreated : Bool) (cfg : FwUpdateConfig) (url : Bytes) : Prop where
  nonempty : url ≠ []
  fits : source.Starts files taskCreated url → source.Fits url
  same : ¬source.Starts files taskCreated url → cfg.binariesUrl.val = source.stored url

end Model

section Slash

theorem eq_append_slash {url : Bytes} (h : url.getLast? = some slash) :
    url = url.dropLast ++ [slash] := by
  obtain ⟨init, rfl⟩ := List.getLast?_eq_some_iff.mp h
  simp

theorem upToSlash_withoutSlash (url : Bytes) : UpToSlash url (withoutSlash url) := by
  unfold withoutSlash
  split_ifs with h
  · exact .inr (eq_append_slash h)
  · exact .inl rfl

/-- A URL that is longer than its first `n` characters by a slash. -/
theorem eq_take_append_slash {url : Bytes} {n : ℕ} (h : url = url.take n ++ [slash]) :
    (url.take n).length = n := by
  have hlength := congrArg List.length h
  rw [List.length_append, List.length_take, List.length_singleton] at hlength
  rw [List.length_take]
  omega

theorem upToSlash_take_iff {url : Bytes} {n : ℕ} :
    UpToSlash url (url.take n) ↔
      url.length ≤ n ∨ ∃ base : Bytes, base.length = n ∧ url = base ++ [slash] := by
  constructor
  · rintro (h | h)
    · left
      rw [h, List.length_take]
      exact min_le_left _ _
    · exact .inr ⟨url.take n, eq_take_append_slash h, h⟩
  · rintro (h | ⟨base, rfl, rfl⟩)
    · exact .inl (List.take_of_length_le h).symm
    · right
      rw [List.take_left]

theorem upToSlash_withoutSlash_take_iff {url : Bytes} {n : ℕ} :
    UpToSlash url (withoutSlash (url.take n)) ↔ url.length ≤ n ∨
      ∃ base : Bytes, base.length = n ∧ base.getLast? ≠ some slash ∧ url = base ++ [slash] := by
  constructor
  · intro h
    by_cases hlast : (url.take n).getLast? = some slash
    · -- the buffer has lost a slash, so that the URL has none besides
      left
      have hshort : (withoutSlash (url.take n)).length + 1 = (url.take n).length := by
        rw [withoutSlash, if_pos hlast, List.length_dropLast]
        have hpos : url.take n ≠ [] := by
          rintro hnil
          rw [hnil] at hlast
          exact absurd hlast nofun
        have hlength := List.length_pos_iff.mpr hpos
        omega
      have hle := List.length_take_le n url
      rcases h with h | h
      · have hlength := congrArg List.length h
        omega
      · have hlength := congrArg List.length h
        rw [List.length_append, List.length_singleton] at hlength
        omega
    · rw [withoutSlash, if_neg hlast] at h
      rcases upToSlash_take_iff.mp h with hle | ⟨base, hlen, hurl⟩
      · exact .inl hle
      · refine .inr ⟨base, hlen, ?_, hurl⟩
        rwa [hurl, ← hlen, List.take_left] at hlast
  · rintro (h | ⟨base, rfl, hlast, rfl⟩)
    · rw [List.take_of_length_le h]
      exact upToSlash_withoutSlash url
    · rw [List.take_left, withoutSlash, if_neg hlast]
      exact .inr rfl

/-- The last character of a text that fits is in the buffer unless the text is empty. -/
theorem indexOfLast_lt_iff {len : ℕ} (hlen : len < fwUpdateUrlMaxLen + 1) :
    indexOfLast len < fwUpdateUrlMaxLen + 1 ↔ len ≠ 0 := by
  rcases Nat.eq_zero_or_pos len with rfl | hpos
  · decide
  · have hmax : len < 0x100000000 := hlen.trans (by decide)
    have hindex : indexOfLast len = len - 1 := by
      unfold indexOfLast
      omega
    rw [hindex]
    omega

theorem textBytes_inside {url : Bytes} {n : ℕ} (h : url.length < n) :
    ∀ i ∈ textBytes url.length, i < n := by
  intro i hi
  have hle := List.mem_range.mp hi
  omega

end Slash

section Handling

variable {files : String → CheckFileOutcome} {taskCreated : Bool} {cfg : FwUpdateConfig}
  {url : Bytes}

theorem val_fwUpdateSetBinariesUrl (hnul : 0 ∉ url) :
    (fwUpdateSetBinariesUrl url).binariesUrl.val = url.take fwUpdateUrlMaxLen := by
  have htext := cstr_of_noNul hnul
  exact congrArg (List.take fwUpdateUrlMaxLen) htext

theorem jsonWrapCopyStringVal_of_some {root : Json}
    (h : jsonWrapGetStringVal root "url" = some url) :
    ∃ copy : CStr (fwUpdateUrlMaxLen + 1), copy.val = url.take fwUpdateUrlMaxLen ∧
      jsonWrapCopyStringVal (fwUpdateUrlMaxLen + 1) root "url" = some copy := by
  refine ⟨(fwUpdateSetBinariesUrl url).binariesUrl, ?_, ?_⟩
  · exact val_fwUpdateSetBinariesUrl (noNul_getStringVal h)
  · unfold jsonWrapCopyStringVal
    rw [h]
    rfl

/-- What `json_fw_update_parse` makes of a URL. -/
theorem jsonFwUpdateParse_of_some {root : Json} (cfg : FwUpdateConfig)
    (h : jsonWrapGetStringVal root "url" = some url) :
    ∃ cfg' : FwUpdateConfig, jsonFwUpdateParse root cfg = (true, cfg') ∧
      cfg'.binariesUrl.val = withoutSlash (url.take fwUpdateUrlMaxLen) ∧
      jsonFwUpdateParseAccesses root = textBytes (url.take fwUpdateUrlMaxLen).length ++
        [indexOfLast (url.take fwUpdateUrlMaxLen).length] := by
  obtain ⟨copy, hval, hcopy⟩ := jsonWrapCopyStringVal_of_some h
  refine ⟨⟨if copy.val.getLast? = some slash then dropLastChar copy else copy⟩, ?_, ?_, ?_⟩
  · unfold jsonFwUpdateParse
    rw [hcopy]
    rfl
  · rw [withoutSlash, ← hval]
    split_ifs
    · rfl
    · rfl
  · unfold jsonFwUpdateParseAccesses
    rw [hcopy, Option.elim_some, hval]

/-- Without a URL nothing happens. -/
theorem handle_of_none {source : UrlSource} (h : source.given = none) :
    source.handle files taskCreated cfg = .refused [] cfg := by
  cases source with
  | post body =>
    cases body with
    | none => rfl
    | some root =>
      have hcopy : jsonWrapCopyStringVal (fwUpdateUrlMaxLen + 1) root "url" = none := by
        unfold jsonWrapCopyStringVal
        rw [show jsonWrapGetStringVal root "url" = none from h]
        rfl
      simp [UrlSource.handle, postFwUpdateUrl, jsonFwUpdateParseHttpBody, jsonFwUpdateParse,
        jsonFwUpdateParseAccesses, hcopy]
  | autoCheck info esp32FwVer cycle =>
    dsimp only [UrlSource.handle, downloadLatestReleaseInfoUrl]
    rw [show (info.bind fun root => updateUrl root esp32FwVer cycle) = none from h]

/-- The URL of a request as it is copied, or of a release as it is printed, with what is accessed
for it. -/
structure Handled (source : UrlSource) (files : String → CheckFileOutcome) (taskCreated : Bool)
    (url : Bytes) (h : UrlHandling) : Prop where
  inside : (∀ i ∈ h.accesses, i < fwUpdateUrlMaxLen + 1) ↔ url ≠ []
  started : h.started = true ↔ source.Starts files taskCreated url
  stored : h.cfg.binariesUrl.val = source.stored url
  checked : h.started = true → h.checked = some (source.toCheck url)

theorem handled_post {root : Json} (h : jsonWrapGetStringVal root "url" = some url) :
    Handled (.post (some root)) files taskCreated url
      (postFwUpdateUrl (some root) files taskCreated cfg) := by
  obtain ⟨cfg', hparse, hval, haccesses⟩ := jsonFwUpdateParse_of_some cfg h
  have htake : (url.take fwUpdateUrlMaxLen).length < fwUpdateUrlMaxLen + 1 :=
    Nat.lt_succ_of_le (List.length_take_le _ _)
  have hinside : (∀ i ∈ jsonFwUpdateParseAccesses root, i < fwUpdateUrlMaxLen + 1) ↔ url ≠ [] := by
    rw [haccesses, List.forall_mem_append, List.forall_mem_singleton, indexOfLast_lt_iff htake]
    have hempty : (url.take fwUpdateUrlMaxLen).length ≠ 0 ↔ url ≠ [] := by
      rw [ne_eq, List.length_eq_zero_iff, List.take_eq_nil_iff]
      simp
    rw [hempty]
    exact and_iff_right (textBytes_inside htake)
  unfold postFwUpdateUrl
  dsimp only [jsonFwUpdateParseHttpBody, Option.elim]
  rw [hparse]
  dsimp only
  by_cases hvalid : fwUpdateBinariesIsUrlValid cfg' = true
  · have hurl : httpDownloadIsUrlValid ((UrlSource.post (some root)).stored url) = true := by
      rw [UrlSource.stored, ← hval]
      exact hvalid
    rw [hvalid]
    refine ⟨hinside, ?_, hval, fun _ => congrArg some hval⟩
    simp only [Bool.not_true, Bool.false_eq_true, if_false, UrlHandling.check, UrlSource.Starts,
      hurl, true_and, Bool.and_eq_true, decide_eq_true_eq, hval]
    rfl
  · rw [Bool.not_eq_true] at hvalid
    rw [hvalid]
    refine ⟨hinside, ⟨nofun, fun hstarts => ?_⟩, hval, nofun⟩
    have hurl := hstarts.1
    rw [UrlSource.stored, ← hval] at hurl
    exact absurd (hvalid.symm.trans hurl) Bool.false_ne_true

theorem handled_autoCheck {root : Json} {esp32FwVer : Bytes} {cycle : AutoUpdateCycleType}
    (h : updateUrl root esp32FwVer cycle = some url) (hne : url ≠ []) :
    Handled (.autoCheck (some root) esp32FwVer cycle) files taskCreated url
      (downloadLatestReleaseInfoUrl (some root) esp32FwVer cycle files taskCreated cfg) := by
  have hval := val_fwUpdateSetBinariesUrl (noNul_updateUrl h)
  unfold downloadLatestReleaseInfoUrl
  dsimp only [Option.bind]
  rw [h]
  dsimp only
  refine ⟨⟨fun _ => hne, fun _ => textBytes_inside (fwUpdateSetBinariesUrl url).binariesUrl.fits⟩,
    ?_, hval, fun _ => rfl⟩
  simp [UrlHandling.check, UrlSource.Starts]

theorem betaRelease_ne_nil {root : Json} {r : Bytes × Bytes} (h : betaRelease root = some r) :
    r.2 ≠ [] := by
  unfold betaRelease at h
  simp only [Option.bind_eq_bind, Option.bind_eq_some_iff] at h
  obtain ⟨beta, -, version, -, url, -, hr⟩ := h
  split_ifs at hr with hincomplete
  cases hr
  exact fun hurl => hincomplete (.inr (.inl hurl))

/-- A release without a URL is not installed. -/
theorem updateUrl_ne_nil {root : Json} {esp32FwVer : Bytes} {cycle : AutoUpdateCycleType}
    (h : updateUrl root esp32FwVer cycle = some url) : url ≠ [] := by
  unfold updateUrl at h
  dsimp only at h
  split_ifs at h
  unfold parseFwUpdateInfoJson at h
  split at h
  · cases h
  · dsimp only at h
    split at h
    · split_ifs at h with hincomplete
      · cases h
      · have hlatest := fun hurl => hincomplete (.inr (.inl hurl))
        split at h
        · cases h
          exact hlatest
        · cases h
          exact hlatest
        · rename_i hbeta _
          cases h
          exact betaRelease_ne_nil hbeta
        · cases h
          exact hlatest
    · cases h

theorem handled {source : UrlSource} (h : source.given = some url) :
    Handled source files taskCreated url (source.handle files taskCreated cfg) := by
  cases source with
  | post body =>
    obtain ⟨root, rfl, hurl⟩ := Option.bind_eq_some_iff.mp h
    exact handled_post hurl
  | autoCheck info esp32FwVer cycle =>
    obtain ⟨root, rfl, hurl⟩ := Option.bind_eq_some_iff.mp h
    exact handled_autoCheck hurl (updateUrl_ne_nil hurl)

theorem upToSlash_stored_iff (source : UrlSource) :
    UpToSlash url (source.stored url) ↔ source.Fits url := by
  cases source with
  | post body => exact upToSlash_withoutSlash_take_iff
  | autoCheck info esp32FwVer cycle => exact upToSlash_take_iff

theorem FwUpdateConfig.eq_iff {cfg cfg' : FwUpdateConfig} :
    cfg = cfg' ↔ cfg'.binariesUrl.val = cfg.binariesUrl.val := by
  constructor
  · rintro rfl
    rfl
  · intro h
    cases cfg
    cases cfg'
    congr 1
    exact CStr.ext h.symm

variable (source : UrlSource) (files : String → CheckFileOutcome) (taskCreated : Bool)
  (cfg : FwUpdateConfig)

/-- A URL is handled faithfully if and only if there is none, or it suits. -/
theorem handle_faithful_iff :
    (source.handle files taskCreated cfg).Faithful source.given cfg ↔
      ∀ url, source.given = some url → source.Suits files taskCreated cfg url := by
  cases hgiven : source.given with
  | none =>
    rw [handle_of_none hgiven]
    refine ⟨fun _ _ => nofun, fun _ => ⟨?_, nofun, nofun, fun _ => rfl⟩⟩
    exact fun _ hi => absurd hi List.not_mem_nil
  | some url =>
    have hhandled : Handled source files taskCreated url (source.handle files taskCreated cfg) :=
      handled hgiven
    generalize source.handle files taskCreated cfg = h at hhandled
    constructor
    · intro hfaithful _ hurl
      obtain rfl := Option.some.inj hurl
      refine ⟨hhandled.inside.mp hfaithful.inside, fun hstarts => ?_, fun hnot => ?_⟩
      · obtain ⟨_, hurl, hslash⟩ := hfaithful.given (hhandled.started.mpr hstarts)
        obtain rfl := Option.some.inj hurl
        rw [hhandled.stored] at hslash
        exact (upToSlash_stored_iff source).mp hslash
      · have hkept := hfaithful.kept (Bool.eq_false_iff.mpr (mt hhandled.started.mp hnot))
        exact (FwUpdateConfig.eq_iff.mp hkept).trans hhandled.stored
    · intro hsuits
      obtain ⟨hnonempty, hfits, hsame⟩ := hsuits url rfl
      have hslash (hstarted : h.started = true) : UpToSlash url (source.stored url) :=
        (upToSlash_stored_iff source).mpr (hfits (hhandled.started.mp hstarted))
      refine ⟨hhandled.inside.mpr hnonempty, fun hstarted => ⟨url, rfl, ?_⟩,
        fun hstarted => ⟨_, hhandled.checked hstarted, ?_⟩, fun hnot => ?_⟩
      · rw [hhandled.stored]
        exact hslash hstarted
      · rw [hhandled.stored]
        cases source with
        | post body => exact .inl rfl
        | autoCheck info esp32FwVer cycle => exact hslash hstarted
      · have hrefused := mt hhandled.started.mpr (Bool.eq_false_iff.mp hnot)
        exact FwUpdateConfig.eq_iff.mpr ((hsame hrefused).trans hhandled.stored.symm)

/-- The handling of the URL is that of the whole request. -/
theorem postFwUpdateUrl_of_request (body : Option Json) :
    (httpServerCbOnPostFwUpdate body files taskCreated cfg).result.map
        (fun r => (r.taskStarted, r.cfg)) =
      some ((postFwUpdateUrl body files taskCreated cfg).started,
        (postFwUpdateUrl body files taskCreated cfg).cfg) := by
  unfold httpServerCbOnPostFwUpdate postFwUpdateUrl
  dsimp only
  generalize jsonFwUpdateParseHttpBody body cfg = parsed
  cases parsed.1 with
  | false => rfl
  | true =>
    cases hvalid : fwUpdateBinariesIsUrlValid parsed.2 with
    | false => rfl
    | true =>
      obtain ⟨checked, hchecked⟩ := Option.ne_none_iff_exists'.mp
        (checkFiles_ends parsed.2.binariesUrl.val files fwUpdateFileNames)
      have hends : (httpServerCheckFwUpdateBinaryFiles parsed.2.binariesUrl.val files).result =
          some checked := hchecked
      by_cases hcode : checked.1 = 200 <;>
        simp [suspendRelaying, resumeRelaying, hends, hcode, UrlHandling.check, FilesFound]

/-- A step of an automatic check leaves the URL that the whole check leaves. -/
theorem autoCheck_cfg (s : Updates) (id : ℕ) (root : Json) (esp32FwVer : Bytes)
    (cycle : AutoUpdateCycleType) :
    (s.autoCheck id (updateUrl root esp32FwVer cycle)).cfg =
      (downloadLatestReleaseInfoUrl (some root) esp32FwVer cycle files taskCreated s.cfg).cfg := by
  unfold downloadLatestReleaseInfoUrl
  dsimp only [Option.bind]
  cases updateUrl root esp32FwVer cycle with
  | none => rfl
  | some url => rfl

end Handling

section Failures

/-- A URL that is too long by a character. -/
def longUrl : Bytes := ascii "https://fw.example.com/" ++ List.replicate 106 0x61

def releaseInfo (url : Bytes) : Json :=
  .object [("latest", .object [("version", .string (ascii "v2")), ("url", .string url)])]

/-- An automatic check that finds a release with this URL. -/
def longCheck : UrlSource := .autoCheck (some (releaseInfo longUrl)) (ascii "v1") .regular

def emptyPost : UrlSource := .post (bodyOf [])

def badPost : UrlSource := .post (bodyOf (ascii "bad"))

theorem given_longCheck : longCheck.given = some longUrl := by decide +kernel

/-- An empty URL makes the code look in front of the buffer, an automatic check installs from
another URL than the one that it checked, and a request that is refused has replaced the URL. -/
theorem handle_not_faithful :
    (¬∀ cfg, (emptyPost.handle foundFile true cfg).Faithful emptyPost.given cfg) ∧
      (¬∀ cfg, (longCheck.handle foundFile true cfg).Faithful longCheck.given cfg) ∧
      ¬∀ cfg, (badPost.handle foundFile true cfg).Faithful badPost.given cfg := by
  refine ⟨fun h => ?_, fun h => ?_, fun h => ?_⟩
  · exact absurd ((h Updates.initial.cfg).inside 0xffffffff (by decide +kernel)) (by decide)
  · have hhandled : Handled longCheck foundFile true longUrl
        (longCheck.handle foundFile true Updates.initial.cfg) := handled given_longCheck
    have hfound : FilesFound foundFile longUrl := by decide +kernel
    obtain ⟨url, hurl, hslash⟩ := (h _).given (hhandled.started.mpr ⟨hfound, rfl⟩)
    obtain rfl : longUrl = url := Option.some.inj (given_longCheck.symm.trans hurl)
    rw [hhandled.stored] at hslash
    exact absurd hslash (by decide +kernel)
  · exact absurd ((h Updates.initial.cfg).kept (by decide +kernel)) (by decide +kernel)

end Failures

end RuuviGateway.FwUpdate
