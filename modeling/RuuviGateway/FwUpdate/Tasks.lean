import Mathlib.Logic.Function.Basic
import RuuviGateway.FwUpdate.ReleaseInfo
import RuuviGateway.General.Transition

/-!
# Updates that run at the same time

Requests and automatic checks write the base URL of an update into a global, check the three files
and create the task that downloads them. The task reads the global again for each file. Their steps
interleave in any order.
-/

namespace RuuviGateway.FwUpdate

open Config General General.System Http

section Model

/-- The URL that a check is given: the global itself, or a text of its own. -/
inductive BaseUrl
  | global
  | own (url : Bytes)

def BaseUrl.text (cfg : FwUpdateConfig) : BaseUrl → Bytes
  | .global => cfg.binariesUrl.val
  | .own url => url

/-- A request or an automatic check on its way to `fw_update_run`: the files that are still to be
checked, and the URLs of those that have been. -/
structure Pending where
  base : BaseUrl
  isUrlValid : Bool
  left : List String
  checked : List Bytes

/-- A `fw_update_task`: the URLs that had been checked when it was created, the files that it will
still download, and the URLs that it has read so far. -/
structure UpdateTask where
  checked : List Bytes
  left : List String
  downloaded : List Bytes

structure Updates where
  cfg : FwUpdateConfig
  pending : ℕ → Option Pending
  tasks : ℕ → Option UpdateTask

/-- The globals are zero after a restart. -/
def Updates.initial : Updates := ⟨fwUpdateSetBinariesUrl [], fun _ => none, fun _ => none⟩

/-- The URL of a release that an automatic check is to install. -/
def updateUrl (root : Json) (esp32FwVer : Bytes) (cycle : AutoUpdateCycleType) : Option Bytes :=
  let info := parseFwUpdateInfoJson root esp32FwVer cycle
  if info.isValid && info.isUpdateRequired then info.url else none

/-- What a task finds when it is to download a file. -/
inductive FileResult
  | urlNotAllocated
  | failed
  | downloaded
  deriving DecidableEq

inductive Label
  | postFwUpdate (id : ℕ) (body : Option Json)
  | validate (id : ℕ)
  | autoCheck (id : ℕ) (root : Json) (esp32FwVer : Bytes) (cycle : AutoUpdateCycleType)
  | checkFile (id : ℕ) (o : CheckFileOutcome)
  | fwUpdateRun (id task : ℕ) (taskCreated : Bool)
  | download (task : ℕ) (result : FileResult)
  | gatewayRestart

def Updates.setPending (s : Updates) (id : ℕ) (p : Option Pending) : Updates :=
  { s with pending := Function.update s.pending id p }

def Updates.setTask (s : Updates) (task : ℕ) (t : Option UpdateTask) : Updates :=
  { s with tasks := Function.update s.tasks task t }

/-- `http_server_cb_on_post_fw_update` until the body has been parsed. -/
def Updates.postFwUpdate (s : Updates) (id : ℕ) (body : Option Json) : Updates :=
  let r := jsonFwUpdateParseHttpBody body s.cfg
  { s with cfg := r.2 }.setPending id
    (if r.1 then some ⟨.global, false, fwUpdateFileNames, []⟩ else none)

/-- `http_server_cb_on_user_req_download_latest_release_info` until the URL has been set. -/
def Updates.autoCheck (s : Updates) (id : ℕ) : Option Bytes → Updates
  | none => s
  | some url => { s with cfg := fwUpdateSetBinariesUrl url }.setPending id
      (some ⟨.own url, true, fwUpdateFileNames, []⟩)

def Pending.checkFile (p : Pending) (cfg : FwUpdateConfig) (name : String) (names : List String)
    (o : CheckFileOutcome) : Option Pending :=
  if (httpServerFwUpdateCheckFile (p.base.text cfg) name o).result = some 200 then
    some { p with left := names, checked := p.checked ++ [fileUrl (p.base.text cfg) name] }
  else none

/-- The URL is built from the global, unless there is no memory for it. -/
def UpdateTask.download (t : UpdateTask) (cfg : FwUpdateConfig) (name : String)
    (names : List String) : FileResult → UpdateTask
  | .urlNotAllocated => { t with left := [] }
  | .failed => { t with
      left := []
      downloaded := t.downloaded ++ [fileUrl cfg.binariesUrl.val name] }
  | .downloaded => { t with
      left := names
      downloaded := t.downloaded ++ [fileUrl cfg.binariesUrl.val name] }

/-- `fw_update_run` does not look for a task that is running. -/
def Updates.fwUpdateRun (s : Updates) (id task : ℕ) (checked : List Bytes) (taskCreated : Bool) :
    Updates :=
  let s := s.setPending id none
  if taskCreated then s.setTask task (some ⟨checked, fwUpdateFileNames, []⟩) else s

def Updates.step (s : Updates) : Label → Option Updates
  | .postFwUpdate id body => if (s.pending id).isSome then none else some (s.postFwUpdate id body)
  | .validate id => do
    let p ← s.pending id
    if p.isUrlValid then none
    else if fwUpdateBinariesIsUrlValid s.cfg then
      some (s.setPending id (some { p with isUrlValid := true }))
    else some (s.setPending id none)
  | .autoCheck id root esp32FwVer cycle =>
    if (s.pending id).isSome then none
    else some (s.autoCheck id (updateUrl root esp32FwVer cycle))
  | .checkFile id o => do
    let p ← s.pending id
    match p.isUrlValid, p.left with
    | true, name :: names => some (s.setPending id (p.checkFile s.cfg name names o))
    | _, _ => none
  | .fwUpdateRun id task taskCreated => do
    let p ← s.pending id
    if p.isUrlValid && p.left.isEmpty && (s.tasks task).isNone then
      some (s.fwUpdateRun id task p.checked taskCreated)
    else none
  | .download task result => do
    let t ← s.tasks task
    match t.left with
    | name :: names => some (s.setTask task (some (t.download s.cfg name names result)))
    | [] => none
  | .gatewayRestart => some .initial

def updates : System Updates Label Unit where
  init := .initial
  step s label := (s.step label).map fun s' => (s', ())

/-- There is at most one task, and the files that it downloads come from the one URL that had been
checked for them when it was created. -/
structure OneUpdate (s : Updates) : Prop where
  unique : ∀ i j, s.tasks i ≠ none → s.tasks j ≠ none → i = j
  checked : ∀ i t, s.tasks i = some t → ∃ base,
    t.checked = fwUpdateFileNames.map (fileUrl base) ∧
      t.downloaded <+: fwUpdateFileNames.map (fileUrl base)

/-- A request or a task relies on the URL. -/
def Updates.InUse (s : Updates) : Prop := (∃ id, s.pending id ≠ none) ∨ ∃ task, s.tasks task ≠ none

/-- The step replaces a URL that is in use, truncates the URL of a release, or creates a second
task. -/
def Interferes (s : Updates) : Label → Prop
  | .postFwUpdate _ body => s.InUse ∧ (jsonFwUpdateParseHttpBody body s.cfg).2 ≠ s.cfg
  | .autoCheck _ root esp32FwVer cycle => ∃ url, updateUrl root esp32FwVer cycle = some url ∧
      (s.InUse ∧ fwUpdateSetBinariesUrl url ≠ s.cfg ∨ fwUpdateUrlMaxLen < url.length)
  | .fwUpdateRun _ _ taskCreated => taskCreated = true ∧ ∃ task, s.tasks task ≠ none
  | _ => False

end Model

section Url

theorem noNul_getStringVal {root : Json} {key : String} {s : Bytes}
    (h : jsonWrapGetStringVal root key = some s) : 0 ∉ s := by
  obtain ⟨item, -, hitem⟩ := Option.bind_eq_some_iff.mp h
  cases item <;> try cases hitem
  exact noNul_cstr _

theorem noNul_betaRelease {root : Json} {r : Bytes × Bytes} (h : betaRelease root = some r) :
    0 ∉ r.2 := by
  unfold betaRelease at h
  simp only [Option.bind_eq_bind, Option.bind_eq_some_iff] at h
  obtain ⟨beta, -, version, -, url, hurl, hr⟩ := h
  split_ifs at hr
  cases hr
  exact noNul_getStringVal hurl

theorem noNul_updateUrl {root : Json} {esp32FwVer : Bytes} {cycle : AutoUpdateCycleType}
    {url : Bytes} (h : updateUrl root esp32FwVer cycle = some url) : 0 ∉ url := by
  unfold updateUrl at h
  dsimp only at h
  split_ifs at h
  unfold parseFwUpdateInfoJson at h
  split at h
  · cases h
  · dsimp only at h
    split at h
    · rename_i hversion hlatest
      split_ifs at h
      · cases h
      · split at h
        · cases h
          exact noNul_getStringVal hlatest
        · cases h
          exact noNul_getStringVal hlatest
        · rename_i hbeta _
          cases h
          exact noNul_betaRelease hbeta
        · cases h
          exact noNul_getStringVal hlatest
    · cases h

/-- A URL that fits is the one that the task will read. -/
theorem setBinariesUrl_val {url : Bytes} (hnul : 0 ∉ url) (hfits : url.length ≤ fwUpdateUrlMaxLen) :
    (fwUpdateSetBinariesUrl url).binariesUrl.val = url :=
  CStr.val_snprintf hnul (Nat.lt_succ_of_le hfits)

end Url

section Invariant

variable {s : Updates}

@[simp] theorem setPending_self (s : Updates) (id : ℕ) (p : Option Pending) :
    (s.setPending id p).pending id = p := by
  unfold Updates.setPending
  exact Function.update_self id p s.pending

theorem setPending_of_ne (s : Updates) {id id' : ℕ} (h : id' ≠ id) (p : Option Pending) :
    (s.setPending id p).pending id' = s.pending id' := by
  unfold Updates.setPending
  exact Function.update_of_ne h p s.pending

@[simp] theorem setTask_self (s : Updates) (task : ℕ) (t : Option UpdateTask) :
    (s.setTask task t).tasks task = t := by
  unfold Updates.setTask
  exact Function.update_self task t s.tasks

theorem setTask_of_ne (s : Updates) {task task' : ℕ} (h : task' ≠ task) (t : Option UpdateTask) :
    (s.setTask task t).tasks task' = s.tasks task' := by
  unfold Updates.setTask
  exact Function.update_of_ne h t s.tasks

/-- The URLs of the three files of the release in the global. -/
def FwUpdateConfig.fileUrls (cfg : FwUpdateConfig) : List Bytes :=
  fwUpdateFileNames.map (fileUrl cfg.binariesUrl.val)

/-- What a request has checked, and will check, are the files of the release in the global. -/
structure Pending.Agrees (p : Pending) (cfg : FwUpdateConfig) : Prop where
  base : p.base.text cfg = cfg.binariesUrl.val
  files : p.checked ++ p.left.map (fileUrl cfg.binariesUrl.val) = cfg.fileUrls

/-- What a task has downloaded, and will download, are the files that have been checked. -/
structure UpdateTask.Agrees (t : UpdateTask) (cfg : FwUpdateConfig) : Prop where
  checked : t.checked = cfg.fileUrls
  files : t.downloaded ++ t.left.map (fileUrl cfg.binariesUrl.val) <+: cfg.fileUrls

structure Agreement (s : Updates) : Prop where
  unique : ∀ i j, s.tasks i ≠ none → s.tasks j ≠ none → i = j
  pending : ∀ id p, s.pending id = some p → p.Agrees s.cfg
  tasks : ∀ task t, s.tasks task = some t → t.Agrees s.cfg

theorem Agreement.oneUpdate (h : Agreement s) : OneUpdate s := by
  refine ⟨h.unique, fun i t ht => ⟨s.cfg.binariesUrl.val, (h.tasks i t ht).checked, ?_⟩⟩
  exact (List.prefix_append _ _).trans (h.tasks i t ht).files

theorem agreement_initial : Agreement .initial :=
  ⟨fun _ _ hi => absurd rfl hi, fun _ _ => nofun, fun _ _ => nofun⟩

theorem Agreement.setPending (h : Agreement s) (id : ℕ) {p : Option Pending}
    (hp : ∀ q, p = some q → q.Agrees s.cfg) : Agreement (s.setPending id p) := by
  refine ⟨h.unique, fun id' q hq => ?_, h.tasks⟩
  by_cases hid : id' = id
  · subst hid
    rw [setPending_self] at hq
    exact hp q hq
  · rw [setPending_of_ne s hid] at hq
    exact h.pending id' q hq

/-- The only task there is may be replaced. -/
theorem Agreement.setTask (h : Agreement s) {task : ℕ} {t : UpdateTask}
    (honly : ∀ i, s.tasks i ≠ none → i = task) (ht : t.Agrees s.cfg) :
    Agreement (s.setTask task (some t)) := by
  have hother (i : ℕ) (hi : i ≠ task) : (s.setTask task (some t)).tasks i = none := by
    rw [setTask_of_ne s hi]
    by_contra hne
    exact hi (honly i hne)
  have honly' (i : ℕ) (hi : (s.setTask task (some t)).tasks i ≠ none) : i = task := by
    by_contra hne
    exact hi (hother i hne)
  refine ⟨fun i j hi hj => (honly' i hi).trans (honly' j hj).symm, h.pending, fun i t' ht' => ?_⟩
  obtain rfl : i = task := honly' i (by rw [ht']; exact Option.some_ne_none t')
  rw [setTask_self] at ht'
  exact Option.some.inj ht' ▸ ht

/-- The URL may be replaced when nobody relies on it, or when it stays the same. -/
theorem Agreement.setCfg (h : Agreement s) {cfg : FwUpdateConfig} (hcfg : s.InUse → cfg = s.cfg) :
    Agreement { s with cfg } := by
  by_cases huse : s.InUse
  · obtain rfl := hcfg huse
    exact h
  · rw [Updates.InUse, not_or, not_exists, not_exists] at huse
    refine ⟨h.unique, fun id p hp => ?_, fun task t ht => ?_⟩
    · exact absurd hp (by simpa using congrArg (· = some p) (not_not.mp (huse.1 id)))
    · exact absurd ht (by simpa using congrArg (· = some t) (not_not.mp (huse.2 task)))

theorem Agreement.postFwUpdate (h : Agreement s) (id : ℕ) {body : Option Json}
    (hkeeps : ¬Interferes s (.postFwUpdate id body)) : Agreement (s.postFwUpdate id body) := by
  have hcfg : Agreement { s with cfg := (jsonFwUpdateParseHttpBody body s.cfg).2 } :=
    h.setCfg fun huse => not_not.mp fun hne => hkeeps ⟨huse, hne⟩
  refine hcfg.setPending id fun p hp => ?_
  split_ifs at hp
  obtain rfl := Option.some.inj hp
  exact ⟨rfl, rfl⟩

theorem Agreement.autoCheck (h : Agreement s) (id : ℕ) {root : Json} {esp32FwVer : Bytes}
    {cycle : AutoUpdateCycleType} (hkeeps : ¬Interferes s (.autoCheck id root esp32FwVer cycle)) :
    Agreement (s.autoCheck id (updateUrl root esp32FwVer cycle)) := by
  cases hurl : updateUrl root esp32FwVer cycle with
  | none => exact h
  | some url =>
    have hfits : url.length ≤ fwUpdateUrlMaxLen :=
      not_lt.mp fun hlong => hkeeps ⟨url, hurl, .inr hlong⟩
    have hcfg : Agreement { s with cfg := fwUpdateSetBinariesUrl url } :=
      h.setCfg fun huse => not_not.mp fun hne => hkeeps ⟨url, hurl, .inl ⟨huse, hne⟩⟩
    refine hcfg.setPending id fun p hp => ?_
    obtain rfl := Option.some.inj hp
    exact ⟨(setBinariesUrl_val (noNul_updateUrl hurl) hfits).symm, rfl⟩

theorem Pending.Agrees.checkFile {p q : Pending} {cfg : FwUpdateConfig} {name : String}
    {names : List String} {o : CheckFileOutcome} (h : p.Agrees cfg) (hleft : p.left = name :: names)
    (hq : p.checkFile cfg name names o = some q) : q.Agrees cfg := by
  unfold Pending.checkFile at hq
  split_ifs at hq
  obtain rfl := Option.some.inj hq
  refine ⟨h.base, ?_⟩
  have hfiles := h.files
  rw [hleft, List.map_cons] at hfiles
  rw [h.base, List.append_assoc]
  exact hfiles

/-- The files of a task stay files of the release in the global, also when a download fails. -/
theorem UpdateTask.Agrees.download {t : UpdateTask} {cfg : FwUpdateConfig} {name : String}
    {names : List String} (h : t.Agrees cfg) (hleft : t.left = name :: names)
    (result : FileResult) :
    (t.download cfg name names result).Agrees cfg := by
  have hfiles := h.files
  rw [hleft, List.map_cons] at hfiles
  refine ⟨?_, ?_⟩
  · cases result <;> exact h.checked
  · cases result with
    | urlNotAllocated =>
      refine List.IsPrefix.trans ?_ hfiles
      exact List.prefix_append_right_inj _ |>.mpr List.nil_prefix
    | failed =>
      refine List.IsPrefix.trans ?_ hfiles
      dsimp only [UpdateTask.download]
      rw [List.append_assoc]
      exact (List.prefix_append_right_inj _).mpr (List.prefix_append [_] _)
    | downloaded =>
      dsimp only [UpdateTask.download]
      rw [List.append_assoc]
      exact hfiles

/-- Before the first download, the task has everything before it. -/
theorem Agreement.fwUpdateRun (h : Agreement s) {id task : ℕ} {taskCreated : Bool} {p : Pending}
    (hp : s.pending id = some p) (hleft : p.left = [])
    (hkeeps : ¬Interferes s (.fwUpdateRun id task taskCreated)) :
    Agreement (s.fwUpdateRun id task p.checked taskCreated) := by
  have hgone : Agreement (s.setPending id none) := h.setPending id fun _ => nofun
  unfold Updates.fwUpdateRun
  dsimp only
  split_ifs with hcreated
  · have hnone (i : ℕ) : s.tasks i = none := by
      by_contra hne
      exact hkeeps ⟨hcreated, i, hne⟩
    refine hgone.setTask (fun i hi => absurd (hnone i) hi) ⟨?_, List.prefix_rfl⟩
    have hfiles := (h.pending id p hp).files
    rwa [hleft, List.map_nil, List.append_nil] at hfiles
  · exact hgone

theorem Agreement.step (h : Agreement s) {label : Label} (hkeeps : ¬Interferes s label)
    {s' : Updates} (hstep : s.step label = some s') : Agreement s' := by
  cases label with
  | postFwUpdate id body =>
    simp only [Updates.step] at hstep
    split_ifs at hstep
    exact Option.some.inj hstep ▸ h.postFwUpdate id hkeeps
  | validate id =>
    obtain ⟨p, hp, hstep⟩ := Option.bind_eq_some_iff.mp hstep
    split_ifs at hstep
    · obtain rfl := Option.some.inj hstep
      refine h.setPending id fun q hq => ?_
      obtain rfl := Option.some.inj hq
      exact ⟨(h.pending id p hp).base, (h.pending id p hp).files⟩
    · exact Option.some.inj hstep ▸ h.setPending id fun _ => nofun
  | autoCheck id root esp32FwVer cycle =>
    simp only [Updates.step] at hstep
    split_ifs at hstep
    exact Option.some.inj hstep ▸ h.autoCheck id hkeeps
  | checkFile id o =>
    obtain ⟨p, hp, hstep⟩ := Option.bind_eq_some_iff.mp hstep
    split at hstep
    · rename_i hleft
      obtain rfl := Option.some.inj hstep
      exact h.setPending id fun q hq => (h.pending id p hp).checkFile hleft hq
    · cases hstep
  | fwUpdateRun id task taskCreated =>
    obtain ⟨p, hp, hstep⟩ := Option.bind_eq_some_iff.mp hstep
    split_ifs at hstep with hready
    simp only [Bool.and_eq_true, List.isEmpty_iff] at hready
    exact Option.some.inj hstep ▸ h.fwUpdateRun hp hready.1.2 hkeeps
  | download task result =>
    obtain ⟨t, ht, hstep⟩ := Option.bind_eq_some_iff.mp hstep
    split at hstep
    · rename_i hleft
      obtain rfl := Option.some.inj hstep
      refine h.setTask (fun i hi => h.unique i task hi (by rw [ht]; exact Option.some_ne_none t)) ?_
      exact (h.tasks task t ht).download hleft result
    · cases hstep
  | gatewayRestart => exact Option.some.inj hstep ▸ agreement_initial

end Invariant

section Runs

/-- In a run in which no step replaces a URL that is in use, truncates the URL of a release, or
creates a second task, there is one update at a time, from one checked URL. -/
theorem updates_oneUpdate {history : List (Label × Unit)} {s : Updates}
    (hr : updates.Run (fun s label => ¬Interferes s label) history s) : OneUpdate s := by
  suffices hagreement : Agreement s from hagreement.oneUpdate
  refine hr.invariant agreement_initial fun s label s' _ hs hkeeps hstep => ?_
  obtain ⟨s₁, hs₁, heq⟩ := Option.map_eq_some_iff.mp hstep
  exact (Prod.mk.inj heq).1 ▸ hs.step hkeeps hs₁

theorem run_step {G : Updates → Label → Prop} {history : List (Label × Unit)} {s : Updates}
    {label : Label} (hr : updates.Run G history s) (s' : Updates) (hG : G s label)
    (hstep : s.step label = some s') :
    updates.Run G ((label, ()) :: history) s' :=
  .step hr hG (Option.map_eq_some_iff.mpr ⟨s', hstep, rfl⟩)

theorem checkFiles_cons {base : Bytes} {o : String → CheckFileOutcome} {name : String}
    {names : List String} (h : (checkFiles base o (name :: names)).result.map Prod.fst = some 200) :
    (httpServerFwUpdateCheckFile base name (o name)).result = some 200 ∧
      (checkFiles base o names).result.map Prod.fst = some 200 := by
  obtain ⟨code, hcode⟩ := Option.ne_none_iff_exists'.mp (checkFile_ends base name (o name))
  by_cases h200 : code = 200
  · subst h200
    refine ⟨hcode, ?_⟩
    simpa [checkFiles, hcode] using h
  · simp [checkFiles, hcode, h200] at h

/-- A request whose remaining files can all be downloaded gets through its check. -/
theorem run_checkFiles {G : Updates → Label → Prop} (hG : ∀ s id o, G s (.checkFile id o))
    {history : List (Label × Unit)} {s : Updates} {id : ℕ} (o : String → CheckFileOutcome)
    (names : List String) {base : BaseUrl} {checked : List Bytes} (hr : updates.Run G history s)
    (hp : s.pending id = some ⟨base, true, names, checked⟩)
    (hfiles : (checkFiles (base.text s.cfg) o names).result.map Prod.fst = some 200) :
    ∃ history' s', updates.Run G history' s' ∧ s'.cfg = s.cfg ∧ s'.tasks = s.tasks ∧
      s'.pending id = some ⟨base, true, [], checked ++ names.map (fileUrl (base.text s.cfg))⟩ := by
  induction names generalizing history s checked with
  | nil => exact ⟨history, s, hr, rfl, rfl, by simpa using hp⟩
  | cons name names ih =>
    obtain ⟨hfile, hrest⟩ := checkFiles_cons hfiles
    have hstep : s.step (.checkFile id (o name)) = some (s.setPending id
        (some ⟨base, true, names, checked ++ [fileUrl (base.text s.cfg) name]⟩)) := by
      simp [Updates.step, hp, Pending.checkFile, hfile]
    obtain ⟨history', s', hr', hcfg, htasks, hpending⟩ :=
      ih (run_step hr _ (hG s id _) hstep) (setPending_self s id _) hrest
    refine ⟨history', s', hr', hcfg, htasks, hpending.trans ?_⟩
    exact congrArg (fun urls => some (Pending.mk base true [] urls)) (List.append_assoc _ _ _)

/-- Nothing but the task of another update keeps a request with a good URL from its own. -/
theorem run_postFwUpdate {G : Updates → Label → Prop} {history : List (Label × Unit)} {s : Updates}
    (hr : updates.Run G history s) (id task : ℕ) (body : Option Json)
    (o : String → CheckFileOutcome)
    (hpost : G s (.postFwUpdate id body)) (hvalidate : ∀ s, G s (.validate id))
    (hcheck : ∀ s id o, G s (.checkFile id o))
    (hrun : ∀ s', s'.tasks = s.tasks → G s' (.fwUpdateRun id task true))
    (hid : s.pending id = none) (htask : s.tasks task = none)
    (hparsed : (jsonFwUpdateParseHttpBody body s.cfg).1 = true)
    (hvalid : fwUpdateBinariesIsUrlValid (jsonFwUpdateParseHttpBody body s.cfg).2 = true)
    (hfiles : (httpServerCheckFwUpdateBinaryFiles
      (jsonFwUpdateParseHttpBody body s.cfg).2.binariesUrl.val o).result.map Prod.fst = some 200) :
    ∃ history' s', updates.Run G history' s' ∧ s'.cfg = (jsonFwUpdateParseHttpBody body s.cfg).2 ∧
      s'.tasks = Function.update s.tasks task (some ⟨s'.cfg.fileUrls, fwUpdateFileNames, []⟩) := by
  have hposted : (s.postFwUpdate id body).pending id =
      some ⟨.global, false, fwUpdateFileNames, []⟩ := by
    unfold Updates.postFwUpdate
    rw [setPending_self, if_pos hparsed]
  have hr₁ := run_step hr (s.postFwUpdate id body) hpost (by simp [Updates.step, hid])
  have hr₂ := run_step hr₁ ((s.postFwUpdate id body).setPending id
    (some ⟨.global, true, fwUpdateFileNames, []⟩)) (hvalidate _) ?_
  · obtain ⟨history', s', hr', hcfg, htasks, hpending⟩ :=
      run_checkFiles hcheck o fwUpdateFileNames hr₂ (setPending_self _ _ _) hfiles
    have hready : s'.step (.fwUpdateRun id task true) =
        some (s'.fwUpdateRun id task s'.cfg.fileUrls true) := by
      have hfree : s'.tasks task = none := (congrFun htasks task).trans htask
      simp only [Updates.step, hpending, Option.bind_eq_bind, Option.bind_some, hfree]
      rw [FwUpdateConfig.fileUrls, hcfg]
      rfl
    refine ⟨_, _, run_step hr' _ (hrun s' htasks) hready, hcfg, ?_⟩
    exact congrArg (Function.update · task _) htasks
  · simp only [Updates.step, hposted, Option.bind_eq_bind, Option.bind_some]
    exact if_pos hvalid

theorem fileUrl_inj {base base' : Bytes} {name : String} :
    fileUrl base name = fileUrl base' name ↔ base = base' := by
  simp [fileUrl]

/-- A release whose files are there. -/
def sampleUrl : Bytes := ascii "https://fw.example.com/v1"

def bodyOf (url : Bytes) : Option Json := some (.object [("url", .string url)])

def foundFile (_ : String) : CheckFileOutcome :=
  ⟨true, ⟨true, true, true, true, true, true, .completed [] 200⟩⟩

theorem updates_oneUpdate_downloads : ∃ s : Updates, OneUpdate s ∧ ∃ t, s.tasks 0 = some t ∧
    t.downloaded = [fileUrl sampleUrl "ruuvi_gateway_esp.bin"] := by
  have hfree : ¬Updates.initial.InUse := by rintro (⟨_, h⟩ | ⟨_, h⟩) <;> exact h rfl
  obtain ⟨history, s, hr, hcfg, htasks⟩ := run_postFwUpdate
    (G := fun s label => ¬Interferes s label) .init 0 0 (bodyOf sampleUrl) foundFile
    (fun h => hfree h.1) (fun _ => id) (fun _ _ _ => id)
    (fun s' hs' h => h.2.elim fun task htask => htask (congrFun hs' task)) rfl rfl
    (by decide +kernel) (by decide +kernel) (by decide +kernel)
  have htask : s.tasks 0 = some ⟨s.cfg.fileUrls, fwUpdateFileNames, []⟩ := by
    rw [htasks, Function.update_self]
  have hstep : s.step (.download 0 .downloaded) = some (s.setTask 0 (some
      ⟨s.cfg.fileUrls, ["fatfs_gwui.bin", "fatfs_nrf52.bin"],
        [fileUrl s.cfg.binariesUrl.val "ruuvi_gateway_esp.bin"]⟩)) := by
    simp only [Updates.step, htask, Option.bind_eq_bind, Option.bind_some]
    rfl
  refine ⟨_, updates_oneUpdate (run_step hr _ id hstep), _, setTask_self s 0 _, ?_⟩
  rw [hcfg]
  decide +kernel

/-- The steps of a request with a good URL. -/
def acceptedPost (id : ℕ) : List Label :=
  [.postFwUpdate id (bodyOf sampleUrl), .validate id, .checkFile id (foundFile ""),
    .checkFile id (foundFile ""), .checkFile id (foundFile ""), .fwUpdateRun id id true]

/-- A request that is rejected because of its URL has replaced the URL of the task that is running,
and two requests create two tasks. -/
theorem updates_mixReleases :
    (¬∀ history s, updates.FreeRun history s → OneUpdate s) ∧
      ∃ history s, updates.FreeRun history s ∧ s.tasks 0 ≠ none ∧ s.tasks 1 ≠ none := by
  constructor
  · intro hall
    obtain ⟨history, s, hrun, hs⟩ := exists_run_of_exec (S := updates) (G := fun _ _ => True)
      (acceptedPost 0 ++ [.download 0 .downloaded, .postFwUpdate 1 (bodyOf (ascii "bad")),
        .validate 1, .download 0 .downloaded])
      (P := fun s : Updates => (s.tasks 0).any fun t : UpdateTask => decide (t.downloaded =
        [fileUrl sampleUrl "ruuvi_gateway_esp.bin", fileUrl (ascii "bad") "fatfs_gwui.bin"]))
      (by decide +kernel)
    obtain ⟨t, ht, hdownloaded⟩ := (Option.any_eq_true _ _).mp hs
    obtain ⟨base, -, hprefix⟩ := (hall history s hrun).checked 0 t ht
    rw [of_decide_eq_true hdownloaded] at hprefix
    obtain ⟨hesp, hprefix⟩ := List.cons_prefix_cons.mp hprefix
    obtain ⟨hgwui, -⟩ := List.cons_prefix_cons.mp hprefix
    have hbases : sampleUrl = ascii "bad" := (fileUrl_inj.mp hesp).trans (fileUrl_inj.mp hgwui).symm
    exact absurd hbases (by decide)
  · obtain ⟨history, s, hrun, hs⟩ := exists_run_of_exec (S := updates) (G := fun _ _ => True)
      (acceptedPost 0 ++ acceptedPost 1)
      (P := fun s : Updates => (s.tasks 0).isSome && (s.tasks 1).isSome) (by decide +kernel)
    rw [Bool.and_eq_true] at hs
    exact ⟨history, s, hrun, Option.isSome_iff_ne_none.mp hs.1, Option.isSome_iff_ne_none.mp hs.2⟩

end Runs

end RuuviGateway.FwUpdate
