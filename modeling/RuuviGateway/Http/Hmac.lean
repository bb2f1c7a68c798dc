import RuuviGateway.General.Transition
import RuuviGateway.Http.LifeCycle

/-!
# The header that signs a request

The digest of a body is calculated into a buffer that all requests share, and the header of a
request is the text of that buffer. A server may ask for the request to be sent again, which the
client does with the headers and the data that it still has. -/

namespace RuuviGateway.Http

open General AdvPost

section Calculation

abbrev hmacSha256Size : ℕ := 32

/-- The digest in the buffer. -/
abbrev HmacSha256 := Vector UInt8 hmacSha256Size

def HmacSha256.zero : HmacSha256 := .replicate _ 0

/-- The chunks that a generator returns until the empty one, unless it fails before. -/
structure GenPass where
  chunks : List Bytes
  complete : Bool

/-- A generator that does not fail returns what it has left. -/
def GenPass.Yields (pass : GenPass) (left : Bytes) : Prop :=
  [] ∉ pass.chunks ∧ (pass.complete = true → pass.chunks.flatten = left)

instance (pass : GenPass) (left : Bytes) : Decidable (pass.Yields left) :=
  inferInstanceAs (Decidable (_ ∧ (_ → _)))

/-- What the calls return that the digest of a generated text is calculated with. -/
structure JsonGenCalc where
  mdInfoFound : Bool
  setupRet : ℤ
  startsRet : ℤ
  pass : GenPass
  updateRet : ℕ → ℤ
  finishRet : ℤ
  /-- What is in the buffer if the last call fails. -/
  finishLeaves : HmacSha256

/-- The loop over the chunks, which collects the message. -/
def mdHmacUpdates (updateRet : ℕ → ℤ) (complete : Bool) : ℕ → List Bytes → Bytes → Option Bytes
  | _, [], message => if complete then some message else none
  | i, chunk :: chunks, message =>
      if updateRet i ≠ 0 then none
      else mdHmacUpdates updateRet complete (i + 1) chunks (message ++ chunk)

variable (hmac : Bytes → Bytes → HmacSha256)

/-- `hmac` is what the calls compute when they succeed. A failure leaves the buffer as it is. -/
def hmacSha256CalcForJsonGen (key : HmacSha256Key) (o : JsonGenCalc) (digest : HmacSha256) :
    Bool × HmacSha256 :=
  if !o.mdInfoFound then (false, digest)
  else if o.setupRet ≠ 0 then (false, digest)
  else if o.startsRet ≠ 0 then (false, digest)
  else
    match mdHmacUpdates o.updateRet o.pass.complete 0 o.pass.chunks [] with
    | none => (false, digest)
    | some message =>
        if o.finishRet ≠ 0 then (false, o.finishLeaves) else (true, hmac key.val message)

/-- A failure clears the buffer. -/
def hmacSha256Calc (str : Bytes) (key : HmacSha256Key) (mdHmacRet : ℤ) : Bool × HmacSha256 :=
  if mdHmacRet ≠ 0 then (false, .zero) else (true, hmac key.val str)

def hexLowerDigit (digit : UInt8) : UInt8 :=
  if digit < 10 then 0x30 + digit else 0x61 + (digit - 10)

def HmacSha256.text (digest : HmacSha256) : Bytes :=
  digest.toList.flatMap fun b => [hexLowerDigit (b / 16), hexLowerDigit (b % 16)]

def hmacSha256ToStrBuf (allocated : Bool) (digest : HmacSha256) : Option Bytes :=
  if allocated then some digest.text else none

def hmacSha256IsStrValid : Option Bytes → Bool
  | none => false
  | some str => !str.isEmpty

/-- All the calls succeed, and the generator does not fail. -/
@[mk_iff] structure JsonGenCalc.Succeeds (o : JsonGenCalc) : Prop where
  mdInfo : o.mdInfoFound = true
  setup : o.setupRet = 0
  starts : o.startsRet = 0
  updates : ∀ i < o.pass.chunks.length, o.updateRet i = 0
  complete : o.pass.complete = true
  finish : o.finishRet = 0

variable {hmac}

theorem mdHmacUpdates_eq {updateRet : ℕ → ℤ} {complete : Bool} (hcomplete : complete = true)
    (chunks : List Bytes) (i : ℕ) (message : Bytes)
    (hupdates : ∀ j < chunks.length, updateRet (i + j) = 0) :
    mdHmacUpdates updateRet complete i chunks message = some (message ++ chunks.flatten) := by
  induction chunks generalizing i message with
  | nil =>
    rw [mdHmacUpdates, if_pos hcomplete, List.flatten_nil, List.append_nil]
  | cons chunk chunks ih =>
    have hfirst : updateRet i = 0 := hupdates 0 (Nat.succ_pos _)
    have hrest : ∀ j < chunks.length, updateRet (i + 1 + j) = 0 := by
      intro j hj
      have hj' : j + 1 < (chunk :: chunks).length := Nat.succ_lt_succ hj
      have hret := hupdates (j + 1) hj'
      rwa [Nat.add_comm j 1, ← Nat.add_assoc] at hret
    rw [mdHmacUpdates, if_neg (not_not.mpr hfirst), ih (i + 1) _ hrest, List.flatten_cons,
      List.append_assoc]

/-- The digest of the whole text. -/
theorem calcForJsonGen_eq {o : JsonGenCalc} (ho : o.Succeeds) {body : Bytes}
    (hbody : o.pass.Yields body) (key : HmacSha256Key) (digest : HmacSha256) :
    hmacSha256CalcForJsonGen hmac key o digest = (true, hmac key.val body) := by
  have hupdates := mdHmacUpdates_eq ho.complete o.pass.chunks 0 []
    fun j hj => (Nat.zero_add j).symm ▸ ho.updates j hj
  rw [List.nil_append, hbody.2 ho.complete] at hupdates
  rw [hmacSha256CalcForJsonGen, ho.mdInfo, Bool.not_true, if_neg Bool.false_ne_true,
    if_neg (not_not.mpr ho.setup), if_neg (not_not.mpr ho.starts), hupdates]
  exact if_neg (not_not.mpr ho.finish)

theorem calc_eq {mdHmacRet : ℤ} (hret : mdHmacRet = 0) (str : Bytes) (key : HmacSha256Key) :
    hmacSha256Calc hmac str key mdHmacRet = (true, hmac key.val str) :=
  if_neg (not_not.mpr hret)

/-- The calls that the digest of a request is calculated with. -/
inductive DigestCalls
  | jsonGen (o : JsonGenCalc)
  | str (mdHmacRet : ℤ)

def DigestCalls.Succeed : DigestCalls → Prop
  | .jsonGen o => o.Succeeds
  | .str mdHmacRet => mdHmacRet = 0

end Calculation

section Client

/-- The text that a request is about, with the key and the calls for its digest and their result. -/
structure SignedText where
  recipient : Recipient
  body : Bytes
  key : Bytes
  calls : DigestCalls
  computed : Bool

/-- What a client has been given for a request, and what is left of it. -/
structure Client where
  text : SignedText
  hmacHeader : Option Bytes
  postData : Option Bytes
  postLen : ℤ
  /-- What the generator has left, if the client asks it for chunks. -/
  genLeft : Option Bytes
  transmitted : Bool

/-- `esp_http_client_send_post_data`, which is called until it succeeds. The data is written, and a
chunk of the generator becomes the data of the next call. -/
def sendPostData (complete : Bool) (chunks : List Bytes) (c : Client) : Option (Bytes × Client) :=
  if c.postLen = 0 then some ([], c)
  else
    let written := c.postData.getD []
    if c.genLeft.isNone then some (written, c)
    else
      match chunks with
      | [] => if complete then some (written, { c with genLeft := some [] }) else none
      | chunk :: chunks =>
          (sendPostData complete chunks
            { c with postData := some chunk, postLen := chunk.length }).map
              fun r => (written ++ r.1, r.2)

/-- The data that the client would send. -/
def Client.pending (c : Client) : Bytes :=
  if c.postLen = 0 then [] else c.postData.getD [] ++ c.genLeft.getD []

/-- What a client keeps while it sends. -/
structure Client.Resumes (c c' : Client) : Prop where
  text : c'.text = c.text
  hmacHeader : c'.hmacHeader = c.hmacHeader

theorem sendPostData_chunks {complete : Bool} {chunks : List Bytes} (hchunks : [] ∉ chunks)
    {c c' : Client} {written : Bytes} (h : sendPostData complete chunks c = some (written, c'))
    (hlen : c.postLen ≠ 0) (hgen : c.genLeft.isNone = false) :
    complete = true ∧ written = c.postData.getD [] ++ chunks.flatten ∧ c.Resumes c' := by
  induction chunks generalizing c written with
  | nil =>
    rw [sendPostData, if_neg hlen, hgen, if_neg Bool.false_ne_true] at h
    dsimp only at h
    split_ifs at h with hcomplete
    obtain ⟨rfl, rfl⟩ := Prod.mk.inj (Option.some.inj h)
    exact ⟨hcomplete, (List.append_nil _).symm, rfl, rfl⟩
  | cons chunk chunks ih =>
    rw [List.mem_cons, not_or] at hchunks
    rw [sendPostData, if_neg hlen, hgen, if_neg Bool.false_ne_true] at h
    obtain ⟨⟨rest, c₁⟩, hrest, hr⟩ := Option.map_eq_some_iff.mp h
    obtain ⟨rfl, rfl⟩ := Prod.mk.inj hr
    have hchunk : (chunk.length : ℤ) ≠ 0 := by
      rw [Ne, Int.natCast_eq_zero, List.length_eq_zero_iff]
      exact Ne.symm hchunks.1
    obtain ⟨hcomplete, hwritten, hresumes⟩ := ih hchunks.2 hrest hchunk hgen
    refine ⟨hcomplete, ?_, hresumes.text, hresumes.hmacHeader⟩
    rw [hwritten, List.flatten_cons]
    rfl

/-- A request that is sent completely has the data that the client has left. -/
theorem sendPostData_eq_pending {pass : GenPass} {c c' : Client} {written : Bytes}
    (hyields : ∀ left ∈ c.genLeft, pass.Yields left)
    (h : sendPostData pass.complete pass.chunks c = some (written, c')) :
    written = c.pending ∧ c.Resumes c' := by
  unfold Client.pending
  by_cases hlen : c.postLen = 0
  · rw [sendPostData, if_pos hlen] at h
    obtain ⟨rfl, rfl⟩ := Prod.mk.inj (Option.some.inj h)
    rw [if_pos hlen]
    exact ⟨rfl, rfl, rfl⟩
  rw [if_neg hlen]
  cases hgen : c.genLeft with
  | none =>
    rw [sendPostData, if_neg hlen, hgen] at h
    obtain ⟨rfl, rfl⟩ := Prod.mk.inj (Option.some.inj h)
    exact ⟨(List.append_nil _).symm, rfl, rfl⟩
  | some left =>
    have hpass := hyields left hgen
    have hsome : c.genLeft.isNone = false := by rw [hgen]; rfl
    obtain ⟨hcomplete, hwritten, hresumes⟩ := sendPostData_chunks hpass.1 h hlen hsome
    rw [hpass.2 hcomplete] at hwritten
    exact ⟨hwritten, hresumes⟩

end Client

section Requests

structure SentRequest where
  text : SignedText
  hmacHeader : Option Bytes
  body : Bytes
  /-- The key of the recipient when the request is sent. -/
  key : Bytes

/-- The last request is the first of the list. -/
structure Signing where
  targets : Targets
  action : Action
  hmacSha256 : HmacSha256
  client : Option Client
  sent : List SentRequest

structure SendAsyncCalls where
  /-- What `json_stream_gen_calc_size` returns. -/
  jsonLen : ℤ
  postDataSet : Bool
  strAllocated : Bool
  headerSet : Bool

/-- A request may fail before its digest is calculated. -/
structure AdvsCalls where
  prepared : Bool
  body : Bytes
  digest : JsonGenCalc
  send : SendAsyncCalls

structure StatCalls where
  prepared : Bool
  str : Bytes
  mdHmacRet : ℤ
  send : SendAsyncCalls

inductive SigningEvent
  | postAdvs (flagPostToRuuvi : Bool) (o : AdvsCalls)
  | postStat (o : StatCalls)
  | setAction (action : Action)
  | transmit (pass : GenPass)
  | onHeader (h : Header)
  /-- A redirection, or a demand for authorization that the client meets. -/
  | processAgain
  | cleanup

/-- A text is generated chunk by chunk or a string. -/
def Signing.httpSendAsync (useJsonStreamGen : Bool) (text : SignedText) (o : SendAsyncCalls)
    (s : Signing) : Signing :=
  if !o.postDataSet then s
  else
    let hmacSha256Str := hmacSha256ToStrBuf o.strAllocated s.hmacSha256
    { s with
      client := some
        { text := text
          hmacHeader :=
            if hmacSha256IsStrValid hmacSha256Str && o.headerSet then hmacSha256Str else none
          postData := if useJsonStreamGen then none else some text.body
          postLen := if useJsonStreamGen then o.jsonLen else text.body.length
          genLeft := if useJsonStreamGen then some text.body else none
          transmitted := false } }

variable (hmac : Bytes → Bytes → HmacSha256) (osStrToUint32Cptr : Bytes → ℕ → UInt32 × ℕ)

def Signing.httpSendAdvsInternal (flagPostToRuuvi : Bool) (o : AdvsCalls) (s : Signing) : Signing :=
  if !o.prepared then s
  else
    let recipient : Recipient := if flagPostToRuuvi then .advs1 else .advs2
    let key := s.targets.key recipient
    let (computed, digest) := hmacSha256CalcForJsonGen hmac key o.digest s.hmacSha256
    let action : Action := if flagPostToRuuvi then .postAdvsToRuuvi else .postAdvsToCustom
    { s with hmacSha256 := digest, action := action }.httpSendAsync true
      ⟨recipient, o.body, key.val, .jsonGen o.digest, computed⟩ o.send

def Signing.httpSendStatisticsInternal (o : StatCalls) (s : Signing) : Signing :=
  if !o.prepared then s
  else
    let key := s.targets.key .stats
    let (computed, digest) := hmacSha256Calc hmac o.str key o.mdHmacRet
    { s with hmacSha256 := digest }.httpSendAsync false
      ⟨.stats, o.str, key.val, .str o.mdHmacRet, computed⟩ o.send

/-- `esp_http_client_perform` until the request has been sent. -/
def Signing.transmit (pass : GenPass) (s : Signing) : Option Signing := do
  let c ← s.client
  if c.transmitted || !(c.genLeft.all fun left => pass.Yields left) then none
  else
    let (body, c') ← sendPostData pass.complete pass.chunks c
    some { s with
      client := some { c' with transmitted := true }
      sent := ⟨c.text, c.hmacHeader, body, (s.targets.key c.text.recipient).val⟩ :: s.sent }

/-- There is one request at a time. It may be processed again any number of times, and cleaned up at
any time. -/
def Signing.next (s : Signing) : SigningEvent → Option Signing
  | .postAdvs flagPostToRuuvi o =>
      if s.client.isSome ∨ ¬o.digest.pass.Yields o.body then none
      else some (s.httpSendAdvsInternal hmac flagPostToRuuvi o)
  | .postStat o => if s.client.isSome then none else some (s.httpSendStatisticsInternal hmac o)
  | .setAction action => some { s with action := action }
  | .transmit pass => s.transmit pass
  | .onHeader h =>
      if s.client.any Client.transmitted then
        some { s with
          targets := httpPostEventHandlerOnHeader osStrToUint32Cptr s.action h s.targets }
      else none
  | .processAgain =>
      s.client.bind fun c =>
        if c.transmitted then some { s with client := some { c with transmitted := false } }
        else none
  | .cleanup => some { s with client := none }

/-- The requests in any order, from any keys on. A check that the user asks for makes the request of
its target. -/
def signing (targets : Targets) : System Signing SigningEvent Unit where
  init := ⟨targets, .none, .zero, none, []⟩
  step s e := (s.next hmac osStrToUint32Cptr e).map fun s => (s, ())

/-- A header is the digest of the body under the key of the recipient, and there is none if it could
not be calculated. -/
def SentRequest.Signed (r : SentRequest) : Prop :=
  ∀ value ∈ r.hmacHeader, r.text.computed = true ∧ value = (hmac r.key r.body).text

/-- The digest of a request with the header was calculated without failures, its client has the
whole text to send, and the key of its recipient is the one that the digest was calculated with. -/
def Client.KeepsText (targets : Targets) (c : Client) : Prop :=
  c.hmacHeader.isSome = true → c.text.calls.Succeed ∧ c.pending = c.text.body ∧
    (targets.key c.text.recipient).val = c.text.key

/-- Requests are sent only by clients that keep their text. -/
def SigningEvent.SendsText (s : Signing) : SigningEvent → Prop
  | .transmit _ => ∀ c ∈ s.client, c.KeepsText s.targets
  | .postAdvs _ _ => True
  | .postStat _ => True
  | .setAction _ => True
  | .onHeader _ => True
  | .processAgain => True
  | .cleanup => True

end Requests

section Runs

variable {hmac : Bytes → Bytes → HmacSha256} {osStrToUint32Cptr : Bytes → ℕ → UInt32 × ℕ}
variable {s s' : Signing}

/-- If the calls succeed, the header of a client is the digest of its text. -/
def Client.Calculated (hmac : Bytes → Bytes → HmacSha256) (c : Client) : Prop :=
  c.text.calls.Succeed → ∀ value ∈ c.hmacHeader,
    c.text.computed = true ∧ value = (hmac c.text.key c.text.body).text

/-- The invariant of the runs in which clients keep their texts. -/
structure Signing.AllSigned (hmac : Bytes → Bytes → HmacSha256) (s : Signing) : Prop where
  client : ∀ c ∈ s.client, c.Calculated hmac
  sent : ∀ r ∈ s.sent, r.Signed hmac

theorem Signing.AllSigned.of_eq (hs : s.AllSigned hmac) (hclient : s'.client = s.client)
    (hsent : s'.sent = s.sent) : s'.AllSigned hmac :=
  ⟨hclient ▸ hs.client, hsent ▸ hs.sent⟩

/-- The header is the text of what is in the buffer. -/
theorem Signing.AllSigned.httpSendAsync (hs : s.AllSigned hmac) (useJsonStreamGen : Bool)
    {text : SignedText} (o : SendAsyncCalls)
    (htext : text.calls.Succeed → text.computed = true ∧ s.hmacSha256 = hmac text.key text.body) :
    (s.httpSendAsync useJsonStreamGen text o).AllSigned hmac := by
  unfold Signing.httpSendAsync
  by_cases hset : (!o.postDataSet) = true
  · rw [if_pos hset]
    exact hs
  · rw [if_neg hset]
    refine ⟨fun c hc hcalls value hvalue => ?_, hs.sent⟩
    obtain rfl := Option.some.inj hc
    obtain ⟨hcomputed, hdigest⟩ := htext hcalls
    dsimp only at hvalue
    rw [Option.mem_def, Option.ite_none_right_eq_some] at hvalue
    obtain ⟨-, hstr⟩ := hvalue
    unfold hmacSha256ToStrBuf at hstr
    rw [Option.ite_none_right_eq_some, Option.some.injEq, hdigest] at hstr
    exact ⟨hcomputed, hstr.2.symm⟩

theorem Signing.AllSigned.sendAdvs (hs : s.AllSigned hmac) (flagPostToRuuvi : Bool) {o : AdvsCalls}
    (hyields : o.digest.pass.Yields o.body) :
    (s.httpSendAdvsInternal hmac flagPostToRuuvi o).AllSigned hmac := by
  unfold Signing.httpSendAdvsInternal
  by_cases hprepared : (!o.prepared) = true
  · rw [if_pos hprepared]
    exact hs
  · rw [if_neg hprepared]
    dsimp only
    apply Signing.AllSigned.httpSendAsync
    · exact hs.of_eq rfl rfl
    intro hcalls
    dsimp only
    rw [calcForJsonGen_eq hcalls hyields]
    exact ⟨rfl, rfl⟩

theorem Signing.AllSigned.sendStatistics (hs : s.AllSigned hmac) (o : StatCalls) :
    (s.httpSendStatisticsInternal hmac o).AllSigned hmac := by
  unfold Signing.httpSendStatisticsInternal
  by_cases hprepared : (!o.prepared) = true
  · rw [if_pos hprepared]
    exact hs
  · rw [if_neg hprepared]
    dsimp only
    apply Signing.AllSigned.httpSendAsync
    · exact hs.of_eq rfl rfl
    intro hcalls
    dsimp only
    rw [calc_eq hcalls]
    exact ⟨rfl, rfl⟩

/-- A client that keeps its text sends what its header is the digest of. -/
theorem Signing.AllSigned.transmit (hs : s.AllSigned hmac) {pass : GenPass}
    (hkeeps : ∀ c ∈ s.client, c.KeepsText s.targets) (h : s.transmit pass = some s') :
    s'.AllSigned hmac := by
  obtain ⟨c, hc, h⟩ := Option.bind_eq_some_iff.mp h
  split_ifs at h with hready
  obtain ⟨⟨body, c'⟩, hsend, h⟩ := Option.bind_eq_some_iff.mp h
  obtain rfl := Option.some.inj h
  rw [Bool.or_eq_true, not_or, Bool.not_eq_true', Bool.not_eq_false, Option.all_eq_true] at hready
  have hyields : ∀ left ∈ c.genLeft, pass.Yields left :=
    fun left hleft => of_decide_eq_true (hready.2 left hleft)
  obtain ⟨hbody, hresumes⟩ := sendPostData_eq_pending hyields hsend
  constructor
  · intro c₁ hc₁
    obtain rfl := Option.some.inj hc₁
    have hcalculated := hs.client c hc
    rwa [Client.Calculated, ← hresumes.text, ← hresumes.hmacHeader] at hcalculated
  · rw [List.forall_mem_cons]
    refine ⟨fun value hvalue => ?_, hs.sent⟩
    have hheader : c.hmacHeader.isSome = true := Option.isSome_of_mem hvalue
    obtain ⟨hcalls, hpending, hkey⟩ := hkeeps c hc hheader
    have hsigned := hs.client c hc hcalls value hvalue
    dsimp only
    rwa [hbody, hpending, hkey]

theorem Signing.AllSigned.next (hs : s.AllSigned hmac) {e : SigningEvent} (he : e.SendsText s)
    (h : s.next hmac osStrToUint32Cptr e = some s') : s'.AllSigned hmac := by
  cases e with
  | postAdvs flagPostToRuuvi o =>
    simp only [Signing.next] at h
    split_ifs at h with hguard
    obtain rfl := Option.some.inj h
    rw [not_or, not_not] at hguard
    exact hs.sendAdvs flagPostToRuuvi hguard.2
  | postStat o =>
    simp only [Signing.next] at h
    split_ifs at h
    obtain rfl := Option.some.inj h
    exact hs.sendStatistics o
  | setAction action =>
    obtain rfl := Option.some.inj h
    exact hs.of_eq rfl rfl
  | transmit pass => exact hs.transmit he h
  | onHeader header =>
    simp only [Signing.next] at h
    split_ifs at h
    obtain rfl := Option.some.inj h
    exact hs.of_eq rfl rfl
  | processAgain =>
    obtain ⟨c, hc, h⟩ := Option.bind_eq_some_iff.mp h
    split_ifs at h
    obtain rfl := Option.some.inj h
    refine ⟨fun c₁ hc₁ => ?_, hs.sent⟩
    obtain rfl := Option.some.inj hc₁
    exact hs.client c hc
  | cleanup =>
    obtain rfl := Option.some.inj h
    exact ⟨fun _ hc => (nomatch hc), hs.sent⟩

end Runs

section Samples

instance (o : JsonGenCalc) : Decidable o.Succeeds := decidable_of_iff _ o.succeeds_iff.symm

instance : DecidablePred DigestCalls.Succeed
  | .jsonGen o => inferInstanceAs (Decidable o.Succeeds)
  | .str mdHmacRet => inferInstanceAs (Decidable (mdHmacRet = 0))

instance (targets : Targets) (c : Client) : Decidable (c.KeepsText targets) :=
  inferInstanceAs (Decidable (_ → _ ∧ _ ∧ _))

instance (s : Signing) : DecidablePred (SigningEvent.SendsText s)
  | .transmit _ => inferInstanceAs (Decidable (∀ c ∈ s.client, c.KeepsText s.targets))
  | .postAdvs _ _ => inferInstanceAs (Decidable True)
  | .postStat _ => inferInstanceAs (Decidable True)
  | .setAction _ => inferInstanceAs (Decidable True)
  | .onHeader _ => inferInstanceAs (Decidable True)
  | .processAgain => inferInstanceAs (Decidable True)
  | .cleanup => inferInstanceAs (Decidable True)

instance (hmac : Bytes → Bytes → HmacSha256) (r : SentRequest) : Decidable (r.Signed hmac) :=
  inferInstanceAs (Decidable (∀ value ∈ r.hmacHeader, _ ∧ _))

def sampleChunks : List Bytes := [ascii "\x7b\"data\":", ascii "[]\x7d"]

def sampleStatText : Bytes := ascii "\x7b\"status\":[]\x7d"

/-- HMAC-SHA256 of the two texts under the sample key, and of the last chunk. -/
def sampleHmac (_ message : Bytes) : HmacSha256 :=
  if message = sampleChunks.flatten then
    #v[0x58, 0x20, 0x2a, 0x24, 0xfd, 0xdc, 0x2c, 0xf1, 0xd4, 0x8c, 0x76, 0x54,
      0x5a, 0x48, 0xd0, 0xf3, 0x62, 0xf1, 0xb5, 0x65, 0xc4, 0x6d, 0x59, 0xda,
      0x45, 0x20, 0x05, 0x21, 0x3d, 0x79, 0x5a, 0x2c]
  else if message = sampleStatText then
    #v[0x62, 0x6a, 0x91, 0xed, 0x92, 0x91, 0xd9, 0x74, 0xee, 0xc4, 0x03, 0xf3,
      0xd6, 0xaa, 0xe5, 0x39, 0x57, 0x00, 0x70, 0x51, 0x58, 0x3d, 0x30, 0xb9,
      0x0a, 0x27, 0x90, 0x28, 0x1c, 0x08, 0xbd, 0xe1]
  else
    #v[0x26, 0xa8, 0x8a, 0x41, 0xf6, 0x23, 0x35, 0x00, 0x25, 0xc3, 0x9f, 0x8f,
      0x5a, 0xc9, 0x55, 0x06, 0x86, 0x10, 0xdc, 0xd1, 0xd4, 0xa0, 0x87, 0x1e,
      0x5a, 0x50, 0xf4, 0x52, 0x95, 0xb0, 0x2c, 0xb0]

def sampleHmacKey : Header := ⟨ascii "ruuvi-hmac-key", ascii "new"⟩

/-- The calls succeed if `mbedtls_md_hmac_starts` does. -/
def samplePostAdvs (chunks : List Bytes) (startsRet : ℤ) : SigningEvent :=
  .postAdvs true ⟨true, chunks.flatten,
    ⟨true, 0, startsRet, ⟨chunks, true⟩, fun _ => 0, 0, .zero⟩,
    ⟨chunks.flatten.length, true, true, true⟩⟩

def samplePostStat : SigningEvent := .postStat ⟨true, sampleStatText, 0, ⟨0, true, true, true⟩⟩

/-- The header is not the digest of what is sent. -/
def SentRequest.Mismatched (hmac : Bytes → Bytes → HmacSha256) (r : SentRequest) : Prop :=
  ∃ value ∈ r.hmacHeader, value ≠ (hmac r.key r.body).text

instance (hmac : Bytes → Bytes → HmacSha256) (r : SentRequest) : Decidable (r.Mismatched hmac) :=
  inferInstanceAs (Decidable (∃ value ∈ r.hmacHeader, _))

end Samples

end RuuviGateway.Http
