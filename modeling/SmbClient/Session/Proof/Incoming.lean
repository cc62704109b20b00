import SmbClient.Lib.Run
import SmbClient.Session.Channel

/-!
# Which responses a session takes

A message the pipeline marks as signed carries the MAC of exactly its own bytes, under the signer of
its session id when its frame was decoded.
-/

namespace Wire

open Msg Session

namespace WirePipeline

variable {env : Env} {w w' : WirePipeline} {header : Header} {form form' : MessageForm}
  {slice raw : Octets} {current : PlainResponse} {response : CommandResponse}
variable {data remaining : Octets} {message : Response}

/-! ## What decoding leaves alone -/

structure Settles (w w' : WirePipeline) : Prop where
  sessions : w'.sessions = w.sessions
  store : w'.store = w.store
  signers : ∀ id signer, w'.setupSigners.lookup id = some signer →
    w.setupSigners.lookup id = some signer

theorem Settles.refl (w : WirePipeline) : Settles w w := ⟨rfl, rfl, fun _ _ h => h⟩

theorem Settles.trans {w'' : WirePipeline} (h : Settles w w') (h' : Settles w' w'') :
    Settles w w'' :=
  ⟨h'.sessions.trans h.sessions, h'.store.trans h.store,
    fun id signer hs => h.signers id signer (h'.signers id signer hs)⟩

theorem Settles.getSigner (h : Settles w w') {id : ℕ} {signer : MessageSigner}
    (hs : w'.getSigner id = .ok (some signer)) : w.getSigner id = .ok (some signer) := by
  obtain ⟨entry, hentry, hs⟩ := Except.bind_eq_ok.mp hs
  have hentry' : w.sessionEntry id = .ok entry := by
    rw [← hentry, sessionEntry, sessionEntry, h.sessions]
  refine Except.bind_eq_ok.mpr ⟨entry, hentry', ?_⟩
  rw [h.store] at hs
  cases hc : w.store.channel entry with
  | some channel =>
    rw [hc] at hs
    exact hs
  | none =>
    rw [hc] at hs
    have hlookup : w'.setupSigners.lookup id = some signer := Except.ok.inj hs
    dsimp only
    rw [h.signers id signer hlookup]
    rfl

theorem advance_settles (h : w.advance env data = .ok w') : Settles w w' := by
  obtain ⟨hash, -, hw⟩ := Except.bind_eq_ok.mp h
  cases hw
  exact ⟨rfl, rfl, fun _ _ h => h⟩

theorem ingestIncoming_settles (h : w.ingestIncoming env header slice = .ok w') : Settles w w' := by
  unfold ingestIncoming at h
  split at h
  · exact advance_settles h
  · cases h
    exact .refl w

/-! ## Verification -/

def Verified (env : Env) (w : WirePipeline) (header : Header) (raw : Octets) : Prop :=
  Header.structSize ≤ raw.length ∧
    ∃ signer, w.getSigner header.sessionId = .ok (some signer) ∧
      signer.mac env header (MessageSigner.zeroSignature raw) = header.signature

theorem Verified.before (h : Settles w w') (hv : Verified env w' header raw) :
    Verified env w header raw := by
  obtain ⟨hlen, signer, hs, hmac⟩ := hv
  exact ⟨hlen, signer, h.getSigner hs, hmac⟩

theorem verifyPlainIncoming_ok (h : w.verifyPlainIncoming env header raw form = (w', .ok form')) :
    Settles w w' ∧ form'.encrypted = form.encrypted ∧
      (form'.signed = true → form.signed = true ∨ Verified env w header raw) := by
  unfold verifyPlainIncoming at h
  split at h
  · cases h
    exact ⟨.refl w, rfl, .inl⟩
  split at h
  · cases h
    exact ⟨.refl w, rfl, .inl⟩
  split at h
  · cases h
  · cases h
  rename_i signer hsigner
  split at h
  · cases h
  rename_i hcheck
  obtain ⟨hlen, hmac⟩ := MessageSigner.check_eq_ok.mp hcheck
  have hverified : Verified env w header raw := ⟨hlen, signer, hsigner, hmac⟩
  split at h
  · cases h
    refine ⟨⟨rfl, rfl, fun id signer hid => ?_⟩, rfl, fun _ => .inr hverified⟩
    rw [Table.lookup_erase_eq] at hid
    split at hid
    · cases hid
    · exact hid
  · cases h
    exact ⟨.refl w, rfl, fun _ => .inr hverified⟩

/-- An admitted member counts as signed only if it was verified. -/
theorem admitMember_ok (h : w.admitMember env form current slice = (w', .ok response)) :
    Settles w w' ∧ response.message = current ∧ response.raw = slice ∧
      response.form.encrypted = form.encrypted ∧
      (response.form.signed = true → form.signed = true ∨ Verified env w current.header slice) := by
  unfold admitMember at h
  split at h
  · cases h
  rename_i w₁ hingest
  have hsettles := ingestIncoming_settles hingest
  split at h
  · cases h
  rename_i w₂ form₂ hverify
  cases h
  obtain ⟨hsettles', hencrypted, hsigned⟩ := verifyPlainIncoming_ok hverify
  refine ⟨hsettles.trans hsettles', rfl, rfl, hencrypted, fun hs => ?_⟩
  exact (hsigned hs).imp id (Verified.before hsettles)

/-! ## The chain -/

theorem memberSlice_eq (header : Header) (remaining : Octets) :
    ∃ n, memberSlice header remaining = remaining.take n := by
  unfold memberSlice
  split
  · exact ⟨_, rfl⟩
  · exact ⟨remaining.length, (List.take_length).symm⟩

theorem read_memberSlice (h : Header.read remaining = some header)
    (hlen : Header.structSize ≤ (memberSlice header remaining).length) :
    Header.read (memberSlice header remaining) = some header := by
  obtain ⟨n, hn⟩ := memberSlice_eq header remaining
  rw [hn] at hlen ⊢
  rw [List.length_take] at hlen
  rw [Header.read_take (hlen.trans (Nat.min_le_left _ _)), h]

structure Decoded (env : Env) (w : WirePipeline) (encrypted : Bool) (r : CommandResponse) :
    Prop where
  encrypted : r.form.encrypted = encrypted
  verified : r.form.signed = true → Verified env w r.message.header r.raw
  header : r.form.signed = true → Header.read r.raw = some r.message.header

theorem Decoded.before {encrypted : Bool} (h : Settles w w')
    (hd : Decoded env w' encrypted response) : Decoded env w encrypted response :=
  ⟨hd.encrypted, fun hs => (hd.verified hs).before h, hd.header⟩

theorem admitMember_decoded (hform : form.signed = false)
    (hread : Header.read remaining = some current.header)
    (h : w.admitMember env form current (memberSlice current.header remaining) =
      (w', .ok response)) : Decoded env w form.encrypted response := by
  obtain ⟨-, hmessage, hraw, hencrypted, hsigned⟩ := admitMember_ok h
  have hverified : response.form.signed = true →
      Verified env w current.header (memberSlice current.header remaining) := fun hs =>
    (hsigned hs).resolve_left (by simp [hform])
  refine ⟨hencrypted, fun hs => ?_, fun hs => ?_⟩
  · rw [hmessage, hraw]
    exact hverified hs
  · rw [hmessage, hraw]
    exact read_memberSlice hread (hverified hs).1

/-- A walk that came to the end of the chain. -/
inductive Walked (env : Env) (form : MessageForm) :
    WirePipeline → PlainResponse → Octets → WirePipeline → List CommandResponse → Prop where
  | last {w w' : WirePipeline} {current : PlainResponse} {remaining : Octets}
      {response : CommandResponse} (last : current.header.nextCommand = 0)
      (member : w.admitMember env form current (memberSlice current.header remaining) =
        (w', .ok response)) : Walked env form w current remaining w' [response]
  | next {w w₁ w' : WirePipeline} {current next : PlainResponse} {remaining : Octets}
      {response : CommandResponse} {responses : List CommandResponse}
      (more : current.header.nextCommand ≠ 0) (fits : current.header.nextCommand ≤ remaining.length)
      (member : w.admitMember env form current (memberSlice current.header remaining) =
        (w₁, .ok response))
      (read : Response.read env (remaining.drop current.header.nextCommand) = some (.plain next))
      (rest : Walked env form w₁ next (remaining.drop current.header.nextCommand) w' responses) :
      Walked env form w current remaining w' (response :: responses)

variable {rs : List CommandResponse}

/-- **A walk that succeeds admits every member.** -/
theorem walked (h : w.walk env form current remaining = (w', .ok rs)) :
    Walked env form w current remaining w' rs := by
  -- Induction on the bytes that are left: the rest of the chain is shorter.
  induction hn : remaining.length using Nat.strong_induction_on
    generalizing w w' current remaining rs with
  | _ n ih =>
    rw [walk] at h
    split at h
    · cases h
    rename_i hfits
    split at h
    · cases h
    rename_i w₁ response hmember
    split at h
    · rename_i hlast
      cases h
      exact .last hlast hmember
    rename_i hmore
    split at h
    · cases h
    · rename_i next hnext
      split at h
      · cases h
      rename_i w₂ rest hrest
      cases h
      have hshorter : (remaining.drop current.header.nextCommand).length < n := by
        rw [List.length_drop]
        omega
      exact .next hmore (Nat.not_lt.mp hfits) hmember hnext (ih _ hshorter hrest rfl)
    · cases h

theorem Walked.decoded (h : Walked env form w current remaining w' rs)
    (hform : form.signed = false) (hread : Header.read remaining = some current.header) :
    ∀ r ∈ rs, Decoded env w form.encrypted r := by
  induction h with
  | last _ member => simpa using admitMember_decoded hform hread member
  | next _ _ member read _ ih =>
    refine List.forall_mem_cons.mpr ⟨admitMember_decoded hform hread member, fun r hr => ?_⟩
    exact (ih (Response.read_plain read) r hr).before (admitMember_ok member).1

/-! ## Frames -/

theorem decryptMessage_ok {algo : EncryptingAlgo} {encrypted : EncryptedMessage}
    (h : algo.decryptMessage env encrypted = .ok (message, raw)) :
    Response.read env raw = some message := by
  obtain ⟨buffer, -, h⟩ := Except.bind_eq_ok.mp h
  split at h
  · cases h
  rename_i response hread
  cases h
  exact hread

theorem decryptFrame_ok {message' : Response} (hread : Response.read env data = some message)
    (h : w.decryptFrame env message data = .ok (message', raw, form)) :
    Response.read env raw = some message' ∧ form.signed = false ∧
      (form.encrypted = true ↔ ∃ encrypted, message = .encrypted encrypted) := by
  unfold decryptFrame at h
  split at h
  · rename_i encrypted
    obtain ⟨found, -, h⟩ := Except.bind_eq_ok.mp h
    cases found with
    | none => cases h
    | some decryptor =>
      obtain ⟨⟨opened, buffer⟩, hopened, h⟩ := Except.bind_eq_ok.mp h
      cases h
      exact ⟨decryptMessage_ok hopened, rfl, iff_of_true rfl ⟨encrypted, rfl⟩⟩
  · rename_i hplain
    cases h
    exact ⟨hread, rfl, iff_of_false (by decide) fun ⟨encrypted, he⟩ => hplain encrypted he⟩

theorem decompressFrame_ok {raw' : Octets} {message' : Response}
    (hread : Response.read env raw = some message)
    (h : w.decompressFrame env message raw form = .ok (message', raw', form')) :
    Response.read env raw' = some message' ∧ form'.signed = form.signed ∧
      form'.encrypted = form.encrypted := by
  unfold decompressFrame at h
  split at h
  · split at h
    · cases h
    split at h
    · cases h
    split at h
    · cases h
    rename_i hread'
    cases h
    exact ⟨hread', rfl, rfl⟩
  · cases h
    exact ⟨hread, rfl, rfl⟩

/-- An opened frame is encrypted exactly if its bytes were. -/
theorem openFrame_ok {plain : PlainResponse} (h : w.openFrame env data = .ok (plain, raw, form)) :
    Response.read env raw = some (.plain plain) ∧ form.signed = false ∧
      (form.encrypted = true ↔ ∃ encrypted,
        Response.read env data = some (.encrypted encrypted)) := by
  unfold openFrame at h
  split at h
  · cases h
  rename_i message hmessage
  obtain ⟨⟨message₁, raw₁, form₁⟩, hdecrypt, h⟩ := Except.bind_eq_ok.mp h
  obtain ⟨⟨message₂, raw₂, form₂⟩, hdecompress, h⟩ := Except.bind_eq_ok.mp h
  obtain ⟨hread₁, hsigned₁, hencrypted⟩ := decryptFrame_ok hmessage hdecrypt
  obtain ⟨hread₂, hsigned₂, hsame⟩ := decompressFrame_ok hread₁ hdecompress
  cases message₂ with
  | plain message =>
    cases h
    refine ⟨hread₂, hsigned₂.trans hsigned₁, ?_⟩
    rw [hsame, hencrypted, hmessage]
    simp
  | encrypted message => cases h
  | compressed message => cases h

theorem transformIncomingAll_decoded (h : w.transformIncomingAll env data = (w', .ok rs)) :
    ∀ r ∈ rs, ∃ encrypted, Decoded env w encrypted r := by
  unfold transformIncomingAll at h
  split at h
  · cases h
  rename_i plain raw form hopen
  obtain ⟨hread, hsigned, -⟩ := openFrame_ok hopen
  intro r hr
  exact ⟨form.encrypted, (walked h).decoded hsigned (Response.read_plain hread) r hr⟩

end WirePipeline

end Wire

namespace Session

open Msg Wire WirePipeline

/-! ## The session boundary -/

def SessionView.SigningRequired (view : SessionView) : Prop :=
  ∃ algos flags force required, view.session.state = .ready algos flags force required ∧
    flags.isGuestOrNullSession = false ∧
    (required = true ∨ ∃ info, view.connInfo = some info ∧ info.negotiation.signingRequired = true)

namespace ChannelContext

variable {c : ChannelContext} {view : SessionView} {r : CommandResponse}

theorem verifyIncoming_sessionId (h : c.verifyIncoming view r = .ok ()) :
    r.message.header.sessionId = c.sessionId := by
  unfold verifyIncoming at h
  dsimp only at h
  split at h
  · cases h
  split at h
  · cases h
  obtain ⟨encryption, -, h⟩ := Except.bind_eq_ok.mp h
  obtain ⟨allowed, -, h⟩ := Except.bind_eq_ok.mp h
  split at h
  · cases h
  split at h
  · cases h
  · rename_i hid
    exact not_not.mp hid

theorem unsignedAllowed_of_required {command : Command} {allowed : Bool}
    (hview : view.SigningRequired) (h : unsignedAllowed view command = .ok allowed) :
    allowed = false := by
  obtain ⟨algos, flags, force, required, hstate, hguest, hsign⟩ := hview
  have hunsigned : view.session.allowUnsigned = .ok (!required) := by
    simp [SessionInfo.allowUnsigned, hstate, hguest]
  unfold unsignedAllowed at h
  rw [hunsigned] at h
  rcases hsign with rfl | ⟨info, hinfo, hserver⟩
  · cases h
    rfl
  · cases required with
    | true =>
      cases h
      rfl
    | false =>
      simp only [requiresSigning, hinfo, hserver] at h
      cases h
      rfl

theorem verifyIncoming_protected (hview : view.SigningRequired)
    (h : c.verifyIncoming view r = .ok ()) : r.form.signedOrEncrypted = true := by
  unfold verifyIncoming at h
  dsimp only at h
  split at h
  · cases h
  split at h
  · cases h
  obtain ⟨encryption, -, h⟩ := Except.bind_eq_ok.mp h
  obtain ⟨allowed, hallowed, h⟩ := Except.bind_eq_ok.mp h
  obtain rfl := unsignedAllowed_of_required hview hallowed
  split at h
  · cases h
  split at h
  · cases h
  split at h
  · cases h
  split at h
  · cases h
  · rename_i hprotected
    simpa using hprotected

theorem executeForWithReplay_ok {atPrepare atAnswer atReturn : SessionView} {msg : CommandRequest}
    {answer : Except Error CommandResponse} {options : ResponseOptions}
    (h : c.executeForWithReplay atPrepare atAnswer atReturn msg answer options = .ok r) :
    answer = .ok r ∧ c.verifyIncoming atReturn r = .ok () := by
  obtain ⟨-, -, h⟩ := Except.bind_eq_ok.mp h
  obtain ⟨response, hresponse, h⟩ := Except.bind_eq_ok.mp h
  have hanswer : answer = .ok response := by
    unfold ConnectionCore.executeForWithReplay at hresponse
    split at hresponse
    · cases hresponse
    split at hresponse
    · cases hresponse
    split at hresponse
    · cases hresponse
    · cases hresponse
      rfl
  split at h
  · cases h
  obtain ⟨_, hverify, h⟩ := Except.bind_eq_ok.mp h
  cases h
  exact ⟨hanswer, hverify⟩

end ChannelContext

/-- A response that a session bound to sign takes from an unencrypted frame carries its id and the
MAC of its own bytes under a signer that was registered for it. -/
theorem accepted_response_is_signed (env : Env) (events : List WireEvent) (c : ChannelContext)
    (atPrepare atAnswer atReturn : SessionView) (msg : CommandRequest) (options : ResponseOptions)
    (answer : Except Error CommandResponse)
    (hanswer : ∀ r, answer = .ok r → r ∈ (Run.along (react env) .default events).outputs)
    (hview : atReturn.SigningRequired) :
    ∀ r, c.executeForWithReplay atPrepare atAnswer atReturn msg answer options = .ok r →
      r.form.encrypted = false →
      r.message.header.sessionId = c.sessionId ∧
      Header.read r.raw = some r.message.header ∧
      ∃ before frame after, events = before ++ .incoming frame :: after ∧
        ∃ w, w = (Run.along (react env) .default before).state ∧
          r ∈ responses (w.transformIncomingAll env frame).2 ∧
          ∃ signer, w.getSigner c.sessionId = .ok (some signer) ∧
            signer.mac env r.message.header (MessageSigner.zeroSignature r.raw) =
              r.message.header.signature := by
  intro r hr hencrypted
  obtain ⟨hfrom, hverify⟩ := ChannelContext.executeForWithReplay_ok hr
  have hid := ChannelContext.verifyIncoming_sessionId hverify
  have hsigned : r.form.signed = true := by
    have := ChannelContext.verifyIncoming_protected hview hverify
    simpa [MessageForm.signedOrEncrypted, hencrypted] using this
  obtain ⟨before, event, after, hevents, hmem⟩ := Run.mem_outputs (hanswer r hfrom)
  cases event with
  | incoming frame =>
    have hmem' : r ∈ responses
        ((Run.along (react env) .default before).state.transformIncomingAll env frame).2 := hmem
    obtain ⟨encrypted, hd⟩ : ∃ encrypted,
        Decoded env (Run.along (react env) .default before).state encrypted r := by
      cases hresult : (Run.along (react env) .default before).state.transformIncomingAll
        env frame with
      | mk w' result =>
        rw [hresult] at hmem'
        cases result with
        | error error => cases hmem'
        | ok rs => exact transformIncomingAll_decoded hresult r hmem'
    obtain ⟨-, signer, hsigner, hmac⟩ := hd.verified hsigned
    rw [hid] at hsigner
    exact ⟨hid, hd.header hsigned, before, frame, after, hevents, _, rfl, hmem', signer,
      hsigner, hmac⟩
  | _ => cases hmem

/-! ## A session and an echo -/

def sampleKey : Key := ⟨List.replicate 16 0, rfl⟩

def sampleInfo : ConnectionInfo where
  negotiation :=
    { signingRequired := true, dfs := false, compression := false, signingAlgo := none
      encryptionCipher := none, dialectRev := .smb021 }
  config :=
    { signingPolicy := .required, allowUnsignedGuestAccess := false, encryptionMode := .allowed
      compressionEnabled := false }
  preauthHash := .unsupported
  unfinished := PreauthHashState.unsupported_ne_finished

def readySession (id : ℕ) : SessionInfo :=
  ⟨id, .ready ⟨none, some ⟨.aes128Gcm, sampleKey⟩⟩ ⟨false, false, false⟩ false true⟩

def sampleChannel : ChannelInfo := ⟨0, ⟨.hmacSha256, sampleKey⟩, true, false⟩

def responseHeader (command : Command) (sessionId signature : ℕ) (signed : Bool) : Header where
  creditCharge := 0
  status := Status.success.code
  command
  creditRequest := 1
  flags := { HeaderFlags.new with serverToRedir := true, signed }
  nextCommand := 0
  messageId := 3
  treeId := some 0
  asyncId := none
  sessionId
  signature

def echoBody : Octets := [4, 0, 0, 0]

def signedEcho : Octets := (responseHeader .echo 5 68 true).write ++ echoBody

def echoResponse : CommandResponse :=
  ⟨⟨responseHeader .echo 5 68 true, .other⟩, signedEcho,
    { MessageForm.default with signed := true }⟩

def echoRequest : CommandRequest :=
  { header := responseHeader .echo 5 0 false, body := echoBody, additionalData := none
    security := none }

def echoRun : List WireEvent :=
  [.negotiated sampleInfo, .infoCreated (readySession 5), .entryCreated 5 0,
    .channelInstalled 0 sampleChannel, .sessionStarted 0, .incoming signedEcho]

def echoView : SessionView := ⟨readySession 5, some sampleInfo⟩

theorem echoRun_outputs :
    (Run.along (react sampleEnv) .default echoRun).outputs = [echoResponse] := by
  decide +kernel

theorem echo_is_signed :
    ChannelContext.executeForWithReplay ⟨5, 0, 0⟩ echoView echoView echoView echoRequest
        (.ok echoResponse) ⟨[.success], some .echo, 3⟩ = .ok echoResponse ∧
      ∃ before frame after, echoRun = before ++ .incoming frame :: after ∧
        ∃ w, w = (Run.along (react sampleEnv) .default before).state ∧
          echoResponse ∈ responses (w.transformIncomingAll sampleEnv frame).2 ∧
          ∃ signer, w.getSigner 5 = .ok (some signer) ∧
            signer.mac sampleEnv echoResponse.message.header
              (MessageSigner.zeroSignature echoResponse.raw) =
                echoResponse.message.header.signature := by
  have hreturned : ChannelContext.executeForWithReplay ⟨5, 0, 0⟩ echoView echoView echoView
      echoRequest (.ok echoResponse) ⟨[.success], some .echo, 3⟩ = .ok echoResponse := by
    rfl
  have hsigned := accepted_response_is_signed sampleEnv echoRun ⟨5, 0, 0⟩ echoView echoView echoView
    echoRequest ⟨[.success], some .echo, 3⟩ (.ok echoResponse)
    (by
      rintro r hr
      cases hr
      rw [echoRun_outputs]
      exact List.mem_singleton_self _)
    ⟨_, _, _, _, rfl, rfl, .inl rfl⟩ echoResponse hreturned rfl
  exact ⟨hreturned, hsigned.2.2⟩

end Session
