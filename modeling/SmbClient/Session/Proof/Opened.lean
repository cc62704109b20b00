import SmbClient.Runtime.Proof.Wire
import SmbClient.Session.Proof.Incoming

/-!
# Whose key opened a response

An encrypted frame is opened with the key its transform header names, but a session takes every
message inside that names it.
-/

namespace Wire

open Msg Session

namespace WirePipeline

variable {env : Env} {w w' : WirePipeline} {form : MessageForm} {raw : Octets}
variable {frame : Octets} {message : EncryptedMessage}

/-! ## The chain inside a frame -/

def chain (env : Env) (current : Header) (remaining : Octets) : Option (List Header) :=
  if remaining.length < current.nextCommand then none
  else if current.nextCommand = 0 then some [current]
  else match Response.read env (remaining.drop current.nextCommand) with
  | some (.plain next) =>
    (chain env next.header (remaining.drop current.nextCommand)).map (current :: ·)
  | _ => none
termination_by remaining.length
decreasing_by
  rw [List.length_drop]
  omega

def carried (w : WirePipeline) (env : Env) (frame : Octets) : Option (List Header) :=
  match w.openFrame env frame with
  | .ok (plain, raw, _) => chain env plain.header raw
  | .error _ => none

def OpenedWith (w : WirePipeline) (env : Env) (frame : Octets) (sessionId : ℕ) : Prop :=
  ∃ message decryptor opened, Response.read env frame = some (.encrypted message) ∧
    message.header.sessionId = sessionId ∧ w.getDecryptor sessionId = .ok (some decryptor) ∧
    decryptor.decryptMessage env message = .ok opened

theorem admitMember_encrypted (hw : w.Unfinished) (hform : form.encrypted = true) (env : Env)
    (current : PlainResponse) (slice : Octets) :
    ∃ w' response, w.admitMember env form current slice = (w', .ok response) := by
  obtain ⟨w₁, hingest⟩ : ∃ w₁, w.ingestIncoming env current.header slice = .ok w₁ := by
    unfold ingestIncoming
    split
    · exact advance_isOk hw _
    · exact ⟨w, rfl⟩
  have hverify : ∃ form', w₁.verifyPlainIncoming env current.header slice form =
      (w₁, .ok form') := by
    unfold verifyPlainIncoming
    split
    · exact ⟨_, rfl⟩
    · rw [if_pos (.inl hform)]
      exact ⟨_, rfl⟩
  obtain ⟨form', hverify⟩ := hverify
  exact ⟨w₁, ⟨current, slice, form'⟩, by simp only [admitMember, hingest, hverify]⟩

theorem Walked.chain {current : PlainResponse} {remaining : Octets} {rs : List CommandResponse}
    (h : Walked env form w current remaining w' rs) :
    chain env current.header remaining = some (rs.map (·.message.header)) := by
  induction h with
  | last last member => simp [WirePipeline.chain, last, (admitMember_ok member).2.1]
  | next more fits member read _ ih =>
    rw [WirePipeline.chain, if_neg (Nat.not_lt.mpr fits), if_neg more, read]
    simp [ih, (admitMember_ok member).2.1]

theorem walk_encrypted (hform : form.encrypted = true) {remaining : Octets} :
    ∀ {w : WirePipeline} {current : PlainResponse}, w.Unfinished →
      (chain env current.header remaining).isSome →
      ∃ w' rs, w.walk env form current remaining = (w', .ok rs) := by
  induction hn : remaining.length using Nat.strong_induction_on generalizing remaining with
  | _ n ih =>
    intro w current hw h
    rw [chain] at h
    rw [walk]
    split at h
    · cases h
    rename_i hfits
    rw [if_neg hfits]
    obtain ⟨w₁, response, hmember⟩ := admitMember_encrypted hw hform env current
      (memberSlice current.header remaining)
    have hw₁ : w₁.Unfinished := by
      have := (unfinished_sturdy env).admitMember hw form current
        (memberSlice current.header remaining)
      rwa [hmember] at this
    rw [hmember]
    dsimp only
    split at h
    · rename_i hlast
      rw [if_pos hlast]
      exact ⟨_, _, rfl⟩
    rename_i hmore
    rw [if_neg hmore]
    split at h
    · rename_i next hnext
      have hshorter : (remaining.drop current.header.nextCommand).length < n := by
        rw [List.length_drop]
        omega
      obtain ⟨w₂, rest, hrest⟩ := ih _ hshorter rfl hw₁ (by simpa using h)
      rw [hnext]
      simp only [hrest]
      exact ⟨_, _, rfl⟩
    · cases h

/-! ## Frames -/

theorem openFrame_encrypted {plain : PlainResponse}
    (hread : Response.read env frame = some (.encrypted message))
    (h : w.openFrame env frame = .ok (plain, raw, form)) :
    OpenedWith w env frame message.header.sessionId := by
  simp only [openFrame, hread] at h
  obtain ⟨⟨message₁, raw₁, form₁⟩, hdecrypt, -⟩ := Except.bind_eq_ok.mp h
  obtain ⟨found, hfound, hdecrypt⟩ := Except.bind_eq_ok.mp hdecrypt
  cases found with
  | none => cases hdecrypt
  | some decryptor =>
    obtain ⟨opened, hopened, -⟩ := Except.bind_eq_ok.mp hdecrypt
    exact ⟨message, decryptor, opened, hread, rfl, hfound, hopened⟩

variable {rs : List CommandResponse}

/-- Responses of an encrypted frame were decrypted with the key of its session. -/
theorem transformIncomingAll_carried (hread : Response.read env frame = some (.encrypted message))
    (h : w.transformIncomingAll env frame = (w', .ok rs)) :
    w.carried env frame = some (rs.map (·.message.header)) ∧
      OpenedWith w env frame message.header.sessionId ∧ ∀ r ∈ rs, r.form.encrypted = true := by
  unfold transformIncomingAll at h
  split at h
  · cases h
  rename_i plain raw form hopen
  obtain ⟨hplain, hsigned, hencrypted⟩ := openFrame_ok hopen
  refine ⟨?_, openFrame_encrypted hread hopen, fun r hr => ?_⟩
  · simp only [carried, hopen]
    exact (walked h).chain
  · rw [((walked h).decoded hsigned (Response.read_plain hplain) r hr).encrypted]
    exact hencrypted.mpr ⟨message, hread⟩

theorem transformIncomingAll_of_carried {headers : List Header} (hw : w.Unfinished)
    (hread : Response.read env frame = some (.encrypted message))
    (h : w.carried env frame = some headers) :
    ∃ w' rs, w.transformIncomingAll env frame = (w', .ok rs) := by
  unfold carried at h
  split at h
  · rename_i plain raw form hopen
    obtain ⟨-, -, hencrypted⟩ := openFrame_ok hopen
    simp only [transformIncomingAll, hopen]
    exact walk_encrypted (hencrypted.mpr ⟨message, hread⟩) hw (by simp [h])
  · cases h

theorem transformIncomingAll_encrypted
    {response : CommandResponse} (h : w.transformIncomingAll env frame = (w', .ok rs))
    (hr : response ∈ rs) (hform : response.form.encrypted = true) :
    ∃ message, Response.read env frame = some (.encrypted message) := by
  unfold transformIncomingAll at h
  split at h
  · cases h
  rename_i plain raw form hopen
  obtain ⟨hplain, hsigned, hencrypted⟩ := openFrame_ok hopen
  rw [← hencrypted, ← hform]
  exact ((walked h).decoded hsigned (Response.read_plain hplain) response hr).encrypted.symm

end WirePipeline

end Wire

namespace Session

open Msg Wire WirePipeline

namespace ChannelContext

variable {c : ChannelContext} {view : SessionView} {r : CommandResponse}

/-- A status the session boundary knows and does not read as the loss of the session. -/
def statusTaken (status : UInt32) : Bool :=
  match Status.tryFrom status with
  | none => false
  | some status => !decide (status = .userSessionDeleted ∨ status = .networkSessionExpired)

theorem shouldEncrypt_of_ready {s : SessionInfo} (hready : s.isReady = true) :
    ∃ b, s.shouldEncrypt = .ok b := by
  unfold SessionInfo.isReady at hready
  unfold SessionInfo.shouldEncrypt
  split at hready
  · exact ⟨_, rfl⟩
  · cases hready

theorem unsignedAllowed_of_ready (hready : view.session.isReady = true)
    (hinfo : view.connInfo.isSome) (command : Command) :
    ∃ b, unsignedAllowed view command = .ok b := by
  obtain ⟨info, hinfo⟩ := Option.isSome_iff_exists.mp hinfo
  unfold SessionInfo.isReady at hready
  split at hready
  · rename_i algos flags force required hstate
    simp only [unsignedAllowed, SessionInfo.allowUnsigned, hstate]
    split
    · contradiction
    · exact ⟨_, rfl⟩
    · simp only [requiresSigning, hinfo, SessionInfo.isReady, SessionInfo.isGuestOrAnonymous,
        hstate]
      split <;> exact ⟨_, rfl⟩
  · cases hready

theorem verifyIncoming_encrypted_iff (hready : view.session.isReady = true)
    (hinfo : view.connInfo.isSome) (hform : r.form.encrypted = true) :
    c.verifyIncoming view r = .ok () ↔ r.message.header.sessionId = c.sessionId ∧
      r.message.header.sessionId ≠ 0 ∧ statusTaken r.message.header.status = true := by
  obtain ⟨encryption, hencryption⟩ : ∃ b, encryptionRequired view = .ok b := by
    rw [encryptionRequired, if_pos hready]
    exact shouldEncrypt_of_ready hready
  obtain ⟨unsigned, hunsigned⟩ := unsignedAllowed_of_ready hready hinfo r.message.header.command
  unfold verifyIncoming statusTaken
  dsimp only
  cases Status.tryFrom r.message.header.status with
  | none => simp
  | some status =>
    by_cases hlost : status = .userSessionDeleted ∨ status = .networkSessionExpired
    · simp [hlost]
    simp only [hencryption, hunsigned, hlost, hform, MessageForm.signedOrEncrypted,
      Bool.or_true, not_true_eq_false, false_and, if_false, decide_false, Bool.not_false, and_true]
    show (if _ then _ else _) = _ ↔ _
    by_cases hzero : r.message.header.sessionId = 0
    · simp [hzero]
    by_cases hid : r.message.header.sessionId = c.sessionId
    · simp [hid]
    · simp [hzero]

end ChannelContext

def KeepsToItsSession (env : Env) (w : WirePipeline) (frame : Octets)
    (contexts : List (ChannelContext × SessionView)) : Prop :=
  ∀ message headers, Response.read env frame = some (.encrypted message) →
    w.carried env frame = some headers → ∀ header ∈ headers, header.sessionId ≠ 0 →
      ChannelContext.statusTaken header.status = true →
      (∃ c ∈ contexts, c.1.sessionId = header.sessionId) →
      header.sessionId = message.header.sessionId

/-- The responses the sessions take were opened with their own decryptors exactly if the frame
carries no message for a session other than the one that sealed it. -/
theorem opened_by_own_session_iff (env : Env) (events : List WireEvent) (frame : Octets)
    (contexts : List (ChannelContext × SessionView))
    (hready : ∀ c ∈ contexts, c.2.session.isReady = true ∧ c.2.connInfo.isSome) :
    (∀ c ∈ contexts, ∀ r ∈ responses
        ((Run.along (react env) .default events).state.transformIncomingAll env frame).2,
      r.form.encrypted = true → c.1.verifyIncoming c.2 r = .ok () →
      r.message.header.sessionId = c.1.sessionId ∧
        OpenedWith (Run.along (react env) .default events).state env frame c.1.sessionId) ↔
    KeepsToItsSession env (Run.along (react env) .default events).state frame contexts := by
  have hw := along_unfinished env events
  generalize (Run.along (react env) .default events).state = w at hw ⊢
  constructor
  · rintro hall message headers hread hcarried header hmem hzero hstatus ⟨c, hc, hid⟩
    obtain ⟨w', rs, hrs⟩ := transformIncomingAll_of_carried hw hread hcarried
    obtain ⟨hheaders, -, hencrypted⟩ := transformIncomingAll_carried hread hrs
    rw [hcarried, Option.some_inj] at hheaders
    subst hheaders
    obtain ⟨r, hr, rfl⟩ := List.mem_map.mp hmem
    have htaken : c.1.verifyIncoming c.2 r = .ok () :=
      (ChannelContext.verifyIncoming_encrypted_iff (hready c hc).1 (hready c hc).2
        (hencrypted r hr)).mpr ⟨hid.symm, hzero, hstatus⟩
    rw [hrs] at hall
    obtain ⟨hown, message', _, _, hread', hid', -⟩ := hall c hc r hr (hencrypted r hr) htaken
    rw [hread] at hread'
    cases hread'
    exact hown.trans hid'.symm
  · intro hkeeps c hc r hr hform htaken
    obtain ⟨hid, hzero, hstatus⟩ := (ChannelContext.verifyIncoming_encrypted_iff (hready c hc).1
      (hready c hc).2 hform).mp htaken
    cases hresult : w.transformIncomingAll env frame with
    | mk w' result =>
      rw [hresult] at hr
      cases result with
      | error error => cases hr
      | ok rs =>
        obtain ⟨message, hread⟩ := transformIncomingAll_encrypted hresult hr hform
        obtain ⟨hcarried, hopened, -⟩ := transformIncomingAll_carried hread hresult
        have hsame := hkeeps message _ hread hcarried _ (List.mem_map_of_mem hr) hzero hstatus
          ⟨c, hc, hid.symm⟩
        refine ⟨hid, ?_⟩
        rw [← hid, hsame]
        exact hopened

/-! ## Two sessions -/

def twoSessions : List WireEvent :=
  [.negotiated sampleInfo, .infoCreated (readySession 1), .entryCreated 1 0,
    .infoCreated (readySession 2), .entryCreated 2 1, .sessionStarted 0, .sessionStarted 1]

def bothContexts : List (ChannelContext × SessionView) :=
  [(⟨1, 0, 0⟩, ⟨readySession 1, some sampleInfo⟩), (⟨2, 0, 1⟩, ⟨readySession 2, some sampleInfo⟩)]

def sealedEcho (sealedBy : ℕ) : Octets :=
  EncryptedHeader.write ⟨0, List.replicate 16 0, 68, sealedBy⟩ ++
    ((responseHeader .echo 2 0 false).write ++ echoBody)

def openedEcho : CommandResponse :=
  ⟨⟨responseHeader .echo 2 0 false, .other⟩, (responseHeader .echo 2 0 false).write ++ echoBody,
    { MessageForm.default with encrypted := true }⟩

theorem sealedEcho_responses (id : ℕ) (h : id = 1 ∨ id = 2) :
    responses ((Run.along (react sampleEnv) .default twoSessions).state.transformIncomingAll
      sampleEnv
      (sealedEcho id)).2 = [openedEcho] := by
  rcases h with rfl | rfl <;> decide +kernel

def sealedFor : Response → ℕ
  | .encrypted message => message.header.sessionId
  | _ => 0

theorem sealedEcho_sealedFor {id : ℕ} (h : id = 1 ∨ id = 2) {message : EncryptedMessage}
    (hread : Response.read sampleEnv (sealedEcho id) = some (.encrypted message)) :
    message.header.sessionId = id := by
  have hfor : (Response.read sampleEnv (sealedEcho id)).map sealedFor = some id := by
    rcases h with rfl | rfl <;> decide +kernel
  rw [hread] at hfor
  exact Option.some_inj.mp hfor

theorem own_echo_opened :
    openedEcho ∈ responses
    ((Run.along (react sampleEnv) .default twoSessions).state.transformIncomingAll
        sampleEnv (sealedEcho 2)).2 ∧
      OpenedWith (Run.along (react sampleEnv) .default twoSessions).state sampleEnv
      (sealedEcho 2) 2 := by
  have hmem : openedEcho ∈ responses ((Run.along (react sampleEnv) .default
      twoSessions).state.transformIncomingAll sampleEnv (sealedEcho 2)).2 := by
    rw [sealedEcho_responses 2 (.inr rfl)]
    exact List.mem_singleton_self _
  have hcarried : (Run.along (react sampleEnv) .default twoSessions).state.carried sampleEnv
      (sealedEcho 2) = some [responseHeader .echo 2 0 false] := by
    decide +kernel
  refine ⟨hmem, ((opened_by_own_session_iff sampleEnv twoSessions (sealedEcho 2) bothContexts
    (by decide)).mpr ?_ _ (List.mem_cons_of_mem _ (List.mem_singleton_self _)) openedEcho hmem rfl
    rfl).2⟩
  intro message headers hmessage hheaders header hheader _ _ _
  rw [hcarried] at hheaders
  cases hheaders
  obtain rfl := List.mem_singleton.mp hheader
  exact (sealedEcho_sealedFor (.inr rfl) hmessage).symm

/-- The echo session 1 sealed is taken by session 2. -/
theorem foreign_echo_taken :
    (∀ c ∈ bothContexts, c.2.session.isReady = true ∧ c.2.connInfo.isSome) ∧
    ∃ c ∈ bothContexts, ∃ r ∈ responses ((Run.along (react sampleEnv) .default
        twoSessions).state.transformIncomingAll sampleEnv (sealedEcho 1)).2,
      r.form.encrypted = true ∧ c.1.verifyIncoming c.2 r = .ok () ∧
      ¬ OpenedWith (Run.along (react sampleEnv) .default twoSessions).state sampleEnv (sealedEcho 1)
        c.1.sessionId := by
  refine ⟨by decide, _, List.mem_cons_of_mem _ (List.mem_singleton_self _), openedEcho,
    ?_, rfl, rfl, ?_⟩
  · rw [sealedEcho_responses 1 (.inl rfl)]
    exact List.mem_singleton_self _
  · rintro ⟨message, _, _, hmessage, hid, -⟩
    exact absurd (hid.symm.trans (sealedEcho_sealedFor (.inl rfl) hmessage)) (by decide)

end Session
