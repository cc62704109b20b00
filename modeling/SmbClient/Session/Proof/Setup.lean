import SmbClient.Session.Proof.Opened
import SmbClient.Session.Setup

/-!
# What a completed session setup has checked

A setup can leave its loop before any final request, when the mechanism is done and silent: then the
last response it took was an intermediate one, which nobody verified.
-/

namespace Session

open Msg Wire WirePipeline SessionSetup SessionStore

/-! ## The session store -/

namespace SessionStore

variable {store : SessionStore} {entry : EntryRef} {old new : SessionInfo} {channel : ChannelInfo}

theorem entry_of_info (h : store.info entry = some old) :
    ∃ e, store.entries[entry]? = some e ∧ store.infos[e.session]? = some old := by
  unfold info at h
  cases he : store.entries[entry]? with
  | none => simp [he] at h
  | some e => exact ⟨e, rfl, by simpa [he] using h⟩

theorem info_setInfo (h : store.info entry = some old) (new : SessionInfo) :
    (store.setInfo entry new).info entry = some new := by
  obtain ⟨e, he, hi⟩ := entry_of_info h
  have hlt : e.session < store.infos.length := (List.getElem?_eq_some_iff.mp hi).1
  simp [setInfo, info, he, List.getElem?_set_self hlt]

theorem channel_setInfo (store : SessionStore) (entry : EntryRef) (new : SessionInfo) :
    (store.setInfo entry new).channel entry = store.channel entry := by
  unfold setInfo
  split <;> rfl

theorem info_setChannel (store : SessionStore) (entry : EntryRef) (channel : ChannelInfo) :
    (store.setChannel entry channel).info entry = store.info entry := by
  unfold setChannel
  split
  · rfl
  rename_i e he
  have hlt : entry < store.entries.length := (List.getElem?_eq_some_iff.mp he).1
  simp [info, he, List.getElem?_set_self hlt]

theorem entry_setChannel {e : SessionAndChannel} (h : store.entries[entry]? = some e)
    (channel : ChannelInfo) :
    (store.setChannel entry channel).entries[entry]? = some { e with channel := some channel } := by
  have hlt : entry < store.entries.length := (List.getElem?_eq_some_iff.mp h).1
  simp [setChannel, h, List.getElem?_set_self hlt]

theorem channel_setChannel {e : SessionAndChannel} (h : store.entries[entry]? = some e)
    (channel : ChannelInfo) : (store.setChannel entry channel).channel entry = some channel := by
  simp [SessionStore.channel, entry_setChannel h]

end SessionStore

/-! ## The setup's computations -/

namespace SessionSetup

variable {G α β : Type} {s s' : SessionSetup G} {b : β}
variable {r : CommandResponse}

theorem bind_ok {x : SetupM G α} {f : α → SetupM G β} :
    (x >>= f) s = .ok b s' ↔ ∃ a s₁, x s = .ok a s₁ ∧ f a s₁ = .ok b s' := by
  show EStateM.bind x f s = _ ↔ _
  unfold EStateM.bind
  cases x s <;> simp

theorem get_bind {f : SessionSetup G → SetupM G β} : (get >>= f) s = f s s := rfl

theorem set_bind {s₁ : SessionSetup G} {f : PUnit → SetupM G β} : (set s₁ >>= f) s = f ⟨⟩ s₁ := rfl

theorem modify_eq {f : SessionSetup G → SessionSetup G} :
    (modify f : SetupM G PUnit) s = .ok ⟨⟩ (f s) := rfl

theorem pure_eq {a : α} : (pure a : SetupM G α) s = .ok a s := rfl

theorem throw_ne_ok {error : Error} : (throw error : SetupM G β) s ≠ .ok b s' := nofun

theorem lift_ok {x : Except Error β} : lift x s = .ok b s' ↔ x = .ok b ∧ s' = s := by
  cases x with
  | ok b' =>
    show EStateM.Result.ok b' s = _ ↔ _
    simp [eq_comm]
  | error error =>
    show EStateM.Result.error error s = _ ↔ _
    simp

theorem lift_bind {x : Except Error α} {f : α → SetupM G β} :
    (lift x >>= f) s = .ok b s' ↔ ∃ a, x = .ok a ∧ f a s = .ok b s' := by
  simp [bind_ok, lift_ok]

theorem session_bind {entry : EntryRef} {f : SessionInfo → SetupM G β} :
    (session entry >>= f) s = .ok b s' ↔ ∃ x, s.store.info entry = some x ∧ f x s = .ok b s' := by
  have hsession : ∀ x s₁, session entry s = .ok x s₁ ↔ s.store.info entry = some x ∧ s₁ = s := by
    simp only [session, get_bind]
    cases s.store.info entry <;> simp [pure_eq, throw_ne_ok, eq_comm]
  simp [bind_ok, hsession]

theorem entryOr_bind {why : String} {f : EntryRef → SetupM G β} :
    (entryOr why >>= f) s = .ok b s' ↔ ∃ entry, s.result = some entry ∧ f entry s = .ok b s' := by
  have hentry : ∀ entry s₁, entryOr why s = .ok entry s₁ ↔ s.result = some entry ∧ s₁ = s := by
    simp only [entryOr, get_bind]
    cases s.result <;> simp [pure_eq, throw_ne_ok, eq_comm]
  simp [bind_ok, hentry]

variable {env : Env} {info : ConnectionInfo} {gss : Gss G} {round : Round}

theorem sessionKey_bind {f : Key → SetupM G β} :
    (sessionKey gss >>= f) s = .ok b s' ↔
      ∃ key, gss.sessionKey s.authenticator = .ok key ∧ f key s = .ok b s' := by
  simp [bind_ok, sessionKey, get_bind, lift_ok]

theorem isAuthenticated_bind {f : Bool → SetupM G β} :
    (isAuthenticated gss >>= f) s = .ok b s' ↔
      ∃ done, gss.isAuthenticated s.authenticator = .ok done ∧ f done s = .ok b s' := by
  simp [bind_ok, isAuthenticated, get_bind, lift_ok]

/-! ### The session -/

theorem onSessionKeyExchanged_ok {snapshot : Except Error (Option Octets)}
    (h : onSessionKeyExchanged env info gss snapshot s = .ok () s') (hnew : s.kind = .new) :
    ∃ entry key hash old new, s.result = some entry ∧ s.store.info entry = some old ∧
      old.setup env key hash info = .ok new ∧
      s' = { s with store := s.store.setInfo entry new } := by
  simp only [onSessionKeyExchanged, get_bind, if_pos hnew, sessionKey_bind, lift_bind, entryOr_bind,
    session_bind] at h
  obtain ⟨key, -, hash, -, entry, hentry, old, hold, new, hsetup, h⟩ := h
  cases h
  exact ⟨entry, key, hash, old, new, hentry, hold, hsetup, rfl⟩

/-- A channel is installed from the session key and the preauthentication hash. -/
theorem installChannel_ok {snapshot : Except Error (Option Octets)}
    (h : installChannel env info gss snapshot s = .ok () s') :
    ∃ entry key hash channel, s.result = some entry ∧ snapshot = .ok hash ∧
      gss.sessionKey s.authenticator = .ok key ∧
      ChannelInfo.new env s.newChannelId key hash info = .ok channel ∧ channel.valid = true ∧
      s' = { s with store := s.store.setChannel entry channel } := by
  simp only [installChannel, lift_bind, sessionKey_bind, get_bind, entryOr_bind] at h
  obtain ⟨hash, hhash, key, hkey, channel, hchannel, entry, hentry, h⟩ := h
  cases h
  refine ⟨entry, key, hash, channel, hentry, hhash, hkey, hchannel, ?_, rfl⟩
  obtain ⟨algos, -, hvalid⟩ := Except.bind_eq_ok.mp hchannel
  cases hvalid
  rfl

theorem makeChannel_ok (h : makeChannel env info gss round s = .ok () s') (hnew : s.kind = .new) :
    ∃ entry old new channel, s.result = some entry ∧ s.store.info entry = some old ∧
      channel.valid = true ∧
      s' = { s with store := (s.store.setInfo entry new).setChannel entry channel } := by
  rw [makeChannel, bind_ok] at h
  obtain ⟨_, s₁, hkeys, h⟩ := h
  obtain ⟨entry, -, -, old, new, hentry, hold, -, rfl⟩ := onSessionKeyExchanged_ok hkeys hnew
  obtain ⟨entry', _, _, channel, hentry', -, -, -, hvalid, rfl⟩ := installChannel_ok h
  obtain rfl : entry = entry' := Option.some_inj.mp (hentry.symm.trans hentry')
  exact ⟨entry, old, new, channel, hentry, hold, hvalid, rfl⟩

theorem ready_ok {old new : SessionInfo} {flags : SessionFlags}
    (h : old.ready flags info = .ok new) :
    (∃ algos force required, new.state = .ready algos flags force required) ∧
      (flags.isGuestOrNullSession = true →
        info.config.allowUnsignedGuestAccess = true ∧
        info.negotiation.signingRequired = false) := by
  unfold SessionInfo.ready at h
  split at h
  · dsimp only at h
    split at h
    · cases h
    split at h
    · cases h
    rename_i hguest
    cases h
    refine ⟨⟨_, _, _, rfl⟩, fun hflags => ?_⟩
    simpa [hflags] using hguest
  · cases h

theorem onSetupSuccess_ok (h : onSetupSuccess info s = .ok () s') (hnew : s.kind = .new) :
    ∃ flags entry old new, s.flags = some flags ∧ s.result = some entry ∧
      s.store.info entry = some old ∧ old.ready flags info = .ok new ∧
      s' = { s with store := s.store.setInfo entry new } := by
  simp only [onSetupSuccess, get_bind, if_pos hnew] at h
  cases hflags : s.flags with
  | none =>
    rw [hflags, bind_ok] at h
    obtain ⟨_, _, hthrow, -⟩ := h
    exact absurd hthrow throw_ne_ok
  | some flags =>
    simp only [hflags, pure_bind, entryOr_bind, session_bind, lift_bind, modify_eq] at h
    obtain ⟨entry, hentry, old, hold, new, hready, h⟩ := h
    cases h
    exact ⟨flags, entry, old, new, rfl, hentry, hold, hready, rfl⟩

/-! ### One round -/

theorem receiveWith_ok {answer : Except Error CommandResponse} {options : ResponseOptions}
    (h : s.receiveWith info answer options = .ok r) :
    answer = .ok r ∧ ConnectionCore.statusAccepted options r = true := by
  have hreceive : ConnectionCore.receive answer options = .ok r := by
    unfold receiveWith at h
    dsimp only at h
    split at h
    · split at h
      · obtain ⟨incoming, hincoming, h⟩ := Except.bind_eq_ok.mp h
        split at h
        · obtain ⟨_, -, h⟩ := Except.bind_eq_ok.mp h
          cases h
          exact hincoming
        split at h
        · cases h
        · cases h
          exact hincoming
      · cases h
    · split at h
      · exact h
      · cases h
  unfold ConnectionCore.receive at hreceive
  split at hreceive
  · cases hreceive
  split at hreceive
  · cases hreceive
  unfold ConnectionCore.validateIncoming at hreceive
  split at hreceive
  · cases hreceive
  split at hreceive
  · cases hreceive
  split at hreceive
  · cases hreceive
  rename_i hstatus
  cases hreceive
  exact ⟨rfl, by simpa using hstatus⟩

theorem receiveSetupResponse_ok {forMsgId : ℕ} {isFinalRequest : Bool}
    (h : receiveSetupResponse info gss round forMsgId isFinalRequest s = .ok r s') :
    s' = s ∧ round.answer = .ok r ∧ r.message.header.status =
      (if isFinalRequest then Status.success else Status.moreProcessingRequired).code := by
  simp only [receiveSetupResponse, isAuthenticated_bind, get_bind] at h
  obtain ⟨done, -, h⟩ := h
  cases hr : s.receiveWith info round.answer
      ⟨[if isFinalRequest then .success else .moreProcessingRequired], none, forMsgId⟩ with
  | ok response =>
    rw [hr] at h
    cases h
    obtain ⟨hanswer, hstatus⟩ := receiveWith_ok hr
    exact ⟨rfl, hanswer, by simpa [ConnectionCore.statusAccepted] using hstatus⟩
  | error error =>
    rw [hr] at h
    exact absurd h throw_ne_ok

theorem consume_ok {content : SessionSetupResponse} {isFinalRequest : Bool}
    (h : consume r content isFinalRequest s = .ok () s') :
    s' = { s with
      flags := some content.sessionFlags
      lastSetupResponse := some content
      consumed := some r } ∧
    (isFinalRequest = true → content.sessionFlags.isGuestOrNullSession = false →
      r.form.signedOrEncrypted = true) := by
  unfold consume at h
  split at h
  · exact absurd h throw_ne_ok
  rename_i hchecked
  cases h
  exact ⟨rfl, by simpa using hchecked⟩

theorem toSessionsetup_ok {content : ResponseContent} {response : SessionSetupResponse}
    (h : toSessionsetup content = .ok response) : content = .sessionSetup response := by
  cases content with
  | sessionSetup r =>
    cases h
    rfl
  | error => cases h
  | other => cases h

theorem ensureSession_first {sessionId : ℕ} (hnew : s.kind = .new) (hresult : s.result = none)
    (h : ensureSession round sessionId s = .ok () s') :
    ∃ entry store, s' = { s with
        store
        context := some ⟨sessionId, Machine.maxValue 32, entry⟩
        result := some entry } ∧
      store.info entry = some (.new sessionId) ∧ store.channel entry = none := by
  cases s
  cases hnew
  cases hresult
  simp only [ensureSession, get_bind, Option.isNone_none, if_true, bind_ok] at h
  obtain ⟨session, s₁, hinit, h⟩ := h
  cases hinit
  simp only [setSession, get_bind, set_bind, lift_bind] at h
  obtain ⟨_, -, h⟩ := h
  cases h
  refine ⟨_, _, rfl, ?_, ?_⟩
  · simp [addEntry, info]
  · simp [addEntry, channel]

theorem ensureSession_later {sessionId : ℕ} {entry : EntryRef}
    (h : ensureSession round sessionId s = .ok () s') (hresult : s.result = some entry) :
    s' = s := by
  simp only [ensureSession, get_bind, hresult] at h
  cases h
  rfl

/-! ## The loop

Before its final request a new setup has no session, or one in its initial state without a channel.
-/

inductive Between (s : SessionSetup G) : Prop where
  | first (result : s.result = none) (flags : s.flags = none)
  | later (entry : EntryRef) (sessionId : ℕ) (r : CommandResponse) (content : SessionSetupResponse)
      (result : s.result = some entry)
      (session : s.store.info entry = some (.new sessionId))
      (channel : s.store.channel entry = none) (consumed : s.consumed = some r)
      (content_eq : r.message.content = .sessionSetup content)
      (flags : s.flags = some content.sessionFlags)
      (status : r.message.header.status = Status.moreProcessingRequired.code)

structure Answered (P : CommandResponse → Prop) (s : SessionSetup G) (entry : EntryRef)
    (r : CommandResponse) (content : SessionSetupResponse) : Prop where
  result : s.result = some entry
  session : ∃ old, s.store.info entry = some old
  channel : ∃ channel, s.store.channel entry = some channel ∧ channel.valid = true
  consumed : s.consumed = some r
  arrived : P r
  content_eq : r.message.content = .sessionSetup content
  flags : s.flags = some content.sessionFlags
  status : r.message.header.status = Status.success.code
  checked : content.sessionFlags.isGuestOrNullSession = false → r.form.signedOrEncrypted = true

variable {P : CommandResponse → Prop}

def token (s : SessionSetup G) : Octets :=
  (s.lastSetupResponse.map SessionSetupResponse.buffer).getD []

theorem Between.withAuthenticator (h : Between s) (g : G) :
    Between { s with authenticator := g } := by
  cases h with
  | first result flags => exact .first result flags
  | later entry sessionId r content result session channel consumed content_eq flags status =>
    exact .later entry sessionId r content result session channel consumed content_eq flags status

theorem exchange_intermediate {buffer : Octets}
    (h : exchange env info gss round buffer false s = .ok () s') (hnew : s.kind = .new)
    (hbetween : Between s) :
    Between s' ∧ s'.kind = .new ∧ s'.authenticator = s.authenticator ∧
      ∃ r content, round.answer = .ok r ∧ r.message.content = .sessionSetup content ∧
        s'.lastSetupResponse = some content := by
  simp only [exchange, sendSetupRequest, Bool.false_eq_true, if_false, lift_bind] at h
  obtain ⟨messageId, -, h⟩ := h
  rw [bind_ok] at h
  obtain ⟨r, s₁, hreceive, h⟩ := h
  obtain ⟨rfl, hanswer, hstatus⟩ := receiveSetupResponse_ok hreceive
  simp only [lift_bind] at h
  obtain ⟨content, hcontent, h⟩ := h
  have hcontent := toSessionsetup_ok hcontent
  rw [bind_ok] at h
  obtain ⟨_, s₂, hensure, h⟩ := h
  obtain ⟨rfl, -⟩ := consume_ok h
  cases hbetween with
  | first result flags =>
    obtain ⟨entry, store, rfl, hinfo, hchannel⟩ := ensureSession_first hnew result hensure
    exact ⟨.later entry _ r content rfl hinfo hchannel rfl hcontent rfl hstatus, hnew,
      rfl, r, content, hanswer, hcontent, rfl⟩
  | later entry sessionId _ _ result session channel _ _ _ _ =>
    obtain rfl := ensureSession_later hensure result
    exact ⟨.later entry sessionId r content result session channel rfl hcontent rfl hstatus, hnew,
      rfl, r, content, hanswer, hcontent, rfl⟩

theorem exchange_final {buffer : Octets}
    (h : exchange env info gss round buffer true s = .ok () s') (hnew : s.kind = .new)
    (hP : ∀ r, round.answer = .ok r → P r) :
    s'.kind = .new ∧ ∃ entry r content, Answered P s' entry r content := by
  simp only [exchange, sendSetupRequest, if_true] at h
  rw [bind_ok] at h
  obtain ⟨messageId, s₁, hsend, h⟩ := h
  simp only [sendFinalSetupRequest, entryOr_bind, get_bind, lift_bind] at hsend
  obtain ⟨entry, hentry, -, -, _, -, hsend⟩ := hsend
  rw [bind_ok] at hsend
  obtain ⟨_, _, hchannel, hpure⟩ := hsend
  cases hpure
  obtain ⟨entry', old, new, channel, hentry', hold, hvalid, rfl⟩ := makeChannel_ok hchannel hnew
  obtain rfl : entry = entry' := Option.some_inj.mp (hentry.symm.trans hentry')
  rw [bind_ok] at h
  obtain ⟨r, s₂, hreceive, h⟩ := h
  obtain ⟨rfl, hanswer, hstatus⟩ := receiveSetupResponse_ok hreceive
  simp only [lift_bind] at h
  obtain ⟨content, hcontent, h⟩ := h
  rw [bind_ok] at h
  obtain ⟨_, s₃, hensure, h⟩ := h
  obtain rfl := ensureSession_later hensure hentry
  obtain ⟨rfl, hchecked⟩ := consume_ok h
  have hinfo := info_setInfo hold new
  obtain ⟨e, he, -⟩ := entry_of_info hinfo
  refine ⟨hnew, entry, r, content, ?_⟩
  exact
    { result := hentry
      session := ⟨new, (info_setChannel _ _ _).trans hinfo⟩
      channel := ⟨channel, channel_setChannel he channel, hvalid⟩
      consumed := rfl
      arrived := hP r hanswer
      content_eq := toSessionsetup_ok hcontent
      flags := rfl
      status := hstatus
      checked := hchecked rfl }

theorem nextToken_bind {f : Octets → SetupM G β} :
    (nextToken gss >>= f) s = .ok b s' ↔ ∃ g buffer, gss.next s.authenticator s.token =
    .ok (g, buffer) ∧
      f buffer { s with authenticator := g } = .ok b s' := by
  have hnext : ∀ buffer s₁, nextToken gss s = .ok buffer s₁ ↔
      ∃ g, gss.next s.authenticator s.token = .ok (g, buffer) ∧
        s₁ = { s with authenticator := g } := by
    intro buffer s₁
    simp only [nextToken, get_bind, lift_bind, Prod.exists, set_bind]
    constructor
    · rintro ⟨g, _, hg, h⟩
      cases h
      exact ⟨g, hg, rfl⟩
    · rintro ⟨g, hg, rfl⟩
      exact ⟨g, buffer, hg, rfl⟩
  simp only [bind_ok, hnext]
  constructor
  · rintro ⟨buffer, _, ⟨g, hg, rfl⟩, h⟩
    exact ⟨g, buffer, hg, h⟩
  · rintro ⟨g, buffer, hg, h⟩
    exact ⟨buffer, _, ⟨g, hg, rfl⟩, h⟩

theorem turn_ok {left : Bool} (hnew : s.kind = .new) (hbetween : Between s)
    (hP : ∀ r, round.answer = .ok r → P r)
    (hgoing : gss.isAuthenticated s.authenticator = .ok false)
    (h : turn env info gss round s = .ok left s') :
    s'.kind = .new ∧ ∃ g buffer done, gss.next s.authenticator s.token = .ok (g, buffer) ∧
      gss.isAuthenticated g = .ok done ∧
      ((done = true ∧ buffer = [] ∧ left = true ∧ s' = { s with authenticator := g }) ∨
       (¬ (done = true ∧ buffer = []) ∧ (done = true ∨ (gss.sessionKey g).toBool = true) ∧
          left = true ∧ ∃ entry r content, Answered P s' entry r content) ∨
       (done = false ∧ (gss.sessionKey g).toBool = false ∧ left = false ∧ Between s' ∧
          s'.authenticator = g ∧ ∃ r content, round.answer = .ok r ∧
            r.message.content = .sessionSetup content ∧ s'.lastSetupResponse = some content)) := by
  simp only [turn, isAuthenticated_bind, hgoing, Except.ok.injEq] at h
  obtain ⟨_, rfl, h⟩ := h
  simp only [Bool.false_eq_true, if_false, nextToken_bind, isAuthenticated_bind] at h
  obtain ⟨g, buffer, hg, done, hdone, h⟩ := h
  cases hsilent : done && buffer.isEmpty with
  | true =>
    rw [hsilent] at h
    cases h
    simp only [Bool.and_eq_true, List.isEmpty_iff] at hsilent
    exact ⟨hnew, g, buffer, done, hg, hdone, .inl ⟨hsilent.1, hsilent.2, rfl, rfl⟩⟩
  | false =>
    rw [hsilent] at h
    simp only [Bool.false_eq_true, if_false, get_bind, isFinal, bind_ok] at h
    obtain ⟨_, s₁, hexchange, h⟩ := h
    have hloud : ¬ (done = true ∧ buffer = []) := by
      rintro ⟨rfl, rfl⟩
      cases hsilent
    cases hfinal : done || (gss.sessionKey g).toBool with
    | true =>
      rw [hfinal] at hexchange h
      cases h
      obtain ⟨hkind, hanswered⟩ := exchange_final hexchange hnew hP
      exact ⟨hkind, g, buffer, done, hg, hdone, .inr (.inl ⟨hloud, by simpa using hfinal, rfl,
        hanswered⟩)⟩
    | false =>
      rw [hfinal] at hexchange h
      cases h
      obtain ⟨hbetween', hkind, hauth, hanswer⟩ :=
        exchange_intermediate hexchange hnew (hbetween.withAuthenticator g)
      simp only [Bool.or_eq_false_iff] at hfinal
      exact ⟨hkind, g, buffer, done, hg, hdone, .inr
        (.inr ⟨hfinal.1, hfinal.2, rfl, hbetween', hauth, hanswer⟩)⟩

end SessionSetup

/-! ## The mechanism on its own -/

namespace Gss

variable {G : Type}

/-- A mechanism, given the tokens of the responses, at some point is done and has nothing to send.
-/
def completesSilently (gss : Gss G) (g : G) (token : Octets) (later : List Octets) : Bool :=
  match gss.next g token with
  | .error _ => false
  | .ok (g, buffer) =>
    match gss.isAuthenticated g with
    | .error _ => false
    | .ok true => buffer.isEmpty
    | .ok false =>
      match (gss.sessionKey g).toBool, later with
      | false, token :: later => completesSilently gss g token later
      | _, _ => false

end Gss

def Round.token (round : Round) : Octets :=
  match round.answer with
  | .ok ⟨⟨_, .sessionSetup content⟩, _, _⟩ => content.buffer
  | _ => []

namespace SessionSetup

variable {G : Type} {env : Env} {info : ConnectionInfo} {gss : Gss G} {s s' : SessionSetup G}
  {P : CommandResponse → Prop} {rounds : List Round}
variable {round : Round}

/-- **The setup loop ends with an answer taken**, unless the mechanism ends silently. -/
theorem turns_ok (hnew : s.kind = .new) (hbetween : Between s)
    (hP : ∀ round ∈ rounds, ∀ r, round.answer = .ok r → P r)
    (hgoing : gss.isAuthenticated s.authenticator = .ok false)
    (h : turns env info gss rounds s = .ok (some round) s') :
    s'.kind = .new ∧
      ((Between s' ∧ gss.completesSilently s.authenticator s.token
        (rounds.map Round.token) = true) ∨
       ((∃ entry r content, Answered P s' entry r content) ∧
          gss.completesSilently s.authenticator s.token (rounds.map Round.token) = false)) := by
  induction rounds generalizing s with
  | nil => cases h
  | cons first rest ih =>
    rw [turns, bind_ok] at h
    obtain ⟨left, s₁, hturn, h⟩ := h
    obtain ⟨hnew₁, g, buffer, done, hg, hdone, hcases⟩ :=
      turn_ok hnew hbetween (hP first List.mem_cons_self) hgoing hturn
    rw [Gss.completesSilently, hg]
    dsimp only
    rw [hdone]
    rcases hcases with ⟨rfl, rfl, rfl, rfl⟩ | ⟨hloud, hkey, rfl, hanswered⟩ |
        ⟨rfl, hkey, rfl, hbetween₁, rfl, r, content, hanswer, hcontent, hlast⟩
    · cases h
      exact ⟨hnew, .inl ⟨hbetween.withAuthenticator g, rfl⟩⟩
    · cases h
      refine ⟨hnew₁, .inr ⟨hanswered, ?_⟩⟩
      cases done with
      | true => simpa using hloud
      | false => simp [hkey.resolve_left (by decide)]
    · rw [hkey]
      have htoken : s₁.token = first.token := by
        obtain ⟨⟨header, content'⟩, raw, form⟩ := r
        cases hcontent
        simp [token, hlast, Round.token, hanswer]
      have := ih hnew₁ hbetween₁ (fun round hround => hP round (List.mem_cons_of_mem _ hround))
        hdone h
      rwa [htoken] at this

theorem turns_start (h : turns env info gss rounds s = .ok (some round) s') :
    gss.isAuthenticated s.authenticator = .ok false ∨ s' = s := by
  cases rounds with
  | nil => cases h
  | cons first rest =>
    rw [turns, bind_ok] at h
    obtain ⟨left, s₁, hturn, h⟩ := h
    simp only [turn, isAuthenticated_bind] at hturn
    obtain ⟨done, hdone, hturn⟩ := hturn
    cases done with
    | false => exact .inl hdone
    | true =>
      cases hturn
      cases h
      exact .inr rfl

/-! ## After the loop -/

theorem requireFlags_ok (h : requireFlags s = .ok () s') : s.flags.isSome ∧ s' = s := by
  simp only [requireFlags, get_bind] at h
  cases hflags : s.flags with
  | none =>
    rw [hflags] at h
    exact absurd h throw_ne_ok
  | some flags =>
    rw [hflags] at h
    cases h
    exact ⟨rfl, rfl⟩

theorem ensureChannel_ok (h : ensureChannel env info gss round s = .ok () s')
    (hnew : s.kind = .new) :
    (∃ store, s' = { s with store }) ∧
      ((∃ entry channel, s.result = some entry ∧ s.store.channel entry = some channel) →
        s' = s) := by
  simp only [ensureChannel, get_bind] at h
  split at h
  · rename_i hmissing
    obtain ⟨_, _, _, _, -, -, -, rfl⟩ := makeChannel_ok h hnew
    refine ⟨⟨_, rfl⟩, ?_⟩
    rintro ⟨entry, channel, hresult, hchannel⟩
    simp [hresult, hchannel] at hmissing
  · cases h
    exact ⟨⟨_, rfl⟩, fun _ => rfl⟩

theorem finish_consumed (h : finish env info gss round s = .ok () s')
    (hnew : s.kind = .new) : s.flags.isSome ∧ s'.consumed = s.consumed := by
  rw [finish, bind_ok] at h
  obtain ⟨_, s₁, hflags, h⟩ := h
  obtain ⟨hsome, rfl⟩ := requireFlags_ok hflags
  rw [bind_ok] at h
  obtain ⟨_, s₂, hchannel, h⟩ := h
  obtain ⟨⟨store, rfl⟩, -⟩ := ensureChannel_ok hchannel hnew
  obtain ⟨_, _, _, _, -, -, -, -, rfl⟩ := onSetupSuccess_ok h hnew
  exact ⟨hsome, rfl⟩

end SessionSetup

/-! ## Sound setups -/

def Arrived (env : Env) (r : CommandResponse) : Prop :=
  ∃ w frame, r ∈ responses (transformIncomingAll env w frame).2

def Authenticated (env : Env) (r : CommandResponse) : Prop :=
  ∃ w frame, r ∈ responses (transformIncomingAll env w frame).2 ∧
    (Verified env w r.message.header r.raw ∨ ∃ sessionId, OpenedWith w env frame sessionId)

theorem Arrived.authenticated {env : Env} {r : CommandResponse} (h : Arrived env r)
    (hform : r.form.signedOrEncrypted = true) : Authenticated env r := by
  obtain ⟨w, frame, hr⟩ := h
  refine ⟨w, frame, hr, ?_⟩
  cases hresult : transformIncomingAll env w frame with
  | mk w' result =>
    rw [hresult] at hr
    cases result with
    | error error => cases hr
    | ok rs =>
      obtain ⟨encrypted, hd⟩ := transformIncomingAll_decoded hresult r hr
      cases hsigned : r.form.signed with
      | true => exact .inl (hd.verified hsigned)
      | false =>
        have hencrypted : r.form.encrypted = true := by
          simpa [MessageForm.signedOrEncrypted, hsigned] using hform
        obtain ⟨message, hread⟩ := transformIncomingAll_encrypted hresult hr hencrypted
        exact .inr ⟨_, (transformIncomingAll_carried hread hresult).2.1⟩

/-- The last response was authenticated or an allowed guest's, and the session is ready with its
flags and has a signer. -/
def SetUpSoundly {G : Type} (env : Env) (info : ConnectionInfo) (s : SessionSetup G)
    (entry : EntryRef) : Prop :=
  ∃ r content, s.consumed = some r ∧ r.message.content = .sessionSetup content ∧
    r.message.header.status = Status.success.code ∧
    (Authenticated env r ∨ content.sessionFlags.isGuestOrNullSession = true ∧
      info.config.allowUnsignedGuestAccess = true ∧ info.negotiation.signingRequired = false) ∧
    (∃ session algos force required, s.store.info entry = some session ∧
      session.state = .ready algos content.sessionFlags force required) ∧
    ∃ channel signer, s.store.channel entry = some channel ∧ channel.signer = .ok signer

namespace SessionSetup

variable {G : Type} {env : Env} {info : ConnectionInfo} {gss : Gss G} {s s' : SessionSetup G}
variable {entry : EntryRef}

theorem Answered.finish {round : Round} {r : CommandResponse}
    {content : SessionSetupResponse} (ha : Answered (Arrived env) s entry r content)
    (hnew : s.kind = .new) (h : finish env info gss round s = .ok () s') :
    s'.result = some entry ∧ SetUpSoundly env info s' entry := by
  rw [SessionSetup.finish, bind_ok] at h
  obtain ⟨_, s₁, hflags, h⟩ := h
  obtain ⟨-, rfl⟩ := requireFlags_ok hflags
  rw [bind_ok] at h
  obtain ⟨_, s₂, hensure, h⟩ := h
  obtain ⟨channel, hchannel, hvalid⟩ := ha.channel
  obtain rfl := (ensureChannel_ok hensure hnew).2 ⟨entry, channel, ha.result, hchannel⟩
  obtain ⟨flags, entry', old, new, hflags', hentry', hold, hready, rfl⟩ := onSetupSuccess_ok h hnew
  obtain rfl : entry = entry' := Option.some_inj.mp (ha.result.symm.trans hentry')
  obtain rfl : content.sessionFlags = flags := Option.some_inj.mp (ha.flags.symm.trans hflags')
  obtain ⟨⟨algos, force, required, hstate⟩, hguest⟩ := ready_ok hready
  refine ⟨ha.result, r, content, ha.consumed, ha.content_eq, ha.status, ?_,
    ⟨new, algos, force, required, info_setInfo hold new, hstate⟩,
    channel, channel.algos, (channel_setInfo _ _ _).trans hchannel, ?_⟩
  · cases hflags : content.sessionFlags.isGuestOrNullSession with
    | false => exact .inl (ha.arrived.authenticated (ha.checked hflags))
    | true => exact .inr ⟨rfl, hguest hflags⟩
  · simp [ChannelInfo.signer, hvalid]

theorem Between.finish {round : Round} (hb : Between s) (hnew : s.kind = .new)
    (h : finish env info gss round s = .ok () s') : ¬ SetUpSoundly env info s' entry := by
  obtain ⟨hflags, hconsumed⟩ := finish_consumed h hnew
  rintro ⟨r, content, hr, -, hstatus, -⟩
  cases hb with
  | first _ flags => simp [flags] at hflags
  | later _ _ r' _ _ _ _ consumed _ _ status =>
    rw [hconsumed, consumed, Option.some_inj] at hr
    rw [hr, hstatus] at status
    exact absurd status (by decide)

theorem setup_ok {rounds : List Round} (h : s.setup env info gss rounds = (s', some (.ok entry))) :
    ∃ round s₁, turns env info gss rounds s = .ok (some round) s₁ ∧
      finish env info gss round s₁ = .ok () s' ∧ s'.result = some entry := by
  unfold setup at h
  split at h
  · cases h
  · rename_i s₂ hloop
    rw [setupLoop, bind_ok] at hloop
    obtain ⟨left, s₁, hturns, hloop⟩ := hloop
    cases left with
    | none => cases hloop
    | some round =>
      rw [bind_ok] at hloop
      obtain ⟨_, _, hfinish, hpure⟩ := hloop
      cases hpure
      split at h
      · rename_i hresult
        cases h
        exact ⟨round, s₁, hturns, hfinish, hresult⟩
      · cases h
  · cases h

end SessionSetup

/-- The setup of a new session that returns it is sound exactly if the mechanism does not report
completion with nothing to send. -/
theorem setup_sound_iff {G : Type} (env : Env) (info : ConnectionInfo) (gss : Gss G) (g : G)
    (newChannelId : ℕ) (store : SessionStore) (rounds : List Round) (s : SessionSetup G)
    (entry : EntryRef)
    (harrived : ∀ round ∈ rounds, ∀ r, round.answer = .ok r → Arrived env r)
    (hok : (fresh g newChannelId .new store).setup env info gss rounds = (s, some (.ok entry))) :
    SetUpSoundly env info s entry ↔
      gss.completesSilently g [] (rounds.map Round.token) = false := by
  obtain ⟨round, s₁, hturns, hfinish, hresult⟩ := setup_ok hok
  rcases turns_start hturns with hgoing | rfl
  · obtain ⟨hnew, ⟨hbetween, hsilent⟩ | ⟨⟨entry', r, content, ha⟩, hloud⟩⟩ :=
      turns_ok rfl (.first rfl rfl) harrived hgoing hturns
    · exact iff_of_false (hbetween.finish hnew hfinish) (ne_false_of_eq_true hsilent)
    · obtain ⟨hresult', hsound⟩ := ha.finish hnew hfinish
      obtain rfl : entry' = entry := Option.some_inj.mp (hresult'.symm.trans hresult)
      exact iff_of_true hsound hloud
  · exact absurd (finish_consumed hfinish rfl).1 Bool.false_ne_true

/-! ## A mechanism of two rounds -/

def twoTokens (last : Octets) : Gss ℕ where
  isAuthenticated given := .ok (decide (2 ≤ given))
  sessionKey given := if 2 ≤ given then .ok sampleKey else .error .crypto
  next given _ := .ok (given + 1, if given = 0 then [1] else last)

def setupFrame (status : Status) (signature : ℕ) (signed : Bool) : Octets :=
  { responseHeader .sessionSetup 5 signature signed with status := status.code }.write ++
    [9, 0, 0, 0, 72, 0, 0, 0]

def setupResponse (status : Status) (signature : ℕ) (signed : Bool) : CommandResponse :=
  ⟨⟨{ responseHeader .sessionSetup 5 signature signed with status := status.code },
    .sessionSetup ⟨⟨false, false, false⟩, []⟩⟩, setupFrame status signature signed,
    { MessageForm.default with signed }⟩

def answeredWith (r : CommandResponse) : Round :=
  { submission := .ok 3, started := .ok (), sessionSnapshot := .ok none, channelSnapshot := .ok none
    answer := .ok r }

def acceptingScript : List Round :=
  [answeredWith (setupResponse .moreProcessingRequired 0 false),
    answeredWith (setupResponse .success 72 true)]

theorem setupFrame_decoded :
    responses (transformIncomingAll sampleEnv .default
        (setupFrame .moreProcessingRequired 0 false)).2 =
      [setupResponse .moreProcessingRequired 0 false] ∧
    responses (transformIncomingAll sampleEnv (Run.along (react sampleEnv) .default echoRun).state
        (setupFrame .success 72 true)).2 = [setupResponse .success 72 true] := by
  constructor <;> decide +kernel

theorem acceptingScript_arrived :
    ∀ round ∈ acceptingScript, ∀ r, round.answer = .ok r → Arrived sampleEnv r := by
  intro round hround r hr
  rcases List.mem_cons.mp hround with rfl | hround
  · cases hr
    exact ⟨_, _, setupFrame_decoded.1 ▸ List.mem_singleton_self _⟩
  · obtain rfl := List.mem_singleton.mp hround
    cases hr
    exact ⟨_, _, setupFrame_decoded.2 ▸ List.mem_singleton_self _⟩

theorem twoTokens_sound : ∃ s entry,
    (fresh 0 0 .new .empty).setup sampleEnv sampleInfo (twoTokens [2]) acceptingScript =
      (s, some (.ok entry)) ∧ SetUpSoundly sampleEnv sampleInfo s entry := by
  refine ⟨_, 0, rfl, ?_⟩
  exact (setup_sound_iff sampleEnv sampleInfo (twoTokens [2]) 0 0 .empty acceptingScript _ 0
    acceptingScript_arrived rfl).mpr (by decide)

/-- The mechanism is done without a token: the session is ready after an unsigned intermediate
response.
-/
theorem silent_setup_unsound : ∃ s entry,
    (∀ round ∈ acceptingScript, ∀ r, round.answer = .ok r → Arrived sampleEnv r) ∧
    (fresh 0 0 .new .empty).setup sampleEnv sampleInfo (twoTokens []) acceptingScript =
      (s, some (.ok entry)) ∧
    (∃ session algos force required, s.store.info entry = some session ∧
      session.state = .ready algos ⟨false, false, false⟩ force required) ∧
    s.consumed = some (setupResponse .moreProcessingRequired 0 false) ∧
    ¬ SetUpSoundly sampleEnv sampleInfo s entry := by
  refine ⟨_, 0, acceptingScript_arrived, rfl, ⟨_, _, _, _, rfl, rfl⟩, rfl, ?_⟩
  rintro ⟨r, content, hr, -, hstatus, -⟩
  cases hr
  exact absurd hstatus (by decide)

end Session
