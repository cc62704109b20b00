import SmbClient.Runtime.Proof.Bookkeeping
import SmbClient.Session.FinalExchange
import SmbClient.Session.Proof.Setup

/-!
# The answer to the final request

Nothing makes the owner wait for the channel: a new session whose answer is decoded before it is
installed has no signer, and the generation ends (`early_answer_is_fatal`). In order, the shared
hash is that of the setup's own messages at every stage (`AtStage`), so the installed signer is its
own.
-/

namespace Session

open Msg Wire WirePipeline Runtime RequestAuthority FinalExchange GenerationState

variable {env : Env} {w : WirePipeline} {signer : MessageSigner} {frame : Octets}
  {plain : PlainResponse}
variable {key : RequestKey}

/-! ## Decoding the answer -/

structure SignedAnswer (env : Env) (signer : MessageSigner) (id number : ℕ) (frame : Octets)
    (plain : PlainResponse) : Prop where
  read : Response.read env frame = some (.plain plain)
  command : plain.header.command = .sessionSetup
  status : plain.header.status = Status.success.code
  signed : plain.header.flags.signed = true
  alone : plain.header.nextCommand = 0
  sessionId : plain.header.sessionId = id
  messageId : plain.header.messageId = number
  solicited : number ≠ Machine.maxValue 64
  mac : signer.mac env plain.header (MessageSigner.zeroSignature frame) = plain.header.signature

def decodedAnswer (plain : PlainResponse) (frame : Octets) : Wire.CommandResponse :=
  ⟨plain, frame, { MessageForm.default with signed := true }⟩

def settled (w : WirePipeline) (id : ℕ) : WirePipeline :=
  { w with setupSigners := w.setupSigners.erase id }

theorem openFrame_plain (h : Response.read env frame = some (.plain plain)) :
    w.openFrame env frame = .ok (plain, frame, .default) := by
  simp only [openFrame, h]
  rfl

namespace SignedAnswer

variable {id number : ℕ}

section
variable (h : SignedAnswer env signer id number frame plain)
include h

theorem structSize_le : Header.structSize ≤ frame.length :=
  Header.length_of_read (Response.read_plain h.read)

theorem ingestIncoming : w.ingestIncoming env plain.header frame = .ok w := by
  have hstatus : Status.success.code ≠ Status.moreProcessingRequired.code := by decide
  simp [WirePipeline.ingestIncoming, participatesInPreauthIncoming, h.command, h.status, hstatus]

theorem verifyPlainIncoming (hsigner : w.getSigner id = .ok (some signer)) :
    w.verifyPlainIncoming env plain.header frame .default =
      (settled w id, .ok { MessageForm.default with signed := true }) := by
  have hhint : ¬ isRecoveryHint plain.header = true := by
    rw [isRecoveryHint, h.status]
    decide
  have hpending : Status.success.code ≠ Status.pending.code := by decide
  have hskip : ¬ (MessageForm.default.encrypted = true ∨
      plain.header.messageId = Machine.maxValue 64 ∨ plain.header.status = Status.pending.code ∨
      ¬ (plain.header.flags.signed = true ∨
        w.isBindingSessionSetupSigned plain.header = true)) := by
    simp [MessageForm.default, h.messageId, h.solicited, h.status, hpending, h.signed]
  have hcheck : signer.check env plain.header frame = .ok () :=
    MessageSigner.check_eq_ok.mpr ⟨h.structSize_le, h.mac⟩
  unfold WirePipeline.verifyPlainIncoming
  rw [if_neg hhint, if_neg hskip, h.sessionId, hsigner]
  dsimp only
  rw [hcheck]
  simp only [h.command, h.status, and_self]
  rfl

theorem decoded (hsigner : w.getSigner id = .ok (some signer)) :
    w.transformIncomingAll env frame = (settled w id, .ok [decodedAnswer plain frame]) := by
  have hslice : memberSlice plain.header frame = frame := by simp [memberSlice, h.alone]
  have hadmitted : w.admitMember env .default plain frame =
      (settled w id, .ok (decodedAnswer plain frame)) := by
    simp only [admitMember, h.ingestIncoming, h.verifyPlainIncoming hsigner]
    rfl
  simp only [transformIncomingAll, openFrame_plain h.read]
  rw [walk, h.alone, hslice, hadmitted]
  rfl

end

end SignedAnswer

/-! ## Delivering the answer -/

/-- The owner waits for the answer, and there is room for its credits. -/
structure Expects (a : RequestAuthority) (key : RequestKey) (grant : UInt16) : Prop where
  generation : key.generation = a.state.generation
  healthy : a.fatal = none
  pending : ∃ pending, a.operationPending.lookup key = some pending ∧
    pending.response.command = .sessionSetup ∧
    pending.response.acceptsWireStatus (some .success) = true
  request : ∃ r, a.state.requests.lookup key = some r ∧ r.lifecycle.key = key ∧
    r.lifecycle.caller = .opened ∧ r.lifecycle.response ≠ .final
  credits : (Machine.checkedAdd 32 a.state.availableCredits grant.toNat).isSome

def Delivered (a : RequestAuthority) (key : RequestKey) (response : Runtime.CommandResponse) :
    Prop :=
  (∃ waiter raw, Delivery.completed waiter (.ok ⟨key, response, raw⟩) ∈ a.outbox) ∨
    ∃ pending raw, a.operationPending.lookup key = some pending ∧
      pending.buffered = some (.ok ⟨key, response, raw⟩)

theorem finalResponse_publishes {r : RequestRecord} (hkey : r.key = key)
    (hopen : r.caller = .opened) :
    (r.observeResponseCommitment.reduce (.finalResponse key)).2 = .publish .response := by
  have hsame : r.observeResponseCommitment.key = key ∧
      r.observeResponseCommitment.caller = .opened := by
    unfold RequestRecord.observeResponseCommitment
    split <;> exact ⟨hkey, hopen⟩
  simp [RequestRecord.reduce, RequestRecord.publishOnce, hsame]

theorem acceptFinal_effect (s : GenerationState) (key : RequestKey) (r : OwnedRequest)
    (previous : ResponseProgress) :
    OwnerEffect.request key (r.lifecycle.reduce (.finalResponse key)).2 ∈
      (s.acceptFinal key r previous).2 := by
  unfold acceptFinal
  dsimp only
  split <;> exact List.mem_cons_self

theorem observeCredits_keeps (s : GenerationState) (r : OwnedRequest) (grant : UInt16) :
    (s.observeCredits r grant).1.availableCredits = s.availableCredits ∧
      (s.observeCredits r grant).1.requests = s.requests ∧
      (s.observeCredits r grant).2.lifecycle = r.lifecycle := by
  unfold observeCredits
  split <;> exact ⟨rfl, rfl, rfl⟩

/-- A final response is accepted with its credits, or overflows them. -/
theorem response_final_cases {s : GenerationState} {r : OwnedRequest}
    (hgeneration : key.generation = s.generation) (hr : s.requests.lookup key = some r)
    (hfinal : r.lifecycle.response ≠ .final) (grant : UInt16) :
    ((Machine.checkedAdd 32 s.availableCredits grant.toNat).isSome ∧
      ∃ (s' : GenerationState) (r' : OwnedRequest) (available : ℕ), s'.requests = s.requests ∧
        r'.lifecycle = r.lifecycle.observeResponseCommitment ∧
        s.response key .final grant =
          ((s'.acceptFinal key r' r.lifecycle.response).1,
            .creditGrantApplied key grant available ::
              (s'.acceptFinal key r' r.lifecycle.response).2)) ∨
      ¬ (Machine.checkedAdd 32 s.availableCredits grant.toNat).isSome ∧
      ∃ (s' : GenerationState) (r' : OwnedRequest), s'.requests = s.requests ∧
        s.response key .final grant = ({ s'.put key r' with unhealthy := true },
          [.creditLedgerOverflow key s'.availableCredits grant, .generationUnhealthy key]) := by
  obtain ⟨hcredits, hrequests, hlifecycle⟩ := observeCredits_keeps s r grant
  unfold response
  rw [if_neg (not_not.mpr hgeneration)]
  simp only [asyncConflict, hr, asyncChange, if_neg hfinal]
  generalize s.observeCredits r grant = observed at hcredits hrequests hlifecycle
  simp only [takePayload, ← hcredits]
  cases hroom : Machine.checkedAdd 32 observed.1.availableCredits grant.toNat with
  | some available =>
    refine .inl ⟨rfl, _, _, available, ?_, ?_, rfl⟩
    · exact hrequests
    · exact congrArg RequestRecord.observeResponseCommitment hlifecycle
  | none =>
    refine .inr ⟨by simp, _, _, ?_, rfl⟩
    exact hrequests

theorem applyOwnerEffects_keeps (a : RequestAuthority) (effects : List OwnerEffect) :
    (a.applyOwnerEffects effects).operationPending = a.operationPending ∧
      (a.applyOwnerEffects effects).fatal = a.fatal ∧
      a.outbox <+: (a.applyOwnerEffects effects).outbox := by
  have hstep : ∀ (b : RequestAuthority) publication,
      b.operationPending = a.operationPending ∧ b.fatal = a.fatal ∧ a.outbox <+: b.outbox →
      (b.publishRaw publication).operationPending = a.operationPending ∧
        (b.publishRaw publication).fatal = a.fatal ∧
        a.outbox <+: (b.publishRaw publication).outbox := by
    rintro b ⟨key, outcome⟩ hb
    unfold publishRaw
    dsimp only
    split
    · exact hb
    · exact ⟨hb.1, hb.2.1, hb.2.2.trans (List.prefix_append _ _)⟩
  exact List.foldl_invariant hstep _ ⟨rfl, rfl, List.prefix_rfl⟩

theorem completeOperation_delivered {a : RequestAuthority}
    {pending : OperationPending} (h : a.operationPending.lookup key = some pending)
    (response : Runtime.CommandResponse) :
    Delivered (a.completeOperation key (.ok ⟨key, response, none⟩)) key response ∧
      (a.completeOperation key (.ok ⟨key, response, none⟩)).fatal = a.fatal := by
  simp only [completeOperation, h, OperationPending.takeRaw, Option.isNone_none, if_true]
  cases hwaiter : pending.terminal with
  | some waiter =>
    refine ⟨.inl ⟨waiter, pending.requestRaw, ?_⟩, rfl⟩
    simp [deliver]
  | none =>
    refine ⟨.inr ⟨_, pending.requestRaw, AList.lookup_insert _, rfl⟩, rfl⟩

namespace Expects

variable {a : RequestAuthority} {key : RequestKey} {grant : UInt16}

theorem publishes (h : Expects a key grant) :
    OwnerEffect.request key (.publish .response) ∈ (a.feed (.response key .final grant)).2 := by
  obtain ⟨r, hr, hkey, hopen, hfinal⟩ := h.request
  show _ ∈ (a.state.response key .final grant).2
  rcases response_final_cases h.generation hr hfinal grant with
    ⟨-, s', r', available, -, hlifecycle, heq⟩ | ⟨hfull, -⟩
  · rw [heq, ← finalResponse_publishes hkey hopen, ← hlifecycle]
    exact List.mem_cons_of_mem _ (acceptFinal_effect _ _ _ _)
  · exact absurd h.credits hfull

/-- An expected response is delivered. -/
theorem processed (h : Expects a key grant) (message : Runtime.CommandResponse)
    (hid : message.messageId = key.messageId) (hstatus : message.status = Status.success.code)
    (hcommand : message.command = .sessionSetup) (hgrant : message.creditRequest = grant)
    (hhint : message.unauthenticatedRecoveryHint = false) (laneFull : Bool) :
    Delivered (a.routeMessage message laneFull) key message ∧
      (a.routeMessage message laneFull).fatal = none := by
  obtain ⟨pending, hpending, hpolicy, haccepts⟩ := h.pending
  obtain rfl : key = ⟨a.state.generation, message.messageId⟩ := by rw [hid, ← h.generation]
  have hroute : a.routeMessage message laneFull =
      a.acceptFinalResponse ⟨a.state.generation, message.messageId⟩ message := by
    have hsuccess : Status.tryFrom message.status = some .success := by
      rw [hstatus]
      decide
    unfold routeMessage processDecodedResponse
    dsimp only
    rw [hpending, hsuccess]
    simp [hhint, hcommand, hpolicy, haccepts, responseStatusIsAdmissible]
  have hpublishes := h.publishes
  rw [hroute, acceptFinalResponse, hgrant]
  dsimp only
  rw [if_pos (by simpa using hpublishes)]
  generalize hfed : a.feed (.response _ .final grant) = fed
  obtain ⟨hkept, hfatal, -⟩ := applyOwnerEffects_keeps fed.1 fed.2
  have hfed' : fed.1.operationPending = a.operationPending ∧ fed.1.fatal = a.fatal := by
    rw [← hfed]
    exact ⟨rfl, rfl⟩
  rw [← hfed'.1, ← hkept] at hpending
  obtain ⟨hdelivered, hsame⟩ := completeOperation_delivered hpending message
  exact ⟨hdelivered, hsame.trans (hfatal.trans (hfed'.2.trans h.healthy))⟩

end Expects

/-! ## The steps of the setup task -/

theorem advance_eq_ok {w' : WirePipeline} {data : Octets} (h : w.advance env data = .ok w') :
    w.preauthHash.next env data = .ok w'.preauthHash := by
  obtain ⟨hash, hnext, h⟩ := Except.bind_eq_ok.mp h
  cases h
  exact hnext

/-- A request of a setup as its two kinds send it. -/
def SetupRequest (msg : Wire.CommandRequest) : Prop :=
  msg.header.command = .sessionSetup ∧
    (msg.security = some .none ∧ msg.header.flags.signed = false ∨
      ∃ key, msg.security = some (.snapshotKdfSign key) ∧ msg.header.flags.signed = true)

theorem sealSetup_hash {w' : WirePipeline} {msg : Wire.CommandRequest} {key : Key}
    {wire : List Octets} (h : w.sealSetup env msg key = (w', .ok wire)) :
    ∃ signer, w.deriveSetupPhaseSigner env key = .ok signer ∧
      w.preauthHash.next env ((msg.signedWith env signer).headD []) = .ok w'.preauthHash := by
  unfold sealSetup at h
  split at h
  · cases h
  rename_i signer hsigner
  dsimp only at h
  split at h
  · cases h
  rename_i next hnext
  split at h
  · cases h
  · obtain ⟨rfl, -⟩ := Prod.mk.inj h
    have hhash := advance_eq_ok hnext
    exact ⟨signer, hsigner, hhash⟩

theorem transformOutgoing_hash {w' : WirePipeline} {msg : Wire.CommandRequest} {random : Octets}
    {sent : List Octets} (hmsg : SetupRequest msg)
    (h : w.transformOutgoing env msg false random = (w', .ok sent)) :
    ∃ bytes, hashedRequest env w msg = .ok bytes ∧
      w.preauthHash.next env bytes = .ok w'.preauthHash := by
  obtain ⟨hcommand, ⟨hsecurity, hsigned⟩ | ⟨key, hsecurity, hsigned⟩⟩ := hmsg
  · refine ⟨msg.plain, by simp [hashedRequest, hsecurity], ?_⟩
    have hingest : w.ingestOutgoing env msg = w.advance env msg.plain :=
      if_pos ⟨by simp [participatesInPreauthOutgoing, hcommand], by simp [hsigned]⟩
    simp only [transformOutgoing, hsecurity, hingest, Bool.false_eq_true, if_false] at h
    split at h
    · cases h
    · rename_i next hnext
      obtain ⟨rfl, -⟩ := Prod.mk.inj h
      exact advance_eq_ok hnext
  · have hingest : w.ingestOutgoing env msg = .ok w := if_neg (by simp [hcommand, hsigned])
    simp only [transformOutgoing, hsecurity, hingest, Bool.false_eq_true, if_false,
      sealOutgoing] at h
    split at h
    · cases h
    · rename_i next wire hseal
      obtain ⟨rfl, -⟩ := Prod.mk.inj h
      obtain ⟨signer, hsigner, hnext⟩ := sealSetup_hash hseal
      exact ⟨_, by simp [hashedRequest, hsecurity, hsigner, Except.map], hnext⟩

namespace SessionSetup

variable {G : Type} {info : ConnectionInfo} {gss : Gss G} {s s' : SessionSetup G}

theorem onSessionKeyExchanged_keeps {snapshot : Except Error (Option Octets)}
    (h : onSessionKeyExchanged env info gss snapshot s = .ok () s') :
    s'.result = s.result ∧ s'.store.entries = s.store.entries := by
  by_cases hnew : s.kind = .new
  · obtain ⟨entry, _, _, _, new, -, -, -, rfl⟩ := onSessionKeyExchanged_ok h hnew
    refine ⟨rfl, ?_⟩
    show (s.store.setInfo entry new).entries = _
    unfold SessionStore.setInfo
    split <;> rfl
  · simp only [onSessionKeyExchanged, get_bind, if_neg hnew] at h
    cases h
    exact ⟨rfl, rfl⟩

theorem finalRequest_setup {buffer : Octets} {sessionId : ℕ} {request : Wire.CommandRequest}
    (stamp : Stamp)
    (h : s.finalRequest info gss buffer sessionId = .ok request) :
    SetupRequest (stamp.apply request) := by
  unfold finalRequest at h
  dsimp only at h
  split at h
  · cases h
    exact ⟨rfl, .inl ⟨rfl, rfl⟩⟩
  · obtain ⟨key, -, h⟩ := Except.bind_eq_ok.mp h
    cases h
    exact ⟨rfl, .inr ⟨key, rfl, rfl⟩⟩

end SessionSetup

namespace FinalExchange

variable {G : Type} (env : Env) (info : ConnectionInfo) (gss : Gss G)

variable (x : FinalExchange G)

/-- The hash of the negotiation and the setup's own messages. -/
def ownHash : Except Error PreauthHashState :=
  x.exchanged.foldlM (PreauthHashState.next env) info.preauthHash

def ownSnapshot : Except Error (Option Octets) := do
  let hash ← x.ownHash env info
  { WirePipeline.default with preauthHash := hash }.snapshotPreauthFinalized

def OwnSigner (signer : MessageSigner) : Prop :=
  ∃ key hash channel, x.ownSnapshot env info = .ok hash ∧
    gss.sessionKey x.setup.authenticator = .ok key ∧
    ChannelInfo.new env x.setup.newChannelId key hash info = .ok channel ∧ channel.algos = signer

def AtStage (entry : EntryRef) : Prop :=
  match x.stage with
  | .ready | .dispatched | .sessionSnapshot _ | .keysExchanged =>
    x.ownHash env info = .ok x.wire.preauthHash
  | .channelSnapshot hash => x.ownSnapshot env info = hash
  | .installed => ∃ key hash channel, x.ownSnapshot env info = .ok hash ∧
    gss.sessionKey x.setup.authenticator = .ok key ∧
    ChannelInfo.new env x.setup.newChannelId key hash info = .ok channel ∧ channel.valid = true ∧
    x.wire.store.channel entry = some channel
  | .failed _ => True

def Kept (sessionId : ℕ) (entry : EntryRef) : Prop :=
  (∃ error, x.stage = .failed error) ∨
    (x.setup.result = some entry ∧ x.wire.sessions.lookup sessionId = some entry ∧
      (∃ e, x.wire.store.entries[entry]? = some e) ∧ x.AtStage env info gss entry)

variable {env info gss} {x : FinalExchange G} {sessionId : ℕ} {entry : EntryRef}

theorem Kept.getSigner (h : x.Kept env info gss sessionId entry) (hstage : x.stage = .installed)
    {signer : MessageSigner} (hown : x.OwnSigner env info gss signer) :
    x.wire.getSigner sessionId = .ok (some signer) := by
  rcases h with ⟨error, hfailed⟩ | ⟨-, hregistered, -, hat⟩
  · rw [hstage] at hfailed
    cases hfailed
  unfold AtStage at hat
  rw [hstage] at hat
  obtain ⟨key, hash, channel, htranscript, hkey, hchannel, hvalid, hinstalled⟩ := hat
  obtain ⟨key', hash', channel', htranscript', hkey', hchannel', rfl⟩ := hown
  obtain rfl : hash = hash' := Except.ok.inj (htranscript.symm.trans htranscript')
  obtain rfl : key = key' := Except.ok.inj (hkey.symm.trans hkey')
  obtain rfl : channel = channel' := Except.ok.inj (hchannel.symm.trans hchannel')
  have hentry : x.wire.sessionEntry sessionId = .ok entry := by
    simp [sessionEntry, hregistered]
  refine Except.bind_eq_ok.mpr ⟨entry, hentry, ?_⟩
  simp [hinstalled, ChannelInfo.signer, hvalid]

variable {buffer : Octets} {stamp : Stamp}

theorem ownSnapshot_eq (h : x.ownHash env info = .ok x.wire.preauthHash) :
    x.ownSnapshot env info = x.wire.snapshotPreauthFinalized := by
  rw [ownSnapshot, h]
  rfl

theorem kept_dispatch (hresult : x.setup.result = some entry)
    (hregistered : x.wire.sessions.lookup sessionId = some entry)
    (hentry : ∃ e, x.wire.store.entries[entry]? = some e)
    (hown : x.ownHash env info = .ok x.wire.preauthHash) :
    (x.dispatch env info gss buffer stamp).Kept env info gss sessionId entry := by
  unfold dispatch
  rw [hresult]
  dsimp only
  split
  · exact .inl ⟨_, rfl⟩
  rename_i request hrequest
  have hsame := transformOutgoing_sameSessions env x.wire (stamp.apply request) false []
  split <;> rename_i wire _ hresult' <;> rw [hresult'] at hsame
  · exact .inl ⟨_, rfl⟩
  obtain ⟨bytes, hbytes, hnext⟩ :=
    transformOutgoing_hash (SessionSetup.finalRequest_setup stamp hrequest) hresult'
  refine .inr ⟨hresult, ?_, ?_, ?_⟩
  · rw [hsame.sessions]
    exact hregistered
  · rw [hsame.store]
    exact hentry
  · show List.foldlM _ _
      (x.exchanged ++ (hashedRequest env x.wire (stamp.apply request)).toOption.toList) = _
    rw [List.foldlM_append, hbytes]
    exact Except.bind_eq_ok.mpr ⟨_, hown, Except.bind_eq_ok.mpr ⟨_, hnext, rfl⟩⟩

theorem Kept.task (h : x.Kept env info gss sessionId entry) :
    (x.task env info gss buffer stamp).Kept env info gss sessionId entry := by
  rcases h with ⟨error, hfailed⟩ | ⟨hresult, hregistered, hentry, hat⟩
  · refine .inl ⟨error, ?_⟩
    simp only [FinalExchange.task, hfailed]
  unfold FinalExchange.task
  cases hstage : x.stage with
  | ready =>
    simp only [AtStage, hstage] at hat
    exact kept_dispatch hresult hregistered hentry hat
  | dispatched =>
    simp only [AtStage, hstage] at hat
    dsimp only
    split <;> exact .inr ⟨hresult, hregistered, hentry, hat⟩
  | sessionSnapshot hash =>
    simp only [AtStage, hstage] at hat
    dsimp only [compute]
    split
    · rename_i s hcomputed
      obtain ⟨hresult', hentries⟩ := SessionSetup.onSessionKeyExchanged_keeps hcomputed
      refine .inr ⟨hresult'.trans hresult, hregistered, ?_, hat⟩
      rw [← hentries] at hentry
      exact hentry
    · exact .inl ⟨_, rfl⟩
  | keysExchanged =>
    simp only [AtStage, hstage] at hat
    exact .inr ⟨hresult, hregistered, hentry, ownSnapshot_eq hat⟩
  | channelSnapshot hash =>
    simp only [AtStage, hstage] at hat
    dsimp only [compute]
    split
    · rename_i s hcomputed
      obtain ⟨entry', key, hash', channel, hentry', rfl, hkey, hchannel, hvalid, rfl⟩ :=
        SessionSetup.installChannel_ok hcomputed
      obtain rfl : entry = entry' := Option.some_inj.mp (hresult.symm.trans hentry')
      obtain ⟨e, he⟩ := hentry
      exact .inr ⟨hresult, hregistered, ⟨_, SessionStore.entry_setChannel he channel⟩, key, hash',
        channel, hat, hkey, hchannel, hvalid, SessionStore.channel_setChannel he channel⟩
    · exact .inl ⟨_, rfl⟩
  | installed => exact .inr ⟨hresult, hregistered, hentry, hat⟩
  | failed error => exact .inl ⟨error, hstage⟩

structure Spares (sessionId : ℕ) (entry : EntryRef) (w w' : WirePipeline) : Prop where
  preauthHash : w'.preauthHash = w.preauthHash
  registered : w'.sessions.lookup sessionId = w.sessions.lookup sessionId
  entry : w'.store.entries[entry]? = w.store.entries[entry]?

theorem Kept.spared (h : x.Kept env info gss sessionId entry) {w : WirePipeline}
    {a : RequestAuthority} (hw : Spares sessionId entry x.wire w) :
    { x with wire := w, authority := a }.Kept env info gss sessionId entry := by
  rcases h with hfailed | ⟨hresult, hregistered, ⟨e, he⟩, hat⟩
  · exact .inl hfailed
  refine .inr ⟨hresult, hw.registered.trans hregistered, ⟨e, hw.entry.trans he⟩, ?_⟩
  have hchannel : w.store.channel entry = x.wire.store.channel entry := by
    simp only [SessionStore.channel, hw.entry]
  unfold AtStage at hat ⊢
  dsimp only
  rw [hw.preauthHash, hchannel]
  exact hat

theorem Kept.installed (h : x.Kept env info gss sessionId entry) (hstage : x.stage = .installed)
    {w : WirePipeline} {a : RequestAuthority} (hw : SameSessions x.wire w) :
    { x with wire := w, authority := a }.Kept env info gss sessionId entry := by
  rcases h with hfailed | ⟨hresult, hregistered, hentry, hat⟩
  · exact .inl hfailed
  refine .inr ⟨hresult, ?_, ?_, ?_⟩
  · rw [hw.sessions]
    exact hregistered
  · rw [hw.store]
    exact hentry
  · simp only [AtStage, hstage] at hat ⊢
    rw [hw.store]
    exact hat

/-! ## Runs -/

/-- The answer is decoded when the channel is installed and the owner waits for it; before that, no
other frame moves the hash, and other uses of the pipeline leave it and the entry alone. -/
def InOrder (env : Env) (sessionId : ℕ) (entry : EntryRef) (key : RequestKey) (answer : Octets)
    (grant : UInt16) (x : FinalExchange G) : FinalMove → Prop
  | .task => True
  | .decode frame emitEvents laneFull =>
    if frame = answer then
      x.stage = .installed ∧ Expects x.authority key grant ∧ ¬ (emitEvents = true ∧ laneFull = true)
    else Spares sessionId entry x.wire (x.wire.transformIncomingAll env frame).1
  | .elsewhere event => Spares sessionId entry x.wire (x.wire.react env event).1
  | .owner _ => True

variable {key : RequestKey} {answer : Octets} {grant : UInt16}

/-- Every move in order keeps the registered session, or fails. -/
theorem Kept.step (h : x.Kept env info gss sessionId entry) {move : FinalMove}
    (hmove : x.InOrder env sessionId entry key answer grant move) :
    (x.step env info gss buffer stamp move).Kept env info gss sessionId entry := by
  cases move with
  | task => exact h.task
  | decode frame emitEvents laneFull =>
    simp only [InOrder] at hmove
    split at hmove
    · exact h.installed hmove.1 (transformIncomingAll_sameSessions env x.wire frame)
    · exact h.spared hmove
  | elsewhere event => exact h.spared hmove
  | owner authority => exact h.spared ⟨rfl, rfl, rfl⟩

/-- The final request is about to be sent, and the shared hash is that of the setup's own messages.
-/
structure Poised (env : Env) (info : ConnectionInfo) (x : FinalExchange G) (sessionId : ℕ)
    (entry : EntryRef) : Prop where
  stage : x.stage = .ready
  transcript : x.ownHash env info = .ok x.wire.preauthHash
  result : x.setup.result = some entry
  registered : x.wire.sessions.lookup sessionId = some entry
  entry : ∃ e, x.wire.store.entries[entry]? = some e ∧ e.sessionId = sessionId

theorem Poised.kept (h : x.Poised env info sessionId entry) :
    x.Kept env info gss sessionId entry := by
  obtain ⟨e, he, -⟩ := h.entry
  refine .inr ⟨h.result, h.registered, ⟨e, he⟩, ?_⟩
  simpa only [AtStage, h.stage] using h.transcript

end FinalExchange

/-- **Delivery.** If the moves are in order, an answer that is signed with the key of the setup's
own transcript is verified with that key and delivered, and the generation goes on. -/
theorem final_response_delivered {G : Type} (env : Env) (info : ConnectionInfo) (gss : Gss G)
    (buffer : Octets) (stamp : Stamp) (x : FinalExchange G) (sessionId : ℕ) (entry : EntryRef)
    (key : RequestKey) (answer : Octets) (plain : PlainResponse) (moves : List FinalMove)
    (hstart : x.Poised env info sessionId entry)
    (hmoves : Meets (step env info gss buffer stamp) (FinalExchange.InOrder env sessionId
      entry key answer (.ofNat plain.header.creditRequest)) x moves) :
    ∀ before emitEvents laneFull after,
      moves = before ++ .decode answer emitEvents laneFull :: after →
      ∃ y, y = before.foldl (step env info gss buffer stamp) x ∧
        ∀ signer, y.OwnSigner env info gss signer →
          SignedAnswer env signer sessionId key.messageId answer plain →
          y.wire.getSigner sessionId = .ok (some signer) ∧
          (y.wire.transformIncomingAll env answer).2 = .ok [decodedAnswer plain answer] ∧
          Delivered (y.decode env answer emitEvents laneFull).authority key
            (decodedAnswer plain answer).forOwner ∧
          (y.decode env answer emitEvents laneFull).authority.fatal = none := by
  rintro before emitEvents laneFull after rfl
  obtain ⟨hbefore, hdecode, -⟩ := Meets.append.mp hmoves
  refine ⟨_, rfl, fun signer hown hsigned => ?_⟩
  have hkept : (before.foldl (step env info gss buffer stamp) x).Kept env info gss
      sessionId entry := by
    refine Meets.invariant (P := fun y => y.Kept env info gss sessionId entry) ?_
      hbefore hstart.kept
    intro y move hy hmove
    exact hy.step hmove
  generalize before.foldl (step env info gss buffer stamp) x = y at *
  simp only [FinalExchange.InOrder, if_true] at hdecode
  obtain ⟨hstage, hexpects, hroom⟩ := hdecode
  have hsigner := hkept.getSigner hstage hown
  have hdecoded := hsigned.decoded hsigner
  have hauthority : (y.decode env answer emitEvents laneFull).authority =
      y.authority.routeMessage (decodedAnswer plain answer).forOwner laneFull := by
    simp [decode, hdecoded, finishPreparedInbound, hroom, Except.toOption]
  rw [hauthority]
  obtain ⟨hdelivered, hfatal⟩ := hexpects.processed (decodedAnswer plain answer).forOwner
    hsigned.messageId hsigned.status hsigned.command rfl rfl laneFull
  exact ⟨hsigner, by rw [hdecoded], hdelivered, hfatal⟩

/-! ## A new session -/

def waitingOwner : RequestAuthority :=
  (OwnerTask.run { smallConfig 1 with initialMessageId := 3 }
    [.work (.operation ⟨.anyStatus ⟨.sessionSetup, none, 0, 0, true⟩, none, ⟨0, true⟩⟩
      (.inline (some echoFrame)))]).authority

def poised : FinalExchange ℕ where
  wire := (Run.along (react sampleEnv) .default [.negotiated sampleInfo, .infoCreated (.new 5),
    .entryCreated 5 0, .sessionStarted 0]).state
  authority := waitingOwner
  setup := { SessionSetup.fresh 2 0 .new .empty with
    result := some 0, context := some ⟨5, Machine.maxValue 32, 0⟩ }
  stage := .ready
  exchanged := []

def poisedStep : FinalExchange ℕ → FinalMove → FinalExchange ℕ :=
  step sampleEnv sampleInfo (twoTokens [2]) [2] ⟨3, 1, 1⟩

theorem poised_poised : poised.Poised sampleEnv sampleInfo 5 0 where
  stage := rfl
  transcript := by decide +kernel
  result := rfl
  registered := by decide +kernel
  entry := ⟨_, rfl, rfl⟩

theorem waitingOwner_expects : Expects waitingOwner (smallKey 3) 1 where
  generation := by decide +kernel
  healthy := by decide +kernel
  pending := ⟨_, rfl, rfl, rfl⟩
  request := by
    refine ⟨_, rfl, rfl, rfl, ?_⟩
    decide +kernel
  credits := by decide +kernel

theorem setupFrame_signed : SignedAnswer sampleEnv ⟨.hmacSha256, sampleKey⟩ 5 3
    (setupFrame .success 72 true) (setupResponse .success 72 true).message where
  read := by decide +kernel
  command := rfl
  status := rfl
  signed := rfl
  alone := rfl
  sessionId := rfl
  messageId := rfl
  solicited := by decide
  mac := by decide +kernel

def channelInstalled : List FinalMove := List.replicate 5 .task

theorem setup_answer_delivered : ∃ y : FinalExchange ℕ,
    y = channelInstalled.foldl poisedStep poised ∧
    Delivered (y.decode sampleEnv (setupFrame .success 72 true) false false).authority (smallKey 3)
      (setupResponse .success 72 true).forOwner ∧
    (y.decode sampleEnv (setupFrame .success 72 true) false false).authority.fatal = none := by
  have hmoves : Meets poisedStep (FinalExchange.InOrder sampleEnv 5 0 (smallKey 3)
      (setupFrame .success 72 true) 1) poised
      (channelInstalled ++ [.decode (setupFrame .success 72 true) false false]) := by
    refine ⟨trivial, trivial, trivial, trivial, trivial, ?_, trivial⟩
    simp only [FinalExchange.InOrder, if_true]
    exact ⟨rfl, waitingOwner_expects, by decide⟩
  obtain ⟨y, hy, hanswer⟩ :=
    final_response_delivered sampleEnv sampleInfo (twoTokens [2]) [2] ⟨3, 1, 1⟩ poised 5 0
      (smallKey 3) (setupFrame .success 72 true) (setupResponse .success 72 true).message _
    poised_poised hmoves channelInstalled false false [] rfl
  have hown : y.OwnSigner sampleEnv sampleInfo (twoTokens [2]) ⟨.hmacSha256, sampleKey⟩ := by
    rw [hy]
    exact ⟨_, _, _, rfl, rfl, rfl, rfl⟩
  exact ⟨y, hy, (hanswer _ hown setupFrame_signed).2.2⟩

/-- The answer arrives before the channel is installed: its session has no signer, and the owner
fails.
-/
theorem early_answer_is_fatal : ∃ y : FinalExchange ℕ,
    poised.Poised sampleEnv sampleInfo 5 0 ∧ y = poisedStep poised .task ∧
    Expects y.authority (smallKey 3) 1 ∧ y.OwnSigner sampleEnv sampleInfo (twoTokens [2])
    ⟨.hmacSha256, sampleKey⟩ ∧ SignedAnswer sampleEnv ⟨.hmacSha256, sampleKey⟩ 5 3
    (setupFrame .success 72 true)
      (setupResponse .success 72 true).message ∧
    y.wire.getSigner 5 = .ok none ∧
    (y.wire.transformIncomingAll sampleEnv (setupFrame .success 72 true)).2.toOption = none ∧
    (y.decode sampleEnv (setupFrame .success 72 true) false false).authority.fatal =
      some (.wire "decode-incoming") := by
  refine ⟨_, poised_poised, rfl, waitingOwner_expects, ⟨_, _, _, rfl, rfl, rfl, rfl⟩,
    setupFrame_signed,
    rfl, ?_, ?_⟩
  · decide +kernel
  · decide +kernel

end Session
