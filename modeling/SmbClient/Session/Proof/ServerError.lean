import SmbClient.Msg.Proof.Response
import SmbClient.Session.Proof.FinalExchange

/-!
# Errors of the server

The owner knows an error response only by how the body was read, and every one reads as the output
of a query, so a query that fails ends the generation (`query_error_is_fatal`).
-/

namespace Session

open Msg Wire WirePipeline Runtime RequestAuthority Status

/-! ## Statement -/

structure InFlight (a : RequestAuthority) (key : RequestKey) (pending : OperationPending) :
    Prop where
  generation : key.generation = a.state.generation
  registered : a.operationPending.lookup key = some pending
  draining : pending.draining = false
  buffered : pending.buffered = none
  request : ∃ r, a.state.requests.lookup key = some r ∧ r.lifecycle.key = key ∧
    r.lifecycle.caller = .opened ∧ r.lifecycle.wireCommitted = true ∧ r.lifecycle.response ≠ .final

structure ServerError (env : Env) (e : ErrorResponse) (raw : Octets)
    (response : Wire.CommandResponse) : Prop where
  read : PlainResponse.read env raw = some response.message
  body : e.write = some (raw.drop Header.structSize)
  hint : response.form.unauthenticatedRecoveryHint = isRecoveryHint response.message.header

structure Refusal (policy : ResponsePolicy) (status : UInt32) : Prop where
  unaccepted : policy.acceptsWireStatus (tryFrom status) = false
  pending : status ≠ pending.code
  userSessionDeleted : status ≠ userSessionDeleted.code
  networkSessionExpired : status ≠ networkSessionExpired.code

def Delivers (a b : RequestAuthority) (key : RequestKey) (response : Runtime.CommandResponse) :
    Prop :=
  ∃ pending raw, a.operationPending.lookup key = some pending ∧
    ((∃ waiter sent, pending.terminal = some waiter ∧ b.outbox = a.outbox ++ sent ∧
        Delivery.completed waiter (.ok ⟨key, response, raw⟩) ∈ sent) ∨
      pending.terminal = none ∧ ∃ kept, b.operationPending.lookup key = some kept ∧
        kept.buffered = some (.ok ⟨key, response, raw⟩))

def Spares (a b : RequestAuthority) (key : RequestKey) : Prop :=
  ∀ k, k ≠ key → b.state.requests.lookup k = a.state.requests.lookup k ∧
    b.operationPending.lookup k = a.operationPending.lookup k

/-! ## The reducer -/

section
variable (s : GenerationState) {key k : RequestKey} (hk : k ≠ key)
include hk

theorem releaseRequestOwnership_elsewhere :
    (s.releaseRequestOwnership key).requests.lookup k = s.requests.lookup k := by
  have hpayload : (s.releasePayload key).requests.lookup k = s.requests.lookup k := by
    unfold GenerationState.releasePayload
    split
    · rfl
    · exact AList.lookup_insert_ne hk
  unfold GenerationState.releaseRequestOwnership
  dsimp only
  split
  · exact hpayload
  · exact (AList.lookup_insert_ne hk).trans hpayload

theorem acceptFinal_elsewhere (r : OwnedRequest) (previous : ResponseProgress) :
    (s.acceptFinal key r previous).1.requests.lookup k = s.requests.lookup k := by
  have hforget : (s.forgetAsync previous).requests = s.requests := by
    cases previous <;> rfl
  have hput : ∀ (s' : GenerationState) (r' : OwnedRequest), s'.requests = s.requests →
      ((s'.put key r').releaseRequestOwnership key).requests.lookup k = s.requests.lookup k := by
    intro s' r' hs'
    rw [releaseRequestOwnership_elsewhere _ hk]
    exact (AList.lookup_insert_ne hk).trans (by rw [hs'])
  unfold GenerationState.acceptFinal
  dsimp only
  split <;> exact hput _ _ hforget

end

/-! ## The owner -/

section
variable {a : RequestAuthority} {key : RequestKey} {pending : OperationPending}

theorem completeOperation_delivers {b : RequestAuthority}
    (ha : a.operationPending.lookup key = some pending)
    (hb : b.operationPending = a.operationPending) (houtbox : a.outbox <+: b.outbox)
    (response : Runtime.CommandResponse) :
    Delivers a (b.completeOperation key (.ok ⟨key, response, none⟩)) key response := by
  refine ⟨pending, pending.requestRaw, ha, ?_⟩
  rw [← hb] at ha
  obtain ⟨sent, hsent⟩ := houtbox
  simp only [completeOperation, ha, OperationPending.takeRaw, Option.isNone_none]
  cases hwaiter : pending.terminal with
  | some waiter =>
    refine .inl ⟨waiter, sent ++ [_], rfl, ?_, List.mem_append_right _ List.mem_cons_self⟩
    simp [deliver, dropPending, ← hsent]
  | none => exact .inr ⟨rfl, _, AList.lookup_insert _, rfl⟩

theorem completeOperation_elsewhere {k : RequestKey} (hk : k ≠ key)
    (result : Except RuntimeError OperationResult) :
    (a.completeOperation key result).operationPending.lookup k = a.operationPending.lookup k := by
  unfold completeOperation
  split
  · rfl
  dsimp only
  split
  · exact AList.lookup_erase_ne hk
  · exact AList.lookup_insert_ne hk

theorem completeOperation_fatal (result : Except RuntimeError OperationResult) :
    (a.completeOperation key result).fatal = a.fatal := by
  unfold completeOperation
  split
  · rfl
  dsimp only
  split <;> rfl

theorem feed_applied (a : RequestAuthority) (event : OwnerEvent) :
    let applied := (a.feed event).1.applyOwnerEffects (a.feed event).2
    applied.operationPending = a.operationPending ∧ applied.fatal = a.fatal ∧
      a.outbox <+: applied.outbox ∧ applied.state = (a.state.reduce event).1 := by
  obtain ⟨hpending, hfatal, houtbox⟩ := applyOwnerEffects_keeps (a.feed event).1 (a.feed event).2
  exact ⟨hpending, hfatal, houtbox, ((a.feed event).1.applyOwnerEffects_bookkeeping _).state⟩

/-- A final response is delivered exactly if its credits fit. -/
theorem acceptFinalResponse_delivers (h : InFlight a key pending)
    (message : Runtime.CommandResponse) :
    (Delivers a (a.acceptFinalResponse key message) key message ↔
      (Machine.checkedAdd 32 a.state.availableCredits message.creditRequest.toNat).isSome) ∧
    (a.acceptFinalResponse key message).fatal = a.fatal ∧
    Spares a (a.acceptFinalResponse key message) key := by
  obtain ⟨r, hr, hkey, hopen, -, hfinal⟩ := h.request
  obtain ⟨hpending, hfatal, houtbox, hstate⟩ :=
    feed_applied a (.response key .final message.creditRequest)
  unfold acceptFinalResponse
  dsimp only
  rcases response_final_cases h.generation hr hfinal message.creditRequest with
    ⟨hroom, s', r', available, hrequests, hlifecycle, heq⟩ | ⟨hfull, s', r', hrequests, heq⟩
  · have hpublishes : OwnerEffect.request key (.publish .response) ∈
        (a.feed (.response key .final message.creditRequest)).2 := by
      show _ ∈ (a.state.response key .final message.creditRequest).2
      rw [heq, ← finalResponse_publishes hkey hopen, ← hlifecycle]
      exact List.mem_cons_of_mem _ (acceptFinal_effect _ _ _ _)
    rw [if_pos (by simpa using hpublishes)]
    refine ⟨iff_of_true (completeOperation_delivers h.registered hpending houtbox message) hroom,
      (completeOperation_fatal _).trans hfatal, fun k hk => ⟨?_, ?_⟩⟩
    · rw [(completeOperation_bookkeeping _ _ _).state, hstate]
      show (a.state.response key .final message.creditRequest).1.requests.lookup k = _
      rw [heq, acceptFinal_elsewhere _ hk, hrequests]
    · rw [completeOperation_elsewhere hk, hpending]
  · -- Nothing is published: the operation is registered as before, and waits.
    have hsilent : (a.feed (.response key .final message.creditRequest)).2 =
        [.creditLedgerOverflow key s'.availableCredits message.creditRequest,
          .generationUnhealthy key] := congrArg Prod.snd heq
    rw [if_neg (by simp [hsilent]), hpending, h.registered]
    simp only [h.draining, Bool.false_eq_true, if_false]
    refine ⟨iff_of_false ?_ hfull, hfatal, fun k hk => ⟨?_, by rw [hpending]⟩⟩
    · rintro ⟨entry, raw, hentry, ⟨waiter, sent, -, hsent, hmem⟩ | ⟨-, kept, hkept, hbuffered⟩⟩
      · rw [hsilent] at hsent
        have hnone : sent = [] := List.self_eq_append_right.mp hsent
        simp [hnone] at hmem
      · rw [hpending, h.registered] at hkept
        cases hkept
        simp [h.buffered] at hbuffered
    · rw [hstate]
      show (a.state.response key .final message.creditRequest).1.requests.lookup k = _
      rw [heq, ← hrequests]
      exact AList.lookup_insert_ne hk

end

/-! ## The answer of the server -/

theorem Refusal.isRecoveryHint_eq {policy : ResponsePolicy} {header : Header}
    (h : Refusal policy header.status) : isRecoveryHint header = false := by
  simp [isRecoveryHint, h.userSessionDeleted, h.networkSessionExpired]

/-- A refused status is delivered as an error, or fails the generation. -/
theorem routeMessage_refusal {a : RequestAuthority} {key : RequestKey} {pending : OperationPending}
    (h : InFlight a key pending) (message : Runtime.CommandResponse)
    (hid : message.messageId = key.messageId)
    (hcommand : message.command = pending.response.command)
    (hstatus : Refusal pending.response message.status)
    (hhint : message.unauthenticatedRecoveryHint = false) (laneFull : Bool) :
    a.routeMessage message laneFull =
      if message.isError then a.acceptFinalResponse key message
      else a.fail (.wire "operation-response-contract") := by
  obtain rfl : key = ⟨a.state.generation, message.messageId⟩ := by rw [hid, ← h.generation]
  have hunlisted : ∀ s : Status, message.status ≠ s.code → tryFrom message.status ≠ some s :=
    fun s hne heq => hne (tryFrom_eq_some.mp heq).symm
  have hpending := hunlisted _ hstatus.pending
  have hdeleted := hunlisted _ hstatus.userSessionDeleted
  have hexpired := hunlisted _ hstatus.networkSessionExpired
  unfold routeMessage processDecodedResponse
  simp only [h.registered, Option.isSome_some, if_true, hpending, if_false, hhint,
    Bool.false_eq_true, false_and, hdeleted, hexpired, or_self, decide_false, not_false_eq_true,
    true_and, hcommand, ne_eq, not_true_eq_false, false_or, h.draining, Bool.false_or,
    responseStatusIsAdmissible, hstatus.unaccepted]
  cases message.isError <;> rfl

/-- An error response reaches its caller, and nobody else notices, exactly if no layout of the
command reads its body and there is room for its credits. -/
theorem error_delivered_iff (fields : Command → ℕ → Octets → Bool) {env : Env}
    (henv : env.content = ResponseContent.read fields) {a : RequestAuthority} {key : RequestKey}
    {pending : OperationPending} (h : InFlight a key pending) {e : ErrorResponse} {raw : Octets}
    {response : Wire.CommandResponse} (hresponse : ServerError env e raw response)
    (hid : response.message.header.messageId = key.messageId)
    (hcommand : response.message.header.command = pending.response.command)
    (hstatus : Refusal pending.response response.message.header.status) (laneFull : Bool) :
    (response.message.content = .error ∧
      Delivers a (a.routeMessage response.forOwner laneFull) key response.forOwner ∧
      (a.routeMessage response.forOwner laneFull).fatal = a.fatal ∧
      Spares a (a.routeMessage response.forOwner laneFull) key) ↔
    e.Told pending.response.command raw ∧
      (Machine.checkedAdd 32 a.state.availableCredits
        response.forOwner.creditRequest.toNat).isSome := by
  obtain ⟨hheader, -, hcontent⟩ := PlainResponse.read_eq_some hresponse.read
  obtain ⟨byteCount, hencodes⟩ := ErrorResponse.write_encodes (Header.length_of_read hheader)
    hresponse.body
  have hhint : response.form.unauthenticatedRecoveryHint = false :=
    hresponse.hint.trans hstatus.isRecoveryHint_eq
  have hread : response.message.content = .error ↔ e.Told pending.response.command raw := by
    rw [← hencodes.content_eq_error_iff fields, ← hcommand, ← henv, hcontent, Option.some.injEq]
  have hroute := routeMessage_refusal h response.forOwner hid hcommand hstatus hhint laneFull
  obtain ⟨hdelivers, hfatal, hspares⟩ := acceptFinalResponse_delivers h response.forOwner
  rw [hread]
  refine and_congr_right fun htold => ?_
  have herror : response.forOwner.isError = true := decide_eq_true (hread.mpr htold)
  rw [hroute, if_pos herror, ← hdelivers]
  exact and_iff_left ⟨hfatal, hspares⟩

/-! ## A create and a query that fail -/

variable (command : Command)

def strict : TypedOperation where
  response := ⟨command, .oneOf [.success]⟩
  outgoing := ⟨command, none, 0, 0, false⟩
  dependency := none
  replay := .neverReplay
  sealed := rfl

def sentOwner : RequestAuthority :=
  (OwnerTask.run { smallConfig 1 with initialMessageId := 3 }
    (OwnerTask.Turn.inputs { operations :=
      [(⟨strict command, none, 0, false⟩, .inline (some echoFrame))]
                             final := .polledWrite 1 (some .sent) false false })).authority

def sentPending : OperationPending :=
  .new (strict command).response .neverReplay none (some (.ticket 0))

def missingHeader : Header :=
  { responseHeader command 5 0 false with status := objectNameNotFound.code }

def missingError : ErrorResponse := ⟨[⟨.default, [7, 0, 0, 0]⟩]⟩

def missingFrame : Octets :=
  (missingHeader command).write ++ missingError.write.getD []

def missingResponse (content : ResponseContent) : Wire.CommandResponse :=
  ⟨⟨missingHeader command, content⟩, missingFrame command, .default⟩

theorem missingHeader_refusal :
    Refusal (strict command).response (missingHeader command).status where
  unaccepted := by
    show ResponsePolicy.acceptsWireStatus _ (tryFrom objectNameNotFound.code) = false
    rfl
  pending := by show objectNameNotFound.code ≠ _; decide
  userSessionDeleted := by show objectNameNotFound.code ≠ _; decide
  networkSessionExpired := by show objectNameNotFound.code ≠ _; decide

theorem sentCreate_inFlight : InFlight (sentOwner .create) (smallKey 3) (sentPending .create) where
  generation := by decide +kernel
  registered := rfl
  draining := rfl
  buffered := rfl
  request := ⟨_, rfl, rfl, rfl, rfl, by decide +kernel⟩

theorem missingCreate_serverError : ServerError sampleEnv missingError (missingFrame .create)
    (missingResponse .create .error) where
  read := by decide +kernel
  body := by decide +kernel
  hint := by decide +kernel

theorem create_error_delivered :
    Delivers (sentOwner .create)
        ((sentOwner .create).routeMessage (missingResponse .create .error).forOwner false)
        (smallKey 3) (missingResponse .create .error).forOwner ∧
      ((sentOwner .create).routeMessage (missingResponse .create .error).forOwner false).fatal =
        (sentOwner .create).fatal := by
  have htold : missingError.Told (sentPending .create).response.command (missingFrame .create) := by
    refine ⟨?_, ?_, ?_, ?_⟩ <;> intro h <;> cases h
  obtain ⟨-, hdelivers, hfatal, -⟩ := (error_delivered_iff _ (by rfl)
    sentCreate_inFlight missingCreate_serverError rfl rfl (missingHeader_refusal .create) false).mpr
    ⟨htold, by decide +kernel⟩
  exact ⟨hdelivers, hfatal⟩

/-- The error of a query reads as its output, which the operation did not ask for. -/
theorem query_error_is_fatal :
    InFlight (sentOwner .queryInfo) (smallKey 3) (sentPending .queryInfo) ∧
      ServerError sampleEnv missingError (missingFrame .queryInfo)
        (missingResponse .queryInfo .other) ∧
      Refusal (sentPending .queryInfo).response (missingHeader .queryInfo).status ∧
      ((sentOwner .queryInfo).routeMessage (missingResponse .queryInfo .other).forOwner
        false).fatal =
        some (.wire "operation-response-contract") := by
  refine ⟨⟨by decide +kernel, rfl, rfl, rfl, _, rfl, rfl, rfl, rfl, by decide +kernel⟩,
    ⟨by decide +kernel, by decide +kernel, by decide +kernel⟩, missingHeader_refusal .queryInfo, ?_⟩
  decide +kernel

end Session
