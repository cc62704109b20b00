import SmbClient.Runtime.Proof.Bookkeeping

/-!
# Where a decoded response goes

A decoded message reaches the reducer, or the owner fails, exactly if its operation has an entry or
the table of early responses is full. The entry goes with the caller's result, the credits do not
(`response_parked`).
-/

namespace Runtime

/-! ## The messages a step routes -/

structure Visit where
  authority : RequestAuthority
  message : CommandResponse
  laneFull : Bool

namespace RequestAuthority

def visits : List (CommandResponse × Bool) → RequestAuthority → List Visit
  | [], _ => []
  | m :: ms, a => ⟨a, m.1, m.2⟩ :: visits ms (a.routeMessage m.1 m.2)

def inboundVisits (emitEvents laneFull : Bool) :
    List PreparedInbound → RequestAuthority → List Visit
  | [], _ => []
  | inbound :: rest, a =>
    visits (inbound.result.getD []) a ++
      inboundVisits emitEvents laneFull rest (a.finishPreparedInbound emitEvents laneFull inbound)

variable (a : RequestAuthority)

def Routed (message : CommandResponse) (a' : RequestAuthority) : Prop :=
  (a'.earlyResponses = a.earlyResponses ∧ ∃ answer effects, a'.fed =
    a.fed ++ [(.response (a.keyOf message) answer message.creditRequest, effects)]) ∨
  a'.fatal.isSome

def HasRoute (message : CommandResponse) : Prop :=
  (a.operationPending.lookup (a.keyOf message)).isSome ∨
  a.operationLimit ≤ a.earlyResponses.entries.length ∨
  (a.earlyResponses.lookup (a.keyOf message)).isSome ∨ a.fatal.isSome

variable {message : CommandResponse}

theorem processDecodedResponse_routed (hint : message.unauthenticatedRecoveryHint = false) :
    Routed a message (a.processDecodedResponse message) := by
  rcases a.processDecodedResponse_cases message with ⟨error, he⟩ | ⟨hint', -⟩ | hb
  · rw [he]
    exact .inr rfl
  · rw [hint] at hint'
    cases hint'
  · exact .inl ⟨hb.earlyResponses, answerOf message, _, hb.fed⟩

theorem routeMessage_unregistered (laneFull : Bool) (hid : message.messageId ≠ Machine.maxValue 64)
    (h : ¬ (a.operationPending.lookup (a.keyOf message)).isSome) :
    (a.routeMessage message laneFull).fed = a.fed ∧
    ((a.routeMessage message laneFull).fatal.isSome ↔
      a.operationLimit ≤ a.earlyResponses.entries.length ∨
      (a.earlyResponses.lookup (a.keyOf message)).isSome ∨ a.fatal.isSome) := by
  unfold routeMessage
  rw [show (⟨a.state.generation, message.messageId⟩ : RequestKey) = a.keyOf message from rfl]
  dsimp only
  rw [if_neg h, if_neg (show (a.keyOf message).messageId ≠ _ from hid)]
  split
  · rename_i hfull
    exact ⟨rfl, iff_of_true rfl (.inl hfull)⟩
  · rename_i hfull
    split
    · rename_i hreplaced
      exact ⟨rfl, iff_of_true rfl (.inr (.inl hreplaced))⟩
    · rename_i hreplaced
      exact ⟨rfl, by simp [hfull, hreplaced]⟩

end RequestAuthority

def OwnerTask.routed (s : OwnerTask) : OwnerTask.OwnerInput → List Visit
  | .work (.decoded sequence result laneFull) | .awaited (.decoded sequence result laneFull) =>
    match s.inboundPreparations.find? fun job => job.sequence = sequence with
    | none => []
    | some job =>
      RequestAuthority.inboundVisits s.config.emitEvents laneFull
        (s.inboundOrder.complete sequence
          ⟨job.sequence, job.bytes, if job.decode then result else some []⟩).1 s.authority
  | _ => []

/-- A response that is neither a hint nor a notification reaches the reducer, or the owner fails,
exactly if it has a route when it is decoded. -/
theorem response_routed_iff (config : RuntimeConfig) (inputs : List OwnerTask.OwnerInput)
    (input : OwnerTask.OwnerInput) :
    ∀ visit ∈ (OwnerTask.run config inputs).routed input,
      visit.message.unauthenticatedRecoveryHint = false →
      visit.message.messageId ≠ Machine.maxValue 64 →
      (visit.authority.Routed visit.message
          (visit.authority.routeMessage visit.message visit.laneFull) ↔
        visit.authority.HasRoute visit.message) := by
  rintro ⟨a, message, laneFull⟩ - hint hid
  by_cases h : (a.operationPending.lookup (a.keyOf message)).isSome
  · refine iff_of_true ?_ (.inl h)
    have h' : a.routeMessage message laneFull = a.processDecodedResponse message := if_pos h
    rw [h']
    exact a.processDecodedResponse_routed hint
  · obtain ⟨hfed, hfatal⟩ := a.routeMessage_unregistered laneFull hid h
    constructor
    · rintro (⟨-, answer, effects, hone⟩ | hfails)
      · rw [hfed] at hone
        simp at hone
      · exact .inr (hfatal.mp hfails)
    · rintro (hentry | hfails)
      · exact absurd hentry h
      · exact .inr (hfatal.mpr hfails)

def hintThenAnswer : List OwnerTask.Turn :=
  [{ operations := [(submitEcho false none 0, .inline (some echoFrame))]
     final := .polledWrite 1 (some .sent) false false },
   { reads := [.received 1], enqueues := 1, decoded := some (0, [(echoHint 0, false)])
     final := .awaited (.received 1) }]

def answerDecoded (sequence : ℕ) : OwnerTask.OwnerInput :=
  .work (.decoded sequence (some [(echoed 0, false)]) false)

def answerArrived : List OwnerTask.OwnerInput :=
  (hintThenAnswer.take 1).flatMap OwnerTask.Turn.inputs ++ [.work (.received 1), .enqueueInbound]

def lateAnswerArrived : List OwnerTask.OwnerInput :=
  hintThenAnswer.flatMap OwnerTask.Turn.inputs ++ [.enqueueInbound]

theorem response_routed_iff_waiting :
    ∃ visit ∈ (OwnerTask.run (smallConfig 1) answerArrived).routed (answerDecoded 0),
      visit.authority.Routed visit.message
        (visit.authority.routeMessage visit.message visit.laneFull) := by
  have h : ⟨(OwnerTask.run (smallConfig 1) answerArrived).authority, echoed 0, false⟩ ∈
      (OwnerTask.run (smallConfig 1) answerArrived).routed (answerDecoded 0) := List.mem_cons_self
  exact ⟨_, h, (response_routed_iff _ _ _ _ h rfl (by decide)).mpr (.inl rfl)⟩

/-- The real answer after a hint is parked, and the reducer never sees its credit. -/
theorem response_parked :
    ∃ visit ∈ (OwnerTask.run (smallConfig 1) lateAnswerArrived).routed (answerDecoded 1),
      visit.message.unauthenticatedRecoveryHint = false ∧
      visit.message.messageId ≠ Machine.maxValue 64 ∧
      (∃ r, visit.authority.state.requests.lookup (visit.authority.keyOf visit.message) = some r ∧
        r.lifecycle.response ≠ .final) ∧
      ¬ visit.authority.Routed visit.message
        (visit.authority.routeMessage visit.message visit.laneFull) ∧
      (visit.authority.routeMessage visit.message visit.laneFull).earlyResponses.lookup
        (visit.authority.keyOf visit.message) = some visit.message := by
  refine ⟨_, List.mem_cons_self, rfl, by decide, ⟨_, rfl, by decide⟩, ?_, rfl⟩
  rintro (⟨h, -⟩ | h)
  · exact absurd (congrArg (fun t => t.entries.length) h) (by decide)
  · exact absurd h (by decide)

end Runtime
