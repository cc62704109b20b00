import SmbClient.Runtime.Proof.Served
import SmbClient.Runtime.Proof.Rules

/-!
# What turns a generation unhealthy

`Trail` follows the events that the owner feeds to the reducer, each with what must be known of it:
a response is one that the async index and the credits can take (`Takes`). Then only the timer turns
the generation unhealthy (`Trail.healthy`). No deadline version is ever exhausted: a request has at
most two deadlines before its final response (`OwnedRequest.Sound`).
-/

namespace Runtime

open GenerationState

/-! ## One event -/

theorem checkedAdd_version {version : ℕ} (h : version ≤ 2) :
    Machine.checkedAdd 64 version 1 ≠ none := by
  rw [Ne, Machine.checkedAdd_eq_none]
  omega

section

variable {event : OwnerEvent} {s s' : GenerationState} {effects : List OwnerEffect}
  (hresponse : ∀ key answer grant, event ≠ .response key answer grant)
  (htime : ∀ now, event ≠ .advanceTime now)
include hresponse htime

/-- A move that raises nothing of its own keeps the generation healthy. -/
theorem Move.healthy (h : Move event s effects s') (hs : s.Sound) (hsick : s'.unhealthy = true) :
    s.unhealthy = true := by
  cases h with
  | idle _ _ _ state raised =>
    subst state
    exact (raised hsick).resolve_right fun ⟨key, answer, grant, he⟩ => hresponse key answer grant he
  | admitted _ _ _ _ _ _ _ admission => exact admission.unhealthy ▸ hsick
  | touch key r _ touch =>
    rcases touch.deadline.raised hsick with h | ⟨answer, grant, he⟩ | ⟨ho, hv⟩
    · exact h
    · exact absurd he (hresponse key answer grant)
    · have version := (hs.records key r touch.found).opened ho
      exact absurd hv (checkedAdd_version (version.trans (by decide)))
  | stale now _ _ time => exact absurd time (htime now)
  | expired now _ _ _ time => exact absurd time (htime now)

/-- Only responses and time turn a generation unhealthy. -/
theorem Moves.healthy (h : Moves event s effects s') (hs : s.Sound) (hsick : s'.unhealthy = true) :
    s.unhealthy = true := by
  induction h with
  | nil => exact hsick
  | cons move _ ih => exact move.healthy hresponse htime hs (ih (move.sound hs) hsick)

end

namespace GenerationState

variable {s : GenerationState} {key : RequestKey} {answer : ResponseEvent} {grant : UInt16}

/-- The async id is neither another request's nor another than before, and there is room for the
credits. -/
def Takes (s : GenerationState) (key : RequestKey) (answer : ResponseEvent) (grant : UInt16) :
    Prop :=
  s.asyncConflict key answer = none ∧ ∀ r ∈ s.requests.lookup key, r.lifecycle.response ≠ .final →
    asyncChange answer r.lifecycle.response = none ∧
    s.availableCredits + grant.toNat < 2 ^ 32

instance : Decidable (s.Takes key answer grant) := inferInstanceAs (Decidable (_ ∧ _))

theorem acceptFinal_unhealthy {r : OwnedRequest} (h : r.deadlineVersion ≤ 2)
    (previous : ResponseProgress) : (s.acceptFinal key r previous).1.unhealthy = s.unhealthy := by
  obtain ⟨asyncIndex, hforget⟩ := s.forgetAsync_eq previous
  unfold acceptFinal
  dsimp only
  rw [hforget]
  split
  · rw [put_releaseRequestOwnership]
  · rename_i hv
    exact absurd hv (checkedAdd_version h)

theorem Takes.healthy (h : s.Takes key answer grant) (hs : s.Sound) :
    (s.response key answer grant).1.unhealthy = s.unhealthy := by
  unfold response
  split
  · rfl
  rw [h.1]
  dsimp only
  split
  · rfl
  rename_i r hf
  by_cases hfinal : r.lifecycle.response = .final
  · have same : asyncChange answer r.lifecycle.response = none := by
      rw [hfinal]
      cases answer <;> rfl
    rw [same]
    dsimp only
    rw [if_pos hfinal]
  · obtain ⟨same, room⟩ := h.2 r hf hfinal
    obtain ⟨saturated, -, hobserve⟩ := s.observeCredits_eq r grant
    rw [same, hobserve]
    dsimp only [takePayload]
    rw [if_neg hfinal]
    split
    · rename_i hfull
      rw [Machine.checkedAdd_eq_none] at hfull
      exact absurd hfull (Nat.not_le.mpr room)
    · rename_i available _
      cases answer with
      | pending asyncId => rfl
      | final =>
        exact @acceptFinal_unhealthy (s.credited r grant saturated available) key r.answered
          ((hs.records key r hf).unanswered hfinal) _

end GenerationState

/-! ## The events of a step -/

/-- What is known of an event that is fed. -/
def Permits (timed : Prop) (s : GenerationState) : OwnerEvent → Prop
  | .response key answer grant => s.Takes key answer grant
  | .advanceTime _ => timed
  | _ => True

namespace RequestAuthority

variable {timed : Prop} {a b c : RequestAuthority} {key : RequestKey}

inductive Trail (timed : Prop) (a : RequestAuthority) : RequestAuthority → Prop
  | refl : Trail timed a a
  | idle {b c : RequestAuthority} (trail : Trail timed a b) (state : c.state = b.state)
      (fed : c.fed = b.fed) (early : c.earlyResponses = b.earlyResponses) : Trail timed a c
  | event {b c : RequestAuthority} (trail : Trail timed a b) (event : OwnerEvent)
      (permitted : Permits timed b.state event) (state : c.state = (b.state.reduce event).1)
      (fed : c.fed = b.fed ++ [(event, (b.state.reduce event).2)])
      (early : c.earlyResponses = b.earlyResponses) : Trail timed a c
  | target {b c : RequestAuthority} (trail : Trail timed a b) (credits : ℕ)
      (state : c.state = b.state.setTargetCredits credits) (fed : c.fed = b.fed)
      (early : c.earlyResponses = b.earlyResponses) : Trail timed a c

namespace Trail

theorem trans (h : Trail timed a b) (h' : Trail timed b c) : Trail timed a c := by
  induction h' with
  | refl => exact h
  | idle _ state fed early ih => exact ih.idle state fed early
  | event _ event permitted state fed early ih => exact ih.event event permitted state fed early
  | target _ credits state fed early ih => exact ih.target credits state fed early

theorem early (h : Trail timed a b) : b.earlyResponses = a.earlyResponses := by
  induction h with
  | refl => rfl
  | idle _ _ _ early ih | event _ _ _ _ _ early ih | target _ _ _ _ early ih => exact early.trans ih

theorem sound (h : Trail timed a b) (hs : a.state.Sound) : b.state.Sound := by
  induction h with
  | refl => exact hs
  | idle _ state _ _ ih => exact state ▸ ih
  | event _ event _ state _ _ ih => exact state ▸ ih.reduce event
  | target _ credits state _ _ ih => exact state ▸ ih.setTargetCredits credits

/-- **Health.** Only time turns a generation unhealthy. -/
theorem healthy (h : Trail timed a b) (hs : a.state.Sound) (hsick : b.state.unhealthy = true) :
    a.state.unhealthy = true ∨ timed := by
  induction h with
  | refl => exact .inl hsick
  | idle _ state _ _ ih => exact ih (state ▸ hsick)
  | target _ _ state _ _ ih => exact ih (by rw [state] at hsick; exact hsick)
  | event trail event permitted state _ _ ih =>
    rw [state] at hsick
    have sound := trail.sound hs
    cases event with
    | response key answer grant => exact ih ((Takes.healthy permitted sound).symm.trans hsick)
    | advanceTime now => exact .inr permitted
    | _ => exact ih ((reduce_moves sound.keyed _).healthy (by simp) (by simp) sound hsick)

theorem books (h : Bookkeeping a b) : Trail timed a b :=
  .idle .refl h.state h.fed h.earlyResponses

/-- An event, with what its effects bring about. -/
theorem fed (event : OwnerEvent) (permitted : Permits timed a.state event)
    (h : Bookkeeping (a.feed event).1 b) : Trail timed a b := by
  have one : Trail timed a (a.feed event).1 := .event .refl event permitted rfl rfl rfl
  exact one.trans (.books h)

end Trail

section

variable (a)

theorem awaitOperation_trail (key : RequestKey) : Trail timed a (a.awaitOperation key) := by
  have counted : Trail timed a (a.countAwait key) := by
    unfold countAwait
    split
    · exact .idle .refl rfl rfl rfl
    · exact .refl
  refine counted.trans ?_
  unfold awaitOperation
  dsimp only
  repeat' split
  all_goals exact .idle .refl rfl rfl rfl

theorem settle_trail (event : OwnerEvent) (permitted : Permits timed a.state event) :
    Trail timed a (a.settle event) :=
  .fed event permitted (a.settle_bookkeeping event)

end

/-- A trail is kept by all that the owner does beside feeding events. -/
theorem trail_rules (timed : Prop) : Rules (Trail timed) where
  trans := Trail.trans
  aside state fed early _ _ _ := .idle .refl state fed early
  refuses a delivery _ := .books (a.deliver_bookkeeping delivery)
  reports _ key event := .fed (.request key event) trivial (.refl _)
  cancels a key now := a.settle_trail (.cancel key now) trivial
  retargets _ _ credits := .target .refl credits rfl rfl rfl
  awaits a key := a.awaitOperation_trail key

theorem drainTerminals_trail (a : RequestAuthority) (error : RuntimeError) :
    Trail timed a (a.drainTerminals error) := by
  have rules := trail_rules timed
  have numbers (ns : List ℕ) (b : RequestAuthority) : Trail timed b
      (ns.foldl (fun a number => a.deliver (.completedRaw number (.error error))) b) :=
    rules.foldl (fun b number => .books (b.deliver_bookkeeping _)) ns b
  refine .trans (b := { a with terminals := ∅, operationPending := ∅ }) (.idle .refl rfl rfl rfl)
    ((numbers a.terminals.values _).trans (rules.foldl (fun b entry => ?_) _ _))
  split
  · exact .books (b.deliver_bookkeeping _)
  · exact .refl

/-! ## Responses -/

/-- A message for a registered operation can be taken; any other is a notification. -/
def Sane (a : RequestAuthority) (message : CommandResponse) : Prop :=
  if (a.operationPending.lookup (a.keyOf message)).isSome then
    a.state.Takes (a.keyOf message) (answerOf message) message.creditRequest
  else message.messageId = Machine.maxValue 64

instance (message : CommandResponse) : Decidable (a.Sane message) := by
  unfold Sane
  infer_instance

variable {message : CommandResponse}

theorem routeMessage_trail (h : a.Sane message) (laneFull : Bool) :
    Trail timed a (a.routeMessage message laneFull) := by
  unfold Sane at h
  unfold routeMessage
  rw [show (⟨a.state.generation, message.messageId⟩ : RequestKey) = a.keyOf message from rfl]
  dsimp only
  split
  · rename_i hentry
    rw [if_pos hentry] at h
    rcases a.processDecodedResponse_cases message with ⟨error, he⟩ | ⟨-, hb⟩ | hb
    · rw [he]
      exact .idle .refl rfl rfl rfl
    · exact .fed (.recoveryHint _) trivial hb
    · exact .fed (.response _ _ _) h hb
  · rename_i hentry
    rw [if_neg hentry] at h
    rw [if_pos (show (a.keyOf message).messageId = _ from h)]
    split
    · exact .idle .refl rfl rfl rfl
    · exact .refl

theorem routeMessages_trail (messages : List (CommandResponse × Bool)) (a : RequestAuthority)
    (h : ∀ visit ∈ visits messages a, visit.authority.Sane visit.message) : Trail timed a
      (messages.foldl (fun a message => a.routeMessage message.1 message.2) a) := by
  induction messages generalizing a with
  | nil => exact .refl
  | cons message messages ih =>
    obtain ⟨here, rest⟩ := List.forall_mem_cons.mp h
    exact (routeMessage_trail here message.2).trans (ih _ rest)

theorem finishPreparedInbound_trail (emitEvents laneFull : Bool) {inbound : PreparedInbound}
    (h : ∀ visit ∈ visits (inbound.result.getD []) a, visit.authority.Sane visit.message) :
    Trail timed a (a.finishPreparedInbound emitEvents laneFull inbound) := by
  have failed (b : RequestAuthority) : Trail timed b (b.failFirst .eventBackpressure) :=
    .idle .refl rfl rfl rfl
  unfold finishPreparedInbound
  cases hresult : inbound.result with
  | none =>
    dsimp only
    split
    · exact .idle .refl rfl rfl rfl
    · exact .idle .refl rfl rfl rfl
  | some messages =>
    rw [hresult] at h
    dsimp only
    split
    · exact (routeMessages_trail messages a h).trans (failed _)
    · exact routeMessages_trail messages a h

theorem inbounds_trail (emitEvents laneFull : Bool) (ready : List PreparedInbound)
    (a : RequestAuthority) (h : ∀ visit ∈ inboundVisits emitEvents laneFull ready a,
      visit.authority.Sane visit.message) :
    Trail timed a
      (ready.foldl (fun a inbound => a.finishPreparedInbound emitEvents laneFull inbound) a) := by
  induction ready generalizing a with
  | nil => exact .refl
  | cons inbound ready ih =>
    obtain ⟨here, rest⟩ := List.forall_mem_append.mp h
    exact (finishPreparedInbound_trail emitEvents laneFull here).trans (ih _ rest)

/-! ## Admissions -/

theorem takeEarlyResponse_trail (h : Trail timed a b) (hearly : a.earlyResponses = ∅) :
    Trail timed a (b.takeEarlyResponse key) := by
  unfold takeEarlyResponse
  rw [h.early, hearly]
  exact h

theorem prepareFailed_trail (key : RequestKey) :
    Trail timed a (a.feed (.prepareFailed key)).1 :=
  .fed (.prepareFailed key) trivial (.refl _)

theorem abandon_trail (admitted : List Member) : Trail timed a (a.abandon admitted) :=
  (trail_rules timed).foldl (fun _ (member : Member) => prepareFailed_trail member.key) admitted a

theorem admitOne_trail {payload : ℕ} {charge : UInt16} {deadline : Option MonotonicTime}
    {result : Except RuntimeError PreparationPlan}
    (h : a.admitOne payload charge deadline = (b, result)) : Trail timed a b :=
  admitOne_feed h ▸ .fed (.admitRequest payload charge deadline) trivial (.refl _)

theorem admitMembers_trail (deadline : Option MonotonicTime) (operations : List TypedOperation)
    (admitted : List Member) (a : RequestAuthority) :
    Trail timed a (admitMembers deadline operations admitted a).1 := by
  induction operations generalizing admitted a with
  | nil => exact .refl
  | cons operation operations ih =>
    unfold admitMembers
    split
    · exact abandon_trail admitted
    split
    · rename_i hone
      exact (admitOne_trail hone).trans (abandon_trail admitted)
    · rename_i hone
      exact (admitOne_trail hone).trans (ih _ _)

theorem registerMembers_trail (members : List Member) (h : a.earlyResponses = ∅) :
    Trail timed a (members.foldl registerMember a) :=
  List.foldl_invariant (P := Trail timed a) (fun b member trail => by
    have put : Trail timed a (b.putPending member.key _) :=
      trail.trans (.books (b.putPending_bookkeeping member.key
        (.new member.response member.replay none none)))
    exact takeEarlyResponse_trail put h) members .refl

end RequestAuthority

namespace OwnerTask

open RequestAuthority

variable {timed : Prop} {s : OwnerTask}

theorem processAdmission_trail (command : AdmissionCommand) :
    Trail timed s.authority (s.processAdmission command).authority := by
  unfold processAdmission
  split
  · rename_i hone
    exact (admitOne_trail hone).idle rfl rfl rfl
  · rename_i hone
    exact (admitOne_trail hone).idle rfl rfl rfl

theorem refuse_trail {a b : RequestAuthority} (h : Trail timed a b) (submission : Submission)
    (error : RuntimeError) : Trail timed a (b.refuse submission error) :=
  h.trans (.books (b.refuse_bookkeeping submission error))

section

variable (hearly : s.authority.earlyResponses = ∅)
include hearly

theorem processOperationAdmission_trail (command : OperationAdmission) (wire : OutgoingTransform) :
    Trail timed s.authority (s.processOperationAdmission command wire).authority := by
  unfold processOperationAdmission
  dsimp only
  split
  · exact refuse_trail .refl _ _
  split
  · exact refuse_trail .refl _ _
  split
  · exact refuse_trail .refl _ _
  split
  · exact .refl
  split
  · rename_i hone
    exact refuse_trail (admitOne_trail hone) _ _
  rename_i a plan hone
  have admitted : Trail timed s.authority a := admitOne_trail hone
  split
  · exact refuse_trail (admitted.trans (prepareFailed_trail _)) _ _
  · exact takeEarlyResponse_trail (admitted.idle rfl rfl rfl) hearly
  · exact admitted.idle rfl rfl rfl

theorem processCompoundAdmission_trail (command : CompoundAdmission) (wire : Option SendFrame) :
    Trail timed s.authority (s.processCompoundAdmission command wire).authority := by
  have admitted : Trail timed s.authority _ :=
    admitMembers_trail command.deadline command.operations [] s.authority
  unfold processCompoundAdmission
  dsimp only
  split
  · exact .idle .refl rfl rfl rfl
  split
  · exact .idle .refl rfl rfl rfl
  split
  · exact .idle .refl rfl rfl rfl
  split
  · exact .idle .refl rfl rfl rfl
  split
  · exact .refl
  split
  · rename_i hmembers
    rw [hmembers] at admitted
    exact admitted.idle rfl rfl rfl
  rename_i a members hmembers
  rw [hmembers] at admitted
  split
  · exact (admitted.trans (registerMembers_trail members (admitted.early.trans hearly))).idle rfl
      rfl rfl
  · exact (admitted.trans (abandon_trail members)).idle rfl rfl rfl

theorem finishPreparedOperation_trail (prepared : PreparedOperation) :
    Trail timed s.authority (s.finishPreparedOperation prepared).authority := by
  unfold finishPreparedOperation
  dsimp only
  split
  · exact .idle .refl rfl rfl rfl
  split
  · exact .idle .refl rfl rfl rfl
  split
  · refine .trans (.idle .refl rfl rfl rfl) ((prepareFailed_trail prepared.key).trans ?_)
    split
    · exact .idle .refl rfl rfl rfl
    split
    · exact .idle .refl rfl rfl rfl
    · exact .idle .refl rfl rfl rfl
  split
  · exact .idle .refl rfl rfl rfl
  · exact takeEarlyResponse_trail (.idle .refl rfl rfl rfl) hearly

theorem prepared_trail (key : RequestKey) (result : Option SendFrame) :
    Trail timed s.authority (s.prepared key result).authority := by
  unfold prepared
  split
  · exact .refl
  · exact List.foldl_invariant (P := fun s' : OwnerTask => Trail timed s.authority s'.authority)
      (fun s' prepared trail => trail.trans
        (finishPreparedOperation_trail (trail.early.trans hearly) prepared)) _ .refl

end

/-- Every message that an input makes the owner route is sane. -/
def Sane (s : OwnerTask) (input : OwnerInput) : Prop :=
  ∀ visit ∈ s.routed input, visit.authority.Sane visit.message

instance (input : OwnerInput) : Decidable (s.Sane input) := inferInstanceAs (Decidable (∀ _ ∈ _, _))

theorem teardown_trail (lanes : Lanes) : Trail timed s.authority (s.teardown lanes).authority :=
  (((trail_rules timed).cancelAll s.authority _ lanes _ _ _).trans
    (settle_trail _ (.disconnect _) trivial)).trans (drainTerminals_trail _ _)

end OwnerTask

end Runtime
