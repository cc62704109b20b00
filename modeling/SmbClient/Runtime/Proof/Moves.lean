import SmbClient.Runtime.Proof.Touch

/-!
# Moves

A `Move` changes nothing but the health flag, admits one request, touches one request, or pops one
deadline and touches its request.
-/

namespace Runtime

namespace GenerationState

variable (s : GenerationState) (key : RequestKey) (r : OwnedRequest)

/-! ## The helpers on a record that was just written -/

@[simp] theorem lookup_put : (s.put key r).requests.lookup key = some r := by
  simp [put]

theorem put_releasePayload : (s.put key r).releasePayload key =
    { s with
      retainedPayloadBytes := s.retainedPayloadBytes - r.heldBytes
      underflow := s.underflow || decide (s.retainedPayloadBytes < r.heldBytes)
      requests := s.requests.insert key { r with payloadHeld := false } } := by
  simp only [releasePayload, put, AList.lookup_insert, AList.insert_insert]
  rfl

theorem put_releaseRequestOwnership : (s.put key r).releaseRequestOwnership key =
    { s with
      retainedPayloadBytes := s.retainedPayloadBytes - r.heldBytes
      admittedOperations := s.admittedOperations - r.heldSlots
      underflow := s.underflow || decide (s.retainedPayloadBytes < r.heldBytes) ||
        decide (s.admittedOperations < r.heldSlots)
      requests :=
        s.requests.insert key { r with payloadHeld := false, admissionHeld := false } } := by
  simp only [releaseRequestOwnership, put_releasePayload, AList.lookup_insert, AList.insert_insert]
  rfl

abbrev rolledBack : GenerationState :=
  { s with
    availableCredits := s.availableCredits + r.creditCharge.toNat
    pendingExtraCredits := s.pendingExtraCredits - r.requestedExtraCredits
    saturated := s.saturated || decide (s.pendingExtraCredits < r.requestedExtraCredits)
    retainedPayloadBytes := s.retainedPayloadBytes - r.heldBytes
    admittedOperations := s.admittedOperations - r.heldSlots
    underflow := s.underflow || decide (s.retainedPayloadBytes < r.heldBytes) ||
      decide (s.admittedOperations < r.heldSlots)
    requests := s.requests.insert key
      { r with creditObligation := false, payloadHeld := false, admissionHeld := false } }

theorem put_rollback_cases :
    ((s.put key r).rollback key = (s.put key r, false)) ∨
    (r.creditObligation = true ∧ (s.put key r).rollback key = (s.rolledBack key r, true)) ∨
    (r.creditObligation = false ∧ r.admissionHeld = true ∧
      (s.put key r).rollback key = ((s.put key r).releaseRequestOwnership key, true)) := by
  unfold rollback
  simp only [lookup_put]
  split
  · exact .inl rfl
  rename_i hn
  split
  · rename_i ho
    split
    · exact .inl rfl
    rename_i available ha
    obtain ⟨-, rfl⟩ := Machine.checkedAdd_eq_some.mp ha
    refine .inr (.inl ⟨ho, ?_⟩)
    simp only [put, releaseRequestOwnership, releasePayload, AList.lookup_insert,
      AList.insert_insert]
    rfl
  · rename_i ho
    have ho : r.creditObligation = false := by simpa using ho
    exact .inr (.inr ⟨ho, by simpa [ho] using hn, rfl⟩)

theorem put_scheduleDeadline_cases (t : MonotonicTime) (kind : DeadlineKind) :
    (Machine.checkedAdd 64 r.deadlineVersion 1 = none ∧
      (s.put key r).scheduleDeadline key t kind = ({ s.put key r with unhealthy := true }, false)) ∨
    ((s.put key r).scheduleDeadline key t kind =
      ({ s with
         requests := s.requests.insert key { r with deadlineVersion := r.deadlineVersion + 1 }
         nextDeadlineSequence := Machine.saturatingAdd 64 s.nextDeadlineSequence 1
         deadlines := s.deadlines.push
           ⟨t, s.nextDeadlineSequence, key, kind, r.deadlineVersion + 1⟩ }, true)) := by
  unfold scheduleDeadline
  simp only [lookup_put]
  split
  · rename_i hv
    exact .inl ⟨hv, rfl⟩
  rename_i version hv
  obtain ⟨-, rfl⟩ := Machine.checkedAdd_eq_some.mp hv
  exact .inr (by simp [put])

end GenerationState

/-! ## Facets that several events share -/

section
variable {s s' : GenerationState} {event : OwnerEvent} {key : RequestKey} {r r' : OwnedRequest}
  {effects : List OwnerEffect}

theorem HoldStep.kept (hb : s'.retainedPayloadBytes = s.retainedPayloadBytes)
    (hs : s'.admittedOperations = s.admittedOperations) (hu : s'.underflow = s.underflow)
    (hrb : r'.heldBytes = r.heldBytes) (hrs : r'.heldSlots = r.heldSlots) : HoldStep s s' r r' where
  bytes := by rw [hrb]; omega
  bytes_le := hrb.le
  slots := by rw [hrs]; omega
  slots_le := hrs.le
  underflow h := .inl (hu ▸ h)

section

variable (hb : s'.retainedPayloadBytes = s.retainedPayloadBytes - r.heldBytes)
include hb

theorem HoldStep.dropped (hs : s'.admittedOperations = s.admittedOperations - r.heldSlots)
    (hu : s'.underflow = (s.underflow || decide (s.retainedPayloadBytes < r.heldBytes) ||
      decide (s.admittedOperations < r.heldSlots)))
    (hrb : r'.payloadHeld = false) (hrs : r'.admissionHeld = false) : HoldStep s s' r r' where
  bytes := by simp [hb, OwnedRequest.heldBytes, hrb]
  bytes_le := by simp [OwnedRequest.heldBytes, hrb]
  slots := by simp [hs, OwnedRequest.heldSlots, hrs]
  slots_le := by simp [OwnedRequest.heldSlots, hrs]
  underflow h := by simpa [hu, or_assoc] using h

theorem HoldStep.sent (hs : s'.admittedOperations = s.admittedOperations)
    (hu : s'.underflow = (s.underflow || decide (s.retainedPayloadBytes < r.heldBytes)))
    (hrb : r'.payloadHeld = false) (hrs : r'.heldSlots = r.heldSlots) : HoldStep s s' r r' where
  bytes := by simp [hb, OwnedRequest.heldBytes, hrb]
  bytes_le := by simp [OwnedRequest.heldBytes, hrb]
  slots := by rw [hrs]; omega
  slots_le := hrs.le
  underflow h := by
    rw [hu, Bool.or_eq_true, decide_eq_true_eq] at h
    exact h.imp_right .inl

end

theorem DeadlineStep.kept (hd : s'.deadlines = s.deadlines) (hu : s'.unhealthy = s.unhealthy)
    (hv : r'.deadlineVersion = r.deadlineVersion)
    (ht : r'.lifecycle.tombstone = true → r.lifecycle.tombstone = true)
    (hw : Runtime.wireCancels effects = []) : DeadlineStep s s' event key r r' effects where
  heap e he := by rw [hd]; exact he
  pushed e he := .inl (by rw [hd] at he; exact he)
  unhealthy h := hu ▸ h
  raised h := .inl (hu ▸ h)
  version := .inl hv
  opened _ := hv
  tombstone h := .inl ⟨ht h, hv⟩
  wireCancels := .inl hw

theorem publications_request (effect : ReduceEffect) (effects : List OwnerEffect) :
    publications (.request key effect :: effects) =
      publications [.request key effect] ++ publications effects :=
  publications_append [_] effects

theorem mem_publications_request {k : RequestKey} {effect : ReduceEffect} {o : TerminalOutcome}
    (h : (k, o) ∈ publications [.request key effect]) : k = key ∧ effect = .publish o := by
  cases effect with
  | publish o' =>
    have h : (k, o) = (key, o') := by simpa [publications, OwnerEffect.publication] using h
    cases h
    exact ⟨rfl, rfl⟩
  | none | bookkeepingOnly | ignoredForeignGeneration => cases h

/-- What the record at a key tells of an event. -/
structure Reports (event : OwnerEvent) (key : RequestKey) (l l' : RequestRecord)
    (effect : ReduceEffect) : Prop where
  told : RequestRecord.Told l l' effect
  waiting : l.Waiting → l'.Waiting
  final : l.response = .final → l'.response = .final
  answered : effect = .publish .response → ∃ answer grant, event = .response key answer grant

theorem Reports.reduce (l : RequestRecord) (e : RequestEvent)
    (h : ∀ key, e ≠ .finalResponse key) :
    Reports event key l (l.reduce e).1 (l.reduce e).2 where
  told := l.told_reduce e
  waiting hw := RequestRecord.waiting_reduce hw e
  final hf := RequestRecord.final_reduce hf e
  answered he := by
    have tells := RequestRecord.reduce_tells he
    cases e with
    | finalResponse k => exact absurd rfl (h k)
    | queued | writeProgress _ | writeComplete | asyncPending _ _ => exact tells.elim
    | recoveryHint _ => cases tells
    | cancel | deadline | disconnect _ => exact absurd rfl tells

theorem RequestRecord.Told.publications {l l' : RequestRecord} {effect : ReduceEffect}
    (h : RequestRecord.Told l l' effect) (key : RequestKey) :
    (Runtime.publications [.request key effect] = [] ∧ l'.caller = l.caller) ∨
    ∃ o, Runtime.publications [.request key effect] = [(key, o)] ∧ l.caller = .opened ∧
      l'.caller = .terminal o ∧ (o.neverSent = true → l.wireCommitted = false) := by
  rcases h.caller with ⟨hn, hc⟩ | ⟨o, rfl, ho⟩
  · refine .inl ⟨?_, hc⟩
    cases effect with
    | publish o => exact absurd rfl (hn o)
    | none | bookkeepingOnly | ignoredForeignGeneration => rfl
  · exact .inr ⟨o, rfl, ho⟩

end

/-! ## One touch for each function -/

section
variable {s : GenerationState} {event : OwnerEvent} {key : RequestKey} {r : OwnedRequest}
  {l : RequestRecord} {effect : ReduceEffect} {before : List OwnerEffect}

theorem Quiet.ledger (hq : Quiet before) (key : RequestKey) (effect : ReduceEffect)
    (after : List OwnerEffect) :
    Runtime.rollbacks (before ++ .request key effect :: after) = Runtime.rollbacks after ∧
    Runtime.grants (before ++ .request key effect :: after) = Runtime.grants after ∧
    Runtime.overflows (before ++ .request key effect :: after) = Runtime.overflows after ∧
    Runtime.wireCancels (before ++ .request key effect :: after) = Runtime.wireCancels after := by
  rw [rollbacks_append, grants_append, overflows_append, wireCancels_append, hq.rollbacks,
    hq.grants, hq.overflows, hq.wireCancels]
  exact ⟨rfl, rfl, rfl, rfl⟩

theorem touch_told {s' : GenerationState} {r' : OwnedRequest} {after : List OwnerEffect}
    (report : Reports event key r.lifecycle r'.lifecycle effect)
    (hf : s.requests.lookup key = some r) (ha : event.Aims key)
    (hc : r'.cancelSeen = true → r.cancelSeen = true ∨ r'.lifecycle.caller ≠ .opened)
    (hpb : publications before = []) (hlb : plans before = [])
    (held : r'.admissionHeld = true →
      r.admissionHeld = true ∧ r'.creditObligation = r.creditObligation)
    (hold : HoldStep s s' r r')
    (credit : CreditStep s s' event key r r' (before ++ .request key effect :: after))
    (deadline : DeadlineStep s s' event key r r' (before ++ .request key effect :: after))
    (hpa : publications after = []) (hla : plans after = [])
    (hr : s'.requests = s.requests.insert key r') (hs : Frame s s') (hm : SameTerms r r') :
    Touch s event key r r' (before ++ .request key effect :: after) s' where
  aims := ha
  found := hf
  requests := hr
  frame := hs
  terms := hm
  plans := by rw [plans_append, hlb]; exact hla
  recordKey := report.told.key
  committed := report.told.committed
  waiting := report.waiting
  final := report.final
  cancelSeen := hc
  caller := by
    rw [publications_append, publications_request, hpb, hpa, List.append_nil]
    exact report.told.publications key
  answered h := by
    rw [publications_append, publications_request, hpb, hpa, List.append_nil] at h
    exact report.answered (mem_publications_request h).2
  held := held
  hold := hold
  credit := credit
  deadline := deadline

variable (event) (hf : s.requests.lookup key = some r) (ha : event.Aims key)
  (report : Reports event key r.lifecycle l effect)
include hf ha report

/-- A request that ends before it was sent gives its credits back. -/
theorem touch_rollback (seen : Bool) (before : List OwnerEffect)
    (hs : seen = true → r.cancelSeen = true ∨ l.caller ≠ .opened)
    (cause : event = .prepareFailed key ∨ (r.lifecycle.caller = .opened ∧ ∃ t, event.now = some t))
    (hc : r.lifecycle.wireCommitted = false)
    (hu : l.tombstone = true → r.lifecycle.tombstone = true) (hq : Quiet before) :
    ∃ r', r'.lifecycle = l ∧ Touch s event key r r'
      (before ++ .request key effect ::
        if ((s.put key { r with cancelSeen := seen, lifecycle := l }).rollback key).2 then
          [.reservationRolledBack key] else [])
      ((s.put key { r with cancelSeen := seen, lifecycle := l }).rollback key).1 := by
  rcases s.put_rollback_cases key { r with cancelSeen := seen, lifecycle := l } with
    h | ⟨hob, h⟩ | ⟨hob, hheld, h⟩
  · rw [h]
    obtain ⟨hr, hg, hv, hwc⟩ := hq.ledger key effect []
    refine ⟨{ r with cancelSeen := seen, lifecycle := l }, rfl, ?_⟩
    exact touch_told report hf ha hs hq.publications hq.plans (fun h => ⟨h, rfl⟩)
      (.kept rfl rfl rfl rfl rfl) (.same rfl rfl rfl rfl rfl rfl hr hg hv)
      (.kept rfl rfl rfl hu hwc)
      rfl rfl rfl ⟨rfl, rfl, rfl, rfl⟩ ⟨rfl, rfl, rfl⟩
  · rw [h]
    obtain ⟨hr, hg, hv, hwc⟩ := hq.ledger key effect [.reservationRolledBack key]
    refine ⟨{ r with cancelSeen := seen, lifecycle := l, creditObligation := false,
                     payloadHeld := false, admissionHeld := false }, rfl, ?_⟩
    exact touch_told report hf ha hs hq.publications hq.plans (fun h => nomatch h)
      (.dropped rfl rfl rfl rfl rfl)
      (.rolledBack cause hob hc rfl rfl rfl (by simp +contextual) rfl rfl hr hg hv)
      (.kept rfl rfl rfl hu hwc) rfl rfl rfl ⟨rfl, rfl, rfl, rfl⟩ ⟨rfl, rfl, rfl⟩
  · rw [h, s.put_releaseRequestOwnership]
    obtain ⟨-, -, -, hwc⟩ := hq.ledger key effect [.reservationRolledBack key]
    refine ⟨{ r with cancelSeen := seen, lifecycle := l, payloadHeld := false,
                     admissionHeld := false }, rfl, ?_⟩
    exact touch_told report hf ha hs hq.publications hq.plans (fun h => nomatch h)
      (.dropped rfl rfl rfl rfl rfl) (.released hob hheld) (.kept rfl rfl rfl hu hwc)
      rfl rfl rfl ⟨rfl, rfl, rfl, rfl⟩ ⟨rfl, rfl, rfl⟩

/-- A request that ends without an answer is given back, or drained until its deadline. -/
theorem touch_settleUnanswered (now : MonotonicTime) (seen : Bool) (before : List OwnerEffect)
    (hn : event.now = some now) (ho : r.lifecycle.caller = .opened) (hp : l.caller ≠ .opened)
    (hu : l.tombstone = true → r.lifecycle.tombstone = true ∨ r.lifecycle.wireCommitted = true)
    (hq : Quiet before) :
    ∃ r', r'.lifecycle = l ∧ Touch s event key r r'
      (before ++ .request key effect ::
        ((s.put key { r with cancelSeen := seen, lifecycle := l }).settleUnanswered
          key now r.lifecycle.wireCommitted).2)
      ((s.put key { r with cancelSeen := seen, lifecycle := l }).settleUnanswered key now
        r.lifecycle.wireCommitted).1 := by
  cases hc : r.lifecycle.wireCommitted with
  | false =>
    exact touch_rollback event hf ha report seen before (fun _ => .inr hp) (.inr ⟨ho, now, hn⟩) hc
      (fun h => (hu h).resolve_right (by simp [hc])) hq
  | true =>
    simp only [GenerationState.settleUnanswered]
    rw [show (s.put key _).tombstoneDrainTimeout = s.tombstoneDrainTimeout from rfl]
    rcases s.put_scheduleDeadline_cases key { r with cancelSeen := seen, lifecycle := l }
      (MonotonicTime.saturatingAdd now s.tombstoneDrainTimeout) .tombstone with ⟨hv', h⟩ | h
    · rw [h]
      obtain ⟨hr, hg, hv, hwc⟩ := hq.ledger key effect
        [.bestEffortWireCancel key, .generationUnhealthy key]
      refine ⟨{ r with cancelSeen := seen, lifecycle := l }, rfl, ?_⟩
      refine touch_told report hf ha (fun _ => .inr hp) hq.publications hq.plans (fun h => ⟨h, rfl⟩)
        (.kept rfl rfl rfl rfl rfl) (.same rfl rfl rfl rfl rfl rfl hr hg hv) ?_
        rfl rfl rfl ⟨rfl, rfl, rfl, rfl⟩ ⟨rfl, rfl, rfl⟩
      exact
        { heap := fun _ h => h
          pushed := fun _ h => .inl h
          unhealthy := fun _ => rfl
          raised := fun _ => .inr (.inr ⟨ho, hv'⟩)
          version := .inl rfl
          opened := fun h => absurd h hp
          tombstone := fun _ => .inr (.inl rfl)
          wireCancels := .inr ⟨hwc, ho, hp, hc⟩ }
    · rw [h]
      obtain ⟨hr, hg, hv, hwc⟩ := hq.ledger key effect [.bestEffortWireCancel key]
      have hin : key ∈ wireCancels
          (before ++ [.request key effect, .bestEffortWireCancel key]) := by
        rw [hwc]
        exact List.mem_singleton.mpr rfl
      refine ⟨{ r with
        cancelSeen := seen, lifecycle := l, deadlineVersion := r.deadlineVersion + 1 }, rfl, ?_⟩
      refine touch_told report hf ha (fun _ => .inr hp) hq.publications hq.plans (fun h => ⟨h, rfl⟩)
        (.kept rfl rfl rfl rfl rfl) (.same rfl rfl rfl rfl rfl rfl hr hg hv) ?_
        rfl rfl rfl ⟨rfl, rfl, rfl, rfl⟩ ⟨rfl, rfl, rfl⟩
      exact
        { heap := fun _ h => MinHeap.mem_push.mpr (.inr h)
          pushed := fun e h => (MinHeap.mem_push.mp h).elim
            (fun he => .inr (by subst he; exact ⟨rfl, rfl⟩)) .inl
          unhealthy := fun h => h
          raised := .inl
          version := .inr ⟨rfl, .inl ho⟩
          opened := fun h => absurd h hp
          tombstone := fun _ =>
            .inr (.inr ⟨now, _, hn, MinHeap.mem_push.mpr (.inl rfl), rfl, rfl, rfl, rfl, hin⟩)
          wireCancels := .inr ⟨hwc, ho, hp, hc⟩ }

omit report in
theorem touch_report {s' : GenerationState} {r' : OwnedRequest}
    (report : Reports event key r.lifecycle r'.lifecycle effect)
    (hc : r'.cancelSeen = r.cancelSeen)
    (held : r'.admissionHeld = true →
      r.admissionHeld = true ∧ r'.creditObligation = r.creditObligation)
    (hold : HoldStep s s' r r') (credit : CreditStep s s' event key r r' [.request key effect])
    (deadline : DeadlineStep s s' event key r r' [.request key effect])
    (hr : s'.requests = s.requests.insert key r') (hs : Frame s s') (hm : SameTerms r r') :
    Touch s event key r r' [.request key effect] s' := by
  have hp : publications [] = [] := rfl
  exact touch_told report hf ha (fun h => .inl (hc ▸ h)) hp rfl held hold credit deadline
    rfl rfl hr hs hm

theorem touch_release (hu : l.tombstone = true → r.lifecycle.tombstone = true) :
    Touch s event key r
      { r with lifecycle := l, payloadHeld := false, admissionHeld := false }
      [.request key effect]
      ((s.put key { r with lifecycle := l }).releaseRequestOwnership key) := by
  rw [s.put_releaseRequestOwnership]
  exact touch_report event hf ha report rfl (fun h => nomatch h) (.dropped rfl rfl rfl rfl rfl)
    (.same rfl rfl rfl rfl rfl rfl rfl rfl rfl) (.kept rfl rfl rfl hu rfl)
    rfl ⟨rfl, rfl, rfl, rfl⟩ ⟨rfl, rfl, rfl⟩

end

/-! ## Moves -/

def PreparationPlan.record (plan : PreparationPlan) : OwnedRequest :=
  { lifecycle := .new plan.key
    payloadBytes := plan.payloadBytes
    creditCharge := plan.creditCharge
    requestedExtraCredits := plan.creditRequest - plan.creditCharge.toNat
    creditResponseSeen := false
    admissionHeld := true
    payloadHeld := true
    creditObligation := true
    cancelSeen := false
    deadlineVersion := if plan.callerDeadline.isSome then 1 else 0 }

structure Admission (s : GenerationState) (plan : PreparationPlan) (s' : GenerationState) :
    Prop where
  generation : plan.key.generation = s.generation
  messageId : s.nextMessageId = some plan.key.messageId
  operations : s.admittedOperations < s.limits.maxOperations
  bytes : s.retainedPayloadBytes + plan.payloadBytes ≤ s.limits.maxPayloadBytes
  charge : 0 < plan.creditCharge.toNat ∧ plan.creditCharge.toNat ≤ s.availableCredits
  requests : s'.requests = s.requests.insert plan.key plan.record
  sameGeneration : s'.generation = s.generation
  limits : s'.limits = s.limits
  drainTimeout : s'.tombstoneDrainTimeout = s.tombstoneDrainTimeout
  nextMessageId : s'.nextMessageId =
    Machine.checkedAdd 64 plan.key.messageId plan.creditCharge.toNat
  available : s'.availableCredits = s.availableCredits - plan.creditCharge.toNat
  total : s'.totalCredits = s.totalCredits
  pending : s'.pendingExtraCredits =
    Machine.saturatingAdd 32 s.pendingExtraCredits plan.record.requestedExtraCredits
  saturated : s'.saturated = false → s.saturated = false ∧
    s.pendingExtraCredits + plan.record.requestedExtraCredits ≤ Machine.maxValue 32
  admitted : s'.admittedOperations = s.admittedOperations + 1
  retained : s'.retainedPayloadBytes = s.retainedPayloadBytes + plan.payloadBytes
  underflow : s'.underflow = s.underflow
  unhealthy : s'.unhealthy = s.unhealthy
  deadlines : ∀ e, e ∈ s'.deadlines ↔ e ∈ s.deadlines ∨ ∃ d, plan.callerDeadline = some d ∧
    e = ⟨d, s.nextDeadlineSequence, plan.key, .caller, 1⟩

inductive Move (event : OwnerEvent) (s : GenerationState) (effects : List OwnerEffect)
    (s' : GenerationState) : Prop
  /-- Nothing happens, or the generation turns unhealthy. -/
  | idle (unhealthy : Bool) (quiet : Quiet effects)
      (worse : s.unhealthy = true → unhealthy = true) (state : s' = { s with unhealthy })
      (raised : unhealthy = true → s.unhealthy = true ∨
        ∃ key answer grant, event = .response key answer grant)
  | admitted (plan : PreparationPlan) (payload : ℕ) (charge : UInt16)
      (deadline : Option MonotonicTime) (request : event = .admitRequest payload charge deadline)
      (terms : plan.payloadBytes = payload ∧ plan.creditCharge = charge ∧
        plan.callerDeadline = deadline) (told : effects = [.admitted plan])
      (admission : Admission s plan s')
  | touch (key : RequestKey) (r r' : OwnedRequest) (touch : Touch s event key r r' effects s')
      (timeless : ∀ now, event ≠ .advanceTime now := by simp)
  | stale (now : MonotonicTime) (entry : DeadlineEntry) (unhealthy : Bool)
      (time : event = .advanceTime now) (least : s.deadlines.peek = some entry)
      (due : entry.instant ≤ now) (quiet : Quiet effects)
      (worse : s.unhealthy = true → unhealthy = true)
      (past : ∀ r, s.requests.lookup entry.key = some r → r.deadlineVersion = entry.version →
        (entry.kind = .caller → r.lifecycle.caller ≠ .opened) ∧
        (entry.kind = .tombstone → r.lifecycle.Waiting → r.lifecycle.tombstone = true →
          unhealthy = true))
      (state : s' = { s with deadlines := s.deadlines.pop, unhealthy })
  | expired (now : MonotonicTime) (entry : DeadlineEntry) (r r' : OwnedRequest)
      (time : event = .advanceTime now) (least : s.deadlines.peek = some entry)
      (due : entry.instant ≤ now) (kind : entry.kind = .caller)
      (version : r.deadlineVersion = entry.version) (opened : r.lifecycle.caller = .opened)
      (closed : r'.lifecycle.caller ≠ .opened)
      (touch : Touch { s with deadlines := s.deadlines.pop } event entry.key r r' effects s')

inductive Moves (event : OwnerEvent) :
    GenerationState → List OwnerEffect → GenerationState → Prop
  | nil (s : GenerationState) : Moves event s [] s
  | cons {s s' s'' : GenerationState} {effects rest : List OwnerEffect}
      (move : Move event s effects s') (moves : Moves event s' rest s'') :
      Moves event s (effects ++ rest) s''

theorem Moves.single {event : OwnerEvent} {s s' : GenerationState} {effects : List OwnerEffect}
    (h : Move event s effects s') : Moves event s effects s' := by
  have := Moves.cons h (.nil s')
  rwa [List.append_nil] at this

section
variable {event : OwnerEvent} {s : GenerationState} {effects : List OwnerEffect}
  {key : RequestKey} {answer : ResponseEvent} {grant : UInt16}

theorem Move.nothing (h : Quiet effects) : Move event s effects s :=
  .idle s.unhealthy h id rfl .inl

theorem Move.sick (h : Quiet effects) :
    Move (.response key answer grant) s effects { s with unhealthy := true } :=
  .idle true h (fun _ => rfl) rfl fun _ => .inr ⟨key, answer, grant, rfl⟩

end

end Runtime
