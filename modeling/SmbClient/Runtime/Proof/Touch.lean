import SmbClient.Runtime.State

/-!
# What one event does to one request

`Touch` splits the change an event makes to one request into facets: what the caller is told, what
is held, the credits and the deadlines. The invariants read the facets and never unfold the reducer.
-/

namespace Runtime

/-! ## Reading effects -/

section
variable (a b : List OwnerEffect)

@[simp] theorem publications_append : publications (a ++ b) = publications a ++ publications b :=
  List.filterMap_append

@[simp] theorem rollbacks_append : rollbacks (a ++ b) = rollbacks a ++ rollbacks b :=
  List.filterMap_append

@[simp] theorem grants_append : grants (a ++ b) = grants a ++ grants b := List.filterMap_append

@[simp] theorem wireCancels_append : wireCancels (a ++ b) = wireCancels a ++ wireCancels b :=
  List.filterMap_append

@[simp] theorem plans_append : plans (a ++ b) = plans a ++ plans b := List.filterMap_append

@[simp] theorem overflows_append : overflows (a ++ b) = overflows a ++ overflows b :=
  List.filterMap_append

end

structure Quiet (effects : List OwnerEffect) : Prop where
  publications : publications effects = []
  rollbacks : rollbacks effects = []
  grants : grants effects = []
  wireCancels : wireCancels effects = []
  plans : plans effects = []
  overflows : overflows effects = []

def TerminalOutcome.neverSent : TerminalOutcome → Bool
  | .cancelled | .timedOut | .preparationFailed | .generationLost | .generationClosed => true
  | _ => false

/-! ## One record -/

namespace RequestRecord

variable (r : RequestRecord)
variable {o : TerminalOutcome}

theorem publishOnce_cases (outcome : TerminalOutcome) :
    (r.caller = .opened ∧
      r.publishOnce outcome = ({ r with caller := .terminal outcome }, .publish outcome)) ∨
    (r.caller ≠ .opened ∧ r.publishOnce outcome = (r, .bookkeepingOnly)) := by
  unfold publishOnce
  split
  · rename_i h
    exact .inl ⟨h, rfl⟩
  · rename_i h
    exact .inr ⟨h, rfl⟩

/-- An outcome that denies the wire is only told to the caller of an uncommitted request. -/
structure Told (r r' : RequestRecord) (effect : ReduceEffect) : Prop where
  key : r'.key = r.key
  committed : r.wireCommitted = true → r'.wireCommitted = true
  caller : ((∀ o, effect ≠ .publish o) ∧ r'.caller = r.caller) ∨
    ∃ o, effect = .publish o ∧ r.caller = .opened ∧ r'.caller = .terminal o ∧
      (o.neverSent = true → r.wireCommitted = false)

theorem told_publishOnce {r r' : RequestRecord} (hk : r'.key = r.key)
    (hs : r'.send = r.send) (hc : r'.caller = r.caller)
    (ho : o.neverSent = true → r.wireCommitted = false) :
    Told r (r'.publishOnce o).1 (r'.publishOnce o).2 := by
  rcases r'.publishOnce_cases o with ⟨h, he⟩ | ⟨h, he⟩
  · rw [he]
    refine ⟨hk, fun h' => by simpa [wireCommitted, hs] using h', .inr ⟨o, rfl, ?_, rfl, ho⟩⟩
    rw [← hc, h]
  · rw [he]
    exact ⟨hk, fun h' => by simpa [wireCommitted, hs] using h', .inl ⟨by simp, hc⟩⟩

theorem disconnectOutcome_neverSent {committed : Bool} {network : Option NetworkFailure}
    (h : (disconnectOutcome committed network).neverSent = true) : committed = false := by
  cases committed with
  | false => rfl
  | true => rcases network with - | (_ | _ | _) <;>
      simp [disconnectOutcome, TerminalOutcome.neverSent] at h

theorem publishOnce_publication {r : RequestRecord} {o' : TerminalOutcome}
    (h : (r.publishOnce o).2 = .publish o') : o' = o := by
  rcases r.publishOnce_cases o with ⟨-, he⟩ | ⟨-, he⟩
  · rw [he] at h
    exact (ReduceEffect.publish.inj h).symm
  · rw [he] at h
    cases h

theorem publishOnce_tombstone : (r.publishOnce o).1.tombstone = r.tombstone := by
  rcases r.publishOnce_cases o with ⟨-, he⟩ | ⟨-, he⟩ <;> rw [he]

theorem publishOnce_response (o : TerminalOutcome) : (r.publishOnce o).1.response = r.response := by
  rcases r.publishOnce_cases o with ⟨-, he⟩ | ⟨-, he⟩ <;> rw [he]

/-- A tombstone waits for a response that has not come. -/
def Waiting (r : RequestRecord) : Prop := r.tombstone = true → r.response ≠ .final

theorem waiting_publishOnce {r : RequestRecord} (h : r.Waiting) (o : TerminalOutcome) :
    (r.publishOnce o).1.Waiting := by
  rw [Waiting, publishOnce_tombstone, publishOnce_response]
  exact h

end RequestRecord

/-- What an event can tell the caller. -/
def RequestEvent.Tells (o : TerminalOutcome) : RequestEvent → Prop
  | .queued | .writeProgress _ | .writeComplete | .asyncPending .. => False
  | .finalResponse _ => o = .response
  | .recoveryHint _ => o = .sessionInvalidated
  | .cancel | .deadline | .disconnect _ => o ≠ .response

namespace RequestRecord

/-- An event changes the progress of a record, or ends the wait of its caller. -/
inductive Reduction (r : RequestRecord) (event : RequestEvent) : RequestRecord × ReduceEffect → Prop
  | silent {send : SendProgress} {response : ResponseProgress} {effect : ReduceEffect}
      (quiet : ∀ o, effect ≠ .publish o := by simp)
      (committed : r.wireCommitted = true → send.committed = true := by exact id)
      (answer : response = r.response ∨
        ∃ key id, event = .asyncPending key id ∧ r.response ≠ .final ∧
          response = .asyncPending id := by exact .inl rfl) :
      Reduction r event ({ r with send, response }, effect)
  | told {response : ResponseProgress} {tombstone : Bool} {o : TerminalOutcome}
      (tells : event.Tells o) (denied : o.neverSent = true → r.wireCommitted = false)
      (waiting : tombstone = true → r.Waiting → response ≠ .final := by simp)
      (stays : tombstone = true → r.tombstone = true ∨
        r.wireCommitted = true ∧ (event = .cancel ∨ event = .deadline) := by simp)
      (answer : response = r.response ∨
        response = .final ∧ ∃ key, event = .finalResponse key := by exact .inl rfl) :
      Reduction r event ({ r with response, tombstone }.publishOnce o)

variable (r : RequestRecord) {o : TerminalOutcome} {event : RequestEvent}

theorem finishWithoutResponse_reduction (tells : ∀ o, o ≠ .response → event.Tells o)
    (ends : event = .cancel ∨ event = .deadline) (ho : o ≠ .response) :
    r.Reduction event (r.finishWithoutResponse o) := by
  unfold finishWithoutResponse
  split
  · rename_i hc
    have lost {o : TerminalOutcome} (ho : o ≠ .response) (hn : o.neverSent = false) :
        r.Reduction event
        ({ r with tombstone := decide (r.response ≠ ResponseProgress.final) }.publishOnce o) :=
      .told (tells o ho) (by simp [hn]) (fun ht _ => of_decide_eq_true ht) fun _ => .inr ⟨hc, ends⟩
    split
    · exact lost (by simp) rfl
    · exact lost (by simp) rfl
  · rename_i hc
    exact .told (tells o ho) (fun _ => by simpa [wireCommitted] using hc) (fun ht h => h ht) .inl

theorem reduction (event : RequestEvent) : r.Reduction event (r.reduce event) := by
  cases event with
  | queued =>
    simp only [reduce]
    split
    · rename_i h
      exact .silent (by simp) fun h' => by simp [wireCommitted, h, SendProgress.committed] at h'
    · exact .silent
  | writeProgress bytes =>
    simp only [reduce]
    split
    · exact .silent (by simp) fun _ => rfl
    · exact .silent
  | writeComplete => exact .silent (by simp) fun _ => rfl
  | asyncPending key asyncId =>
    simp only [reduce]
    split
    · exact .silent
    split
    · exact .silent
    · rename_i hlive
      exact .silent (by simp) id (.inr ⟨key, asyncId, rfl, fun h => hlive (.inr h), rfl⟩)
  | finalResponse key =>
    simp only [reduce]
    split
    · exact .silent
    split
    · exact .silent
    · exact .told rfl (by simp [TerminalOutcome.neverSent]) (by simp) (by simp)
        (.inr ⟨rfl, key, rfl⟩)
  | recoveryHint key =>
    simp only [reduce]
    split
    · exact .silent
    split
    · exact .silent
    · exact .told rfl (by simp [TerminalOutcome.neverSent])
  | cancel => exact r.finishWithoutResponse_reduction (fun _ h => h) (.inl rfl) (by simp)
  | deadline => exact r.finishWithoutResponse_reduction (fun _ h => h) (.inr rfl) (by simp)
  | disconnect network =>
    refine .told ?_ disconnectOutcome_neverSent
    change disconnectOutcome r.send.committed network ≠ .response
    unfold disconnectOutcome
    split <;> split <;> simp

/-- What a request's own reducer tells is what it records. -/
theorem told_reduce (event : RequestEvent) : Told r (r.reduce event).1 (r.reduce event).2 := by
  have h := r.reduction event
  generalize r.reduce event = after at h ⊢
  cases h with
  | silent quiet committed => exact ⟨rfl, committed, .inl ⟨quiet, rfl⟩⟩
  | told _ denied => exact told_publishOnce rfl rfl rfl denied

theorem waiting_reduce {r : RequestRecord} (hw : r.Waiting) (event : RequestEvent) :
    (r.reduce event).1.Waiting := by
  have h := r.reduction event
  generalize r.reduce event = after at h ⊢
  cases h with
  | silent _ _ answer =>
    rcases answer with rfl | ⟨_, _, -, -, rfl⟩
    · exact hw
    · simp [Waiting]
  | told _ _ waiting => exact waiting_publishOnce (fun ht => waiting ht hw) _

theorem final_reduce {r : RequestRecord} (hf : r.response = .final) (event : RequestEvent) :
    (r.reduce event).1.response = .final := by
  have h := r.reduction event
  generalize r.reduce event = after at h ⊢
  cases h with
  | silent _ _ answer =>
    rcases answer with rfl | ⟨_, _, -, hlive, -⟩
    · exact hf
    · exact absurd hf hlive
  | told _ _ _ _ answer =>
    rw [publishOnce_response]
    rcases answer with rfl | ⟨rfl, -⟩
    · exact hf
    · rfl

variable {r}

theorem reduce_tells (h : (r.reduce event).2 = .publish o) : event.Tells o := by
  have hr := r.reduction event
  generalize r.reduce event = after at h hr
  cases hr with
  | silent quiet => exact absurd h (quiet o)
  | told tells => exact publishOnce_publication h ▸ tells

theorem reduce_tombstone (h : (r.reduce event).1.tombstone = true) : r.tombstone = true ∨
    r.wireCommitted = true ∧ (event = .cancel ∨ event = .deadline) := by
  have hr := r.reduction event
  generalize r.reduce event = after at h hr
  cases hr with
  | silent => exact .inl h
  | told _ _ _ stays =>
    rw [publishOnce_tombstone] at h
    exact stays h

theorem reduce_response (hpending : ∀ key id, event ≠ .asyncPending key id := by simp)
    (hfinal : ∀ key, event ≠ .finalResponse key := by simp) :
    (r.reduce event).1.response = r.response := by
  have h := r.reduction event
  generalize r.reduce event = after at h ⊢
  cases h with
  | silent _ _ answer => exact answer.resolve_right fun ⟨key, id, he, _⟩ => hpending key id he
  | told _ _ _ _ answer =>
    rw [publishOnce_response]
    exact answer.resolve_right fun ⟨_, key, he⟩ => hfinal key he

end RequestRecord

/-! ## The facets of a change -/

def OwnerEvent.now : OwnerEvent → Option MonotonicTime
  | .cancel _ now | .advanceTime now => some now
  | _ => none

def OwnerEvent.Aims (key : RequestKey) : OwnerEvent → Prop
  | .admitRequest .. => False
  | .request k _ | .prepareFailed k | .cancel k _ | .response k _ _ | .recoveryHint k => k = key
  | .advanceTime _ | .disconnect _ => True

structure HoldStep (s s' : GenerationState) (r r' : OwnedRequest) : Prop where
  bytes : s'.retainedPayloadBytes = s.retainedPayloadBytes - (r.heldBytes - r'.heldBytes)
  bytes_le : r'.heldBytes ≤ r.heldBytes
  slots : s'.admittedOperations = s.admittedOperations - (r.heldSlots - r'.heldSlots)
  slots_le : r'.heldSlots ≤ r.heldSlots
  underflow : s'.underflow = true → s.underflow = true ∨
    s.retainedPayloadBytes < r.heldBytes ∨ s.admittedOperations < r.heldSlots

def GenerationState.settledTotal (s : GenerationState) (r : OwnedRequest) : ℕ :=
  if r.creditResponseSeen then s.totalCredits else s.totalCredits - r.creditCharge.toNat

/-- The pending extra credits after a response. -/
def GenerationState.settledExtra (s : GenerationState) (r : OwnedRequest) : ℕ :=
  if r.creditResponseSeen then s.pendingExtraCredits
  else s.pendingExtraCredits - r.requestedExtraCredits

inductive CreditStep (s s' : GenerationState) (event : OwnerEvent) (key : RequestKey)
    (r r' : OwnedRequest) (effects : List OwnerEffect) : Prop
  | same (available : s'.availableCredits = s.availableCredits)
      (total : s'.totalCredits = s.totalCredits)
      (pending : s'.pendingExtraCredits = s.pendingExtraCredits)
      (saturated : s'.saturated = s.saturated)
      (obligation : r'.creditObligation = r.creditObligation)
      (seen : r'.creditResponseSeen = r.creditResponseSeen)
      (rollbacks : rollbacks effects = []) (grants : grants effects = [])
      (overflows : overflows effects = [])
  | granted (grant : UInt16) (answer : ∃ e, event = .response key e grant)
      (live : r.lifecycle.response ≠ .final)
      (available : s'.availableCredits = s.availableCredits + grant.toNat)
      (total : s'.totalCredits = Machine.saturatingAdd 32 (s.settledTotal r) grant.toNat)
      (pending : s'.pendingExtraCredits = s.settledExtra r)
      (saturated : s'.saturated = false →
        s.saturated = false ∧ s.settledTotal r + grant.toNat ≤ Machine.maxValue 32)
      (obligation : r'.creditObligation = true → r.creditObligation = true)
      (seen : r'.creditResponseSeen = true) (committed : r'.lifecycle.wireCommitted = true)
      (rollbacks : rollbacks effects = []) (grants : grants effects = [(key, grant)])
      (overflows : overflows effects = [])
  | overflowed (answer : ∃ e grant, event = .response key e grant)
      (available : s'.availableCredits = s.availableCredits)
      (saturated : s'.saturated = false → s.saturated = false)
      (committed : r'.lifecycle.wireCommitted = true) (seen : r'.creditResponseSeen = true)
      (obligation : r'.creditObligation = r.creditObligation)
      (rollbacks : rollbacks effects = []) (grants : grants effects = [])
      (overflows : overflows effects = [key])
  | rolledBack (cause : event = .prepareFailed key ∨
        (r.lifecycle.caller = .opened ∧ ∃ t, event.now = some t))
      (obligation : r.creditObligation = true)
      (uncommitted : r.lifecycle.wireCommitted = false)
      (available : s'.availableCredits = s.availableCredits + r.creditCharge.toNat)
      (total : s'.totalCredits = s.totalCredits)
      (pending : s'.pendingExtraCredits = s.pendingExtraCredits - r.requestedExtraCredits)
      (saturated : s'.saturated = false → s.saturated = false)
      (settled : r'.creditObligation = false)
      (seen : r'.creditResponseSeen = r.creditResponseSeen)
      (rollbacks : rollbacks effects = [key]) (grants : grants effects = [])
      (overflows : overflows effects = [])
  | released (obligation : r.creditObligation = false) (held : r.admissionHeld = true)

structure DeadlineStep (s s' : GenerationState) (event : OwnerEvent) (key : RequestKey)
    (r r' : OwnedRequest) (effects : List OwnerEffect) : Prop where
  heap : ∀ e ∈ s.deadlines, e ∈ s'.deadlines
  pushed : ∀ e ∈ s'.deadlines, e ∈ s.deadlines ∨ (e.kind = .tombstone ∧ e.key = key)
  unhealthy : s.unhealthy = true → s'.unhealthy = true
  raised : s'.unhealthy = true → s.unhealthy = true ∨
    (∃ answer grant, event = .response key answer grant) ∨ r.lifecycle.caller = .opened ∧
    Machine.checkedAdd 64 r.deadlineVersion 1 = none
  version : r'.deadlineVersion = r.deadlineVersion ∨ r'.deadlineVersion = r.deadlineVersion + 1 ∧
    (r.lifecycle.caller = .opened ∨ r'.lifecycle.response = .final)
  opened : r'.lifecycle.caller = .opened → r'.deadlineVersion = r.deadlineVersion
  tombstone : r'.lifecycle.tombstone = true →
    (r.lifecycle.tombstone = true ∧ r'.deadlineVersion = r.deadlineVersion) ∨
    s'.unhealthy = true ∨
    ∃ t e, event.now = some t ∧ e ∈ s'.deadlines ∧ e.key = key ∧ e.kind = .tombstone ∧
      e.version = r'.deadlineVersion ∧ e.instant = t.saturatingAdd s.tombstoneDrainTimeout ∧
      key ∈ wireCancels effects
  wireCancels : wireCancels effects = [] ∨
    (wireCancels effects = [key] ∧ r.lifecycle.caller = .opened ∧
      r'.lifecycle.caller ≠ .opened ∧ r.lifecycle.wireCommitted = true)

/-- What only an admission changes in the state. -/
structure Frame (s s' : GenerationState) : Prop where
  generation : s'.generation = s.generation
  limits : s'.limits = s.limits
  nextMessageId : s'.nextMessageId = s.nextMessageId
  drainTimeout : s'.tombstoneDrainTimeout = s.tombstoneDrainTimeout

structure SameTerms (r r' : OwnedRequest) : Prop where
  payloadBytes : r'.payloadBytes = r.payloadBytes
  creditCharge : r'.creditCharge = r.creditCharge
  extraCredits : r'.requestedExtraCredits = r.requestedExtraCredits

structure Touch (s : GenerationState) (event : OwnerEvent) (key : RequestKey)
    (r r' : OwnedRequest) (effects : List OwnerEffect) (s' : GenerationState) : Prop where
  aims : event.Aims key
  found : s.requests.lookup key = some r
  requests : s'.requests = s.requests.insert key r'
  frame : Frame s s'
  terms : SameTerms r r'
  plans : plans effects = []
  recordKey : r'.lifecycle.key = r.lifecycle.key
  committed : r.lifecycle.wireCommitted = true → r'.lifecycle.wireCommitted = true
  waiting : r.lifecycle.Waiting → r'.lifecycle.Waiting
  final : r.lifecycle.response = .final → r'.lifecycle.response = .final
  cancelSeen : r'.cancelSeen = true → r.cancelSeen = true ∨ r'.lifecycle.caller ≠ .opened
  caller : (publications effects = [] ∧ r'.lifecycle.caller = r.lifecycle.caller) ∨
    ∃ o, publications effects = [(key, o)] ∧ r.lifecycle.caller = .opened ∧
      r'.lifecycle.caller = .terminal o ∧
      (o.neverSent = true → r.lifecycle.wireCommitted = false)
  answered : (key, .response) ∈ publications effects →
    ∃ answer grant, event = .response key answer grant
  held : r'.admissionHeld = true → r.admissionHeld = true ∧ r'.creditObligation = r.creditObligation
  hold : HoldStep s s' r r'
  credit : CreditStep s s' event key r r' effects
  deadline : DeadlineStep s s' event key r r' effects

end Runtime
