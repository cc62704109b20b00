import Mathlib.Data.Prod.Lex
import SmbClient.Lib.Heap
import SmbClient.Lib.Table
import SmbClient.Lib.Run
import SmbClient.Runtime.Reducer

/-!
# The state of one generation (`runtime/state.rs`)

`GenerationState` owns every request of one connection generation. Not in the source: `underflow`
records that an unguarded `-` went below zero, `saturated` that a saturating credit operation lost
something. Times and durations are nanoseconds.
-/

namespace Runtime

/-! ## Time (`clock.rs`) -/

abbrev MonotonicTime : Type := ℕ

abbrev Duration : Type := ℕ

def MonotonicTime.saturatingAdd (t : MonotonicTime) (d : Duration) : MonotonicTime :=
  Machine.saturatingAdd 64 t (min d (Machine.maxValue 64))

/-! ## Events and effects -/

structure AdmissionLimits where
  maxOperations : ℕ
  maxPayloadBytes : ℕ

inductive AdmissionError where
  | operationsExhausted
  | payloadBytesExhausted
  | creditsExhausted (available : ℕ) (requested : UInt16)
  | messageIdExhausted
  | invalidCreditCharge
deriving DecidableEq

structure PreparationPlan where
  key : RequestKey
  payloadBytes : ℕ
  creditCharge : UInt16
  creditRequest : ℕ
  callerDeadline : Option MonotonicTime
deriving DecidableEq

inductive ResponseEvent where
  | pending (asyncId : ℕ)
  | final

inductive RequestProgress where
  | queued
  | writeProgress (bytes : ℕ)
  | writeComplete
deriving DecidableEq

inductive DeadlineKind where
  | caller
  | tombstone
deriving DecidableEq

structure DeadlineEntry where
  instant : MonotonicTime
  sequence : ℕ
  key : RequestKey
  kind : DeadlineKind
  version : ℕ

inductive OwnerEvent where
  | admitRequest (payloadBytes : ℕ) (creditCharge : UInt16) (callerDeadline : Option MonotonicTime)
  | request (key : RequestKey) (event : RequestProgress)
  | prepareFailed (key : RequestKey)
  | cancel (key : RequestKey) (now : MonotonicTime)
  | response (key : RequestKey) (event : ResponseEvent) (creditGrant : UInt16)
  | recoveryHint (key : RequestKey)
  | advanceTime (now : MonotonicTime)
  | disconnect (network : Option NetworkFailure)

inductive OwnerEffect where
  | admitted (plan : PreparationPlan)
  | admissionRejected (error : AdmissionError)
  | request (key : RequestKey) (effect : ReduceEffect)
  | reservationRolledBack (key : RequestKey)
  | creditGrantApplied (key : RequestKey) (grant : UInt16) (available : ℕ)
  | duplicateResponse (key : RequestKey)
  | cancelControlQueued (key : RequestKey)
  | duplicateCancel (key : RequestKey)
  | bestEffortWireCancel (key : RequestKey)
  | staleDeadlineIgnored (key : RequestKey)
  | generationUnhealthy (key : RequestKey)
  | asyncIdConflict (asyncId : ℕ) (existing incoming : RequestKey)
  | asyncIdChanged (key : RequestKey) (existing incoming : ℕ)
  | creditLedgerOverflow (key : RequestKey) (available : ℕ) (grant : UInt16)
  | unknownRequest (key : RequestKey)
deriving DecidableEq

/-! ## The deadline heap's order -/

def DeadlineEntry.order (e : DeadlineEntry) : ℕ ×ₗ ℕ ×ₗ ℕ ×ₗ ℕ ×ₗ ℕ ×ₗ ℕ :=
  toLex (e.instant, toLex (e.sequence, toLex (e.key.generation.value, toLex (e.key.messageId,
    toLex ((match e.kind with | .caller => 0 | .tombstone => 1), e.version)))))

theorem DeadlineEntry.order_injective : Function.Injective DeadlineEntry.order := by
  rintro ⟨a, s, ⟨⟨g⟩, m⟩, k, v⟩ ⟨a', s', ⟨⟨g'⟩, m'⟩, k', v'⟩ h
  simp only [order, EmbeddingLike.apply_eq_iff_eq] at h
  cases k <;> cases k' <;> simp_all

instance : LinearOrder DeadlineEntry :=
  LinearOrder.lift' DeadlineEntry.order DeadlineEntry.order_injective

theorem DeadlineEntry.at_le_of_le {a b : DeadlineEntry} (h : a ≤ b) : a.instant ≤ b.instant := by
  have h' : a.order ≤ b.order := h
  simp only [order, Prod.Lex.toLex_le_toLex] at h'
  rcases h' with h' | h'
  · exact h'.le
  · exact h'.1.le

/-! ## The state -/

structure OwnedRequest where
  lifecycle : RequestRecord
  payloadBytes : ℕ
  creditCharge : UInt16
  requestedExtraCredits : ℕ
  creditResponseSeen : Bool
  admissionHeld : Bool
  payloadHeld : Bool
  creditObligation : Bool
  cancelSeen : Bool
  deadlineVersion : ℕ

/-- The source subtracts them where `payload_held` is set. -/
def OwnedRequest.heldBytes (r : OwnedRequest) : ℕ := if r.payloadHeld then r.payloadBytes else 0

def OwnedRequest.heldSlots (r : OwnedRequest) : ℕ := if r.admissionHeld then 1 else 0

structure GenerationState where
  generation : GenerationId
  limits : AdmissionLimits
  nextMessageId : Option ℕ
  availableCredits : ℕ
  totalCredits : ℕ
  pendingExtraCredits : ℕ
  targetCredits : ℕ
  admittedOperations : ℕ
  retainedPayloadBytes : ℕ
  requests : Table RequestKey OwnedRequest
  asyncIndex : Table ℕ RequestKey
  deadlines : MinHeap DeadlineEntry
  nextDeadlineSequence : ℕ
  tombstoneDrainTimeout : Duration
  unhealthy : Bool
  -- An unguarded subtraction went below zero.
  underflow : Bool
  -- A saturating operation on a credit counter was clipped.
  saturated : Bool

namespace GenerationState

def new (generation : GenerationId) (initialMessageId initialCredits targetCredits : ℕ)
    (limits : AdmissionLimits) (tombstoneDrainTimeout : Duration) : GenerationState :=
  { generation
    limits
    nextMessageId := some initialMessageId
    availableCredits := initialCredits
    totalCredits := initialCredits
    pendingExtraCredits := 0
    targetCredits
    admittedOperations := 0
    retainedPayloadBytes := 0
    requests := ∅
    asyncIndex := ∅
    deadlines := .empty
    nextDeadlineSequence := 0
    tombstoneDrainTimeout
    unhealthy := false
    underflow := false
    saturated := false }

variable (s : GenerationState)

def setTargetCredits (target : ℕ) : GenerationState :=
  { s with targetCredits := max target 1 }

variable (key : RequestKey)

variable (r : OwnedRequest)

def put : GenerationState :=
  { s with requests := s.requests.insert key r }

/-! ## Releasing what a request holds -/

def releasePayload : GenerationState :=
  match s.requests.lookup key with
  | none => s
  | some r =>
    { s with
      retainedPayloadBytes := s.retainedPayloadBytes - r.heldBytes
      underflow := s.underflow || decide (s.retainedPayloadBytes < r.heldBytes)
      requests := s.requests.insert key { r with payloadHeld := false } }

def releaseRequestOwnership : GenerationState :=
  let s := s.releasePayload key
  match s.requests.lookup key with
  | none => s
  | some r =>
    { s with
      admittedOperations := s.admittedOperations - r.heldSlots
      underflow := s.underflow || decide (s.admittedOperations < r.heldSlots)
      requests := s.requests.insert key { r with admissionHeld := false } }

/-- Returns whether anything was rolled back. -/
def rollback : GenerationState × Bool :=
  match s.requests.lookup key with
  | none => (s, false)
  | some r =>
    if r.creditObligation = false ∧ r.admissionHeld = false then (s, false)
    else if r.creditObligation then
      match Machine.checkedAdd 32 s.availableCredits r.creditCharge.toNat with
      | none => (s, false)
      | some available =>
        let s := { s with
          availableCredits := available
          pendingExtraCredits := s.pendingExtraCredits - r.requestedExtraCredits
          saturated := s.saturated || decide (s.pendingExtraCredits < r.requestedExtraCredits)
          requests := s.requests.insert key { r with creditObligation := false } }
        (s.releaseRequestOwnership key, true)
    else (s.releaseRequestOwnership key, true)

/-! ## Deadlines -/

def scheduleDeadline (instant : MonotonicTime) (kind : DeadlineKind) : GenerationState × Bool :=
  match s.requests.lookup key with
  | none => (s, false)
  | some r =>
    match Machine.checkedAdd 64 r.deadlineVersion 1 with
    | none => ({ s with unhealthy := true }, false)
    | some version =>
      ({ s with
         requests := s.requests.insert key { r with deadlineVersion := version }
         nextDeadlineSequence := Machine.saturatingAdd 64 s.nextDeadlineSequence 1
         deadlines := s.deadlines.push
           { instant, sequence := s.nextDeadlineSequence, key, kind, version } }, true)

/-! ## Admission -/

/-- Why an admission is refused, in the order the source checks. -/
def admissionRejection (payloadBytes : ℕ) (creditCharge : UInt16) : Option AdmissionError :=
  if creditCharge = 0 then some .invalidCreditCharge
  else if s.limits.maxOperations ≤ s.admittedOperations then some .operationsExhausted
  else if (Machine.checkedAdd 64 s.retainedPayloadBytes payloadBytes).all
      (fun total => decide (s.limits.maxPayloadBytes < total)) then some .payloadBytesExhausted
  else if s.availableCredits < creditCharge.toNat then
    some (.creditsExhausted s.availableCredits creditCharge)
  else if s.nextMessageId.isNone then some .messageIdExhausted
  else none

/-- The credits the request asks for: its charge and what the target window still lacks. -/
def creditRequest (creditCharge : UInt16) : ℕ :=
  let projectedTotal := Machine.saturatingAdd 32 s.totalCredits s.pendingExtraCredits
  let requestedExtraCredits := s.targetCredits - projectedTotal
  min (Machine.saturatingAdd 32 creditCharge.toNat requestedExtraCredits) (Machine.maxValue 16)

def admitRequest (payloadBytes : ℕ) (creditCharge : UInt16)
    (callerDeadline : Option MonotonicTime) : GenerationState × OwnerEffect :=
  match s.admissionRejection payloadBytes creditCharge with
  | some error => (s, .admissionRejected error)
  | none =>
    match s.nextMessageId with
    | none => (s, .admissionRejected .messageIdExhausted)
    | some messageId =>
      let creditRequest := s.creditRequest creditCharge
      let requestedExtraCredits := creditRequest - creditCharge.toNat
      let key : RequestKey := ⟨s.generation, messageId⟩
      let plan : PreparationPlan :=
        { key, payloadBytes, creditCharge, creditRequest, callerDeadline }
      let s := { s with
        nextMessageId := Machine.checkedAdd 64 messageId creditCharge.toNat
        availableCredits := s.availableCredits - creditCharge.toNat
        pendingExtraCredits :=
          Machine.saturatingAdd 32 s.pendingExtraCredits requestedExtraCredits
        admittedOperations := s.admittedOperations + 1
        retainedPayloadBytes := s.retainedPayloadBytes + payloadBytes
        underflow := s.underflow || decide (s.availableCredits < creditCharge.toNat) ||
          decide (creditRequest < creditCharge.toNat)
        saturated := s.saturated ||
          decide (Machine.maxValue 32 < s.pendingExtraCredits + requestedExtraCredits)
        requests := s.requests.insert key
          { lifecycle := .new key
            payloadBytes
            creditCharge
            requestedExtraCredits
            creditResponseSeen := false
            admissionHeld := true
            payloadHeld := true
            creditObligation := true
            cancelSeen := false
            deadlineVersion := 0 } }
      match callerDeadline with
      | some deadline => ((s.scheduleDeadline key deadline .caller).1, .admitted plan)
      | none => (s, .admitted plan)

/-! ## Events of one request -/

def progressEvent : RequestProgress → RequestEvent
  | .queued => .queued
  | .writeProgress bytes => .writeProgress bytes
  | .writeComplete => .writeComplete

def requestEvent (event : RequestProgress) : GenerationState × List OwnerEffect :=
  if key.generation ≠ s.generation then (s, [.request key .ignoredForeignGeneration])
  else match s.requests.lookup key with
  | none => (s, [.unknownRequest key])
  | some r =>
    let (lifecycle, effect) := r.lifecycle.reduce (progressEvent event)
    let s := s.put key { r with lifecycle }
    (if event = .writeComplete then s.releasePayload key else s, [.request key effect])

variable (now : MonotonicTime)

/-- A committed request becomes a tombstone, an uncommitted one gives its reservation back. -/
def settleUnanswered
    (committed : Bool) : GenerationState × List OwnerEffect :=
  if committed then
    let (s, scheduled) :=
      s.scheduleDeadline key (MonotonicTime.saturatingAdd now s.tombstoneDrainTimeout) .tombstone
    (s, .bestEffortWireCancel key :: if scheduled then [] else [.generationUnhealthy key])
  else
    let (s, rolledBack) := s.rollback key
    (s, if rolledBack then [.reservationRolledBack key] else [])

def cancel (now : MonotonicTime) : GenerationState × List OwnerEffect :=
  if key.generation ≠ s.generation then (s, [.request key .ignoredForeignGeneration])
  else match s.requests.lookup key with
  | none => (s, [.unknownRequest key])
  | some r =>
    if r.cancelSeen then (s, [.duplicateCancel key])
    else if ¬ r.lifecycle.callerIsOpen then
      (s.put key { r with cancelSeen := true }, [.duplicateCancel key])
    else
      let (lifecycle, effect) := r.lifecycle.reduce .cancel
      let (s, effects) := (s.put key { r with cancelSeen := true, lifecycle }).settleUnanswered
        key now r.lifecycle.wireCommitted
      (s, .cancelControlQueued key :: .request key effect :: effects)

def prepareFailed : GenerationState × List OwnerEffect :=
  if key.generation ≠ s.generation then (s, [.request key .ignoredForeignGeneration])
  else match s.requests.lookup key with
  | none => (s, [.unknownRequest key])
  | some r =>
    if r.lifecycle.wireCommitted then (s, [.request key .bookkeepingOnly])
    else
      let (lifecycle, effect) := r.lifecycle.publishTerminal .preparationFailed
      let (s, rolledBack) := (s.put key { r with lifecycle }).rollback key
      (s, .request key effect :: if rolledBack then [.reservationRolledBack key] else [])

def recoveryHint : GenerationState × List OwnerEffect :=
  if key.generation ≠ s.generation then (s, [.request key .ignoredForeignGeneration])
  else match s.requests.lookup key with
  | none => (s, [.unknownRequest key])
  | some r =>
    let (lifecycle, effect) := r.lifecycle.reduce (.recoveryHint key)
    ((s.put key { r with lifecycle }).releaseRequestOwnership key, [.request key effect])

/-! ## Responses -/

/-- The first response settles the request's charge and its pending extra credits. -/
def observeCredits (grant : UInt16) : GenerationState × OwnedRequest :=
  if r.creditResponseSeen then
    ({ s with
       totalCredits := Machine.saturatingAdd 32 s.totalCredits grant.toNat
       saturated := s.saturated || decide (Machine.maxValue 32 < s.totalCredits + grant.toNat) }, r)
  else
    let rest := s.totalCredits - r.creditCharge.toNat
    ({ s with
       pendingExtraCredits := s.pendingExtraCredits - r.requestedExtraCredits
       totalCredits := Machine.saturatingAdd 32 rest grant.toNat
       saturated := s.saturated || decide (s.pendingExtraCredits < r.requestedExtraCredits) ||
         decide (s.totalCredits < r.creditCharge.toNat) ||
         decide (Machine.maxValue 32 < rest + grant.toNat) },
     { r with creditResponseSeen := true })

def takePayload : GenerationState × OwnedRequest :=
  ({ s with
     retainedPayloadBytes := s.retainedPayloadBytes - r.heldBytes
     underflow := s.underflow || decide (s.retainedPayloadBytes < r.heldBytes) },
   { r with payloadHeld := false })

/-- The async id of an interim response already belongs to another request. -/
def asyncConflict :
    ResponseEvent → Option (ℕ × RequestKey)
  | .pending asyncId =>
    match s.asyncIndex.lookup asyncId with
    | some existing => if existing ≠ key then some (asyncId, existing) else none
    | none => none
  | .final => none

/-- An interim response carries another async id than the one before. -/
def asyncChange : ResponseEvent → ResponseProgress → Option (ℕ × ℕ)
  | .pending asyncId, .asyncPending existing =>
    if existing ≠ asyncId then some (existing, asyncId) else none
  | _, _ => none

def acceptPending (asyncId : ℕ) : GenerationState × List OwnerEffect :=
  let (lifecycle, effect) := r.lifecycle.reduce (.asyncPending key asyncId)
  ({ s.put key { r with lifecycle } with asyncIndex := s.asyncIndex.insert asyncId key },
   [.request key effect])

/-- The async id of an interim response is forgotten with the final one. -/
def forgetAsync : ResponseProgress → GenerationState
  | .asyncPending asyncId => { s with asyncIndex := s.asyncIndex.erase asyncId }
  | _ => s

/-- A final response ends the credit obligation, makes every scheduled deadline of the request
stale and releases what it holds. -/
def acceptFinal
    (previous : ResponseProgress) : GenerationState × List OwnerEffect :=
  let (lifecycle, effect) := r.lifecycle.reduce (.finalResponse key)
  let s := s.forgetAsync previous
  let r := { r with lifecycle, creditObligation := false }
  match Machine.checkedAdd 64 r.deadlineVersion 1 with
  | some version =>
    ((s.put key { r with deadlineVersion := version }).releaseRequestOwnership key,
     [.request key effect])
  | none =>
    (({ s with unhealthy := true }.put key r).releaseRequestOwnership key,
     [.request key effect, .generationUnhealthy key])

def response (event : ResponseEvent) (creditGrant : UInt16) : GenerationState × List OwnerEffect :=
  if key.generation ≠ s.generation then (s, [.request key .ignoredForeignGeneration])
  else match s.asyncConflict key event with
  | some (asyncId, existing) =>
    ({ s with unhealthy := true },
     [.asyncIdConflict asyncId existing key, .generationUnhealthy key])
  | none =>
    match s.requests.lookup key with
    | none => (s, [.unknownRequest key])
    | some r =>
      match asyncChange event r.lifecycle.response with
      | some (existing, incoming) =>
        ({ s with unhealthy := true },
         [.asyncIdChanged key existing incoming, .generationUnhealthy key])
      | none =>
        if r.lifecycle.response = .final then (s, [.duplicateResponse key])
        else
          let previous := r.lifecycle.response
          let (s, r) := s.observeCredits r creditGrant
          -- Protocol bookkeeping deliberately precedes caller completion.
          let r := { r with lifecycle := r.lifecycle.observeResponseCommitment }
          let (s, r) := s.takePayload r
          match Machine.checkedAdd 32 s.availableCredits creditGrant.toNat with
          | none =>
            ({ s.put key r with unhealthy := true },
             [.creditLedgerOverflow key s.availableCredits creditGrant, .generationUnhealthy key])
          | some available =>
            let s := { s with availableCredits := available }
            let (s, effects) := match event with
              | .pending asyncId => s.acceptPending key r asyncId
              | .final => s.acceptFinal key r previous
            (s, .creditGrantApplied key creditGrant available :: effects)

/-! ## Time and disconnect -/

def expire (entry : DeadlineEntry) : GenerationState × List OwnerEffect :=
  match s.requests.lookup entry.key with
  | none => (s, [.staleDeadlineIgnored entry.key])
  | some r =>
    if r.deadlineVersion ≠ entry.version then (s, [.staleDeadlineIgnored entry.key])
    else match entry.kind with
    | .caller =>
      if ¬ r.lifecycle.callerIsOpen then (s, [.staleDeadlineIgnored entry.key])
      else
        let (lifecycle, effect) := r.lifecycle.reduce .deadline
        let (s, effects) := (s.put entry.key { r with lifecycle }).settleUnanswered
          entry.key now r.lifecycle.wireCommitted
        (s, .request entry.key effect :: effects)
    | .tombstone =>
      if r.lifecycle.tombstone ∧ r.lifecycle.response ≠ .final then
        ({ s with unhealthy := true }, [.generationUnhealthy entry.key])
      else (s, [.staleDeadlineIgnored entry.key])

def drainDeadlines (now : MonotonicTime) :
    ℕ → GenerationState → GenerationState × List OwnerEffect
  | 0, s => (s, [])
  | fuel + 1, s =>
    match s.deadlines.peek with
    | none => (s, [])
    | some entry =>
      if entry.instant ≤ now then
        let (s, effects) := { s with deadlines := s.deadlines.pop }.expire now entry
        let (s, rest) := drainDeadlines now fuel s
        (s, effects ++ rest)
      else (s, [])

/-- Every round pops an entry and only a caller's deadline pushes one, so twice as many rounds as
entries end the loop. -/
def advanceTime : GenerationState × List OwnerEffect :=
  drainDeadlines now (2 * s.deadlines.entries.length) s

variable (network : Option NetworkFailure)

def disconnectRequest (s : GenerationState) (key : RequestKey) :
    GenerationState × List OwnerEffect :=
  match s.requests.lookup key with
  | none => (s.releaseRequestOwnership key, [])
  | some r =>
    let (lifecycle, effect) := r.lifecycle.reduce (.disconnect network)
    ((s.put key { r with lifecycle }).releaseRequestOwnership key, [.request key effect])

def disconnectAll (network : Option NetworkFailure) :
    List RequestKey → GenerationState → GenerationState × List OwnerEffect
  | [], s => (s, [])
  | key :: keys, s =>
    let (s, effects) := s.disconnectRequest network key
    let (s, rest) := disconnectAll network keys s
    (s, effects ++ rest)

def disconnect : GenerationState × List OwnerEffect :=
  disconnectAll network s.requests.keys s

/-! ## The reducer -/

def reduce : OwnerEvent → GenerationState × List OwnerEffect
  | .admitRequest payloadBytes creditCharge callerDeadline =>
    let (s, effect) := s.admitRequest payloadBytes creditCharge callerDeadline
    (s, [effect])
  | .request key event => s.requestEvent key event
  | .prepareFailed key => s.prepareFailed key
  | .cancel key now => s.cancel key now
  | .response key event creditGrant => s.response key event creditGrant
  | .recoveryHint key => s.recoveryHint key
  | .advanceTime now => s.advanceTime now
  | .disconnect network => s.disconnect network

/-! ## Observations -/

def request : Option RequestRecord :=
  (s.requests.lookup key).map (·.lifecycle)

def requestForAsyncId (asyncId : ℕ) : Option RequestKey :=
  s.asyncIndex.lookup asyncId

def nextDeadline : Option MonotonicTime := s.deadlines.peek.map (·.instant)

def unresolvedCallers : ℕ :=
  s.requests.values.countP (fun r => r.lifecycle.callerIsOpen)

def terminalOutcome : Option TerminalOutcome :=
  match s.requests.lookup key with
  | none => none
  | some r =>
    match r.lifecycle.caller with
    | .opened => none
    | .terminal outcome => some outcome

end GenerationState

/-! ## Reading effects -/

namespace OwnerEffect

def publication : OwnerEffect → Option (RequestKey × TerminalOutcome)
  | .request key (.publish outcome) => some (key, outcome)
  | _ => none

def rollback : OwnerEffect → Option RequestKey
  | .reservationRolledBack key => some key
  | _ => none

def grant : OwnerEffect → Option (RequestKey × UInt16)
  | .creditGrantApplied key grant _ => some (key, grant)
  | _ => none

def wireCancel : OwnerEffect → Option RequestKey
  | .bestEffortWireCancel key => some key
  | _ => none

def plan : OwnerEffect → Option PreparationPlan
  | .admitted plan => some plan
  | _ => none

def overflow : OwnerEffect → Option RequestKey
  | .creditLedgerOverflow key _ _ => some key
  | _ => none

end OwnerEffect

variable (effects : List OwnerEffect)

def publications : List (RequestKey × TerminalOutcome) :=
  effects.filterMap OwnerEffect.publication

def rollbacks : List RequestKey :=
  effects.filterMap OwnerEffect.rollback

def grants : List (RequestKey × UInt16) :=
  effects.filterMap OwnerEffect.grant

def wireCancels : List RequestKey :=
  effects.filterMap OwnerEffect.wireCancel

def plans : List PreparationPlan :=
  effects.filterMap OwnerEffect.plan

def overflows : List RequestKey :=
  effects.filterMap OwnerEffect.overflow

/-! ## Runs -/

structure Setup where
  generation : GenerationId
  initialMessageId : ℕ
  initialCredits : ℕ
  targetCredits : ℕ
  limits : AdmissionLimits
  tombstoneDrainTimeout : Duration

namespace Setup

def start (c : Setup) : GenerationState :=
  .new c.generation c.initialMessageId c.initialCredits c.targetCredits c.limits
    c.tombstoneDrainTimeout

def run (c : Setup) (events : List OwnerEvent) : Run GenerationState OwnerEvent OwnerEffect :=
  .along GenerationState.reduce c.start events

end Setup

end Runtime
