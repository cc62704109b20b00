import SmbClient.Runtime.Operation
import SmbClient.Runtime.State

/-!
# The owner's request tables (`runtime/engine.rs`, first part)

`RequestAuthority` is what the owner task keeps about requests beside the `GenerationState`: who
waits for which result, early responses, the frame being written. Not in the source are the log
`fed` of what the reducer was given, `outbox` of what was sent to callers, `awaits` and `cancelled`;
`fatal` is a local variable there.
-/

namespace Runtime

open Msg

/-! ## Errors -/

inductive RuntimeError where
  | closed
  | ownerTerminated
  | admissionBackpressure
  | controlBackpressure
  | admission (error : AdmissionError)
  | transport (code : String)
  | network (failure : NetworkFailure)
  | eventBackpressure
  | wire (stage : String)
  | terminal (outcome : TerminalOutcome)
  | unknownRequest (key : RequestKey)
  | alreadyAwaited (key : RequestKey)
  | object (error : ObjectError)
deriving DecidableEq

/-! ## Callers -/

/-- A detached submission does not wait for its result, which is fetched with `AwaitOperation`. -/
structure Submission where
  number : ℕ
  detached : Bool
deriving DecidableEq

inductive Waiter where
  | ticket (number : ℕ)
  | awaiting (key : RequestKey) (index : ℕ)
  | stranger (key : RequestKey)
deriving DecidableEq

def Submission.terminal (s : Submission) : Option Waiter :=
  if s.detached then none else some (.ticket s.number)

inductive ControlReply where
  | object (token : ObjectToken)
  | revoked (count : ℕ)
  | done

inductive Delivery where
  | acknowledged (submission : Submission) (result : Except RuntimeError OperationSubmission)
  | acknowledgedCompound (number : ℕ) (result : Except RuntimeError (List OperationSubmission))
  | acknowledgedRaw (number : ℕ) (result : Except RuntimeError RequestKey)
  | completed (waiter : Waiter) (result : Except RuntimeError OperationResult)
  | completedRaw (number : ℕ) (result : Except RuntimeError TerminalOutcome)
  | replied (result : Except RuntimeError ControlReply)

/-- A `CancellationToken` is named after what it cancels. -/
inductive CancellationToken where
  | preparation (key : RequestKey)
  | frame (key : RequestKey)
deriving DecidableEq

/-! ## The tables -/

structure OperationPending where
  response : ResponsePolicy
  replay : ReplayPolicy
  requestRaw : Option Octets
  terminal : Option Waiter
  buffered : Option (Except RuntimeError OperationResult)
  draining : Bool
  callerCompleted : Bool

def OperationPending.new (response : ResponsePolicy) (replay : ReplayPolicy)
    (requestRaw : Option Octets) (terminal : Option Waiter) : OperationPending :=
  { response, replay, requestRaw, terminal
    buffered := none, draining := false, callerCompleted := false }

def OperationPending.takeRaw (entry : OperationPending) :
    Except RuntimeError OperationResult → OperationPending × Except RuntimeError OperationResult
  | .ok completed =>
    if completed.requestRaw.isNone then
      ({ entry with requestRaw := none }, .ok { completed with requestRaw := entry.requestRaw })
    else (entry, .ok completed)
  | .error error => (entry, .error error)

structure RequestAuthority where
  state : GenerationState
  objects : ObjectRegistry
  terminals : Table RequestKey ℕ
  operationPending : Table RequestKey OperationPending
  earlyResponses : Table RequestKey CommandResponse
  frameMembers : Table RequestKey (List RequestKey)
  frameCancellations : Table RequestKey CancellationToken
  preparationCancellations : Table RequestKey CancellationToken
  deferredCancellations : Table RequestKey MonotonicTime
  notifications : Bool
  largeMtu : Bool
  targetCredits : ℕ
  fatal : Option RuntimeError
  fed : List (OwnerEvent × List OwnerEffect)
  outbox : List Delivery
  awaits : List RequestKey
  cancelled : List CancellationToken

namespace RequestAuthority

variable (a : RequestAuthority)

def feed (event : OwnerEvent) : RequestAuthority × List OwnerEffect :=
  let (state, effects) := a.state.reduce event
  ({ a with state, fed := a.fed ++ [(event, effects)] }, effects)

def deliver (delivery : Delivery) : RequestAuthority :=
  { a with outbox := a.outbox ++ [delivery] }

def cancelToken (token : CancellationToken) : RequestAuthority :=
  { a with cancelled := token :: a.cancelled }

/-- `if let Some(token) { token.cancel() }`. -/
def cancelSome : Option CancellationToken → RequestAuthority
  | some token => a.cancelToken token
  | none => a

def fail (error : RuntimeError) : RequestAuthority :=
  { a with fatal := some error }

def failFirst (error : RuntimeError) : RequestAuthority :=
  { a with fatal := some (a.fatal.getD error) }

variable (key : RequestKey)

def putPending (entry : OperationPending) : RequestAuthority :=
  { a with operationPending := a.operationPending.insert key entry }

def dropPending : RequestAuthority :=
  { a with operationPending := a.operationPending.erase key }

def operationLimit : ℕ := a.state.limits.maxOperations

/-! ## Carrying out effects -/

def completeOperation
    (result : Except RuntimeError OperationResult) : RequestAuthority :=
  match a.operationPending.lookup key with
  | none => a
  | some entry =>
    let (entry, result) := entry.takeRaw result
    match entry.terminal with
    | some waiter => (a.dropPending key).deliver (.completed waiter result)
    | none => a.putPending key { entry with buffered := some result }

def cancelRolledBackPreparation : RequestAuthority :=
  match a.preparationCancellations.lookup key with
  | none => a
  | some token =>
    { a with preparationCancellations := a.preparationCancellations.erase key }.cancelToken token

def markDraining : RequestAuthority :=
  match a.operationPending.lookup key with
  | none => a
  | some entry => a.putPending key { entry with draining := true, requestRaw := none }

variable (publication : RequestKey × TerminalOutcome)

/-- A draining entry stays to receive the late answer. -/
def publishOperation : RequestAuthority :=
  let (key, outcome) := publication
  if outcome = .response then a
  else match a.operationPending.lookup key with
  | none => a
  | some entry =>
    if entry.draining then
      match entry.terminal with
      | some waiter =>
        (a.putPending key { entry with terminal := none, callerCompleted := true }).deliver
          (.completed waiter (.error (.terminal outcome)))
      | none => a.putPending key { entry with buffered := some (.error (.terminal outcome)) }
    else a.completeOperation key (.error (.terminal outcome))

def applyOperationEffects (effects : List OwnerEffect) : RequestAuthority :=
  let a := (rollbacks effects).foldl cancelRolledBackPreparation a
  let a := (wireCancels effects).foldl markDraining a
  (publications effects).foldl publishOperation a

def publishRaw : RequestAuthority :=
  let (key, outcome) := publication
  match a.terminals.lookup key with
  | none => a
  | some number =>
    { a with terminals := a.terminals.erase key }.deliver (.completedRaw number (.ok outcome))

def applyOwnerEffects (effects : List OwnerEffect) : RequestAuthority :=
  (publications effects).foldl publishRaw a

def settle (event : OwnerEvent) : RequestAuthority :=
  let (a, effects) := a.feed event
  (a.applyOperationEffects effects).applyOwnerEffects effects

/-! ## Responses -/

def responseStatusIsAdmissible (policy : ResponsePolicy) (status : Option Status)
    (isServerError : Bool) : Bool :=
  policy.acceptsWireStatus status || isServerError

variable (message : CommandResponse)

def acceptFinalResponse : RequestAuthority :=
  let (a, effects) := a.feed (.response key .final message.creditRequest)
  let publishesResponse := decide (.request key (.publish .response) ∈ effects)
  let a := a.applyOwnerEffects effects
  if publishesResponse then
    a.completeOperation key (.ok { key, response := message, requestRaw := none })
  else match a.operationPending.lookup key with
  | none => a
  | some entry =>
    if entry.draining then a.dropPending key else a

def processDecodedResponse : RequestAuthority :=
  let key : RequestKey := ⟨a.state.generation, message.messageId⟩
  let status := Status.tryFrom message.status
  match a.operationPending.lookup key with
  | none => a.fail (.wire "response-without-operation")
  | some pending =>
    if status = some .pending then
      match message.asyncId with
      | none => a.fail (.wire "pending-without-async-id")
      | some asyncId => (a.feed (.response key (.pending asyncId) message.creditRequest)).1
    else
      let sessionInvalidated :=
        decide (status = some .userSessionDeleted ∨ status = some .networkSessionExpired)
      if message.unauthenticatedRecoveryHint ∧ ¬ sessionInvalidated then
        a.fail (.wire "invalid-recovery-hint")
      else if message.unauthenticatedRecoveryHint then
        let (a, effects) := a.feed (.recoveryHint key)
        (a.applyOwnerEffects effects).completeOperation key
          (.error (.terminal .sessionInvalidated))
      else
        -- A draining operation has no caller left to hold the server to a status contract.
        let responseIsAccepted := pending.draining ||
          responseStatusIsAdmissible pending.response status message.isError
        if message.command ≠ pending.response.command ∨
            (¬ sessionInvalidated ∧ ¬ responseIsAccepted) then
          a.fail (.wire "operation-response-contract")
        else a.acceptFinalResponse key message

/-- `laneFull` says that the notification lane has no room. -/
def routeMessage (laneFull : Bool) : RequestAuthority :=
  let key : RequestKey := ⟨a.state.generation, message.messageId⟩
  if (a.operationPending.lookup key).isSome then a.processDecodedResponse message
  else if key.messageId = Machine.maxValue 64 then
    if a.notifications ∧ laneFull then a.failFirst .eventBackpressure else a
  else if a.operationLimit ≤ a.earlyResponses.entries.length then
    a.fail (.wire "early-response-overflow-or-duplicate")
  else
    let replaced := (a.earlyResponses.lookup key).isSome
    let a := { a with earlyResponses := a.earlyResponses.insert key message }
    if replaced then a.fail (.wire "early-response-overflow-or-duplicate") else a

def takeEarlyResponse : RequestAuthority :=
  match a.earlyResponses.lookup key with
  | none => a
  | some message =>
    { a with earlyResponses := a.earlyResponses.erase key }.processDecodedResponse message

/-! ## Waiting for a result -/

def nextWaiter : Waiter :=
  if (a.state.requests.lookup key).isSome then .awaiting key (a.awaits.count key) else .stranger key

def countAwait : RequestAuthority :=
  if (a.state.requests.lookup key).isSome then { a with awaits := a.awaits ++ [key] } else a

def awaitOperation : RequestAuthority :=
  let waiter := a.nextWaiter key
  let a := a.countAwait key
  match a.operationPending.lookup key with
  | none => a.deliver (.completed waiter (.error (.unknownRequest key)))
  | some pending =>
    match pending.buffered with
    | some result =>
      let a := if pending.draining then
          a.putPending key { pending with buffered := none, callerCompleted := true }
        else a.dropPending key
      a.deliver (.completed waiter result)
    | none =>
      if pending.terminal.isSome ∨ pending.callerCompleted then
        a.deliver (.completed waiter (.error (.alreadyAwaited key)))
      else a.putPending key { pending with terminal := some waiter }

end RequestAuthority

end Runtime
