import SmbClient.Runtime.Authority
import SmbClient.Runtime.PreparationOrder
import SmbClient.Transport.Frame

/-!
# The owner task (`runtime/engine.rs`, second part)

One task owns a connection generation: `OwnerTask` holds the local variables of its loop and `step`
performs one piece of work. What the transport, the pipeline and the clock answer comes with the
input. Not in the source: `handed` (requests some byte of which was handed to the transport),
`exited` and `panicked`.
-/

namespace Runtime

open Msg

export Transport (SendFrame TransportError)

/-! ## Transport errors -/

def NetworkFailure.fromIoKind : IoErrorKind → Option NetworkFailure
  | .timedOut => some .timedOut
  | .brokenPipe | .connectionReset | .connectionAborted | .unexpectedEof | .notConnected
  | .connectionRefused => some .connectionLost
  | .writeZero | .other => none

def NetworkFailure.fromTransport : TransportError → Option NetworkFailure
  | .ioError kind => NetworkFailure.fromIoKind kind
  | .timeout => some .timedOut
  | .notConnected | .writeZero => some .connectionLost
  | _ => none

def transportErrorCode : TransportError → String
  | .alreadyConnected => "already-connected"
  | .invalidMessage => "invalid-message"
  | .frameTooLarge .. => "frame-too-large"
  | .segmentLimitExceeded .. => "segment-limit"
  | .cursorAdvanceOutOfBounds .. => "cursor-bounds"
  | .writeZero => "write-zero"
  | .parseError => "parse"
  | .notConnected => "not-connected"
  | .alreadySplit => "already-split"
  | .timeout => "timeout"
  | .invalidAddress => "invalid-address"
  | .ioError _ => "io"

def RuntimeError.ofTransport (error : TransportError) : RuntimeError :=
  match NetworkFailure.fromTransport error with
  | some failure => .network failure
  | none => .transport (transportErrorCode error)

/-! ## Commands -/

structure AdmissionCommand where
  frame : SendFrame
  payloadBytes : ℕ
  creditCharge : UInt16
  deadline : Option MonotonicTime
  number : ℕ

structure OperationAdmission where
  operation : TypedOperation
  deadline : Option MonotonicTime
  submission : Submission
deriving DecidableEq

structure CompoundAdmission where
  operations : List TypedOperation
  deadline : Option MonotonicTime
  number : ℕ

/-- The answers of the wire pipeline to a policy command are `accepted`. -/
inductive ControlCommand where
  | createObject (parent : ObjectToken) (kind : ObjectKind)
  | loseObjectGeneration
  | beginObjectRecovery (object : ObjectToken)
  | publishObjectReplacement (object : ObjectToken)
  | failObjectRecovery (object : ObjectToken)
  | installNotifications
  | preauthSnapshot (accepted : Bool)
  | resetPreauthToNegotiate (accepted : Bool)
  | awaitOperation (key : RequestKey)
  | negotiated (largeMtu accepted : Bool)
  | sessionStarted (accepted : Bool)
  | sessionEnded (accepted : Bool)
  | cancel (key : RequestKey) (now : MonotonicTime)
  | close (deadline : MonotonicTime)

/-! ## The local variables of the loop -/

structure WriteCommand where
  key : RequestKey
  members : List RequestKey
  frame : SendFrame
  cancelBeforeWrite : CancellationToken

/-- Behind the point `uninterruptible` of `write_step` the future only awaits the send. -/
structure ActiveWrite where
  command : WriteCommand
  progressed : ℕ
  reported : ℕ
  uninterruptible : Bool

/-- A request being sealed concurrently. -/
structure Preparation where
  key : RequestKey
  retainRaw : Bool
  acknowledge : Submission

/-- A sealed request; `none` if the pipeline refused it. -/
structure PreparedOperation where
  key : RequestKey
  result : Option SendFrame
  retainRaw : Bool
  acknowledge : Submission

structure InboundPreparation where
  sequence : ℕ
  bytes : ℕ
  decode : Bool

/-- A decoded frame; `none` if the pipeline refused it. -/
structure PreparedInbound where
  sequence : ℕ
  bytes : ℕ
  result : Option (List (CommandResponse × Bool))

structure RuntimeConfig where
  generation : GenerationId
  initialMessageId : ℕ
  initialCredits : ℕ
  targetCredits : ℕ
  admissionLimits : AdmissionLimits
  tombstoneDrainTimeout : Duration
  ioCapacity : ℕ
  emitEvents : Bool
  decodeUnsolicited : Bool
  preparationParallelism : ℕ

structure OwnerTask where
  config : RuntimeConfig
  authority : RequestAuthority
  -- The write transport is in hand, not lent to the active write.
  write : Bool
  activeWrite : Option ActiveWrite
  sendQueue : List WriteCommand
  receivedFrames : List ℕ
  preparations : List Preparation
  preparationOrder : OrderedCompletionQueue RequestKey PreparedOperation
  inboundPreparations : List InboundPreparation
  inboundOrder : OrderedCompletionQueue ℕ PreparedInbound
  nextInboundSequence : ℕ
  waitingOperation : Option OperationAdmission
  waitingCompound : Option CompoundAdmission
  closeRequest : Option MonotonicTime
  shutdownReason : Option RuntimeError
  handed : List RequestKey
  exited : Bool
  panicked : Bool

namespace OwnerTask

def start (config : RuntimeConfig) : OwnerTask where
  config
  authority :=
    { state := .new config.generation config.initialMessageId config.initialCredits 1
        config.admissionLimits config.tombstoneDrainTimeout
      objects := .new config.generation
      terminals := ∅
      operationPending := ∅
      earlyResponses := ∅
      frameMembers := ∅
      frameCancellations := ∅
      preparationCancellations := ∅
      deferredCancellations := ∅
      notifications := false
      largeMtu := false
      targetCredits := config.targetCredits
      fatal := none
      fed := []
      outbox := []
      awaits := []
      cancelled := [] }
  write := true
  activeWrite := none
  sendQueue := []
  receivedFrames := []
  preparations := []
  preparationOrder := .empty
  inboundPreparations := []
  inboundOrder := .empty
  nextInboundSequence := 0
  waitingOperation := none
  waitingCompound := none
  closeRequest := none
  shutdownReason := none
  handed := []
  exited := false
  panicked := false

variable (s : OwnerTask)

def onAuthority (f : RequestAuthority → RequestAuthority) : OwnerTask :=
  { s with authority := f s.authority }

/-- The first published reason owns the teardown. -/
def publishShutdownReason : OwnerTask :=
  { s with shutdownReason := some (s.shutdownReason.getD
      (if s.closeRequest.isSome then .closed else s.authority.fatal.getD .closed)) }

def publishIfFatal : OwnerTask :=
  if s.authority.fatal.isSome then s.publishShutdownReason else s

def leaving : Bool := s.closeRequest.isSome || s.authority.fatal.isSome

end OwnerTask

/-! ## Admission -/

def WriteCommand.new (key : RequestKey) (members : List RequestKey) (frame : SendFrame) :
    WriteCommand :=
  { key, members, frame, cancelBeforeWrite := .frame key }

inductive OutgoingTransform where
  | inline (frame : Option SendFrame)
  | concurrent

namespace RequestAuthority

variable (a : RequestAuthority)

def admitOne (payloadBytes : ℕ) (creditCharge : UInt16)
    (deadline : Option MonotonicTime) : RequestAuthority × Except RuntimeError PreparationPlan :=
  let (a, effects) := a.feed (.admitRequest payloadBytes creditCharge deadline)
  match effects.head? with
  | some (.admitted plan) => (a, .ok plan)
  | some (.admissionRejected error) => (a, .error (.admission error))
  | _ => (a, .error .ownerTerminated)

/-- The error goes to whoever waits for the result, and to the submitter. -/
def refuse (submission : Submission) (error : RuntimeError) : RequestAuthority :=
  let a := match submission.terminal with
    | some waiter => a.deliver (.completed waiter (.error error))
    | none => a
  a.deliver (.acknowledged submission (.error error))

def refuseRaw (command : AdmissionCommand) (error : RuntimeError) : RequestAuthority :=
  (a.deliver (.completedRaw command.number (.error error))).deliver
    (.acknowledgedRaw command.number (.error error))

/-- Why the object an operation depends on is not active. -/
def dependencyError (operation : TypedOperation) : Option ObjectError :=
  match operation.dependency with
  | none => none
  | some dependency =>
    match a.objects.validateActive dependency with
    | .ok _ => none
    | .error error => some error

/-- The credits a compound needs; `none` if a charge is too large or the sum overflows. -/
def requiredCredits (operations : List TypedOperation) : Option ℕ :=
  operations.foldlM (fun total operation =>
    match operation.creditCharge a.largeMtu with
    | .error _ => none
    | .ok charge => Machine.checkedAdd 32 total charge.toNat) 0

structure Member where
  key : RequestKey
  response : ResponsePolicy
  replay : ReplayPolicy

/-- Earlier members of a compound that cannot be sent. -/
def abandon (admitted : List Member) : RequestAuthority :=
  admitted.foldl (fun a member => (a.feed (.prepareFailed member.key)).1) a

/-- The first member that is refused takes the earlier ones with it. -/
def admitMembers (deadline : Option MonotonicTime) :
    List TypedOperation → List Member → RequestAuthority →
      RequestAuthority × Except RuntimeError (List Member)
  | [], admitted, a => (a, .ok admitted)
  | operation :: operations, admitted, a =>
    match operation.creditCharge a.largeMtu with
    | .error _ => (a.abandon admitted, .error (.wire "credit-charge"))
    | .ok charge =>
      match a.admitOne operation.payloadBytes charge deadline with
      | (a, .error error) => (a.abandon admitted, .error error)
      | (a, .ok plan) =>
        admitMembers deadline operations
          (admitted ++ [⟨plan.key, operation.response, operation.replay⟩]) a

def registerMember (member : Member) : RequestAuthority :=
  (a.putPending member.key (.new member.response member.replay none none)).takeEarlyResponse
    member.key

end RequestAuthority

namespace OwnerTask

variable (s : OwnerTask)

def processAdmission (command : AdmissionCommand) : OwnerTask :=
  match s.authority.admitOne command.payloadBytes command.creditCharge command.deadline with
  | (a, .ok plan) =>
    let a := { a with terminals := a.terminals.insert plan.key command.number }
    { s with
      authority := a.deliver (.acknowledgedRaw command.number (.ok plan.key))
      sendQueue := s.sendQueue ++ [.new plan.key [plan.key] command.frame] }
  | (a, .error error) =>
    { s with authority := a.refuseRaw command error }

def requestRaw (retainRaw : Bool) (frame : SendFrame) : Option Octets :=
  if retainRaw then frame.segments.head? else none

/-- A command that lacks credits is parked, without its deadline. -/
def processOperationAdmission (command : OperationAdmission)
    (wire : OutgoingTransform) : OwnerTask :=
  let operation := command.operation
  let refuse (a : RequestAuthority) (error : RuntimeError) : OwnerTask :=
    { s with authority := a.refuse command.submission error }
  match s.authority.dependencyError operation with
  | some error => refuse s.authority (.object error)
  | none =>
    if s.authority.operationLimit ≤ s.authority.operationPending.entries.length then
      refuse s.authority (.admission .operationsExhausted)
    else match operation.creditCharge s.authority.largeMtu with
    | .error _ => refuse s.authority (.wire "credit-charge")
    | .ok charge =>
      if s.authority.state.availableCredits < charge.toNat then
        { s with waitingOperation := some command }
      else match s.authority.admitOne operation.payloadBytes charge command.deadline with
      | (a, .error error) => refuse a error
      | (a, .ok plan) =>
        let key := plan.key
        let register (requestRaw : Option Octets) : RequestAuthority :=
          a.putPending key
            (.new operation.response operation.replay requestRaw command.submission.terminal)
        match wire with
        | .inline none => refuse (a.feed (.prepareFailed key)).1 (.wire "prepare-outgoing")
        | .inline (some frame) =>
          let requestRaw := requestRaw operation.outgoing.returnRawData frame
          let a := (register requestRaw).deliver
            (.acknowledged command.submission (.ok { key, requestRaw }))
          { s with
            authority := a.takeEarlyResponse key
            sendQueue := s.sendQueue ++ [.new key [key] frame] }
        | .concurrent =>
          let a := register none
          let tokens := a.preparationCancellations.insert key (.preparation key)
          { s with
            authority := { a with preparationCancellations := tokens }
            preparationOrder := s.preparationOrder.reserve key
            preparations := s.preparations ++
              [⟨key, operation.outgoing.returnRawData, command.submission⟩] }

def finishPreparedOperation (prepared : PreparedOperation) : OwnerTask :=
  let key := prepared.key
  let a := { s.authority with
    preparationCancellations := s.authority.preparationCancellations.erase key }
  let gone (outcome : TerminalOutcome) : OwnerTask :=
    { s with
      authority := (a.dropPending key).deliver
        (.acknowledged prepared.acknowledge (.error (.terminal outcome))) }
  match a.state.request key with
  | none => gone .timedOut
  | some record =>
    match record.caller with
    | .terminal outcome => gone outcome
    | .opened =>
      match prepared.result with
      | none =>
        let a := (a.feed (.prepareFailed key)).1
        let a := match a.operationPending.lookup key with
          | none => a
          | some pending =>
            let a := a.dropPending key
            match pending.terminal with
            | some waiter => a.deliver (.completed waiter (.error (.wire "prepare-outgoing")))
            | none => a
        { s with authority :=
            a.deliver (.acknowledged prepared.acknowledge (.error (.wire "prepare-outgoing"))) }
      | some frame =>
        match a.operationPending.lookup key with
        | none =>
          let error := RuntimeError.wire "prepared-operation-missing"
          { s with authority :=
              (a.deliver (.acknowledged prepared.acknowledge (.error error))).fail error }
        | some pending =>
          let requestRaw := requestRaw prepared.retainRaw frame
          let a := (a.putPending key { pending with requestRaw }).deliver
            (.acknowledged prepared.acknowledge (.ok { key, requestRaw }))
          { s with
            authority := a.takeEarlyResponse key
            sendQueue := s.sendQueue ++ [.new key [key] frame] }

def processCompoundAdmission (command : CompoundAdmission) (wire : Option SendFrame) : OwnerTask :=
  let refuse (a : RequestAuthority) (error : RuntimeError) : OwnerTask :=
    { s with authority := a.deliver (.acknowledgedCompound command.number (.error error)) }
  if command.operations.isEmpty then refuse s.authority (.wire "empty-compound")
  else match command.operations.findSome? s.authority.dependencyError with
  | some error => refuse s.authority (.object error)
  | none =>
    if s.authority.operationLimit <
        s.authority.operationPending.entries.length + command.operations.length then
      refuse s.authority (.admission .operationsExhausted)
    else match s.authority.requiredCredits command.operations with
    | none => refuse s.authority (.wire "credit-charge")
    | some required =>
      if s.authority.state.availableCredits < required then
        { s with waitingCompound := some command }
      else match s.authority.admitMembers command.deadline command.operations [] with
      | (a, .error error) => refuse a error
      | (a, .ok admitted) =>
        match wire, admitted.map (·.key) with
        | some frame, leader :: others =>
          let a := (admitted.foldl RequestAuthority.registerMember a).deliver
            (.acknowledgedCompound command.number
              (.ok ((leader :: others).map fun key => { key, requestRaw := none })))
          { s with
            authority := a
            sendQueue := s.sendQueue ++ [.new leader (leader :: others) frame] }
        | _, _ => refuse (a.abandon admitted) (.wire "prepare-compound")

end OwnerTask

end Runtime
