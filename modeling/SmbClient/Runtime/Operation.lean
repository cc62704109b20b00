import SmbClient.Lib.Octets
import SmbClient.Msg.Header
import SmbClient.Runtime.ObjectState

/-!
# Typed operations (`runtime/operation.rs`)
-/

namespace Runtime

open Msg

/-- The policy of the runtime, which `runtime_replay` makes of the caller's. -/
inductive ReplayPolicy where
  | neverReplay
  | replayIfUncommitted
  | idempotentReplay
  | durableReconnectOnly
deriving DecidableEq

inductive OperationContractError where
  | commandMismatch (expected actual : Command)
  | unexpectedStatus (command : Command) (status : Status)
  | emptyStatusPolicy (command : Command)
  | creditChargeOverflow (command : Command)
deriving DecidableEq

inductive AcceptedStatuses where
  | any
  | oneOf (statuses : List Status)
deriving DecidableEq

structure ResponsePolicy where
  command : Command
  statuses : AcceptedStatuses
deriving DecidableEq

namespace ResponsePolicy

def any (command : Command) : ResponsePolicy := { command, statuses := .any }

/-- Whether a response with `status` is accepted; `none` is a code without a name. -/
def acceptsWireStatus (policy : ResponsePolicy) (status : Option Status) : Bool :=
  match policy.statuses, status with
  | .any, _ => true
  | .oneOf statuses, some status => decide (status ∈ statuses)
  | .oneOf _, none => false

end ResponsePolicy

/-- The parts of an outgoing request the owner reads. -/
structure CommandRequest where
  command : Command
  -- The length of the additional data, if there is any.
  additionalData : Option ℕ
  reqPayloadSize : UInt32
  expectedRespSize : UInt32
  returnRawData : Bool
deriving DecidableEq

structure CommandResponse where
  messageId : ℕ
  status : UInt32
  command : Command
  asyncId : Option ℕ
  creditRequest : UInt16
  isError : Bool
  unauthenticatedRecoveryHint : Bool
deriving DecidableEq

structure TypedOperation where
  response : ResponsePolicy
  outgoing : CommandRequest
  dependency : Option ObjectToken
  replay : ReplayPolicy
  sealed : outgoing.command = response.command
deriving DecidableEq

namespace TypedOperation

def anyStatus (outgoing : CommandRequest) : TypedOperation :=
  { response := .any outgoing.command
    outgoing
    dependency := none
    replay := .neverReplay
    sealed := rfl }

def payloadBytes (o : TypedOperation) : ℕ := o.outgoing.additionalData.getD 0

def sized : Command → Bool
  | .read | .write | .ioctl | .queryDirectory => true
  | _ => false

def creditCharge (o : TypedOperation) (largeMtu : Bool) : Except OperationContractError UInt16 :=
  if ¬ largeMtu then .ok 1
  else if ¬ sized o.response.command then .ok 1
  else
    let size := max o.outgoing.reqPayloadSize.toNat o.outgoing.expectedRespSize.toNat
    let units := 1 + (size - 1) / 65536
    if units ≤ Machine.maxValue 16 then .ok (.ofNat units)
    else .error (.creditChargeOverflow o.response.command)

end TypedOperation

structure OperationResult where
  key : RequestKey
  response : CommandResponse
  requestRaw : Option Octets
deriving DecidableEq

structure OperationSubmission where
  key : RequestKey
  requestRaw : Option Octets

end Runtime
