import SmbClient.Error
import SmbClient.Lib.Machine

/-!
# One request (`runtime/reducer.rs`)

`reduce` is the only function that changes a record, `publishOnce` the only one that tells the
caller anything.
-/

namespace Runtime

/-- Identity of one physical connection generation. -/
structure GenerationId where
  value : ℕ
deriving DecidableEq

def GenerationId.checkedNext (generation : GenerationId) : Option GenerationId :=
  (Machine.checkedAdd 64 generation.value 1).map GenerationId.mk

/-- A message id together with its generation. -/
structure RequestKey where
  generation : GenerationId
  messageId : ℕ
deriving DecidableEq

inductive SendProgress where
  | notQueued
  | queued
  | partialBytes (bytes : ℕ)
  | complete
deriving DecidableEq

/-- Some byte of the frame is on the wire. -/
def SendProgress.committed : SendProgress → Bool
  | .partialBytes _ | .complete => true
  | .notQueued | .queued => false

inductive ResponseProgress where
  | none
  | asyncPending (asyncId : ℕ)
  | final
deriving DecidableEq

inductive TerminalOutcome where
  | response
  | sessionInvalidated
  | cancelled
  | timedOut
  | outcomeUnknown
  | networkOutcomeUnknown (failure : NetworkFailure)
  | preparationFailed
  | generationLost
  | generationClosed
deriving DecidableEq

inductive CallerOutcome where
  | opened
  | terminal (outcome : TerminalOutcome)
deriving DecidableEq

inductive RequestEvent where
  | queued
  | writeProgress (bytes : ℕ)
  | writeComplete
  | asyncPending (key : RequestKey) (asyncId : ℕ)
  | finalResponse (key : RequestKey)
  | recoveryHint (key : RequestKey)
  | cancel
  | deadline
  | disconnect (network : Option NetworkFailure)

inductive ReduceEffect where
  | none
  | publish (outcome : TerminalOutcome)
  | bookkeepingOnly
  | ignoredForeignGeneration
deriving DecidableEq

structure RequestRecord where
  key : RequestKey
  caller : CallerOutcome
  send : SendProgress
  response : ResponseProgress
  tombstone : Bool

namespace RequestRecord

def new (key : RequestKey) : RequestRecord :=
  { key, caller := .opened, send := .notQueued, response := .none, tombstone := false }

variable (r : RequestRecord)

def callerIsOpen : Bool := r.caller = .opened

def wireCommitted : Bool := r.send.committed

/-- A validated server response proves that the request reached the wire, even when the write
completion has not been reported yet. -/
def observeResponseCommitment : RequestRecord :=
  if r.send.committed then r else { r with send := .complete }

def publishOnce (outcome : TerminalOutcome) : RequestRecord × ReduceEffect :=
  if r.caller = .opened then ({ r with caller := .terminal outcome }, .publish outcome)
  else (r, .bookkeepingOnly)

def publishTerminal (outcome : TerminalOutcome) : RequestRecord × ReduceEffect :=
  r.publishOnce outcome

def finishWithoutResponse (uncommitted : TerminalOutcome) : RequestRecord × ReduceEffect :=
  if r.send.committed then
    let r : RequestRecord := { r with tombstone := decide (r.response ≠ .final) }
    if uncommitted = .timedOut then r.publishOnce (.networkOutcomeUnknown .timedOut)
    else r.publishOnce .outcomeUnknown
  else r.publishOnce uncommitted

def disconnectOutcome (committed : Bool) (network : Option NetworkFailure) : TerminalOutcome :=
  if committed then
    match network with
    | some failure => .networkOutcomeUnknown failure
    | none => .outcomeUnknown
  else
    match network with
    | some .connectionLost => .generationLost
    | some .timedOut => .timedOut
    | some .sessionInvalidated => .sessionInvalidated
    | none => .generationClosed

def reduce : RequestEvent → RequestRecord × ReduceEffect
  | .queued => (if r.send = .notQueued then { r with send := .queued } else r, .none)
  | .writeProgress bytes =>
    if 0 < bytes ∧ r.send ≠ .complete then
      let previous := match r.send with
        | .partialBytes bytes => bytes
        | _ => 0
      ({ r with send := .partialBytes (Machine.saturatingAdd 64 previous bytes) }, .none)
    else (r, .none)
  | .writeComplete => ({ r with send := .complete }, .none)
  | .asyncPending key asyncId =>
    if key.generation ≠ r.key.generation then (r, .ignoredForeignGeneration)
    else if key ≠ r.key ∨ r.response = .final then (r, .bookkeepingOnly)
    else ({ r with response := .asyncPending asyncId }, .bookkeepingOnly)
  | .finalResponse key =>
    if key.generation ≠ r.key.generation then (r, .ignoredForeignGeneration)
    else if key ≠ r.key then (r, .bookkeepingOnly)
    else { r with response := .final, tombstone := false }.publishOnce .response
  | .recoveryHint key =>
    if key.generation ≠ r.key.generation then (r, .ignoredForeignGeneration)
    else if key ≠ r.key then (r, .bookkeepingOnly)
    else { r with tombstone := false }.publishOnce .sessionInvalidated
  | .cancel => r.finishWithoutResponse .cancelled
  | .deadline => r.finishWithoutResponse .timedOut
  | .disconnect network =>
    { r with tombstone := false }.publishOnce (disconnectOutcome r.send.committed network)

end RequestRecord

end Runtime
