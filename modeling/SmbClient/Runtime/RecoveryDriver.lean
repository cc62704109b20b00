import SmbClient.Runtime.Authority
import SmbClient.Runtime.Recovery
import SmbClient.Runtime.RecoveryQueue

/-!
# Reconnecting (`runtime/recovery_driver.rs`)

The coordinator and the admissions are behind one lock each and the close token is a flag, so calls
interleave between the sections that hold a lock: a call is the point it has reached, and one step
lets it run up to its next lock, `select!` or end. A sender of a wait stands for the call that holds
the receiver. Not in the source: `announced` (generations `publish` was called for), `replaced`
(connections made active) and `sent` (results sent to waits).
-/

namespace Runtime

inductive GenerationExitCause where
  | explicitClose
  | transport (error : RuntimeError)
  | handlesDropped

structure GenerationExit where
  generation : GenerationId
  cause : GenerationExitCause

inductive RecoveryError where
  | notRecoverable
  | closed
  | attemptsExhausted
  | staleGeneration
  | generationExhausted
  | mismatchedGeneration
  | queueFull
  | dependencyNotConnection
  | waitTimedOut
  | waitCancelled
  | waitFailed
deriving DecidableEq

/-! ## Calls in progress -/

inductive RecoverCall where
  /-- Before the coordinator is asked. -/
  | entering (generation next : GenerationId)
  /-- The loss has been reduced. -/
  | beginning (generation next : GenerationId) (effect : Option RecoveryEffect)
  /-- At the head of the attempt loop. -/
  | driving (next : GenerationId) (effect : Option RecoveryEffect)
  | waking (next : GenerationId)
  | retrying (next : GenerationId)
  | succeeded (connection : ObjectToken)
  | publishing (connection : ObjectToken)
  | finishing (connection : ObjectToken)
  | failing (error : RecoveryError)
  | returned (result : Except RecoveryError ObjectToken)
deriving DecidableEq

inductive WaitCall where
  | waiting (id : RecoveryWaitId) (deadline : MonotonicTime) (cancellable : Bool)
      (result : Option (Except RecoveryError ObjectToken))
  | removing (id : RecoveryWaitId) (error : RecoveryError)
  | returned (id : Option RecoveryWaitId) (result : Except RecoveryError ObjectToken)

def WaitCall.receive (result : Except RecoveryError ObjectToken) : WaitCall → WaitCall
  | .waiting id deadline cancellable none => .waiting id deadline cancellable (some result)
  | w => w

inductive CloseCall where
  | reducing
  | failing
  | returned
deriving DecidableEq

/-! ## The driver -/

structure RecoveryAdmissions where
  activeConnection : ObjectToken
  recovering : Bool
  queue : RecoveryQueue
  completions : Table RecoveryWaitId ℕ

structure RecoveryDriver where
  coordinator : RecoveryCoordinator
  admissions : RecoveryAdmissions
  defaultWait : Duration
  clock : MonotonicTime
  closed : Bool
  recoveries : List RecoverCall
  waiters : List WaitCall
  closings : List CloseCall
  announced : List GenerationId
  replaced : List ObjectToken
  sent : List (RecoveryWaitId × Except RecoveryError ObjectToken)

namespace RecoveryAdmissions

def beginRecovery (a : RecoveryAdmissions) (generation : GenerationId) :
    Except RecoveryError RecoveryAdmissions :=
  if a.activeConnection.generation ≠ generation ∨ a.recovering = true then .error .staleGeneration
  else .ok { a with recovering := true }

end RecoveryAdmissions

namespace RecoveryDriver

def new (connection : ObjectToken) (policy : RecoveryPolicy) : RecoveryDriver where
  coordinator := .new connection.generation policy
  admissions := ⟨connection, false, .new policy.maxWaitingOperations, ∅⟩
  defaultWait := policy.totalTimeout
  clock := 0
  closed := false
  recoveries := []
  waiters := []
  closings := []
  announced := []
  replaced := []
  sent := []

variable (s : RecoveryDriver)

def reduce (event : RecoveryEvent) : RecoveryDriver × Option RecoveryEffect :=
  let (coordinator, effect) := s.coordinator.reduce event
  ({ s with coordinator }, effect)

def setRecovery (call : ℕ) (c : RecoverCall) : RecoveryDriver :=
  { s with recoveries := s.recoveries.set call c }

def setWaiter (call : ℕ) (w : WaitCall) : RecoveryDriver :=
  { s with waiters := s.waiters.set call w }

/-! ## Waits -/

def completeWait (replacement : Option ObjectToken) (s : RecoveryDriver)
    (outcome : RecoveryWaitOutcome) : RecoveryDriver :=
  match s.admissions.completions.lookup outcome.id with
  | none => s
  | some call =>
    let result := match outcome, replacement with
      | .ready _, some replacement => .ok replacement
      | _, _ => .error .waitFailed
    { s with
      admissions := { s.admissions with completions := s.admissions.completions.erase outcome.id }
      waiters := s.waiters.modify call (WaitCall.receive result)
      sent := s.sent ++ [(outcome.id, result)] }

def completeWaits (outcomes : List RecoveryWaitOutcome) (replacement : Option ObjectToken) :
    RecoveryDriver :=
  outcomes.foldl (completeWait replacement) s

def finishRecovery (replacement : ObjectToken) : RecoveryDriver :=
  let previous := s.admissions.activeConnection
  let queue := s.admissions.queue.publishReplacement (.replacementPublished previous replacement)
  let (queue, outcomes) := queue.releaseDependency replacement
  completeWaits
    { s with
      admissions :=
        { s.admissions with activeConnection := replacement, recovering := false, queue }
      replaced := s.replaced ++ [replacement] }
    outcomes (some replacement)

def failWaiters : RecoveryDriver :=
  let (queue, outcomes) := s.admissions.queue.failAll
  completeWaits { s with admissions := { s.admissions with recovering := false, queue } }
    outcomes none

def removeWait (id : RecoveryWaitId) : RecoveryDriver :=
  { s with admissions := { s.admissions with
      queue := (s.admissions.queue.cancel id).1
      completions := s.admissions.completions.erase id } }

/-! ## `recover` -/

def recover (exit : GenerationExit) : RecoverCall :=
  match exit.cause with
  | .explicitClose | .handlesDropped => .returned (.error .notRecoverable)
  | .transport _ =>
    if s.closed then .returned (.error .closed)
    else match exit.generation.checkedNext with
    | none => .returned (.error .generationExhausted)
    | some next => .entering exit.generation next

/-- `attempt` is what the bootstrap has come to, if it has. -/
def driveAttempts (next : GenerationId) (effect : Option RecoveryEffect)
    (attempt : Option (Except RuntimeError ObjectToken)) : RecoverCall :=
  match effect with
  | some (.scheduleAttempt _ wakeAt) =>
    if s.closed then .failing .closed
    else if wakeAt ≤ s.clock then .waking next
    else .driving next effect
  | some (.startAttempt _ deadline) =>
    if s.closed then .failing .closed
    else if deadline ≤ s.clock then .retrying next
    else match attempt with
    | none => .driving next effect
    | some (.ok candidate) =>
      if candidate.generation = next then .succeeded candidate
      else .failing .mismatchedGeneration
    | some (.error .closed) => .failing .closed
    | some (.error _) => .retrying next
  | some .recoveryFailed => .failing .attemptsExhausted
  | some .closed | none | some (.publishGeneration _) => .failing .closed

def advanceRecover (call : ℕ) (jitter : Duration)
    (attempt : Option (Except RuntimeError ObjectToken)) : RecoveryDriver :=
  match s.recoveries[call]? with
  | none | some (.returned _) => s
  | some (.entering generation next) =>
    if s.coordinator.state ≠ .connected generation then
      s.setRecovery call (.returned (.error .staleGeneration))
    else
      let (s, effect) := s.reduce (.transportLost generation s.clock)
      s.setRecovery call (.beginning generation next effect)
  | some (.beginning generation next effect) =>
    match s.admissions.beginRecovery generation with
    | .error error => s.setRecovery call (.returned (.error error))
    | .ok admissions => { s with admissions }.setRecovery call (.driving next effect)
  | some (.driving next effect) => s.setRecovery call (s.driveAttempts next effect attempt)
  | some (.waking next) =>
    let (s, effect) := s.reduce (.wake s.clock)
    s.setRecovery call (.driving next effect)
  | some (.retrying next) =>
    let (s, effect) := s.reduce (.attemptFailed s.clock jitter)
    s.setRecovery call (.driving next effect)
  | some (.succeeded connection) =>
    let (s, effect) := s.reduce (.attemptSucceeded connection.generation)
    if effect = some (.publishGeneration connection.generation) then
      s.setRecovery call (.publishing connection)
    else s.setRecovery call (.failing .closed)
  | some (.publishing connection) =>
    { s with announced := s.announced ++ [connection.generation] }.setRecovery call
      (.finishing connection)
  | some (.finishing connection) =>
    (s.finishRecovery connection).setRecovery call (.returned (.ok connection))
  | some (.failing error) => s.failWaiters.setRecovery call (.returned (.error error))

/-! ## `resolve_dependency` -/

inductive WaitBranch where
  | completion
  | deadline
  | cancellation

def resolveDependency (dependency : ObjectToken) (deadline : Option MonotonicTime)
    (cancellable : Bool) : RecoveryDriver :=
  if s.admissions.recovering = false then
    { s with waiters := s.waiters ++ [.returned none (.ok dependency)] }
  else if dependency ≠ s.admissions.activeConnection then
    { s with waiters := s.waiters ++ [.returned none (.error .dependencyNotConnection)] }
  else
    let deadline := deadline.getD (s.clock.saturatingAdd s.defaultWait)
    match s.admissions.queue.enqueue dependency (some deadline) with
    | .error .full => { s with waiters := s.waiters ++ [.returned none (.error .queueFull)] }
    | .error .idExhausted =>
      { s with waiters := s.waiters ++ [.returned none (.error .waitFailed)] }
    | .ok (queue, id) =>
      { s with
        admissions := { s.admissions with
          queue
          completions := s.admissions.completions.insert id s.waiters.length }
        waiters := s.waiters ++ [.waiting id deadline cancellable none] }

def advanceWait (call : ℕ) (branch : WaitBranch) : RecoveryDriver :=
  match s.waiters[call]? with
  | none | some (.returned _ _) => s
  | some (.waiting id deadline cancellable result) =>
    match branch with
    | .completion =>
      match result with
      | some result => s.setWaiter call (.returned (some id) result)
      | none =>
        -- The sender is in the map, or it has been dropped.
        if s.admissions.completions.lookup id = some call then s
        else s.setWaiter call (.returned (some id) (.error .waitFailed))
    | .deadline =>
      if deadline ≤ s.clock then s.setWaiter call (.removing id .waitTimedOut) else s
    | .cancellation =>
      if cancellable then s.setWaiter call (.removing id .waitCancelled) else s
  | some (.removing id error) =>
    (s.removeWait id).setWaiter call (.returned (some id) (.error error))

/-! ## `close` and `abandon` -/

def close : RecoveryDriver := { s with closed := true, closings := s.closings ++ [.reducing] }

def advanceClose (call : ℕ) : RecoveryDriver :=
  match s.closings[call]? with
  | none | some .returned => s
  | some .reducing =>
    let (s, _) := s.reduce .close
    { s with closings := s.closings.set call .failing }
  | some .failing =>
    let s := s.failWaiters
    { s with closings := s.closings.set call .returned }

def abandon : RecoveryDriver := { s with closed := true }

end RecoveryDriver

/-! ## Interleavings -/

/-- One step: a call is made, a call in progress goes on, or time passes. -/
inductive DriverStep where
  | recover (exit : GenerationExit)
  | advanceRecover (call : ℕ) (jitter : Duration)
      (attempt : Option (Except RuntimeError ObjectToken))
  | resolveDependency (dependency : ObjectToken) (deadline : Option MonotonicTime)
      (cancellable : Bool)
  | advanceWait (call : ℕ) (branch : RecoveryDriver.WaitBranch)
  | close
  | advanceClose (call : ℕ)
  | abandon
  | elapse (duration : Duration)

namespace RecoveryDriver

def step (s : RecoveryDriver) : DriverStep → RecoveryDriver
  | .recover exit => { s with recoveries := s.recoveries ++ [s.recover exit] }
  | .advanceRecover call jitter attempt => s.advanceRecover call jitter attempt
  | .resolveDependency dependency deadline cancellable =>
    s.resolveDependency dependency deadline cancellable
  | .advanceWait call branch => s.advanceWait call branch
  | .close => s.close
  | .advanceClose call => s.advanceClose call
  | .abandon => s.abandon
  | .elapse duration => { s with clock := s.clock.saturatingAdd duration }

def run (connection : ObjectToken) (policy : RecoveryPolicy) (steps : List DriverStep) :
    RecoveryDriver :=
  steps.foldl step (new connection policy)

end RecoveryDriver

end Runtime
