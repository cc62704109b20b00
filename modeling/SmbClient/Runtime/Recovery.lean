import SmbClient.Runtime.State

/-!
# When to reconnect (`runtime/recovery.rs`)

The coordinator decides when an attempt starts, when attempts are given up and which generation is
published.
-/

namespace Runtime

def Duration.maximum : Duration := 2 ^ 64 * 10 ^ 9 - 1

def Duration.saturatingMul (d : Duration) (n : ℕ) : Duration := min (d * n) Duration.maximum

structure RecoveryPolicy where
  maxAttempts : ℕ
  attemptTimeout : Duration
  totalTimeout : Duration
  initialBackoff : Duration
  maximumBackoff : Duration
  maximumJitter : Duration
  maxWaitingOperations : ℕ

namespace RecoveryPolicy

def backoff (policy : RecoveryPolicy) (failedAttempt : ℕ) : Duration :=
  if failedAttempt = 0 then 0
  else
    let shift := min (failedAttempt - 1) 31
    min (Duration.saturatingMul policy.initialBackoff (2 ^ shift)) policy.maximumBackoff

end RecoveryPolicy

inductive RecoveryState where
  | connected (generation : GenerationId)
  | waiting (attempt : ℕ) (wakeAt totalDeadline : MonotonicTime)
  | connecting (attempt : ℕ) (attemptDeadline totalDeadline : MonotonicTime)
  | failed
  | closed
deriving DecidableEq

def RecoveryState.terminal : RecoveryState → Bool
  | .failed | .closed => true
  | .connected _ | .waiting _ _ _ | .connecting _ _ _ => false

inductive RecoveryEvent where
  | transportLost (generation : GenerationId) (now : MonotonicTime)
  | wake (now : MonotonicTime)
  | attemptSucceeded (generation : GenerationId)
  | attemptFailed (now : MonotonicTime) (jitter : Duration)
  | close

inductive RecoveryEffect where
  | scheduleAttempt (attempt : ℕ) (wakeAt : MonotonicTime)
  | startAttempt (attempt : ℕ) (deadline : MonotonicTime)
  | publishGeneration (generation : GenerationId)
  | recoveryFailed
  | closed
deriving DecidableEq

structure RecoveryCoordinator where
  policy : RecoveryPolicy
  state : RecoveryState

namespace RecoveryCoordinator

def new (generation : GenerationId) (policy : RecoveryPolicy) : RecoveryCoordinator :=
  ⟨policy, .connected generation⟩

variable (c : RecoveryCoordinator)

def schedule (attempt : ℕ) (now totalDeadline : MonotonicTime) :
    RecoveryCoordinator × Option RecoveryEffect :=
  let wakeAt := min (now.saturatingAdd (c.policy.backoff (attempt - 1))) totalDeadline
  ({ c with state := .waiting attempt wakeAt totalDeadline },
    some (.scheduleAttempt attempt wakeAt))

def fail : RecoveryCoordinator × Option RecoveryEffect :=
  ({ c with state := .failed }, some .recoveryFailed)

def reduce (event : RecoveryEvent) : RecoveryCoordinator × Option RecoveryEffect :=
  match c.state, event with
  | .closed, _ | .failed, _ => (c, none)
  | _, .close => ({ c with state := .closed }, some .closed)
  | .connected active, .transportLost generation now =>
    if active = generation then
      if c.policy.maxAttempts = 0 then ({ c with state := .failed }, some .recoveryFailed)
      else c.schedule 1 now (now.saturatingAdd c.policy.totalTimeout)
    else (c, none)
  | .waiting attempt wakeAt totalDeadline, .wake now =>
    if now ≥ wakeAt then
      if now ≥ totalDeadline then c.fail
      else
        let deadline := min (now.saturatingAdd c.policy.attemptTimeout) totalDeadline
        ({ c with state := .connecting attempt deadline totalDeadline },
         some (.startAttempt attempt deadline))
    else (c, none)
  | .connecting _ _ _, .attemptSucceeded generation =>
    ({ c with state := .connected generation }, some (.publishGeneration generation))
  | .connecting attempt _ totalDeadline, .attemptFailed now jitter =>
    if attempt ≥ c.policy.maxAttempts ∨ now ≥ totalDeadline then c.fail
    else c.schedule (attempt + 1) (now.saturatingAdd (min jitter c.policy.maximumJitter))
      totalDeadline
  | _, _ => (c, none)

end RecoveryCoordinator

end Runtime
