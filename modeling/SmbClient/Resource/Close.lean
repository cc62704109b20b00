import SmbClient.Error

/-!
# Closing a resource (`domain/mod.rs`, `resource.rs`)

The close authority remembers whether a CLOSE was confirmed or its outcome is unknown, and is locked
while a close is under way; the handle's `open` flag is cleared before the CLOSE is sent. A call is
the point it has reached (`CloseCall`); dropping it releases the lock and leaves both latches.
-/

namespace Resource

inductive CloseOutcome where
  | confirmed
  | alreadyClosed
  | outcomeUnknown

inductive FileCloseState where
  | opened
  | confirmed
  | outcomeUnknown

/-- The policy a caller asks for (`domain/operation.rs`). -/
inductive ReplayPolicy where
  | never
  | ifUncommitted
  | idempotent
  | durableReconnectOnly
deriving DecidableEq

inductive ResourceKind where
  | file
  | directory
  | pipe
deriving DecidableEq

def ResourceKind.name : ResourceKind → String
  | .file => "file"
  | .directory => "directory"
  | .pipe => "pipe"

inductive CloseCall where
  /-- At `self.state.lock().await`. -/
  | locking
  /-- With the lock, in `ensure_current`. -/
  | ensuring
  | sending
  /-- The CLOSE may have reached the wire. -/
  | sent
  | returned (result : Except Error CloseOutcome)
  | dropped

def CloseCall.holdsLock : CloseCall → Bool
  | .ensuring | .sending | .sent => true
  | .locking | .returned _ | .dropped => false

structure Closing where
  kind : ResourceKind
  state : FileCloseState
  -- The call that has the lock.
  owner : Option ℕ
  -- The flag of the handle.
  opened : Bool
  calls : List CloseCall
  -- Not in the source: the CLOSE requests handed to the wire, and whether the server confirmed one.
  submitted : ℕ
  confirmed : Bool

inductive CloseMove where
  | call (remaining : Except Error Unit) (replay : ReplayPolicy)
  | lock (call : ℕ)
  | ensured (call : ℕ) (result : Except Error Unit)
  | submit (call : ℕ)
  | answered (call : ℕ) (result : Except Error Unit)
  | drop (call : ℕ)

namespace Closing

def new (kind : ResourceKind) : Closing := ⟨kind, .opened, none, true, [], 0, false⟩

variable (s : Closing)

variable (i : ℕ)

def advance (call : CloseCall) : Closing :=
  { s with calls := s.calls.set i call }

def release (call : CloseCall) : Closing :=
  { s with owner := none, calls := s.calls.set i call }

def begin (remaining : Except Error Unit) (replay : ReplayPolicy) : CloseCall :=
  match remaining with
  | .error error => .returned (.error error)
  | .ok _ =>
    if replay = .never then .locking
    else .returned (.error (.unsupportedOperation
      s!"{s.kind.name} close permits only ReplayPolicy::Never"))

/-- `close_with`, from the lock on: a resource that is not open any more is answered at once. -/
def enter : Closing :=
  match s.state with
  | .confirmed => s.release i (.returned (.ok .alreadyClosed))
  | .outcomeUnknown => s.release i (.returned (.ok .outcomeUnknown))
  | .opened => { s.advance i .ensuring with owner := some i }

def settle (result : Except Error Unit) : Closing :=
  match result with
  | .ok _ => { s.release i (.returned (.ok .confirmed)) with state := .confirmed }
  | .error error =>
    if error.isOutcomeUnknown then
      { s.release i (.returned (.ok .outcomeUnknown)) with state := .outcomeUnknown }
    else s.release i (.returned (.error error))

/-- `ResourceHandle::close`, after `ensure_current`. -/
def mark (result : Except Error Unit) : Closing :=
  match result with
  | .error error => s.settle i (.error error)
  | .ok _ =>
    if s.opened then { s.advance i .sending with opened := false }
    else s.settle i (.error (.invalidState "Resource is already closed"))

def step : CloseMove → Closing
  | .call remaining replay => { s with calls := s.calls ++ [s.begin remaining replay] }
  | .lock i =>
    match s.calls[i]?, s.owner with
    | some .locking, none => s.enter i
    | _, _ => s
  | .ensured i result =>
    match s.calls[i]? with
    | some .ensuring => s.mark i result
    | _ => s
  | .submit i =>
    match s.calls[i]? with
    | some .sending => { s.advance i .sent with submitted := s.submitted + 1 }
    | _ => s
  | .answered i result =>
    match s.calls[i]?, result with
    -- Without a request on the wire there is only failure.
    | some .sending, .error error => s.settle i (.error error)
    | some .sent, .ok _ => { s.settle i (.ok ()) with confirmed := true }
    | some .sent, .error error => s.settle i (.error error)
    | _, _ => s
  | .drop i =>
    match s.calls[i]? with
    | some .locking => s.advance i .dropped
    | some .ensuring | some .sending | some .sent => s.release i .dropped
    | _ => s

def run (moves : List CloseMove) : Closing := moves.foldl step s

end Closing

end Resource
