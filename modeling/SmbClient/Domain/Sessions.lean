import SmbClient.Error
import SmbClient.Runtime.ObjectState

/-!
# Sessions and their reauthentication (`session.rs`, `connection.rs`, `connection/registry.rs`)

A connection has one generation at a time, each with an owner that keeps the domain objects and the
wire's table of sessions. A `SessionContext` points to the session state it uses now;
`reauthenticate` sets up another one and swings the pointer. Calls interleave at their await points:
a call is the point it has reached (`Stage`), `advance` is what it does from there to its next
await. A command to the owner is carried out when it is sent; what the future waits for is the
answer. Session states are numbered in the order they are set up, and a `SessionGeneration` is the
number of its state.
-/

namespace Domain

open Runtime

/-! ## Owners -/

/-- `SessionAndChannel`, with the flag of its `SessionInfo` that says it is invalid. -/
structure SessionAndChannel where
  sessionId : ℕ
  object : Option ObjectToken
  invalid : Bool
  -- Not in the source: the context the state was set up for, once there is one.
  context : Option ℕ

structure Owner where
  objects : ObjectRegistry
  sessions : Table ℕ ℕ
  lost : Bool

namespace Owner

def new (generation : ℕ) : Owner := ⟨.new ⟨generation⟩, ∅, false⟩

/-- A control command and its answer. A lane that is full refuses it, and an owner that has gone
answers nothing any more. -/
def command {α : Type} (o : Owner) (accepted : Bool) (execute : Owner → Owner × Except Error α) :
    Owner × Except Error α :=
  if o.lost then (o, .error .connectionStopped)
  else if accepted then execute o
  else (o, .error (.backpressure "control"))

variable (object : ObjectToken)

variable (o : Owner)

def beginObjectRecovery : Owner × Except Error Unit :=
  match o.objects.beginRecovery object with
  | .error _ => (o, .error .staleObject)
  | .ok objects => ({ o with objects }, .ok ())

def publishObjectReplacement : Owner × Except Error ObjectToken :=
  match o.objects.publishReplacementRevokingDescendants object with
  | (objects, .ok (.replacementPublished _ replacement, _)) => ({ o with objects }, .ok replacement)
  | (objects, _) => ({ o with objects }, .error .staleObject)

def failObjectRecovery : Owner × Except Error Unit :=
  match o.objects.failRecovery object with
  | .error _ => (o, .error .staleObject)
  | .ok (objects, _) => ({ o with objects }, .ok ())

def createObject (parent : ObjectToken) (kind : ObjectKind) (o : Owner) :
    Owner × Except Error ObjectToken :=
  match o.objects.createChild parent kind with
  | .error _ => (o, .error .staleObject)
  | .ok (objects, token) => ({ o with objects }, .ok token)

/-- It concerns the preauthentication hash alone. -/
def resetPreauthToNegotiate : Owner × Except Error Unit := (o, .ok ())

def sessionStarted (sessionId state : ℕ) (o : Owner) : Owner :=
  { o with sessions := o.sessions.insert sessionId state }

def sessionEnded (sessionId : ℕ) (o : Owner) : Owner × Except Error Unit :=
  ({ o with sessions := o.sessions.erase sessionId }, .ok ())

/-- The owner leaves its loop: every object is revoked. -/
def lose : Owner := { o with objects := o.objects.loseGeneration.1, lost := true }

end Owner

/-! ## Calls -/

structure SessionContext where
  -- The state of the `SessionGeneration`.
  generation : ℕ
  recovering : Bool
  -- The call that has the mutex `recovery`.
  recovery : Option ℕ
  -- Whether there is a credential provider.
  provider : Bool
  live : Bool

/-- Who called `reauthenticate`. -/
inductive Caller where
  | waitForReauthentication
  | recoverSession
  | recoverSessions (first size : ℕ)
deriving DecidableEq

/-- The locals of `reauthenticate` from the mutex on. -/
structure Attempt where
  previous : ℕ
  previousObject : ObjectToken
  -- The generation of `generation_runtime`.
  runtime : ℕ
deriving DecidableEq

def Attempt.sameGeneration (a : Attempt) : Bool :=
  decide (a.previousObject.generation = ⟨a.runtime⟩)

inductive Stage where
  /-- In `wait_for_reauthentication`, with the primary channel loaded. -/
  | deciding
  /-- `wait_for_reauthentication` has nothing to wait for. -/
  | passed
  /-- At `self.recovery.lock().await`. -/
  | queued
  /-- At `begin_object_recovery`. -/
  | beginning (a : Attempt) (answer : Except Error Unit)
  /-- At `reset_preauth_to_negotiate`. -/
  | resetting (a : Attempt) (answer : Except Error Unit)
  /-- In an attempt, with so many left, before the setup has a session. -/
  | attempting (a : Attempt) (left : ℕ)
  /-- In an attempt that has started a session. -/
  | settingUp (a : Attempt) (left state : ℕ)
  /-- In an attempt that failed, at `session_ended`. -/
  | cleaning (a : Attempt) (left : ℕ) (error : Error)
  /-- At `fail_object_recovery`. -/
  | failing (a : Attempt) (error : Error)
  /-- At `publish_object_replacement`. -/
  | publishing (a : Attempt) (state : ℕ) (answer : Except Error ObjectToken)
  /-- In `Channel::new`, before it looks for the object. -/
  | opening (a : Attempt) (state : ℕ)
  /-- In `Channel::new`, at `create_object`. -/
  | creating (a : Attempt) (state : ℕ) (answer : Except Error ObjectToken)
  /-- The generation is stored; at `channel_contexts.write().await`. -/
  | updating (a : Attempt) (state : ℕ)
  /-- At `previous_state.session.write().await`. -/
  | invalidating (a : Attempt) (state : ℕ)
  /-- At `session_ended`. -/
  | ending (a : Attempt) (state : ℕ)
  /-- In `recover_shares`. -/
  | sharing (a : Attempt) (state : ℕ)
  /-- `reauthenticate` has returned, and the caller has not yet gone on. -/
  | returned (result : Except Error (ℕ × ℕ))
  /-- The caller has done with the result what it does. -/
  | recorded (result : Except Error (ℕ × ℕ))
  | dropped

namespace Stage

def hasReturned : Stage → Bool
  | .returned _ | .recorded _ => true
  | _ => false

def isRecorded : Stage → Bool
  | .recorded _ => true
  | _ => false

def holdsLock : Stage → Bool
  | .deciding | .passed | .queued | .returned _ | .recorded _ | .dropped => false
  | _ => true

end Stage

structure Call where
  context : ℕ
  expectedSessionId : ℕ
  caller : Caller
  stage : Stage
  -- Not in the source: the generation the caller saw, whose id is the expected one.
  observed : ℕ

def Call.finished (call : Call) : Bool :=
  match call.stage, call.caller with
  | .returned _, .waitForReauthentication => true
  | .passed, _ | .recorded _, _ | .dropped, _ => true
  | _, _ => false

def Call.hasSlot (call : Call) : Bool :=
  decide (call.caller = .waitForReauthentication) &&
    (call.stage.holdsLock || match call.stage with
      | .queued => true
      | _ => false)

inductive Login where
  | beginning (provider : Bool)
  /-- In the setup, which has started a session. -/
  | settingUp (provider : Bool) (state : ℕ)
  /-- In `Channel::new`, before it creates the object. -/
  | opening (provider : Bool) (state : ℕ)
  /-- In `Channel::new`, at `create_object`. -/
  | creating (provider : Bool) (state : ℕ) (answer : Except Error ObjectToken)
  /-- The context exists; at `registry.insert_session`. -/
  | registering (context : ℕ)
  | returned (result : Except Error ℕ)
  | dropped

structure Replacement where
  call : ℕ
  context : ℕ
  previous : ℕ
  state : ℕ
deriving DecidableEq

structure Connection where
  -- The published generation.
  current : ℕ
  owner : ℕ → Owner
  states : List SessionAndChannel
  contexts : List SessionContext
  -- `ConnectionRegistry::sessions`.
  registry : Table ℕ ℕ
  -- The recovery task is about to list the registry in `recover_sessions`.
  listing : Bool
  calls : List Call
  logins : List Login
  -- Not in the source: what has been replaced so far.
  replaced : List Replacement

/-- What becomes of a session setup. -/
inductive SetupEvent where
  | started (sessionId : ℕ)
  | completed
  | failed (error : Error)
  | timedOut

/-- The error of a setup that ends without a session. -/
def SetupEvent.error : SetupEvent → Error
  | .started _ => .connectionStopped
  | .completed => .invalidState "Session setup result is missing."
  | .failed error => error
  | .timedOut => .operationTimeout

/-- What the environment decides in a step of a call. -/
structure Input where
  accepted : Bool
  setup : SetupEvent

inductive Move where
  | authenticate (provider : Bool)
  | login (login : ℕ) (input : Input)
  | dropLogin (login : ℕ)
  | waitForReauthentication (context : ℕ)
  /-- A caller whose channel is `observed` calls `recover_session`, which finds `context`. -/
  | recoverSession (observed context : ℕ)
  /-- `recover_sessions` lists the registry, in some order. -/
  | recoverSessions (order : List ℕ)
  | advance (call : ℕ) (input : Input)
  | dropCall (call : ℕ)
  | dropContext (context : ℕ)
  | createObject (parent : ObjectToken) (kind : ObjectKind)
  | lose
  | reconnect

def Move.startedId : Move → Option ℕ
  | .advance _ ⟨_, .started id⟩ | .login _ ⟨_, .started id⟩ => some id
  | _ => none

namespace Connection

def new : Connection where
  current := 0
  owner := .new
  states := []
  contexts := []
  registry := ∅
  listing := false
  calls := []
  logins := []
  replaced := []

/-! ## Reading and writing the state -/

variable (s : Connection)

variable (state : ℕ)

def object : Option ObjectToken := s.states[state]?.bind (·.object)

def sessionId : Option ℕ := s.states[state]?.map (·.sessionId)

def contextId (context : ℕ) : Option ℕ :=
  s.contexts[context]?.bind fun c => s.sessionId c.generation

def setStage (i : ℕ) (call : Call) (stage : Stage) : Connection :=
  { s with calls := s.calls.set i { call with stage } }

def setContext (context : ℕ) (f : SessionContext → SessionContext) : Connection :=
  { s with contexts := s.contexts.modify context f }

def setOwner (generation : ℕ) (o : Owner) : Connection :=
  { s with owner := Function.update s.owner generation o }

def setState (f : SessionAndChannel → SessionAndChannel) : Connection :=
  { s with states := s.states.modify state f }

/-- The state of a new session, which the wire of the current generation knows under its id. -/
def startSession (sessionId : ℕ) (context : Option ℕ) : Connection :=
  { s with
    states := s.states ++ [⟨sessionId, none, false, context⟩]
    owner := Function.update s.owner s.current
      ((s.owner s.current).sessionStarted sessionId s.states.length) }

/-- A setup that failed invalidates its session and tells the wire. -/
def cleanUp (accepted : Bool) : Connection :=
  { s.setState state fun p => { p with invalid := true } with
    owner := Function.update s.owner s.current
      ((s.owner s.current).command accepted (Owner.sessionEnded ((s.sessionId state).getD 0))).1 }

/-- `reauthenticate` returns: the flag is cleared and then the mutex released. -/
def leave (i : ℕ) (call : Call) (result : Except Error (ℕ × ℕ)) : Connection :=
  (s.setContext call.context fun c => { c with recovering := false, recovery := none }).setStage i
    call (.returned result)

def setObject (token : ObjectToken) : Except Error Connection :=
  if (s.object state).isSome then
    .error (.invalidState "Session object token already installed")
  else .ok (s.setState state fun p => { p with object := some token })

/-! ## `reauthenticate` -/

section
variable (maxAttempts maxWaitingOperations : ℕ)

variable (s : Connection)

variable (i : ℕ)

variable (call : Call)

variable (a : Attempt)

/-- From the recovery of the old object to the first attempt: without a provider there is none. -/
def prepareAttempts (accepted : Bool) : Connection :=
  match s.contexts[call.context]? with
  | none => s
  | some context =>
    if context.provider then
      let (owner, answer) := (s.owner a.runtime).command accepted Owner.resetPreauthToNegotiate
      (s.setOwner a.runtime owner).setStage i call (.resetting a answer)
    else s.leave i call (.error (.invalidState "Session has no reauthentication capability"))

def enter (accepted : Bool) : Connection :=
  match s.contexts[call.context]? with
  | none => s
  | some context =>
    if context.recovery.isSome then s
    else match s.states[context.generation]? with
    | none => s
    | some previous =>
      if previous.sessionId ≠ call.expectedSessionId then
        s.setStage i call (.returned (.ok (call.expectedSessionId, previous.sessionId)))
      else
        let s := s.setContext call.context fun c =>
          { c with recovering := true, recovery := some i }
        match previous.object with
        | none => s.leave i call (.error (.invalidState "Session object token is unavailable"))
        | some object =>
          let a : Attempt := ⟨context.generation, object, s.current⟩
          if a.sameGeneration then
            let (owner, answer) := (s.owner a.runtime).command accepted
              (Owner.beginObjectRecovery object)
            (s.setOwner a.runtime owner).setStage i call (.beginning a answer)
          else s.prepareAttempts i call a accepted

def noCandidate (error : Error) (accepted : Bool) : Connection :=
  if a.sameGeneration then
    let (owner, _) := (s.owner a.runtime).command accepted
      (Owner.failObjectRecovery a.previousObject)
    (s.setOwner a.runtime owner).setStage i call (.failing a error)
  else s.leave i call (.error error)

/-- `error` is the last error if no attempt is left. -/
def nextAttempt (left : ℕ) (error : Error) (accepted : Bool) : Connection :=
  if left ≤ 1 then s.noCandidate i call a error accepted
  else s.setStage i call (.attempting a (left - 1))

/-- Sessions are set up on the generation that is current. -/
def attempt (left : ℕ) (input : Input) : Connection :=
  match input.setup with
  | .started sessionId =>
    if (s.owner s.current).lost then s.nextAttempt i call a left input.setup.error input.accepted
    else (s.startSession sessionId (some call.context)).setStage i call
      (.settingUp a left s.states.length)
  | _ => s.nextAttempt i call a left input.setup.error input.accepted

def setUp (left state : ℕ) (input : Input) : Connection :=
  match input.setup with
  | .completed =>
    if a.sameGeneration then
      let (owner, answer) := (s.owner a.runtime).command input.accepted
        (Owner.publishObjectReplacement a.previousObject)
      (s.setOwner a.runtime owner).setStage i call (.publishing a state answer)
    else s.setStage i call (.opening a state)
  | .failed error => (s.cleanUp state input.accepted).setStage i call (.cleaning a left error)
  | .timedOut => s.nextAttempt i call a left .operationTimeout input.accepted
  | .started _ => s

def store (state : ℕ) : Connection :=
  { (s.setContext call.context fun c => { c with generation := state }).setStage i call
      (.updating a state) with
    replaced := s.replaced ++ [⟨i, call.context, a.previous, state⟩] }

def openChannel (state : ℕ) (accepted : Bool) : Connection :=
  if (s.object state).isSome then s.store i call a state
  else
    let (owner, answer) := (s.owner s.current).command accepted
      (Owner.createObject (s.owner s.current).objects.connection .session)
    (s.setOwner s.current owner).setStage i call (.creating a state answer)

def endPrevious (state : ℕ) (accepted : Bool) : Connection :=
  let s := s.setState a.previous fun p => { p with invalid := true }
  if a.sameGeneration then
    let (owner, _) := (s.owner a.runtime).command accepted
      (Owner.sessionEnded ((s.sessionId a.previous).getD 0))
    (s.setOwner a.runtime owner).setStage i call (.ending a state)
  else
    (s.setContext call.context fun c => { c with recovering := false }).setStage i call
      (.sharing a state)

/-! ## The callers -/

/-- `wait_for_reauthentication`, from its loads on. -/
def decide : Connection :=
  match s.contexts[call.context]?, s.object call.observed with
  | some context, some object =>
    if ¬ context.recovering ∧ object.generation = ⟨s.current⟩ then s.setStage i call .passed
    else if maxWaitingOperations ≤
        s.calls.countP fun c => c.context == call.context && c.hasSlot then
      s.setStage i call (.returned (.error .sessionRecoveryQueueFull))
    else s.setStage i call .queued
  | _, _ => s.setStage i call
      (.returned (.error (.invalidState "Session object token is unavailable")))

def replaceSession (previous replacement context : ℕ) : Connection :=
  { s with registry := (s.registry.erase previous).insert replacement context }

/-- The caller may go on with the result. -/
def mayRecord : Caller → Bool
  | .waitForReauthentication | .recoverSession => true
  | .recoverSessions first size =>
    ((s.calls.drop first).take size).all (·.stage.hasReturned) &&
      ((s.calls.drop first).take (i - first)).all (·.stage.isRecorded)

def record (result : Except Error (ℕ × ℕ)) : Connection :=
  if s.mayRecord i call.caller then
    let done := s.setStage i call (.recorded result)
    match result with
    | .error _ => done
    | .ok (previous, replacement) =>
      if call.caller = .waitForReauthentication then done
      else done.replaceSession previous replacement call.context
  else s

def advance (input : Input) : Connection :=
  match s.calls[i]? with
  | none => s
  | some call =>
    match call.stage with
    | .deciding => s.decide maxWaitingOperations i call
    | .queued => s.enter i call input.accepted
    | .beginning a answer =>
      match answer with
      | .error error => s.leave i call (.error error)
      | .ok _ => s.prepareAttempts i call a input.accepted
    | .resetting a answer =>
      match answer with
      | .error error => s.leave i call (.error error)
      | .ok _ =>
        if maxAttempts = 0 then
          s.noCandidate i call a (.invalidState "Session reauthentication is disabled") input.accepted
        else s.setStage i call (.attempting a maxAttempts)
    | .attempting a left => s.attempt i call a left input
    | .settingUp a left state => s.setUp i call a left state input
    | .cleaning a left error => s.nextAttempt i call a left error input.accepted
    | .failing _ error => s.leave i call (.error error)
    | .publishing a state answer =>
      match answer.bind (s.setObject state) with
      | .error error => s.leave i call (.error error)
      | .ok s => s.setStage i call (.opening a state)
    | .opening a state => s.openChannel i call a state input.accepted
    | .creating a state answer =>
      match answer.bind (s.setObject state) with
      | .error error => s.leave i call (.error error)
      | .ok s => s.store i call a state
    | .updating a state => s.setStage i call (.invalidating a state)
    | .invalidating a state => s.endPrevious i call a state input.accepted
    | .ending a state =>
      (s.setContext call.context fun c => { c with recovering := false }).setStage i call
        (.sharing a state)
    | .sharing _ state =>
      (s.setContext call.context fun c => { c with recovery := none }).setStage i call
        (.returned (.ok (call.expectedSessionId, (s.sessionId state).getD 0)))
    | .returned result => s.record i call result
    | .passed | .recorded _ | .dropped => s

/-- The future is dropped: the guards it holds clear the flag and release the mutex. -/
def dropCall : Connection :=
  match s.calls[i]? with
  | none => s
  | some call =>
    match call.stage with
    | .passed | .recorded _ | .dropped => s
    | .deciding | .queued | .returned _ => s.setStage i call .dropped
    | .sharing _ _ =>
      (s.setContext call.context fun c => { c with recovery := none }).setStage i call .dropped
    | _ =>
      (s.setContext call.context fun c => { c with recovering := false, recovery := none }).setStage
        i call .dropped

/-! ## `authenticate` -/

def login (input : Input) : Connection :=
  match s.logins[i]? with
  | none | some (.returned _) | some .dropped => s
  | some (.beginning provider) =>
    match input.setup, (s.owner s.current).lost with
    | .started sessionId, false =>
      { s.startSession sessionId none with
        logins := s.logins.set i (.settingUp provider s.states.length) }
    | _, _ => { s with logins := s.logins.set i (.returned (.error input.setup.error)) }
  | some (.settingUp provider state) =>
    match input.setup with
    | .completed => { s with logins := s.logins.set i (.opening provider state) }
    | .failed error =>
      { s.cleanUp state input.accepted with logins := s.logins.set i (.returned (.error error)) }
    | .started _ | .timedOut => s
  | some (.opening provider state) =>
    let (owner, answer) := (s.owner s.current).command input.accepted
      (Owner.createObject (s.owner s.current).objects.connection .session)
    { s.setOwner s.current owner with logins := s.logins.set i (.creating provider state answer) }
  | some (.creating provider state answer) =>
    match answer.bind (s.setObject state) with
    | .error error => { s with logins := s.logins.set i (.returned (.error error)) }
    | .ok s =>
      { s.setState state fun p => { p with context := some s.contexts.length } with
        contexts := s.contexts ++ [⟨state, false, none, provider, true⟩]
        logins := s.logins.set i (.registering s.contexts.length) }
  | some (.registering context) =>
    { s with
      registry := s.registry.insert ((s.contextId context).getD 0) context
      logins := s.logins.set i (.returned (.ok context)) }

def dropLogin : Connection :=
  match s.logins[i]? with
  | none | some (.returned _) | some .dropped => s
  | some (.registering context) =>
    { s.setContext context fun c => { c with live := false } with
      logins := s.logins.set i .dropped }
  | some _ => { s with logins := s.logins.set i .dropped }

/-! ## Runs -/

def recoverableSessions : List ℕ :=
  s.registry.values.filter fun c => (s.contexts[c]?.map (·.live)).getD false

def isAnnounced (context : ℕ) : Bool :=
  s.logins.all fun
    | .registering c => c != context
    | _ => true

def callFor (context : ℕ) (caller : Caller) (stage : Stage) : Option Call :=
  s.contexts[context]?.bind fun c =>
    (s.sessionId c.generation).map fun id => ⟨context, id, caller, stage, c.generation⟩

def step : Move → Connection
  | .authenticate provider => { s with logins := s.logins ++ [.beginning provider] }
  | .login i input => s.login i input
  | .dropLogin i => s.dropLogin i
  | .waitForReauthentication context =>
    if s.isAnnounced context then
      { s with calls := s.calls ++ (s.callFor context .waitForReauthentication .deciding).toList }
    else s
  | .recoverSession observed context =>
    if context ∈ s.recoverableSessions ∧ s.contextId context = s.sessionId observed then
      { s with calls := s.calls ++ ((s.callFor context .recoverSession .queued).map
          fun call => { call with observed }).toList }
    else s
  | .recoverSessions order =>
    if s.listing ∧ order.isPerm s.recoverableSessions then
      { s with
        listing := false
        calls := s.calls ++ order.filterMap fun context =>
          s.callFor context (.recoverSessions s.calls.length order.length) .queued }
    else s
  | .advance i input => s.advance maxAttempts maxWaitingOperations i input
  | .dropCall i => s.dropCall i
  | .dropContext context =>
    -- A call holds its context.
    if s.calls.all fun call => call.context != context || call.finished then
      s.setContext context fun c => { c with live := false }
    else s
  | .createObject parent kind =>
    if kind = .session then s
    else s.setOwner s.current
      ((s.owner s.current).command true (Owner.createObject parent kind)).1
  | .lose => s.setOwner s.current (s.owner s.current).lose
  | .reconnect =>
    -- The recovery task is one loop: it reconnects when it is done with the last generation.
    if (s.owner s.current).lost ∧ s.listing = false ∧
        s.calls.all (fun call => match call.caller with
          | .recoverSessions _ _ => call.finished
          | _ => true) then
      { s with
        current := s.current + 1
        owner := Function.update s.owner (s.current + 1) (.new (s.current + 1))
        listing := true }
    else s

def run (moves : List Move) : Connection :=
  moves.foldl (step maxAttempts maxWaitingOperations) .new

end

end Connection

end Domain
