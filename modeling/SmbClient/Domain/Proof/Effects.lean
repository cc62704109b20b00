import SmbClient.Domain.Sessions
import SmbClient.Lib.Calls

/-!
# What a step of a connection does

`step_effect` lists everything a step can do to the sessions; the invariants go through its cases
and never unfold `step` again.
-/

namespace Domain

open Runtime Owner

namespace Stage

def attempt? : Stage → Option Attempt
  | .beginning a _ | .resetting a _ | .attempting a _ | .settingUp a _ _ | .cleaning a _ _
  | .failing a _ | .publishing a _ _ | .opening a _ | .creating a _ _ | .updating a _
  | .invalidating a _ | .ending a _ | .sharing a _ => some a
  | .deciding | .passed | .queued | .returned _ | .recorded _ | .dropped => none

def candidate? : Stage → Option ℕ
  | .settingUp _ _ state | .publishing _ state _ | .opening _ state | .creating _ state _ =>
    some state
  | _ => none

def stored? : Stage → Option ℕ
  | .updating _ state | .invalidating _ state | .ending _ state | .sharing _ state => some state
  | _ => none

inductive Turn : Stage → Stage → Prop where
  | pass : Turn .deciding .passed
  | refuse (error : Error) : Turn .deciding (.returned (.error error))
  | queue : Turn .deciding .queued
  | first (a : Attempt) (left : ℕ) : Turn (.resetting a (.ok ())) (.attempting a left)
  | again (a : Attempt) (left left' : ℕ) : Turn (.attempting a left) (.attempting a left')
  | after (a : Attempt) (left left' state : ℕ) :
      Turn (.settingUp a left state) (.attempting a left')
  | cleaned (a : Attempt) (left left' : ℕ) (error : Error) :
      Turn (.cleaning a left error) (.attempting a left')
  | setUp (a : Attempt) (left state : ℕ) (other : a.sameGeneration = false) :
      Turn (.settingUp a left state) (.opening a state)
  | invalidate (a : Attempt) (state : ℕ) : Turn (.updating a state) (.invalidating a state)

theorem holdsLock_iff {stage : Stage} : stage.holdsLock = true ↔ stage.attempt?.isSome := by
  cases stage <;> simp [holdsLock, attempt?]

end Stage

namespace SessionContext

def taken (i : ℕ) (c : SessionContext) : SessionContext :=
  { c with recovering := true, recovery := some i }

variable (c : SessionContext)

def cleared : SessionContext := { c with recovering := false, recovery := none }

def unflagged : SessionContext := { c with recovering := false }

def unlocked : SessionContext := { c with recovery := none }

def moved (state : ℕ) (c : SessionContext) : SessionContext := { c with generation := state }

end SessionContext

namespace Connection

inductive Exhausts (a : Attempt) : Stage → Prop where
  | disabled : Exhausts a (.resetting a (.ok ()))
  | attempting (left : ℕ) : Exhausts a (.attempting a left)
  | settingUp (left state : ℕ) : Exhausts a (.settingUp a left state)
  | cleaning (left : ℕ) (error : Error) : Exhausts a (.cleaning a left error)

inductive Leaves (s : Connection) (call : Call) : Prop where
  /-- The state has no object, or an object of another generation and no provider. -/
  | early {context : SessionContext} (stage : call.stage = .queued)
      (found : s.contexts[call.context]? = some context) (free : context.recovery = none)
  | stale {a : Attempt} {error : Error} (stage : call.stage = .beginning a (.error error))
  | unprovided {a : Attempt} {context : SessionContext} (stage : call.stage = .beginning a (.ok ()))
      (found : s.contexts[call.context]? = some context) (provider : context.provider = false)
  | unreset {a : Attempt} {error : Error} (stage : call.stage = .resetting a (.error error))
  | exhausted {a : Attempt} (stage : Exhausts a call.stage) (other : a.sameGeneration = false)
  | failed {a : Attempt} {error : Error} (stage : call.stage = .failing a error)
  | unpublished {a : Attempt} {state : ℕ} {error : Error}
      (stage : call.stage = .publishing a state (.error error))
  | uncreated {a : Attempt} {state : ℕ} {error : Error}
      (stage : call.stage = .creating a state (.error error))
  | installed {a : Attempt} {state : ℕ} {token : ObjectToken}
      (stage : call.stage = .publishing a state (.ok token) ∨
        call.stage = .creating a state (.ok token))
      (object : (s.object state).isSome)

structure Made (s : Connection) (call : Call) : Prop where
  stage : call.stage = .deciding ∨ call.stage = .queued
  current : s.contextId call.context = some call.expectedSessionId
  observed : s.sessionId call.observed = some call.expectedSessionId

variable (s : Connection)

def take (i context : ℕ) : Connection := s.setContext context (·.taken i)

variable (context : ℕ)

def clear : Connection := s.setContext context (·.cleared)

def unflag : Connection := s.setContext context (·.unflagged)

def unlock : Connection := s.setContext context (·.unlocked)

def install (state : ℕ) (token : ObjectToken) : Connection :=
  s.setState state fun p => { p with object := some token }

def invalidate (state : ℕ) : Connection :=
  s.setState state fun p => { p with invalid := true }

def setLogin (i : ℕ) (login : Login) : Connection :=
  { s with logins := s.logins.set i login }

inductive Effect (m : Move) (s : Connection) : Connection → Prop where
  | still : Effect m s s
  -- Calls of `reauthenticate`.
  | called (calls : List Call) (listing : Bool) (made : ∀ call ∈ calls, Made s call) :
      Effect m s { s with calls := s.calls ++ calls, listing }
  | turned {i : ℕ} {call : Call} {stage : Stage} (found : s.calls[i]? = some call)
      (turn : Stage.Turn call.stage stage) : Effect m s (s.setStage i call stage)
  | reset {i : ℕ} {call : Call} {a : Attempt} {input : Input} (move : m = .advance i input)
      (found : s.calls[i]? = some call) (stage : call.stage = .beginning a (.ok ()))
      (answer : Except Error Unit)
      (answered : answer = .ok () ∨ (s.owner a.runtime).lost ∨ input.accepted = false) :
      Effect m s (s.setStage i call (.resetting a answer))
  | passedBy {i id : ℕ} {call : Call} {context : SessionContext} (found : s.calls[i]? = some call)
      (stage : call.stage = .queued) (known : s.contexts[call.context]? = some context)
      (free : context.recovery = none) (current : s.sessionId context.generation = some id)
      (differs : id ≠ call.expectedSessionId) :
      Effect m s (s.setStage i call (.returned (.ok (call.expectedSessionId, id))))
  | began {i : ℕ} {call : Call} {context : SessionContext} {a : Attempt} {owner : Owner}
      {answer : Except Error Unit} {accepted : Bool} (found : s.calls[i]? = some call)
      (stage : call.stage = .queued) (known : s.contexts[call.context]? = some context)
      (free : context.recovery = none) (previous : a.previous = context.generation)
      (current : s.sessionId a.previous = some call.expectedSessionId)
      (object : s.object a.previous = some a.previousObject) (runtime : a.runtime = s.current)
      (same : a.sameGeneration = true)
      (command : (s.owner a.runtime).command accepted (beginObjectRecovery a.previousObject) =
        (owner, answer)) :
      Effect m s (((s.take i call.context).setOwner a.runtime owner).setStage i call
        (.beginning a answer))
  | entered {i : ℕ} {call : Call} {context : SessionContext} {a : Attempt}
      (answer : Except Error Unit) (found : s.calls[i]? = some call)
      (stage : call.stage = .queued) (known : s.contexts[call.context]? = some context)
      (free : context.recovery = none) (previous : a.previous = context.generation)
      (current : s.sessionId a.previous = some call.expectedSessionId)
      (object : s.object a.previous = some a.previousObject) (runtime : a.runtime = s.current)
      (other : a.sameGeneration = false) :
      Effect m s ((s.take i call.context).setStage i call (.resetting a answer))
  | left {i : ℕ} {call : Call} {input : Input} (error : Error) (move : m = .advance i input)
      (found : s.calls[i]? = some call) (leaves : Leaves s call) :
      Effect m s (s.leave i call (.error error))
  | exhausted {i : ℕ} {call : Call} {a : Attempt} {owner : Owner} {answer : Except Error Unit}
      {input : Input} (error : Error) (move : m = .advance i input)
      (found : s.calls[i]? = some call) (stage : Exhausts a call.stage)
      (same : a.sameGeneration = true) (command : (s.owner a.runtime).command input.accepted
        (failObjectRecovery a.previousObject) = (owner, answer)) :
      Effect m s ((s.setOwner a.runtime owner).setStage i call (.failing a error))
  | started {i left id : ℕ} {call : Call} {a : Attempt} (move : m.startedId = some id)
      (found : s.calls[i]? = some call) (stage : call.stage = .attempting a left)
      (alive : (s.owner s.current).lost = false) :
      Effect m s ((s.startSession id (some call.context)).setStage i call
        (.settingUp a left s.states.length))
  | cleaned {i left state : ℕ} {call : Call} {a : Attempt} {accepted : Bool} (error : Error)
      (found : s.calls[i]? = some call) (stage : call.stage = .settingUp a left state) :
      Effect m s ((s.cleanUp state accepted).setStage i call (.cleaning a left error))
  | published {i left state : ℕ} {call : Call} {a : Attempt} {owner : Owner}
      {answer : Except Error ObjectToken} {input : Input} (move : m = .advance i input)
      (found : s.calls[i]? = some call) (stage : call.stage = .settingUp a left state)
      (same : a.sameGeneration = true)
      (command : (s.owner a.runtime).command input.accepted
        (publishObjectReplacement a.previousObject) = (owner, answer)) :
      Effect m s ((s.setOwner a.runtime owner).setStage i call (.publishing a state answer))
  | installed {i state : ℕ} {call : Call} {a : Attempt} {token : ObjectToken}
      (found : s.calls[i]? = some call) (stage : call.stage = .publishing a state (.ok token))
      (bare : s.object state = none) :
      Effect m s ((s.install state token).setStage i call (.opening a state))
  | created {i state : ℕ} {call : Call} {a : Attempt} {owner : Owner}
      {answer : Except Error ObjectToken} {input : Input} (move : m = .advance i input)
      (found : s.calls[i]? = some call) (stage : call.stage = .opening a state)
      (bare : s.object state = none)
      (command : (s.owner s.current).command input.accepted
        (createObject (s.owner s.current).objects.connection .session) = (owner, answer)) :
      Effect m s ((s.setOwner s.current owner).setStage i call (.creating a state answer))
  | stored {i state : ℕ} {call : Call} {a : Attempt} {token : ObjectToken}
      (found : s.calls[i]? = some call) (stage : call.stage = .opening a state)
      (object : s.object state = some token) (move : ∃ input, m = .advance i input) :
      Effect m s (s.store i call a state)
  | createdAndStored {i state : ℕ} {call : Call} {a : Attempt} {token : ObjectToken}
      (found : s.calls[i]? = some call) (stage : call.stage = .creating a state (.ok token))
      (bare : s.object state = none) (move : ∃ input, m = .advance i input) :
      Effect m s ((s.install state token).store i call a state)
  | ended {i state : ℕ} {call : Call} {a : Attempt} {owner : Owner} {answer : Except Error Unit}
      {accepted : Bool} (found : s.calls[i]? = some call)
      (stage : call.stage = .invalidating a state) (same : a.sameGeneration = true)
      (command : (s.owner a.runtime).command accepted
        (sessionEnded ((s.sessionId a.previous).getD 0)) = (owner, answer)) :
      Effect m s (((s.invalidate a.previous).setOwner a.runtime owner).setStage i call
        (.ending a state))
  | invalidated {i state : ℕ} {call : Call} {a : Attempt} (found : s.calls[i]? = some call)
      (stage : call.stage = .invalidating a state) (other : a.sameGeneration = false) :
      Effect m s (((s.invalidate a.previous).unflag call.context).setStage i call
        (.sharing a state))
  | unflagged {i state : ℕ} {call : Call} {a : Attempt} (found : s.calls[i]? = some call)
      (stage : call.stage = .ending a state) :
      Effect m s ((s.unflag call.context).setStage i call (.sharing a state))
  | released {i state : ℕ} {call : Call} {a : Attempt} (found : s.calls[i]? = some call)
      (stage : call.stage = .sharing a state) :
      Effect m s ((s.unlock call.context).setStage i call
        (.returned (.ok (call.expectedSessionId, (s.sessionId state).getD 0))))
  | recorded {i : ℕ} {call : Call} {result : Except Error (ℕ × ℕ)} (found : s.calls[i]? = some call)
      (stage : call.stage = .returned result)
      (nothing : call.caller = .waitForReauthentication ∨ ∃ error, result = .error error) :
      Effect m s (s.setStage i call (.recorded result))
  | replaced {i previous replacement : ℕ} {call : Call} (found : s.calls[i]? = some call)
      (stage : call.stage = .returned (.ok (previous, replacement)))
      (caller : call.caller ≠ .waitForReauthentication) :
      Effect m s ((s.setStage i call (.recorded (.ok (previous, replacement)))).replaceSession
        previous
        replacement call.context)
  | abandoned {i : ℕ} {call : Call} (move : m = .dropCall i) (found : s.calls[i]? = some call)
      (stage : call.stage = .deciding ∨ call.stage = .queued ∨
        ∃ result, call.stage = .returned result) :
      Effect m s (s.setStage i call .dropped)
  | droppedSharing {i state : ℕ} {call : Call} {a : Attempt} (move : m = .dropCall i)
      (found : s.calls[i]? = some call) (stage : call.stage = .sharing a state) :
      Effect m s ((s.unlock call.context).setStage i call .dropped)
  | droppedHolding {i : ℕ} {call : Call} {a : Attempt} (move : m = .dropCall i)
      (found : s.calls[i]? = some call) (stage : call.stage.attempt? = some a)
      (working : ∀ state, call.stage ≠ .sharing a state) :
      Effect m s ((s.clear call.context).setStage i call .dropped)
  -- Calls of `authenticate`.
  | authenticated (provider : Bool) :
      Effect m s { s with logins := s.logins ++ [.beginning provider] }
  | loginTurned {i : ℕ} {login login' : Login} (found : s.logins[i]? = some login)
      (turn : (∃ error, login' = .returned (.error error)) ∨ login' = .dropped ∨
        ∃ provider state, login = .settingUp provider state ∧ login' = .opening provider state) :
      Effect m s (s.setLogin i login')
  | loginStarted {i id : ℕ} {provider : Bool} (move : m.startedId = some id)
      (found : s.logins[i]? = some (.beginning provider))
      (alive : (s.owner s.current).lost = false) :
      Effect m s ((s.startSession id none).setLogin i (.settingUp provider s.states.length))
  | loginCleaned {i state : ℕ} {provider accepted : Bool} (error : Error)
      (found : s.logins[i]? = some (.settingUp provider state)) :
      Effect m s ((s.cleanUp state accepted).setLogin i (.returned (.error error)))
  | loginCreated {i state : ℕ} {provider : Bool} {owner : Owner}
      {answer : Except Error ObjectToken} {input : Input} (move : m = .login i input)
      (found : s.logins[i]? = some (.opening provider state))
      (command : (s.owner s.current).command input.accepted
        (createObject (s.owner s.current).objects.connection .session) = (owner, answer)) :
      Effect m s ((s.setOwner s.current owner).setLogin i (.creating provider state answer))
  | loggedIn {i state : ℕ} {provider : Bool} {token : ObjectToken}
      (found : s.logins[i]? = some (.creating provider state (.ok token)))
      (bare : s.object state = none) :
      Effect m s { (s.install state token).setState state
            fun p => { p with context := some s.contexts.length } with
          contexts := s.contexts ++ [⟨state, false, none, provider, true⟩]
          logins := s.logins.set i (.registering s.contexts.length) }
  | registered {i context : ℕ} (found : s.logins[i]? = some (.registering context)) :
      Effect m s { s with
        registry := s.registry.insert ((s.contextId context).getD 0) context
        logins := s.logins.set i (.returned (.ok context)) }
  | loginDropped {i context : ℕ} (found : s.logins[i]? = some (.registering context)) :
      Effect m s ((s.setContext context fun c => { c with live := false }).setLogin i .dropped)
  -- The rest.
  | contextDropped (context : ℕ)
      (free : ∀ call ∈ s.calls, call.context ≠ context ∨ call.finished = true) :
      Effect m s (s.setContext context fun c => { c with live := false })
  | objectCreated {parent : ObjectToken} {kind : ObjectKind} {owner : Owner}
      {answer : Except Error ObjectToken} (other : kind ≠ .session)
      (command : (s.owner s.current).command true (createObject parent kind) =
        (owner, answer)) : Effect m s (s.setOwner s.current owner)
  | lost : Effect m s (s.setOwner s.current (s.owner s.current).lose)
  | reconnected (move : m = .reconnect) (gone : (s.owner s.current).lost = true)
      (listed : s.listing = false) :
      Effect m s { s with
        current := s.current + 1
        owner := Function.update s.owner (s.current + 1) (.new (s.current + 1))
        listing := true }

/-! ## The inversion -/

section
variable {maxAttempts maxWaitingOperations : ℕ} {s : Connection}
variable {state i left : ℕ} {call : Call} {input : Input} {a : Attempt} {m : Move}

theorem contextId_eq_some {context id : ℕ} :
    s.contextId context = some id ↔
      ∃ c, s.contexts[context]? = some c ∧ s.sessionId c.generation = some id := by
  simp [contextId, Option.bind_eq_some_iff]

theorem sessionId_eq_some {id : ℕ} :
    s.sessionId state = some id ↔ ∃ p, s.states[state]? = some p ∧ p.sessionId = id := by
  simp [sessionId]

theorem object_eq_some {token : ObjectToken} :
    s.object state = some token ↔ ∃ p, s.states[state]? = some p ∧ p.object = some token := by
  simp [object, Option.bind_eq_some_iff]

theorem callFor_eq_some {context : ℕ} {caller : Caller} {stage : Stage} :
    s.callFor context caller stage = some call ↔
      ∃ c, s.contexts[context]? = some c ∧ ∃ id, s.sessionId c.generation = some id ∧
        ⟨context, id, caller, stage, c.generation⟩ = call := by
  simp only [callFor, Option.bind_eq_some_iff, Option.map_eq_some_iff]

theorem leave_take (i j context : ℕ) (call : Call) (result : Except Error (ℕ × ℕ))
    (same : call.context = context) :
    (s.take j context).leave i call result = s.leave i call result := by
  simp [take, leave, setContext, List.modify_modify_eq, Function.comp_def, same,
    SessionContext.taken]

theorem setOwner_self (generation : ℕ) : s.setOwner generation (s.owner generation) = s := by
  simp [setOwner]

theorem resetPreauth_owner (o : Owner) (accepted : Bool) :
    (o.command accepted resetPreauthToNegotiate).1 = o := by
  simp only [command]
  split_ifs <;> rfl

theorem resetPreauth_answer (o : Owner) (accepted : Bool) :
    (o.command accepted resetPreauthToNegotiate).2 = .ok () ∨ o.lost ∨ accepted = false := by
  simp only [command]
  split_ifs with lost taken
  · exact .inr (.inl lost)
  · exact .inl rfl
  · exact .inr (.inr (by simpa using taken))

theorem setObject_eq (state : ℕ) (token : ObjectToken) :
    s.setObject state token = if (s.object state).isSome then
      .error (.invalidState "Session object token already installed") else .ok (s.install state token) :=
  rfl

theorem prepareAttempts_eq {context : SessionContext} (a : Attempt)
    (accepted : Bool) (known : s.contexts[call.context]? = some context) :
    s.prepareAttempts i call a accepted =
      if context.provider then
        s.setStage i call
          (.resetting a ((s.owner a.runtime).command accepted resetPreauthToNegotiate).2)
      else s.leave i call (.error (.invalidState "Session has no reauthentication capability")) := by
  simp only [prepareAttempts, known, resetPreauth_owner, setOwner_self]

theorem enter_effect (found : s.calls[i]? = some call) (stage : call.stage = .queued) :
    Effect (.advance i input) s (s.enter i call input.accepted) := by
  unfold enter
  split
  · exact .still
  rename_i context known
  split_ifs with locked
  · exact .still
  have free : context.recovery = none := by simpa using locked
  split
  · exact .still
  rename_i previous held
  have current : s.sessionId context.generation = some previous.sessionId :=
    sessionId_eq_some.2 ⟨previous, held, rfl⟩
  split_ifs with differs
  · exact .passedBy found stage known free current differs
  rw [not_not] at differs
  rw [differs] at current
  have taken : (s.take i call.context).contexts[call.context]? = some (context.taken i) := by
    simp [take, setContext, known]
  have early (error : Error) :
      Effect (.advance i input) s ((s.take i call.context).leave i call (.error error)) := by
    rw [leave_take _ _ _ _ _ rfl]
    exact .left _ rfl found (.early stage known free)
  split
  · exact early _
  rename_i object present
  have holds : s.object context.generation = some object :=
    object_eq_some.2 ⟨previous, held, present⟩
  dsimp only
  split_ifs with same
  · exact .began found stage known free rfl current holds rfl same rfl
  have other : (Attempt.mk context.generation object s.current).sameGeneration = false := by
    simpa [setContext] using same
  refine (prepareAttempts_eq _ _ taken).symm ▸ ?_
  split_ifs with provider
  · exact .entered _ found stage known free rfl current holds rfl other
  · exact early _

theorem prepareAttempts_effect
    (found : s.calls[i]? = some call) (stage : call.stage = .beginning a (.ok ())) :
    Effect (.advance i input) s (s.prepareAttempts i call a input.accepted) := by
  rcases known : s.contexts[call.context]? with _ | context
  · simp only [prepareAttempts, known]
    exact .still
  · rw [prepareAttempts_eq _ _ known]
    split_ifs with provider
    · exact .reset rfl found stage _ (resetPreauth_answer _ _)
    · exact .left _ rfl found (.unprovided stage known (by simpa using provider))

theorem noCandidate_effect (error : Error)
    (found : s.calls[i]? = some call) (stage : Exhausts a call.stage) :
    Effect (.advance i input) s (s.noCandidate i call a error input.accepted) := by
  unfold noCandidate
  split_ifs with same
  · exact .exhausted _ rfl found stage same rfl
  · exact .left _ rfl found (.exhausted stage (by simpa using same))

section

variable (found : s.calls[i]? = some call)
include found

theorem nextAttempt_effect (error : Error) (stage : Exhausts a call.stage)
    (turn : ∀ left', Stage.Turn call.stage (.attempting a left')) :
    Effect (.advance i input) s (s.nextAttempt i call a left error input.accepted) := by
  unfold nextAttempt
  split_ifs
  · exact noCandidate_effect _ found stage
  · exact .turned found (turn _)

theorem attempt_effect (stage : call.stage = .attempting a left) :
    Effect (.advance i input) s (s.attempt i call a left input) := by
  have next : Effect (.advance i input) s
      (s.nextAttempt i call a left input.setup.error input.accepted) :=
    nextAttempt_effect found _ (stage ▸ .attempting left) fun left' => stage ▸ .again a left left'
  obtain ⟨accepted, setup⟩ := input
  unfold attempt
  cases setup
  case started id =>
    split_ifs with lost
    · exact next
    · exact .started rfl found stage (by simpa using lost)
  all_goals exact next

theorem setUp_effect (stage : call.stage = .settingUp a left state) :
    Effect (.advance i input) s (s.setUp i call a left state input) := by
  have next : Effect (.advance i input) s
      (s.nextAttempt i call a left .operationTimeout input.accepted) :=
    nextAttempt_effect found _ (stage ▸ .settingUp left state)
      fun left' => stage ▸ .after a left left' state
  obtain ⟨accepted, setup⟩ := input
  unfold setUp
  cases setup
  case completed =>
    split_ifs with same
    · exact .published rfl found stage same rfl
    · exact .turned found (stage ▸ .setUp a left state (by simpa using same))
  case failed => exact .cleaned _ found stage
  case timedOut => exact next
  case started => exact .still

theorem openChannel_effect (stage : call.stage = .opening a state) :
    Effect (.advance i input) s (s.openChannel i call a state input.accepted) := by
  unfold openChannel
  split_ifs with present
  · obtain ⟨token, holds⟩ := Option.isSome_iff_exists.1 present
    exact .stored found stage holds ⟨_, rfl⟩
  · exact .created rfl found stage (by simpa using present) rfl

end

theorem sessionId_invalidate (state state' : ℕ) :
    (s.invalidate state).sessionId state' = s.sessionId state' := by
  simp only [sessionId, invalidate, setState, List.getElem?_modify]
  rcases s.states[state']? with _ | p
  · rfl
  · by_cases same : state = state' <;> simp [same]

theorem endPrevious_effect (accepted : Bool)
    (found : s.calls[i]? = some call) (stage : call.stage = .invalidating a state) :
    Effect m s (s.endPrevious i call a state accepted) := by
  unfold endPrevious
  split_ifs with same
  · exact .ended found stage same (by rw [← sessionId_invalidate a.previous]; rfl)
  · exact .invalidated found stage (by simpa using same)

theorem decide_effect (found : s.calls[i]? = some call)
    (stage : call.stage = .deciding) : Effect m s (s.decide maxWaitingOperations i call) := by
  have refused (error : Error) : Effect m s (s.setStage i call (.returned (.error error))) :=
    .turned found (stage ▸ .refuse error)
  unfold decide
  split
  · split_ifs
    · exact .turned found (stage ▸ .pass)
    · exact refused _
    · exact .turned found (stage ▸ .queue)
  · exact refused _

theorem record_effect {result : Except Error (ℕ × ℕ)}
    (found : s.calls[i]? = some call) (stage : call.stage = .returned result) :
    Effect m s (s.record i call result) := by
  unfold record
  by_cases may : s.mayRecord i call.caller
  · simp only [may, if_true]
    rcases result with error | ⟨previous, replacement⟩
    · exact .recorded found stage (.inr ⟨_, rfl⟩)
    split_ifs with caller
    · exact .recorded found stage (.inl caller)
    · exact .replaced found stage caller
  · simp only [may]
    exact .still

theorem advance_effect (i : ℕ) (input : Input) :
    Effect (.advance i input) s (s.advance maxAttempts maxWaitingOperations i input) := by
  unfold advance
  rcases found : s.calls[i]? with _ | call
  · exact .still
  rcases stage : call.stage with _ | _ | _ | ⟨a, answer⟩ | ⟨a, answer⟩ | ⟨a, left⟩ |
    ⟨a, left, state⟩ | ⟨a, left, error⟩ | ⟨a, error⟩ | ⟨a, state, answer⟩ | ⟨a, state⟩ |
    ⟨a, state, answer⟩ | ⟨a, state⟩ | ⟨a, state⟩ | ⟨a, state⟩ | ⟨a, state⟩ | ⟨result⟩ | ⟨result⟩ | _
  all_goals simp only [stage]
  case deciding => exact decide_effect found stage
  case queued => exact enter_effect found stage
  case beginning =>
    rcases answer with error | ⟨⟨⟩⟩
    · exact .left _ rfl found (.stale stage)
    · exact prepareAttempts_effect found stage
  case resetting =>
    rcases answer with error | ⟨⟨⟩⟩
    · exact .left _ rfl found (.unreset stage)
    split_ifs
    · exact noCandidate_effect _ found (stage ▸ .disabled)
    · exact .turned found (stage ▸ .first a maxAttempts)
  case attempting => exact attempt_effect found stage
  case settingUp => exact setUp_effect found stage
  case cleaning =>
    exact nextAttempt_effect found _ (stage ▸ .cleaning left error)
      fun left' => stage ▸ .cleaned a left left' error
  case failing => exact .left _ rfl found (.failed stage)
  case publishing =>
    rcases answer with error | token
    · exact .left _ rfl found (.unpublished stage)
    simp only [Except.bind, setObject_eq]
    split_ifs with present
    · exact .left _ rfl found (.installed (.inl stage) present)
    · exact .installed found stage (by simpa using present)
  case opening => exact openChannel_effect found stage
  case creating =>
    rcases answer with error | token
    · exact .left _ rfl found (.uncreated stage)
    simp only [Except.bind, setObject_eq]
    split_ifs with present
    · exact .left _ rfl found (.installed (.inr stage) present)
    · exact .createdAndStored found stage (by simpa using present) ⟨_, rfl⟩
  case updating => exact .turned found (stage ▸ .invalidate a state)
  case invalidating => exact endPrevious_effect _ found stage
  case ending => exact .unflagged found stage
  case sharing => exact .released found stage
  case returned => exact record_effect found stage
  all_goals exact .still

theorem dropCall_effect (i : ℕ) : Effect (.dropCall i) s (s.dropCall i) := by
  unfold dropCall
  rcases found : s.calls[i]? with _ | call
  · exact .still
  rcases stage : call.stage with _ | _ | _ | ⟨a, answer⟩ | ⟨a, answer⟩ | ⟨a, left⟩ |
    ⟨a, left, state⟩ | ⟨a, left, error⟩ | ⟨a, error⟩ | ⟨a, state, answer⟩ | ⟨a, state⟩ |
    ⟨a, state, answer⟩ | ⟨a, state⟩ | ⟨a, state⟩ | ⟨a, state⟩ | ⟨a, state⟩ | ⟨result⟩ | ⟨result⟩ | _
  all_goals simp only [stage]
  case deciding => exact .abandoned rfl found (.inl stage)
  case queued => exact .abandoned rfl found (.inr (.inl stage))
  case returned => exact .abandoned rfl found (.inr (.inr ⟨_, stage⟩))
  case sharing => exact .droppedSharing rfl found stage
  case passed | recorded | dropped => exact .still
  all_goals
    exact .droppedHolding (a := a) rfl found (by simp [stage, Stage.attempt?]) (by simp [stage])

theorem login_effect (i : ℕ) (input : Input) : Effect (.login i input) s (s.login i input) := by
  obtain ⟨accepted, setup⟩ := input
  unfold login
  rcases found : s.logins[i]? with _ | login
  · exact .still
  rcases login with ⟨provider⟩ | ⟨provider, state⟩ | ⟨provider, state⟩ | ⟨provider, state, answer⟩ |
    ⟨context⟩ | ⟨result⟩ | _
  case beginning =>
    dsimp only
    split
    · rename_i id alive
      exact .loginStarted rfl found alive
    · exact .loginTurned found (.inl ⟨_, rfl⟩)
  case settingUp =>
    dsimp only
    split
    · exact .loginTurned found (.inr (.inr ⟨provider, state, rfl, rfl⟩))
    · exact .loginCleaned _ found
    all_goals exact .still
  case opening => exact .loginCreated rfl found rfl
  case creating =>
    rcases answer with error | token
    · exact .loginTurned found (.inl ⟨_, rfl⟩)
    simp only [Except.bind, setObject_eq]
    split_ifs with present
    · exact .loginTurned found (.inl ⟨_, rfl⟩)
    · exact .loggedIn found (by simpa using present)
  case registering => exact .registered found
  all_goals exact .still

theorem dropLogin_effect (i : ℕ) : Effect m s (s.dropLogin i) := by
  unfold dropLogin
  rcases found : s.logins[i]? with _ | login
  · exact .still
  rcases login with ⟨provider⟩ | ⟨provider, state⟩ | ⟨provider, state⟩ | ⟨provider, state, answer⟩ |
    ⟨context⟩ | ⟨result⟩ | _
  case registering => exact .loginDropped found
  case returned | dropped => exact .still
  all_goals exact .loginTurned found (.inr (.inl rfl))

theorem callFor_made {context : ℕ} {caller : Caller} {stage : Stage} {call : Call}
    (start : stage = .deciding ∨ stage = .queued) (h : s.callFor context caller stage = some call) :
    Made s call := by
  obtain ⟨c, known, id, current, rfl⟩ := callFor_eq_some.1 h
  exact ⟨start, contextId_eq_some.2 ⟨c, known, current⟩, current⟩

/-- **Every step of a connection is one of its effects.** -/
theorem step_effect (s : Connection) (m : Move) :
    Effect m s (s.step maxAttempts maxWaitingOperations m) := by
  cases m with
  | authenticate provider => exact .authenticated provider
  | login i input => exact login_effect i input
  | dropLogin i => exact dropLogin_effect i
  | waitForReauthentication context =>
    simp only [step]
    split_ifs
    · exact .called _ s.listing fun call made => callFor_made (.inl rfl) (Option.mem_toList.1 made)
    · exact .still
  | recoverSession observed context =>
    simp only [step]
    split_ifs with listed
    · refine .called _ s.listing fun call made => ?_
      obtain ⟨call', source, rfl⟩ := Option.map_eq_some_iff.1 (Option.mem_toList.1 made)
      obtain ⟨c, known, id, current, rfl⟩ := callFor_eq_some.1 source
      have named := contextId_eq_some.2 ⟨c, known, current⟩
      exact ⟨.inr rfl, named, listed.2 ▸ named⟩
    · exact .still
  | recoverSessions order =>
    simp only [step]
    split_ifs
    · refine .called _ false fun call made => ?_
      obtain ⟨context, -, source⟩ := List.mem_filterMap.1 made
      exact callFor_made (.inr rfl) source
    · exact .still
  | advance i input => exact advance_effect i input
  | dropCall i => exact dropCall_effect i
  | dropContext context =>
    simp only [step]
    split_ifs with free
    · exact .contextDropped context (by simpa using free)
    · exact .still
  | createObject parent kind =>
    simp only [step]
    split_ifs with session
    · exact .still
    · exact .objectCreated session rfl
  | lose => exact .lost
  | reconnect =>
    simp only [step]
    split_ifs with ready
    · exact .reconnected rfl ready.1 ready.2.1
    · exact .still

end

end Connection

end Domain
