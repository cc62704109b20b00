import SmbClient.Domain.Proof.Effects

/-!
# What a call that has the mutex may rely on

`Effect.kind` reads off each effect what it does to the calls, the contexts and the states. `Placed`
is the invariant of every run: a context's generation is a state set up for that context, and from
the mutex to the store it is the one the call has loaded.
-/

namespace Domain

open Runtime Stage Calls

namespace Stage

def succeeded : Stage → Bool
  | .returned (.ok _) | .recorded (.ok _) => true
  | _ => false

def publishes : Stage → Bool
  | .opening _ _ | .creating _ _ _ => true
  | _ => false

def hasFailed : Stage → Bool
  | .returned (.error _) | .dropped => true
  | _ => false

theorem attempt?_of_stored {stage : Stage} {p : ℕ}
    (h : stage.candidate? = some p ∨ stage.stored? = some p) : ∃ a, stage.attempt? = some a := by
  cases stage <;> simp [candidate?, stored?, attempt?] at h ⊢

theorem stored?_of_candidate {stage : Stage} {p : ℕ} (h : stage.candidate? = some p) :
    stage.stored? = none := by
  cases stage <;> simp [candidate?, stored?] at h ⊢

end Stage

def Login.state? : Login → Option ℕ
  | .settingUp _ state | .opening _ state | .creating _ state _ => some state
  | _ => none

namespace Connection

variable (s : Connection)

def tag (state : ℕ) : Option ℕ := s.states[state]?.bind (·.context)

variable (context : ℕ)

def generationOf : Option ℕ := s.contexts[context]?.map (·.generation)

def lockOf : Option ℕ := s.contexts[context]?.bind (·.recovery)

def flagOf : Option Bool := s.contexts[context]?.map (·.recovering)

/-! ## States -/

structure Grown (m : Move) (s s' : Connection) : Prop where
  length : s.states.length ≤ s'.states.length
  id : ∀ p id, s.sessionId p = some id → s'.sessionId p = some id
  new : ∀ p id, s'.sessionId p = some id →
    s.sessionId p = some id ∨ p = s.states.length ∧ m.startedId = some id

def SameTags (s s' : Connection) : Prop := ∀ p, p < s.states.length → s'.tag p = s.tag p

section
variable {m : Move} {s s' : Connection}
variable {p id : ℕ}

theorem lt_of_sessionId (h : s.sessionId p = some id) : p < s.states.length := by
  obtain ⟨_, found, _⟩ := sessionId_eq_some.1 h
  exact (List.getElem?_eq_some_iff.1 found).1

theorem lt_of_tag {context : ℕ} (h : s.tag p = some context) : p < s.states.length := by
  obtain ⟨_, found, _⟩ := Option.bind_eq_some_iff.1 h
  exact (List.getElem?_eq_some_iff.1 found).1

theorem Grown.of_eq (same : s'.states = s.states) : Grown m s s' := by
  have ids (p : ℕ) : s'.sessionId p = s.sessionId p := by simp only [sessionId, same]
  exact ⟨same ▸ le_rfl, fun p id h => ids p ▸ h, fun p id h => .inl (ids p ▸ h)⟩

theorem SameTags.of_eq (same : s'.states = s.states) : SameTags s s' := by
  intro p _
  simp only [tag, same]

theorem Grown.of_modify {f : SessionAndChannel → SessionAndChannel}
    (modified : s'.states = s.states.modify p f) (keeps : ∀ x, (f x).sessionId = x.sessionId) :
    Grown m s s' := by
  have ids (q : ℕ) : s'.sessionId q = s.sessionId q := by
    simp only [sessionId, modified]
    by_cases same : p = q <;> simp [same, Function.comp_def, keeps]
  exact ⟨by simp [modified], fun q id h => ids q ▸ h, fun q id h => .inl (ids q ▸ h)⟩

theorem SameTags.of_modify {f : SessionAndChannel → SessionAndChannel}
    (modified : s'.states = s.states.modify p f) (keeps : ∀ x, (f x).context = x.context) :
    SameTags s s' := by
  intro q _
  simp only [tag, modified, List.getElem?_modify]
  rcases s.states[q]? with _ | x
  · rfl
  · by_cases same : p = q <;> simp [same, keeps]

theorem Grown.of_concat {x : SessionAndChannel} (started : s'.states = s.states ++ [x])
    (move : m.startedId = some x.sessionId) : Grown m s s' := by
  refine ⟨by simp [started], fun p id h => ?_, fun p id h => ?_⟩
  · simp only [sessionId, started, List.getElem?_append_left (lt_of_sessionId h)]
    exact h
  · obtain ⟨y, found, rfl⟩ := sessionId_eq_some.1 h
    rcases getElem?_concat_cases (started ▸ found) with old | ⟨rfl, rfl⟩
    · exact .inl (sessionId_eq_some.2 ⟨y, old, rfl⟩)
    · exact .inr ⟨rfl, move⟩

theorem SameTags.of_concat {x : SessionAndChannel} (started : s'.states = s.states ++ [x]) :
    SameTags s s' := by
  intro p bound
  simp only [tag, started, List.getElem?_append_left bound]

theorem tag_length {object : Option ObjectToken} {invalid : Bool} {context : Option ℕ}
    (started : s'.states = s.states ++ [⟨id, object, invalid, context⟩]) :
    s'.tag s.states.length = context := by
  simp [tag, started]

end

/-! ## Contexts -/

structure SameContexts (s s' : Connection) : Prop where
  generation : ∀ k, s'.generationOf k = s.generationOf k
  lock : ∀ k, s'.lockOf k = s.lockOf k
  flag : ∀ k, s'.flagOf k = s.flagOf k
  length : s'.contexts.length = s.contexts.length

section
variable {s s' : Connection}
variable {k : ℕ}

theorem SameContexts.of_eq (same : s'.contexts = s.contexts) : SameContexts s s' :=
  ⟨fun k => by simp only [generationOf, same], fun k => by simp only [lockOf, same],
    fun k => by simp only [flagOf, same], by rw [same]⟩

section
variable {f : SessionContext → SessionContext} (modified : s'.contexts = s.contexts.modify k f)
include modified

variable (j : ℕ)

theorem generationOf_modify : s'.generationOf j =
      s.contexts[j]?.map fun c => if k = j then (f c).generation else c.generation := by
  simp only [generationOf, modified]
  by_cases same : k = j <;> simp [same, Function.comp_def]

theorem lockOf_modify :
    s'.lockOf j = s.contexts[j]?.bind fun c => if k = j then (f c).recovery else c.recovery := by
  simp only [lockOf, modified, List.getElem?_modify]
  by_cases same : k = j <;> rcases s.contexts[j]? <;> simp [same]

theorem flagOf_modify :
    s'.flagOf j = s.contexts[j]?.map fun c => if k = j then (f c).recovering else c.recovering := by
  simp only [flagOf, modified]
  by_cases same : k = j <;> simp [same, Function.comp_def]

theorem generationOf_of_modify
    (keeps : k ≠ j ∨ ∀ c, (f c).generation = c.generation) :
    s'.generationOf j = s.generationOf j := by
  rw [generationOf_modify modified, generationOf]
  rcases keeps with other | keeps
  · simp [other]
  · simp [keeps]

theorem lockOf_of_modify
    (keeps : k ≠ j ∨ ∀ c, (f c).recovery = c.recovery) : s'.lockOf j = s.lockOf j := by
  rw [lockOf_modify modified, lockOf]
  rcases keeps with other | keeps
  · simp [other]
  · simp [keeps]

theorem flagOf_of_modify
    (keeps : k ≠ j ∨ ∀ c, (f c).recovering = c.recovering) : s'.flagOf j = s.flagOf j := by
  rw [flagOf_modify modified, flagOf]
  rcases keeps with other | keeps
  · simp [other]
  · simp [keeps]

theorem SameContexts.of_modify (generation : ∀ c, (f c).generation = c.generation)
    (lock : ∀ c, (f c).recovery = c.recovery) (flag : ∀ c, (f c).recovering = c.recovering) :
    SameContexts s s' :=
  ⟨fun j => generationOf_of_modify modified j (.inr generation),
    fun j => lockOf_of_modify modified j (.inr lock),
    fun j => flagOf_of_modify modified j (.inr flag), by simp [modified]⟩

end

end

/-! ## Kinds of steps -/

inductive Passage (s s' : Connection) (i : ℕ) (call : Call) :
    Stage → (SessionContext → SessionContext) → List Replacement → Prop where
  | turn {stage : Stage} (attempt : stage.attempt? = call.stage.attempt?)
      (stored : stage.stored? = call.stage.stored?)
      (candidate : stage.candidate? = none ∨ stage.candidate? = call.stage.candidate?)
      (working : call.stage.holdsLock = true ∨ call.stage = .deciding)
      (succeeded : stage.succeeded = false) (early : ∀ a p, stage ≠ .sharing a p) :
      Passage s s' i call stage (fun c => c) []
  | pass {id generation : ℕ} (known : s.generationOf call.context = some generation)
      (current : s.sessionId generation = some id) (differs : id ≠ call.expectedSessionId)
      (queued : call.stage = .queued) (free : s.lockOf call.context = none) :
      Passage s s' i call (.returned (.ok (call.expectedSessionId, id))) (fun c => c) []
  | record {result : Except Error (ℕ × ℕ)} (returned : call.stage = .returned result) :
      Passage s s' i call (.recorded result) (fun c => c) []
  | abandon (waiting : call.stage = .deciding ∨ call.stage = .queued ∨
        ∃ result, call.stage = .returned result) : Passage s s' i call .dropped (fun c => c) []
  | start {a : Attempt} {left : ℕ} (stage : call.stage = .attempting a left)
      (tagged : s'.tag s.states.length = some call.context) :
      Passage s s' i call (.settingUp a left s.states.length) (fun c => c) []
  | take {a : Attempt} {stage : Stage} (queued : call.stage = .queued)
      (free : s.lockOf call.context = none) (known : s.generationOf call.context = some a.previous)
      (current : s.sessionId a.previous = some call.expectedSessionId)
      (object : s.object a.previous = some a.previousObject) (attempt : stage.attempt? = some a)
      (stored : stage.stored? = none) (candidate : stage.candidate? = none) :
      Passage s s' i call stage (·.taken i) []
  | clear {stage : Stage} (held : call.stage.holdsLock = true ∨ s.lockOf call.context = none)
      (attempt : stage.attempt? = none) (failed : stage.hasFailed = true) :
      Passage s s' i call stage (·.cleared) []
  | store {a : Attempt} {state : ℕ} (publishes : call.stage.publishes = true)
      (attempt : call.stage.attempt? = some a) (candidate : call.stage.candidate? = some state) :
      Passage s s' i call (.updating a state) (·.moved state) [⟨i, call.context, a.previous, state⟩]
  | unflag {a : Attempt} {state : ℕ} (attempt : call.stage.attempt? = some a)
      (stored : call.stage.stored? = some state) :
      Passage s s' i call (.sharing a state) (·.unflagged) []
  | release {a : Attempt} {state : ℕ} {stage : Stage} (sharing : call.stage = .sharing a state)
      (ends : stage = .dropped ∨
        stage = .returned (.ok (call.expectedSessionId, (s.sessionId state).getD 0))) :
      Passage s s' i call stage (·.unlocked) []

structure Passes (m : Move) (s s' : Connection) (i : ℕ) (call : Call) (stage : Stage)
    (f : SessionContext → SessionContext) (new : List Replacement) : Prop where
  calls : s'.calls = s.calls.set i { call with stage }
  contexts : s'.contexts = s.contexts.modify call.context f
  replaced : s'.replaced = s.replaced ++ new
  logins : s'.logins = s.logins
  grown : Grown m s s'
  tags : SameTags s s'

inductive Kind (m : Move) (s s' : Connection) : Prop where
  | passage {i : ℕ} {call : Call} {stage : Stage} {f : SessionContext → SessionContext}
      {new : List Replacement} (found : s.calls[i]? = some call)
      (passage : Passage s s' i call stage f new) (passes : Passes m s s' i call stage f new)
  | called {new : List Call} (made : ∀ call ∈ new, Made s call) (calls : s'.calls = s.calls ++ new)
      (contexts : s'.contexts = s.contexts) (replaced : s'.replaced = s.replaced)
      (logins : s'.logins = s.logins) (states : s'.states = s.states)
  | login {i : ℕ} {login login' : Login} (found : s.logins[i]? = some login)
      (logins : s'.logins = s.logins.set i login')
      (state : ∀ p, login'.state? = some p → login.state? = some p ∨
        p = s.states.length ∧ p < s'.states.length ∧ s'.tag p = none)
      (calls : s'.calls = s.calls) (contexts : SameContexts s s')
      (replaced : s'.replaced = s.replaced) (grown : Grown m s s') (tags : SameTags s s')
  | loggedIn {i state : ℕ} {login : Login} {context : SessionContext}
      (found : s.logins[i]? = some login) (set : login.state? = some state)
      (logins : s'.logins = s.logins.set i (.registering s.contexts.length))
      (contexts : s'.contexts = s.contexts ++ [context]) (generation : context.generation = state)
      (free : context.recovery = none ∧ context.recovering = false) (calls : s'.calls = s.calls)
      (replaced : s'.replaced = s.replaced) (grown : Grown m s s')
      (tagged : state < s.states.length → s'.tag state = some s.contexts.length)
      (tags : ∀ p ≠ state, p < s.states.length → s'.tag p = s.tag p) (bare : s.object state = none)
  | rest (calls : s'.calls = s.calls) (contexts : SameContexts s s')
      (replaced : s'.replaced = s.replaced)
      (logins : s'.logins = s.logins ∨ ∃ provider, s'.logins = s.logins ++ [.beginning provider])
      (states : s'.states = s.states)

section
variable {m : Move} {s s' : Connection}
variable {i : ℕ} {stage : Stage}

theorem install_states (s : Connection) (state : ℕ) (token : ObjectToken) :
    ((s.install state token).setState state
      fun p => { p with context := some s.contexts.length }).states =
      s.states.modify state fun p =>
        { p with object := some token, context := some s.contexts.length } := by
  simp [install, setState, List.modify_modify_eq, Function.comp_def]

theorem modify_self (k : ℕ) : s.contexts = s.contexts.modify k fun c => c :=
  (List.modify_id _ _).symm

theorem Kind.of_turn {call : Call} {before : Stage} (found : s.calls[i]? = some call)
    (hit : call.stage = before) (passes : Passes m s s' i call stage (fun c => c) [])
    (candidate : stage.candidate? = none ∨
      stage.candidate? = before.candidate? := by exact .inl rfl)
    (attempt : stage.attempt? = before.attempt? := by rfl)
    (stored : stage.stored? = before.stored? := by rfl) (holds : stage.holdsLock = true := by rfl)
    (early : ∀ a p, stage ≠ .sharing a p := by simp) : Kind m s s' := by
  subst hit
  refine .passage found (.turn attempt stored candidate (.inl ?_) ?_ early) passes
  · rw [holdsLock_iff, ← attempt]
    exact holdsLock_iff.1 holds
  · cases stage <;> first | rfl | cases holds

theorem Passes.of_rfl {call : Call} {f : SessionContext → SessionContext}
    (grown : Grown m s s' := by exact .of_eq rfl) (tags : SameTags s s' := by exact .of_eq rfl)
    (calls : s'.calls = s.calls.set i { call with stage } := by rfl)
    (contexts : s'.contexts = s.contexts.modify call.context f := by
      first | rfl | exact modify_self _)
    (replaced : s'.replaced = s.replaced := by rfl) (logins : s'.logins = s.logins := by rfl) :
    Passes m s s' i call stage f [] :=
  ⟨calls, contexts, by simp [replaced], logins, grown, tags⟩

theorem generationOf_eq_some {k generation : ℕ} :
    s.generationOf k = some generation ↔ ∃ c, s.contexts[k]? = some c ∧
    c.generation = generation := by
  simp [generationOf]

theorem lockOf_eq_none {k : ℕ} {c : SessionContext} (known : s.contexts[k]? = some c)
    (free : c.recovery = none) : s.lockOf k = none := by
  simp [lockOf, known, free]

theorem Exhausts.attempt {a : Attempt} (h : Exhausts a stage) :
    stage.attempt? = some a ∧ stage.stored? = none := by
  cases h <;> exact ⟨rfl, rfl⟩

theorem Exhausts.holdsLock {a : Attempt} (h : Exhausts a stage) : stage.holdsLock = true :=
  holdsLock_iff.2 (by simp [h.attempt])

theorem Leaves.held {call : Call} (leaves : Leaves s call) :
    call.stage.holdsLock = true ∨ s.lockOf call.context = none := by
  cases leaves with
  | early _ known free => exact .inr (lockOf_eq_none known free)
  | exhausted stage _ => exact .inl stage.holdsLock
  | installed stage _ => rcases stage with stage | stage <;> exact .inl (by rw [stage]; rfl)
  | stale stage | unprovided stage | unreset stage | failed stage | unpublished stage
  | uncreated stage => exact .inl (by rw [stage]; rfl)

/-- What an effect does to the calls, the contexts and the states. -/
theorem Effect.kind (e : Effect m s s') : Kind m s s' := by
  cases e with
  | still => exact .rest rfl (.of_eq rfl) rfl (.inl rfl) rfl
  | called calls listing made => exact .called made rfl rfl rfl rfl rfl
  | turned found turn =>
    refine .passage found (.turn ?_ ?_ ?_ ?_ ?_ ?_) .of_rfl
    all_goals
      generalize Call.stage _ = before at turn
      cases turn <;>
        simp [attempt?, stored?, candidate?, succeeded, holdsLock]
  | reset move found stage answer answered => exact .of_turn found stage .of_rfl
  | passedBy found stage known free current differs =>
    exact .passage found (.pass (generationOf_eq_some.2 ⟨_, known, rfl⟩) current differs stage
      (lockOf_eq_none known free)) .of_rfl
  | began found stage known free previous current object runtime same command =>
    exact .passage found (.take stage (lockOf_eq_none known free)
      (generationOf_eq_some.2 ⟨_, known, previous.symm⟩) current object rfl rfl rfl) .of_rfl
  | entered answer found stage known free previous current object runtime other =>
    exact .passage found (.take stage (lockOf_eq_none known free)
      (generationOf_eq_some.2 ⟨_, known, previous.symm⟩) current object rfl rfl rfl) .of_rfl
  | left error move found leaves =>
    exact .passage found (.clear leaves.held rfl rfl) .of_rfl
  | exhausted error move found stage same command =>
    obtain ⟨attempt, stored⟩ := stage.attempt
    refine .of_turn found rfl .of_rfl (by exact .inl rfl) ?_ ?_
    · exact attempt.symm
    · exact stored.symm
  | started move found stage alive =>
    exact .passage found (.start stage (tag_length rfl))
      (.of_rfl (.of_concat rfl move) (.of_concat rfl))
  | cleaned error found stage =>
    exact .of_turn found stage
      (.of_rfl (.of_modify rfl fun _ => rfl) (.of_modify rfl fun _ => rfl))
  | published move found stage same command =>
    exact .of_turn found stage .of_rfl (by exact .inr rfl)
  | installed found stage bare =>
    exact .of_turn found stage
      (.of_rfl (.of_modify rfl fun _ => rfl) (.of_modify rfl fun _ => rfl)) (by exact .inr rfl)
  | created _ found stage bare command => exact .of_turn found stage .of_rfl (by exact .inr rfl)
  | stored found stage object =>
    exact .passage found (.store (by rw [stage]; rfl) (by rw [stage]; rfl) (by rw [stage]; rfl))
      ⟨rfl, rfl, rfl, rfl, .of_eq rfl, .of_eq rfl⟩
  | createdAndStored found stage bare =>
    exact .passage found (.store (by rw [stage]; rfl) (by rw [stage]; rfl) (by rw [stage]; rfl))
      ⟨rfl, rfl, rfl, rfl, .of_modify rfl fun _ => rfl, .of_modify rfl fun _ => rfl⟩
  | ended found stage same command =>
    exact .of_turn found stage
      (.of_rfl (.of_modify rfl fun _ => rfl) (.of_modify rfl fun _ => rfl))
  | invalidated found stage other =>
    exact .passage found (.unflag (by rw [stage]; rfl) (by rw [stage]; rfl))
      (.of_rfl (.of_modify rfl fun _ => rfl) (.of_modify rfl fun _ => rfl))
  | unflagged found stage =>
    exact .passage found (.unflag (by rw [stage]; rfl) (by rw [stage]; rfl)) .of_rfl
  | released found stage =>
    exact .passage found (.release stage (.inr rfl)) .of_rfl
  | recorded found stage nothing => exact .passage found (.record stage) .of_rfl
  | replaced found stage caller => exact .passage found (.record stage) .of_rfl
  | abandoned move found stage => exact .passage found (.abandon stage) .of_rfl
  | droppedSharing move found stage =>
    exact .passage found (.release stage (.inl rfl)) .of_rfl
  | droppedHolding move found stage working =>
    exact .passage found (.clear (.inl (holdsLock_iff.2 (by simp [stage]))) rfl rfl) .of_rfl
  | authenticated provider => exact .rest rfl (.of_eq rfl) rfl (.inr ⟨provider, rfl⟩) rfl
  | @loginTurned i login login' found turn =>
    refine .login found rfl (fun p h => .inl ?_) rfl (.of_eq rfl) rfl (.of_eq rfl) (.of_eq rfl)
    rcases turn with ⟨_, rfl⟩ | rfl | ⟨provider, state, rfl, rfl⟩
    · cases h
    · cases h
    · exact h
  | loginStarted move found alive =>
    refine .login found rfl (fun p h => ?_) rfl (.of_eq rfl) rfl (.of_concat rfl move)
      (.of_concat rfl)
    obtain rfl := Option.some.inj h
    exact .inr ⟨rfl, by simp [setLogin, startSession], tag_length rfl⟩
  | loginCleaned error found =>
    exact .login found rfl (by simp [Login.state?]) rfl (.of_eq rfl) rfl
      (.of_modify rfl fun _ => rfl) (.of_modify rfl fun _ => rfl)
  | loginCreated _ found command =>
    exact .login found rfl (fun p h => .inl h) rfl (.of_eq rfl) rfl (.of_eq rfl) (.of_eq rfl)
  | @loggedIn i state provider token found bare =>
    have states := s.install_states state token
    refine .loggedIn found rfl rfl rfl rfl ⟨rfl, rfl⟩ rfl rfl (.of_modify states fun _ => rfl)
      (fun bound => ?_) (fun p other bound => ?_) bare
    · simp [tag, states, bound]
    · simp [tag, states, other.symm]
  | registered found =>
    exact .login found rfl (by simp [Login.state?]) rfl (.of_eq rfl) rfl (.of_eq rfl) (.of_eq rfl)
  | loginDropped found =>
    exact .login found rfl (by simp [Login.state?]) rfl
      (.of_modify rfl (fun _ => rfl) (fun _ => rfl) fun _ => rfl) rfl (.of_eq rfl) (.of_eq rfl)
  | contextDropped context free =>
    exact .rest rfl (.of_modify rfl (fun _ => rfl) (fun _ => rfl) fun _ => rfl) rfl (.inl rfl) rfl
  | objectCreated | lost | reconnected => exact .rest rfl (.of_eq rfl) rfl (.inl rfl) rfl

theorem Kind.call (kind : Kind m s s') {j : ℕ} {call' : Call} (found' : s'.calls[j]? = some call') :
    s.calls[j]? = some call' ∨
      (∃ (call : Call) (stage : Stage) (f : SessionContext → SessionContext)
        (new : List Replacement),
        s.calls[j]? = some call ∧ Passage s s' j call stage f new ∧ call' = { call with stage }) ∨
      Made s call' := by
  cases kind with
  | passage found passage passes =>
    rcases getElem?_set_cases (passes.calls ▸ found') with ⟨rfl, rfl⟩ | ⟨-, old⟩
    · exact .inr (.inl ⟨_, _, _, _, found, passage, rfl⟩)
    · exact .inl old
  | called made calls _ _ _ _ =>
    rcases getElem?_append_cases (calls ▸ found') with old | ⟨-, new⟩
    · exact .inl old
    · exact .inr (.inr (made _ new))
  | login _ _ _ calls _ _ _ _ => exact .inl (calls ▸ found')
  | loggedIn _ _ _ _ _ _ calls _ _ _ _ => exact .inl (calls ▸ found')
  | rest calls _ _ _ _ => exact .inl (calls ▸ found')

theorem Kind.call_keep (kind : Kind m s s') {j : ℕ} {call : Call}
    (found : s.calls[j]? = some call) :
    s'.calls[j]? = some call ∨ ∃ stage f new, Passage s s' j call stage f new ∧
      s'.calls[j]? = some { call with stage } ∧ Passes m s s' j call stage f new := by
  cases kind with
  | @passage i call' stage f new found' passage passes =>
    by_cases same : i = j
    · subst same
      obtain rfl := Option.mem_unique found' found
      exact .inr ⟨stage, f, new, passage, by
        rw [passes.calls, List.getElem?_set_self (List.getElem?_eq_some_iff.1 found).1], passes⟩
    · exact .inl (by rw [passes.calls, List.getElem?_set_ne same]; exact found)
  | called _ calls _ _ _ _ =>
    exact .inl
      (by rw [calls, List.getElem?_append_left (List.getElem?_eq_some_iff.1 found).1]; exact found)
  | login _ _ _ calls _ _ _ _ => exact .inl (calls ▸ found)
  | loggedIn _ _ _ _ _ _ calls _ _ _ _ => exact .inl (calls ▸ found)
  | rest calls _ _ _ _ => exact .inl (calls ▸ found)

end

/-! ## The invariant -/

structure Held (s : Connection) (i : ℕ) (call : Call) (a : Attempt) : Prop where
  lock : s.lockOf call.context = some i
  generation : s.generationOf call.context = some (call.stage.stored?.getD a.previous)
  previous : s.tag a.previous = some call.context
  target : ∀ p, call.stage.candidate? = some p ∨ call.stage.stored? = some p →
    a.previous < p ∧ s.tag p = some call.context

structure Placed (s : Connection) : Prop where
  generation : ∀ k p, s.generationOf k = some p → s.tag p = some k
  called : ∀ call ∈ s.calls, call.context < s.contexts.length
  held : ∀ (i : ℕ) call a, s.calls[i]? = some call → call.stage.attempt? = some a → Held s i call a
  login : ∀ (i : ℕ) login p, s.logins[i]? = some login → login.state? = some p →
    p < s.states.length ∧ s.tag p = none
  apart : ∀ (i j : ℕ) login login' p, s.logins[i]? = some login → s.logins[j]? = some login' →
    login.state? = some p → login'.state? = some p → i = j

section
variable {m : Move} {s s' : Connection}
variable {k p i : ℕ}

theorem generationOf_concat {c : SessionContext} (contexts : s'.contexts = s.contexts ++ [c])
    (h : s.generationOf k = some p) : s'.generationOf k = some p := by
  obtain ⟨x, known, rfl⟩ := generationOf_eq_some.1 h
  exact generationOf_eq_some.2 ⟨x, contexts ▸ getElem?_concat_of c known, rfl⟩

theorem lockOf_concat {c : SessionContext} (contexts : s'.contexts = s.contexts ++ [c])
    (h : s.lockOf k = some i) : s'.lockOf k = some i := by
  obtain ⟨x, known, held⟩ := Option.bind_eq_some_iff.1 h
  exact Option.bind_eq_some_iff.2 ⟨x, contexts ▸ getElem?_concat_of c known, held⟩

theorem Held.keep {call : Call} {a : Attempt} (held : Held s i call a)
    (lock : s'.lockOf call.context = s.lockOf call.context)
    (generation : s'.generationOf call.context = s.generationOf call.context)
    (tags : ∀ p, s.tag p = some call.context → s'.tag p = some call.context) : Held s' i call a :=
  ⟨lock.trans held.lock, generation.trans held.generation, tags _ held.previous, fun p h =>
    ⟨(held.target p h).1, tags p (held.target p h).2⟩⟩

theorem SameTags.keep (tags : SameTags s s') (h : s.tag p = some k) : s'.tag p = some k :=
  (tags p (lt_of_tag h)).trans h

section passage
variable {i : ℕ} {call : Call} {stage : Stage} {f : SessionContext → SessionContext}
  {new : List Replacement}

section
variable (passage : Passage s s' i call stage f new)
    (contexts : s'.contexts = s.contexts.modify call.context f)
include passage contexts

theorem Passage.generation (k : ℕ) :
    s'.generationOf k = s.generationOf k ∨
      k = call.context ∧ ∃ a state, call.stage.attempt? = some a ∧
        call.stage.candidate? = some state ∧ stage = .updating a state ∧
        new = [⟨i, call.context, a.previous, state⟩] ∧
        s'.generationOf k = (s.generationOf k).map fun _ => state := by
  cases passage with
  | @store a state _ attempt candidate =>
    by_cases same : call.context = k
    · refine .inr ⟨same.symm, a, state, attempt, candidate, rfl, rfl, ?_⟩
      rw [generationOf_modify contexts]
      simp [same, SessionContext.moved, generationOf, Function.comp_def]
    · exact .inl (generationOf_of_modify contexts k (.inl same))
  | _ => exact .inl (generationOf_of_modify contexts k (.inr fun _ => rfl))

theorem Passage.frame (held : ∀ a, call.stage.attempt? = some a → s.lockOf call.context = some i)
    {j k : ℕ} (other : j ≠ i) (lock : s.lockOf k = some j) :
    s'.lockOf k = s.lockOf k ∧ s'.generationOf k = s.generationOf k := by
  -- The mutex of `k` is not the one the call has or takes.
  have apart (h : s.lockOf call.context = some i ∨ s.lockOf call.context = none) :
      call.context ≠ k := by
    rintro rfl
    rcases h with h | h <;> rw [lock] at h
    · exact other (Option.some.inj h)
    · cases h
  have elsewhere (h : s.lockOf call.context = some i ∨ s.lockOf call.context = none) :
      s'.lockOf k = s.lockOf k ∧ s'.generationOf k = s.generationOf k :=
    ⟨lockOf_of_modify contexts k (.inl (apart h)), generationOf_of_modify contexts k
      (.inl (apart h))⟩
  have kept (recovery : ∀ c, (f c).recovery = c.recovery)
      (generation : ∀ c, (f c).generation = c.generation) :
      s'.lockOf k = s.lockOf k ∧ s'.generationOf k = s.generationOf k :=
    ⟨lockOf_of_modify contexts k (.inr recovery), generationOf_of_modify contexts k
      (.inr generation)⟩
  cases passage with
  | turn | pass | record | abandon | start | unflag => exact kept (fun _ => rfl) fun _ => rfl
  | take _ free => exact elsewhere (.inr free)
  | clear holds =>
    rcases holds with holds | free
    · obtain ⟨a, attempt⟩ := Option.isSome_iff_exists.1 (holdsLock_iff.1 holds)
      exact elsewhere (.inl (held a attempt))
    · exact elsewhere (.inr free)
  | store _ attempt => exact elsewhere (.inl (held _ attempt))
  | release sharing => exact elsewhere (.inl (held _ (by rw [sharing]; rfl)))

theorem Passage.held (tags : SameTags s s')
    (generation : ∀ k p, s.generationOf k = some p → s.tag p = some k)
    (held : ∀ a, call.stage.attempt? = some a → Held s i call a) {a : Attempt}
    (attempt : stage.attempt? = some a) : Held s' i { call with stage } a := by
  cases passage with
  | turn same stored candidate _ _ _ =>
    have old := held a (same ▸ attempt)
    refine ⟨(lockOf_of_modify contexts _ (.inr fun _ => rfl)).trans old.lock, ?_,
      tags.keep old.previous, fun p h => ?_⟩
    · rw [generationOf_of_modify contexts _ (.inr fun _ => rfl), old.generation, stored]
    · have target := old.target p (h.imp (fun h => candidate.elim (fun none => by simp [none] at h)
        fun same => same ▸ h) fun h => stored ▸ h)
      exact ⟨target.1, tags.keep target.2⟩
  | pass | record | abandon => cases attempt
  | start hit tagged =>
    obtain rfl := Option.some.inj attempt
    have old := held _ (by rw [hit]; rfl)
    have previous : s.generationOf call.context = some _ := old.generation
    rw [hit] at previous
    refine ⟨(lockOf_of_modify contexts _ (.inr fun _ => rfl)).trans old.lock,
      (generationOf_of_modify contexts _ (.inr fun _ => rfl)).trans previous,
      tags.keep old.previous, fun p h => ?_⟩
    obtain rfl : s.states.length = p := by simpa [candidate?, stored?] using h
    exact ⟨lt_of_tag (generation _ _ previous), tagged⟩
  | take _ _ known _ _ attempt' stored candidate =>
    obtain rfl := Option.mem_unique attempt attempt'
    obtain ⟨c, found, -⟩ := generationOf_eq_some.1 known
    refine ⟨?_, ?_, tags.keep (generation _ _ known), fun p h => ?_⟩
    · simp [lockOf_modify contexts, found, SessionContext.taken]
    · rw [generationOf_of_modify contexts _ (.inr fun _ => rfl), known, stored]
      rfl
    · simp [stored, candidate] at h
  | clear _ attempt' => simp [attempt'] at attempt
  | store _ attempt' candidate =>
    obtain rfl := Option.some.inj attempt
    have old := held _ attempt'
    have target := old.target _ (.inl candidate)
    refine ⟨(lockOf_of_modify contexts _ (.inr fun _ => rfl)).trans old.lock, ?_,
      tags.keep old.previous, fun p h => ?_⟩
    · obtain ⟨c, found, -⟩ := generationOf_eq_some.1 old.generation
      simp [generationOf_modify contexts, found, SessionContext.moved, stored?]
    · obtain rfl : _ = p := by simpa [candidate?, stored?] using h
      exact ⟨target.1, tags.keep target.2⟩
  | unflag attempt' stored =>
    obtain rfl := Option.some.inj attempt
    have old := held _ attempt'
    refine ⟨(lockOf_of_modify contexts _ (.inr fun _ => rfl)).trans old.lock, ?_,
      tags.keep old.previous, fun p h => ?_⟩
    · rw [generationOf_of_modify contexts _ (.inr fun _ => rfl), old.generation, stored]
      rfl
    · obtain rfl : _ = p := by simpa [candidate?, stored?] using h
      have target := old.target _ (.inr stored)
      exact ⟨target.1, tags.keep target.2⟩
  | release _ ends => rcases ends with rfl | rfl <;> cases attempt

end

end passage

theorem Placed.keep_tag (placed : Placed s) (kind : Kind m s s') (h : s.tag p = some k) :
    s'.tag p = some k := by
  cases kind with
  | passage _ _ passes => exact passes.tags.keep h
  | called _ _ _ _ _ states => exact (SameTags.of_eq states).keep h
  | login _ _ _ _ _ _ _ tags => exact tags.keep h
  | loggedIn found set _ _ _ _ _ _ _ _ tags =>
    -- The login's state had no context yet, so no other one changes.
    refine (tags p ?_ (lt_of_tag h)).trans h
    rintro rfl
    simp [(placed.login _ _ _ found set).2] at h
  | rest _ _ _ _ states => exact (SameTags.of_eq states).keep h

theorem Placed.logins_step {login login' : Login} (placed : Placed s)
    (found : s.logins[i]? = some login) (logins : s'.logins = s.logins.set i login')
    (state : ∀ p, login'.state? = some p → login.state? = some p ∨ p = s.states.length) {j : ℕ}
    {l l' : Login} (at_j : s'.logins[j]? = some l) (at_k : s'.logins[k]? = some l')
    (set_j : l.state? = some p) (set_k : l'.state? = some p) : j = k := by
  have old {j : ℕ} {l : Login} (h : s.logins[j]? = some l) (set : l.state? = some p) (other : j ≠ i)
      (new : login'.state? = some p) : False := by
    rcases state p new with before | rfl
    · exact other (placed.apart _ _ _ _ p h found set before)
    · exact (placed.login _ _ _ h set).1.ne rfl
  rw [logins] at at_j at_k
  rcases getElem?_set_cases at_j with ⟨rfl, rfl⟩ | ⟨other_j, was_j⟩ <;>
    rcases getElem?_set_cases at_k with ⟨rfl, rfl⟩ | ⟨other_k, was_k⟩
  · rfl
  · exact (old was_k set_k other_k set_j).elim
  · exact (old was_j set_j other_j set_k).elim
  · exact placed.apart _ _ _ _ p was_j was_k set_j set_k

/-- **Every step keeps calls, contexts and states in their places.** -/
theorem Placed.step (placed : Placed s) (kind : Kind m s s') : Placed s' := by
  have keep {p k : ℕ} : s.tag p = some k → s'.tag p = some k := placed.keep_tag kind
  cases kind with
  | @passage i call stage f new found passage passes =>
    obtain ⟨calls, contexts, -, logins, grown, tags⟩ := passes
    have length : s'.contexts.length = s.contexts.length := by simp [contexts]
    have lock (a : Attempt) (h : call.stage.attempt? = some a) : s.lockOf call.context = some i :=
      (placed.held i call a found h).lock
    refine ⟨fun k p h => ?_, fun c made => ?_, fun j c a at_j attempt => ?_, ?_, ?_⟩
    · rcases passage.generation contexts k with same |
        ⟨rfl, a, state, attempt, candidate, -, -, moved⟩
      · exact tags.keep (placed.generation k p (same ▸ h))
      · rw [moved] at h
        obtain ⟨_, -, rfl⟩ := Option.map_eq_some_iff.1 h
        exact tags.keep ((placed.held i call a found attempt).target _ (.inl candidate)).2
    · rw [length]
      rcases List.mem_or_eq_of_mem_set (calls ▸ made) with old | rfl
      · exact placed.called c old
      · exact placed.called call (List.mem_of_getElem? found)
    · rcases getElem?_set_cases (calls ▸ at_j) with ⟨rfl, rfl⟩ | ⟨other, at_j⟩
      · exact passage.held contexts tags placed.generation
          (fun a => placed.held j call a found) attempt
      · have old := placed.held j c a at_j attempt
        obtain ⟨lock', generation⟩ := passage.frame contexts lock other old.lock
        exact old.keep lock' generation fun p => tags.keep
    · intro j login p at_j set
      obtain ⟨bound, untagged⟩ := placed.login j login p (logins ▸ at_j) set
      exact ⟨bound.trans_le grown.length, (tags p bound).trans untagged⟩
    · rw [logins]
      exact placed.apart
  | @called new made calls contexts _ logins states =>
    have same := SameContexts.of_eq contexts
    have tags : SameTags s s' := .of_eq states
    refine ⟨fun k p h => tags.keep (placed.generation k p (same.generation k ▸ h)), fun c h => ?_,
      fun j c a at_j attempt => ?_, ?_, ?_⟩
    · rw [same.length]
      rcases List.mem_append.1 (calls ▸ h) with old | new
      · exact placed.called c old
      · obtain ⟨x, known, -⟩ := contextId_eq_some.1 (made c new).current
        exact (List.getElem?_eq_some_iff.1 known).1
    · rw [calls] at at_j
      rcases getElem?_append_cases at_j with old | ⟨-, new⟩
      · exact (placed.held j c a old attempt).keep (same.lock _) (same.generation _) fun p =>
          tags.keep
      · rcases (made c new).stage with stage | stage <;> simp [stage, attempt?] at attempt
    · intro j login p at_j set
      obtain ⟨bound, untagged⟩ := placed.login j login p (logins ▸ at_j) set
      exact ⟨states ▸ bound, (tags p bound).trans untagged⟩
    · rw [logins]
      exact placed.apart
  | @login i login login' found logins state calls contexts _ grown tags =>
    refine ⟨fun k p h => tags.keep (placed.generation k p (contexts.generation k ▸ h)),
      fun c h => ?_, fun j c a at_j attempt => ?_, fun j l p at_j set => ?_, fun j k l l' p => ?_⟩
    · rw [contexts.length]
      exact placed.called c (calls ▸ h)
    · exact (placed.held j c a (calls ▸ at_j) attempt).keep (contexts.lock _)
        (contexts.generation _) fun p => tags.keep
    · rcases getElem?_set_cases (logins ▸ at_j) with ⟨rfl, rfl⟩ | ⟨other, at_j⟩
      · rcases state p set with old | ⟨rfl, bound, untagged⟩
        · obtain ⟨bound, untagged⟩ := placed.login j login p found old
          exact ⟨bound.trans_le grown.length, (tags p bound).trans untagged⟩
        · exact ⟨bound, untagged⟩
      · obtain ⟨bound, untagged⟩ := placed.login j l p at_j set
        exact ⟨bound.trans_le grown.length, (tags p bound).trans untagged⟩
    · exact placed.logins_step found logins fun p h => (state p h).imp_right (·.1)
  | @loggedIn i state login context found set logins contexts generation _ calls _ grown
      tagged tags =>
    obtain ⟨bound, untagged⟩ := placed.login i login state found set
    refine ⟨fun k p h => ?_, fun c h => ?_, fun j c a at_j attempt => ?_, fun j l p at_j set' => ?_,
      fun j k l l' p => ?_⟩
    · obtain ⟨x, known, rfl⟩ := generationOf_eq_some.1 h
      rcases getElem?_concat_cases (contexts ▸ known) with old | ⟨rfl, rfl⟩
      · exact keep (placed.generation k _ (generationOf_eq_some.2 ⟨x, old, rfl⟩))
      · exact generation ▸ tagged bound
    · have := placed.called c (calls ▸ h)
      simp [contexts]
      omega
    · have old := placed.held j c a (calls ▸ at_j) attempt
      exact ⟨lockOf_concat contexts old.lock, generationOf_concat contexts old.generation,
        keep old.previous, fun p h => ⟨(old.target p h).1, keep (old.target p h).2⟩⟩
    · rcases getElem?_set_cases (logins ▸ at_j) with ⟨rfl, rfl⟩ | ⟨other, at_j⟩
      · cases set'
      · obtain ⟨bound', untagged'⟩ := placed.login j l p at_j set'
        refine ⟨bound'.trans_le grown.length, (tags p ?_ bound').trans untagged'⟩
        rintro rfl
        exact other (placed.apart _ _ _ _ _ at_j found set' set)
    · exact placed.logins_step found logins (by simp [Login.state?])
  | rest calls contexts _ logins states =>
    have tags : SameTags s s' := .of_eq states
    have old {i : ℕ} {login : Login} {p : ℕ} (at_i : s'.logins[i]? = some login)
        (set : login.state? = some p) : s.logins[i]? = some login := by
      rcases logins with same | ⟨provider, new⟩
      · exact same ▸ at_i
      rcases getElem?_concat_cases (new ▸ at_i) with old | ⟨-, rfl⟩
      · exact old
      · cases set
    refine ⟨fun k p h => tags.keep (placed.generation k p (contexts.generation k ▸ h)),
      fun c h => ?_, fun j c a at_j attempt => ?_,
        fun j l p at_j set => ?_, fun j k l l' p at_j at_k set_j set_k => ?_⟩
    · rw [contexts.length]
      exact placed.called c (calls ▸ h)
    · exact (placed.held j c a (calls ▸ at_j) attempt).keep (contexts.lock _)
        (contexts.generation _) fun p => tags.keep
    · obtain ⟨bound, untagged⟩ := placed.login j l p (old at_j set) set
      exact ⟨states ▸ bound, (tags p bound).trans untagged⟩
    · exact placed.apart _ _ _ _ p (old at_j set_j) (old at_k set_k) set_j set_k

theorem placed_new : Placed .new := by
  refine ⟨?_, ?_, ?_, ?_, ?_⟩ <;> simp [new, generationOf]

end

end Connection

end Domain
