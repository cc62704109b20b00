import SmbClient.Domain.Proof.Locks
import SmbClient.Runtime.Proof.Phases

/-!
# The objects of sessions

A state gets its object once, from a command whose answer is waited for (`Reserves`). Objects of
different contexts are different (`Reserved.apart`), so a call leaves those of others as they stand
(`Effect.spares`).
-/

namespace Domain

open Runtime ObjectRegistry Owner

namespace Owner

variable {o : Owner}

/-- An owner executes a command, or refuses it and stays as it is. -/
theorem command_cases {α : Type} {o' : Owner} {accepted : Bool} {answer : Except Error α}
    {execute : Owner → Owner × Except Error α}
    (command : o.command accepted execute = (o', answer)) :
    (o' = o ∧ (∃ error, answer = .error error) ∧ (o.lost = true ∨ accepted = false)) ∨
      (o.lost = false ∧ accepted = true ∧ execute o = (o', answer)) := by
  unfold Owner.command at command
  split_ifs at command with lost taken
  · obtain ⟨rfl, rfl⟩ := Prod.mk.inj command
    exact .inl ⟨rfl, ⟨_, rfl⟩, .inl lost⟩
  · exact .inr ⟨by simpa using lost, taken, command⟩
  · obtain ⟨rfl, rfl⟩ := Prod.mk.inj command
    exact .inl ⟨rfl, ⟨_, rfl⟩, .inr (by simpa using taken)⟩

def Over (o : Owner) : Prop :=
  o.lost = true → ∀ id r, o.objects.records.lookup id = some r → r.phase.over = true

structure Spares (o o' : Owner) (touched : Option ℕ) : Prop where
  aged : ObjectRegistry.Aged o.objects o'.objects
  ended : o.Over → o'.Over
  stands : ∀ {phase t}, touched ≠ some t.id → o.objects.Stands phase t → o'.objects.Stands phase t

theorem Spares.refl (o : Owner) (touched : Option ℕ) : Spares o o touched :=
  ⟨.refl, fun h => h, fun _ h => h⟩

theorem Spares.of_objects {objects : ObjectRegistry} {touched : Option ℕ}
    (alive : o.lost = false) (aged : ObjectRegistry.Aged o.objects objects)
    (stands : ∀ {phase t}, touched ≠ some t.id → o.objects.Stands phase t →
      objects.Stands phase t) :
    Spares o { o with objects } touched :=
  ⟨aged, fun _ lost => by simp [alive] at lost, stands⟩

theorem Spares.of_command {α : Type} {o' : Owner} {accepted : Bool} {answer : Except Error α}
    {execute : Owner → Owner × Except Error α} {touched : Option ℕ}
    (command : o.command accepted execute = (o', answer))
    (spares : o.lost = false → Spares o (execute o).1 touched) : Spares o o' touched := by
  rcases command_cases command with ⟨rfl, -⟩ | ⟨alive, -, executed⟩
  · exact .refl _ _
  · rw [executed] at spares
    exact spares alive

section
variable {o : Owner}

variable (object : ObjectToken)

theorem beginObjectRecovery_spares (alive : o.lost = false) :
    Spares o (o.beginObjectRecovery object).1 (some object.id) := by
  have aged := (perform_grows (g := o.objects) (.beginRecovery object)).aged
  unfold beginObjectRecovery
  rcases begun : o.objects.beginRecovery object with _ | objects
  · exact .refl _ _
  simp only [perform, begun] at aged
  exact .of_objects alive aged fun other h =>
    (beginRecovery_spec begun).1 (fun same => other (by rw [same])) h

theorem failObjectRecovery_spares (alive : o.lost = false) :
    Spares o (o.failObjectRecovery object).1 none := by
  have aged := (perform_grows (g := o.objects) (.failRecovery object)).aged
  unfold failObjectRecovery
  rcases failed : o.objects.failRecovery object with _ | ⟨objects, effects⟩
  · exact .refl _ _
  simp only [perform, failed] at aged
  exact .of_objects alive aged fun _ h => (failRecovery_spec failed).1 h

theorem createObject_spares (parent : ObjectToken) (kind : ObjectKind) (alive : o.lost = false) :
    Spares o (o.createObject parent kind).1 none := by
  have aged := (perform_grows (g := o.objects) (.createChild parent kind)).aged
  unfold createObject
  rcases created : o.objects.createChild parent kind with _ | ⟨objects, token⟩
  · exact .refl _ _
  simp only [perform, created] at aged
  exact .of_objects alive aged fun _ h => (createChild_spec created).1 h

theorem publishObjectReplacement_cases :
    (∃ objects effect effects, o.objects.publishReplacementRevokingDescendants object =
        (objects, .ok (effect, effects)) ∧ o.publishObjectReplacement object =
          ({ o with objects }, .ok (renewedToken object))) ∨
      ∃ objects error, o.objects.publishReplacementRevokingDescendants object =
      (objects, .error error) ∧
        o.publishObjectReplacement object = ({ o with objects }, .error .staleObject) := by
  unfold publishObjectReplacement
  rcases published : o.objects.publishReplacementRevokingDescendants object with
    ⟨objects, error | ⟨effect, effects⟩⟩
  · exact .inr ⟨objects, error, rfl, rfl⟩
  · obtain ⟨rfl, -⟩ := publish_spec published
    exact .inl ⟨objects, _, effects, rfl, rfl⟩

theorem publishObjectReplacement_spares (alive : o.lost = false) :
    Spares o (o.publishObjectReplacement object).1 (some object.id) := by
  have aged := (publishReplacementRevokingDescendants_grows (g := o.objects) object).aged
  rcases o.publishObjectReplacement_cases object with
    ⟨objects, effect, effects, published, answered⟩ | ⟨objects, error, published, answered⟩ <;>
    rw [published] at aged <;> rw [answered]
  · exact .of_objects alive aged fun other h =>
      (publish_spec published).2.2 (fun same => other (by rw [same])) h
  · exact .of_objects alive aged fun _ h => (publish_error_spec published).1 h

theorem sessions_spares (sessions : Table ℕ ℕ) : Spares o { o with sessions } none :=
  ⟨.refl, fun h => h, fun _ h => h⟩

theorem lose_spares : Spares o o.lose none :=
  ⟨(perform_grows (g := o.objects) .loseGeneration).aged, fun _ _ _ _ h => over_of_lose h,
    fun _ h => h.lose⟩

end

end Owner

def Stage.pending? : Stage → Option (ℕ × ObjectToken)
  | .publishing _ state (.ok token) | .creating _ state (.ok token) => some (state, token)
  | _ => none

def Login.pending? : Login → Option (ℕ × ObjectToken)
  | .creating _ state (.ok token) => some (state, token)
  | _ => none

def Stage.touching : Stage → Bool
  | .beginning _ _ | .publishing _ _ _ => true
  | _ => false

theorem Stage.candidate?_of_pending {stage : Stage} {p : ℕ} {t : ObjectToken}
    (h : stage.pending? = some (p, t)) : stage.candidate? = some p := by
  unfold Stage.pending? at h
  split at h <;> simp_all [Stage.candidate?]

theorem Login.state?_of_pending {login : Login} {p : ℕ} {t : ObjectToken}
    (h : login.pending? = some (p, t)) : login.state? = some p := by
  unfold Login.pending? at h
  split at h <;> simp_all [Login.state?]

namespace Connection

def Stands (s : Connection) (phase : ObjectPhase) (t : ObjectToken) : Prop :=
  (s.owner t.generation.value).objects.Stands phase t

structure Spares (s s' : Connection) (touched : Option ObjectToken) : Prop where
  current : s.current ≤ s'.current
  aged : ∀ g ≤ s.current, ObjectRegistry.Aged (s.owner g).objects (s'.owner g).objects
  own : (∀ g, (s.owner g).objects.generation = ⟨g⟩) → ∀ g, (s'.owner g).objects.generation = ⟨g⟩
  ended : (∀ g, (s.owner g).Over) → ∀ g, (s'.owner g).Over
  stands : ∀ {phase t}, t.generation.value ≤ s.current →
    (∀ t', touched = some t' → t'.generation = t.generation → t'.id ≠ t.id) →
    s.Stands phase t → s'.Stands phase t

section
variable {m : Move} {s s' : Connection}
variable {p : ℕ} {t : ObjectToken}

theorem Spares.of_same {touched : Option ObjectToken} (owner : s'.owner = s.owner)
    (current : s'.current = s.current) : Spares s s' touched := by
  refine ⟨current.ge, fun g _ => owner ▸ .refl, fun h => owner ▸ h, fun h => owner ▸ h,
    fun _ _ h => ?_⟩
  unfold Stands at h ⊢
  rw [owner]
  exact h

theorem Spares.of_owner {generation : ℕ} {o : Owner} {touched : Option ObjectToken}
    (owner : s'.owner = Function.update s.owner generation o) (current : s'.current = s.current)
    (spares : (s.owner generation).Spares o (touched.map (·.id)))
    (own : ∀ t, touched = some t → t.generation = ⟨generation⟩) : Spares s s' touched := by
  have hit {P : Owner → Owner → Prop} (updated : P (s.owner generation) o)
      (other : ∀ o, P o o) (g : ℕ) : P (s.owner g) (s'.owner g) := by
    rw [owner]
    by_cases same : g = generation
    · rw [same, Function.update_self]
      exact updated
    · rw [Function.update_of_ne same]
      exact other _
  refine ⟨current.ge, fun g _ => hit (P := fun o o' => ObjectRegistry.Aged o.objects o'.objects)
    spares.aged (fun _ => .refl) g, fun h g => ?_, fun h g => ?_, fun {phase t} _ other h => ?_⟩
  · exact (hit (P := fun o o' => o'.objects.generation = o.objects.generation)
      spares.aged.generation (fun _ => rfl) g).trans (h g)
  · exact hit (P := fun o o' => o.Over → o'.Over) spares.ended (fun _ h => h) g (h g)
  · unfold Stands at h ⊢
    rw [owner]
    by_cases same : t.generation.value = generation
    · rw [same] at h
      rw [same, Function.update_self]
      refine spares.stands (fun touching => ?_) h
      obtain ⟨t', rfl, id⟩ := Option.map_eq_some_iff.1 touching
      exact other t' rfl ((own t' rfl).trans (by rw [← same])) id
    · rw [Function.update_of_ne same]
      exact h

theorem Spares.of_reconnect
    (owner : s'.owner = Function.update s.owner (s.current + 1) (.new (s.current + 1)))
    (current : s'.current = s.current + 1) : Spares s s' none := by
  have old {g : ℕ} (h : g ≤ s.current) : s'.owner g = s.owner g := by
    rw [owner]
    exact Function.update_of_ne (by omega) _ _
  have new (P : ℕ → Owner → Prop) (before : ∀ g, P g (s.owner g)) (fresh : ∀ g, P g (.new g))
      (g : ℕ) : P g (s'.owner g) := by
    rw [owner]
    by_cases same : g = s.current + 1
    · rw [same, Function.update_self]
      exact fresh _
    · rw [Function.update_of_ne same]
      exact before g
  refine ⟨by omega, fun g h => ?_, fun h => new (fun g o => o.objects.generation = ⟨g⟩) h fun _ =>
    rfl, fun h => new (fun _ o => o.Over) h (fun _ lost => by cases lost), fun bound _ h => ?_⟩
  · rw [old h]
    exact .refl
  · unfold Stands at h ⊢
    rw [old bound]
    exact h

theorem getElem?_setStage {i : ℕ} {call : Call} {stage : Stage} (found : s.calls[i]? = some call)
    (calls : s'.calls = s.calls.set i { call with stage }) :
    s'.calls[i]? = some { call with stage } := by
  rw [calls, List.getElem?_set_self (List.getElem?_eq_some_iff.1 found).1]

def Touches (s s' : Connection) (touched : Option ObjectToken) : Prop :=
  ∀ t, touched = some t → ∃ i k p, s.object p = some t ∧ s.tag p = some k ∧ s'.lockOf k = some i ∧
    (∀ j, s.lockOf k = some j → j = i) ∧
    ∃ call', s'.calls[i]? = some call' ∧ call'.stage.touching = true ∧ s.calls[i]? ≠ some call'

theorem touches_none : Touches s s' none := fun _ h => by cases h

def Prior (s : Connection) : Prop :=
  ∀ call ∈ s.calls, ∀ a, call.stage.attempt? = some a → s.object a.previous = some a.previousObject

/-- An effect changes the phase of one object at most. -/
theorem Effect.spares (e : Effect m s s') (placed : Placed s) (prior : Prior s) :
    ∃ touched, Spares s s' touched ∧ Touches s s' touched := by
  have plain (h : Spares s s' none) :
      ∃ touched, Spares s s' touched ∧ Touches s s' touched := ⟨none, h, touches_none⟩
  cases e with
  | @began i call context a owner answer accepted found stage known free previous current
      object runtime same command =>
    have generation : s.generationOf call.context = some a.previous :=
      generationOf_eq_some.2 ⟨_, known, previous.symm⟩
    refine ⟨some a.previousObject, .of_owner rfl rfl (.of_command command
      (beginObjectRecovery_spares _)) (fun t h => ?_), fun t h => ?_⟩
    · obtain rfl := Option.some.inj h
      simpa [Attempt.sameGeneration] using same
    · obtain rfl := Option.some.inj h
      refine ⟨i, call.context, a.previous, object, placed.generation _ _ generation, ?_, ?_, _,
        getElem?_setStage found rfl, rfl, ?_⟩
      · simp [lockOf, take, setContext, setOwner, setStage, known, SessionContext.taken]
      · simp [lockOf, known, free]
      · rw [found]
        intro same
        simp [congrArg Call.stage (Option.some.inj same)] at stage
  | @published i left state call a owner answer input move found stage same command =>
    have attempt : call.stage.attempt? = some a := by rw [stage]; rfl
    have held := placed.held i call a found attempt
    refine ⟨some a.previousObject, .of_owner rfl rfl (.of_command command
      (publishObjectReplacement_spares _)) (fun t h => ?_), fun t h => ?_⟩
    · obtain rfl := Option.some.inj h
      simpa [Attempt.sameGeneration] using same
    · obtain rfl := Option.some.inj h
      refine ⟨i, call.context, a.previous, prior call (List.mem_of_getElem? found) a attempt,
        held.previous, held.lock, fun j lock => ?_, _, getElem?_setStage found rfl, rfl, ?_⟩
      · exact Option.mem_unique lock held.lock
      · rw [found]
        intro same
        simp [congrArg Call.stage (Option.some.inj same)] at stage
  | exhausted _ _ _ _ _ command =>
    exact plain (.of_owner rfl rfl (.of_command command (failObjectRecovery_spares _)) (by simp))
  | created _ _ _ _ command | loginCreated _ _ command | objectCreated _ command =>
    exact plain (.of_owner rfl rfl (.of_command command (createObject_spares _ _)) (by simp))
  | started | loginStarted => exact plain (.of_owner rfl rfl (sessions_spares _) (by simp))
  | cleaned | loginCleaned =>
    exact plain (.of_owner rfl rfl (.of_command rfl fun _ => sessions_spares _) (by simp))
  | ended _ _ _ command =>
    exact plain (.of_owner rfl rfl (.of_command command fun _ => sessions_spares _) (by simp))
  | lost => exact plain (.of_owner rfl rfl lose_spares (by simp))
  | reconnected => exact plain (.of_reconnect rfl rfl)
  | _ => exact plain (.of_same rfl rfl)

/-! ## Objects of states -/

inductive Installs (s s' : Connection) (p : ℕ) (t : ObjectToken) : Prop where
  | published {i : ℕ} {call : Call} {a : Attempt} (found : s.calls[i]? = some call)
      (stage : call.stage = .publishing a p (.ok t))
      (found' : s'.calls[i]? = some { call with stage := .opening a p })
  | created {i : ℕ} {call : Call} {a : Attempt} (found : s.calls[i]? = some call)
      (stage : call.stage = .creating a p (.ok t))
      (found' : s'.calls[i]? = some { call with stage := .updating a p })
  | login {i : ℕ} {provider : Bool} (found : s.logins[i]? = some (.creating provider p (.ok t)))

theorem object_of_modify {q : ℕ} {f : SessionAndChannel → SessionAndChannel}
    (states : s'.states = s.states.modify p f)
    (keeps : p ≠ q ∨ ∀ x, (f x).object = x.object) : s'.object q = s.object q := by
  simp only [object, states, List.getElem?_modify]
  rcases s.states[q]? with _ | x
  · rfl
  rcases keeps with other | keeps
  · simp [other]
  · by_cases same : p = q <;> simp [same, keeps]

theorem object_of_concat {id : ℕ} {invalid : Bool} {context : Option ℕ}
    (states : s'.states = s.states ++ [⟨id, none, invalid, context⟩]) :
    s'.object p = s.object p := by
  rcases Nat.lt_trichotomy p s.states.length with old | rfl | beyond
  · simp only [object, states, List.getElem?_append_left old]
  · simp [object, states]
  · rw [object, object, states, List.getElem?_eq_none (by simp; omega),
      List.getElem?_eq_none (by omega)]

theorem object_of_install {f : SessionAndChannel → SessionAndChannel}
    (q : ℕ) (t' : ObjectToken) (states : s'.states = s.states.modify p f)
    (sets : ∀ x, (f x).object = some t) (bare : s.object p = none) :
    (s.object q = some t' → s'.object q = some t') ∧
      (s'.object q = some t' → s.object q = some t' ∨ q = p ∧ t' = t) := by
  by_cases same : p = q
  · subst same
    refine ⟨fun h => by simp [bare] at h, fun h => .inr ⟨rfl, ?_⟩⟩
    obtain ⟨x, found, object⟩ := object_eq_some.1 h
    rw [states, List.getElem?_modify_eq] at found
    obtain ⟨y, -, rfl⟩ := Option.map_eq_some_iff.1 found
    exact Option.some.inj (object.symm.trans (sets y))
  · rw [object_of_modify states (.inl same)]
    exact ⟨fun h => h, .inl⟩

/-- A state keeps its object, and a new one was installed by the effect. -/
theorem Effect.object (e : Effect m s s') :
    (s.object p = some t → s'.object p = some t) ∧
      (s'.object p = some t → s.object p = some t ∨ Installs s s' p t) := by
  have same (h : s'.object p = s.object p) : (s.object p = some t → s'.object p = some t) ∧
      (s'.object p = some t → s.object p = some t ∨ Installs s s' p t) :=
    ⟨fun old => h.trans old, fun new => .inl (h ▸ new)⟩
  have install {q : ℕ} {t' : ObjectToken} {f : SessionAndChannel → SessionAndChannel}
      (states : s'.states = s.states.modify q f) (sets : ∀ x, (f x).object = some t')
      (bare : s.object q = none) (new : Installs s s' q t') :
      (s.object p = some t → s'.object p = some t) ∧
        (s'.object p = some t → s.object p = some t ∨ Installs s s' p t) := by
    obtain ⟨keeps, cases⟩ := object_of_install p t states sets bare
    refine ⟨keeps, fun h => (cases h).imp_right ?_⟩
    rintro ⟨rfl, rfl⟩
    exact new
  cases e with
  | started | loginStarted => exact same (object_of_concat rfl)
  | cleaned | loginCleaned | ended | invalidated =>
    exact same (object_of_modify rfl (.inr fun _ => rfl))
  | installed found stage bare =>
    exact install rfl (fun _ => rfl) bare (.published found stage (getElem?_setStage found rfl))
  | createdAndStored found stage bare =>
    exact install rfl (fun _ => rfl) bare (.created found stage (getElem?_setStage found rfl))
  | @loggedIn i state provider token found bare =>
    exact install (s.install_states state token) (fun _ => rfl) bare (.login found)
  | _ => exact same rfl

/-! ## Reservations -/

inductive Reserves (s : Connection) (p : ℕ) (t : ObjectToken) : Prop where
  | object (object : s.object p = some t)
  | call {i : ℕ} {call : Call} (found : s.calls[i]? = some call)
      (pending : call.stage.pending? = some (p, t))
  | login {i : ℕ} {login : Login} (found : s.logins[i]? = some login)
      (pending : login.pending? = some (p, t))

def target (s : Connection) : Move → ℕ
  | .advance i _ => (s.calls[i]?.bind (·.stage.candidate?)).getD 0
  | .login i _ => (s.logins[i]?.bind (·.state?)).getD 0
  | _ => 0

inductive Arises (s s' : Connection) (p : ℕ) (t : ObjectToken) : Prop where
  | fresh (current : s'.current = s.current)
      (generation : t.generation = (s.owner s.current).objects.generation)
      (unused : (s.owner s.current).objects.records.lookup t.id = none)
      (stands : (s'.owner s.current).objects.Stands .active t)
  | renewed {i left : ℕ} {call : Call} {a : Attempt} (found : s.calls[i]? = some call)
      (stage : call.stage = .settingUp a left p) (same : a.sameGeneration = true)
      (token : t = renewedToken a.previousObject)
      (stands : (s'.owner a.runtime).objects.Stands .active t)

theorem Arises.of_created {generation : ℕ} {o : Owner} {parent : ObjectToken} {kind : ObjectKind}
    {accepted : Bool} (here : generation = s.current)
    (owner : s'.owner = Function.update s.owner generation o) (current : s'.current = s.current)
    (command : (s.owner generation).command accepted (createObject parent kind) =
      (o, .ok t)) : Arises s s' p t := by
  subst here
  rcases command_cases command with ⟨-, ⟨_, answer⟩, -⟩ | ⟨-, -, executed⟩
  · cases answer
  unfold createObject at executed
  rcases created : (s.owner s.current).objects.createChild parent kind with _ | ⟨objects, token⟩
  · simp [created] at executed
  simp only [created, Prod.mk.injEq, Except.ok.injEq] at executed
  obtain ⟨rfl, rfl⟩ := executed
  obtain ⟨-, stands, own, unused⟩ := createChild_spec created
  exact .fresh current own unused (by rw [owner, Function.update_self]; exact stands)

/-- A token waits in a call because it did before, or because its object has just arisen. -/
theorem Effect.pending (e : Effect m s s') {j : ℕ} {call' : Call}
    (found' : s'.calls[j]? = some call') (pending : call'.stage.pending? = some (p, t)) :
    s.calls[j]? = some call' ∨ p = s.target m ∧ Arises s s' p t := by
  have moved {i : ℕ} {call : Call} {stage : Stage}
      (calls : s'.calls = s.calls.set i { call with stage }) (plain : stage.pending? = none) :
      s.calls[j]? = some call' ∨ p = s.target m ∧ Arises s s' p t := by
    rcases Calls.getElem?_set_cases (calls ▸ found') with ⟨-, rfl⟩ | ⟨-, old⟩
    · simp [plain] at pending
    · exact .inl old
  cases e with
  | called calls listing made =>
    rcases Calls.getElem?_append_cases found' with old | ⟨-, new⟩
    · exact .inl old
    · rcases (made _ new).stage with stage | stage <;> simp [stage, Stage.pending?] at pending
  | turned found turn =>
    refine moved rfl ?_
    generalize Call.stage _ = before at turn
    cases turn <;> rfl
  | @published i left state call a owner answer input move found stage same command =>
    rcases Calls.getElem?_set_cases found' with ⟨-, rfl⟩ | ⟨-, old⟩
    · rcases answer with error | token
      · cases pending
      obtain ⟨rfl, rfl⟩ : state = p ∧ token = t := by simpa [Stage.pending?] using pending
      rcases command_cases command with ⟨-, ⟨_, answer⟩, -⟩ | ⟨-, -, executed⟩
      · cases answer
      rcases (s.owner a.runtime).publishObjectReplacement_cases a.previousObject with
        ⟨objects, effect, effects, published, answered⟩ | ⟨_, _, -, answered⟩ <;>
        simp only [answered, Prod.mk.injEq, Except.ok.injEq, reduceCtorEq, and_false] at executed
      obtain ⟨rfl, rfl⟩ := executed
      exact .inr ⟨by simp [move, target, found, stage, Stage.candidate?],
        .renewed found stage same rfl (by
        simpa [setStage, setOwner] using (publish_spec published).2.1)⟩
    · exact .inl old
  | @created i state call a owner answer input move found stage bare command =>
    rcases Calls.getElem?_set_cases found' with ⟨-, rfl⟩ | ⟨-, old⟩
    · rcases answer with error | token
      · cases pending
      obtain ⟨rfl, rfl⟩ : state = p ∧ token = t := by simpa [Stage.pending?] using pending
      exact .inr ⟨by simp [move, target, found, stage, Stage.candidate?],
        .of_created rfl rfl rfl command⟩
    · exact .inl old
  | reset | passedBy | began | entered | left | exhausted | started | cleaned | installed | stored
  | createdAndStored | ended | invalidated | unflagged | released | recorded | replaced | abandoned
  | droppedSharing | droppedHolding => exact moved rfl rfl
  | _ => exact .inl found'

theorem Effect.login_pending (e : Effect m s s') {j : ℕ} {login' : Login}
    (found' : s'.logins[j]? = some login') (pending : login'.pending? = some (p, t)) :
    s.logins[j]? = some login' ∨ p = s.target m ∧ Arises s s' p t := by
  have moved {i : ℕ} {login : Login} (logins : s'.logins = s.logins.set i login)
      (plain : login.pending? = none) : s.logins[j]? = some login' ∨ p = s.target m ∧
      Arises s s' p t := by
    rcases Calls.getElem?_set_cases (logins ▸ found') with ⟨-, rfl⟩ | ⟨-, old⟩
    · simp [plain] at pending
    · exact .inl old
  cases e with
  | authenticated provider =>
    rcases Calls.getElem?_concat_cases found' with old | ⟨-, rfl⟩
    · exact .inl old
    · cases pending
  | loginTurned found turn =>
    refine moved rfl ?_
    rcases turn with ⟨_, rfl⟩ | rfl | ⟨_, _, rfl, rfl⟩ <;> rfl
  | @loginCreated i state provider owner answer input move found command =>
    rcases Calls.getElem?_set_cases found' with ⟨-, rfl⟩ | ⟨-, old⟩
    · rcases answer with error | token
      · cases pending
      obtain ⟨rfl, rfl⟩ : state = p ∧ token = t := by simpa [Login.pending?] using pending
      exact .inr ⟨by simp [move, target, found, Login.state?], .of_created rfl rfl rfl command⟩
    · exact .inl old
  | loginStarted | loginCleaned | loggedIn | registered | loginDropped => exact moved rfl rfl
  | _ => exact .inl found'

theorem Effect.reserves (e : Effect m s s') (h : Reserves s' p t) :
    Reserves s p t ∨ p = s.target m ∧ Arises s s' p t := by
  cases h with
  | object object =>
    rcases e.object.2 object with old | installs
    · exact .inl (.object old)
    cases installs with
    | published found stage _ => exact .inl (.call found (by rw [stage]; rfl))
    | created found stage _ => exact .inl (.call found (by rw [stage]; rfl))
    | login found => exact .inl (.login found rfl)
  | call found pending => exact (e.pending found pending).imp_left fun old => .call old pending
  | login found pending =>
    exact (e.login_pending found pending).imp_left fun old => .login old pending

/-! ## The invariant -/

structure Reserved (s : Connection) : Prop where
  own : ∀ g, (s.owner g).objects.generation = ⟨g⟩
  ended : ∀ g, (s.owner g).Over
  prior : Prior s
  known : ∀ p t, Reserves s p t → t.generation.value ≤ s.current ∧
    ∃ r, (s.owner t.generation.value).objects.records.lookup t.id = some r
  apart : ∀ p q t t', Reserves s p t → Reserves s q t' → t.generation = t'.generation →
    t.id = t'.id → p = q ∨ ∃ k, s.tag p = some k ∧ s.tag q = some k

theorem generation_of_same {a : Attempt} (same : a.sameGeneration = true) :
    a.previousObject.generation = ⟨a.runtime⟩ := by
  simpa [Attempt.sameGeneration] using same

theorem Reserved.of_prior (reserved : Reserved s) {i : ℕ} {call : Call} {a : Attempt}
    (found : s.calls[i]? = some call) (attempt : call.stage.attempt? = some a) :
    Reserves s a.previous a.previousObject :=
  .object (reserved.prior call (List.mem_of_getElem? found) a attempt)

theorem Reserved.arises (reserved : Reserved s) (placed : Placed s) (arises : Arises s s' p t) :
    (t.generation.value ≤ s.current ∧
      ∃ r, (s'.owner t.generation.value).objects.records.lookup t.id = some r) ∧
    ∀ q t', Reserves s q t' → t.generation = t'.generation → t.id = t'.id →
      ∃ k, s.tag p = some k ∧ s.tag q = some k := by
  cases arises with
  | fresh _ generation unused stands =>
    rw [reserved.own] at generation
    refine ⟨⟨by rw [generation], ?_⟩, fun q t' other same id => ?_⟩
    · obtain ⟨r, found, -⟩ := stands
      exact ⟨r, by rw [generation]; exact found⟩
    · obtain ⟨-, r, found⟩ := reserved.known q t' other
      rw [← same, ← id, generation, unused] at found
      cases found
  | @renewed i left call a found stage same token stands =>
    have attempt : call.stage.attempt? = some a := by rw [stage]; rfl
    have held := placed.held i call a found attempt
    have prior := reserved.of_prior found attempt
    have generation : t.generation = ⟨a.runtime⟩ := by
      rw [token]
      exact generation_of_same same
    have bound := (reserved.known _ _ prior).1
    rw [generation_of_same same] at bound
    refine ⟨⟨by rw [generation]; exact bound, ?_⟩, fun q t' other equal id => ?_⟩
    · obtain ⟨r, found, -⟩ := stands
      exact ⟨r, by rw [generation]; exact found⟩
    · refine ⟨call.context, (held.target p (.inl (by rw [stage]; rfl))).2, ?_⟩
      rw [token] at equal id
      rcases reserved.apart _ _ _ _ prior other equal id with rfl | ⟨k, tagged, tagged'⟩
      · exact held.previous
      · obtain rfl := Option.mem_unique tagged held.previous
        exact tagged'

theorem Effect.prior (e : Effect m s s') (prior : Prior s) : Prior s' := by
  intro call' made a attempt
  obtain ⟨j, found'⟩ := List.mem_iff_getElem?.1 made
  refine e.object.1 ?_
  rcases e.kind.call found' with old | ⟨call, stage, f, new, found, passage, rfl⟩ | new
  · exact prior call' (List.mem_of_getElem? old) a attempt
  · have same (h : call.stage.attempt? = some a) : s.object a.previous = some a.previousObject :=
      prior call (List.mem_of_getElem? found) a h
    cases passage with
    | turn kept => exact same (kept ▸ attempt)
    | start stage =>
      refine same ?_
      rw [stage]
      exact attempt
    | take _ _ _ _ object attempt' =>
      obtain rfl := Option.mem_unique attempt attempt'
      exact object
    | store _ attempt' _ =>
      obtain rfl := Option.some.inj attempt
      exact same attempt'
    | unflag attempt' _ =>
      obtain rfl := Option.some.inj attempt
      exact same attempt'
    | clear _ none _ => simp [none] at attempt
    | release _ ends => rcases ends with rfl | rfl <;> cases attempt
    | pass | record | abandon => cases attempt
  · rcases new.stage with stage | stage <;> simp [stage, Stage.attempt?] at attempt

/-- **Every step keeps an object reserved for one state, or for the states of one context.** -/
theorem Reserved.step (reserved : Reserved s) (placed : Placed s) (e : Effect m s s') :
    Reserved s' := by
  obtain ⟨touched, spares, -⟩ := e.spares placed reserved.prior
  refine ⟨spares.own reserved.own, spares.ended reserved.ended, e.prior reserved.prior,
    fun p t h => ?_, fun p q t t' h h' generation id => ?_⟩
  · rcases e.reserves h with old | ⟨-, arises⟩
    · obtain ⟨bound, r, found⟩ := reserved.known p t old
      obtain ⟨r', found', -⟩ := (spares.aged _ bound).records _ _ found
      exact ⟨bound.trans spares.current, r', found'⟩
    · obtain ⟨⟨bound, known⟩, -⟩ := reserved.arises placed arises
      exact ⟨bound.trans spares.current, known⟩
  · have keep {p q : ℕ} (h : ∃ k, s.tag p = some k ∧ s.tag q = some k) :
        ∃ k, s'.tag p = some k ∧ s'.tag q = some k :=
      h.imp fun k h => ⟨placed.keep_tag e.kind h.1, placed.keep_tag e.kind h.2⟩
    rcases e.reserves h with old | ⟨hit, arises⟩ <;> rcases e.reserves h' with old' | ⟨at', arises'⟩
    · exact (reserved.apart p q t t' old old' generation id).imp_right keep
    · obtain ⟨k, tagged, tagged'⟩ :=
        (reserved.arises placed arises').2 p t old generation.symm id.symm
      exact .inr (keep ⟨k, tagged', tagged⟩)
    · exact .inr (keep ((reserved.arises placed arises).2 q t' old' generation id))
    · exact .inl (hit.trans at'.symm)

theorem reserved_new : Reserved .new := by
  refine ⟨fun g => rfl, fun g lost => ?_, fun call made => ?_, fun p t h => ?_,
    fun p q t t' h => ?_⟩
  · cases lost
  · cases made
  all_goals cases h <;> simp_all [new, object]

end

end Connection

end Domain
