import SmbClient.Domain.Proof.Replacement
import SmbClient.Domain.Proof.SessionObjects

/-!
# What `reauthenticate` leaves behind

`Fit` says how the object that is to be replaced stands at each stage of a call; `exits_resolved`
holds for runs in which a call whose recovery has begun is not cut off from the owner (`Steady`).
-/

namespace Domain

open Runtime ObjectRegistry SessionContext

namespace Stage

/-- The recovery of the old object has begun, and the new generation is not yet stored. -/
def exposed : Stage → Bool
  | .beginning _ (.ok _) | .resetting _ (.ok _) | .attempting _ _ | .settingUp _ _ _
  | .cleaning _ _ _
  | .publishing _ _ (.ok _) | .opening _ _ => true
  | _ => false

def isQueued : Stage → Bool
  | .queued => true
  | _ => false

def isInside (stage : Stage) : Bool := stage.holdsLock || stage.isQueued

def Exits (before after : Stage) : Prop := before.isInside = true ∧ after.isInside = false

end Stage

namespace Attempt

def SameObject (a : Attempt) (t : ObjectToken) : Prop :=
  t.generation = a.previousObject.generation ∧ t.id = a.previousObject.id

def phase (a : Attempt) : ObjectPhase := if a.sameGeneration then .recovering else .active

theorem phase_of_same {a : Attempt} (same : a.sameGeneration = true) : a.phase = .recovering :=
  if_pos same

theorem phase_of_other {a : Attempt} (other : a.sameGeneration = false) : a.phase = .active :=
  if_neg (by simp [other])

theorem phase_alive (a : Attempt) : a.phase.over = false := by
  unfold phase
  split <;> rfl

end Attempt

namespace Owner

variable {o o' : Owner} {object : ObjectToken}

theorem beginObjectRecovery_cases {answer : Except Error Unit}
    (h : o.beginObjectRecovery object = (o', answer)) :
    (o' = o ∧ ∃ error, answer = .error error) ∨ answer = .ok () ∧
    o'.objects.Stands .recovering object := by
  unfold beginObjectRecovery at h
  split at h <;> obtain ⟨rfl, rfl⟩ := Prod.mk.inj h
  · exact .inl ⟨rfl, _, rfl⟩
  · rename_i begun
    exact .inr ⟨rfl, (beginRecovery_spec begun).2⟩

theorem failObjectRecovery_revokes (own : object.generation = o.objects.generation)
    (standing : o.objects.Stands .recovering object) :
    (o.failObjectRecovery object).1.objects.Revoked object := by
  unfold failObjectRecovery
  split
  · rename_i failed
    exact revoked_of_failRecovery_error own standing failed
  · rename_i failed
    exact (failRecovery_spec failed).2

theorem publishObjectReplacement_refused {error : Error}
    (own : object.generation = o.objects.generation)
    (epoch : (Machine.checkedAdd 64 object.epoch 1).isSome = true)
    (standing : o.objects.Stands .recovering object)
    (h : o.publishObjectReplacement object = (o', .error error)) : o'.objects.Revoked object := by
  rcases o.publishObjectReplacement_cases object with
    ⟨_, _, _, -, answered⟩ | ⟨objects, _, published, answered⟩ <;> rw [answered] at h
  · cases h
  · obtain ⟨rfl, -⟩ := Prod.mk.inj h
    exact (publish_error_spec published).2 own epoch standing

end Owner

namespace Connection

variable (s : Connection)

def ObjectResolved (k : ℕ) (a : Attempt) : Prop :=
  ∃ r, (s.owner a.runtime).objects.records.lookup a.previousObject.id = some r ∧
    (r.phase = .active ∧
        (r.token = a.previousObject ∨ (s.generationOf k).bind s.object = some r.token) ∨
      r.phase = .revoked)

def ExitsResolved (s s' : Connection) : Prop :=
  ∀ (i : ℕ) call call', s.calls[i]? = some call → s'.calls[i]? = some call' →
    call.stage.Exits call'.stage → s'.flagOf call.context = some false ∧
      ∀ a, call.stage.attempt? = some a → a.sameGeneration = true → ObjectResolved s' call.context a

/-! ## The condition -/

def Undisturbed (i : ℕ) (P : Call → Attempt → Prop) : Prop :=
  ∀ call ∈ s.calls[i]?, ∀ a ∈ call.stage.attempt?, call.stage.exposed = true →
    a.sameGeneration = true → (s.owner a.runtime).lost = false → P call a

instance (s : Connection) (i : ℕ) (P : Call → Attempt → Prop) [∀ call a, Decidable (P call a)] :
    Decidable (Undisturbed s i P) :=
  inferInstanceAs (Decidable (∀ call ∈ s.calls[i]?, ∀ a ∈ call.stage.attempt?, _))

/-- While a call recovers an object it is not cut off from the owner. A future that waits for the
mutex is dropped only while no other call recovers the session. -/
def Steady : Move → Prop
  | .advance i input => s.Undisturbed i fun call a => input.accepted = true ∧
      s.contexts[call.context]?.map (·.provider) = some true ∧
      (Machine.checkedAdd 64 a.previousObject.epoch 1).isSome = true
  | .dropCall i => s.Undisturbed i (fun _ _ => False) ∧
      ∀ call ∈ s.calls[i]?, call.stage.isQueued = true → s.flagOf call.context = some false
  | _ => True

instance (s : Connection) (m : Move) : Decidable (Steady s m) := by
  unfold Steady
  split <;> infer_instance

/-! ## How the objects of a call stand -/

def HasObject (a : Attempt) (p : ℕ) : Prop :=
  ∃ t, s.object p = some t ∧ s.Stands .active t ∧ (a.sameGeneration = true → a.SameObject t)

/-- How the old object and that of the new state stand, at each stage of a call. -/
def Fit (a : Attempt) : Stage → Prop
  | .beginning _ (.ok _) | .resetting _ (.ok _) | .attempting _ _ | .cleaning _ _ _ =>
    s.Stands a.phase a.previousObject
  | .settingUp _ _ p => s.Stands a.phase a.previousObject ∧ s.object p = none
  | .publishing _ p (.ok t) =>
    a.sameGeneration = true ∧ s.object p = none ∧ a.SameObject t ∧ s.Stands .active t
  | .opening _ p => a.sameGeneration = true ∧ s.HasObject a p ∨
      a.sameGeneration = false ∧ s.object p = none ∧ s.Stands .active a.previousObject
  | .creating _ _ answer => a.sameGeneration = false ∧ s.Stands .active a.previousObject ∧
      ∀ t, answer = .ok t → s.Stands .active t
  | .updating _ p | .invalidating _ p | .ending _ p | .sharing _ p => s.HasObject a p
  | .beginning _ (.error _) | .resetting _ (.error _) | .publishing _ _ (.error _) | .failing _ _ =>
    s.Stands .active a.previousObject
  | .deciding | .passed | .queued | .returned _ | .recorded _ | .dropped => True

structure Standing (s : Connection) : Prop where
  placed : Placed s
  reserved : Reserved s
  fit : ∀ (i : ℕ) call a, s.calls[i]? = some call → call.stage.attempt? = some a →
    Fit s a call.stage
  -- Nobody recovers the session.
  idle : ∀ k p t, s.lockOf k = none → s.generationOf k = some p → s.object p = some t →
    s.Stands .active t
  login : ∀ (i : ℕ) login p t, s.logins[i]? = some login → login.pending? = some (p, t) →
    s.Stands .active t
  flagged : ∀ k, s.flagOf k = some true → s.lockOf k ≠ none
  shared : ∀ call ∈ s.calls, ∀ a p, call.stage = .sharing a p → s.flagOf call.context ≠ some true

section
variable {m : Move} {s s' : Connection}
variable {t : ObjectToken} {phase : ObjectPhase} {p j k i : ℕ} {call call' : Call} {a : Attempt}
  {stage : Stage}

def Untouched (s s' : Connection) (k : ℕ) : Prop :=
  ∀ (i : ℕ) call', s'.lockOf k = some i → s'.calls[i]? = some call' → call'.stage.touching = true →
    s.calls[i]? = some call'

theorem Effect.spare (e : Effect m s s') (placed : Placed s) (reserved : Reserved s) {q : ℕ}
    (reserves : Reserves s q t)
    (untouched : ∀ k, s.tag q = some k → Untouched s s' k) (h : s.Stands phase t) :
    s'.Stands phase t := by
  obtain ⟨touched, spares, touches⟩ := e.spares placed reserved.prior
  refine spares.stands (reserved.known q t reserves).1 (fun t' hit generation id => ?_) h
  obtain ⟨i, k, p, object, tagged, lock, -, call', found', touching, changed⟩ := touches t' hit
  have tagged' : s.tag q = some k := by
    rcases reserved.apart p q t' t (.object object) reserves generation id with
      rfl | ⟨k', at_p, at_q⟩
    · exact tagged
    · rwa [Option.mem_unique tagged at_p]
  exact changed (untouched k tagged' i call' lock found' touching)

theorem Installs.moves (installs : Installs s s' p t)
    (placed : Placed s) (found : s.calls[j]? = some call)
    (candidate : call.stage.candidate? = some p) : s'.calls[j]? ≠ some call := by
  obtain ⟨a, attempt⟩ := Stage.attempt?_of_stored (.inl candidate)
  have held := placed.held j call a found attempt
  have alone {i : ℕ} {call' : Call} {a' : Attempt} (found' : s.calls[i]? = some call')
      (attempt' : call'.stage.attempt? = some a') (candidate' : call'.stage.candidate? = some p) :
      i = j := by
    have held' := placed.held i call' a' found' attempt'
    have same := (held'.target p (.inl candidate')).2.symm.trans (held.target p (.inl candidate)).2
    exact Option.some.inj (held'.lock.symm.trans (Option.some.inj same ▸ held.lock))
  cases installs with
  | published found' stage after =>
    obtain rfl := alone found' (by rw [stage]; rfl) (by rw [stage]; rfl)
    obtain rfl := Option.mem_unique found' found
    rw [after]
    intro same
    simp [congrArg Call.stage (Option.some.inj same.symm)] at stage
  | created found' stage after =>
    obtain rfl := alone found' (by rw [stage]; rfl) (by rw [stage]; rfl)
    obtain rfl := Option.mem_unique found' found
    rw [after]
    intro same
    simp [congrArg Call.stage (Option.some.inj same.symm)] at stage
  | login found' =>
    have untagged := (placed.login _ _ p found' rfl).2
    simp [(held.target p (.inl candidate)).2] at untagged

theorem Installs.locked (installs : Installs s s' p t) (placed : Placed s)
    (tagged : s.tag p = some k) : s.lockOf k ≠ none := by
  have called {i : ℕ} {call : Call} {a : Attempt} (found : s.calls[i]? = some call)
      (attempt : call.stage.attempt? = some a) (candidate : call.stage.candidate? = some p) :
      s.lockOf k ≠ none := by
    have held := placed.held i call a found attempt
    have same := tagged.symm.trans (held.target p (.inl candidate)).2
    rw [Option.some.inj same, held.lock]
    simp
  cases installs with
  | published found stage _ => exact called found (by rw [stage]; rfl) (by rw [stage]; rfl)
  | created found stage _ => exact called found (by rw [stage]; rfl) (by rw [stage]; rfl)
  | login found => simp [(placed.login _ _ p found rfl).2] at tagged

theorem object_install (bound : p < s.states.length) : (s.install p t).object p = some t := by
  simp [object, install, setState, List.getElem?_eq_getElem bound]

theorem Arises.stands (reserved : Reserved s) (arises : Arises s s' p t) : s'.Stands .active t := by
  cases arises with
  | fresh _ generation _ stands =>
    rw [reserved.own] at generation
    unfold Stands
    rw [generation]
    exact stands
  | renewed _ _ same token stands =>
    unfold Stands
    rw [token] at stands ⊢
    rw [show (renewedToken _).generation = _ from generation_of_same same]
    exact stands

/-! ## A generation that is lost -/

theorem Reserved.active_of_lost (reserved : Reserved s)
    (lost : (s.owner t.generation.value).lost = true) (alive : phase.over = false)
    (h : s.Stands phase t) : s.Stands .active t :=
  (h.revoked_of_over (reserved.ended _ lost) alive).stands

theorem Reserved.active (reserved : Reserved s)
    (excused : a.sameGeneration = true → (s.owner a.runtime).lost = true)
    (h : s.Stands a.phase a.previousObject) : s.Stands .active a.previousObject := by
  by_cases same : a.sameGeneration = true
  · refine reserved.active_of_lost ?_ a.phase_alive h
    rw [generation_of_same same]
    exact excused same
  · simpa [Attempt.phase, same] using h

/-! ## A step of another call -/

theorem HasObject.keep (h : s.HasObject a p)
    (keeps : ∀ {p t}, s.object p = some t → s'.object p = some t) (tagged : s.tag p = some k)
    (stands : ∀ {phase q t}, Reserves s q t → s.tag q = some k → s.Stands phase t →
      s'.Stands phase t) :
    s'.HasObject a p := by
  obtain ⟨t, object, active, same⟩ := h
  exact ⟨t, keeps object, stands (.object object) tagged active, same⟩

theorem Fit.keep (standing : Standing s) (e : Effect m s s')
    (found : s.calls[i]? = some call) (found' : s'.calls[i]? = some call)
    (attempt : call.stage.attempt? = some a) : Fit s' a call.stage := by
  have placed := standing.placed
  have held := placed.held i call a found attempt
  have held' := (placed.step e.kind).held i call a found' attempt
  have fit := standing.fit i call a found attempt
  have stands {phase : ObjectPhase} {q : ℕ} {t : ObjectToken} (reserves : Reserves s q t)
      (tagged : s.tag q = some call.context) (h : s.Stands phase t) : s'.Stands phase t := by
    refine e.spare placed standing.reserved reserves (fun k tagged' j call' lock at_j _ => ?_) h
    obtain rfl := Option.mem_unique tagged tagged'
    obtain rfl := Option.mem_unique lock held'.lock
    rw [← at_j, found', found]
  have prior {phase : ObjectPhase} (h : s.Stands phase a.previousObject) :
      s'.Stands phase a.previousObject :=
    stands (standing.reserved.of_prior found attempt) held.previous h
  have bare {p : ℕ} (candidate : call.stage.candidate? = some p) (h : s.object p = none) :
      s'.object p = none := by
    rcases object : s'.object p with _ | t
    · rfl
    rcases e.object.2 object with old | installs
    · simp [h] at old
    · exact absurd found' (installs.moves placed found candidate)
  have target {p : ℕ} (h : call.stage.candidate? = some p ∨ call.stage.stored? = some p) :
      s.tag p = some call.context := (held.target p h).2
  have pending {p : ℕ} {t : ObjectToken} {phase : ObjectPhase}
      (h : call.stage.pending? = some (p, t)) (active : s.Stands phase t) : s'.Stands phase t :=
    stands (.call found h) (target (.inl (Stage.candidate?_of_pending h))) active
  generalize call.stage = stage at *
  cases stage with
  | beginning _ answer | resetting _ answer => cases answer <;> exact prior fit
  | attempting | cleaning | failing => exact prior fit
  | settingUp => exact ⟨prior fit.1, bare rfl fit.2⟩
  | publishing _ p answer =>
    cases answer with
    | error => exact prior fit
    | ok t => exact ⟨fit.1, bare rfl fit.2.1, fit.2.2.1, pending rfl fit.2.2.2⟩
  | opening _ p =>
    exact fit.imp (fun h => ⟨h.1, h.2.keep e.object.1 (target (.inl rfl)) stands⟩)
      fun h => ⟨h.1, bare rfl h.2.1, prior h.2.2⟩
  | creating _ p answer =>
    refine ⟨fit.1, prior fit.2.1, fun t answered => ?_⟩
    subst answered
    exact pending rfl (fit.2.2 t rfl)
  | updating | invalidating | ending | sharing =>
    exact HasObject.keep fit e.object.1 (target (.inr rfl)) stands
  | _ => trivial

/-! ## A step of the call itself -/

theorem Steady.advance {input : Input}
    (steady : Steady s (.advance i input)) (found : s.calls[i]? = some call)
    (attempt : call.stage.attempt? = some a) (exposed : call.stage.exposed = true)
    (same : a.sameGeneration = true) :
    (s.owner a.runtime).lost = true ∨ input.accepted = true ∧
      s.contexts[call.context]?.map (·.provider) = some true ∧
      (Machine.checkedAdd 64 a.previousObject.epoch 1).isSome = true := by
  cases lost : (s.owner a.runtime).lost
  · exact .inr (steady call found a attempt exposed same lost)
  · exact .inl rfl

theorem Exhausts.exposed (h : Exhausts a stage) : stage.exposed = true := by
  cases h <;> rfl

theorem Exhausts.fit (h : Exhausts a stage) (fit : Fit s a stage) :
    s.Stands a.phase a.previousObject := by
  cases h with
  | settingUp => exact fit.1
  | _ => exact fit

theorem stands_iff (same : a.sameGeneration = true) :
    s.Stands phase a.previousObject ↔
    (s.owner a.runtime).objects.Stands phase a.previousObject := by
  unfold Stands
  rw [generation_of_same same]

theorem Reserved.own_object (reserved : Reserved s) (same : a.sameGeneration = true) :
    a.previousObject.generation = (s.owner a.runtime).objects.generation := by
  rw [generation_of_same same, reserved.own]

section
variable {a : Attempt} {owner : Owner} {accepted : Bool}
  (owned : s'.owner = Function.update s.owner a.runtime owner) (same : a.sameGeneration = true)
include owned same

theorem stands_update {phase : ObjectPhase} :
    s'.Stands phase a.previousObject ↔ owner.objects.Stands phase a.previousObject := by
  rw [stands_iff same, owned, Function.update_self]

theorem fit_beginning {answer : Except Error Unit} (active : s.Stands .active a.previousObject)
    (command : (s.owner a.runtime).command accepted (Owner.beginObjectRecovery a.previousObject) =
      (owner, answer)) : Fit s' a (.beginning a answer) := by
  rw [stands_iff same] at active
  rcases Owner.command_cases command with ⟨rfl, ⟨error, rfl⟩, -⟩ | ⟨-, -, executed⟩
  · exact (stands_update owned same).2 active
  rcases Owner.beginObjectRecovery_cases executed with ⟨rfl, error, rfl⟩ | ⟨rfl, begun⟩
  · exact (stands_update owned same).2 active
  unfold Fit
  rw [Attempt.phase_of_same same]
  exact (stands_update owned same).2 begun

variable (reserved : Reserved s) (recovering : s.Stands .recovering a.previousObject)
include reserved recovering

theorem active_of_refused (h : (s.owner a.runtime).lost = true) (kept : owner = s.owner a.runtime) :
    s'.Stands .active a.previousObject := by
  rw [stands_update owned same, kept, ← stands_iff same]
  refine reserved.active_of_lost ?_ rfl recovering
  rw [generation_of_same same]
  exact h

theorem active_of_failed {answer : Except Error Unit}
    (taken : (s.owner a.runtime).lost = true ∨ accepted = true)
    (command : (s.owner a.runtime).command accepted (Owner.failObjectRecovery a.previousObject) =
      (owner, answer)) : s'.Stands .active a.previousObject := by
  rcases Owner.command_cases command with ⟨kept, -, refused⟩ | ⟨-, -, executed⟩
  · refine active_of_refused owned same reserved recovering (taken.elim id fun h => ?_) kept
    simpa [h] using refused
  · have revoked := Owner.failObjectRecovery_revokes (reserved.own_object same)
      ((stands_iff same).1 recovering)
    rw [executed] at revoked
    exact (stands_update owned same).2 revoked.stands

theorem fit_publishing {p : ℕ} {answer : Except Error ObjectToken} (states : s'.states = s.states)
    (bare : s.object p = none)
    (taken : (s.owner a.runtime).lost = true ∨
      accepted = true ∧ (Machine.checkedAdd 64 a.previousObject.epoch 1).isSome = true)
    (command : (s.owner a.runtime).command accepted
      (Owner.publishObjectReplacement a.previousObject) = (owner, answer)) :
    Fit s' a (.publishing a p answer) := by
  rcases Owner.command_cases command with ⟨kept, ⟨error, rfl⟩, refused⟩ | ⟨alive, -, executed⟩
  · refine active_of_refused owned same reserved recovering (taken.elim id fun h => ?_) kept
    simpa [h.1] using refused
  · have epoch := (taken.resolve_left (by simp [alive])).2
    cases answer with
    | error error =>
      exact (stands_update owned same).2 (Owner.publishObjectReplacement_refused
        (reserved.own_object same) epoch ((stands_iff same).1 recovering) executed).stands
    | ok t =>
      rcases (s.owner a.runtime).publishObjectReplacement_cases a.previousObject with
        ⟨objects, effect, effects, published, answered⟩ | ⟨_, _, -, answered⟩ <;>
        simp only [answered, Prod.mk.injEq, Except.ok.injEq, reduceCtorEq, and_false] at executed
      obtain ⟨rfl, rfl⟩ := executed
      refine ⟨same, by simpa [object, states] using bare, ⟨rfl, rfl⟩, ?_⟩
      unfold Stands
      rw [show (renewedToken a.previousObject).generation = _ from
        generation_of_same same, owned, Function.update_self]
      exact (publish_spec published).2.1

end

theorem Standing.fit_at (standing : Standing s)
    (found : s.calls[i]? = some call) (hit : call.stage = stage)
    (attempt : stage.attempt? = some a) :
    Fit s a stage := by
  subst hit
  exact standing.fit i call a found attempt

theorem Placed.held_at (placed : Placed s)
    (found : s.calls[i]? = some call) (hit : call.stage = stage)
    (attempt : stage.attempt? = some a) : Held s i { call with stage } a := by
  subst hit
  exact placed.held i call a found attempt

/-- A recovering call finds its objects as its stage needs them. -/
theorem Effect.fit (e : Effect m s s') (standing : Standing s) (steady : Steady s m)
    (found' : s'.calls[j]? = some call')
    (attempt : call'.stage.attempt? = some a) :
    s.calls[j]? = some call' ∨ Fit s' a call'.stage := by
  have placed := standing.placed
  have reserved := standing.reserved
  have held' := (placed.step e.kind).held j call' a found' attempt
  -- The step has not touched the objects of the context.
  have stands {phase : ObjectPhase} {q : ℕ} {t : ObjectToken} (plain : call'.stage.touching = false)
      (reserves : Reserves s q t) (tagged : s.tag q = some call'.context) (h : s.Stands phase t) :
      s'.Stands phase t := by
    refine e.spare placed reserved reserves (fun k tagged' i c lock at_i touching => ?_) h
    obtain rfl := Option.mem_unique tagged tagged'
    obtain rfl := Option.mem_unique lock held'.lock
    obtain rfl := Option.mem_unique at_i found'
    simp [plain] at touching
  have keeps {p : ℕ} {t : ObjectToken} : s.object p = some t → s'.object p = some t := e.object.1
  have arises {p : ℕ} {t : ObjectToken} (pending : call'.stage.pending? = some (p, t)) :
      s.calls[j]? = some call' ∨ s'.Stands .active t :=
    (e.pending found' pending).imp_right fun h => h.2.stands reserved
  have moved {i : ℕ} {call : Call} {stage : Stage}
      (calls : s'.calls = s.calls.set i { call with stage })
      (fit : ∀ a, stage.attempt? = some a → Fit s' a stage) :
      s.calls[j]? = some call' ∨ Fit s' a call'.stage := by
    rcases Calls.getElem?_set_cases (calls ▸ found') with ⟨-, rfl⟩ | ⟨-, old⟩
    · exact .inr (fit a attempt)
    · exact .inl old
  have goes {i : ℕ} {call : Call} {b : Attempt} {stage : Stage}
      (calls : s'.calls = s.calls.set i { call with stage }) (attempt : stage.attempt? = some b)
      (fit : Fit s' b stage) : s.calls[j]? = some call' ∨ Fit s' a call'.stage :=
    moved calls fun a h => Option.mem_unique attempt h ▸ fit
  cases e with
  | called calls listing made =>
    rcases Calls.getElem?_append_cases found' with old | ⟨-, new⟩
    · exact .inl old
    · rcases (made _ new).stage with stage | stage <;> simp [stage, Stage.attempt?] at attempt
  | @turned i call stage found turn =>
    refine moved rfl fun a attempt => ?_
    have fit := standing.fit i call a found
    generalize call.stage = before at turn fit
    cases turn with
    | after => exact (fit attempt).1
    | setUp _ _ _ other =>
      obtain rfl := Option.some.inj attempt
      obtain ⟨active, bare⟩ := fit rfl
      rw [Attempt.phase_of_other other] at active
      exact .inr ⟨other, bare, active⟩
    | first | again | cleaned | invalidate => exact fit attempt
    | pass | refuse | queue => cases attempt
  | @reset i call b input move found stage answer answered =>
    refine goes rfl rfl ?_
    have fit := standing.fit_at found stage rfl
    cases answer with
    | ok _ => exact fit
    | error error =>
      refine Reserved.active (s := s) reserved (fun same => ?_) fit
      rw [move] at steady
      rcases steady.advance found (by rw [stage]; rfl) (by rw [stage]; rfl) same with lost |
        ⟨accepted, -⟩
      · exact lost
      · simpa [accepted] using answered
  | @began i call context b owner answer accepted found stage known free previous current
      object runtime same command =>
    refine goes rfl rfl ?_
    exact fit_beginning rfl same (standing.idle call.context b.previous b.previousObject
      (lockOf_eq_none known free) (generationOf_eq_some.2 ⟨_, known, previous.symm⟩) object) command
  | @entered i call context b answer found stage known free previous current object runtime other =>
    refine goes rfl rfl ?_
    have active := standing.idle call.context b.previous b.previousObject
      (lockOf_eq_none known free) (generationOf_eq_some.2 ⟨_, known, previous.symm⟩) object
    cases answer with
    | error => exact active
    | ok _ =>
      unfold Fit
      rw [Attempt.phase_of_other other]
      exact active
  | @exhausted i call b owner answer input error move found stage same command =>
    refine goes rfl rfl ?_
    have fit := stage.fit (standing.fit i call b found stage.attempt.1)
    rw [Attempt.phase_of_same same] at fit
    rw [move] at steady
    exact active_of_failed rfl same reserved fit
      ((steady.advance found stage.attempt.1 stage.exposed same).imp_right (·.1)) command
  | @published i left state call b owner answer input move found stage same command =>
    refine goes rfl rfl ?_
    obtain ⟨recovering, bare⟩ := standing.fit_at found stage rfl
    rw [Attempt.phase_of_same same] at recovering
    rw [move] at steady
    exact fit_publishing rfl same reserved recovering rfl bare
      ((steady.advance found (by rw [stage]; rfl) (by rw [stage]; rfl) same).imp_right
        fun h => ⟨h.1, h.2.2⟩) command
  | @started i left id call b move found stage alive =>
    rcases Calls.getElem?_set_cases found' with ⟨rfl, rfl⟩ | ⟨-, old⟩
    · obtain rfl := Option.some.inj attempt
      have fit := standing.fit_at found stage rfl
      refine .inr ⟨stands rfl (reserved.of_prior found (by rw [stage]; rfl))
        (placed.held_at found stage rfl).previous fit, ?_⟩
      rw [object_of_concat (s := s) rfl]
      simp [Connection.object]
    · exact .inl old
  | @cleaned i left state call b _ _ found stage =>
    rcases Calls.getElem?_set_cases found' with ⟨rfl, rfl⟩ | ⟨-, old⟩
    · obtain rfl := Option.some.inj attempt
      have fit := standing.fit_at found stage rfl
      exact .inr (stands rfl (reserved.of_prior found (by rw [stage]; rfl))
        (placed.held_at found stage rfl).previous fit.1)
    · exact .inl old
  | @installed i state call b token found stage bare =>
    refine goes rfl rfl ?_
    have fit := standing.fit_at found stage rfl
    have target := (placed.held_at found stage rfl).target state (.inl rfl)
    exact .inl ⟨fit.1, token, object_install (lt_of_tag target.2), fit.2.2.2, fun _ => fit.2.2.1⟩
  | @created i state call b owner answer input move found stage bare command =>
    rcases Calls.getElem?_set_cases found' with ⟨rfl, rfl⟩ | ⟨-, old⟩
    · obtain rfl := Option.some.inj attempt
      obtain ⟨-, t, object, -⟩ | ⟨other, -, active⟩ := standing.fit_at found stage rfl
      · simp [bare] at object
      refine .inr ⟨other, stands rfl (reserved.of_prior found (by rw [stage]; rfl))
        (placed.held_at found stage rfl).previous active, fun t answered => ?_⟩
      subst answered
      refine (arises rfl).resolve_left fun same => ?_
      rw [found] at same
      simp [congrArg Call.stage (Option.some.inj same)] at stage
    · exact .inl old
  | @stored i state call b token found stage object =>
    refine goes rfl rfl ?_
    obtain ⟨-, has⟩ | ⟨-, bare, -⟩ := standing.fit_at found stage rfl
    · exact has
    · simp [bare] at object
  | @createdAndStored i state call b token found stage bare =>
    refine goes rfl rfl ?_
    have fit := standing.fit_at found stage rfl
    have target := (placed.held_at found stage rfl).target state (.inl rfl)
    exact ⟨token, object_install (lt_of_tag target.2), fit.2.2 token rfl,
      fun same => by simp [fit.1] at same⟩
  | @ended i state call b owner answer accepted found stage same command =>
    rcases Calls.getElem?_set_cases found' with ⟨rfl, rfl⟩ | ⟨-, old⟩
    · obtain rfl := Option.some.inj attempt
      have fit := standing.fit_at found stage rfl
      have target := (placed.held_at found stage rfl).target state (.inr rfl)
      exact .inr (HasObject.keep fit keeps target.2 (stands rfl))
    · exact .inl old
  | @invalidated i state call b found stage other =>
    refine goes rfl rfl ?_
    obtain ⟨t, object, active, same⟩ := standing.fit_at found stage rfl
    exact ⟨t, keeps object, active, same⟩
  | @unflagged i state call b found stage =>
    refine goes rfl rfl ?_
    exact standing.fit_at found stage rfl
  | passedBy | left | released | recorded | replaced | abandoned | droppedSharing
  | droppedHolding =>
    exact moved rfl fun a attempt => by cases attempt
  | _ => exact .inl found'

/-! ## Exits -/

theorem Standing.has_object (standing : Standing s)
    (found : s.calls[i]? = some call) (attempt : call.stage.attempt? = some a)
    (excused : call.stage.exposed = true → a.sameGeneration = true →
      (s.owner a.runtime).lost = true) :
    s.HasObject a (call.stage.stored?.getD a.previous) := by
  have reserved := standing.reserved
  have fit := standing.fit i call a found attempt
  have prior (h : s.Stands .active a.previousObject) : s.HasObject a a.previous :=
    ⟨_, reserved.prior call (List.mem_of_getElem? found) a attempt, h, fun _ => ⟨rfl, rfl⟩⟩
  -- A replacement of a lost generation is revoked, and so is what it replaces.
  have replaced {t : ObjectToken} (same : a.sameGeneration = true) (object : a.SameObject t)
      (lost : (s.owner a.runtime).lost = true) (h : s.Stands .active t) :
      s.HasObject a a.previous := by
    refine prior ((stands_iff same).2 (ObjectRegistry.Revoked.stands ?_))
    unfold Stands at h
    rw [object.1, generation_of_same same] at h
    have revoked := h.revoked_of_over (reserved.ended _ lost) rfl
    unfold ObjectRegistry.Revoked at revoked ⊢
    rwa [object.2] at revoked
  generalize call.stage = stage at *
  cases stage with
  | beginning _ answer | resetting _ answer =>
    cases answer with
    | error => exact prior fit
    | ok => exact prior (reserved.active (excused rfl) fit)
  | attempting | cleaning => exact prior (reserved.active (excused rfl) fit)
  | settingUp => exact prior (reserved.active (excused rfl) fit.1)
  | failing => exact prior fit
  | publishing _ p answer =>
    cases answer with
    | error => exact prior fit
    | ok t => exact replaced fit.1 fit.2.2.1 (excused rfl fit.1) fit.2.2.2
  | opening _ p =>
    obtain ⟨same, t, -, active, object⟩ | ⟨-, -, active⟩ := fit
    · exact replaced same (object same) (excused rfl same) active
    · exact prior active
  | creating => exact prior fit.2.1
  | updating | invalidating | ending | sharing => exact fit
  | _ => cases attempt

theorem Leaves.excused {input : Input} (leaves : Leaves s call)
    (standing : Standing s) (steady : Steady s (.advance i input)) (found : s.calls[i]? = some call)
    (attempt : call.stage.attempt? = some a) (exposed : call.stage.exposed = true)
    (same : a.sameGeneration = true) : (s.owner a.runtime).lost = true := by
  cases leaves with
  | early stage => simp [stage, Stage.attempt?] at attempt
  | unprovided _ known provider =>
    refine (steady.advance found attempt exposed same).resolve_right fun h => ?_
    simp [known, provider] at h
  | exhausted stage other =>
    obtain rfl := Option.mem_unique attempt stage.attempt.1
    simp [other] at same
  | installed stage object =>
    rcases stage with stage | stage
    · have fit := standing.fit_at found stage rfl
      simp [fit.2.1] at object
    · simp [stage, Stage.exposed] at exposed
  | stale stage | unreset stage | failed stage | unpublished stage | uncreated stage =>
    simp [stage, Stage.exposed] at exposed

theorem Effect.excused (e : Effect m s s') (standing : Standing s) (steady : Steady s m)
    (found : s.calls[j]? = some call)
    (attempt : call.stage.attempt? = some a) (found' : s'.calls[j]? = some call')
    (gone : call'.stage.attempt? = none) (exposed : call.stage.exposed = true)
    (same : a.sameGeneration = true) : (s.owner a.runtime).lost = true := by
  -- Only the steps in which a call exits matter.
  have still (h : s.calls[j]? = some call') : (s.owner a.runtime).lost = true := by
    obtain rfl := Option.mem_unique found h
    simp [attempt] at gone
  have moved {i : ℕ} {before : Call} {stage : Stage} (before_at : s.calls[i]? = some before)
      (calls : s'.calls = s.calls.set i { before with stage })
      (exits : stage.attempt? = none → before.stage.attempt? = some a →
        before.stage.exposed = true → (s.owner a.runtime).lost = true) :
      (s.owner a.runtime).lost = true := by
    rcases Calls.getElem?_set_cases (calls ▸ found') with ⟨rfl, rfl⟩ | ⟨-, old⟩
    · obtain rfl := Option.mem_unique found before_at
      exact exits gone attempt exposed
    · exact still old
  cases e with
  | called calls listing _ =>
    have bound := (List.getElem?_eq_some_iff.1 found).1
    exact still (List.getElem?_append_left bound ▸ found')
  | @turned i call stage at_i turn =>
    refine moved at_i rfl fun gone attempt _ => ?_
    generalize call.stage = before at turn attempt
    cases turn <;> first | (cases attempt; done) | cases gone
  | @left i call input error move at_i leaves =>
    refine moved at_i rfl fun _ attempt exposed => ?_
    rw [move] at steady
    exact leaves.excused standing steady at_i attempt exposed same
  | @released i state call b at_i stage | @droppedSharing i state call b move at_i stage =>
    refine moved at_i rfl fun _ _ exposed => ?_
    simp [stage, Stage.exposed] at exposed
  | @droppedHolding i call b move at_i stage working =>
    refine moved at_i rfl fun _ attempt exposed => ?_
    rw [move] at steady
    cases lost : (s.owner a.runtime).lost
    · exact (steady.1 call at_i a attempt exposed same lost).elim
    · rfl
  | passedBy at_i stage | recorded at_i stage | replaced at_i stage =>
    refine moved at_i rfl fun _ _ exposed => ?_
    simp [stage, Stage.exposed] at exposed
  | abandoned move at_i stage =>
    refine moved at_i rfl fun _ _ exposed => ?_
    rcases stage with stage | stage | ⟨_, stage⟩ <;> simp [stage, Stage.exposed] at exposed
  | reset _ at_i | began at_i | entered _ at_i | exhausted _ _ at_i | started _ at_i
  | cleaned _ at_i
  | published _ at_i | installed at_i | created _ at_i | stored at_i | createdAndStored at_i
  | ended at_i | invalidated at_i | unflagged at_i =>
    exact moved at_i rfl fun gone _ _ => by cases gone
  | _ => exact still found'

theorem Kind.freed (kind : Kind m s s')
    (found : s.calls[j]? = some call) (attempt : call.stage.attempt? = some a)
    (found' : s'.calls[j]? = some call') (gone : call'.stage.attempt? = none) :
    s'.lockOf call.context = none ∧ s'.generationOf call.context = s.generationOf call.context ∧
      ((∃ a p, call.stage = .sharing a p) ∨ s'.flagOf call.context ≠ some true) := by
  rcases kind.call_keep found with still | ⟨stage, f, new, passage, after, passes⟩
  · obtain rfl := Option.mem_unique found' still
    simp [attempt] at gone
  obtain rfl := Option.mem_unique found' after
  have freed (recovery : ∀ c, (f c).recovery = none)
      (generation : ∀ c, (f c).generation = c.generation) : s'.lockOf call.context = none ∧
      s'.generationOf call.context = s.generationOf call.context := by
    refine ⟨?_, generationOf_of_modify passes.contexts _ (.inr generation)⟩
    simp [lockOf_modify passes.contexts, recovery]
  cases passage with
  | clear =>
    obtain ⟨lock, generation⟩ := freed (fun _ => rfl) fun _ => rfl
    exact ⟨lock, generation, .inr (by simp [flagOf_modify passes.contexts, cleared])⟩
  | release sharing =>
    obtain ⟨lock, generation⟩ := freed (fun _ => rfl) fun _ => rfl
    exact ⟨lock, generation, .inl ⟨_, _, sharing⟩⟩
  | turn same => simp [same, attempt] at gone
  | take _ _ _ _ _ attempt' => simp [attempt'] at gone
  | pass _ _ _ stage | record stage | start stage => simp [stage, Stage.attempt?] at attempt gone
  | abandon waiting => rcases waiting with h | h | ⟨_, h⟩ <;> simp [h, Stage.attempt?] at attempt
  | store | unflag => cases gone

/-- **A call that leaves frees the lock**, and the context has its object. -/
theorem Effect.exit (e : Effect m s s') (standing : Standing s) (steady : Steady s m)
    (found : s.calls[j]? = some call)
    (attempt : call.stage.attempt? = some a) (found' : s'.calls[j]? = some call')
    (gone : call'.stage.attempt? = none) :
    s'.lockOf call.context = none ∧ ∃ p, s'.generationOf call.context = some p ∧
    s'.HasObject a p := by
  obtain ⟨lock, generation, -⟩ := e.kind.freed found attempt found' gone
  have held := standing.placed.held j call a found attempt
  refine ⟨lock, _, generation.trans held.generation, ?_⟩
  refine (standing.has_object found attempt
    (e.excused standing steady found attempt found' gone)).keep e.object.1
    (standing.placed.generation _ _ held.generation) fun reserves tagged => ?_
  refine e.spare standing.placed standing.reserved reserves fun k tagged' i call' lock' => ?_
  rw [← Option.mem_unique tagged tagged', lock] at lock'
  cases lock'

/-! ## Sessions nobody recovers -/

theorem Kind.released (kind : Kind m s s') (lock : s.lockOf k = some i)
    (free : s'.lockOf k = none) :
    ∃ (j : ℕ) (call call' : Call) (a : Attempt), s.calls[j]? = some call ∧ call.context = k ∧
      call.stage.attempt? = some a ∧ s'.calls[j]? = some call' ∧ call'.stage.attempt? = none := by
  have kept (h : s'.lockOf k = s.lockOf k) : False := by simp [h, lock] at free
  cases kind with
  | @passage j call stage f new found passage passes =>
    by_cases same : call.context = k
    swap
    · exact (kept (lockOf_of_modify passes.contexts k (.inl same))).elim
    subst same
    have found' : s'.calls[j]? = some { call with stage } := getElem?_setStage found passes.calls
    cases passage with
    | clear held attempt _ =>
      obtain ⟨a, before⟩ := Option.isSome_iff_exists.1
        (Stage.holdsLock_iff.1 (held.resolve_right (by simp [lock])))
      exact ⟨j, call, _, a, found, rfl, before, found', attempt⟩
    | @release a state stage sharing ends =>
      refine ⟨j, call, _, a, found, rfl, by rw [sharing]; rfl, found', ?_⟩
      rcases ends with rfl | rfl <;> rfl
    | take _ free' => simp [lock] at free'
    | _ => exact (kept (lockOf_of_modify passes.contexts _ (.inr fun _ => rfl))).elim
  | called _ _ contexts => exact (kept ((SameContexts.of_eq contexts).lock k)).elim
  | login _ _ _ _ contexts => exact (kept (contexts.lock k)).elim
  | loggedIn _ _ _ contexts => simp [lockOf_concat contexts lock] at free
  | rest _ contexts => exact (kept (contexts.lock k)).elim

theorem Kind.opened (kind : Kind m s s') (generation : s'.generationOf k = some p)
    (new : s.contexts.length ≤ k) : s.object p = none := by
  obtain ⟨c, known, state⟩ := generationOf_eq_some.1 generation
  have bound := (List.getElem?_eq_some_iff.1 known).1
  cases kind with
  | passage _ _ passes =>
    rw [passes.contexts, List.length_modify] at bound
    omega
  | called _ _ contexts =>
    rw [contexts] at bound
    omega
  | login _ _ _ _ contexts =>
    rw [contexts.length] at bound
    omega
  | loggedIn _ _ _ contexts generation _ _ _ _ _ _ bare =>
    rcases Calls.getElem?_concat_cases (contexts ▸ known) with old | ⟨-, rfl⟩
    · exact absurd (List.getElem?_eq_some_iff.1 old).1 new.not_gt
    · rw [← state, generation]
      exact bare
  | rest _ contexts =>
    rw [contexts.length] at bound
    omega

theorem Kind.generation (kind : Kind m s s') (bound : k < s.contexts.length) :
    s'.generationOf k = s.generationOf k ∨
      ∃ (i : ℕ) (call : Call) (a : Attempt) (state : ℕ), call.context = k ∧
        s'.calls[i]? = some { call with stage := .updating a state } := by
  cases kind with
  | @passage i call stage f new found passage passes =>
    rcases passage.generation passes.contexts k with same | ⟨rfl, a, state, -, -, rfl, -⟩
    · exact .inl same
    · exact .inr ⟨i, call, a, state, rfl, getElem?_setStage found passes.calls⟩
  | called _ _ contexts => exact .inl ((SameContexts.of_eq contexts).generation k)
  | login _ _ _ _ contexts => exact .inl (contexts.generation k)
  | loggedIn _ _ _ contexts =>
    exact .inl (by simp [generationOf, contexts, List.getElem?_append_left bound])
  | rest _ contexts => exact .inl (contexts.generation k)

/-- The object of a context that nobody recovers is active. -/
theorem Effect.idle (e : Effect m s s') (standing : Standing s) (steady : Steady s m)
    (lock : s'.lockOf k = none) (generation : s'.generationOf k = some p)
    (object : s'.object p = some t) : s'.Stands .active t := by
  have placed := standing.placed
  have placed' := placed.step e.kind
  rcases Nat.lt_or_ge k s.contexts.length with bound | new
  · rcases e.kind.generation bound with same | ⟨i, call, a, state, rfl, found'⟩
    swap
    · have held := placed'.held i _ a found' rfl
      exact absurd (lock.symm.trans held.lock) (by simp)
    rcases free : s.lockOf k with _ | i
    · have tagged := placed.generation k p (same ▸ generation)
      rcases e.object.2 object with old | installs
      · refine e.spare placed standing.reserved (.object old) (fun k' tagged' i call' lock' => ?_)
          (standing.idle k p t free (same ▸ generation) old)
        rw [← Option.mem_unique tagged tagged', lock] at lock'
        cases lock'
      · exact absurd free (installs.locked placed tagged)
    · obtain ⟨j, call, call', a, found, rfl, attempt, found', gone⟩ :=
        e.kind.released free lock
      obtain ⟨-, q, generation', t', object', active, -⟩ :=
        e.exit standing steady found attempt found' gone
      obtain rfl := Option.mem_unique generation generation'
      obtain rfl := Option.mem_unique object object'
      exact active
  · have bare := e.kind.opened generation new
    rcases e.object.2 object with old | installs
    · simp [bare] at old
    -- The state of a call belongs to a context that was there before.
    have called {i : ℕ} {call : Call} {a : Attempt} (found : s.calls[i]? = some call)
        (attempt : call.stage.attempt? = some a) (candidate : call.stage.candidate? = some p) :
        False := by
      have target := (placed.held i call a found attempt).target p (.inl candidate)
      have same := (placed.keep_tag e.kind target.2).symm.trans (placed'.generation k p generation)
      have := placed.called call (List.mem_of_getElem? found)
      rw [Option.some.inj same] at this
      omega
    cases installs with
    | published found stage _ => exact (called found (by rw [stage]; rfl) (by rw [stage]; rfl)).elim
    | created found stage _ => exact (called found (by rw [stage]; rfl) (by rw [stage]; rfl)).elim
    | login found =>
      refine e.spare placed standing.reserved (.login found rfl) (fun k' tagged => ?_)
        (standing.login _ _ p t found rfl)
      simp [(placed.login _ _ p found rfl).2] at tagged

/-! ## The flag -/

theorem Kind.flag (kind : Kind m s s') (flag : s'.flagOf k = some true) :
    s.flagOf k = some true ∨ s.lockOf k = none ∧ s'.lockOf k ≠ none := by
  cases kind with
  | @passage i call stage f new found passage passes =>
    by_cases same : call.context = k
    swap
    · exact .inl (flagOf_of_modify passes.contexts k (.inl same) ▸ flag)
    subst same
    cases passage with
    | take _ free known =>
      obtain ⟨c, hit, -⟩ := generationOf_eq_some.1 known
      exact .inr ⟨free, by simp [lockOf_modify passes.contexts, hit, taken]⟩
    | clear | unflag =>
      simp [flagOf_modify passes.contexts, cleared, unflagged] at flag
    | _ => exact .inl (flagOf_of_modify passes.contexts _ (.inr fun _ => rfl) ▸ flag)
  | called _ _ contexts => exact .inl ((SameContexts.of_eq contexts).flag k ▸ flag)
  | login _ _ _ _ contexts => exact .inl (contexts.flag k ▸ flag)
  | loggedIn _ _ _ contexts _ free =>
    obtain ⟨c, known, set⟩ := Option.map_eq_some_iff.1 flag
    rcases Calls.getElem?_concat_cases (contexts ▸ known) with old | ⟨-, rfl⟩
    · exact .inl (Option.map_eq_some_iff.2 ⟨c, old, set⟩)
    · simp [free.2] at set
  | rest _ contexts => exact .inl (contexts.flag k ▸ flag)

theorem Standing.flagged_step (standing : Standing s) (kind : Kind m s s')
    (flag : s'.flagOf k = some true) : s'.lockOf k ≠ none := by
  rcases kind.flag flag with before | ⟨-, taken⟩
  swap
  · exact taken
  intro free
  obtain ⟨i, lock⟩ := Option.ne_none_iff_exists'.1 (standing.flagged k before)
  obtain ⟨j, call, call', a, found, rfl, attempt, found', gone⟩ := kind.released lock free
  obtain ⟨-, -, ⟨b, p, sharing⟩ | cleared⟩ := kind.freed found attempt found' gone
  · exact standing.shared call (List.mem_of_getElem? found) b p sharing before
  · exact cleared flag

theorem Standing.shared_step (standing : Standing s) (kind : Kind m s s')
    (found' : s'.calls[j]? = some call') (sharing : call'.stage = .sharing a p) :
    s'.flagOf call'.context ≠ some true := by
  intro flag
  rcases found : s.calls[j]? with _ | call
  · rcases kind.call found' with old | ⟨call, _, _, _, hit, -⟩ | made
    · simp [found] at old
    · simp [found] at hit
    · rcases made.stage with stage | stage <;> simp [stage] at sharing
  rcases kind.call_keep found with still | ⟨stage, f, new, passage, after, passes⟩
  · obtain rfl := Option.mem_unique found' still
    rcases kind.flag flag with before | ⟨free, -⟩
    · exact standing.shared call' (List.mem_of_getElem? found) a p sharing before
    · have held := standing.placed.held j call' a found (by rw [sharing]; rfl)
      simp [held.lock] at free
  · obtain rfl := Option.mem_unique found' after
    obtain rfl : stage = .sharing a p := sharing
    cases passage with
    | unflag => simp [flagOf_modify passes.contexts, unflagged] at flag
    | turn _ _ _ _ _ early => exact early a p rfl
    | take _ _ _ _ _ _ stored => cases stored
    | clear _ attempt => cases attempt
    | release _ ends => rcases ends with ends | ends <;> cases ends

/-! ## The invariant -/

/-- **Every steady step keeps the objects standing.** -/
theorem Standing.step (standing : Standing s) (e : Effect m s s') (steady : Steady s m) :
    Standing s' := by
  have placed := standing.placed
  refine ⟨placed.step e.kind, standing.reserved.step placed e, fun i call a found attempt => ?_,
    fun k p t => e.idle standing steady, fun i login p t found pending => ?_,
    fun k => standing.flagged_step e.kind, fun call made a p sharing => ?_⟩
  · rcases e.fit standing steady found attempt with old | fit
    · exact .keep standing e old found attempt
    · exact fit
  · rcases e.login_pending found pending with old | ⟨-, arises⟩
    · refine e.spare placed standing.reserved (.login old pending) (fun k tagged => ?_)
        (standing.login i login p t old pending)
      simp [(placed.login i login p old (Login.state?_of_pending pending)).2] at tagged
    · exact arises.stands standing.reserved
  · obtain ⟨i, found⟩ := List.mem_iff_getElem?.1 made
    exact standing.shared_step e.kind found sharing

theorem standing_new : Standing .new := by
  refine ⟨placed_new, reserved_new, ?_, ?_, ?_, ?_, ?_⟩ <;> simp [new, generationOf, flagOf]

theorem Effect.drops (e : Effect m s s') (found : s.calls[j]? = some call)
    (found' : s'.calls[j]? = some call') (dropped : call'.stage = .dropped)
    (before : call.stage ≠ .dropped) : m = .dropCall j := by
  have still (h : s.calls[j]? = some call') : m = .dropCall j := by
    obtain rfl := Option.mem_unique found h
    exact absurd dropped before
  have moved {i : ℕ} {c : Call} {stage : Stage} (calls : s'.calls = s.calls.set i { c with stage })
      (drops : stage = .dropped → m = .dropCall i) : m = .dropCall j := by
    rcases Calls.getElem?_set_cases (calls ▸ found') with ⟨rfl, rfl⟩ | ⟨-, old⟩
    · exact drops dropped
    · exact still old
  cases e with
  | called calls listing _ =>
    have bound := (List.getElem?_eq_some_iff.1 found).1
    exact still (List.getElem?_append_left bound ▸ found')
  | turned _ turn =>
    refine moved rfl fun drops => ?_
    subst drops
    generalize Call.stage _ = stage at turn
    cases turn
  | abandoned move | droppedSharing move | droppedHolding move => exact moved rfl fun _ => move
  | reset | passedBy | began | entered | left | exhausted | started | cleaned | published
  | installed
  | created | stored | createdAndStored | ended | invalidated | unflagged | released | recorded
  | replaced => exact moved rfl fun drops => by cases drops
  | _ => exact still found'

theorem Standing.flag_of_free (standing : Standing s) (bound : k < s.contexts.length)
    (free : s.lockOf k = none) : s.flagOf k = some false := by
  have flagged := standing.flagged k
  rw [flagOf, List.getElem?_eq_getElem bound, Option.map_some] at flagged ⊢
  cases flag : (s.contexts[k]).recovering
  · rfl
  · exact absurd free (flagged (by rw [flag]))

theorem Standing.flag_of_queued (standing' : Standing s') (e : Effect m s s') (steady : Steady s m)
    (found : s.calls[i]? = some call) (found' : s'.calls[i]? = some call')
    (queued : call.stage = .queued) (outside : call'.stage.isInside = false) :
    s'.flagOf call.context = some false := by
  have bound := standing'.placed.called call' (List.mem_of_getElem? found')
  rcases e.kind.call_keep found with still | ⟨stage, f, new, passage, after, passes⟩
  · obtain rfl := Option.mem_unique found' still
    simp [queued, Stage.isInside, Stage.isQueued] at outside
  obtain rfl := Option.mem_unique found' after
  have free (h : s'.lockOf call.context = none) : s'.flagOf call.context = some false :=
    standing'.flag_of_free bound h
  cases passage with
  | pass _ _ _ _ unlocked =>
    exact free ((lockOf_of_modify passes.contexts _ (.inr fun _ => rfl)).trans unlocked)
  | clear => exact free (by simp [lockOf_modify passes.contexts, cleared])
  | abandon =>
    rw [e.drops found found' rfl (by simp [queued])] at steady
    refine (flagOf_of_modify passes.contexts _ (.inr fun _ => rfl)).trans (steady.2 call found ?_)
    rw [queued]
    rfl
  | turn _ _ _ working => simp [queued, Stage.holdsLock] at working
  | take _ _ _ _ _ attempt =>
    have := Stage.holdsLock_iff.2 (Option.isSome_iff_exists.2 ⟨_, attempt⟩)
    simp [Stage.isInside, this] at outside
  | record stage | start stage | release stage => simp [queued] at stage
  | store _ attempt | unflag attempt => simp [queued, Stage.attempt?] at attempt

theorem HasObject.resolved (h : s.HasObject a p)
    (generation : s.generationOf k = some p) (same : a.sameGeneration = true) :
    ObjectResolved s k a := by
  obtain ⟨t, object, ⟨r, found, active⟩, successor⟩ := h
  obtain ⟨own, id⟩ := successor same
  rw [own, generation_of_same same, id] at found
  refine ⟨r, found, active.imp_left fun h => ⟨h.2, .inr ?_⟩⟩
  rw [generation, Option.bind_some, object, h.1]

theorem Standing.exits (standing : Standing s) (standing' : Standing s') (e : Effect m s s')
    (steady : Steady s m) : ExitsResolved s s' := by
  intro i call call' found found' exits
  obtain ⟨inside, outside⟩ := exits
  rcases attempt : call.stage.attempt? with _ | a
  · refine ⟨standing'.flag_of_queued e steady found found' ?_ outside, fun a h => by cases h⟩
    cases stage : call.stage <;>
      simp [stage, Stage.isInside, Stage.holdsLock, Stage.isQueued, Stage.attempt?]
        at inside attempt ⊢
  · have gone : call'.stage.attempt? = none := by
      have := @Stage.holdsLock_iff call'.stage
      rw [Stage.isInside, Bool.or_eq_false_iff] at outside
      simpa [outside.1] using this
    obtain ⟨lock, p, generation, has⟩ := e.exit standing steady found attempt found' gone
    have bound : call.context < s'.contexts.length := by
      obtain ⟨_, known, -⟩ := generationOf_eq_some.1 generation
      exact (List.getElem?_eq_some_iff.1 known).1
    refine ⟨standing'.flag_of_free bound lock, fun b h same => ?_⟩
    obtain rfl := Option.some.inj h
    exact has.resolved generation same

/-- In a steady run every end of `reauthenticate` clears the flag and leaves the object it began to
recover active or over. -/
theorem exits_resolved (maxAttempts maxWaitingOperations : ℕ) (moves : List Move) (m : Move)
    (steady : Meets (step maxAttempts maxWaitingOperations) Steady .new (moves ++ [m])) :
    ExitsResolved (run maxAttempts maxWaitingOperations moves)
      (run maxAttempts maxWaitingOperations (moves ++ [m])) := by
  obtain ⟨before, last, -⟩ := Meets.append.1 steady
  have standing : Standing (run maxAttempts maxWaitingOperations moves) :=
    before.invariant (P := Standing) (fun s m h => h.step (step_effect s m)) standing_new
  have e := @step_effect maxAttempts maxWaitingOperations
    (run maxAttempts maxWaitingOperations moves) m
  rw [run, run, List.foldl_append]
  exact standing.exits (standing.step e last) e last

def settingUp : List Move :=
  oneSession ++ [.recoverSession 0 0, .advance 0 goOn, .advance 0 goOn, .advance 0 goOn,
    .advance 0 ⟨true, .started 8⟩]

theorem completed_resolved :
    Meets (step 1 2) Steady .new
    (settingUp ++ List.replicate 6 (.advance 0 goOn) ++ [.advance 0 goOn]) ∧
      ExitsResolved (run 1 2 (settingUp ++ List.replicate 6 (.advance 0 goOn)))
        (run 1 2 (settingUp ++ List.replicate 6 (.advance 0 goOn) ++ [.advance 0 goOn])) :=
  ⟨by decide +kernel, exits_resolved 1 2 _ _ (by decide +kernel)⟩

/-- The future is dropped during the setup, and the object is left recovering. -/
theorem dropped_unresolved :
    ¬ ExitsResolved (run 1 2 settingUp) (run 1 2 (settingUp ++ [.dropCall 0])) := by
  intro resolved
  have attempt : ((run 1 2 settingUp).calls[0]?).bind
      (·.stage.attempt?) = some ⟨0, ⟨⟨0⟩, 1, 0⟩, 0⟩ := by
    decide +kernel
  have inside : ((run 1 2 settingUp).calls[0]?).map (·.stage.isInside) = some true := by
    decide +kernel
  have outside : ((run 1 2 (settingUp ++ [.dropCall 0])).calls[0]?).map (·.stage.isInside) =
      some false := by decide +kernel
  have recovering : (((run 1 2 (settingUp ++ [.dropCall 0])).owner 0).objects.records.lookup 1).map
      (·.phase) = some .recovering := by decide +kernel
  obtain ⟨call, found, attempt⟩ := Option.bind_eq_some_iff.1 attempt
  obtain ⟨call', found', outside⟩ := Option.map_eq_some_iff.1 outside
  rw [found] at inside
  obtain ⟨r, hit, phase⟩ :=
    (resolved 0 call call' found found' ⟨Option.some.inj inside, outside⟩).2 _ attempt rfl
  rw [show _ = some r from hit] at recovering
  rcases phase with ⟨phase, -⟩ | phase <;> simp [phase] at recovering

end

end Connection

end Domain
