import SmbClient.Lib.Table
import SmbClient.Runtime.Reducer

/-!
# The domain objects of a generation (`runtime/object_state.rs`)

Parents have smaller ids than their children (`ObjectRegistry.sound`), which is why the walks
towards the root end.
-/

namespace Runtime

structure ObjectToken where
  generation : GenerationId
  id : ℕ
  epoch : ℕ
deriving DecidableEq

inductive ObjectKind where
  | connection
  | session
  | share
  | resource
deriving DecidableEq

def ObjectKind.acceptsParent : ObjectKind → ObjectKind → Bool
  | .session, .connection | .share, .session | .resource, .share => true
  | _, _ => false

inductive ObjectPhase where
  | active
  | recovering
  | revoked
  | closing
  | closed
deriving DecidableEq

def ObjectPhase.over : ObjectPhase → Bool
  | .revoked | .closed => true
  | .active | .recovering | .closing => false

inductive ObjectError where
  | foreignGeneration
  | unknown
  | stale
  | parentNotActive
  | invalidParent
  | idExhausted
deriving DecidableEq

inductive CloseDecision where
  | ownProtocolClose
  | awaitExistingClose
  | alreadyClosed

inductive ObjectEffect where
  | revoked (token : ObjectToken)
  | replacementPublished (previous replacement : ObjectToken)
deriving DecidableEq

def ObjectEffect.id : ObjectEffect → ℕ
  | .revoked token => token.id
  | .replacementPublished _ replacement => replacement.id

structure ObjectRecord where
  token : ObjectToken
  kind : ObjectKind
  parent : Option ObjectToken
  phase : ObjectPhase
deriving DecidableEq

def ObjectsFiled (nextId : Option ℕ) (records : Table ℕ ObjectRecord) : Prop :=
  ∀ id r, records.lookup id = some r →
    r.token.id = id ∧ (∀ p, r.parent = some p → p.id < id) ∧ ∀ n, nextId = some n → id < n

structure ObjectRegistry where
  generation : GenerationId
  nextId : Option ℕ
  records : Table ℕ ObjectRecord
  connection : ObjectToken
  sound : ObjectsFiled nextId records

namespace ObjectRegistry

def new (generation : GenerationId) : ObjectRegistry where
  generation
  nextId := some 1
  records := (∅ : Table ℕ ObjectRecord).insert 0
    ⟨⟨generation, 0, 0⟩, .connection, none, .active⟩
  connection := ⟨generation, 0, 0⟩
  sound := by
    intro id r h
    rw [Table.lookup_insert_eq] at h
    split at h
    · rename_i hid
      obtain rfl := Option.some.inj h
      exact ⟨hid.symm, by simp, by simp [hid]⟩
    · cases h

variable (g : ObjectRegistry)

variable (token : ObjectToken)

def record : Except ObjectError ObjectRecord :=
  if token.generation ≠ g.generation then .error .foreignGeneration
  else match g.records.lookup token.id with
  | none => .error .unknown
  | some r => if r.token ≠ token then .error .stale else .ok r

theorem lookup_of_record {token : ObjectToken} {r : ObjectRecord} (h : g.record token = .ok r) :
    g.records.lookup token.id = some r ∧ r.token = token := by
  unfold record at h
  split at h
  · cases h
  split at h
  · cases h
  split at h
  · cases h
  rename_i hr ht
  cases h
  exact ⟨hr, not_not.mp ht⟩

/-! ## Walks towards the root -/

-- The equations `h` and `hp` are what the termination proof is about.
set_option linter.unusedVariables false in
def validateActive (token : ObjectToken) : Except ObjectError Unit :=
  match h : g.record token with
  | .error error => .error error
  | .ok r =>
    if r.phase ≠ .active then .error .parentNotActive
    else match hp : r.parent with
    | none => .ok ()
    | some parent => validateActive parent
termination_by token.id
decreasing_by exact (g.sound _ _ (g.lookup_of_record h).1).2.1 parent hp

set_option linter.unusedVariables false in
def isDescendant (id : ℕ) (ancestor : ObjectToken) : Bool :=
  match h : g.records.lookup id with
  | none => false
  | some r =>
    match hp : r.parent with
    | none => false
    | some token => decide (token = ancestor) || isDescendant token.id ancestor
termination_by id
decreasing_by exact (g.sound _ _ h).2.1 token hp

/-! ## Changing records -/

def mapRecords (f : ObjectRecord → ObjectRecord)
    (hf : ∀ r, (f r).token.id = r.token.id ∧
      ∀ p, (f r).parent = some p → ∃ q, r.parent = some q ∧ q.id = p.id) : ObjectRegistry :=
  { g with
    records := g.records.map f
    sound := by
      intro id r h
      rw [Table.lookup_map, Option.map_eq_some_iff] at h
      obtain ⟨r, h, rfl⟩ := h
      obtain ⟨hid, hparent, hnext⟩ := g.sound id r h
      refine ⟨(hf r).1.trans hid, fun p hp => ?_, hnext⟩
      obtain ⟨q, hq, he⟩ := (hf r).2 p hp
      rw [← he]
      exact hparent q hq }

def revoke (test : ObjectRecord → Bool) : ObjectRegistry × List ObjectEffect :=
  (g.mapRecords (fun r => if test r && !r.phase.over then { r with phase := .revoked } else r)
    (by
      intro r
      split
      · exact ⟨rfl, fun p hp => ⟨p, hp, rfl⟩⟩
      · exact ⟨rfl, fun p hp => ⟨p, hp, rfl⟩⟩),
   (g.records.values.filter fun r => test r && !r.phase.over).map fun r => .revoked r.token)

def sortEffects (effects : List ObjectEffect) : List ObjectEffect :=
  effects.mergeSort fun a b => decide (a.id ≤ b.id)

def revokeDescendants (ancestor : ObjectToken) : ObjectRegistry × List ObjectEffect :=
  g.revoke fun r => g.isDescendant r.token.id ancestor

def loseGeneration : ObjectRegistry × List ObjectEffect :=
  let (g, effects) := g.revoke fun _ => true
  (g, sortEffects effects)

def setPhase (phase : ObjectPhase) : ObjectRegistry :=
  g.mapRecords (fun r => if r.token = token then { r with phase } else r) (by
    intro r
    split
    · exact ⟨rfl, fun p hp => ⟨p, hp, rfl⟩⟩
    · exact ⟨rfl, fun p hp => ⟨p, hp, rfl⟩⟩)

def createChild (parent : ObjectToken) (kind : ObjectKind) :
    Except ObjectError (ObjectRegistry × ObjectToken) :=
  match hr : g.record parent with
  | .error error => .error error
  | .ok r =>
    if ¬ kind.acceptsParent r.kind then .error .invalidParent
    else if r.phase ≠ .active then .error .parentNotActive
    else match hn : g.nextId with
    | none => .error .idExhausted
    | some id =>
      let token : ObjectToken := ⟨g.generation, id, 0⟩
      .ok ({ g with
        nextId := Machine.checkedAdd 64 id 1
        records := g.records.insert id ⟨token, kind, some parent, .active⟩
        sound := by
          intro id' r' h
          have hnext : ∀ n, Machine.checkedAdd 64 id 1 = some n → id < n := by
            intro n hn
            rw [(Machine.checkedAdd_eq_some.mp hn).2]
            exact Nat.lt_succ_self id
          rw [Table.lookup_insert_eq] at h
          split at h
          · rename_i he
            obtain rfl := Option.some.inj h
            subst he
            refine ⟨rfl, fun p hp => ?_, hnext⟩
            obtain rfl := Option.some.inj hp
            exact (g.sound _ _ (g.lookup_of_record hr).1).2.2 _ hn
          · obtain ⟨hid, hparent, hbelow⟩ := g.sound id' r' h
            exact ⟨hid, hparent, fun n h' => (hbelow _ hn).trans (hnext n h')⟩ }, token)

/-! ## Recovery -/

def beginRecovery : Except ObjectError ObjectRegistry :=
  match g.validateActive token with
  | .error error => .error error
  | .ok _ => .ok (g.setPhase token .recovering)

def publishReplacement : Except ObjectError (ObjectRegistry × ObjectEffect) :=
  match g.record token with
  | .error error => .error error
  | .ok r =>
    if r.phase ≠ .recovering then .error .parentNotActive
    else match Machine.checkedAdd 64 token.epoch 1 with
    | none => .error .idExhausted
    | some epoch =>
      let replacement : ObjectToken := { token with epoch }
      .ok (g.mapRecords (fun r =>
        if r.token = token then { r with token := replacement, phase := .active }
        else if r.parent = some token then { r with parent := some replacement }
        else r) (by
          intro r
          split
          · rename_i h
            exact ⟨by rw [h], fun p hp => ⟨p, hp, rfl⟩⟩
          · split
            · rename_i h
              refine ⟨rfl, fun p hp => ⟨token, h, ?_⟩⟩
              obtain rfl := Option.some.inj hp
              rfl
            · exact ⟨rfl, fun p hp => ⟨p, hp, rfl⟩⟩),
        .replacementPublished token replacement)

/-- The descendants stay revoked when the epoch is exhausted. -/
def publishReplacementRevokingDescendants :
    ObjectRegistry × Except ObjectError (ObjectEffect × List ObjectEffect) :=
  match g.record token with
  | .error error => (g, .error error)
  | .ok r =>
    if r.phase ≠ .recovering then (g, .error .parentNotActive)
    else
      let (g, revoked) := g.revokeDescendants token
      match g.publishReplacement token with
      | .error error => (g, .error error)
      | .ok (g, effect) => (g, .ok (effect, sortEffects revoked))

def failRecovery : Except ObjectError (ObjectRegistry × List ObjectEffect) :=
  match g.record token with
  | .error error => .error error
  | .ok r =>
    if r.phase ≠ .recovering then .error .parentNotActive
    else
      let (g, effects) := g.revokeDescendants token
      .ok (g.setPhase token .revoked, effects ++ [.revoked token])

/-! ## Closing -/

def beginClose : Except ObjectError (ObjectRegistry × CloseDecision) :=
  match g.record token with
  | .error error => .error error
  | .ok r =>
    match r.phase with
    | .active | .recovering => .ok (g.setPhase token .closing, .ownProtocolClose)
    | .closing => .ok (g, .awaitExistingClose)
    | .revoked | .closed => .ok (g, .alreadyClosed)

def completeClose : Except ObjectError (ObjectRegistry × List ObjectEffect) :=
  match g.record token with
  | .error error => .error error
  | .ok _ =>
    let (g, effects) := g.revokeDescendants token
    .ok (g.setPhase token .closed, sortEffects effects)

end ObjectRegistry

/-! ## Operations -/

inductive ObjectOperation where
  | createChild (parent : ObjectToken) (kind : ObjectKind)
  | beginRecovery (token : ObjectToken)
  | publishReplacement (token : ObjectToken)
  | publishReplacementRevokingDescendants (token : ObjectToken)
  | failRecovery (token : ObjectToken)
  | beginClose (token : ObjectToken)
  | completeClose (token : ObjectToken)
  | loseGeneration

namespace ObjectRegistry

def perform (g : ObjectRegistry) : ObjectOperation → ObjectRegistry × List ObjectEffect
  | .createChild parent kind =>
    match g.createChild parent kind with
    | .error _ => (g, [])
    | .ok (g, _) => (g, [])
  | .beginRecovery token =>
    match g.beginRecovery token with
    | .error _ => (g, [])
    | .ok g => (g, [])
  | .publishReplacement token =>
    match g.publishReplacement token with
    | .error _ => (g, [])
    | .ok (g, effect) => (g, [effect])
  | .publishReplacementRevokingDescendants token =>
    match g.publishReplacementRevokingDescendants token with
    | (g, .error _) => (g, [])
    | (g, .ok (effect, revoked)) => (g, effect :: revoked)
  | .failRecovery token =>
    match g.failRecovery token with
    | .error _ => (g, [])
    | .ok (g, effects) => (g, effects)
  | .beginClose token =>
    match g.beginClose token with
    | .error _ => (g, [])
    | .ok (g, _) => (g, [])
  | .completeClose token =>
    match g.completeClose token with
    | .error _ => (g, [])
    | .ok (g, effects) => (g, effects)
  | .loseGeneration => g.loseGeneration

def run (generation : GenerationId) (operations : List ObjectOperation) : ObjectRegistry :=
  operations.foldl (fun g operation => (g.perform operation).1) (new generation)

end ObjectRegistry

end Runtime
