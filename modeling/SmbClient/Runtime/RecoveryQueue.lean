import SmbClient.Runtime.ObjectState
import SmbClient.Runtime.State

/-!
# The queue of waits on a recovering object (`runtime/object_state.rs`)

A bounded queue of waits. Over every sequence of operations no wait is lost, answered twice or
overtaken (`recovery_waits_conserved`).
-/

namespace Runtime

abbrev RecoveryWaitId : Type := ℕ

inductive RecoveryQueueError where
  | full
  | idExhausted

inductive RecoveryWaitOutcome where
  | ready (id : RecoveryWaitId)
  | cancelled (id : RecoveryWaitId)
  | timedOut (id : RecoveryWaitId)
  | ancestorFailed (id : RecoveryWaitId)

def RecoveryWaitOutcome.id : RecoveryWaitOutcome → RecoveryWaitId
  | .ready id | .cancelled id | .timedOut id | .ancestorFailed id => id

structure RecoveryWait where
  id : RecoveryWaitId
  dependency : ObjectToken
  deadline : Option MonotonicTime

structure RecoveryQueue where
  capacity : ℕ
  nextId : Option ℕ
  waits : List RecoveryWait

namespace RecoveryQueue

def new (capacity : ℕ) : RecoveryQueue := ⟨capacity, some 0, []⟩

variable (q : RecoveryQueue)

def enqueue (dependency : ObjectToken) (deadline : Option MonotonicTime) :
    Except RecoveryQueueError (RecoveryQueue × RecoveryWaitId) :=
  if q.waits.length ≥ q.capacity then .error .full
  else match q.nextId with
  | none => .error .idExhausted
  | some id =>
    .ok ({ q with
      nextId := Machine.checkedAdd 64 id 1
      waits := q.waits ++ [⟨id, dependency, deadline⟩] }, id)

def cancel (id : RecoveryWaitId) : RecoveryQueue × Option RecoveryWaitOutcome :=
  if q.waits.any (·.id = id) then
    ({ q with waits := q.waits.eraseP (·.id = id) }, some (.cancelled id))
  else (q, none)

def release (test : RecoveryWait → Bool) (outcome : RecoveryWaitId → RecoveryWaitOutcome) :
    RecoveryQueue × List RecoveryWaitOutcome :=
  ({ q with waits := q.waits.filter fun wait => !test wait },
   (q.waits.filter test).map fun wait => outcome wait.id)

def advanceTime (now : MonotonicTime) : RecoveryQueue × List RecoveryWaitOutcome :=
  q.release (fun wait => wait.deadline.any fun deadline => decide (deadline ≤ now)) .timedOut

def releaseReady (registry : ObjectRegistry) : RecoveryQueue × List RecoveryWaitOutcome :=
  q.release (fun wait => (registry.validateActive wait.dependency).isOk) .ready

def publishReplacement : ObjectEffect → RecoveryQueue
  | .replacementPublished previous replacement =>
    { q with waits := q.waits.map fun wait =>
        if wait.dependency = previous then { wait with dependency := replacement } else wait }
  | .revoked _ => q

def releaseDependency (dependency : ObjectToken) : RecoveryQueue × List RecoveryWaitOutcome :=
  q.release (fun wait => wait.dependency = dependency) .ready

def failAll : RecoveryQueue × List RecoveryWaitOutcome :=
  ({ q with waits := [] }, q.waits.map fun wait => .ancestorFailed wait.id)

def drainAncestor (registry : ObjectRegistry) (ancestor : ObjectToken) :
    RecoveryQueue × List RecoveryWaitOutcome :=
  q.release (fun wait => wait.dependency = ancestor ||
    registry.isDescendant wait.dependency.id ancestor) .ancestorFailed

end RecoveryQueue

/-! ## Operations -/

inductive RecoveryOperation where
  | enqueue (dependency : ObjectToken) (deadline : Option MonotonicTime)
  | cancel (id : RecoveryWaitId)
  | advanceTime (now : MonotonicTime)
  | releaseReady (registry : ObjectRegistry)
  | publishReplacement (effect : ObjectEffect)
  | releaseDependency (dependency : ObjectToken)
  | failAll
  | drainAncestor (registry : ObjectRegistry) (ancestor : ObjectToken)

inductive RecoveryAnswer where
  | enqueued (id : RecoveryWaitId)
  | outcome (result : RecoveryWaitOutcome)

def RecoveryAnswer.enqueuedId : RecoveryAnswer → Option RecoveryWaitId
  | .enqueued id => some id
  | .outcome _ => none

def RecoveryAnswer.answeredId : RecoveryAnswer → Option RecoveryWaitId
  | .enqueued _ => none
  | .outcome result => some result.id

namespace RecoveryQueue

variable (q : RecoveryQueue)

def perform : RecoveryOperation → RecoveryQueue × List RecoveryAnswer
  | .enqueue dependency deadline =>
    match q.enqueue dependency deadline with
    | .error _ => (q, [])
    | .ok (q, id) => (q, [.enqueued id])
  | .cancel id =>
    let (q, outcome) := q.cancel id
    (q, outcome.toList.map .outcome)
  | .advanceTime now =>
    let (q, outcomes) := q.advanceTime now
    (q, outcomes.map .outcome)
  | .releaseReady registry =>
    let (q, outcomes) := q.releaseReady registry
    (q, outcomes.map .outcome)
  | .publishReplacement effect => (q.publishReplacement effect, [])
  | .releaseDependency dependency =>
    let (q, outcomes) := q.releaseDependency dependency
    (q, outcomes.map .outcome)
  | .failAll =>
    let (q, outcomes) := q.failAll
    (q, outcomes.map .outcome)
  | .drainAncestor registry ancestor =>
    let (q, outcomes) := q.drainAncestor registry ancestor
    (q, outcomes.map .outcome)

def ids : List RecoveryWaitId := q.waits.map (·.id)

variable (answers : List RecoveryAnswer)

def enqueuedIds : List RecoveryWaitId :=
  answers.filterMap RecoveryAnswer.enqueuedId

def answeredIds : List RecoveryWaitId :=
  answers.filterMap RecoveryAnswer.answeredId

@[simp] theorem enqueuedIds_append (a b : List RecoveryAnswer) :
    enqueuedIds (a ++ b) = enqueuedIds a ++ enqueuedIds b :=
  List.filterMap_append

@[simp] theorem answeredIds_append (a b : List RecoveryAnswer) :
    answeredIds (a ++ b) = answeredIds a ++ answeredIds b :=
  List.filterMap_append

variable (outcomes : List RecoveryWaitOutcome)

@[simp] theorem enqueuedIds_outcomes : enqueuedIds (outcomes.map .outcome) = [] := by
  simp [enqueuedIds, RecoveryAnswer.enqueuedId]

@[simp] theorem answeredIds_outcomes :
    answeredIds (outcomes.map .outcome) = outcomes.map (·.id) := by
  simp [answeredIds, RecoveryAnswer.answeredId, Function.comp_def]

/-! ## Taking waits out -/

structure Removes (q q' : RecoveryQueue) (left : List RecoveryWaitId) : Prop where
  capacity : q'.capacity = q.capacity
  nextId : q'.nextId = q.nextId
  stay : q'.ids.Sublist q.ids
  leave : left.Sublist q.ids
  split : q.ids.Perm (q'.ids ++ left)

theorem Removes.refl : Removes q q [] :=
  ⟨rfl, rfl, .refl _, List.nil_sublist _, by rw [List.append_nil]⟩

theorem release_removes (test : RecoveryWait → Bool)
    (outcome : RecoveryWaitId → RecoveryWaitOutcome) (hid : ∀ id, (outcome id).id = id) :
    Removes q (q.release test outcome).1 ((q.release test outcome).2.map (·.id)) := by
  have hleft : (q.release test outcome).2.map (·.id) = (q.waits.filter test).map (·.id) := by
    simp [release, hid]
  rw [hleft]
  refine ⟨rfl, rfl, List.filter_sublist.map _, List.filter_sublist.map _, ?_⟩
  have hsplit := (List.filter_append_perm test q.waits).symm.trans List.perm_append_comm
  simpa [ids, release] using hsplit.map (·.id)

theorem cancel_removes (id : RecoveryWaitId) :
    Removes q (q.cancel id).1 ((q.cancel id).2.toList.map (·.id)) := by
  unfold cancel
  split
  · rename_i hany
    obtain ⟨wait, hmem, hid⟩ := List.any_eq_true.mp hany
    obtain ⟨found, before, after, -, hfound, hwaits, herased⟩ :=
      List.exists_of_eraseP (p := fun wait => decide (wait.id = id)) hmem hid
    have hleft : found.id = id := of_decide_eq_true hfound
    have hids : q.ids = before.map (·.id) ++ id :: after.map (·.id) := by
      simp [ids, hwaits, hleft]
    have hids' : (q.waits.eraseP (·.id = id)).map (·.id) = before.map (·.id) ++ after.map
        (·.id) := by
      rw [herased, List.map_append]
    refine ⟨rfl, rfl, List.eraseP_sublist.map _, ?_, ?_⟩
    · rw [hids]
      exact (List.singleton_sublist.mpr (by simp [RecoveryWaitOutcome.id]))
    · show q.ids.Perm ((q.waits.eraseP (·.id = id)).map (·.id) ++ [id])
      rw [hids, hids']
      exact List.perm_middle.trans (List.perm_append_singleton _ _).symm
  · exact .refl q

theorem publishReplacement_removes (effect : ObjectEffect) :
    Removes q (q.publishReplacement effect) [] := by
  have hids : (q.publishReplacement effect).ids = q.ids := by
    cases effect with
    | revoked token => rfl
    | replacementPublished previous replacement =>
      unfold ids publishReplacement
      rw [List.map_map]
      apply List.map_congr_left
      intro wait hwait
      dsimp only [Function.comp]
      split
      · rfl
      · rfl
  refine ⟨?_, ?_, hids ▸ .refl _, List.nil_sublist _, ?_⟩
  · cases effect with
    | revoked token => rfl
    | replacementPublished previous replacement => rfl
  · cases effect with
    | revoked token => rfl
    | replacementPublished previous replacement => rfl
  · rw [hids, List.append_nil]

theorem failAll_removes : Removes q q.failAll.1 (q.failAll.2.map (·.id)) := by
  have hleft : q.failAll.2.map (·.id) = q.ids := by
    simp [failAll, ids, RecoveryWaitOutcome.id]
  rw [hleft]
  exact ⟨rfl, rfl, List.nil_sublist _, .refl _, .refl _⟩

theorem Removes.answered {q' : RecoveryQueue} {outcomes : List RecoveryWaitOutcome}
    (h : Removes q q' (outcomes.map (·.id))) : enqueuedIds (outcomes.map .outcome) = [] ∧
      Removes q q' (answeredIds (outcomes.map .outcome)) := by
  rw [answeredIds_outcomes]
  exact ⟨enqueuedIds_outcomes _, h⟩

theorem perform_cases (operation : RecoveryOperation) :
    (∃ id dependency deadline, q.waits.length < q.capacity ∧ q.nextId = some id ∧
      q.perform operation = ({ q with
        nextId := Machine.checkedAdd 64 id 1
        waits := q.waits ++ [⟨id, dependency, deadline⟩] }, [.enqueued id])) ∨
    (enqueuedIds (q.perform operation).2 = [] ∧
      Removes q (q.perform operation).1 (answeredIds (q.perform operation).2)) := by
  cases operation with
  | enqueue dependency deadline =>
    dsimp only [perform]
    cases hresult : q.enqueue dependency deadline with
    | error error => exact .inr ⟨rfl, .refl q⟩
    | ok made =>
      unfold enqueue at hresult
      split at hresult
      · cases hresult
      rename_i hfull
      split at hresult
      · cases hresult
      rename_i id hid
      cases hresult
      exact .inl ⟨id, dependency, deadline, Nat.lt_of_not_le hfull, hid, rfl⟩
  | cancel id => exact .inr (cancel_removes q id).answered
  | publishReplacement effect => exact .inr ⟨rfl, publishReplacement_removes q effect⟩
  | failAll => exact .inr (failAll_removes q).answered
  | _ => exact .inr (release_removes q _ _ fun _ => rfl).answered

/-! ## Every run -/

abbrev run (capacity : ℕ) (operations : List RecoveryOperation) :
    Run RecoveryQueue RecoveryOperation RecoveryAnswer :=
  Run.along perform (new capacity) operations

structure Conserved (capacity : ℕ) (r : Run RecoveryQueue RecoveryOperation RecoveryAnswer) :
    Prop where
  sized : r.state.capacity = capacity
  bounded : r.state.waits.length ≤ capacity
  fresh : ∀ n, r.state.nextId = some n → ∀ id ∈ enqueuedIds r.outputs, id < n
  growing : (enqueuedIds r.outputs).Pairwise (· < ·)
  inOrder : r.state.ids.Sublist (enqueuedIds r.outputs)
  conserved : (enqueuedIds r.outputs).Perm (r.state.ids ++ answeredIds r.outputs)

theorem Conserved.next {capacity : ℕ} {r : Run RecoveryQueue RecoveryOperation RecoveryAnswer}
    (h : Conserved capacity r) (operation : RecoveryOperation) :
    Conserved capacity (Run.next perform r operation) := by
  rcases perform_cases r.state operation with ⟨id, dependency, deadline, hroom, hid, he⟩ |
    ⟨hnew, hr⟩
  · -- A new wait goes to the end, under an id above all those given out.
    have hfresh := h.fresh id hid
    refine ⟨?_, ?_, ?_, ?_, ?_, ?_⟩
    · rw [Run.state_next, he]
      exact h.sized
    · rw [Run.state_next, he]
      have := h.sized
      simp only [List.length_append, List.length_singleton]
      omega
    · intro n hn id' hid'
      rw [Run.state_next, he] at hn
      obtain ⟨-, rfl⟩ := Machine.checkedAdd_eq_some.mp hn
      rw [Run.outputs_next, he, enqueuedIds_append, List.mem_append] at hid'
      rcases hid' with hid' | hid'
      · exact Nat.lt_succ_of_lt (hfresh id' hid')
      · rw [List.mem_singleton.mp hid']
        exact Nat.lt_succ_self id
    · rw [Run.outputs_next, he, enqueuedIds_append, List.pairwise_append]
      refine ⟨h.growing, List.pairwise_singleton _ _, fun a ha b hb => ?_⟩
      rw [List.mem_singleton.mp hb]
      exact hfresh a ha
    · rw [Run.state_next, Run.outputs_next, he, enqueuedIds_append]
      unfold ids
      rw [List.map_append]
      exact h.inOrder.append (.refl _)
    · rw [Run.state_next, Run.outputs_next, he, enqueuedIds_append, answeredIds_append]
      unfold ids
      rw [List.map_append, List.append_assoc]
      show (_ ++ [id]).Perm (r.state.ids ++ ([id] ++ (_ ++ [])))
      rw [List.append_nil]
      refine (h.conserved.append_right [id]).trans ?_
      rw [List.append_assoc]
      exact List.perm_append_comm.append_left _
  · have henqueued : enqueuedIds (Run.next perform r operation).outputs = enqueuedIds
        r.outputs := by
      rw [Run.outputs_next, enqueuedIds_append, hnew, List.append_nil]
    refine ⟨hr.capacity.trans h.sized, ?_, ?_, ?_, ?_, ?_⟩
    · have hlength := hr.stay.length_le
      have := h.bounded
      simp only [ids, List.length_map] at hlength
      rw [Run.state_next]
      omega
    · rw [henqueued, Run.state_next, hr.nextId]
      exact h.fresh
    · rw [henqueued]
      exact h.growing
    · rw [henqueued]
      exact hr.stay.trans h.inOrder
    · rw [henqueued, Run.outputs_next, answeredIds_append]
      refine h.conserved.trans ((hr.split.append_right _).trans ?_)
      rw [List.append_assoc]
      exact List.perm_append_comm.append_left _

theorem run_conserved (capacity : ℕ) (operations : List RecoveryOperation) :
    Conserved capacity (run capacity operations) := by
  refine List.foldl_invariant (P := Conserved capacity) (fun r operation h => h.next operation)
    operations ⟨rfl, Nat.zero_le _, ?_, .nil, .refl _, .refl _⟩
  intro n _ id hid
  cases hid

/-- **No wait is lost, answered twice or overtaken.** -/
theorem recovery_waits_conserved (capacity : ℕ) (operations : List RecoveryOperation) :
    (run capacity operations).state.waits.length ≤ capacity ∧
    (enqueuedIds (run capacity operations).outputs).Nodup ∧
    (∀ id ∈ enqueuedIds (run capacity operations).outputs,
      (id ∈ (run capacity operations).state.ids ∧
        id ∉ answeredIds (run capacity operations).outputs) ∨
      (id ∉ (run capacity operations).state.ids ∧
        (answeredIds (run capacity operations).outputs).count id = 1)) ∧
    (run capacity operations).state.ids.Sublist (enqueuedIds (run capacity operations).outputs) ∧
    (∀ operation, (answeredIds ((run capacity operations).state.perform operation).2).Sublist
      (enqueuedIds (run capacity operations).outputs)) := by
  have h := run_conserved capacity operations
  have hnodup := h.growing.imp (S := (· ≠ ·)) fun hlt => hlt.ne
  refine ⟨h.bounded, hnodup, fun id hid => ?_, h.inOrder, fun operation => ?_⟩
  · have hcount : (enqueuedIds (run capacity operations).outputs).count id = 1 :=
      List.count_eq_one_of_mem hnodup hid
    rw [h.conserved.count_eq, List.count_append] at hcount
    by_cases hqueued : id ∈ (run capacity operations).state.ids
    · refine .inl ⟨hqueued, fun hanswered => ?_⟩
      have := List.count_pos_iff.mpr hqueued
      have := List.count_pos_iff.mpr hanswered
      omega
    · rw [List.count_eq_zero_of_not_mem hqueued, Nat.zero_add] at hcount
      exact .inr ⟨hqueued, hcount⟩
  · rcases perform_cases (run capacity operations).state operation with
      ⟨id, dependency, deadline, -, -, he⟩ | ⟨-, hr⟩
    · rw [he]
      exact List.nil_sublist _
    · exact hr.leave.trans h.inOrder

end RecoveryQueue

end Runtime
