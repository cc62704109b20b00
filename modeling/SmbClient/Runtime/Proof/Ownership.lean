import SmbClient.Runtime.Proof.Steps

/-!
# Who makes progress for a request

A waiting request has exactly one owner, provided a cancel never withdraws a frame another member of
which still waits: the queue knows a compound by its leader only.
-/

namespace Runtime

namespace OwnerTask

variable {s : OwnerTask} {key : RequestKey}

def places (s : OwnerTask) (key : RequestKey) : ℕ :=
  s.preparationOrder.order.count key +
    s.sendQueue.countP (fun command => key ∈ command.members) +
    s.activeWrite.toList.countP (fun active => key ∈ active.command.members)

/-- A committed record owns its request once the frame has left. -/
def owners (s : OwnerTask) (key : RequestKey) : ℕ :=
  if s.places key = 0 then (if s.authority.state.isCommitted key then 1 else 0) else s.places key

theorem countP_members (commands : List WriteCommand) (key : RequestKey) :
    commands.countP (fun command => key ∈ command.members) ≤
      (commands.flatMap (·.members)).count key ∧
    (commands.countP (fun command => key ∈ command.members) = 0 →
      (commands.flatMap (·.members)).count key = 0) := by
  induction commands with
  | nil => exact ⟨le_refl _, fun _ => rfl⟩
  | cons command commands ih =>
    rw [List.countP_cons, List.flatMap_cons, List.count_append]
    by_cases h : key ∈ command.members
    · have hpos := List.count_pos_iff.mpr h
      simp only [h, decide_true, if_true]
      omega
    · have hzero := List.count_eq_zero.mpr h
      simp only [h, decide_false, Bool.false_eq_true, if_false]
      omega

theorem places_eq_count (h : (s.desk []).Filed) : s.places key = (s.desk []).count key := by
  have honce := h.once key
  obtain ⟨hle, hzero⟩ := countP_members s.sendQueue key
  have hwriting : s.activeWrite.toList.countP (fun active => key ∈ active.command.members) ≤
      (s.desk []).writing.count key ∧
      (s.activeWrite.toList.countP (fun active => key ∈ active.command.members) = 0 →
        (s.desk []).writing.count key = 0) := by
    cases hw : s.activeWrite with
    | none => exact ⟨Nat.zero_le _, fun _ => by rw [Desk.writing_none (d := s.desk []) hw]; rfl⟩
    | some w =>
      rw [Desk.writing_eq (d := s.desk []) hw]
      simpa using countP_members [w.command] key
  have hcount : (s.desk []).count key = s.preparationOrder.order.count key +
      (s.sendQueue.flatMap (·.members)).count key + (s.desk []).writing.count key := by
    show ([] : List RequestKey).count key + _ + _ + _ = _
    rw [List.count_nil, Nat.zero_add]
    rfl
  rw [hcount] at honce ⊢
  rw [places]
  omega

end OwnerTask

open OwnerTask

/-- In a run of whole steps a request that waits has exactly one owner, as long as the task has not
failed. -/
theorem waiting_has_one_owner (config : RuntimeConfig) (inputs : List OwnerInput)
    (h : Meets step Whole (start config) inputs) (key : RequestKey)
    (waits : (run config inputs).authority.state.isOpen key = true) :
    (run config inputs).exited = false ∧
      ((run config inputs).authority.fatal = none → (run config inputs).owners key = 1) := by
  have hkept := run_kept config inputs
  refine ⟨Bool.eq_false_iff.mpr fun hexited => ?_, fun hfatal => ?_⟩
  · rw [hkept.closed hexited key] at waits
    cases waits
  · have honce := hkept.filed.once key
    have hplaced := run_placed h hfatal key waits
    rw [owners, places_eq_count hkept.filed]
    split
    · rename_i hzero
      exact if_pos (hplaced.resolve_right (by omega))
    · omega

def compoundCancelled (member : RequestKey) : List Turn :=
  [{ operations := [(submitEcho true none 0, .inline (some echoFrame))]
     final := .awaited (.compound ⟨[echo, echo], none, 0⟩ (some echoFrame)) },
   { controls := [.cancel member 0], final := .polledWrite 0 none false false }]

theorem waiting_has_one_owner_leader :
    (run (smallConfig 3) ((compoundCancelled (smallKey 2)).flatMap Turn.inputs)).owners
      (smallKey 1) = 1 :=
  (waiting_has_one_owner (smallConfig 3) _ (by decide) (smallKey 1) (by decide)).2 (by decide)

/-- The leader is cancelled: the frame is withdrawn, and the other member waits for nothing. -/
theorem waiting_without_owner :
    let s := run (smallConfig 3) ((compoundCancelled (smallKey 1)).flatMap Turn.inputs)
    s.exited = false ∧ s.authority.fatal = none ∧
      s.authority.state.isOpen (smallKey 2) = true ∧ s.owners (smallKey 2) = 0 := by
  decide

end Runtime
