import SmbClient.Runtime.Proof.Sound

/-!
# Callers are told once, and the admission counters are exact

The admission counters are the sums over the records that hold something (`admission_accounting`),
and what was published to a caller is exactly its terminal outcome (`caller_told_once`).
-/

namespace Runtime

open GenerationState RequestRecord

variable {s : GenerationState} {effects : List OwnerEffect}

/-! ## Runs keep the invariant -/

theorem Moves.config {event : OwnerEvent} {s' : GenerationState}
    (h : Moves event s effects s') : s'.generation = s.generation ∧ s'.limits = s.limits ∧
      s'.tombstoneDrainTimeout = s.tombstoneDrainTimeout := by
  induction h with
  | nil => exact ⟨rfl, rfl, rfl⟩
  | cons move _ ih =>
    rw [ih.1, ih.2.1, ih.2.2]
    cases move with
    | idle _ _ _ state => rw [state]; exact ⟨rfl, rfl, rfl⟩
    | admitted _ _ _ _ _ _ _ ha => exact ⟨ha.sameGeneration, ha.limits, ha.drainTimeout⟩
    | touch _ _ _ ht _ => exact ⟨ht.frame.generation, ht.frame.limits, ht.frame.drainTimeout⟩
    | stale _ _ _ _ _ _ _ _ _ state => rw [state]; exact ⟨rfl, rfl, rfl⟩
    | expired _ _ _ _ _ _ _ _ _ _ _ ht =>
      exact ⟨ht.frame.generation, ht.frame.limits, ht.frame.drainTimeout⟩

namespace Setup

variable (c : Setup)

/-- **The run rule of the reducer**: what one event keeps in a sound state, a run keeps. -/
theorem run_invariant {P : Run GenerationState OwnerEvent OwnerEffect → Prop}
    (hstart : P (.start c.start))
    (hstep : ∀ run event, run.state.Sound → P run → P (.next reduce run event))
    (events : List OwnerEvent) : P (c.run events) := by
  have h : (c.run events).state.Sound ∧ P (c.run events) := by
    refine List.foldl_invariant
      (P := fun run : Run GenerationState OwnerEvent OwnerEffect => run.state.Sound ∧ P run)
      (fun run event h => ⟨h.1.reduce event, hstep run event h.1 h.2⟩) events ⟨?_, hstart⟩
    exact sound_new _ _ _ _ _ _
  exact h.2

theorem run_sound (events : List OwnerEvent) : (c.run events).state.Sound :=
  c.run_invariant (P := fun run => run.state.Sound) (sound_new _ _ _ _ _ _)
    (fun _ event h _ => h.reduce event) events

theorem run_limits (events : List OwnerEvent) : (c.run events).state.limits = c.limits :=
  c.run_invariant (P := fun run => run.state.limits = c.limits) rfl
    (fun _ event hs h => (reduce_moves hs.keyed event).config.2.1.trans h) events

theorem run_outputs_append (events later : List OwnerEvent) :
    ∃ more, (c.run (events ++ later)).outputs = (c.run events).outputs ++ more := by
  unfold run
  rw [Run.along_append]
  refine List.foldl_invariant (P := fun run : Run GenerationState OwnerEvent OwnerEffect =>
    ∃ more, run.outputs = (Run.along reduce c.start events).outputs ++ more)
    (fun run event h => ?_) later ⟨[], (List.append_nil _).symm⟩
  obtain ⟨more, hm⟩ := h
  rw [Run.outputs_next, hm, List.append_assoc]
  exact ⟨_, rfl⟩

end Setup

/-! ## The admission counters -/

variable (t : Table RequestKey OwnedRequest)

theorem total_heldSlots : t.total OwnedRequest.heldSlots = t.values.countP (·.admissionHeld) := by
  unfold Table.total
  induction t.values with
  | nil => rfl
  | cons r rs ih =>
    rw [List.map_cons, List.sum_cons, ih, List.countP_cons, Nat.add_comm]
    rfl

theorem total_heldBytes : t.total OwnedRequest.heldBytes =
      ((t.values.filter (·.payloadHeld)).map (·.payloadBytes)).sum :=
  t.total_ite _ _

theorem Moves.admits {event : OwnerEvent} {s' : GenerationState}
    (h : Moves event s effects s') {plan : PreparationPlan} (hp : plan ∈ plans effects) :
    ∃ payload charge deadline, event = .admitRequest payload charge deadline := by
  induction h with
  | nil => cases hp
  | cons move _ ih =>
    rw [plans_append, List.mem_append] at hp
    rcases hp with hp | hp
    · cases move with
      | idle _ quiet => rw [quiet.plans] at hp; cases hp
      | admitted _ payload charge deadline request => exact ⟨payload, charge, deadline, request⟩
      | touch _ _ _ ht _ => rw [ht.plans] at hp; cases hp
      | stale _ _ _ _ _ _ quiet => rw [quiet.plans] at hp; cases hp
      | expired _ _ _ _ _ _ _ _ _ _ _ ht => rw [ht.plans] at hp; cases hp
    · exact ih hp

theorem GenerationState.Sound.admits (hs : s.Sound) (event : OwnerEvent)
    (plan : PreparationPlan) (hp : plan ∈ plans (s.reduce event).2) :
    Admission s plan (s.reduce event).1 := by
  obtain ⟨payload, charge, deadline, rfl⟩ := (reduce_moves hs.keyed event).admits hp
  have hm := s.admitRequest_move payload charge deadline
  change plan ∈ plans [(s.admitRequest payload charge deadline).2] at hp
  cases hm with
  | idle _ quiet => rw [quiet.plans] at hp; cases hp
  | admitted _ _ _ _ _ _ told ha =>
    rw [told] at hp
    rw [List.mem_singleton.mp hp]
    exact ha
  | touch _ _ _ ht _ => rw [ht.plans] at hp; cases hp
  | stale _ _ _ _ _ _ quiet => rw [quiet.plans] at hp; cases hp
  | expired _ _ _ _ _ _ _ _ _ _ _ ht => rw [ht.plans] at hp; cases hp

/-- After every run the counters are those of the records, within the limits, and no unguarded
subtraction went below zero. -/
theorem admission_accounting (c : Setup) (events : List OwnerEvent) :
    (c.run events).state.admittedOperations =
        (c.run events).state.requests.values.countP (·.admissionHeld) ∧
    (c.run events).state.admittedOperations ≤ c.limits.maxOperations ∧
    (c.run events).state.retainedPayloadBytes =
        (((c.run events).state.requests.values.filter (·.payloadHeld)).map (·.payloadBytes)).sum ∧
    (c.run events).state.retainedPayloadBytes ≤ c.limits.maxPayloadBytes ∧
    (c.run events).state.underflow = false ∧
    ∀ event, ∀ plan ∈ plans ((c.run events).state.reduce event).2,
      (c.run events).state.requests.lookup plan.key = none := by
  have hs := c.run_sound events
  have hl := c.run_limits events
  refine ⟨?_, ?_, ?_, ?_, hs.underflow, fun event plan hp => ?_⟩
  · rw [hs.slots, total_heldSlots]
  · rw [← hl]
    exact hs.slots_le
  · rw [hs.bytes, total_heldBytes]
  · rw [← hl]
    exact hs.bytes_le
  · exact (hs.admits event plan hp).fresh hs

/-! ## What callers are told -/

variable (key : RequestKey)

def toldTo (effects : List OwnerEffect) : List TerminalOutcome :=
  (publications effects).filterMap fun p => if p.1 = key then some p.2 else none

@[simp] theorem toldTo_append (a b : List OwnerEffect) :
    toldTo key (a ++ b) = toldTo key a ++ toldTo key b := by
  simp [toldTo]

theorem toldTo_silent (h : publications effects = [])
    (key : RequestKey) : toldTo key effects = [] := by
  simp [toldTo, h]

theorem length_toldTo (effects : List OwnerEffect) :
    (toldTo key effects).length = ((publications effects).filter (·.1 = key)).length := by
  unfold toldTo
  induction publications effects with
  | nil => rfl
  | cons p ps ih =>
    by_cases hp : p.1 = key
    · simp [hp, ih]
    · simp [hp, ih]

def RequestRecord.outcome (r : RequestRecord) : Option TerminalOutcome :=
  match r.caller with
  | .opened => none
  | .terminal o => some o

theorem GenerationState.terminalOutcome_eq (s : GenerationState) (key : RequestKey) :
    s.terminalOutcome key = (s.requests.lookup key).bind (·.lifecycle.outcome) := by
  unfold terminalOutcome
  cases s.requests.lookup key with
  | none => rfl
  | some r => rfl

def Published (effects : List OwnerEffect) (s : GenerationState) : Prop :=
  ∀ key, toldTo key effects = (s.terminalOutcome key).toList

section
variable {s s' : GenerationState} {event : OwnerEvent} {key : RequestKey} {r r' : OwnedRequest}
  {effects log : List OwnerEffect}

theorem Touch.toldTo (h : Touch s event key r r' effects s') (k : RequestKey) :
    (s.terminalOutcome k).toList ++ toldTo k effects = (s'.terminalOutcome k).toList := by
  rw [s.terminalOutcome_eq, s'.terminalOutcome_eq, h.lookup]
  by_cases hk : k = key
  · subst hk
    rw [h.found, if_pos rfl]
    show r.lifecycle.outcome.toList ++ _ = r'.lifecycle.outcome.toList
    rcases h.caller with ⟨hp, hc⟩ | ⟨o, hp, ho, hc, -⟩
    · rw [toldTo_silent hp, List.append_nil, outcome, outcome, hc]
    · rw [outcome, outcome, ho, hc]
      simp [Runtime.toldTo, hp]
  · rw [if_neg hk]
    have : Runtime.toldTo k effects = [] := by
      rcases h.caller with ⟨hp, -⟩ | ⟨o, hp, -⟩
      · exact toldTo_silent hp k
      · simp [Runtime.toldTo, hp, Ne.symm hk]
    rw [this, List.append_nil]

theorem Move.toldTo (h : Move event s effects s') (hs : s.Sound) (k : RequestKey) :
    (s.terminalOutcome k).toList ++ toldTo k effects = (s'.terminalOutcome k).toList := by
  cases h with
  | idle _ quiet _ state =>
    rw [toldTo_silent quiet.publications, List.append_nil, state]
    rfl
  | admitted plan _ _ _ _ _ told ha =>
    rw [told, toldTo_silent rfl, List.append_nil, s.terminalOutcome_eq, s'.terminalOutcome_eq,
      ha.lookup]
    split
    · rename_i hk
      rw [hk, ha.fresh hs]
      rfl
    · rfl
  | touch _ _ _ ht _ => exact ht.toldTo k
  | stale _ _ _ _ _ _ quiet _ _ state =>
    rw [toldTo_silent quiet.publications, List.append_nil, state]
    rfl
  | expired _ _ _ _ _ _ _ _ _ _ _ ht => exact ht.toldTo k

/-- What a caller was told is what is recorded. -/
theorem Moves.toldTo (h : Moves event s effects s') (hs : s.Sound) (k : RequestKey) :
    (s.terminalOutcome k).toList ++ toldTo k effects = (s'.terminalOutcome k).toList := by
  induction h with
  | nil => exact List.append_nil _
  | cons move _ ih =>
    rw [toldTo_append, ← List.append_assoc, move.toldTo hs, ih (move.sound hs)]

theorem Published.reduce (h : Published log s) (hs : s.Sound) (event : OwnerEvent) :
    Published (log ++ (s.reduce event).2) (s.reduce event).1 := by
  intro key
  rw [toldTo_append, h key]
  exact (reduce_moves hs.keyed event).toldTo hs key

end

theorem Setup.run_published (c : Setup) (events : List OwnerEvent) :
    Published (c.run events).outputs (c.run events).state := by
  refine c.run_invariant (P := fun run => Published run.outputs run.state) (fun key => rfl)
    (fun run event hs h => ?_) events
  rw [Run.outputs_next]
  exact h.reduce hs event

/-! ## Disconnect -/

structure OwnedRequest.Over (r : OwnedRequest) : Prop where
  closed : r.lifecycle.caller ≠ .opened
  slots : r.heldSlots = 0
  bytes : r.heldBytes = 0

namespace GenerationState

theorem disconnectRequest_over (network : Option NetworkFailure) (s : GenerationState)
    (key k : RequestKey) {r : OwnedRequest}
    (h : (s.disconnectRequest network key).1.requests.lookup k = some r) :
    r.Over ∨ (k ≠ key ∧ s.requests.lookup k = some r) := by
  unfold disconnectRequest at h
  split at h
  · rename_i hf
    simp only [releaseRequestOwnership, releasePayload, hf] at h
    refine .inr ⟨fun hk => ?_, h⟩
    rw [hk, hf] at h
    cases h
  · rename_i r₀ hf
    dsimp only at h
    rw [put_releaseRequestOwnership, Table.lookup_insert_eq] at h
    split at h
    · obtain rfl := Option.some.inj h
      exact .inl ⟨publishOnce_closed _ _, rfl, rfl⟩
    · rename_i hk
      exact .inr ⟨hk, h⟩

theorem disconnectAll_over (network : Option NetworkFailure) :
    ∀ (keys : List RequestKey) (s : GenerationState),
      (∀ k r, s.requests.lookup k = some r → k ∈ keys ∨ r.Over) →
      ∀ k r, (disconnectAll network keys s).1.requests.lookup k = some r → r.Over
  | [], s, h, k, r, hk => (h k r hk).resolve_left List.not_mem_nil
  | key :: keys, s, h, k, r, hk => by
    refine disconnectAll_over network keys (s.disconnectRequest network key).1 ?_ k r hk
    intro k' r' hk'
    rcases disconnectRequest_over network s key k' hk' with ho | ⟨hne, hk'⟩
    · exact .inr ho
    rcases h k' r' hk' with hm | ho
    · exact .inl ((List.mem_cons.mp hm).resolve_left hne)
    · exact .inr ho

/-- After a disconnect every request is over. -/
theorem disconnect_over (s : GenerationState) (network : Option NetworkFailure) (k : RequestKey)
    (r : OwnedRequest) (h : (s.disconnect network).1.requests.lookup k = some r) : r.Over := by
  refine disconnectAll_over network s.requests.keys s (fun k r hk => .inl ?_) k r h
  rw [← AList.mem_keys, ← AList.lookup_isSome, hk]
  rfl

end GenerationState

/-- At most one outcome is published to the caller of a key, and right after a disconnect nobody
waits and nothing is held. -/
theorem caller_told_once (c : Setup) (events : List OwnerEvent) :
    (∀ key, ((publications (c.run events).outputs).filter (·.1 = key)).length ≤ 1) ∧
    (∀ key o, (c.run events).state.terminalOutcome key = some o →
      ∀ later, (c.run (events ++ later)).state.terminalOutcome key = some o) ∧
    ∀ network, ((c.run (events ++ [.disconnect network])).state.unresolvedCallers = 0 ∧
      (c.run (events ++ [.disconnect network])).state.admittedOperations = 0 ∧
      (c.run (events ++ [.disconnect network])).state.retainedPayloadBytes = 0) := by
  refine ⟨fun key => ?_, fun key o ho later => ?_, fun network => ?_⟩
  · have h := c.run_published events key
    calc ((publications (c.run events).outputs).filter (·.1 = key)).length
        = (toldTo key (c.run events).outputs).length := (length_toldTo key _).symm
      _ = ((c.run events).state.terminalOutcome key).toList.length := by rw [h]
      _ ≤ 1 := by cases (c.run events).state.terminalOutcome key <;> simp
  · -- What was told before is told still, and the later outcome is all that was told.
    have h := c.run_published events key
    have h' := c.run_published (events ++ later) key
    obtain ⟨more, hm⟩ := c.run_outputs_append events later
    rw [hm, toldTo_append, h, ho] at h'
    cases ht : (c.run (events ++ later)).state.terminalOutcome key with
    | none => rw [ht] at h'; cases h'
    | some o' =>
      rw [ht] at h'
      rw [(List.cons_eq_cons.mp h').1]
  · have hs := c.run_sound (events ++ [.disconnect network])
    have hover : ∀ k r, (c.run (events ++ [.disconnect network])).state.requests.lookup k = some r →
        r.Over := by
      rw [Setup.run, Run.along_concat]
      exact disconnect_over _ network
    refine ⟨?_, ?_, ?_⟩
    · refine List.countP_eq_zero.mpr fun r hr => ?_
      obtain ⟨k, hk⟩ := Table.mem_values.mp hr
      simpa [callerIsOpen] using (hover k r hk).closed
    · rw [hs.slots]
      exact Table.total_eq_zero _ fun k r hk => (hover k r hk).slots
    · rw [hs.bytes]
      exact Table.total_eq_zero _ fun k r hk => (hover k r hk).bytes

end Runtime
