import SmbClient.Runtime.Proof.Reduce

/-!
# The invariant of every reachable state

`GenerationState.Sound`: each record is sound by itself, message ids are below the next one, and the
admission counters are sums over the records, so no subtraction goes below zero.
-/

namespace Runtime

open OwnedRequest

/-! ## One record -/

structure OwnedRequest.Sound (key : RequestKey) (r : OwnedRequest) : Prop where
  key : r.lifecycle.key = key
  waiting : r.lifecycle.Waiting
  cancelSeen : r.cancelSeen = true → r.lifecycle.caller ≠ .opened
  held : r.admissionHeld = true → r.creditObligation = true
  seen : r.creditResponseSeen = true → r.lifecycle.wireCommitted = true
  opened : r.lifecycle.caller = .opened → r.deadlineVersion ≤ 1
  unanswered : r.lifecycle.response ≠ .final → r.deadlineVersion ≤ 2

theorem PreparationPlan.record_version (plan : PreparationPlan) :
    plan.record.deadlineVersion ≤ 1 := by
  unfold record
  dsimp only
  split
  · exact le_rfl
  · exact Nat.zero_le 1

theorem PreparationPlan.record_sound (plan : PreparationPlan) : plan.record.Sound plan.key where
  key := rfl
  waiting h := nomatch h
  cancelSeen h := nomatch h
  held _ := rfl
  seen h := nomatch h
  opened _ := plan.record_version
  unanswered _ := plan.record_version.trans (by decide)

section
variable {s s' : GenerationState} {event : OwnerEvent} {key : RequestKey} {r r' : OwnedRequest}
  {effects : List OwnerEffect}

theorem Touch.opened (h : Touch s event key r r' effects s')
    (ho : r'.lifecycle.caller = .opened) : r.lifecycle.caller = .opened := by
  rcases h.caller with ⟨-, hc⟩ | ⟨o, -, -, hc, -⟩
  · rw [← hc, ho]
  · rw [hc] at ho
    cases ho

theorem OwnedRequest.Sound.not_released (h : r.Sound key) :
    ¬ (r.creditObligation = false ∧ r.admissionHeld = true) := by
  rintro ⟨hob, hheld⟩
  rw [h.held hheld] at hob
  cases hob

theorem Touch.sound (h : Touch s event key r r' effects s') (hr : r.Sound key) : r'.Sound key where
  key := by rw [h.recordKey, hr.key]
  waiting := h.waiting hr.waiting
  cancelSeen hc ho := by
    rcases h.cancelSeen hc with hc | hc
    · exact hr.cancelSeen hc (h.opened ho)
    · exact hc ho
  held hh := by
    obtain ⟨hh, hob⟩ := h.held hh
    rw [hob]
    exact hr.held hh
  seen hs := by
    cases h.credit with
    | same _ _ _ _ _ seen => exact h.committed (hr.seen (seen ▸ hs))
    | granted _ _ _ _ _ _ _ _ _ committed => exact committed
    | overflowed _ _ _ committed => exact committed
    | rolledBack _ _ _ _ _ _ _ _ seen => exact h.committed (hr.seen (seen ▸ hs))
    | released hob hheld => exact absurd ⟨hob, hheld⟩ hr.not_released
  opened ho := by
    rw [h.deadline.opened ho]
    exact hr.opened (h.opened ho)
  unanswered ha := by
    have before := hr.unanswered fun hf => ha (h.final hf)
    rcases h.deadline.version with hv | ⟨hv, ho | hf⟩
    · rw [hv]
      exact before
    · have := hr.opened ho
      omega
    · exact absurd hf ha

/-! ## The table -/

theorem Touch.lookup (h : Touch s event key r r' effects s') (k : RequestKey) :
    s'.requests.lookup k = if k = key then some r' else s.requests.lookup k := by
  rw [h.requests, Table.lookup_insert_eq]

theorem Admission.lookup {plan : PreparationPlan} (h : Admission s plan s') (k : RequestKey) :
    s'.requests.lookup k = if k = plan.key then some plan.record else s.requests.lookup k := by
  rw [h.requests, Table.lookup_insert_eq]

end

structure GenerationState.Sound (s : GenerationState) : Prop where
  records : ∀ key r, s.requests.lookup key = some r → r.Sound key
  generation : ∀ key r, s.requests.lookup key = some r → key.generation = s.generation
  fresh : ∀ key r n, s.requests.lookup key = some r → s.nextMessageId = some n → key.messageId < n
  slots : s.admittedOperations = s.requests.total heldSlots
  bytes : s.retainedPayloadBytes = s.requests.total heldBytes
  slots_le : s.admittedOperations ≤ s.limits.maxOperations
  bytes_le : s.retainedPayloadBytes ≤ s.limits.maxPayloadBytes
  underflow : s.underflow = false

namespace GenerationState

theorem Sound.keyed {s : GenerationState} (h : s.Sound) : s.Keyed :=
  fun key r hr => (h.records key r hr).key

theorem sound_new (generation : GenerationId) (m c target : ℕ) (limits : AdmissionLimits)
    (timeout : Duration) : (new generation m c target limits timeout).Sound where
  records _ _ h := nomatch h
  generation _ _ h := nomatch h
  fresh _ _ _ h := nomatch h
  slots := rfl
  bytes := rfl
  slots_le := Nat.zero_le _
  bytes_le := Nat.zero_le _
  underflow := rfl

theorem Sound.setTargetCredits {s : GenerationState} (h : s.Sound) (target : ℕ) :
    (s.setTargetCredits target).Sound :=
  ⟨h.records, h.generation, h.fresh, h.slots, h.bytes, h.slots_le, h.bytes_le, h.underflow⟩

end GenerationState

/-! ## Every move keeps it -/

section
variable {s s' : GenerationState} {event : OwnerEvent} {key : RequestKey} {r r' : OwnedRequest}
  {effects : List OwnerEffect}

theorem Touch.sound_state (h : Touch s event key r r' effects s') (hs : s.Sound) : s'.Sound := by
  have hslots := Table.total_insert_over heldSlots r' h.found
  have hbytes := Table.total_insert_over heldBytes r' h.found
  have hs1 := Table.le_total heldSlots h.found
  have hb1 := Table.le_total heldBytes h.found
  have known : ∀ k r₁, s'.requests.lookup k = some r₁ → ∃ r₀, s.requests.lookup k = some r₀ := by
    intro k r₁ hk
    rw [h.lookup] at hk
    split at hk
    · rename_i he
      exact ⟨r, he ▸ h.found⟩
    · exact ⟨r₁, hk⟩
  rw [← h.requests] at hslots hbytes
  rw [← hs.slots] at hslots hs1
  rw [← hs.bytes] at hbytes hb1
  obtain ⟨hb, hble, hsl, hsle, hu⟩ := h.hold
  refine ⟨fun k r₁ hk => ?_, fun k r₁ hk => ?_,
    fun k r₁ n hk hn => ?_, by omega, by omega, ?_, ?_, ?_⟩
  · rw [h.lookup] at hk
    split at hk
    · rename_i he
      obtain rfl := Option.some.inj hk
      subst he
      exact h.sound (hs.records _ _ h.found)
    · exact hs.records k r₁ hk
  · obtain ⟨r₀, h₀⟩ := known k r₁ hk
    rw [h.frame.generation]
    exact hs.generation k r₀ h₀
  · obtain ⟨r₀, h₀⟩ := known k r₁ hk
    rw [h.frame.nextMessageId] at hn
    exact hs.fresh k r₀ n h₀ hn
  · have := hs.slots_le
    rw [h.frame.limits]
    omega
  · have := hs.bytes_le
    rw [h.frame.limits]
    omega
  · -- Both counters are sums that contain what is released, so nothing goes below zero.
    cases hc : s'.underflow with
    | false => rfl
    | true =>
      rcases hu hc with hu | hu | hu
      · rw [hs.underflow] at hu
        cases hu
      · omega
      · omega

theorem Admission.fresh {plan : PreparationPlan} (h : Admission s plan s') (hs : s.Sound) :
    s.requests.lookup plan.key = none := by
  cases hk : s.requests.lookup plan.key with
  | none => rfl
  | some r =>
    have := hs.fresh plan.key r _ hk h.messageId
    omega

/-- An admission keeps the state sound. -/
theorem Admission.sound {plan : PreparationPlan} (h : Admission s plan s') (hs : s.Sound) :
    s'.Sound := by
  have hf := h.fresh hs
  have hslots := Table.total_insert_new heldSlots plan.record hf
  have hbytes := Table.total_insert_new heldBytes plan.record hf
  rw [← h.requests, ← hs.slots] at hslots
  rw [← h.requests, ← hs.bytes] at hbytes
  have hone : plan.record.heldSlots = 1 := rfl
  have hpay : plan.record.heldBytes = plan.payloadBytes := rfl
  have hops := h.operations
  have hlim := h.bytes
  refine ⟨fun k r hk => ?_, fun k r hk => ?_, fun k r n hk hn => ?_, ?_, ?_, ?_, ?_, ?_⟩
  · rw [h.lookup] at hk
    split at hk
    · rename_i he
      obtain rfl := Option.some.inj hk
      subst he
      exact plan.record_sound
    · exact hs.records k r hk
  · rw [h.lookup] at hk
    rw [h.sameGeneration]
    split at hk
    · rename_i he
      rw [he, h.generation]
    · exact hs.generation k r hk
  · rw [h.nextMessageId, Machine.checkedAdd_eq_some] at hn
    have hpos := h.charge.1
    rw [h.lookup] at hk
    split at hk
    · rename_i he
      rw [he]
      omega
    · have := hs.fresh k r _ hk h.messageId
      omega
  · rw [h.admitted, hslots]
    omega
  · rw [h.retained, hbytes]
    omega
  · rw [h.admitted, h.limits]
    omega
  · rw [h.retained, h.limits]
    exact hlim
  · rw [h.underflow]
    exact hs.underflow

theorem GenerationState.Sound.popped (hs : s.Sound) (deadlines : MinHeap DeadlineEntry)
    (unhealthy : Bool) : { s with deadlines, unhealthy }.Sound :=
  ⟨hs.records, hs.generation, hs.fresh, hs.slots, hs.bytes, hs.slots_le, hs.bytes_le, hs.underflow⟩

/-- **Every move keeps the state sound.** -/
theorem Move.sound (h : Move event s effects s') (hs : s.Sound) : s'.Sound := by
  cases h with
  | idle unhealthy _ _ state => subst state; exact hs.popped s.deadlines unhealthy
  | admitted plan _ _ _ _ _ _ ha => exact ha.sound hs
  | touch key r r' ht _ => exact ht.sound_state hs
  | stale now entry unhealthy _ _ _ _ _ _ state => subst state; exact hs.popped _ unhealthy
  | expired now entry r r' _ _ _ _ _ _ _ ht => exact ht.sound_state (hs.popped _ s.unhealthy)

theorem Moves.sound (h : Moves event s effects s') (hs : s.Sound) : s'.Sound := by
  induction h with
  | nil => exact hs
  | cons move _ ih => exact ih (move.sound hs)

end

/-- **Every event keeps the state sound.** -/
theorem GenerationState.Sound.reduce {s : GenerationState} (hs : s.Sound) (event : OwnerEvent) :
    (s.reduce event).1.Sound :=
  (reduce_moves hs.keyed event).sound hs

end Runtime
