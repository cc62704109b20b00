import SmbClient.Runtime.Proof.Sound

/-!
# Why a caller was told and a reservation given back

Only `prepareFailed`, `cancel` and `advanceTime` give a reservation back, and only for a request
that was not on the wire (`rollbacks_cause`). Who is told something in the middle of `advanceTime`
was due at its start (`Ticking`, `Moves.publications_due`).
-/

namespace Runtime

namespace GenerationState

structure Due (s : GenerationState) (now : MonotonicTime) (key : RequestKey) (r : OwnedRequest) :
    Prop where
  found : s.requests.lookup key = some r
  opened : r.lifecycle.caller = .opened
  entry : ∃ e ∈ s.deadlines, e.key = key ∧ e.kind = .caller ∧ e.version = r.deadlineVersion ∧
    e.instant ≤ now

def Ends (s : GenerationState) (event : OwnerEvent) (key : RequestKey) (r : OwnedRequest) : Prop :=
  match event with
  | .prepareFailed k => k = key ∧ s.requests.lookup key = some r
  | .cancel k _ => k = key ∧ s.requests.lookup key = some r ∧ r.lifecycle.caller = .opened
  | .advanceTime now => s.Due now key r
  | _ => False

def GivesBack (s : GenerationState) (event : OwnerEvent) : Prop :=
  ∃ key r, s.Ends event key r ∧ r.lifecycle.wireCommitted = false ∧ r.creditObligation = true

end GenerationState

/-! ## Time -/

structure Ticking (s₀ s : GenerationState) : Prop where
  records : ∀ k r, s.requests.lookup k = some r → r.lifecycle.caller = .opened →
    s₀.requests.lookup k = some r
  heap : ∀ e ∈ s.deadlines, e.kind = .caller → e ∈ s₀.deadlines

theorem Ticking.refl (s : GenerationState) : Ticking s s := ⟨fun _ _ h _ => h, fun _ h _ => h⟩

section
variable {s₀ s s' : GenerationState} {event : OwnerEvent} {now : MonotonicTime} {key : RequestKey}
  {r r' : OwnedRequest} {effects : List OwnerEffect} {entry : DeadlineEntry}

theorem Ticking.pop (h : Ticking s₀ s) (hp : s.deadlines.peek = some entry) (unhealthy : Bool) :
    Ticking s₀ { s with deadlines := s.deadlines.pop, unhealthy } :=
  ⟨h.records, fun e he hk => h.heap e ((MinHeap.mem_or_mem_pop hp).mpr (.inr he)) hk⟩

theorem Ticking.touch (h : Ticking s₀ s) (ht : Touch s event key r r' effects s')
    (hc : r'.lifecycle.caller ≠ .opened) : Ticking s₀ s' where
  records k r₁ hk ho := by
    rw [ht.lookup] at hk
    split at hk
    · obtain rfl := Option.some.inj hk
      exact absurd ho hc
    · exact h.records k r₁ hk ho
  heap e he hk := by
    rcases ht.deadline.pushed e he with he | ⟨hkind, -⟩
    · exact h.heap e he hk
    · rw [hk] at hkind
      cases hkind

theorem Ticking.due (h : Ticking s₀ s) (hp : s.deadlines.peek = some entry)
    (hd : entry.instant ≤ now) (hk : entry.kind = .caller) (hv : r.deadlineVersion = entry.version)
    (ho : r.lifecycle.caller = .opened) (hf : s.requests.lookup entry.key = some r) :
    s₀.Due now entry.key r :=
  ⟨h.records _ _ hf ho, ho, entry, h.heap entry (MinHeap.peek_spec hp).1 hk, rfl, hk, hv.symm, hd⟩

theorem Move.tick (h : Move (.advanceTime now) s effects s') (ht : Ticking s₀ s) :
    Ticking s₀ s' ∧ (rollbacks effects = [] ∧ publications effects = [] ∨ ∃ s₁ key r r',
      s₁.requests = s.requests ∧ s₀.Due now key r ∧
        Touch s₁ (.advanceTime now) key r r' effects s') := by
  cases h with
  | idle _ quiet _ state =>
    subst state
    exact ⟨⟨ht.records, ht.heap⟩, .inl ⟨quiet.rollbacks, quiet.publications⟩⟩
  | admitted _ _ _ _ request => cases request
  | touch _ _ _ _ timeless => exact absurd rfl (timeless now)
  | stale _ _ unhealthy _ least _ quiet _ _ state =>
    subst state
    exact ⟨ht.pop least unhealthy, .inl ⟨quiet.rollbacks, quiet.publications⟩⟩
  | expired _ entry r r' time least due kind version opened closed touch =>
    cases time
    have hdue := ht.due least due kind version opened touch.found
    exact ⟨(ht.pop least s.unhealthy).touch touch closed, .inr ⟨_, _, r, r', by rfl, hdue, touch⟩⟩

theorem Moves.rollbacks_due (h : Moves (.advanceTime now) s effects s') (ht : Ticking s₀ s)
    (hs : s.Sound) (hk : key ∈ rollbacks effects) :
    ∃ r, s₀.Due now key r ∧ r.lifecycle.wireCommitted = false ∧ r.creditObligation = true := by
  induction h with
  | nil => cases hk
  | @cons s _ _ _ _ move _ ih =>
    obtain ⟨hticking, hmove⟩ := move.tick ht
    rw [rollbacks_append, List.mem_append] at hk
    rcases hk with hk | hk
    · rcases hmove with ⟨none, -⟩ | ⟨s₁, _, r, r', hsame, hdue, touch⟩
      · rw [none] at hk; cases hk
      cases touch.credit with
      | same _ _ _ _ _ _ none => rw [none] at hk; cases hk
      | granted _ answer => obtain ⟨_, h⟩ := answer; cases h
      | overflowed answer => obtain ⟨_, _, h⟩ := answer; cases h
      | rolledBack _ obligation uncommitted _ _ _ _ _ _ one =>
        rw [one, List.mem_singleton] at hk
        exact ⟨r, hk ▸ hdue, uncommitted, obligation⟩
      | released hob hheld =>
        exact absurd ⟨hob, hheld⟩ (hs.records _ _ (hsame ▸ touch.found)).not_released
    · exact ih hticking (move.sound hs) hk

/-- Time publishes only for requests whose deadline is due. -/
theorem Moves.publications_due (h : Moves (.advanceTime now) s effects s') (ht : Ticking s₀ s)
    {o : TerminalOutcome} (hk : (key, o) ∈ publications effects) :
    ∃ r, s₀.Due now key r := by
  induction h with
  | nil => cases hk
  | cons move _ ih =>
    obtain ⟨hticking, hmove⟩ := move.tick ht
    rw [publications_append, List.mem_append] at hk
    rcases hk with hk | hk
    · rcases hmove with ⟨-, none⟩ | ⟨s₁, _, r, r', -, hdue, touch⟩
      · rw [none] at hk; cases hk
      rcases touch.caller with ⟨hp, -⟩ | ⟨o', hp, -⟩
      · rw [hp] at hk
        cases hk
      · rw [hp, List.mem_singleton, Prod.mk.injEq] at hk
        exact ⟨r, hk.1 ▸ hdue⟩
    · exact ih hticking hk

/-! ## Every event -/

theorem Move.rollbacks_cause (h : Move event s effects s') (hs : s.Sound)
    (hk : key ∈ rollbacks effects) :
    ∃ r, s.Ends event key r ∧ r.lifecycle.wireCommitted = false ∧ r.creditObligation = true := by
  cases h with
  | idle _ quiet => rw [quiet.rollbacks] at hk; cases hk
  | admitted _ _ _ _ _ _ told => rw [told] at hk; cases hk
  | touch key' r r' touch timeless =>
    cases touch.credit with
    | same _ _ _ _ _ _ none => rw [none] at hk; cases hk
    | granted _ _ _ _ _ _ _ _ _ _ none => rw [none] at hk; cases hk
    | overflowed _ _ _ _ _ _ none => rw [none] at hk; cases hk
    | rolledBack cause obligation uncommitted _ _ _ _ _ _ one =>
      rw [one, List.mem_singleton] at hk
      subst hk
      refine ⟨r, ?_, uncommitted, obligation⟩
      rcases cause with rfl | ⟨ho, t, ht⟩
      · exact ⟨rfl, touch.found⟩
      cases event with
      | cancel k now => exact ⟨touch.aims, touch.found, ho⟩
      | advanceTime now => exact absurd rfl (timeless now)
      | admitRequest | request | prepareFailed | response | recoveryHint | disconnect => cases ht
    | released hob hheld => exact absurd ⟨hob, hheld⟩ (hs.records _ _ touch.found).not_released
  | stale _ _ _ _ _ _ quiet => rw [quiet.rollbacks] at hk; cases hk
  | expired now entry r r' time least due kind version opened closed touch =>
    subst time
    exact (Moves.single (Move.expired now entry r r' rfl least due kind version opened closed
      touch)).rollbacks_due (.refl s) hs hk

theorem Moves.disconnect_rollbacks {network : Option NetworkFailure}
    (h : Moves (.disconnect network) s effects s') (hs : s.Sound) : rollbacks effects = [] := by
  induction h with
  | nil => rfl
  | cons move _ ih =>
    rw [rollbacks_append, ih (move.sound hs), List.append_nil]
    refine List.eq_nil_iff_forall_not_mem.mpr fun key hk => ?_
    obtain ⟨r, h, -⟩ := move.rollbacks_cause hs hk
    exact h

/-- **Credits go back only for a request that the event ends before it was sent.** -/
theorem rollbacks_cause (hs : s.Sound) (hk : key ∈ rollbacks (s.reduce event).2) :
    ∃ r, s.Ends event key r ∧ r.lifecycle.wireCommitted = false ∧ r.creditObligation = true := by
  cases event with
  | admitRequest payload charge deadline =>
    exact (s.admitRequest_move payload charge deadline).rollbacks_cause hs hk
  | request k progress => exact (s.requestEvent_move k progress).rollbacks_cause hs hk
  | prepareFailed k => exact (s.prepareFailed_move k).rollbacks_cause hs hk
  | cancel k now => exact (s.cancel_move k now).rollbacks_cause hs hk
  | response k answer grant => exact (s.response_move k hs.keyed answer grant).rollbacks_cause hs hk
  | recoveryHint k => exact (s.recoveryHint_move k).rollbacks_cause hs hk
  | advanceTime now =>
    exact (GenerationState.reduce_moves hs.keyed (.advanceTime now)).rollbacks_due (.refl s) hs hk
  | disconnect network =>
    rw [(GenerationState.reduce_moves hs.keyed (.disconnect network)).disconnect_rollbacks hs] at hk
    cases hk

end

end Runtime
