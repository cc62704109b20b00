import SmbClient.Runtime.Proof.Lifecycle

/-!
# Deadlines are never lost

The heap is invalidated lazily: an entry counts only while it carries the version of its record.
`Armed` says that nothing is lost by that.
-/

namespace Runtime

/-! ## Who waits for what -/

variable (timeout : Duration)

variable (key : RequestKey)

def drainInstants (event : OwnerEvent) (effects : List OwnerEffect) : List MonotonicTime :=
  match event.now with
  | some t => ((wireCancels effects).filter (· = key)).map fun _ => t.saturatingAdd timeout
  | none => []

theorem drainInstants_append (event : OwnerEvent) (a b : List OwnerEffect) :
    drainInstants timeout key event (a ++ b) =
      drainInstants timeout key event a ++ drainInstants timeout key event b := by
  unfold drainInstants
  cases event.now with
  | none => rfl
  | some t => simp

theorem drainInstants_silent {timeout : Duration} {key : RequestKey} {event : OwnerEvent}
    {effects : List OwnerEffect} (h : key ∉ wireCancels effects) :
    drainInstants timeout key event effects = [] := by
  unfold drainInstants
  split
  · rw [List.map_eq_nil_iff, List.filter_eq_nil_iff]
    intro k hk
    simp only [decide_eq_true_eq]
    rintro rfl
    exact h hk
  · rfl

structure Entry (s : GenerationState) (key : RequestKey) (kind : DeadlineKind) (r : OwnedRequest)
    (t : MonotonicTime) (e : DeadlineEntry) : Prop where
  mem : e ∈ s.deadlines
  key : e.key = key
  kind : e.kind = kind
  version : e.version = r.deadlineVersion
  instant : e.instant = t

structure ArmedKey (admitted : List PreparationPlan) (drained : List MonotonicTime)
    (s : GenerationState) (key : RequestKey) : Prop where
  known : ∀ plan ∈ admitted, plan.key = key → ∃ r, s.requests.lookup key = some r
  caller : ∀ plan ∈ admitted, plan.key = key → ∀ r, s.requests.lookup key = some r →
    r.lifecycle.caller = .opened → ∀ d, plan.callerDeadline = some d →
      ∃ e, Entry s key .caller r d e
  unknown : s.requests.lookup key = none → drained = []
  opened : ∀ r, s.requests.lookup key = some r → r.lifecycle.caller = .opened → drained = []
  tombstone : s.unhealthy = false → ∀ r, s.requests.lookup key = some r →
    r.lifecycle.tombstone = true → ∃ t e, Entry s key .tombstone r t e ∧ drained = [t]

def Armed (admitted : List PreparationPlan) (drained : RequestKey → List MonotonicTime)
    (s : GenerationState) : Prop :=
  ∀ key, ArmedKey admitted (drained key) s key

section
variable {s s₀ s' : GenerationState} {event : OwnerEvent} {key k : RequestKey}
  {r r' : OwnedRequest} {effects : List OwnerEffect} {admitted : List PreparationPlan}
  {drained : RequestKey → List MonotonicTime} {instants : List MonotonicTime}

/-- What an event does to the records: `Armed` for what it admits and the drains it begins. -/
def Rearmed (admitted : List PreparationPlan) (drained : RequestKey → List MonotonicTime)
    (s : GenerationState) (event : OwnerEvent) (effects : List OwnerEffect)
    (s' : GenerationState) : Prop :=
  ∀ k, ArmedKey (admitted ++ plans effects)
    (drained k ++ drainInstants s.tombstoneDrainTimeout k event effects) s' k

theorem healthy_before {u u' : Bool} (worse : u = true → u' = true) (hu : u' = false) :
    u = false := by
  simpa [hu] using worse

theorem ArmedKey.frame (h : ArmedKey admitted instants s k)
    (hl : s'.requests.lookup k = s.requests.lookup k)
    (hh : ∀ e ∈ s.deadlines, e.key = k → e ∈ s'.deadlines)
    (worse : s.unhealthy = true → s'.unhealthy = true) : ArmedKey admitted instants s' k where
  known plan hp hk := by rw [hl]; exact h.known plan hp hk
  caller plan hp hk r hr ho d hd := by
    rw [hl] at hr
    obtain ⟨e, he⟩ := h.caller plan hp hk r hr ho d hd
    exact ⟨e, hh e he.mem he.key, he.key, he.kind, he.version, he.instant⟩
  unknown hn := h.unknown (by rw [← hl]; exact hn)
  opened r hr := h.opened r (by rw [← hl]; exact hr)
  tombstone hu' r hr ht := by
    rw [hl] at hr
    obtain ⟨t, e, he, hd⟩ := h.tombstone (healthy_before worse hu') r hr ht
    exact ⟨t, e, ⟨hh e he.mem he.key, he.key, he.kind, he.version, he.instant⟩, hd⟩

section

variable (h : Touch s event key r r' effects s')
include h

theorem Touch.tombstone (hu : s'.unhealthy = false) (ht : r'.lifecycle.tombstone = true) :
    (r.lifecycle.tombstone = true ∧ r'.deadlineVersion = r.deadlineVersion) ∨
    ∃ t e, Entry s' key .tombstone r' (t.saturatingAdd s.tombstoneDrainTimeout) e ∧
      event.now = some t ∧ wireCancels effects = [key] ∧ r.lifecycle.caller = .opened := by
  rcases h.deadline.tombstone ht with hold | hbad | ⟨t, e, hn, he, hk, hkind, hv, hat, hw⟩
  · exact .inl hold
  · rw [hu] at hbad
    cases hbad
  · rcases h.deadline.wireCancels with hw' | ⟨hw', ho, -⟩
    · rw [hw'] at hw
      cases hw
    · exact .inr ⟨t, e, ⟨he, hk, hkind, hv, hat⟩, hn, hw', ho⟩

/-- The caller facet is asked for only if the caller is still open: its deadline was popped before.
-/
theorem ArmedKey.touch
    (hknown : ∀ r, s.requests.lookup key = some r → r.lifecycle.caller = .opened → instants = [])
    (hcaller : r'.lifecycle.caller = .opened → ∀ plan ∈ admitted, plan.key = key →
      ∀ d, plan.callerDeadline = some d → ∃ e, Entry s key .caller r d e)
    (htomb : s.unhealthy = false → r.lifecycle.tombstone = true →
      ∃ t e, Entry s key .tombstone r t e ∧ instants = [t]) :
    ArmedKey admitted (instants ++ drainInstants s.tombstoneDrainTimeout key event effects)
    s' key := by
  have hself : s'.requests.lookup key = some r' := by rw [h.lookup, if_pos rfl]
  have only : ∀ r₁, s'.requests.lookup key = some r₁ → r₁ = r' := fun r₁ h₁ => by
    rw [hself] at h₁
    exact (Option.some.inj h₁).symm
  refine ⟨fun plan _ _ => ⟨r', hself⟩, fun plan hp hk r₁ h₁ ho d hd => ?_, fun hn => ?_,
    fun r₁ h₁ ho => ?_, fun hu r₁ h₁ ht => ?_⟩
  · rw [only r₁ h₁] at ho ⊢
    obtain ⟨e, he⟩ := hcaller ho plan hp hk d hd
    exact ⟨e, h.deadline.heap e he.mem, he.key, he.kind, he.version.trans
      (h.deadline.opened ho).symm, he.instant⟩
  · rw [hself] at hn
    cases hn
  · rw [only r₁ h₁] at ho
    rw [hknown r h.found (h.opened ho)]
    rcases h.deadline.wireCancels with hw | ⟨-, -, hc, -⟩
    · exact drainInstants_silent (by simp [hw])
    · exact absurd ho hc
  · rw [only r₁ h₁] at ht ⊢
    rcases h.tombstone hu ht with ⟨hold, hv⟩ | ⟨t, e, he, hn, hw, ho⟩
    · obtain ⟨t, e, he, hd⟩ := htomb (healthy_before h.deadline.unhealthy hu) hold
      refine ⟨t, e, ⟨h.deadline.heap e he.mem, he.key, he.kind, he.version.trans hv.symm,
        he.instant⟩, ?_⟩
      rcases h.deadline.wireCancels with hw | ⟨-, ho, -⟩
      · rw [drainInstants_silent (by simp [hw]), List.append_nil, hd]
      · rw [hknown r h.found ho] at hd
        cases hd
    · refine ⟨_, e, he, ?_⟩
      rw [hknown r h.found ho]
      simp [drainInstants, hn, hw]

end

/-- It is enough to look at the key of the touched request. Its entry may have been popped. -/
theorem Rearmed.of_key (deadlines : MinHeap DeadlineEntry)
    (h : Touch { s with deadlines } event key r r' effects s')
    (heap : ∀ e ∈ s.deadlines, e.key ≠ key → e ∈ deadlines)
    (self : ArmedKey admitted
      (drained key ++ drainInstants s.tombstoneDrainTimeout key event effects) s' key)
    (ha : Armed admitted drained s) : Rearmed admitted drained s event effects s' := by
  unfold Rearmed
  rw [h.plans, List.append_nil]
  intro k
  by_cases hk : k = key
  · subst hk
    exact self
  · have hw : k ∉ wireCancels effects := by
      rcases h.deadline.wireCancels with hw | ⟨hw, -⟩ <;> simp [hw, hk]
    simp only [drainInstants_silent hw, List.append_nil]
    exact (ha k).frame (by rw [h.lookup, if_neg hk])
      (fun e he hek => h.deadline.heap e (heap e he (hek ▸ hk))) h.deadline.unhealthy

theorem Armed.touch (h : Touch s event key r r' effects s') (ha : Armed admitted drained s) :
    Rearmed admitted drained s event effects s' := by
  have hak := ha key
  exact .of_key s.deadlines h (fun _ he _ => he) (.touch h hak.opened
    (fun ho plan hp hk => hak.caller plan hp hk r h.found (h.opened ho))
    (fun hu => hak.tombstone hu r h.found)) ha

theorem Armed.admission {plan : PreparationPlan} (h : Admission s plan s') (hs : s.Sound)
    (ha : Armed admitted drained s) : Armed (admitted ++ [plan]) drained s' := by
  have hf := h.fresh hs
  have heap : ∀ e ∈ s.deadlines, e ∈ s'.deadlines := fun e he => (h.deadlines e).mpr (.inl he)
  intro k
  by_cases hk : k = plan.key
  · have hself : s'.requests.lookup k = some plan.record := by rw [h.lookup, if_pos hk]
    have only : ∀ r, s'.requests.lookup k = some r → r = plan.record := fun r hr => by
      rw [hself] at hr
      exact (Option.some.inj hr).symm
    have hnew : drained k = [] := (ha k).unknown (hk ▸ hf)
    -- No plan of this key was admitted before.
    have honly : ∀ plan' ∈ admitted ++ [plan], plan'.key = k → plan' = plan := by
      intro plan' hp hk'
      rcases List.mem_append.mp hp with hp | hp
      · obtain ⟨r, hr⟩ := (ha k).known plan' hp hk'
        rw [hk, hf] at hr
        cases hr
      · exact List.mem_singleton.mp hp
    refine ⟨fun _ _ _ => ⟨_, hself⟩, fun plan' hp hk' r hr _ d hd => ?_, fun _ => hnew,
      fun _ _ _ => hnew, fun _ r hr ht => ?_⟩
    · rw [only r hr]
      rw [honly plan' hp hk'] at hd
      refine ⟨_, (h.deadlines _).mpr (.inr ⟨d, hd, rfl⟩), hk.symm, rfl, ?_, rfl⟩
      simp [PreparationPlan.record, hd]
    · rw [only r hr] at ht
      cases ht
  · have hak : ArmedKey admitted (drained k) s' k := (ha k).frame (by rw [h.lookup, if_neg hk])
      (fun e he _ => heap e he) (fun hu => by rw [h.unhealthy]; exact hu)
    have hold : ∀ plan' ∈ admitted ++ [plan], plan'.key = k → plan' ∈ admitted := by
      intro plan' hp hk'
      refine (List.mem_append.mp hp).resolve_right fun hm => ?_
      rw [List.mem_singleton.mp hm] at hk'
      exact hk hk'.symm
    exact ⟨fun plan' hp hk' => hak.known plan' (hold plan' hp hk') hk',
      fun plan' hp hk' => hak.caller plan' (hold plan' hp hk') hk', hak.unknown, hak.opened,
      hak.tombstone⟩

theorem Armed.stale {entry : DeadlineEntry} {unhealthy : Bool} (hs : s.Sound)
    (hpeek : s.deadlines.peek = some entry) (worse : s.unhealthy = true → unhealthy = true)
    (past : ∀ r, s.requests.lookup entry.key = some r → r.deadlineVersion = entry.version →
      (entry.kind = .caller → r.lifecycle.caller ≠ .opened) ∧
      (entry.kind = .tombstone → r.lifecycle.Waiting → r.lifecycle.tombstone = true →
        unhealthy = true))
    (ha : Armed admitted drained s) :
    Armed admitted drained { s with deadlines := s.deadlines.pop, unhealthy } := by
  intro k
  have hak := ha k
  refine ⟨hak.known, fun plan hp hk r hr ho d hd => ?_, hak.unknown, hak.opened,
    fun hu r hr ht => ?_⟩
  · obtain ⟨e, he⟩ := hak.caller plan hp hk r hr ho d hd
    rcases (MinHeap.mem_or_mem_pop hpeek).mp he.mem with hpop | hmem
    · subst hpop
      exact absurd ho ((past r (he.key ▸ hr) he.version.symm).1 he.kind)
    · exact ⟨e, hmem, he.key, he.kind, he.version, he.instant⟩
  · obtain ⟨t, e, he, hd⟩ := hak.tombstone (healthy_before worse hu) r hr ht
    rcases (MinHeap.mem_or_mem_pop hpeek).mp he.mem with hpop | hmem
    · subst hpop
      have := (past r (he.key ▸ hr) he.version.symm).2 he.kind (hs.records k r hr).waiting ht
      exact Bool.noConfusion (this.symm.trans hu)
    · exact ⟨t, e, ⟨hmem, he.key, he.kind, he.version, he.instant⟩, hd⟩

theorem Armed.expired {entry : DeadlineEntry} (hpeek : s.deadlines.peek = some entry)
    (ho : r.lifecycle.caller = .opened) (hc : r'.lifecycle.caller ≠ .opened)
    (h : Touch { s with deadlines := s.deadlines.pop } event entry.key r r' effects s')
    (ha : Armed admitted drained s) : Rearmed admitted drained s event effects s' := by
  have hak := ha entry.key
  refine .of_key s.deadlines.pop h (fun e he hek => ?_) ?_ ha
  · refine ((MinHeap.mem_or_mem_pop hpeek).mp he).resolve_left fun heq => hek ?_
    rw [heq]
  · refine .touch (s := { s with deadlines := s.deadlines.pop }) h hak.opened
      (fun ho' => absurd ho' hc) fun hu₀ ht => ?_
    obtain ⟨t, e, -, hd⟩ := hak.tombstone hu₀ r h.found ht
    rw [hak.opened r h.found ho] at hd
    cases hd

theorem Move.armed (h : Move event s effects s') (hs : s.Sound) (ha : Armed admitted drained s) :
    Rearmed admitted drained s event effects s' := by
  have silent : ∀ {effects : List OwnerEffect}, plans effects = [] → wireCancels effects = [] →
      ∀ {s' : GenerationState}, Armed admitted drained s' →
      Rearmed admitted drained s event effects s' := by
    intro effects hp hw s' h k
    rw [hp, List.append_nil, drainInstants_silent (by simp [hw]), List.append_nil]
    exact h k
  cases h with
  | idle unhealthy quiet worse state =>
    subst state
    exact silent quiet.plans quiet.wireCancels fun k =>
      (ha k).frame rfl (fun e he _ => he) worse
  | admitted plan _ _ _ _ _ told h =>
    intro k
    rw [told, drainInstants_silent (show k ∉ wireCancels [.admitted plan] from List.not_mem_nil),
      List.append_nil]
    exact Armed.admission h hs ha k
  | touch _ _ _ ht _ => exact Armed.touch ht ha
  | stale _ _ _ _ least _ quiet worse past state =>
    subst state
    exact silent quiet.plans quiet.wireCancels (Armed.stale hs least worse past ha)
  | expired _ _ _ _ _ least _ _ _ opened closed ht => exact Armed.expired least opened closed ht ha

/-- **Every event keeps the deadlines armed.** -/
theorem Moves.armed (h : Moves event s effects s') (hs : s.Sound) (ha : Armed admitted drained s) :
    Rearmed admitted drained s event effects s' := by
  induction h generalizing admitted drained with
  | nil =>
    intro k
    rw [drainInstants_silent (show k ∉ wireCancels [] from List.not_mem_nil), List.append_nil]
    exact (List.append_nil admitted).symm ▸ ha k
  | cons move _ ih =>
    have h := ih (move.sound hs) (move.armed hs ha)
    have ht := (Moves.single move).config.2.2
    unfold Rearmed at h ⊢
    simp only [plans_append, drainInstants_append, ← List.append_assoc]
    rw [ht] at h
    exact h

end

/-! ## The loop takes every due deadline -/

def DeadlineEntry.rounds (e : DeadlineEntry) : ℕ :=
  match e.kind with
  | .caller => 2
  | .tombstone => 1

variable (h : MinHeap DeadlineEntry)

def rounds : ℕ := (h.entries.map DeadlineEntry.rounds).sum

theorem rounds_push (e : DeadlineEntry) : rounds (h.push e) = e.rounds + rounds h := by
  unfold rounds MinHeap.push
  rw [((List.perm_orderedInsert (· ≤ ·) e h.entries).map DeadlineEntry.rounds).sum_eq]
  rfl

theorem rounds_pop {h : MinHeap DeadlineEntry} {e : DeadlineEntry} (hp : h.peek = some e) :
    rounds h = e.rounds + rounds h.pop := by
  obtain ⟨l, hl⟩ := h
  cases l with
  | nil => cases hp
  | cons x l =>
    obtain rfl := Option.some.inj hp
    rfl

theorem rounds_le : rounds h ≤ 2 * h.entries.length := by
  unfold rounds
  induction h.entries with
  | nil => exact Nat.le_refl _
  | cons e es ih =>
    have : e.rounds ≤ 2 := by
      unfold DeadlineEntry.rounds
      split <;> omega
    rw [List.map_cons, List.sum_cons, List.length_cons]
    omega

namespace GenerationState

variable (s : GenerationState)

theorem settleUnanswered_deadlines (key : RequestKey) (r : OwnedRequest)
    (now : MonotonicTime) (committed : Bool) :
    ((s.put key r).settleUnanswered key now committed).1.deadlines = s.deadlines ∨
    ∃ e : DeadlineEntry, e.kind = .tombstone ∧
      ((s.put key r).settleUnanswered key now committed).1.deadlines = s.deadlines.push e := by
  unfold settleUnanswered
  split
  · rcases s.put_scheduleDeadline_cases key r
      (MonotonicTime.saturatingAdd now (s.put key r).tombstoneDrainTimeout) .tombstone with ⟨-, h⟩ |
      h
    · exact .inl (by rw [h]; rfl)
    · exact .inr ⟨_, rfl, by rw [h]⟩
  · rcases s.put_rollback_cases key r with h | ⟨-, h⟩ | ⟨-, -, h⟩
    · exact .inl (by rw [h]; rfl)
    · exact .inl (by rw [h])
    · exact .inl (by rw [h, put_releaseRequestOwnership])

theorem expire_deadlines (now : MonotonicTime) (entry : DeadlineEntry) :
    (s.expire now entry).1.deadlines = s.deadlines ∨
    (entry.kind = .caller ∧ ∃ e : DeadlineEntry, e.kind = .tombstone ∧
      (s.expire now entry).1.deadlines = s.deadlines.push e) := by
  unfold expire
  split
  · exact .inl rfl
  rename_i r _
  split
  · exact .inl rfl
  split
  · rename_i hk
    split
    · exact .inl rfl
    · exact (s.settleUnanswered_deadlines entry.key _ now r.lifecycle.wireCommitted).imp id
        fun h => ⟨hk, h⟩
  · split <;> exact .inl rfl

theorem drainDeadlines_drained (now : MonotonicTime) : ∀ (fuel : ℕ) (s : GenerationState),
    rounds s.deadlines ≤ fuel → ∀ e ∈ (drainDeadlines now fuel s).1.deadlines, now < e.instant
  | 0, s, hf, e, he => by
    cases hp : s.deadlines.peek with
    | none => exact absurd he (MinHeap.peek_none hp)
    | some x =>
      have := rounds_pop hp
      have : 0 < x.rounds := by
        unfold DeadlineEntry.rounds
        split <;> omega
      omega
  | fuel + 1, s, hf, e, he => by
    unfold drainDeadlines at he
    split at he
    · rename_i hp
      exact absurd he (MinHeap.peek_none hp)
    · rename_i x hp
      split at he
      · refine drainDeadlines_drained now fuel _ ?_ e he
        have hpop := rounds_pop hp
        rcases { s with deadlines := s.deadlines.pop }.expire_deadlines now x with h |
          ⟨hk, y, hy, h⟩
        · have : 0 < x.rounds := by
            unfold DeadlineEntry.rounds
            split <;> omega
          rw [h]
          show rounds s.deadlines.pop ≤ fuel
          omega
        · have h1 : x.rounds = 2 := by rw [DeadlineEntry.rounds, hk]
          have h2 : y.rounds = 1 := by rw [DeadlineEntry.rounds, hy]
          rw [h, rounds_push]
          show y.rounds + rounds s.deadlines.pop ≤ fuel
          omega
      · rename_i hdue
        exact lt_of_lt_of_le (not_le.mp hdue)
          (DeadlineEntry.at_le_of_le ((MinHeap.peek_spec hp).2 e he))

theorem advanceTime_drained (now : MonotonicTime) :
    ∀ e ∈ (s.advanceTime now).1.deadlines, now < e.instant :=
  drainDeadlines_drained now _ s (rounds_le s.deadlines)

end GenerationState

/-! ## Every run -/

def drainHistory
    (history : List (OwnerEvent × List OwnerEffect)) : List MonotonicTime :=
  history.flatMap fun h => drainInstants timeout key h.1 h.2

theorem Setup.run_armed (c : Setup) (events : List OwnerEvent) :
    Armed (plans (c.run events).outputs)
      (fun key => drainHistory c.tombstoneDrainTimeout key (c.run events).history)
      (c.run events).state := by
  have h : (c.run events).state.tombstoneDrainTimeout = c.tombstoneDrainTimeout ∧
      Armed (plans (c.run events).outputs)
        (fun key => drainHistory c.tombstoneDrainTimeout key (c.run events).history)
        (c.run events).state := by
    refine c.run_invariant (P := fun run =>
      run.state.tombstoneDrainTimeout = c.tombstoneDrainTimeout ∧
      Armed (plans run.outputs) (fun key => drainHistory c.tombstoneDrainTimeout key run.history)
        run.state) ⟨rfl, fun key => ?_⟩ (fun run event hs h => ?_) events
    · exact ⟨(fun _ h => nomatch h), (fun _ h => nomatch h), (fun _ => rfl), (fun _ h => nomatch h),
        fun _ _ h => nomatch h⟩
    · have hm := GenerationState.reduce_moves hs.keyed event
      refine ⟨hm.config.2.2.trans h.1, fun key => ?_⟩
      have ha := hm.armed hs h.2 key
      rw [h.1] at ha
      simpa [drainHistory] using ha
  exact h.2

/-- After time has advanced every request that was due has an outcome, and at any time what is yet
to expire has a heap entry with the record's version. -/
theorem deadlines_met (c : Setup) (events : List OwnerEvent) :
    (∀ now,
      (∀ plan ∈ plans (c.run (events ++ [.advanceTime now])).outputs, ∀ d,
        plan.callerDeadline = some d → d ≤ now →
        ((c.run (events ++ [.advanceTime now])).state.terminalOutcome plan.key).isSome) ∧
      ((c.run (events ++ [.advanceTime now])).state.unhealthy = false → ∀ key r,
        (c.run (events ++ [.advanceTime now])).state.requests.lookup key = some r →
        r.lifecycle.tombstone = true →
        ∃ t, drainHistory c.tombstoneDrainTimeout key
          (c.run (events ++ [.advanceTime now])).history = [t] ∧ now < t)) ∧
    (∀ plan ∈ plans (c.run events).outputs, ∃ r,
      (c.run events).state.requests.lookup plan.key = some r ∧
      (r.lifecycle.caller = .opened → ∀ d, plan.callerDeadline = some d →
        ∃ e ∈ (c.run events).state.deadlines, e.key = plan.key ∧ e.kind = .caller ∧
          e.version = r.deadlineVersion ∧ e.instant = d)) ∧
    ((c.run events).state.unhealthy = false → ∀ key r,
      (c.run events).state.requests.lookup key = some r → r.lifecycle.tombstone = true →
      ∃ e ∈ (c.run events).state.deadlines, e.key = key ∧ e.kind = .tombstone ∧
        e.version = r.deadlineVersion) := by
  refine ⟨fun now => ?_, fun plan hp => ?_, fun hu key r hr ht => ?_⟩
  · have ha := c.run_armed (events ++ [.advanceTime now])
    have hd : ∀ e ∈ (c.run (events ++ [.advanceTime now])).state.deadlines, now < e.instant := by
      rw [Setup.run, Run.along_concat]
      exact GenerationState.advanceTime_drained _ now
    refine ⟨fun plan hp d hpd hle => ?_, fun hu key r hr ht => ?_⟩
    · obtain ⟨r, hr⟩ := (ha plan.key).known plan hp rfl
      rw [GenerationState.terminalOutcome_eq, hr]
      show r.lifecycle.outcome.isSome
      cases ho : r.lifecycle.caller with
      | opened =>
        obtain ⟨e, he⟩ := (ha plan.key).caller plan hp rfl r hr ho d hpd
        exact absurd hle (not_le.mpr (he.instant ▸ hd e he.mem))
      | terminal o => simp [RequestRecord.outcome, ho]
    · obtain ⟨t, e, he, hh⟩ := (ha key).tombstone hu r hr ht
      exact ⟨t, hh, he.instant ▸ hd e he.mem⟩
  · have ha := c.run_armed events plan.key
    obtain ⟨r, hr⟩ := ha.known plan hp rfl
    refine ⟨r, hr, fun ho d hd => ?_⟩
    obtain ⟨e, he⟩ := ha.caller plan hp rfl r hr ho d hd
    exact ⟨e, he.mem, he.key, he.kind, he.version, he.instant⟩
  · obtain ⟨t, e, he, -⟩ := (c.run_armed events key).tombstone hu r hr ht
    exact ⟨e, he.mem, he.key, he.kind, he.version⟩

end Runtime
