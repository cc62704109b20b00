import SmbClient.Runtime.Proof.Causes
import SmbClient.Runtime.Proof.Lifecycle

/-!
# Credits

`Window`: the next id plus the available credits is the end of the granted window, as long as no
reservation is given back. `Ledger`: the total is the pool plus the outstanding charges, as long as
no response comes for a charge that was given back.
-/

namespace Runtime

open GenerationState

def granted (effects : List OwnerEffect) : ℕ := ((grants effects).map (·.2.toNat)).sum

@[simp] theorem granted_append (a b : List OwnerEffect) :
    granted (a ++ b) = granted a + granted b := by
  simp [granted]

theorem granted_silent {effects : List OwnerEffect} (h : grants effects = []) :
    granted effects = 0 := by
  simp [granted, h]

/-! ## The window of message ids -/

def Window (stop : ℕ) (s : GenerationState) : Prop :=
  ∀ n, s.nextMessageId = some n → n + s.availableCredits = stop

section
variable {s s' : GenerationState} {event : OwnerEvent} {key : RequestKey} {r r' : OwnedRequest}
  {effects log : List OwnerEffect} {stop : ℕ}

theorem Touch.window (h : Touch s event key r r' effects s') (hs : s.Sound)
    (hr : rollbacks effects = []) (hw : Window stop s) : Window (stop + granted effects) s' := by
  intro n hn
  rw [h.frame.nextMessageId] at hn
  have hw := hw n hn
  cases h.credit with
  | same available _ _ _ _ _ _ none => rw [available, granted_silent none, hw, Nat.add_zero]
  | granted grant _ _ available _ _ _ _ _ _ _ one =>
    have : Runtime.granted effects = grant.toNat := by simp [Runtime.granted, one]
    omega
  | overflowed _ available _ _ _ _ _ none => rw [available, granted_silent none, hw, Nat.add_zero]
  | rolledBack _ _ _ _ _ _ _ _ _ one => rw [one] at hr; cases hr
  | released hob hheld => exact absurd ⟨hob, hheld⟩ (hs.records _ _ h.found).not_released

theorem Move.window (h : Move event s effects s') (hs : s.Sound) (hr : rollbacks effects = [])
    (hw : Window stop s) : Window (stop + granted effects) s' := by
  cases h with
  | idle _ quiet _ state =>
    subst state
    rw [granted_silent quiet.grants]
    exact hw
  | admitted plan _ _ _ _ _ told ha =>
    -- The id range and the charge are taken together.
    intro n hn
    rw [ha.nextMessageId, Machine.checkedAdd_eq_some] at hn
    have hw := hw _ ha.messageId
    have hc := ha.charge.2
    have hg : granted effects = 0 := granted_silent (by rw [told]; rfl)
    rw [ha.available]
    omega
  | touch _ _ _ ht _ => exact ht.window hs hr hw
  | stale _ _ _ _ _ _ quiet _ _ state =>
    subst state
    rw [granted_silent quiet.grants]
    exact hw
  | expired _ _ _ _ _ _ _ _ _ _ _ ht => exact ht.window (hs.popped _ s.unhealthy) hr hw

/-- Message ids stay inside what was granted. -/
theorem Moves.window (h : Moves event s effects s') (hs : s.Sound) (hr : rollbacks effects = [])
    (hw : Window stop s) : Window (stop + granted effects) s' := by
  induction h generalizing stop with
  | nil => exact hw
  | cons move _ ih =>
    rw [rollbacks_append, List.append_eq_nil_iff] at hr
    rw [granted_append, ← Nat.add_assoc]
    exact ih (move.sound hs) hr.2 (move.window hs hr.1 hw)

/-- The id ranges of the admissions follow each other, and the next id stands behind them. -/
def Spaced (log : List OwnerEffect) (s : GenerationState) : Prop :=
  (plans log).Pairwise (fun p q => p.key.messageId + p.creditCharge.toNat ≤ q.key.messageId) ∧
  ∀ p ∈ plans log, ∀ n, s.nextMessageId = some n → p.key.messageId + p.creditCharge.toNat ≤ n

theorem Move.spaced (h : Move event s effects s') (hs : Spaced log s) :
    Spaced (log ++ effects) s' := by
  have kept (none : plans effects = []) (same : s'.nextMessageId = s.nextMessageId) :
      Spaced (log ++ effects) s' := by
    rwa [Spaced, plans_append, none, List.append_nil, same]
  cases h with
  | idle _ quiet _ state => exact kept quiet.plans (by rw [state])
  | touch _ _ _ ht _ => exact kept ht.plans ht.frame.nextMessageId
  | stale _ _ _ _ _ _ quiet _ _ state => exact kept quiet.plans (by rw [state])
  | expired _ _ _ _ _ _ _ _ _ _ _ ht => exact kept ht.plans ht.frame.nextMessageId
  | admitted plan _ _ _ _ _ told ha =>
    have behind := fun p hm => hs.2 p hm _ ha.messageId
    rw [Spaced, plans_append, told, ha.nextMessageId, List.pairwise_append]
    refine ⟨⟨hs.1, List.pairwise_singleton _ _, fun p hm q hq => ?_⟩, fun p hm n hn => ?_⟩
    · rw [List.mem_singleton.mp hq]
      exact behind p hm
    · obtain ⟨-, rfl⟩ := Machine.checkedAdd_eq_some.mp hn
      rcases List.mem_append.mp hm with hm | hm
      · exact (behind p hm).trans (Nat.le_add_right _ _)
      · rw [List.mem_singleton.mp hm]

/-- Admitted ranges follow each other. -/
theorem Moves.spaced (h : Moves event s effects s') (hs : Spaced log s) :
    Spaced (log ++ effects) s' := by
  induction h generalizing log with
  | nil => rwa [List.append_nil]
  | cons move _ ih =>
    rw [← List.append_assoc]
    exact ih (move.spaced hs)

end

/-- No message id is used twice, whatever is rolled back in between. -/
theorem message_ids_apart (c : Setup) (events : List OwnerEvent) :
    Spaced (c.run events).outputs (c.run events).state := by
  refine c.run_invariant (P := fun run => Spaced run.outputs run.state)
    ⟨.nil, fun _ h => nomatch h⟩ (fun run event sound hs => ?_) events
  rw [Run.outputs_next]
  exact (reduce_moves sound.keyed event).spaced hs

def GenerationState.next (s : GenerationState) (event : OwnerEvent) : GenerationState :=
  (s.reduce event).1

theorem Setup.run_meets (c : Setup) {C : GenerationState → OwnerEvent → Prop}
    {P : Run GenerationState OwnerEvent OwnerEffect → Prop} (hstart : P (.start c.start))
    (hstep : ∀ run event, run.state.Sound → C run.state event → P run → P (.next reduce run event))
    {events : List OwnerEvent} (h : Meets next C c.start events) :
    P (c.run events) := by
  have h : (c.run events).state.Sound ∧ P (c.run events) :=
    Run.meets (P := fun run => run.state.Sound ∧ P run)
      ⟨sound_new _ _ _ _ _ _, hstart⟩
      (fun run event hc hp => ⟨hp.1.reduce event, hstep run event hp.1 hc hp.2⟩) h
  exact h.2

/-- Where no reservation is given back, every admission stays within the initial credits and those
granted so far. -/
theorem admitted_inside_window (c : Setup) (events : List OwnerEvent)
    (h : Meets next (fun s event => ¬ s.GivesBack event) c.start events)
    (event : OwnerEvent) (plan : PreparationPlan)
    (hp : plan ∈ plans ((c.run events).state.reduce event).2) :
    plan.key.messageId + plan.creditCharge.toNat ≤
      c.initialMessageId + c.initialCredits + granted (c.run events).outputs := by
  have hw : Window (c.initialMessageId + c.initialCredits + granted (c.run events).outputs)
      (c.run events).state := by
    refine c.run_meets (P := fun run =>
      Window (c.initialMessageId + c.initialCredits + granted run.outputs) run.state) ?_ ?_ h
    · intro n hn
      obtain rfl := Option.some.inj hn
      rfl
    · intro run event hs hc hw
      have hr : rollbacks (run.state.reduce event).2 = [] :=
        List.eq_nil_iff_forall_not_mem.mpr fun key hk => by
          obtain ⟨r, he, hu, ho⟩ := rollbacks_cause hs hk
          exact hc ⟨key, r, he, hu, ho⟩
      rw [Run.outputs_next, granted_append, ← Nat.add_assoc]
      exact (reduce_moves hs.keyed event).window hs hr hw
  have ha := (c.run_sound events).admits event plan hp
  have hw := hw _ ha.messageId
  have hc := ha.charge.2
  omega

def oneCredit : Setup := ⟨⟨1⟩, 0, 1, 1, ⟨8, 1000⟩, 0⟩

theorem admitted_inside_window_answered :
    1 + 1 ≤ 0 + 1 + granted (oneCredit.run
      [.admitRequest 0 1 none, .response ⟨⟨1⟩, 0⟩ .final 1]).outputs :=
  admitted_inside_window oneCredit [.admitRequest 0 1 none, .response ⟨⟨1⟩, 0⟩ .final 1]
    ⟨(fun ⟨_, _, h, _⟩ => h), (fun ⟨_, _, h, _⟩ => h), trivial⟩
    (.admitRequest 0 1 none) ⟨⟨⟨1⟩, 1⟩, 0, 1, 1, none⟩ (by decide)

/-- A cancelled request gives its credit back and not its message id. -/
theorem admitted_outside_window :
    ∃ plan ∈ plans ((oneCredit.run
        [.admitRequest 0 1 none, .cancel ⟨⟨1⟩, 0⟩ 0]).state.reduce (.admitRequest 0 1 none)).2,
      ¬ plan.key.messageId + plan.creditCharge.toNat ≤
        oneCredit.initialMessageId + oneCredit.initialCredits +
          granted (oneCredit.run [.admitRequest 0 1 none, .cancel ⟨⟨1⟩, 0⟩ 0]).outputs := by
  decide

/-! ## The credit ledger -/

def grantedKeys (effects : List OwnerEffect) : List RequestKey := (grants effects).map (·.1)

@[simp] theorem grantedKeys_append (a b : List OwnerEffect) :
    grantedKeys (a ++ b) = grantedKeys a ++ grantedKeys b := by
  simp [grantedKeys]

variable (r : OwnedRequest)

def OwnedRequest.owes : Bool := r.creditObligation && !r.creditResponseSeen

def OwnedRequest.owedCharge : ℕ := if r.owes then r.creditCharge.toNat else 0

def OwnedRequest.owedExtra : ℕ := if r.owes then r.requestedExtraCredits else 0

open OwnedRequest

/-- The counters are the sums over what is owed, and the flags say what `log` says. -/
structure Ledger (log : List OwnerEffect) (s : GenerationState) : Prop where
  total : s.totalCredits = s.availableCredits + s.requests.total owedCharge
  pending : s.pendingExtraCredits = s.requests.total owedExtra
  seen : ∀ key r, s.requests.lookup key = some r →
    (r.creditResponseSeen = true ↔ key ∈ grantedKeys log)
  returned : ∀ key r, s.requests.lookup key = some r →
    ((r.creditObligation = false ∧ r.creditResponseSeen = false) ↔ key ∈ rollbacks log)
  known : ∀ key, key ∈ grantedKeys log ∨ key ∈ rollbacks log → ∃ r, s.requests.lookup key = some r

def GenerationState.AnswersOwed (s : GenerationState) : OwnerEvent → Prop
  | .response key _ _ => ∀ r, s.requests.lookup key = some r →
    r.lifecycle.response ≠ .final → r.creditObligation = true
  | _ => True

instance (s : GenerationState) : ∀ event, Decidable (s.AnswersOwed event)
  | .response key _ _ =>
    decidable_of_iff ((s.requests.lookup key).all
        fun r => decide (r.lifecycle.response ≠ .final → r.creditObligation = true)) <| by
      cases h : s.requests.lookup key with
      | none => simp [GenerationState.AnswersOwed, h]
      | some r => simp [GenerationState.AnswersOwed, h, or_iff_not_imp_left]
  | .admitRequest .. | .request .. | .prepareFailed _ | .cancel .. | .recoveryHint _
  | .advanceTime _ | .disconnect _ => .isTrue trivial

section
variable {s s' : GenerationState} {event : OwnerEvent} {key : RequestKey} {r r' : OwnedRequest}
  {effects log : List OwnerEffect}

theorem Ledger.touch (hl : Ledger log s) (h : Touch s event key r r' effects s')
    (hg : ∀ k ∈ grantedKeys effects, k = key) (hr : ∀ k ∈ rollbacks effects, k = key)
    (htotal : s'.totalCredits + s.availableCredits + r.owedCharge =
      s.totalCredits + s'.availableCredits + r'.owedCharge)
    (hpending : s'.pendingExtraCredits + r.owedExtra = s.pendingExtraCredits + r'.owedExtra)
    (hseen : r'.creditResponseSeen = true ↔ r.creditResponseSeen = true ∨ key ∈ grantedKeys effects)
    (hreturned : (r'.creditObligation = false ∧ r'.creditResponseSeen = false) ↔
      (r.creditObligation = false ∧ r.creditResponseSeen = false) ∨ key ∈ rollbacks effects) :
    Ledger (log ++ effects) s' := by
  have hcharge := Table.total_insert_over owedCharge r' h.found
  have hextra := Table.total_insert_over owedExtra r' h.found
  rw [← h.requests] at hcharge hextra
  have h1 := hl.total
  have h2 := hl.pending
  refine ⟨by omega, by omega, fun k r₁ hk => ?_, fun k r₁ hk => ?_, fun k hk => ?_⟩
  · rw [grantedKeys_append, List.mem_append]
    rw [h.lookup] at hk
    split at hk
    · rename_i he
      obtain rfl := Option.some.inj hk
      rw [he, hseen, hl.seen key r h.found]
    · rename_i hne
      rw [hl.seen k r₁ hk, or_iff_left fun hm => hne (hg k hm)]
  · rw [rollbacks_append, List.mem_append]
    rw [h.lookup] at hk
    split at hk
    · rename_i he
      obtain rfl := Option.some.inj hk
      rw [he, hreturned, hl.returned key r h.found]
    · rename_i hne
      rw [hl.returned k r₁ hk, or_iff_left fun hm => hne (hr k hm)]
  · rw [h.lookup]
    by_cases he : k = key
    · exact ⟨r', if_pos he⟩
    rw [if_neg he]
    rw [grantedKeys_append, rollbacks_append, List.mem_append, List.mem_append] at hk
    refine hl.known k ?_
    rcases hk with (hk | hk) | (hk | hk)
    · exact .inl hk
    · exact absurd (hg k hk) he
    · exact .inr hk
    · exact absurd (hr k hk) he

theorem Touch.ledger (h : Touch s event key r r' effects s') (hs : s.Sound)
    (hc : s.AnswersOwed event) (ho : overflows effects = []) (hsat : s'.saturated = false)
    (hl : Ledger log s) : Ledger (log ++ effects) s' := by
  have hterms := h.terms
  have hcharge := Table.le_total owedCharge h.found
  have hextra := Table.le_total owedExtra h.found
  rw [← hl.pending] at hextra
  have htot := hl.total
  cases h.credit with
  | same available total pending _ obligation seen noRollback noGrant _ =>
    have howes : r'.owes = r.owes := by rw [owes, obligation, seen, owes]
    have hcharge' : r'.owedCharge = r.owedCharge := by
      rw [owedCharge, howes, hterms.creditCharge, owedCharge]
    have hextra' : r'.owedExtra = r.owedExtra := by
      rw [owedExtra, howes, hterms.extraCredits, owedExtra]
    have hg : grantedKeys effects = [] := by rw [grantedKeys, noGrant]; rfl
    refine hl.touch h (by simp [hg]) (by simp [noRollback]) (by omega) (by omega) ?_ ?_
    · simp [hg, seen]
    · simp [noRollback, obligation, seen]
  | granted grant answer live available total pending saturated obligation seen _
      noRollback one _ =>
    obtain ⟨e, rfl⟩ := answer
    have hob : r.creditObligation = true := hc r h.found live
    have hg : grantedKeys effects = [key] := by rw [grantedKeys, one]; rfl
    have hsum := Machine.saturatingAdd_of_le (saturated hsat).2
    have hzero : r'.owedCharge = 0 ∧ r'.owedExtra = 0 := by
      simp [owedCharge, owedExtra, owes, seen]
    refine hl.touch h (by simp [hg]) (by simp [noRollback]) ?_ ?_ ?_ ?_
    · -- The first response settles the charge; a later one only adds to the total.
      rw [total, hsum, hzero.1]
      cases hseen : r.creditResponseSeen with
      | true => simp [settledTotal, owedCharge, owes, hseen]; omega
      | false =>
        have howed : r.owedCharge = r.creditCharge.toNat := by
          simp [owedCharge, owes, hob, hseen]
        simp only [settledTotal, hseen, Bool.false_eq_true, ↓reduceIte]
        omega
    · rw [pending, hzero.2]
      cases hseen : r.creditResponseSeen with
      | true => simp [settledExtra, owedExtra, owes, hseen]
      | false =>
        have howed : r.owedExtra = r.requestedExtraCredits := by
          simp [owedExtra, owes, hob, hseen]
        simp only [settledExtra, hseen, Bool.false_eq_true, ↓reduceIte]
        omega
    · simp [hg, seen]
    · simp [noRollback, seen, hob]
  | overflowed _ _ _ _ _ _ _ _ one => rw [one] at ho; cases ho
  | rolledBack _ obligation uncommitted available total pending _ settled seen one noGrant _ =>
    have hnotseen : r.creditResponseSeen = false := by
      cases hseen : r.creditResponseSeen with
      | false => rfl
      | true =>
        rw [(hs.records _ _ h.found).seen hseen] at uncommitted
        cases uncommitted
    have hg : grantedKeys effects = [] := by rw [grantedKeys, noGrant]; rfl
    have hzero : r'.owedCharge = 0 ∧ r'.owedExtra = 0 := by
      simp [owedCharge, owedExtra, owes, settled]
    have howed : r.owedCharge = r.creditCharge.toNat ∧ r.owedExtra = r.requestedExtraCredits := by
      simp [owedCharge, owedExtra, owes, obligation, hnotseen]
    refine hl.touch h (by simp [hg]) (by simp [one]) (by omega) (by omega) ?_ ?_
    · simp [hg, seen]
    · simp [one, settled, seen, hnotseen]
  | released hob hheld => exact absurd ⟨hob, hheld⟩ (hs.records _ _ h.found).not_released

theorem Move.saturated (h : Move event s effects s') (hs : s.Sound) (hsat : s'.saturated = false) :
    s.saturated = false := by
  have touched : ∀ {s₀ : GenerationState} {key r r'}, s₀.Sound →
      Touch s₀ event key r r' effects s' → s₀.saturated = false := by
    intro s₀ key r r' hs ht
    cases ht.credit with
    | same _ _ _ saturated => rw [← saturated, hsat]
    | granted _ _ _ _ _ _ saturated => exact (saturated hsat).1
    | overflowed _ _ saturated => exact saturated hsat
    | rolledBack _ _ _ _ _ _ saturated => exact saturated hsat
    | released hob hheld => exact absurd ⟨hob, hheld⟩ (hs.records _ _ ht.found).not_released
  cases h with
  | idle _ _ _ state => rw [state] at hsat; exact hsat
  | admitted _ _ _ _ _ _ _ ha => exact (ha.saturated hsat).1
  | touch _ _ _ ht _ => exact touched hs ht
  | stale _ _ _ _ _ _ _ _ _ state => rw [state] at hsat; exact hsat
  | expired _ _ _ _ _ _ _ _ _ _ _ ht =>
    have h := touched (hs.popped s.deadlines.pop s.unhealthy) ht
    exact h

theorem Moves.saturated (h : Moves event s effects s') (hs : s.Sound)
    (hsat : s'.saturated = false) : s.saturated = false := by
  induction h with
  | nil => exact hsat
  | cons move _ ih => exact move.saturated hs (ih (move.sound hs) hsat)

theorem Admission.ledger {plan : PreparationPlan} (ha : Admission s plan s') (hs : s.Sound)
    (hsat : s'.saturated = false) (hl : Ledger log s) : Ledger (log ++ [.admitted plan]) s' := by
  have hf := ha.fresh hs
  have hcharge := Table.total_insert_new owedCharge plan.record hf
  have hextra := Table.total_insert_new owedExtra plan.record hf
  rw [← ha.requests] at hcharge hextra
  have hrec : plan.record.owedCharge = plan.creditCharge.toNat ∧
      plan.record.owedExtra = plan.record.requestedExtraCredits := ⟨rfl, rfl⟩
  have h1 := hl.total
  have h2 := hl.pending
  have h3 := ha.charge.2
  have h4 := ha.available
  have h5 := ha.total
  have h6 := ha.pending
  rw [Machine.saturatingAdd_of_le (ha.saturated hsat).2] at h6
  have hunknown : plan.key ∉ grantedKeys log ∧ plan.key ∉ rollbacks log := by
    refine ⟨fun hm => ?_, fun hm => ?_⟩
    · obtain ⟨r, hr⟩ := hl.known _ (.inl hm)
      rw [hf] at hr
      cases hr
    · obtain ⟨r, hr⟩ := hl.known _ (.inr hm)
      rw [hf] at hr
      cases hr
  have hg : grantedKeys (log ++ [.admitted plan]) = grantedKeys log := by
    rw [grantedKeys_append]
    exact List.append_nil _
  have hr : rollbacks (log ++ [.admitted plan]) = rollbacks log := by
    rw [rollbacks_append]
    exact List.append_nil _
  refine ⟨by omega, by omega, fun k r hk => ?_, fun k r hk => ?_, fun k hk => ?_⟩
  · rw [hg]
    rw [ha.lookup] at hk
    split at hk
    · rename_i he
      obtain rfl := Option.some.inj hk
      simp [he, hunknown.1, PreparationPlan.record]
    · exact hl.seen k r hk
  · rw [hr]
    rw [ha.lookup] at hk
    split at hk
    · rename_i he
      obtain rfl := Option.some.inj hk
      simp [he, hunknown.2, PreparationPlan.record]
    · exact hl.returned k r hk
  · rw [hg, hr] at hk
    rw [ha.lookup]
    split
    · exact ⟨_, rfl⟩
    · exact hl.known k hk

theorem Ledger.quiet (hl : Ledger log s) (hq : Quiet effects) (deadlines : MinHeap DeadlineEntry)
    (unhealthy : Bool) : Ledger (log ++ effects) { s with deadlines, unhealthy } := by
  have hg : grantedKeys (log ++ effects) = grantedKeys log := by
    simp [grantedKeys, hq.grants]
  have hr : rollbacks (log ++ effects) = rollbacks log := by
    simp [hq.rollbacks]
  refine ⟨hl.total, hl.pending, ?_, ?_, ?_⟩
  · rw [hg]
    exact hl.seen
  · rw [hr]
    exact hl.returned
  · rw [hg, hr]
    exact hl.known

theorem Move.ledger (h : Move event s effects s') (hs : s.Sound) (hc : s.AnswersOwed event)
    (ho : overflows effects = []) (hsat : s'.saturated = false) (hl : Ledger log s) :
    Ledger (log ++ effects) s' := by
  cases h with
  | idle unhealthy quiet _ state =>
    subst state
    exact hl.quiet quiet s.deadlines unhealthy
  | admitted plan _ _ _ _ _ told ha =>
    rw [told]
    exact ha.ledger hs hsat hl
  | touch _ _ _ ht _ => exact ht.ledger hs hc ho hsat hl
  | stale _ _ unhealthy _ _ _ quiet _ _ state =>
    subst state
    exact hl.quiet quiet _ unhealthy
  | expired _ _ _ _ time _ _ _ _ _ _ ht =>
    subst time
    have hp : Ledger (log ++ []) { s with deadlines := s.deadlines.pop } :=
      hl.quiet ⟨rfl, rfl, rfl, rfl, rfl, rfl⟩ _ s.unhealthy
    rw [List.append_nil] at hp
    exact ht.ledger (hs.popped _ s.unhealthy) trivial ho hsat hp

theorem Moves.ledger (h : Moves event s effects s') (hs : s.Sound)
    (hc : ∀ s : GenerationState, s.AnswersOwed event) (ho : overflows effects = [])
    (hsat : s'.saturated = false) (hl : Ledger log s) : Ledger (log ++ effects) s' := by
  induction h generalizing log with
  | nil => rwa [List.append_nil]
  | cons move rest ih =>
    rw [overflows_append, List.append_eq_nil_iff] at ho
    rw [← List.append_assoc]
    have hsat₁ := rest.saturated (move.sound hs) hsat
    exact ih (move.sound hs) ho.2 hsat (move.ledger hs (hc _) ho.1 hsat₁ hl)

/-- **Every event keeps the ledger**, as long as responses answer what is owed. -/
theorem Ledger.reduce (hl : Ledger log s) (hs : s.Sound) (hc : s.AnswersOwed event)
    (ho : overflows (s.reduce event).2 = []) (hsat : (s.reduce event).1.saturated = false) :
    Ledger (log ++ (s.reduce event).2) (s.reduce event).1 := by
  cases event with
  | response key answer grant =>
    exact (s.response_move key hs.keyed answer grant).ledger hs hc ho hsat hl
  | admitRequest | request | prepareFailed | cancel | recoveryHint | advanceTime | disconnect =>
    exact (reduce_moves hs.keyed _).ledger hs (fun _ => trivial) ho hsat hl

end

def Outstanding (log : List OwnerEffect) (r : OwnedRequest) : Bool :=
  decide (r.lifecycle.key ∉ rollbacks log ∧ r.lifecycle.key ∉ grantedKeys log)

theorem Ledger.owes {log : List OwnerEffect} {s : GenerationState} (hl : Ledger log s)
    (hs : s.Sound) {r : OwnedRequest} (hr : r ∈ s.requests.values) :
    r.owes = Outstanding log r := by
  obtain ⟨key, hk⟩ := Table.mem_values.mp hr
  have h1 := hl.seen key r hk
  have h2 := hl.returned key r hk
  rw [Bool.eq_iff_iff, Outstanding, decide_eq_true_eq, (hs.records key r hk).key, ← h1, ← h2,
    OwnedRequest.owes]
  cases r.creditObligation <;> cases r.creditResponseSeen <;> simp

theorem Ledger.sum_owed {log : List OwnerEffect} {s : GenerationState} (hl : Ledger log s)
    (hs : s.Sound) (f : OwnedRequest → ℕ) :
    s.requests.total (fun r => if r.owes then f r else 0) =
      ((s.requests.values.filter (Outstanding log)).map f).sum := by
  rw [Table.total_ite, List.filter_congr fun r hr => hl.owes hs hr]

structure Exact (run : Run GenerationState OwnerEvent OwnerEffect) : Prop where
  overflows : overflows run.outputs = []
  saturated : run.state.saturated = false

/-- The total is the pool plus the outstanding charges, and no request is both rolled back and
granted credits. -/
theorem credits_conserved (c : Setup) (events : List OwnerEvent) (he : Exact (c.run events))
    (h : Meets next GenerationState.AnswersOwed c.start events) :
    (c.run events).state.totalCredits = (c.run events).state.availableCredits +
      (((c.run events).state.requests.values.filter (Outstanding (c.run events).outputs)).map
        (·.creditCharge.toNat)).sum ∧
    (c.run events).state.pendingExtraCredits =
      (((c.run events).state.requests.values.filter (Outstanding (c.run events).outputs)).map
        (·.requestedExtraCredits)).sum ∧
    ∀ key, ¬ (key ∈ rollbacks (c.run events).outputs ∧
      key ∈ grantedKeys (c.run events).outputs) := by
  have hl : Exact (c.run events) → Ledger (c.run events).outputs (c.run events).state := by
    refine c.run_meets (P := fun run => Exact run → Ledger run.outputs run.state) (fun _ => ?_) ?_ h
    · exact ⟨rfl, rfl, (fun _ _ h => nomatch h), (fun _ _ h => nomatch h),
        fun key h => (List.not_mem_nil (h.elim id id)).elim⟩
    · intro run event hs hc ih he
      have ho := he.overflows
      have hsat := he.saturated
      rw [Run.outputs_next, overflows_append, List.append_eq_nil_iff] at ho
      have hsat₀ := (reduce_moves hs.keyed event).saturated hs hsat
      rw [Run.outputs_next]
      exact (ih ⟨ho.1, hsat₀⟩).reduce hs hc ho.2 hsat
  have hl := hl he
  have hs := c.run_sound events
  refine ⟨?_, ?_, fun key hk => ?_⟩
  · rw [← hl.sum_owed hs]
    exact hl.total
  · rw [← hl.sum_owed hs]
    exact hl.pending
  · obtain ⟨r, hr⟩ := hl.known key (.inr hk.1)
    have h1 := ((hl.returned key r hr).mpr hk.1).2
    rw [(hl.seen key r hr).mpr hk.2] at h1
    cases h1

def twoCredits : Setup := ⟨⟨1⟩, 0, 2, 4, ⟨8, 1000⟩, 0⟩

def oneOwed : List OwnerEvent :=
  [.admitRequest 0 1 none, .admitRequest 0 1 none, .response ⟨⟨1⟩, 0⟩ .final 1]

theorem credits_conserved_oneOwed :
    (twoCredits.run oneOwed).state.totalCredits = (twoCredits.run oneOwed).state.availableCredits +
      (((twoCredits.run oneOwed).state.requests.values.filter
        (Outstanding (twoCredits.run oneOwed).outputs)).map (·.creditCharge.toNat)).sum ∧
    (twoCredits.run oneOwed).state.pendingExtraCredits =
      (((twoCredits.run oneOwed).state.requests.values.filter
        (Outstanding (twoCredits.run oneOwed).outputs)).map (·.requestedExtraCredits)).sum ∧
    ∀ key, ¬ (key ∈ rollbacks (twoCredits.run oneOwed).outputs ∧
      key ∈ grantedKeys (twoCredits.run oneOwed).outputs) :=
  credits_conserved twoCredits oneOwed ⟨by decide, by decide⟩ (by decide)

def answeredAfterCancel : Run GenerationState OwnerEvent OwnerEffect :=
  oneCredit.run [.admitRequest 0 1 none, .cancel ⟨⟨1⟩, 0⟩ 0, .response ⟨⟨1⟩, 0⟩ .final 0]

/-- A response to a request that was cancelled before it was sent settles the charge a second time.
-/
theorem credits_not_conserved :
    overflows answeredAfterCancel.outputs = [] ∧ answeredAfterCancel.state.saturated = false ∧
    answeredAfterCancel.state.totalCredits ≠ answeredAfterCancel.state.availableCredits +
      ((answeredAfterCancel.state.requests.values.filter
        (Outstanding answeredAfterCancel.outputs)).map (·.creditCharge.toNat)).sum ∧
    ∃ key ∈ rollbacks answeredAfterCancel.outputs,
    key ∈ grantedKeys answeredAfterCancel.outputs := by
  decide

end Runtime
