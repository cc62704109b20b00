import SmbClient.Runtime.Proof.Causes
import SmbClient.Runtime.Proof.Lifecycle

/-!
# The fate of a request, as its owner sees it

A request stays known and committed and a caller does not start to wait again
(`GenerationState.Onward`); it is denied the wire only while it waits and its request is not
committed (`denied_cause`).
-/

namespace Runtime

namespace GenerationState

section
variable (s : GenerationState) (key : RequestKey)

def isKnown : Bool := (s.request key).isSome

def isOpen : Bool := (s.request key).any RequestRecord.callerIsOpen

def isCommitted : Bool := (s.request key).any RequestRecord.wireCommitted

def isDenied : Bool := (s.terminalOutcome key).any TerminalOutcome.neverSent

variable {s key} {r : OwnedRequest}

theorem request_of_lookup (h : s.requests.lookup key = some r) :
    s.request key = some r.lifecycle := by
  rw [request, h]
  rfl

theorem isOpen_of_request {l : RequestRecord} (h : s.request key = some l) :
    s.isOpen key = l.callerIsOpen := by
  rw [isOpen, h, Option.any_some]

theorem isKnown_iff : s.isKnown key = true ↔ ∃ r, s.requests.lookup key = some r := by
  rw [isKnown, request, Option.isSome_map, Option.isSome_iff_exists]

theorem isOpen_iff : s.isOpen key = true ↔
    ∃ r, s.requests.lookup key = some r ∧ r.lifecycle.caller = .opened := by
  rw [isOpen, request]
  cases s.requests.lookup key with
  | none => simp
  | some r => simp [RequestRecord.callerIsOpen]

theorem isCommitted_iff : s.isCommitted key = true ↔
    ∃ r, s.requests.lookup key = some r ∧ r.lifecycle.wireCommitted = true := by
  rw [isCommitted, request]
  cases s.requests.lookup key with
  | none => simp
  | some r => simp

theorem isDenied_iff : s.isDenied key = true ↔
    ∃ o, s.terminalOutcome key = some o ∧ o.neverSent = true := by
  rw [isDenied, Option.any_eq_true]

theorem isKnown_of_isOpen (h : s.isOpen key = true) : s.isKnown key = true := by
  obtain ⟨r, hr, -⟩ := isOpen_iff.mp h
  exact isKnown_iff.mpr ⟨r, hr⟩

theorem terminalOutcome_of_isOpen (h : s.isOpen key = true) : s.terminalOutcome key = none := by
  obtain ⟨r, hr, ho⟩ := isOpen_iff.mp h
  rw [terminalOutcome_eq, hr]
  show r.lifecycle.outcome = none
  rw [RequestRecord.outcome, ho]

theorem isDenied_of_isOpen (h : s.isOpen key = true) : s.isDenied key = false := by
  rw [isDenied, terminalOutcome_of_isOpen h]
  rfl

theorem isKnown_of_outcome {o : TerminalOutcome} (h : s.terminalOutcome key = some o) :
    s.isKnown key = true := by
  rw [terminalOutcome_eq, Option.bind_eq_some_iff] at h
  obtain ⟨r, hr, -⟩ := h
  exact isKnown_iff.mpr ⟨r, hr⟩

theorem isOpen_or_outcome (h : s.isKnown key = true) :
    s.isOpen key = true ∨ ∃ o, s.terminalOutcome key = some o := by
  obtain ⟨r, hr⟩ := isKnown_iff.mp h
  cases hc : r.lifecycle.caller with
  | opened => exact .inl (isOpen_iff.mpr ⟨r, hr, hc⟩)
  | terminal o =>
    refine .inr ⟨o, ?_⟩
    rw [terminalOutcome_eq, hr]
    show r.lifecycle.outcome = some o
    rw [RequestRecord.outcome, hc]

end

/-! ## What no event takes back -/

structure Onward (s : GenerationState) (admitted : List PreparationPlan) (s' : GenerationState) :
    Prop where
  known : ∀ k, s.isKnown k = true → s'.isKnown k = true
  committed : ∀ k, s.isCommitted k = true → s'.isCommitted k = true
  opened : ∀ k, s'.isOpen k = true → s.isOpen k = true ∨ ∃ plan ∈ admitted, plan.key = k

theorem Onward.same {s s' : GenerationState} (h : s'.requests = s.requests) : Onward s [] s' := by
  have hr : ∀ k, s'.request k = s.request k := fun k => by rw [request, request, h]
  exact ⟨fun k hk => by rwa [isKnown, hr], fun k hk => by rwa [isCommitted, hr],
    fun k hk => .inl (by rwa [isOpen, hr] at hk)⟩

theorem Onward.trans {s s' s'' : GenerationState} {ps qs : List PreparationPlan}
    (h : Onward s ps s') (h' : Onward s' qs s'') : Onward s (ps ++ qs) s'' where
  known k hk := h'.known k (h.known k hk)
  committed k hk := h'.committed k (h.committed k hk)
  opened k hk := by
    rcases h'.opened k hk with hk | ⟨plan, hp, he⟩
    · rcases h.opened k hk with hk | ⟨plan, hp, he⟩
      · exact .inl hk
      · exact .inr ⟨plan, List.mem_append_left _ hp, he⟩
    · exact .inr ⟨plan, List.mem_append_right _ hp, he⟩

end GenerationState

open GenerationState

section
variable {s s' : GenerationState} {event : OwnerEvent} {key : RequestKey} {r r' : OwnedRequest}
  {effects : List OwnerEffect}
variable {o : TerminalOutcome} {k : RequestKey}

theorem Touch.onward (h : Touch s event key r r' effects s') : Onward s [] s' where
  known k hk := by
    rw [isKnown_iff] at hk ⊢
    obtain ⟨r₁, hr⟩ := hk
    rw [h.lookup]
    split
    · exact ⟨r', rfl⟩
    · exact ⟨r₁, hr⟩
  committed k hk := by
    rw [isCommitted_iff] at hk ⊢
    obtain ⟨r₁, hr, hc⟩ := hk
    rw [h.lookup]
    split
    · rename_i he
      subst he
      rw [h.found, Option.some.injEq] at hr
      subst hr
      exact ⟨r', rfl, h.committed hc⟩
    · exact ⟨r₁, hr, hc⟩
  opened k hk := by
    rw [isOpen_iff] at hk
    obtain ⟨r₁, hr, ho⟩ := hk
    rw [h.lookup] at hr
    split at hr
    · rename_i he
      obtain rfl := Option.some.inj hr
      subst he
      exact .inl (isOpen_iff.mpr ⟨r, h.found, h.opened ho⟩)
    · exact .inl (isOpen_iff.mpr ⟨r₁, hr, ho⟩)

theorem Admission.onward {plan : PreparationPlan} (h : Admission s plan s') (hs : s.Sound) :
    Onward s [plan] s' where
  known k hk := by
    rw [isKnown_iff] at hk ⊢
    rw [h.lookup]
    split
    · exact ⟨_, rfl⟩
    · exact hk
  committed k hk := by
    rw [isCommitted_iff] at hk ⊢
    obtain ⟨r₁, hr, hc⟩ := hk
    rw [h.lookup]
    split
    · rename_i he
      rw [he, h.fresh hs] at hr
      cases hr
    · exact ⟨r₁, hr, hc⟩
  opened k hk := by
    rw [isOpen_iff] at hk
    obtain ⟨r₁, hr, ho⟩ := hk
    rw [h.lookup] at hr
    split at hr
    · rename_i he
      exact .inr ⟨plan, List.mem_singleton_self plan, he.symm⟩
    · exact .inl (isOpen_iff.mpr ⟨r₁, hr, ho⟩)

theorem Move.onward (h : Move event s effects s') (hs : s.Sound) : Onward s (plans effects) s' := by
  cases h with
  | idle _ quiet _ state =>
    rw [quiet.plans, state]
    exact .same rfl
  | admitted _ _ _ _ _ _ told ha =>
    rw [told]
    exact ha.onward hs
  | touch _ _ _ ht _ =>
    rw [ht.plans]
    exact ht.onward
  | stale _ _ _ _ _ _ quiet _ _ state =>
    rw [quiet.plans, state]
    exact .same rfl
  | expired _ _ _ _ _ _ _ _ _ _ _ ht =>
    rw [ht.plans]
    have popped : Onward s [] { s with deadlines := s.deadlines.pop } := .same rfl
    exact popped.trans ht.onward

theorem Moves.onward (h : Moves event s effects s') (hs : s.Sound) :
    Onward s (plans effects) s' := by
  induction h with
  | nil s => exact .same rfl
  | cons move _ ih =>
    rw [plans_append]
    exact (move.onward hs).trans (ih (move.sound hs))

/-- **Every event leads onward**: what is known, sent or ended stays so. -/
theorem GenerationState.Sound.onward (hs : s.Sound) (event : OwnerEvent) :
    Onward s (plans (s.reduce event).2) (s.reduce event).1 :=
  (reduce_moves hs.keyed event).onward hs

theorem GenerationState.Sound.plans_nil (hs : s.Sound)
    (h : ∀ payload charge deadline, event ≠ .admitRequest payload charge deadline) :
    plans (s.reduce event).2 = [] := by
  refine List.eq_nil_iff_forall_not_mem.mpr fun plan hp => ?_
  obtain ⟨payload, charge, deadline, he⟩ := (reduce_moves hs.keyed event).admits hp
  exact h payload charge deadline he

theorem GenerationState.Sound.onward_unplanned (hs : s.Sound)
    (h : ∀ payload charge deadline, event ≠ .admitRequest payload charge deadline) :
    Onward s [] (s.reduce event).1 := by
  have ho := hs.onward event
  rwa [hs.plans_nil h] at ho

/-! ## Who is denied the wire -/

def OwnerEvent.MayEnd (s : GenerationState) (key : RequestKey) : OwnerEvent → Prop
  | .prepareFailed k | .cancel k _ => k = key
  | .advanceTime now => ∃ r, s.Due now key r
  | .disconnect _ => True
  | .admitRequest .. | .request .. | .response .. | .recoveryHint _ => False

theorem publications_requestEvent (s : GenerationState) (key : RequestKey)
    (progress : RequestProgress) : publications (s.requestEvent key progress).2 = [] := by
  have silent (r : RequestRecord) :
      publications [.request key (r.reduce (progressEvent progress)).2] = [] := by
    refine List.eq_nil_iff_forall_not_mem.mpr fun ⟨k, o⟩ h => ?_
    have tells := RequestRecord.reduce_tells (mem_publications_request h).2
    cases progress <;> exact tells
  unfold requestEvent
  split
  · rfl
  split
  · rfl
  · exact silent _

theorem publications_recoveryHint
    (h : (k, o) ∈ publications (s.recoveryHint key).2) : k = key ∧ o = .sessionInvalidated := by
  unfold recoveryHint at h
  split at h
  · cases h
  split at h
  · cases h
  · obtain ⟨hk, he⟩ := mem_publications_request h
    exact ⟨hk, RequestRecord.reduce_tells he⟩

/-- A response publishes for its own request, and only if it is final. -/
theorem publications_response {answer : ResponseEvent} {grant : UInt16}
    (h : (k, o) ∈ publications (s.response key answer grant).2) :
    k = key ∧ o = .response ∧ answer = .final := by
  have final : ∀ {r : RequestRecord} {effects : List OwnerEffect}, publications effects = [] →
      (k, o) ∈ publications (.request key (r.reduce (.finalResponse key)).2 :: effects) →
      k = key ∧ o = .response := by
    intro r effects hq h
    rw [← List.singleton_append, publications_append, hq, List.append_nil] at h
    obtain ⟨hk, he⟩ := mem_publications_request h
    exact ⟨hk, RequestRecord.reduce_tells he⟩
  unfold response at h
  split at h
  · cases h
  split at h
  · cases h
  split at h
  · cases h
  split at h
  · cases h
  split at h
  · cases h
  dsimp only at h
  split at h
  · cases h
  cases answer with
  | pending asyncId =>
    obtain ⟨-, he⟩ := mem_publications_request h
    have tells : (RequestEvent.asyncPending key asyncId).Tells o := RequestRecord.reduce_tells he
    exact tells.elim
  | final =>
    dsimp only [acceptFinal] at h
    split at h
    · obtain ⟨hk, ho⟩ := final rfl h
      exact ⟨hk, ho, rfl⟩
    · obtain ⟨hk, ho⟩ := final rfl h
      exact ⟨hk, ho, rfl⟩

/-- An outcome is published for an open request, and one of a request never sent before it was sent.
-/
theorem Moves.publications_open (h : Moves event s effects s') (hs : s.Sound)
    (hn : plans effects = []) (hk : (key, o) ∈ publications effects) :
    s.isOpen key = true ∧ (o.neverSent = true → s.isCommitted key = false) := by
  have touched : ∀ {s s' : GenerationState} {k : RequestKey} {r r' : OwnedRequest} {effects},
      Touch s event k r r' effects s' → (key, o) ∈ publications effects →
      s.isOpen key = true ∧ (o.neverSent = true → s.isCommitted key = false) := by
    intro s s' k r r' effects ht hk
    rcases ht.caller with ⟨hp, -⟩ | ⟨o', hp, ho, -, hn⟩
    · rw [hp] at hk
      cases hk
    · rw [hp, List.mem_singleton] at hk
      obtain ⟨rfl, rfl⟩ := hk
      refine ⟨isOpen_iff.mpr ⟨r, ht.found, ho⟩, fun h => Bool.eq_false_iff.mpr fun hc => ?_⟩
      obtain ⟨r₁, hr, hc⟩ := isCommitted_iff.mp hc
      rw [ht.found, Option.some.injEq] at hr
      subst hr
      rw [hn h] at hc
      cases hc
  induction h with
  | nil => cases hk
  | cons move _ ih =>
    rw [plans_append, List.append_eq_nil_iff] at hn
    rw [publications_append, List.mem_append] at hk
    rcases hk with hk | hk
    · cases move with
      | idle _ quiet => rw [quiet.publications] at hk; cases hk
      | admitted _ _ _ _ _ _ told => rw [told] at hk; cases hk
      | touch _ _ _ ht _ => exact touched ht hk
      | stale _ _ _ _ _ _ quiet => rw [quiet.publications] at hk; cases hk
      | expired _ _ _ _ _ _ _ _ _ _ _ ht =>
        have h := touched ht hk
        exact h
    · -- What a later move finds was so at the start.
      obtain ⟨ho, hc⟩ := ih (move.sound hs) hn.2 hk
      have hw := move.onward hs
      rw [hn.1] at hw
      refine ⟨(hw.opened _ ho).resolve_right (by simp), fun h => ?_⟩
      exact Bool.eq_false_iff.mpr fun hc' => Bool.eq_false_iff.mp (hc h) (hw.committed _ hc')

theorem Move.publications_aimed (h : Move event s effects s')
    (ht : ∀ now, event ≠ .advanceTime now) (hk : (key, o) ∈ publications effects) :
    event.Aims key := by
  cases h with
  | idle _ quiet => rw [quiet.publications] at hk; cases hk
  | admitted _ _ _ _ _ _ told => rw [told] at hk; cases hk
  | touch _ _ _ touch _ =>
    rcases touch.caller with ⟨hp, -⟩ | ⟨o', hp, -⟩
    · rw [hp] at hk
      cases hk
    · rw [hp, List.mem_singleton, Prod.mk.injEq] at hk
      rw [hk.1]
      exact touch.aims
  | stale now _ _ time => exact absurd time (ht now)
  | expired now _ _ _ time => exact absurd time (ht now)

/-- A request is told that it was never sent only while that is so. -/
theorem publications_cause (hs : s.Sound)
    (hk : (key, o) ∈ publications (s.reduce event).2) (ho : o.neverSent = true) :
    s.isOpen key = true ∧ s.isCommitted key = false ∧ event.MayEnd s key := by
  have general : plans (s.reduce event).2 = [] → event.MayEnd s key →
      s.isOpen key = true ∧ s.isCommitted key = false ∧ event.MayEnd s key := by
    intro hn he
    obtain ⟨h₁, h₂⟩ := (reduce_moves hs.keyed event).publications_open hs hn hk
    exact ⟨h₁, h₂ ho, he⟩
  cases event with
  | admitRequest payload charge deadline =>
    exact ((s.admitRequest_move payload charge deadline).publications_aimed (by simp) hk).elim
  | request k progress =>
    change (key, o) ∈ publications (s.requestEvent k progress).2 at hk
    rw [publications_requestEvent] at hk
    cases hk
  | prepareFailed k =>
    exact general (hs.plans_nil (by simp))
      ((s.prepareFailed_move k).publications_aimed (by simp) hk)
  | cancel k now =>
    exact general (hs.plans_nil (by simp))
      ((s.cancel_move k now).publications_aimed (by simp) hk)
  | response k answer grant =>
    obtain ⟨-, rfl, -⟩ := publications_response (s := s) hk
    cases ho
  | recoveryHint k =>
    obtain ⟨-, rfl⟩ := publications_recoveryHint (s := s) hk
    cases ho
  | advanceTime now =>
    exact general (hs.plans_nil (by simp))
      ((reduce_moves hs.keyed (.advanceTime now)).publications_due (.refl s) hk)
  | disconnect network => exact general (hs.plans_nil (by simp)) trivial

/-- An outcome is never replaced. -/
theorem GenerationState.Sound.outcome_stays (hs : s.Sound)
    (h : s.terminalOutcome key = some o) (event : OwnerEvent) :
    (s.reduce event).1.terminalOutcome key = some o := by
  have htold := (reduce_moves hs.keyed event).toldTo hs key
  rw [h] at htold
  cases ho : (s.reduce event).1.terminalOutcome key with
  | none =>
    rw [ho] at htold
    cases htold
  | some o' =>
    rw [ho] at htold
    rw [(List.cons_eq_cons.mp htold).1]

theorem GenerationState.Sound.outcome_untold (hs : s.Sound)
    (h : ∀ o, (key, o) ∉ publications (s.reduce event).2) :
    (s.reduce event).1.terminalOutcome key = s.terminalOutcome key := by
  have htold := (reduce_moves hs.keyed event).toldTo hs key
  have hnone : Runtime.toldTo key (s.reduce event).2 = [] := by
    refine List.eq_nil_iff_forall_not_mem.mpr fun o ho => ?_
    obtain ⟨⟨k, o'⟩, hp, he⟩ := List.mem_filterMap.mp ho
    by_cases hk : k = key
    · subst hk
      exact h o' hp
    · rw [if_neg hk] at he
      cases he
  rw [hnone] at htold
  simpa using (congrArg List.head? htold).symm

/-- **An outcome is published once**, when it is recorded. -/
theorem GenerationState.Sound.outcome_told (hs : s.Sound)
    (h : (key, o) ∈ publications (s.reduce event).2) :
    s.terminalOutcome key = none ∧ (s.reduce event).1.terminalOutcome key = some o ∧
      (publications (s.reduce event).2).filter (·.1 = key) = [(key, o)] := by
  have htold := (reduce_moves hs.keyed event).toldTo hs key
  have hmem : o ∈ Runtime.toldTo key (s.reduce event).2 :=
    List.mem_filterMap.mpr ⟨(key, o), h, if_pos rfl⟩
  have hlength := length_toldTo key (s.reduce event).2
  cases hbefore : s.terminalOutcome key with
  | some o' =>
    rw [hbefore, hs.outcome_stays hbefore event] at htold
    rw [List.append_right_eq_self.mp htold] at hmem
    cases hmem
  | none =>
    rw [hbefore, Option.toList_none, List.nil_append] at htold
    cases hafter : (s.reduce event).1.terminalOutcome key with
    | none =>
      rw [htold, hafter] at hmem
      cases hmem
    | some o' =>
      rw [htold, hafter] at hmem hlength
      obtain rfl := List.mem_singleton.mp hmem
      refine ⟨rfl, rfl, ?_⟩
      obtain ⟨p, hp⟩ := List.length_eq_one_iff.mp hlength.symm
      have hin : (key, o) ∈ (publications (s.reduce event).2).filter (·.1 = key) :=
        List.mem_filter.mpr ⟨h, decide_eq_true rfl⟩
      rw [hp] at hin ⊢
      rw [List.mem_singleton.mp hin]

theorem Move.answered (h : Move event s effects s') (hk : (key, .response) ∈ publications effects) :
    ∃ k answer grant, event = .response k answer grant := by
  have touched {s s' : GenerationState} {k : RequestKey} {r r' : OwnedRequest}
      (ht : Touch s event k r r' effects s') :
      ∃ k answer grant, event = .response k answer grant := by
    rcases ht.caller with ⟨hp, -⟩ | ⟨o, hp, -⟩
    · rw [hp] at hk
      cases hk
    · have hmem := hk
      rw [hp, List.mem_singleton, Prod.mk.injEq] at hmem
      exact ⟨k, ht.answered (hmem.1 ▸ hk)⟩
  cases h with
  | idle _ quiet => rw [quiet.publications] at hk; cases hk
  | admitted _ _ _ _ _ _ told => rw [told] at hk; cases hk
  | touch _ _ _ ht _ => exact touched ht
  | stale _ _ _ _ _ _ quiet => rw [quiet.publications] at hk; cases hk
  | expired _ _ _ _ _ _ _ _ _ _ _ ht => exact touched ht

theorem Moves.answered (h : Moves event s effects s')
    (hk : (key, .response) ∈ publications effects) :
    ∃ k answer grant, event = .response k answer grant := by
  induction h with
  | nil => cases hk
  | cons move _ ih =>
    rw [publications_append, List.mem_append] at hk
    rcases hk with hk | hk
    · exact move.answered hk
    · exact ih hk

theorem Touch.wireCancels_told (h : Touch s event k r r' effects s')
    (hk : key ∈ wireCancels effects) : ∃ o, (key, o) ∈ publications effects := by
  rcases h.deadline.wireCancels with hw | ⟨hw, ho, hc, -⟩
  · rw [hw] at hk
    cases hk
  · rw [hw, List.mem_singleton] at hk
    subst hk
    rcases h.caller with ⟨-, hsame⟩ | ⟨o, hp, -⟩
    · exact absurd (hsame.trans ho) hc
    · exact ⟨o, by rw [hp]; exact List.mem_singleton_self _⟩

theorem Move.wireCancels_told (h : Move event s effects s') (hk : key ∈ wireCancels effects) :
    ∃ o, (key, o) ∈ publications effects := by
  cases h with
  | idle _ quiet => rw [quiet.wireCancels] at hk; cases hk
  | admitted _ _ _ _ _ _ told => rw [told] at hk; cases hk
  | touch _ _ _ ht _ => exact ht.wireCancels_told hk
  | stale _ _ _ _ _ _ quiet => rw [quiet.wireCancels] at hk; cases hk
  | expired _ _ _ _ _ _ _ _ _ _ _ ht => exact ht.wireCancels_told hk

/-- A request is cancelled on the wire only when its caller is told. -/
theorem Moves.wireCancels_told (h : Moves event s effects s') (hk : key ∈ wireCancels effects) :
    ∃ o, (key, o) ∈ publications effects := by
  induction h with
  | nil => cases hk
  | cons move _ ih =>
    rw [wireCancels_append, List.mem_append] at hk
    rw [publications_append]
    rcases hk with hk | hk
    · obtain ⟨o, ho⟩ := move.wireCancels_told hk
      exact ⟨o, List.mem_append_left _ ho⟩
    · obtain ⟨o, ho⟩ := ih hk
      exact ⟨o, List.mem_append_right _ ho⟩

/-- **A request is denied only while it is open and not sent**, by an event that may end it. -/
theorem denied_cause (hs : s.Sound) (h : (s.reduce event).1.isDenied key = true) :
    s.isDenied key = true ∨
      (s.isOpen key = true ∧ s.isCommitted key = false ∧ event.MayEnd s key) := by
  obtain ⟨o, ho, hn⟩ := isDenied_iff.mp h
  have htold := (reduce_moves hs.keyed event).toldTo hs key
  rw [ho] at htold
  cases hbefore : s.terminalOutcome key with
  | some o' =>
    rw [hbefore] at htold
    obtain rfl : o' = o := (List.cons_eq_cons.mp htold).1
    exact .inl (isDenied_iff.mpr ⟨_, hbefore, hn⟩)
  | none =>
    rw [hbefore, Option.toList_none, List.nil_append] at htold
    refine .inr (publications_cause hs ?_ hn)
    have hmem : o ∈ Runtime.toldTo key
        (s.reduce event).2 := by rw [htold]; exact List.mem_singleton_self o
    obtain ⟨⟨k, o'⟩, hp, he⟩ := List.mem_filterMap.mp hmem
    split at he
    · rename_i hk
      cases he
      exact hk ▸ hp
    · cases he

end

/-! ## What single events leave -/

section
variable {s : GenerationState} {key : RequestKey} {r : OwnedRequest}

theorem request_of_insert {t : Table RequestKey OwnedRequest} {l : RequestRecord}
    (h : s.requests = t.insert key r) (hl : r.lifecycle = l) : s.request key = some l := by
  rw [← hl]
  exact request_of_lookup (by rw [h, AList.lookup_insert])

theorem request_put_rollback : ((s.put key r).rollback key).1.request key = some r.lifecycle := by
  rcases s.put_rollback_cases key r with h | ⟨-, h⟩ | ⟨-, -, h⟩
  · rw [h]
    exact request_of_lookup (s.lookup_put key r)
  · rw [h]
    exact request_of_insert rfl rfl
  · rw [h, s.put_releaseRequestOwnership]
    exact request_of_insert rfl rfl

theorem request_put_settleUnanswered (now : MonotonicTime) (committed : Bool) :
    ((s.put key r).settleUnanswered key now committed).1.request key = some r.lifecycle := by
  unfold settleUnanswered
  split
  · rcases s.put_scheduleDeadline_cases key r
      (MonotonicTime.saturatingAdd now (s.put key r).tombstoneDrainTimeout) .tombstone with ⟨-, h⟩ |
      h
    · rw [h]
      exact request_of_lookup (s.lookup_put key r)
    · rw [h]
      exact request_of_insert rfl rfl
  · exact request_put_rollback

section

variable (hs : s.Sound)
include hs

theorem request_requestEvent (h : s.requests.lookup key = some r)
    (progress : RequestProgress) : (s.requestEvent key progress).1.request key =
      some (r.lifecycle.reduce (progressEvent progress)).1 := by
  unfold requestEvent
  rw [if_neg (not_not.mpr (hs.generation key r h)), h]
  dsimp only
  split
  · rw [s.put_releasePayload]
    exact request_of_insert rfl rfl
  · exact request_of_lookup (s.lookup_put key _)

theorem committed_progress (h : s.isKnown key = true) {progress : RequestProgress}
    (hp : progress = .writeComplete ∨ ∃ bytes, 0 < bytes ∧ progress = .writeProgress bytes) :
    (s.reduce (.request key progress)).1.isCommitted key = true := by
  obtain ⟨r, hr⟩ := isKnown_iff.mp h
  show ((s.requestEvent key progress).1.request key).any _ = true
  rw [request_requestEvent hs hr, Option.any_some]
  rcases hp with rfl | ⟨bytes, hb, rfl⟩
  · rfl
  simp only [progressEvent, RequestRecord.reduce]
  split
  · rfl
  rename_i hn
  have hsend : r.lifecycle.send = .complete := by
    by_contra hc
    exact hn ⟨hb, hc⟩
  rw [RequestRecord.wireCommitted, hsend]
  rfl

theorem closed_cancel (key : RequestKey) (now : MonotonicTime) :
    (s.reduce (.cancel key now)).1.isOpen key = false := by
  refine Bool.eq_false_iff.mpr fun hopen => ?_
  have hbefore : s.isOpen key = true :=
    ((hs.onward_unplanned (by simp)).opened key hopen).resolve_right (by simp)
  obtain ⟨r, hr, ho⟩ := isOpen_iff.mp hbefore
  have hseen : ¬ r.cancelSeen := fun h => (hs.records key r hr).cancelSeen h ho
  change ((s.cancel key now).1.request key).any _ = true at hopen
  unfold GenerationState.cancel at hopen
  rw [if_neg (not_not.mpr (hs.generation key r hr)), hr] at hopen
  dsimp only at hopen
  rw [if_neg hseen, if_neg (by simp [RequestRecord.callerIsOpen, ho])] at hopen
  rw [request_put_settleUnanswered] at hopen
  exact r.lifecycle.finishWithoutResponse_closed .cancelled (of_decide_eq_true hopen)

theorem closed_prepareFailed (h : s.isCommitted key = false) :
    (s.reduce (.prepareFailed key)).1.isOpen key = false := by
  refine Bool.eq_false_iff.mpr fun hopen => ?_
  have hbefore : s.isOpen key = true :=
    ((hs.onward_unplanned (by simp)).opened key hopen).resolve_right (by simp)
  obtain ⟨r, hr, -⟩ := isOpen_iff.mp hbefore
  have hc : ¬ r.lifecycle.wireCommitted := fun hc =>
    Bool.eq_false_iff.mp h (isCommitted_iff.mpr ⟨r, hr, hc⟩)
  change ((s.prepareFailed key).1.request key).any _ = true at hopen
  unfold GenerationState.prepareFailed at hopen
  rw [if_neg (not_not.mpr (hs.generation key r hr)), hr] at hopen
  dsimp only at hopen
  rw [if_neg hc] at hopen
  rw [request_put_rollback] at hopen
  exact r.lifecycle.publishOnce_closed .preparationFailed (of_decide_eq_true hopen)

theorem told_recoveryHint (h : s.isOpen key = true) :
    (key, .sessionInvalidated) ∈ publications (s.reduce (.recoveryHint key)).2 := by
  obtain ⟨r, hr, ho⟩ := isOpen_iff.mp h
  change (key, _) ∈ publications (s.recoveryHint key).2
  unfold recoveryHint
  rw [if_neg (not_not.mpr (hs.generation key r hr)), hr]
  dsimp only
  have hkey : r.lifecycle.key = key := hs.keyed key r hr
  rw [RequestRecord.reduce, if_neg (by simp [hkey]), if_neg (by simp [hkey]),
    RequestRecord.publishOnce, if_pos ho]
  exact List.mem_singleton_self _

end

/-- A disconnect ends every request. -/
theorem closed_disconnect (network : Option NetworkFailure) :
    (s.reduce (.disconnect network)).1.isOpen key = false := by
  refine Bool.eq_false_iff.mpr fun hopen => ?_
  obtain ⟨r, hr, ho⟩ := isOpen_iff.mp hopen
  exact (s.disconnect_over network key r hr).closed ho

end

end Runtime
