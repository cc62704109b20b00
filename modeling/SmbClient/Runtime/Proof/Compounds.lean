import SmbClient.Runtime.Proof.Served
import SmbClient.Runtime.Proof.Responses

/-!
# Compounds: all members or none

`Reserved s₀ plans s`: the plans admitted since `s₀` hold what is missing from its accounts, so that
abandoning all of them restores the accounts.
-/

namespace Runtime

namespace GenerationState

variable {s s' s₀ : GenerationState} {plan : PreparationPlan} {plans : List PreparationPlan}
  {key : RequestKey} {r : OwnedRequest} {payload : ℕ} {charge : UInt16}
  {deadline : Option MonotonicTime}

/-! ## The accounts -/

structure Accounts where
  availableCredits : ℕ
  totalCredits : ℕ
  pendingExtraCredits : ℕ
  admittedOperations : ℕ
  retainedPayloadBytes : ℕ

def accounts (s : GenerationState) : Accounts :=
  ⟨s.availableCredits, s.totalCredits, s.pendingExtraCredits, s.admittedOperations,
    s.retainedPayloadBytes⟩

structure Bounded (s : GenerationState) : Prop where
  available : s.availableCredits < 2 ^ 32
  pending : s.pendingExtraCredits < 2 ^ 32
  target : s.targetCredits < 2 ^ 32

theorem Bounded.extra_lt (h : s.Bounded) (charge : UInt16) :
    s.pendingExtraCredits + (s.creditRequest charge - charge.toNat) < 2 ^ 32 := by
  have hpending := h.pending
  have htarget := h.target
  simp only [creditRequest, Machine.saturatingAdd, Machine.maxValue]
  omega

/-! ## One admission -/

theorem admitRequest_cases (s : GenerationState) (payload : ℕ) (charge : UInt16)
    (deadline : Option MonotonicTime) :
    (∃ error, s.admitRequest payload charge deadline = (s, .admissionRejected error)) ∨
    ∃ plan, (s.admitRequest payload charge deadline).2 = .admitted plan ∧
      plan.payloadBytes = payload ∧ plan.creditCharge = charge ∧ plan.callerDeadline = deadline ∧
      plan.creditRequest = s.creditRequest charge ∧
      (s.admitRequest payload charge deadline).1.targetCredits = s.targetCredits := by
  unfold admitRequest
  split
  · exact .inl ⟨_, rfl⟩
  split
  · exact .inl ⟨_, rfl⟩
  rename_i id _
  refine .inr ⟨⟨⟨s.generation, id⟩, payload, charge, s.creditRequest charge, deadline⟩,
    ?_, rfl, rfl,
    rfl, rfl, ?_⟩
  · cases deadline <;> rfl
  · cases deadline with
    | none => rfl
    | some time =>
      dsimp only [scheduleDeadline]
      split
      · rfl
      · split <;> rfl

/-! ## What was admitted is held -/

structure Reserved (s₀ : GenerationState) (plans : List PreparationPlan) (s : GenerationState) :
    Prop where
  generation : ∀ plan ∈ plans, plan.key.generation = s.generation
  distinct : (plans.map (·.key)).Nodup
  earlier : ∀ plan ∈ plans, ∀ next, s.nextMessageId = some next → plan.key.messageId < next
  records : ∀ plan ∈ plans, s.requests.lookup plan.key = some plan.record
  available : s.availableCredits + (plans.map (·.creditCharge.toNat)).sum = s₀.availableCredits
  total : s.totalCredits = s₀.totalCredits
  pending : s.pendingExtraCredits =
    s₀.pendingExtraCredits + (plans.map (·.record.requestedExtraCredits)).sum
  operations : s.admittedOperations = s₀.admittedOperations + plans.length
  bytes : s.retainedPayloadBytes = s₀.retainedPayloadBytes + (plans.map (·.payloadBytes)).sum

theorem Reserved.refl (s : GenerationState) : Reserved s [] s := by
  constructor <;> simp

theorem Reserved.accounts (h : Reserved s₀ [] s) : s.accounts = s₀.accounts := by
  have havailable := h.available
  have hpending := h.pending
  have hoperations := h.operations
  have hbytes := h.bytes
  simp only [List.map_nil, List.sum_nil, Nat.add_zero] at *
  simp [GenerationState.accounts, havailable, h.total, hpending, hoperations, hbytes]

theorem Reserved.admitted (h : Reserved s₀ plans s) (admission : Admission s plan s')
    (hpending : s'.pendingExtraCredits =
      s.pendingExtraCredits + plan.record.requestedExtraCredits) :
    Reserved s₀ (plans ++ [plan]) s' := by
  have hbefore : ∀ p ∈ plans, p.key.messageId < plan.key.messageId := fun p hp =>
    h.earlier p hp _ admission.messageId
  have hne : ∀ p ∈ plans, p.key ≠ plan.key := by
    intro p hp he
    have := hbefore p hp
    rw [he] at this
    exact lt_irrefl _ this
  have hcharge := admission.charge
  refine ⟨?_, ?_, ?_, ?_, ?_, admission.total.trans h.total, ?_, ?_, ?_⟩
  · intro p hp
    rw [admission.sameGeneration]
    rcases List.mem_append.mp hp with hp | hp
    · exact h.generation p hp
    · rw [List.mem_singleton.mp hp]
      exact admission.generation
  · rw [List.map_append, List.nodup_append]
    refine ⟨h.distinct, by simp, ?_⟩
    intro k hk k' hk'
    obtain ⟨p, hp, rfl⟩ := List.mem_map.mp hk
    rw [List.map_singleton, List.mem_singleton] at hk'
    exact hk' ▸ hne p hp
  · intro p hp next hnext
    rw [admission.nextMessageId] at hnext
    have hsum := Machine.checkedAdd_eq_some.mp hnext
    rcases List.mem_append.mp hp with hp | hp
    · have := hbefore p hp
      omega
    · rw [List.mem_singleton.mp hp]
      omega
  · intro p hp
    rw [admission.requests, Table.lookup_insert_eq]
    rcases List.mem_append.mp hp with hp | hp
    · rw [if_neg (hne p hp)]
      exact h.records p hp
    · rw [List.mem_singleton.mp hp, if_pos rfl]
  · rw [admission.available, ← h.available, List.map_append, List.sum_append, List.map_singleton,
      List.sum_singleton]
    omega
  · rw [hpending, h.pending, List.map_append, List.sum_append, List.map_singleton,
      List.sum_singleton, Nat.add_assoc]
  · rw [admission.admitted, h.operations, List.length_append, List.length_singleton, Nat.add_assoc]
  · rw [admission.retained, h.bytes, List.map_append, List.sum_append, List.map_singleton,
      List.sum_singleton, Nat.add_assoc]

/-! ## What is abandoned is given back -/

theorem put_rollback_obliged (hobliged : r.creditObligation = true)
    (hfits : s.availableCredits + r.creditCharge.toNat < 2 ^ 32) :
    (s.put key r).rollback key = (s.rolledBack key r, true) := by
  have hgiven : ((s.put key r).rollback key).2 = true := by
    have hsum : Machine.checkedAdd 32 (s.put key r).availableCredits r.creditCharge.toNat =
        some (s.availableCredits + r.creditCharge.toNat) :=
      Machine.checkedAdd_eq_some.mpr ⟨hfits, rfl⟩
    simp [rollback, lookup_put, hobliged, hsum]
  rcases s.put_rollback_cases key r with h | ⟨-, h⟩ | ⟨h, -⟩
  · rw [h] at hgiven
    cases hgiven
  · exact h
  · rw [hobliged] at h
    cases h

/-- Abandoning a plan gives back what it took. -/
theorem Reserved.abandoned (h : Reserved s₀ (plan :: plans) s)
    (hfits : s₀.availableCredits < 2 ^ 32) :
    Reserved s₀ plans (s.prepareFailed plan.key).1 := by
  have hrecord := h.records plan List.mem_cons_self
  have havailable := h.available
  have hpending := h.pending
  have hoperations := h.operations
  have hbytes := h.bytes
  have hdistinct : plan.key ∉ plans.map (·.key) ∧ (plans.map (·.key)).Nodup :=
    List.nodup_cons.mp h.distinct
  simp only [List.map_cons, List.sum_cons, List.length_cons]
    at havailable hpending hoperations hbytes
  have huncommitted : plan.record.lifecycle.wireCommitted = false := rfl
  unfold prepareFailed
  rw [if_neg (not_not_intro (h.generation plan List.mem_cons_self)), hrecord]
  simp only [huncommitted, Bool.false_eq_true, if_false]
  rw [put_rollback_obliged rfl
    (by show s.availableCredits + plan.creditCharge.toNat < 2 ^ 32; omega)]
  refine ⟨?_, hdistinct.2, ?_, ?_, ?_, h.total, ?_, ?_, ?_⟩
  · intro p hp
    exact h.generation p (List.mem_cons_of_mem _ hp)
  · intro p hp
    exact h.earlier p (List.mem_cons_of_mem _ hp)
  · intro p hp
    have hne : p.key ≠ plan.key := fun he => hdistinct.1 (he ▸ List.mem_map_of_mem hp)
    show (s.requests.insert plan.key _).lookup p.key = _
    rw [Table.lookup_insert_eq, if_neg hne]
    exact h.records p (List.mem_cons_of_mem _ hp)
  · show s.availableCredits + plan.creditCharge.toNat + _ = _
    omega
  · show s.pendingExtraCredits - plan.record.requestedExtraCredits = _
    omega
  · show s.admittedOperations - 1 = _
    omega
  · show s.retainedPayloadBytes - plan.payloadBytes = _
    omega

/-! ## Known requests -/

theorem isKnown_insert {k : RequestKey} (h : s'.requests = s.requests.insert key r)
    (hk : s.isKnown k = true) : s'.isKnown k = true := by
  obtain ⟨r', hr'⟩ := isKnown_iff.mp hk
  refine isKnown_iff.mpr ?_
  rw [h, Table.lookup_insert_eq]
  split
  · exact ⟨_, rfl⟩
  · exact ⟨_, hr'⟩

theorem isKnown_released {k : RequestKey} (hk : s.isKnown k = true) :
    ((s.put key r).releaseRequestOwnership key).isKnown k = true := by
  rw [put_releaseRequestOwnership]
  exact isKnown_insert rfl hk

theorem response_known (s : GenerationState) (key : RequestKey) (event : ResponseEvent)
    (grant : UInt16) : Runtime.plans (s.response key event grant).2 = [] ∧
      ∀ k, s.isKnown k = true → (s.response key event grant).1.isKnown k = true := by
  have hstep := s.response_step key event grant
  generalize (s.response key event grant).1 = s', (s.response key event grant).2 =
    effects at hstep ⊢
  cases hstep with
  | ignored _ _ effect told =>
    refine ⟨?_, fun _ hk => hk⟩
    rcases told with rfl | rfl | rfl <;> rfl
  | conflict => exact ⟨rfl, fun _ hk => hk⟩
  | changed => exact ⟨rfl, fun _ hk => hk⟩
  | overflowed => exact ⟨rfl, fun _ hk => isKnown_insert rfl hk⟩
  | acceptedPending => exact ⟨rfl, fun _ hk => isKnown_insert rfl hk⟩
  | acceptedFinal _ r saturated available =>
    have hforgotten : ∀ k, s.isKnown k = true →
        ((s.credited r grant saturated available).forgetAsync r.lifecycle.response).isKnown
        k = true := by
      intro k hk
      unfold forgetAsync
      split <;> exact hk
    unfold acceptFinal
    dsimp only
    split
    · exact ⟨rfl, fun k hk => isKnown_released (hforgotten k hk)⟩
    · exact ⟨rfl, fun k hk => isKnown_released (hforgotten k hk)⟩

theorem recoveryHint_known (s : GenerationState) (key : RequestKey) :
    Runtime.plans (s.recoveryHint key).2 = [] ∧
      ∀ k, s.isKnown k = true → (s.recoveryHint key).1.isKnown k = true := by
  unfold recoveryHint
  split
  · exact ⟨rfl, fun _ hk => hk⟩
  split
  · exact ⟨rfl, fun _ hk => hk⟩
  · exact ⟨rfl, fun _ hk => isKnown_released hk⟩

end GenerationState

namespace RequestAuthority

open GenerationState

variable {a a' a₀ b c : RequestAuthority} {plan : PreparationPlan} {plans : List PreparationPlan}
  {members : List Member} {payload : ℕ} {charge : UInt16} {deadline : Option MonotonicTime}

/-! ## Admitting the members -/

def OnlyFed (a a' : RequestAuthority) : Prop := a' = { a with state := a'.state, fed := a'.fed }

theorem OnlyFed.refl (a : RequestAuthority) : OnlyFed a a := rfl

theorem OnlyFed.trans (h : OnlyFed a b) (h' : OnlyFed b c) : OnlyFed a c := by
  unfold OnlyFed at *
  rw [h'] at *
  rw [h]

theorem OnlyFed.same (h : OnlyFed a a') : a'.outbox = a.outbox ∧
    a'.operationPending = a.operationPending ∧ a'.largeMtu = a.largeMtu := by
  rw [h]
  exact ⟨rfl, rfl, rfl⟩

theorem feed_onlyFed (a : RequestAuthority) (event : OwnerEvent) : OnlyFed a (a.feed event).1 := rfl

structure Enlisted (a₀ : RequestAuthority) (plans : List PreparationPlan) (members : List Member)
    (a : RequestAuthority) : Prop where
  reserved : Reserved a₀.state plans a.state
  bounded : a.state.Bounded
  keys : members.map (·.key) = plans.map (·.key)
  onlyFed : OnlyFed a₀ a
  log : a.plans = a₀.plans ++ plans

def Admits (deadline : Option MonotonicTime) (largeMtu : Bool) (operation : TypedOperation)
    (plan : PreparationPlan) : Prop :=
  plan.payloadBytes = operation.payloadBytes ∧
    operation.creditCharge largeMtu = .ok plan.creditCharge ∧ plan.callerDeadline = deadline

theorem admitOne_cases (a : RequestAuthority) (payload : ℕ) (charge : UInt16)
    (deadline : Option MonotonicTime) :
    (∃ error, (a.admitOne payload charge deadline).2 = .error error ∧
      (a.admitOne payload charge deadline).1.state = a.state) ∨
    ∃ plan, (a.admitOne payload charge deadline).2 = .ok plan ∧
      (a.state.admitRequest payload charge deadline).2 = .admitted plan ∧
      plan.payloadBytes = payload ∧ plan.creditCharge = charge ∧ plan.callerDeadline = deadline ∧
      plan.creditRequest = a.state.creditRequest charge ∧
      (a.state.admitRequest payload charge deadline).1.targetCredits = a.state.targetCredits := by
  rw [admitOne_eq]
  rcases a.state.admitRequest_cases payload charge deadline with ⟨error, h⟩ | ⟨plan, h, hterms⟩
  · refine .inl ⟨.admission error, ?_, ?_⟩
    · rw [h]
    · rw [h]
      show (a.state.admitRequest payload charge deadline).1 = a.state
      rw [h]
  · refine .inr ⟨plan, ?_, h, hterms⟩
    rw [h]

theorem Enlisted.admitOne (h : Enlisted a₀ plans members a)
    (hone : a.admitOne payload charge deadline = (a', .ok plan)) (response : ResponsePolicy)
    (replay : ReplayPolicy) :
    Enlisted a₀ (plans ++ [plan]) (members ++ [⟨plan.key, response, replay⟩]) a' := by
  obtain ⟨hfed, admission, -⟩ := admitOne_ok hone
  obtain rfl := admitOne_feed hone
  rcases a.admitOne_cases payload charge deadline with ⟨error, herror, -⟩ |
    ⟨plan', hok, hadmitted, -, hcharge, -, hrequest, htarget⟩
  · rw [hone] at herror
    cases herror
  · rw [hone] at hok
    obtain rfl := Except.ok.inj hok
    have hextra := h.bounded.extra_lt charge
    rw [← hrequest, ← hcharge] at hextra
    have hpending : (a.feed (.admitRequest payload charge deadline)).1.state.pendingExtraCredits =
        a.state.pendingExtraCredits + plan.record.requestedExtraCredits := by
      rw [admission.pending, Machine.saturatingAdd, Machine.maxValue]
      show min (a.state.pendingExtraCredits + (plan.creditRequest - plan.creditCharge.toNat)) _ = _
      exact min_eq_left (by omega)
    refine ⟨h.reserved.admitted admission hpending, ⟨?_, ?_, ?_⟩, ?_, h.onlyFed.trans
      (a.feed_onlyFed _), ?_⟩
    · rw [admission.available]
      exact lt_of_le_of_lt (Nat.sub_le _ _) h.bounded.available
    · rw [hpending]
      exact hextra
    · show (a.state.admitRequest payload charge deadline).1.targetCredits < 2 ^ 32
      rw [htarget]
      exact h.bounded.target
    · simp [h.keys]
    · have heffects : (a.state.reduce (.admitRequest payload charge deadline)).2 =
          [.admitted plan] :=
        congrArg (fun effect => [effect]) hadmitted
      rw [RequestAuthority.plans, hfed.fed, List.flatMap_append, ← List.append_assoc,
        ← h.log, heffects]
      rfl

theorem abandon_restores (h : Enlisted a₀ plans members a)
    (hfits : a₀.state.availableCredits < 2 ^ 32) (hstate : a'.state = a.state)
    (honly : OnlyFed a₀ a') : (a'.abandon members).state.accounts = a₀.state.accounts ∧
    OnlyFed a₀ (a'.abandon members) := by
  have hkeys := h.keys
  have hreserved := hstate ▸ h.reserved
  clear h hstate
  induction members generalizing plans a' with
  | nil =>
    obtain rfl : plans = [] := List.map_eq_nil_iff.mp hkeys.symm
    exact ⟨hreserved.accounts, honly⟩
  | cons member members ih =>
    cases plans with
    | nil => cases hkeys
    | cons plan plans =>
      obtain ⟨hkey, hkeys⟩ := List.cons_eq_cons.mp hkeys
      refine ih (honly.trans (a'.feed_onlyFed (.prepareFailed member.key))) hkeys ?_
      show Reserved _ plans (a'.state.prepareFailed member.key).1
      rw [show member.key = plan.key from hkey]
      exact hreserved.abandoned hfits

/-- **All members are admitted, or none**: a refusal gives back what was taken. -/
theorem admitMembers_enlists (deadline : Option MonotonicTime)
    (hfits : a₀.state.availableCredits < 2 ^ 32) (operations : List TypedOperation)
    (h : Enlisted a₀ plans members a) :
    (∃ error, (admitMembers deadline operations members a).2 = .error error ∧
      (admitMembers deadline operations members a).1.state.accounts = a₀.state.accounts ∧
      OnlyFed a₀ (admitMembers deadline operations members a).1) ∨
    ∃ rest members', (admitMembers deadline operations members a).2 = .ok members' ∧
      List.Forall₂ (Admits deadline a₀.largeMtu) operations rest ∧
      Enlisted a₀ (plans ++ rest) members' (admitMembers deadline operations members a).1 := by
  induction operations generalizing plans members a with
  | nil => exact .inr ⟨[], members, rfl, .nil, by rwa [List.append_nil]⟩
  | cons operation operations ih =>
    have hmtu : a.largeMtu = a₀.largeMtu := h.onlyFed.same.2.2
    cases hcharge : operation.creditCharge a.largeMtu with
    | error error =>
      simp only [admitMembers, hcharge]
      exact .inl ⟨_, rfl, abandon_restores h hfits rfl h.onlyFed⟩
    | ok charge =>
      cases hone : a.admitOne operation.payloadBytes charge deadline with
      | mk a₁ result =>
      simp only [admitMembers, hcharge, hone]
      rcases a.admitOne_cases operation.payloadBytes charge deadline with ⟨error, herror, hstate⟩ |
        ⟨plan, hok, -, hpayload, hplan, hdeadline, -⟩
      · rw [hone] at herror hstate
        obtain rfl : result = .error error := herror
        have honly : OnlyFed a₀ a₁ := admitOne_feed hone ▸ h.onlyFed.trans (a.feed_onlyFed _)
        exact .inl ⟨_, rfl, abandon_restores h hfits hstate honly⟩
      · rw [hone] at hok
        obtain rfl : result = .ok plan := hok
        rcases ih (h.admitOne hone operation.response operation.replay) with hrefused |
          ⟨rest, members', hall, hadmits, henlisted⟩
        · exact .inl hrefused
        refine .inr ⟨plan :: rest, members', hall, .cons ⟨hpayload, ?_, hdeadline⟩ hadmits, ?_⟩
        · rw [← hmtu, hcharge, hplan]
        · rwa [List.append_assoc] at henlisted

/-! ## Registering the members -/

structure Grows (a b : RequestAuthority) : Prop where
  outbox : a.outbox <+: b.outbox
  plans : b.plans = a.plans
  known : ∀ k, a.state.isKnown k = true → b.state.isKnown k = true

namespace Grows

theorem refl (a : RequestAuthority) : Grows a a := ⟨List.prefix_rfl, rfl, fun _ hk => hk⟩

theorem trans (h : Grows a b) (h' : Grows b c) : Grows a c :=
  ⟨h.outbox.trans h'.outbox, h'.plans.trans h.plans, fun k hk => h'.known k (h.known k hk)⟩

theorem of_same (houtbox : a.outbox <+: b.outbox) (hstate : b.state = a.state)
    (hfed : b.fed = a.fed) : Grows a b :=
  ⟨houtbox, by rw [RequestAuthority.plans, RequestAuthority.plans, hfed], fun _ hk => hstate ▸ hk⟩

theorem foldl {ι : Type} {f : RequestAuthority → ι → RequestAuthority}
    (h : ∀ a i, Grows a (f a i)) (is : List ι) (a : RequestAuthority) : Grows a (is.foldl f a) :=
  List.foldl_invariant (P := Grows a) (fun b i hb => hb.trans (h b i)) is (refl a)

theorem feed (event : OwnerEvent) (hplans : Runtime.plans (a.state.reduce event).2 = [])
    (hknown : ∀ k, a.state.isKnown k = true → (a.state.reduce event).1.isKnown k = true) :
    Grows a (a.feed event).1 := by
  refine ⟨List.prefix_rfl, ?_, hknown⟩
  show (a.fed ++ [(event, (a.state.reduce event).2)]).flatMap _ = _
  simp [hplans, RequestAuthority.plans]

end Grows

section

variable (a)

variable (key : RequestKey)

theorem completeOperation_grows
    (result : Except RuntimeError OperationResult) : Grows a (a.completeOperation key result) := by
  unfold completeOperation
  split
  · exact .refl a
  dsimp only
  split
  · exact .of_same (List.prefix_append _ _) rfl rfl
  · exact .of_same List.prefix_rfl rfl rfl

theorem applyOwnerEffects_grows (effects : List OwnerEffect) :
    Grows a (a.applyOwnerEffects effects) := by
  have hsilent := a.applyOwnerEffects_silent effects
  exact .of_same hsilent.outbox hsilent.books.state hsilent.books.fed

variable (message : CommandResponse)

theorem acceptFinalResponse_grows : Grows a (a.acceptFinalResponse key message) := by
  obtain ⟨hplans, hknown⟩ := a.state.response_known key .final message.creditRequest
  have happlied := (Grows.feed (.response key .final message.creditRequest) hplans
    hknown).trans (applyOwnerEffects_grows _ (a.state.response key .final message.creditRequest).2)
  unfold acceptFinalResponse
  dsimp only
  split
  · exact happlied.trans (completeOperation_grows _ _ _)
  split
  · exact happlied
  split
  · exact happlied.trans (.of_same List.prefix_rfl rfl rfl)
  · exact happlied

theorem processDecodedResponse_grows : Grows a (a.processDecodedResponse message) := by
  have failed (error : RuntimeError) : Grows a (a.fail error) := .of_same List.prefix_rfl rfl rfl
  unfold processDecodedResponse
  dsimp only
  split
  · exact failed _
  split
  · split
    · exact failed _
    rename_i asyncId _
    obtain ⟨hplans, hknown⟩ := a.state.response_known ⟨a.state.generation, message.messageId⟩
      (.pending asyncId) message.creditRequest
    exact .feed _ hplans hknown
  split
  · exact failed _
  split
  · obtain ⟨hplans, hknown⟩ := a.state.recoveryHint_known ⟨a.state.generation, message.messageId⟩
    exact ((Grows.feed (.recoveryHint _) hplans hknown).trans
      (applyOwnerEffects_grows _ _)).trans (completeOperation_grows _ _ _)
  split
  · exact failed _
  · exact a.acceptFinalResponse_grows _ message

theorem takeEarlyResponse_grows : Grows a (a.takeEarlyResponse key) := by
  unfold takeEarlyResponse
  split
  · exact .refl a
  · exact Grows.trans (b := { a with earlyResponses := a.earlyResponses.erase key })
      (.of_same List.prefix_rfl rfl rfl) (processDecodedResponse_grows _ _)

theorem registerMember_grows (member : Member) : Grows a (a.registerMember member) :=
  Grows.trans (b := a.putPending member.key (.new member.response member.replay none none))
    (.of_same List.prefix_rfl rfl rfl) (takeEarlyResponse_grows _ _)

end

end RequestAuthority

namespace OwnerTask

open RequestAuthority

def answer (s s' : OwnerTask) : Option Delivery :=
  (s'.authority.outbox.drop s.authority.outbox.length).getLast?

inductive CompoundStep (s : OwnerTask) (command : CompoundAdmission) (wire : Option SendFrame) :
    OwnerTask → Prop
  | refused (a : RequestAuthority) (error : RuntimeError)
      (restored : a.state.accounts = s.authority.state.accounts) (only : OnlyFed s.authority a) :
      CompoundStep s command wire
        { s with authority := a.deliver (.acknowledgedCompound command.number (.error error)) }
  | waiting : CompoundStep s command wire { s with waitingCompound := some command }
  | queued (a : RequestAuthority) (frame : SendFrame) (plan : PreparationPlan)
      (plans : List PreparationPlan) (sealed : wire = some frame)
      (admits : List.Forall₂ (Admits command.deadline s.authority.largeMtu) command.operations
        (plan :: plans))
      (distinct : ((plan :: plans).map (·.key)).Nodup)
      (log : a.plans = s.authority.plans ++ plan :: plans)
      (known : ∀ p ∈ plan :: plans, a.state.isKnown p.key = true)
      (outbox : s.authority.outbox <+: a.outbox) :
      CompoundStep s command wire
        { s with
          authority := a.deliver (.acknowledgedCompound command.number
            (.ok (((plan :: plans).map (·.key)).map fun key => ⟨key, none⟩)))
          sendQueue := s.sendQueue ++ [.new plan.key ((plan :: plans).map (·.key)) frame] }

/-- What the admission of a compound does, case by case. -/
theorem processCompoundAdmission_step (s : OwnerTask) (hs : s.authority.state.Bounded)
    (command : CompoundAdmission) (wire : Option SendFrame) :
    CompoundStep s command wire (s.processCompoundAdmission command wire) := by
  have refused (error : RuntimeError) : CompoundStep s command wire { s with
      authority := s.authority.deliver (.acknowledgedCompound command.number (.error error)) } :=
    .refused s.authority error rfl (.refl _)
  have hstart : Enlisted s.authority [] [] s.authority :=
    ⟨.refl _, hs, rfl, .refl _, (List.append_nil _).symm⟩
  unfold processCompoundAdmission
  split
  · exact refused _
  split
  · exact refused _
  split
  · exact refused _
  split
  · exact refused _
  split
  · exact .waiting
  have hmembers := admitMembers_enlists command.deadline hs.available
    command.operations hstart
  split
  · rename_i a error hresult
    rw [hresult] at hmembers
    rcases hmembers with ⟨_, _, hrestored, honly⟩ | ⟨_, _, hok, _⟩
    · exact .refused a error hrestored honly
    · cases hok
  rename_i a members hresult
  rw [hresult] at hmembers
  rcases hmembers with ⟨_, herror, _⟩ | ⟨plans, _, hok, hadmits, henlisted⟩
  · cases herror
  obtain rfl := Except.ok.inj hok
  split
  · rename_i frame leader others hkeys
    obtain ⟨plan, rest, rfl⟩ : ∃ plan rest, plans = plan :: rest := by
      cases plans with
      | nil => rw [henlisted.keys] at hkeys; cases hkeys
      | cons plan rest => exact ⟨plan, rest, rfl⟩
    have hgrows := Grows.foldl registerMember_grows members a
    have houtbox : a.outbox = s.authority.outbox := henlisted.onlyFed.same.1
    rw [henlisted.keys] at hkeys
    obtain ⟨rfl, rfl⟩ := List.cons_eq_cons.mp hkeys
    exact .queued (members.foldl registerMember a) frame plan rest rfl hadmits
      henlisted.reserved.distinct (hgrows.plans.trans henlisted.log)
      (fun p hp => hgrows.known _ (GenerationState.isKnown_iff.mpr
        ⟨_, henlisted.reserved.records p hp⟩)) (houtbox ▸ hgrows.outbox)
  · obtain ⟨hrestored, honly⟩ := abandon_restores henlisted hs.available rfl henlisted.onlyFed
    exact .refused _ _ hrestored honly

theorem answer_delivered (s s' : OwnerTask) {a : RequestAuthority} {delivery : Delivery}
    (houtbox : s.authority.outbox <+: a.outbox) (hs' : s'.authority = a.deliver delivery) :
    answer s s' = some delivery := by
  unfold answer
  rw [hs']
  show ((a.outbox ++ [delivery]).drop s.authority.outbox.length).getLast? = _
  rw [List.drop_append_of_le_length houtbox.length_le, List.getLast?_concat]

/-- A compound that is refused or has to wait leaves the accounts as they were; one that is accepted
has all its members admitted and queued in one frame. -/
theorem compound_all_or_nothing (s : OwnerTask) (hs : s.authority.state.Bounded)
    (command : CompoundAdmission) (wire : Option SendFrame) :
    let s' := s.processCompoundAdmission command wire
    (∀ error, answer s s' = some (.acknowledgedCompound command.number (.error error)) →
      s'.authority.state.accounts = s.authority.state.accounts ∧
      s'.authority.operationPending = s.authority.operationPending ∧ s'.sendQueue = s.sendQueue) ∧
    (∀ submissions, answer s s' = some (.acknowledgedCompound command.number (.ok submissions)) →
      ∃ frame plan plans, wire = some frame ∧
        submissions = ((plan :: plans).map (·.key)).map (fun key => ⟨key, none⟩) ∧
        List.Forall₂ (Admits command.deadline s.authority.largeMtu) command.operations
          (plan :: plans) ∧
        ((plan :: plans).map (·.key)).Nodup ∧
        s'.authority.plans = s.authority.plans ++ plan :: plans ∧
        (∀ p ∈ plan :: plans, s'.authority.state.isKnown p.key = true) ∧
        s'.sendQueue = s.sendQueue ++ [.new plan.key ((plan :: plans).map (·.key)) frame]) ∧
    (answer s s' = none → s' = { s with waitingCompound := some command }) := by
  intro s'
  have hstep : CompoundStep s command wire s' := processCompoundAdmission_step s hs command wire
  generalize s' = s' at hstep ⊢
  cases hstep with
  | refused a error restored only =>
    obtain ⟨houtbox, hpending, -⟩ := only.same
    have hanswer : answer s { s with
        authority := a.deliver (.acknowledgedCompound command.number (.error error)) } = _ :=
      answer_delivered s _ (houtbox ▸ List.prefix_rfl) rfl
    refine ⟨fun _ _ => ⟨restored, hpending, rfl⟩, fun _ h => ?_, fun h => ?_⟩
    · rw [hanswer] at h
      cases h
    · rw [hanswer] at h
      cases h
  | waiting =>
    have hanswer : answer s { s with waitingCompound := some command } = none := by
      simp [answer]
    refine ⟨fun _ _ => ⟨rfl, rfl, rfl⟩, fun _ h => ?_, fun _ => rfl⟩
    rw [hanswer] at h
    cases h
  | queued a frame plan plans sealed admits distinct log known outbox =>
    have hanswer := answer_delivered s { s with
      authority := a.deliver (.acknowledgedCompound command.number
        (.ok (((plan :: plans).map (·.key)).map fun key => ⟨key, none⟩)))
      sendQueue := s.sendQueue ++ [.new plan.key ((plan :: plans).map (·.key)) frame] } outbox rfl
    refine ⟨fun _ h => ?_, fun _ h => ?_, fun h => ?_⟩
    · rw [hanswer] at h
      cases h
    · rw [hanswer] at h
      cases h
      exact ⟨frame, plan, plans, sealed, rfl, admits, distinct, log, known, rfl⟩
    · rw [hanswer] at h
      cases h

def twoPayloads : CompoundAdmission :=
  ⟨[.anyStatus ⟨.echo, some 5, 0, 0, false⟩, .anyStatus ⟨.echo, some 5, 0, 0, false⟩], none, 0⟩

theorem compound_small :
    (let s := start (smallConfig 4)
    let s' := s.processCompoundAdmission twoPayloads (some echoFrame)
    s'.authority.state.accounts = s.authority.state.accounts ∧
      s'.authority.state.isKnown (smallKey 0) = true) ∧
    (let s := start (smallConfig 4)
    let s' := s.processCompoundAdmission ⟨[echo, echo], none, 0⟩ (some echoFrame)
    ∃ plan plans, List.Forall₂ (Admits none false) [echo, echo] (plan :: plans) ∧
      s'.sendQueue = [.new plan.key ((plan :: plans).map (·.key)) echoFrame]) ∧
    (let s := start (smallConfig 1)
    let s' := s.processCompoundAdmission ⟨[echo, echo], none, 0⟩ (some echoFrame)
    s' = { s with waitingCompound := some ⟨[echo, echo], none, 0⟩ }) := by
  have hbounded (n : ℕ) (hn : n < 2 ^ 32) : (start (smallConfig n)).authority.state.Bounded :=
    ⟨hn, show 0 < 2 ^ 32 by decide, show 1 < 2 ^ 32 by decide⟩
  refine ⟨⟨?_, by decide⟩, ?_, ?_⟩
  · refine ((compound_all_or_nothing (start (smallConfig 4)) (hbounded 4 (by decide)) twoPayloads
      (some echoFrame)).1 (.admission .payloadBytesExhausted) ?_).1
    rfl
  · obtain ⟨frame, plan, plans, hframe, -, hadmits, -, -, -, hqueue⟩ :=
      (compound_all_or_nothing (start (smallConfig 4)) (hbounded 4 (by decide))
        ⟨[echo, echo], none, 0⟩ (some echoFrame)).2.1 [⟨smallKey 0, none⟩, ⟨smallKey 1, none⟩] rfl
    obtain rfl := Option.some.inj hframe
    exact ⟨plan, plans, hadmits, hqueue⟩
  · exact (compound_all_or_nothing (start (smallConfig 1)) (hbounded 1 (by decide))
      ⟨[echo, echo], none, 0⟩ (some echoFrame)).2.2 rfl

end OwnerTask

end Runtime
