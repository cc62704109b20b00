import SmbClient.Runtime.Proof.Service

/-!
# Admissions as changes of slots
-/

namespace Runtime

open Msg

namespace RequestAuthority

variable {a a' b : RequestAuthority} {key k : RequestKey} {seen : CommandResponse → Prop}
  {strict : Prop} {loose : RequestKey → Prop} {payload : ℕ} {charge : UInt16}
  {deadline : Option MonotonicTime}
variable {result : Except RuntimeError PreparationPlan} {plan : PreparationPlan}

/-! ## Registering -/

theorem slot_registered (hfresh : a.slot key = .empty) (entry : OperationPending)
    (hentry : entry.seat = ⟨entry.terminal, none, false, false⟩) :
    (a.putPending key entry).slot key = .new entry.terminal := by
  rw [slot_putPending, hentry, hfresh]
  rfl

theorem ServesOne.registered (h : a.Proper seen) (hfresh : a.slot key = .empty)
    (hknown : a.state.isKnown key = true) (entry : OperationPending)
    (hentry : entry.seat = ⟨entry.terminal, none, false, false⟩)
    (hw : ∀ w, entry.terminal = some w → w.Of key) :
    ServesOne seen strict loose key a (a.putPending key entry) := by
  have elsewhere : ∀ k, k ≠ key → (a.putPending key entry).slot k = a.slot k :=
    fun k hk => slot_putPending_ne entry hk
  refine ⟨.only h (.idle .refl rfl rfl) rfl List.prefix_rfl rfl hknown elsewhere
    (fun st w hst hterminal => ?_) (.single ?_), elsewhere⟩
  · rw [slot_putPending] at hst
    obtain rfl := Option.some.inj hst
    exact hw w hterminal
  · rw [slot_registered hfresh entry hentry]
    exact .registered entry.terminal hfresh

theorem Submission.terminal_of (submission : Submission) :
    ∀ w, submission.terminal = some w → w.Of key := by
  intro w hw
  unfold Submission.terminal at hw
  split at hw
  · cases hw
  · obtain rfl := Option.some.inj hw
    trivial

/-! ## Refusing -/

theorem refuse_serves (h : a.Proper seen) (submission : Submission) (error : RuntimeError) :
    Serves seen strict loose [] a (a.refuse submission error) := by
  have acknowledged {b : RequestAuthority} (hb : Serves seen strict loose [] a b) :
      Serves seen strict loose [] a (b.deliver (.acknowledged submission (.error error))) :=
    hb.trans (deliver_serves hb.proper (.acknowledged submission (.error error)) fun _ _ => rfl)
  unfold refuse
  dsimp only
  cases hw : submission.terminal with
  | none => exact acknowledged (.refl h)
  | some waiter =>
    refine acknowledged (deliver_serves h (.completed waiter (.error error)) fun k i => ?_)
    unfold Submission.terminal at hw
    split at hw
    · cases hw
    · obtain rfl := Option.some.inj hw
      rfl

theorem refuseRaw_serves (h : a.Proper seen) (command : AdmissionCommand) (error : RuntimeError) :
    Serves seen strict loose [] a (a.refuseRaw command error) := by
  have hfirst : Serves seen strict loose [] a
      (a.deliver (.completedRaw command.number (.error error))) :=
    deliver_serves h (.completedRaw command.number (.error error)) fun _ _ => rfl
  exact hfirst.trans (deliver_serves hfirst.proper (.acknowledgedRaw command.number (.error error))
    fun _ _ => rfl)

/-! ## Admitting one request -/

theorem admitOne_fst (a : RequestAuthority) (payload : ℕ) (charge : UInt16)
    (deadline : Option MonotonicTime) :
    (a.admitOne payload charge deadline).1 =
    (a.feed (.admitRequest payload charge deadline)).1 := by
  unfold admitOne
  dsimp only
  split
  · rfl
  · rfl
  · rfl

theorem publications_admitRequest (s : GenerationState) (payload : ℕ) (charge : UInt16)
    (deadline : Option MonotonicTime) :
    publications (s.reduce (.admitRequest payload charge deadline)).2 = [] :=
  List.eq_nil_iff_forall_not_mem.mpr fun p hp =>
    (s.admitRequest_move payload charge deadline).publications_aimed (o := p.2) (by simp) hp

theorem admitOne_feed (hone : a.admitOne payload charge deadline = (a', result)) :
    a' = (a.feed (.admitRequest payload charge deadline)).1 := by
  rw [← admitOne_fst, hone]

theorem admitOne_serves (h : a.Proper seen)
    (hone : a.admitOne payload charge deadline = (a', result)) : Serves seen strict loose [] a a' :=
  admitOne_feed hone ▸ feed_serves h _ (publications_admitRequest a.state payload charge deadline)

theorem admitOne_slot (h : a.Proper seen)
    (hone : a.admitOne payload charge deadline = (a', result)) : a'.slot k = a.slot k := by
  rw [admitOne_feed hone]
  refine slot_feed h _ fun o ho => ?_
  rw [publications_admitRequest] at ho
  cases ho

theorem admitOne_fresh (h : a.Proper seen)
    (hone : a.admitOne payload charge deadline = (a', .ok plan)) :
    a.state.isKnown plan.key = false ∧ a'.state.isKnown plan.key = true ∧
      a'.slot plan.key = .empty := by
  obtain ⟨-, admission, -⟩ := admitOne_ok hone
  have hunknown : a.state.isKnown plan.key = false := by
    refine Bool.eq_false_iff.mpr fun hk => ?_
    obtain ⟨r, hr⟩ := GenerationState.isKnown_iff.mp hk
    exact nomatch (admission.fresh h.sound).symm.trans hr
  refine ⟨hunknown, ?_, ?_⟩
  · exact GenerationState.isKnown_iff.mpr ⟨_, by rw [admission.lookup, if_pos rfl]⟩
  · rw [admitOne_slot h hone, h.fresh _ hunknown]

def plans (a : RequestAuthority) : List PreparationPlan := a.fed.flatMap fun f => Runtime.plans f.2

theorem admitOne_plan (h : a.admitOne payload charge deadline = (a', .ok plan)) :
    plan ∈ a'.plans ∧ plan.callerDeadline = deadline := by
  refine ⟨?_, (admitOne_ok h).2.2⟩
  rw [admitOne_feed h]
  refine List.mem_flatMap.mpr ⟨_, List.mem_append_right _ (List.mem_singleton_self _), ?_⟩
  unfold admitOne at h
  dsimp only at h
  split at h
  · rename_i he
    cases h
    exact List.mem_filterMap.mpr ⟨_, List.mem_of_head? he, rfl⟩
  · cases h
  · cases h

theorem Log.plans_subset (h : a.Log b) : a.plans ⊆ b.plans := by
  induction h with
  | refl => exact List.Subset.refl _
  | idle _ _ fed ih | target _ _ _ fed ih => rwa [plans, plans, fed]
  | event _ _ _ fed ih =>
    rw [plans, plans, fed, List.flatMap_append]
    exact List.Subset.trans ih (List.subset_append_left _ _)

/-! ## Abandoning requests that cannot be sent -/

theorem prepareFailed_serves (h : a.Proper seen) (hseat : (a.slot key).seat = none) :
    Serves seen strict loose [] a (a.feed (.prepareFailed key)).1 := by
  have honly : ∀ k o, (k, o) ∈ publications (a.state.reduce (.prepareFailed key)).2 → k = key :=
    fun k o ho => ((a.state.prepareFailed_move key).publications_aimed (by simp) ho).symm
  by_cases hp : ∃ o, (key, o) ∈ publications (a.state.reduce (.prepareFailed key)).2
  · obtain ⟨o, ho⟩ := hp
    obtain ⟨hopen, hclosed, -⟩ := h.sound.outcome_told ho
    have hne : o ≠ .response := by
      rintro rfl
      obtain ⟨_, _, _, he⟩ := (a.state.prepareFailed_move key).answered ho
      cases he
    have hr : o.Reports seen key (.error (.terminal o)) := by
      cases o with
      | response => exact absurd rfl hne
      | _ => rfl
    have hknown : a.state.isKnown key = true := GenerationState.isKnown_of_isOpen
      ((GenerationState.reduce_moves h.sound.keyed _).publications_open h.sound
        (h.sound.plans_nil (by simp)) ho).1
    have hended : Slot.Change seen strict (loose key) (a.feed (.prepareFailed key)).1.Told key
        (a.slot key) { a.slot key with outcome := some o } :=
      .ended o _ _ _ hr hopen (.inl rfl) (.nobody hseat)
    refine .only h (.event .refl _ rfl rfl) rfl List.prefix_rfl rfl hknown
      (fun k hk => slot_feed h _ fun o' ho' => hk (honly k o' ho')) (fun st w hst => ?_)
      (.single ?_)
    · rw [show ((a.feed (.prepareFailed key)).1.slot key).seat = (a.slot key).seat from rfl,
        hseat] at hst
      cases hst
    · rw [← hclosed] at hended
      exact hended
  · refine feed_serves h _ (List.eq_nil_iff_forall_not_mem.mpr ?_)
    rintro ⟨k, o⟩ ho
    obtain rfl := honly k o ho
    exact hp ⟨o, ho⟩

theorem abandon_serves (h : a.Proper seen) (members : List Member)
    (hseats : ∀ member ∈ members, (a.slot member.key).seat = none) :
    Serves seen strict loose [] a (a.abandon members) := by
  induction members generalizing a with
  | nil => exact .refl h
  | cons member members ih =>
    have hfirst : Serves seen strict loose [] a (a.feed (.prepareFailed member.key)).1 :=
      prepareFailed_serves h (hseats member List.mem_cons_self)
    exact hfirst.trans (ih hfirst.proper fun m hm => hseats m (List.mem_cons_of_mem _ hm))

/-! ## Compounds -/

structure Unregistered (deadline : Option MonotonicTime) (a₀ : RequestAuthority)
    (members : List Member) (a : RequestAuthority) : Prop where
  log : a₀.Log a
  distinct : (members.map (·.key)).Nodup
  admitted : ∀ member ∈ members, a₀.state.isKnown member.key = false ∧
    a.state.isKnown member.key = true ∧ ∃ plan ∈ a.plans, plan.key = member.key ∧
      plan.callerDeadline = deadline
  fresh : ∀ member ∈ members, a.slot member.key = .empty

theorem Unregistered.admitOne {a₀ : RequestAuthority} {members : List Member}
    (hu : Unregistered deadline a₀ members a) (h₀ : a₀.state.Sound)
    (h : a.Proper seen) (hone : a.admitOne payload charge deadline = (a', .ok plan))
    (response : ResponsePolicy) (replay : ReplayPolicy) :
    Unregistered deadline a₀ (members ++ [⟨plan.key, response, replay⟩]) a' := by
  obtain ⟨hunknown, hknown, hempty⟩ := admitOne_fresh h hone
  obtain ⟨hfed, -, -⟩ := admitOne_ok hone
  have hlog : a.Log a' := .event .refl _ hfed.state hfed.fed
  have hnew : ∀ member ∈ members, member.key ≠ plan.key := fun member hm he => by
    have hbefore := (hu.admitted member hm).2.1
    rw [he, hunknown] at hbefore
    cases hbefore
  refine ⟨hu.log.trans hlog, ?_, fun member hm => ?_, fun member hm => ?_⟩
  · rw [List.map_append, List.nodup_append]
    refine ⟨hu.distinct, by simp, fun k hk k' hk' => ?_⟩
    obtain ⟨member, hm, rfl⟩ := List.mem_map.mp hk
    rw [List.map_singleton, List.mem_singleton] at hk'
    exact hk' ▸ hnew member hm
  · rcases List.mem_append.mp hm with hm | hm
    · obtain ⟨hfirst, hafter, plan', hplan', hterms⟩ := hu.admitted member hm
      exact ⟨hfirst, hlog.known h.sound hafter, plan', hlog.plans_subset hplan', hterms⟩
    · rw [List.mem_singleton.mp hm]
      obtain ⟨hplan, hdeadline⟩ := admitOne_plan hone
      refine ⟨Bool.eq_false_iff.mpr fun hk => ?_, hknown, plan, hplan, rfl, hdeadline⟩
      exact Bool.eq_false_iff.mp hunknown (hu.log.known h₀ hk)
  · rcases List.mem_append.mp hm with hm | hm
    · rw [admitOne_slot h hone]
      exact hu.fresh member hm
    · rw [List.mem_singleton.mp hm]
      exact hempty

theorem admitMembers_serves {a₀ : RequestAuthority} (h₀ : a₀.state.Sound)
    (operations : List TypedOperation) (admitted : List Member) (h : a.Proper seen)
    (hu : Unregistered deadline a₀ admitted a) :
    Serves seen strict loose [] a (admitMembers deadline operations admitted a).1 ∧
    ∀ members, (admitMembers deadline operations admitted a).2 = .ok members →
      Unregistered deadline a₀ members (admitMembers deadline operations admitted a).1 := by
  induction operations generalizing admitted a with
  | nil =>
    refine ⟨.refl h, fun members hm => ?_⟩
    obtain rfl := Except.ok.inj hm
    exact hu
  | cons operation operations ih =>
    have hseats : ∀ member ∈ admitted, (a.slot member.key).seat = none := fun member hm => by
      rw [hu.fresh member hm]
      rfl
    cases hcharge : operation.creditCharge a.largeMtu with
    | error error =>
      simp only [admitMembers, hcharge]
      exact ⟨abandon_serves h admitted hseats, fun _ hm => nomatch hm⟩
    | ok charge =>
      cases hone : a.admitOne operation.payloadBytes charge deadline with
      | mk a₁ result =>
      have hserves : Serves seen strict loose [] a a₁ := admitOne_serves h hone
      simp only [admitMembers, hcharge, hone]
      cases result with
      | error error =>
        refine ⟨hserves.trans (abandon_serves hserves.proper admitted fun member hm => ?_),
          fun _ hm => nomatch hm⟩
        rw [admitOne_slot h hone]
        exact hseats member hm
      | ok plan =>
        obtain ⟨hrest, hok⟩ := ih _ hserves.proper
          (hu.admitOne h₀ h hone operation.response operation.replay)
        exact ⟨hserves.trans hrest, hok⟩

theorem registerMember_serves (h : a.Proper seen) (member : Member)
    (hknown : a.state.isKnown member.key = true) (hfresh : a.slot member.key = .empty) :
    ServesOne seen True (fun _ => False) member.key a (a.registerMember member) ∧
      Slot.Changes seen True False (a.registerMember member).Told member.key (.new none)
        ((a.registerMember member).slot member.key) := by
  have hslot := slot_registered hfresh (.new member.response member.replay none none) rfl
  have hput : ServesOne seen True (fun _ => False) member.key a _ := .registered h hfresh hknown
    (.new member.response member.replay none none) rfl fun _ hw => nomatch hw
  have htaken : ServesOne seen True (fun _ => False) member.key _ (a.registerMember member) :=
    takeEarlyResponse_serves hput.serves.proper (by rw [hslot]; rfl)
  have hchanges := htaken.serves.changes member.key
  rw [hslot] at hchanges
  exact ⟨hput.trans htaken, hchanges⟩

theorem registerMembers_serves (members : List Member) (h : a.Proper seen)
    (hdistinct : (members.map (·.key)).Nodup)
    (hknown : ∀ member ∈ members, a.state.isKnown member.key = true)
    (hfresh : ∀ member ∈ members, a.slot member.key = .empty) :
    Serves seen True (fun _ => False) [] a (members.foldl registerMember a) ∧
    ∀ member ∈ members, Slot.Changes seen True False
    (members.foldl registerMember a).Told member.key
      (.new none) ((members.foldl registerMember a).slot member.key) := by
  induction members generalizing a with
  | nil => exact ⟨.refl h, fun _ hm => nomatch hm⟩
  | cons member members ih =>
    obtain ⟨hfirst, hchanges⟩ := registerMember_serves h member (hknown member List.mem_cons_self)
      (hfresh member List.mem_cons_self)
    have hdistinct : member.key ∉ members.map (·.key) ∧ (members.map (·.key)).Nodup :=
      List.nodup_cons.mp hdistinct
    have hne : ∀ m ∈ members, m.key ≠ member.key := fun m hm he =>
      hdistinct.1 (he ▸ List.mem_map_of_mem (f := fun m : Member => m.key) hm)
    obtain ⟨hrest, hmembers⟩ := ih hfirst.serves.proper hdistinct.2
      (fun m hm => hfirst.serves.log.known h.sound (hknown m (List.mem_cons_of_mem _ hm)))
      fun m hm => (hfirst.elsewhere m.key (hne m hm)).trans (hfresh m (List.mem_cons_of_mem _ hm))
    refine ⟨hfirst.serves.trans hrest, fun m hm => ?_⟩
    rcases List.mem_cons.mp hm with rfl | hm
    · exact (hchanges.mono id id fun _ => Told.mono hrest.outbox).trans (hrest.changes m.key)
    · exact hmembers m hm

structure Enrolled (seen : CommandResponse → Prop) (deadline : Option MonotonicTime)
    (terminal : Option Waiter) (key : RequestKey) (a b : RequestAuthority) : Prop where
  fresh : a.state.isKnown key = false
  known : b.state.isKnown key = true
  plan : ∃ plan ∈ b.plans, plan.key = key ∧ plan.callerDeadline = deadline
  changes : Slot.Changes seen True False b.Told key (.new terminal) (b.slot key)

end RequestAuthority

namespace OwnerTask

open RequestAuthority

variable {s s' : OwnerTask} {seen : CommandResponse → Prop} {strict : Prop}
  {loose : RequestKey → Prop}

def SamePreparations (s s' : OwnerTask) : Prop :=
  s'.preparations = s.preparations ∧ s'.preparationOrder = s.preparationOrder

inductive Submitted (seen : CommandResponse → Prop) (strict : Prop) (loose : RequestKey → Prop)
    (command : OperationAdmission) (s s' : OwnerTask) : Prop
  | refused (error : RuntimeError) (same : SamePreparations s s')
      (serves : Serves seen strict loose [] s.authority s'.authority)
      (told : ∀ w, command.submission.terminal = some w → s'.authority.Told w)
      (answered : .acknowledged command.submission (.error error) ∈ s'.authority.outbox)
  | parked (charge : UInt16)
      (needs : command.operation.creditCharge s.authority.largeMtu = .ok charge)
      (lacks : s.authority.state.availableCredits < charge.toNat)
      (state : s' = { s with waitingOperation := some command })
  | queued (key : RequestKey) (same : SamePreparations s s')
      (serves : Serves seen strict loose (if command.submission.detached then [key] else [])
        s.authority
        s'.authority)
      (enrolled : Enrolled seen command.deadline command.submission.terminal key s.authority
        s'.authority)
  | preparing (key : RequestKey) (retainRaw : Bool)
      (serves : Serves seen strict loose [] s.authority s'.authority)
      (enrolled : Enrolled seen command.deadline command.submission.terminal key s.authority
        s'.authority)
      (order : s'.preparationOrder = s.preparationOrder.reserve key)
      (preparations : s'.preparations = s.preparations ++ [⟨key, retainRaw, command.submission⟩])

theorem refuse_told (a : RequestAuthority) (submission : Submission) (error : RuntimeError) :
    (∀ w, submission.terminal = some w → (a.refuse submission error).Told w) ∧
      .acknowledged submission (.error error) ∈ (a.refuse submission error).outbox := by
  refine ⟨fun w hw => ⟨.error error, ?_⟩, List.mem_append_right _ (List.mem_singleton_self _)⟩
  unfold RequestAuthority.refuse
  rw [hw]
  exact List.mem_append_left _ (List.mem_append_right _ (List.mem_singleton_self _))

/-- **A submission is acknowledged once**, refused once, or put aside. -/
theorem processOperationAdmission_submitted (h : s.authority.Proper seen)
    (command : OperationAdmission) (wire : OutgoingTransform) :
    Submitted seen strict loose command s (s.processOperationAdmission command wire) := by
  have refused {a : RequestAuthority} (ha : Serves seen strict loose [] s.authority a)
      (error : RuntimeError) :
      Submitted seen strict loose command s
      { s with authority := a.refuse command.submission error } :=
    .refused error ⟨rfl, rfl⟩ (ha.trans (refuse_serves ha.proper _ error))
      (refuse_told a _ error).1 (refuse_told a _ error).2
  unfold processOperationAdmission
  dsimp only
  split
  · exact refused (.refl h) _
  split
  · exact refused (.refl h) _
  split
  · exact refused (.refl h) _
  rename_i charge hcharge
  split
  · rename_i hlacks
    exact .parked charge hcharge hlacks rfl
  split
  · rename_i a error hone
    exact refused (admitOne_serves h hone) _
  rename_i a plan hone
  have hadmitted : Serves seen strict loose [] s.authority a := admitOne_serves h hone
  obtain ⟨hunknown, hknown, hfresh⟩ := admitOne_fresh h hone
  obtain ⟨hplan, hdeadline⟩ := admitOne_plan hone
  have registered (requestRaw : Option Octets) :
      Serves seen strict loose [] s.authority
      (a.putPending plan.key (.new command.operation.response command.operation.replay requestRaw
        command.submission.terminal)) :=
    hadmitted.trans (ServesOne.registered hadmitted.proper hfresh hknown _ rfl
      (Submission.terminal_of command.submission)).serves
  have hslot (requestRaw : Option Octets) := slot_registered hfresh (.new command.operation.response
    command.operation.replay requestRaw command.submission.terminal) rfl
  split
  · exact refused (hadmitted.trans (prepareFailed_serves hadmitted.proper (by rw [hfresh]; rfl))) _
  · rename_i frame
    let raw := requestRaw command.operation.outgoing.returnRawData frame
    have hacked := (registered raw).trans (deliver_serves (registered raw).proper
      (.acknowledged command.submission (.ok ⟨plan.key, raw⟩)) fun _ _ => rfl)
    have hnew : RequestAuthority.slot _ plan.key = .new command.submission.terminal :=
      (slot_deliver (.acknowledged command.submission (.ok ⟨plan.key, raw⟩)) fun _ _ => rfl).trans
        (hslot raw)
    have htaken : ServesOne seen strict loose plan.key _ _ :=
      takeEarlyResponse_serves hacked.proper (by rw [hnew]; rfl)
    have hstrict : ServesOne seen True (fun _ => False) plan.key _ _ :=
      takeEarlyResponse_serves hacked.proper (by rw [hnew]; rfl)
    have hchanges := hstrict.serves.changes plan.key
    rw [hnew] at hchanges
    exact .queued plan.key ⟨rfl, rfl⟩ (hacked.trans_nil htaken.serves)
      ⟨hunknown, htaken.serves.log.known hacked.proper.sound hknown,
        ⟨plan, htaken.serves.log.plans_subset hplan, rfl, hdeadline⟩, hchanges⟩
  · refine .preparing plan.key command.operation.outgoing.returnRawData
      ((registered none).trans (.same (registered none).proper))
      ⟨hunknown, hknown, ⟨plan, hplan, rfl, hdeadline⟩, ?_⟩ rfl rfl
    exact (hslot none).symm ▸ .refl

inductive SubmittedCompound (seen : CommandResponse → Prop) (strict : Prop)
    (loose : RequestKey → Prop) (command : CompoundAdmission) (s s' : OwnerTask) : Prop
  | refused (error : RuntimeError) (same : SamePreparations s s')
      (serves : Serves seen strict loose [] s.authority s'.authority)
      (answered : .acknowledgedCompound command.number (.error error) ∈ s'.authority.outbox)
  | parked (required : ℕ)
      (needs : s.authority.requiredCredits command.operations = some required)
      (lacks : s.authority.state.availableCredits < required)
      (state : s' = { s with waitingCompound := some command })
  | queued (keys : List RequestKey) (same : SamePreparations s s')
      (serves : Serves seen strict loose keys s.authority s'.authority)
      (answered : .acknowledgedCompound command.number
        (.ok (keys.map fun key => ⟨key, none⟩)) ∈ s'.authority.outbox)
      (enrolled : ∀ key ∈ keys, Enrolled seen command.deadline none key s.authority s'.authority)

/-- The same for a compound and all its members. -/
theorem processCompoundAdmission_submitted (h : s.authority.Proper seen)
    (command : CompoundAdmission) (wire : Option SendFrame) :
    SubmittedCompound seen strict loose command s (s.processCompoundAdmission command wire) := by
  have refused {a : RequestAuthority} (ha : Serves seen strict loose [] s.authority a)
      (error : RuntimeError) : SubmittedCompound seen strict loose command s { s with
        authority := a.deliver (.acknowledgedCompound command.number (.error error)) } :=
    .refused error ⟨rfl, rfl⟩ (ha.trans (deliver_serves ha.proper
      (.acknowledgedCompound command.number (.error error)) fun _ _ => rfl))
      (List.mem_append_right _ (List.mem_singleton_self _))
  unfold processCompoundAdmission
  split
  · exact refused (.refl h) _
  split
  · exact refused (.refl h) _
  split
  · exact refused (.refl h) _
  split
  · exact refused (.refl h) _
  rename_i required hrequired
  split
  · rename_i hlacks
    exact .parked required hrequired hlacks rfl
  have hstart : Unregistered command.deadline s.authority [] s.authority :=
    ⟨.refl, List.nodup_nil, List.forall_mem_nil _, List.forall_mem_nil _⟩
  obtain ⟨hadmitted, hmembers⟩ : Serves seen strict loose [] s.authority _ ∧ _ :=
    admitMembers_serves h.sound command.operations [] h hstart
  split
  · rename_i a error hresult
    rw [hresult] at hadmitted
    exact refused hadmitted _
  rename_i a members hresult
  rw [hresult] at hadmitted hmembers
  have hu := hmembers members rfl
  split
  · rename_i frame leader others hkeys
    obtain ⟨hregistered, hchanges⟩ := registerMembers_serves members hadmitted.proper hu.distinct
      (fun m hm => (hu.admitted m hm).2.1) hu.fresh
    let accepted : Delivery := .acknowledgedCompound command.number
      (.ok ((leader :: others).map fun key => ⟨key, none⟩))
    have hserves := (hadmitted.trans (hregistered.mono (fun _ => trivial) fun _ h => h.elim)).trans
      (deliver_serves hregistered.proper accepted fun _ _ => rfl)
    have hacks : accepted.acknowledgedKeys = leader :: others := by
      simp [accepted, Delivery.acknowledgedKeys, Function.comp_def]
    rw [hacks] at hserves
    refine .queued (leader :: others) ⟨rfl, rfl⟩ hserves
      (List.mem_append_right _ (List.mem_singleton_self _)) fun key hkey => ?_
    rw [← hkeys] at hkey
    obtain ⟨member, hm, rfl⟩ := List.mem_map.mp hkey
    obtain ⟨hunknown, hknown, plan, hplan, hterms⟩ := hu.admitted member hm
    refine ⟨hunknown, hregistered.log.known hadmitted.proper.sound hknown,
      ⟨plan, hregistered.log.plans_subset hplan, hterms⟩, ?_⟩
    rw [show RequestAuthority.slot _ member.key = _ from slot_deliver accepted fun _ _ => rfl]
    exact (hchanges member hm).mono id id fun _ => Told.mono (List.prefix_append _ _)
  · exact refused (hadmitted.trans (abandon_serves hadmitted.proper members fun m hm => by
      rw [hu.fresh m hm]; rfl)) _

end OwnerTask

end Runtime
