import SmbClient.Runtime.Proof.Calm

/-!
# The owner's functions as acts

All of them are clean and whole but a cancel, which is so under a condition (`CleanCancel`,
`WholeCancel`).
-/

namespace Runtime

open RequestAuthority

def OwnerTask.desk (s : OwnerTask) (hand : List RequestKey) : Desk :=
  { authority := s.authority, hand, order := s.preparationOrder.order, queue := s.sendQueue
    active := s.activeWrite, handed := s.handed }

/-! ## Chains -/

section
variable {clean whole : Prop} {d d' : Desk} {a : RequestAuthority} {key : RequestKey}
variable {rest : List RequestKey}

theorem Acts.calm (acts : Acts clean whole d d') (hf : d.Filed) (h : d'.authority.Calm a) :
    Acts clean whole d { d' with authority := a } :=
  acts.tail (.still a (h.still (acts.filed hf).sound) (.of_eq h.frameMembers h.frameCancellations))

theorem Desk.Filed.not_maySend (h : d.Filed) (hk : key ∈ d.hand) : ¬ d.MaySend key := by
  have hcount := h.once key
  have hhand := List.count_pos_iff.mpr hk
  rw [Desk.count] at hcount
  rintro (hq | ⟨w, hw, hk, -⟩)
  · have := List.count_pos_iff.mpr hq
    omega
  · rw [← Desk.writing_eq hw] at hk
    have := List.count_pos_iff.mpr hk
    omega

theorem Acts.ended {event : OwnerEvent} (acts : Acts clean whole d d')
    (hf : d.Filed) (hand : d'.hand = key :: rest) (fed : d'.authority.Fed event a)
    (plans : ∀ payload charge deadline, event ≠ .admitRequest payload charge deadline)
    (ends : ∀ s k, event.MayEnd s k → k = key)
    (closed : a.state.isOpen key = true → a.state.isCommitted key = true) :
    Acts clean whole d { d' with authority := a, hand := rest } := by
  have hunsent : ¬ d'.MaySend key :=
    (acts.filed hf).not_maySend (by rw [hand]; exact List.mem_cons_self)
  have hsettled := acts.tail (.settled event a fed plans fun _ k hk _ _ => ends _ k hk ▸ hunsent)
  exact hsettled.tail (.dropped [] rest key hand fun _ _ hopen => closed hopen)

theorem Acts.cleared (acts : Acts clean whole d d')
    (h : whole → d'.authority.fatal = none → ∀ k ∈ d'.hand, d'.state.isOpen k = true →
      d'.state.isCommitted k = true) : Acts clean whole d { d' with hand := [] } := by
  obtain ⟨authority, hand, order, queue, active, handed⟩ := d'
  induction hand with
  | nil => exact acts
  | cons key rest ih =>
    refine ih (acts.tail (.dropped [] rest key rfl fun hw hf => h hw hf key List.mem_cons_self))
      fun hw hf k hk => h hw hf k (List.mem_cons_of_mem _ hk)

theorem settled_prepareFailed {s : GenerationState} (hs : s.Sound)
    (h : (s.reduce (.prepareFailed key)).1.isOpen key = true) :
    (s.reduce (.prepareFailed key)).1.isCommitted key = true := by
  cases hc : s.isCommitted key with
  | true => exact (hs.onward_unplanned (by simp)).committed key hc
  | false =>
    rw [closed_prepareFailed hs hc] at h
    cases h

theorem Acts.prepareFailed (acts : Acts clean whole d d') (hf : d.Filed)
    (hand : d'.hand = key :: rest) (fed : d'.authority.Fed (.prepareFailed key) a) :
    Acts clean whole d { d' with authority := a, hand := rest } := by
  refine acts.ended hf hand fed (by simp) (fun _ _ h => h.symm) fun hopen => ?_
  rw [fed.state] at hopen ⊢
  exact settled_prepareFailed (acts.filed hf).sound hopen

theorem Acts.admitted {payload : ℕ} {charge : UInt16} {deadline : Option MonotonicTime}
    {plan : PreparationPlan} (acts : Acts clean whole d d')
    (h : d'.authority.admitOne payload charge deadline = (a, .ok plan)) :
    Acts clean whole d { d' with authority := a, hand := d'.hand ++ [plan.key] } := by
  obtain ⟨fed, admission, -⟩ := admitOne_ok h
  exact acts.tail (.admitted _ plan a fed admission)

theorem Admission.undenied {s s' : GenerationState} {plan : PreparationPlan}
    (h : Admission s plan s') : s'.isDenied plan.key = false := by
  rw [GenerationState.isDenied, GenerationState.terminalOutcome_eq, h.lookup, if_pos rfl]
  rfl

theorem RequestAuthority.Calm.undenied {b : RequestAuthority} (h : a.Calm b) (hs : a.state.Sound)
    (hk : a.state.isDenied key = false) : b.state.isDenied key = false :=
  Bool.eq_false_iff.mpr fun hd => Bool.eq_false_iff.mp hk ((h.still hs).denied hs key hd)

theorem WriteCommand.new_sealed {members : List RequestKey} (h : key ∈ members)
    (frame : SendFrame) : (WriteCommand.new key members frame).Sealed :=
  ⟨h, rfl⟩

theorem Acts.pushed (acts : Acts clean whole d d') (hf : d.Filed)
    (hand : d'.hand = key :: rest) (h : d'.authority.Calm a) (hk : d'.state.isDenied key = false)
    (frame : SendFrame) :
    Acts clean whole d
      { d' with authority := a, hand := rest, queue := d'.queue ++ [.new key [key] frame] } := by
  refine (acts.calm hf h).tail (.pushed (.new key [key] frame) rest hand
    (WriteCommand.new_sealed List.mem_cons_self _) fun k hmem => ?_)
  rw [List.mem_singleton.mp hmem]
  exact h.undenied (acts.filed hf).sound hk

end

/-! ## Admissions -/

namespace OwnerTask

variable {clean whole : Prop} {s : OwnerTask}

theorem processAdmission_acts (hf : (s.desk []).Filed) (command : AdmissionCommand) :
    Acts clean whole (s.desk []) ((s.processAdmission command).desk []) := by
  unfold processAdmission
  split
  · rename_i a plan h
    have hadmitted : Acts clean whole (s.desk []) _ := (Acts.refl _).admitted h
    exact hadmitted.pushed hf rfl (a.acknowledgedRaw_calm _ _)
      (admitOne_ok h).2.1.undenied command.frame
  · rename_i a error h
    exact (Acts.refl _).calm hf ((admitOne_error h).trans
      (refuseRaw_calm _ _ _))

theorem processOperationAdmission_acts (hf : (s.desk []).Filed) (command : OperationAdmission)
    (wire : OutgoingTransform) :
    Acts clean whole (s.desk []) ((s.processOperationAdmission command wire).desk []) := by
  have refused (error : RuntimeError) : Acts clean whole (s.desk [])
      ({ s with authority := s.authority.refuse command.submission error }.desk []) :=
    (Acts.refl _).calm hf (s.authority.refuse_calm _ error)
  unfold processOperationAdmission
  dsimp only
  split
  · exact refused _
  split
  · exact refused _
  split
  · exact refused _
  split
  · exact .refl _
  split
  · rename_i a error h
    exact (Acts.refl _).calm hf ((admitOne_error h).trans
      (refuse_calm _ _ error))
  · rename_i a plan h
    have hadmitted : Acts clean whole (s.desk []) _ := (Acts.refl _).admitted h
    split
    · exact (hadmitted.prepareFailed hf rfl (a.feed_fed _)).calm hf
        (refuse_calm _ _ _)
    · exact hadmitted.pushed hf rfl (a.acknowledged_calm plan.key _ _)
        (admitOne_ok h).2.1.undenied _
    · have hcalm := hadmitted.calm hf (a := { a.putPending plan.key (.new command.operation.response
        command.operation.replay none command.submission.terminal) with
        preparationCancellations :=
          a.preparationCancellations.insert plan.key (.preparation plan.key) })
        ⟨fun _ => .of_state rfl rfl (List.Subset.refl _) id, rfl, rfl⟩
      exact hcalm.tail (.reserved plan.key [] rfl)

theorem finishPreparedOperation_acts (prepared : PreparedOperation) {rest : List RequestKey}
    (hf : (s.desk (prepared.key :: rest)).Filed) :
    Acts clean whole (s.desk (prepared.key :: rest))
      ((s.finishPreparedOperation prepared).desk rest) := by
  let a : RequestAuthority := { s.authority with
    preparationCancellations := s.authority.preparationCancellations.erase prepared.key }
  have hstart : Acts clean whole (s.desk (prepared.key :: rest))
      { s.desk (prepared.key :: rest) with authority := a } :=
    (Acts.refl _).calm hf ⟨fun _ => .of_state rfl rfl (List.Subset.refl _) id, rfl, rfl⟩
  have gone (outcome : TerminalOutcome) (h : s.authority.state.isOpen prepared.key = false) :
      let b := (a.dropPending prepared.key).deliver
        (.acknowledged prepared.acknowledge (.error (.terminal outcome)))
      Acts clean whole (s.desk (prepared.key :: rest)) ({ s with authority := b }.desk rest) := by
    have hcalm := hstart.calm hf ((RequestAuthority.Calm.of_bookkeeping
      (a.dropPending_bookkeeping prepared.key)).trans (deliver_calm _
        (.acknowledged prepared.acknowledge (.error (.terminal outcome)))))
    exact hcalm.tail (.dropped [] rest prepared.key rfl fun _ _ hopen =>
      absurd hopen (Bool.eq_false_iff.mp h))
  unfold finishPreparedOperation
  dsimp only
  split
  · rename_i h
    exact gone _ (congrArg (Option.any _) h)
  rename_i record h
  have hopen : s.authority.state.isOpen prepared.key = record.callerIsOpen :=
    GenerationState.isOpen_of_request h
  split
  · rename_i outcome hcaller
    refine gone outcome ?_
    rw [hopen, RequestRecord.callerIsOpen, hcaller]
    rfl
  · rename_i hcaller
    have hwaits : s.authority.state.isOpen prepared.key = true := by
      rw [hopen, RequestRecord.callerIsOpen, hcaller]
      rfl
    split
    · have hfailed := hstart.prepareFailed hf rfl (a.feed_fed _)
      refine hfailed.calm hf (.trans ?_ (deliver_calm _ _))
      split
      · exact .refl _
      split
      · exact (RequestAuthority.Calm.of_bookkeeping
          (dropPending_bookkeeping _ _)).trans (deliver_calm _ _)
      · exact .of_bookkeeping (dropPending_bookkeeping _ _)
    split
    · -- The entry is missing: the generation fails, and the request goes down with it.
      have hcalm := hstart.calm hf ((a.deliver_calm (.acknowledged prepared.acknowledge
        (.error (.wire "prepared-operation-missing")))).trans (fail_calm _
          (.wire "prepared-operation-missing")))
      exact hcalm.tail (.dropped [] rest prepared.key rfl fun _ hfatal _ => by cases hfatal)
    · exact hstart.pushed hf rfl (a.acknowledged_calm prepared.key _ _)
        (GenerationState.isDenied_of_isOpen hwaits) _

theorem finishPreparedOperations_acts (ready : List PreparedOperation) {s : OwnerTask}
    (hf : (s.desk (ready.map (·.key))).Filed) :
    Acts clean whole (s.desk (ready.map (·.key)))
      ((ready.foldl finishPreparedOperation s).desk []) := by
  induction ready generalizing s with
  | nil => exact .refl _
  | cons prepared ready ih =>
    have hfirst : Acts clean whole _ _ := finishPreparedOperation_acts prepared hf
    exact hfirst.trans (ih (hfirst.filed hf))

/-- What preparation releases is put into the send queue in order. -/
theorem prepared_acts (hf : (s.desk []).Filed)
    (hkeyed : s.preparationOrder.Keyed PreparedOperation.key) (key : RequestKey)
    (result : Option SendFrame) :
    Acts clean whole (s.desk []) ((s.prepared key result).desk []) := by
  unfold prepared
  split
  · exact .refl _
  rename_i job hjob
  have hkey : job.key = key := by simpa using List.find?_some hjob
  obtain ⟨hsplit, -⟩ := OrderedCompletionQueue.complete_order hkeyed
    ⟨job.key, result, job.retainRaw, job.acknowledge⟩ hkey
  have hreleased : Acts clean whole (s.desk []) _ :=
    .single (.released _ _ hsplit)
  rw [show (s.desk []).hand = [] from rfl, List.append_nil] at hreleased
  exact hreleased.trans (finishPreparedOperations_acts _ (s := { s with
    preparations := s.preparations.eraseP fun job => job.key = key
    preparationOrder := (s.preparationOrder.complete key
      ⟨job.key, result, job.retainRaw, job.acknowledge⟩).2 }) (hreleased.filed hf))

end OwnerTask

/-! ## Compounds -/

section
variable {clean whole : Prop} {d : Desk}

theorem abandon_acts (admitted : List RequestAuthority.Member) {d : Desk} (hf : d.Filed)
    (hand : d.hand = admitted.map (·.key)) :
    Acts clean whole d { d with authority := d.authority.abandon admitted, hand := [] } := by
  induction admitted generalizing d with
  | nil =>
    obtain ⟨authority, h, order, queue, active, handed⟩ := d
    obtain rfl : h = [] := hand
    exact .refl _
  | cons member admitted ih =>
    have hfirst : Acts clean whole d _ :=
      (Acts.refl d).prepareFailed hf hand (d.authority.feed_fed _)
    exact hfirst.trans (ih (hfirst.filed hf) rfl)

theorem admitMembers_acts (deadline : Option MonotonicTime) (operations : List TypedOperation)
    (admitted : List RequestAuthority.Member) {d : Desk} (hf : d.Filed)
    (hand : d.hand = admitted.map (·.key))
    (hdenied : ∀ member ∈ admitted, d.state.isDenied member.key = false) :
    (∀ a error, admitMembers deadline operations admitted d.authority =
        (a, .error error) → Acts clean whole d { d with authority := a, hand := [] }) ∧
    (∀ a members, admitMembers deadline operations admitted d.authority =
        (a, .ok members) →
      Acts clean whole d { d with authority := a, hand := members.map (·.key) } ∧
        ∀ member ∈ members, a.state.isDenied member.key = false) := by
  induction operations generalizing admitted d with
  | nil =>
    refine ⟨fun a error h => ?_, fun a members h => ?_⟩
    · cases h
    · cases h
      rw [← hand]
      exact ⟨.refl d, hdenied⟩
  | cons operation operations ih =>
    cases hcharge : operation.creditCharge d.authority.largeMtu with
    | error error =>
      simp only [admitMembers, hcharge]
      refine ⟨fun a error h => ?_, fun a members h => ?_⟩
      · cases h
        exact abandon_acts admitted hf hand
      · cases h
    | ok charge =>
      cases hone : d.authority.admitOne operation.payloadBytes charge deadline with
      | mk a₁ result =>
      simp only [admitMembers, hcharge, hone]
      cases result with
      | error error =>
        have hcalm : Acts clean whole d _ :=
          (Acts.refl d).calm hf (admitOne_error hone)
        refine ⟨fun a error h => ?_, fun a members h => ?_⟩
        · cases h
          exact hcalm.trans (abandon_acts admitted (hcalm.filed hf) hand)
        · cases h
      | ok plan =>
        have hfirst : Acts clean whole d _ := (Acts.refl d).admitted hone
        have admission := (admitOne_ok hone).2.1
        obtain ⟨herror, hok⟩ := ih
          (admitted ++ [⟨plan.key, operation.response, operation.replay⟩]) (hfirst.filed hf)
          (by rw [List.map_append, ← hand]; rfl) (by
            intro member hm
            rcases List.mem_append.mp hm with hm | hm
            · exact Bool.eq_false_iff.mpr fun hd =>
                Bool.eq_false_iff.mp (hdenied member hm) (admission.denied hd)
            · rw [List.mem_singleton.mp hm]
              exact admission.undenied)
        exact ⟨fun a error h => hfirst.trans (herror a error h),
          fun a members h => ⟨hfirst.trans (hok a members h).1, (hok a members h).2⟩⟩

end

namespace OwnerTask

variable {clean whole : Prop} {s : OwnerTask}

/-- A compound is taken as a whole or not at all. -/
theorem processCompoundAdmission_acts (hf : (s.desk []).Filed) (command : CompoundAdmission)
    (wire : Option SendFrame) :
    Acts clean whole (s.desk []) ((s.processCompoundAdmission command wire).desk []) := by
  have refused (error : RuntimeError) :
      let a := s.authority.deliver (.acknowledgedCompound command.number (.error error))
      Acts clean whole (s.desk []) ({ s with authority := a }.desk []) :=
    (Acts.refl _).calm hf (s.authority.deliver_calm _)
  unfold processCompoundAdmission
  split
  · exact refused _
  split
  · exact refused _
  split
  · exact refused _
  split
  · exact refused _
  split
  · exact .refl _
  split
  · rename_i a error h
    have herror : Acts clean whole (s.desk []) _ :=
      (admitMembers_acts _ _ [] (d := s.desk []) hf rfl (by simp)).1 a error h
    exact herror.calm hf (deliver_calm _ _)
  · rename_i a members h
    have hok : Acts clean whole (s.desk []) _ ∧ _ :=
      (admitMembers_acts _ _ [] (d := s.desk []) hf rfl (by simp)).2 a members h
    obtain ⟨hacts, hdenied⟩ := hok
    split
    · rename_i frame leader others hmembers
      have hcalm : a.Calm _ := (RequestAuthority.Calm.foldl
        registerMember_calm members a).trans (deliver_calm _
          (.acknowledgedCompound command.number
            (.ok ((leader :: others).map fun key => { key, requestRaw := none }))))
      refine (hacts.calm hf hcalm).tail (.pushed (.new leader (leader :: others) frame) []
        (by rw [← hmembers]; exact (List.append_nil _).symm)
        (WriteCommand.new_sealed List.mem_cons_self _) fun k hk => ?_)
      rw [← hmembers] at hk
      obtain ⟨member, hm, rfl⟩ := List.mem_map.mp hk
      exact hcalm.undenied (hacts.filed hf).sound (hdenied member hm)
    · exact (hacts.trans (abandon_acts members (hacts.filed hf) rfl)).calm hf
        (deliver_calm _ _)

/-! ## Control commands -/

def sendable (s : OwnerTask) : List RequestKey :=
  s.sendQueue.flatMap (·.members) ++
    match s.activeWrite with
    | some active => if s.stopsWrite active then [] else active.command.members
    | none => []

theorem stopsWrite_iff {w : ActiveWrite} {hand : List RequestKey} :
    s.stopsWrite w = true ↔ (s.desk hand).Stops w :=
  decide_eq_true_iff

theorem mem_sendable {key : RequestKey} {hand : List RequestKey} :
    (s.desk hand).MaySend key ↔ key ∈ s.sendable := by
  rw [sendable, List.mem_append]
  refine or_congr Iff.rfl ?_
  show (∃ w, s.activeWrite = some w ∧ _) ↔ _
  cases s.activeWrite with
  | none => simp
  | some w =>
    by_cases h : s.stopsWrite w = true
    · simp [h, stopsWrite_iff.mp h]
    · have hstops : ¬ (s.desk hand).Stops w := fun hs => h (stopsWrite_iff.mpr hs)
      simp [h, hstops]

/-- A cancel of a waiting request in a frame yet to be sent names the leader of the frame. -/
def CleanCancel (s : OwnerTask) (key : RequestKey) : Prop :=
  key ∈ s.sendable → s.authority.state.isOpen key = true →
    s.authority.state.isCommitted key = false →
    (∃ command ∈ s.sendQueue, command.key = key) ∨ ∃ active ∈ s.activeWrite,
    active.command.key = key

instance (s : OwnerTask) (key : RequestKey) : Decidable (s.CleanCancel key) := by
  unfold CleanCancel
  infer_instance

def WholeCancel (s : OwnerTask) (key : RequestKey) : Prop :=
  ∀ command ∈ s.sendQueue, command.key = key → ∀ member ∈ command.members, member ≠ key →
    s.authority.state.isOpen member = true → s.authority.state.isCommitted member = true

instance (s : OwnerTask) (key : RequestKey) : Decidable (s.WholeCancel key) := by
  unfold WholeCancel
  infer_instance

theorem cancel_acts (hf : (s.desk []).Filed) (key : RequestKey) (now : MonotonicTime) :
    Acts (s.CleanCancel key) (s.WholeCancel key) (s.desk []) ((s.cancel key now).desk []) := by
  obtain ⟨a, hbooks, ⟨before, command, after, hsplit, rfl, he⟩ |
    ⟨hnone, ⟨hpast, he⟩ | ⟨deferred, he⟩⟩⟩ :=
    s.cancel_cases key now
  · -- The frame is withdrawn as a whole; only its leader is settled.
    have hcalm : Acts (s.CleanCancel command.key) (s.WholeCancel command.key) (s.desk []) _ :=
      (Acts.refl _).calm hf (.of_bookkeeping hbooks)
    have hwithdrawn := hcalm.tail (.withdrawn before after command hsplit)
    have hfiled := hwithdrawn.filed hf
    have hleader : command.key ∈ command.members :=
      (hf.queued command (by
        show command ∈ s.sendQueue
        rw [hsplit]
        exact List.mem_append_right _ List.mem_cons_self)).leader
    have hsettled := hwithdrawn.tail
      (.settled _ _ (a.settle_fed (.cancel command.key now)) (by simp) fun _ k hk _ _ =>
        hk ▸ hfiled.not_maySend (List.mem_append_left _ hleader))
    rw [he]
    refine hsettled.cleared fun hwhole _ k hk hopen => ?_
    change k ∈ command.members ++ [] at hk
    rw [List.append_nil] at hk
    show (a.settle (.cancel command.key now)).state.isCommitted k = true
    change (a.settle (.cancel command.key now)).state.isOpen k = true at hopen
    rw [(a.settle_fed _).state, hbooks.state] at hopen ⊢
    have honward : s.authority.state.Onward []
        (s.authority.state.reduce (.cancel command.key now)).1 :=
      hf.sound.onward_unplanned (by simp)
    by_cases hkey : k = command.key
    · rw [hkey] at hopen
      exact absurd hopen (Bool.eq_false_iff.mp (closed_cancel hf.sound command.key now))
    · have hbefore := (honward.opened k hopen).resolve_right (by simp)
      exact honward.committed k (hwhole command
        (by rw [hsplit]; exact List.mem_append_right _ List.mem_cons_self) rfl k hk hkey hbefore)
  · have hcalm : Acts (s.CleanCancel key) (s.WholeCancel key) (s.desk []) _ :=
      (Acts.refl _).calm hf (.of_bookkeeping hbooks)
    rw [he]
    refine hcalm.tail (.settled _ _ (a.settle_fed (.cancel key now)) (by simp)
      fun hclean k hk hopen huncommitted hsend => ?_)
    obtain rfl : key = k := hk
    have hstate : a.state = s.authority.state := hbooks.state
    rw [show Desk.state { s.desk [] with authority := a } = s.authority.state from hstate]
      at hopen huncommitted
    have hsendable : (s.desk []).MaySend key := hsend.before hbooks.cancelled
    rcases hclean (mem_sendable.mp hsendable) hopen huncommitted with ⟨command, hc, hkey⟩ |
      ⟨w, hw, hkey⟩
    · exact hnone command hc hkey
    rcases hpast with hcommitted | hfree
    · rw [GenerationState.isCommitted, hcommitted] at huncommitted
      cases huncommitted
    · have htoken := (hf.active w hw).token
      rw [hkey] at htoken
      cases hfree.symm.trans htoken
  · rw [he]
    exact (Acts.refl _).calm hf (.trans (.of_bookkeeping hbooks)
      ⟨fun _ => .of_state rfl rfl (List.Subset.refl _) id, rfl, rfl⟩)

/-- A control command is a sequence of acts; a cancellation may need its request's whole frame. -/
theorem handleControl_acts (hf : (s.desk []).Filed) (command : ControlCommand)
    (hclean : ∀ key now, command = .cancel key now → clean → s.CleanCancel key)
    (hwhole : ∀ key now, command = .cancel key now → whole → s.WholeCancel key) :
    Acts clean whole (s.desk []) ((s.handleControl command).desk []) := by
  have calm {a : RequestAuthority} (h : s.authority.Calm a) :
      Acts clean whole (s.desk []) ({ s with authority := a }.desk []) :=
    (Acts.refl _).calm hf h
  have objects (objects : ObjectRegistry) (delivery : Delivery) :
      s.authority.Calm ({ s.authority with objects }.deliver delivery) :=
    ⟨fun _ => .of_state rfl rfl (List.Subset.refl _) id, rfl, rfl⟩
  cases command with
  | createObject parent kind => exact calm (s.authority.onObjects_calm _ _ _)
  | loseObjectGeneration => exact calm (objects _ _)
  | beginObjectRecovery object => exact calm (s.authority.onObjects_calm _ _ _)
  | publishObjectReplacement object => exact calm (objects _ _)
  | failObjectRecovery object => exact calm (s.authority.onObjects_calm _ _ _)
  | installNotifications =>
    exact calm ⟨fun _ => .of_state rfl rfl (List.Subset.refl _) id, rfl, rfl⟩
  | preauthSnapshot accepted => exact calm (s.authority.replyAccepted_calm _ _)
  | resetPreauthToNegotiate accepted => exact calm (s.authority.replyAccepted_calm _ _)
  | awaitOperation key => exact calm (s.authority.awaitOperation_calm key)
  | negotiated largeMtu accepted =>
    exact calm ((s.authority.setTargetCredits_calm _ _).trans
      (replyAccepted_calm _ _ _))
  | sessionStarted accepted => exact calm (s.authority.replyAccepted_calm _ _)
  | sessionEnded accepted => exact calm (s.authority.replyAccepted_calm _ _)
  | cancel key now => exact (cancel_acts hf key now).mono (hclean key now rfl) (hwhole key now rfl)
  | close deadline =>
    unfold handleControl
    dsimp only
    split
    · exact .refl _
    · exact calm (s.authority.deliver_calm _)

end OwnerTask

end Runtime
