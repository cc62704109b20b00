import SmbClient.Runtime.Proof.Served
import SmbClient.Runtime.Proof.Steps

/-!
# The owner's steps as changes of slots

`Turned` is the spec of one step inside the loop: which requests may have been dropped, and that
every detached submission it acknowledged has its result kept.
-/

namespace Runtime

open Msg

namespace RequestAuthority

variable {a b : RequestAuthority} {key : RequestKey} {seen : CommandResponse → Prop}
  {strict : Prop} {loose : RequestKey → Prop}

/-! ## Sealed requests -/

theorem Serves.dropped (h : a.Proper seen) (log : a.Log b)
    (early : b.earlyResponses = a.earlyResponses) (outbox : a.outbox <+: b.outbox)
    (acked : b.acknowledged = a.acknowledged) (hknown : a.state.isKnown key = true)
    (elsewhere : ∀ k, k ≠ key → b.slot k = a.slot k) (hseat : (b.slot key).seat = none)
    (hears : (a.slot key).outcome = none → ∀ st w, (a.slot key).seat = some st →
      st.terminal = some w → b.Told w) : Serves seen strict (· = key) [] a b := by
  refine .only h log early outbox acked hknown elsewhere (fun st w hst => ?_)
    (.single (.dropped _ rfl hseat hears))
  rw [hseat] at hst
  cases hst

theorem dropPending_gone (h : a.Proper seen) (hclosed : a.state.isOpen key = false)
    (delivery : Delivery) (hd : ∀ k i, delivery.answerTo (.awaiting k i) = none)
    (hacks : delivery.acknowledgedKeys = []) :
    Serves seen strict (· = key) [] a ((a.dropPending key).deliver delivery) := by
  have hacked : ((a.dropPending key).deliver delivery).acknowledged = a.acknowledged := by
    rw [acknowledged_deliver, hacks]
    exact List.append_nil _
  cases hknown : a.state.isKnown key with
  | false =>
    refine .idle h (.idle .refl rfl rfl) rfl (List.prefix_append _ _)
      (hacked.trans (List.append_nil _).symm) fun k => ?_
    rw [slot_deliver delivery hd]
    by_cases hk : k = key
    · subst hk
      rw [slot_dropPending, h.fresh k hknown]
      rfl
    · exact slot_dropPending_ne hk
  | true =>
    refine .dropped h (.idle .refl rfl rfl) rfl (List.prefix_append _ _) hacked hknown
      (fun k hk => (slot_deliver delivery hd).trans (slot_dropPending_ne hk)) ?_ fun hopen => ?_
    · rw [slot_deliver delivery hd, slot_dropPending]
    · rcases GenerationState.isOpen_or_outcome hknown with hwaits | ⟨o, ho⟩
      · rw [hclosed] at hwaits
        cases hwaits
      · exact nomatch ho.symm.trans hopen

def dropTold (a : RequestAuthority) (key : RequestKey) (answer : Answer) : RequestAuthority :=
  match a.operationPending.lookup key with
  | none => a
  | some pending =>
    let a := a.dropPending key
    match pending.terminal with
    | some waiter => a.deliver (.completed waiter answer)
    | none => a

theorem dropTold_spec (hw : ∀ st w, (a.slot key).seat = some st → st.terminal = some w → w.Of key)
    (answer : Answer) :
    let b := a.dropTold key answer
    Bookkeeping a b ∧ a.outbox <+: b.outbox ∧ b.acknowledged = a.acknowledged ∧
    (∀ k, k ≠ key → b.slot k = a.slot k) ∧ (b.slot key).seat = none ∧
    ∀ st w, (a.slot key).seat = some st → st.terminal = some w → b.Told w := by
  unfold dropTold
  split
  · rename_i hnone
    refine ⟨.refl a, List.prefix_rfl, rfl, fun _ _ => rfl, slot_unseated hnone, fun st w hst => ?_⟩
    rw [slot_unseated hnone] at hst
    cases hst
  rename_i pending hpending
  have only : ∀ st, (a.slot key).seat = some st → st = pending.seat := fun st hst =>
    Option.some.inj (hst.symm.trans (slot_seat hpending))
  dsimp only
  split
  · rename_i waiter hwaiter
    have hof : waiter.Of key := hw _ _ (slot_seat hpending) hwaiter
    refine ⟨(a.dropPending_bookkeeping key).trans (deliver_bookkeeping _ _), List.prefix_append _ _,
      ?_, fun k hk => ?_, ?_, fun st w hst hterminal => ?_⟩
    · rw [acknowledged_deliver]
      exact List.append_nil _
    · rw [slot_completed, Slot.tell_other _ hof hk, slot_dropPending_ne hk]
    · rw [slot_completed, slot_dropPending]
      rfl
    · rw [only st hst] at hterminal
      obtain rfl := Option.mem_unique hwaiter hterminal
      exact told_deliver waiter answer
  · rename_i hnone
    refine ⟨a.dropPending_bookkeeping key, List.prefix_rfl, rfl, fun k hk => slot_dropPending_ne hk,
      by rw [slot_dropPending], fun st w hst hterminal => ?_⟩
    rw [only st hst] at hterminal
    exact nomatch hnone.symm.trans hterminal

theorem prepareFailed_dropped (h : a.Proper seen) (hknown : a.state.isKnown key = true)
    (answer : Answer) :
    Serves seen strict (· = key) [] a ((a.feed (.prepareFailed key)).1.dropTold key answer) := by
  have honly : ∀ k o, (k, o) ∈ publications (a.state.reduce (.prepareFailed key)).2 → k = key :=
    fun k o ho => ((a.state.prepareFailed_move key).publications_aimed (by simp) ho).symm
  have hfed : ∀ k, k ≠ key → (a.feed (.prepareFailed key)).1.slot k = a.slot k := fun k hk =>
    slot_feed h _ fun o ho => hk (honly k o ho)
  obtain ⟨hbooks, houtbox, hacked, elsewhere, hseat, hears⟩ :=
    dropTold_spec (a := (a.feed (.prepareFailed key)).1)
      (fun st w hst => h.waiters key st w hst) answer
  exact .dropped h ((Log.event .refl _ rfl rfl).idle hbooks.state hbooks.fed)
    hbooks.earlyResponses houtbox hacked hknown (fun k hk => (elsewhere k hk).trans (hfed k hk))
    hseat fun _ st w hst => hears st w hst

theorem putPending_seat (h : a.Proper seen) {pending : OperationPending}
    (hp : a.operationPending.lookup key = some pending) (entry : OperationPending)
    (hseat : entry.seat = pending.seat) :
    Serves seen strict loose [] a (a.putPending key entry) := by
  refine .idle h (.idle .refl rfl rfl) rfl List.prefix_rfl (List.append_nil _).symm fun k => ?_
  by_cases hk : k = key
  · subst hk
    rw [slot_putPending, hseat, ← slot_seat hp]
  · exact slot_putPending_ne entry hk

/-! ## The owner's own work -/

theorem serves_rules (strict : Prop) (loose : RequestKey → Prop) :
    Rules fun a b => a.Proper seen → Serves seen strict loose [] a b where
  trans hab hbc ha := (hab ha).trans (hbc (hab ha).proper)
  aside state fed early pending awaits outbox ha := .same ha state fed early pending awaits outbox
  refuses a delivery hd ha := by
    have hspec : (∀ key index, delivery.answerTo (.awaiting key index) = none) ∧
        delivery.acknowledgedKeys = [] := by
      unfold Delivery.refuses at hd
      split at hd
      all_goals first | exact ⟨fun _ _ => rfl, rfl⟩ | cases hd
    exact hspec.2 ▸ deliver_serves ha delivery hspec.1
  reports a key event ha := feed_serves ha _ (publications_requestEvent a.state key event)
  cancels a key now ha := settle_serves ha (.cancel key now) (by simp)
  retargets a largeMtu credits ha :=
    .idle ha (.target .refl credits rfl rfl) rfl List.prefix_rfl (List.append_nil _).symm
      fun _ => rfl
  awaits a key ha := awaitOperation_serves ha key

theorem drainTerminals_spec (a : RequestAuthority) (error : RuntimeError) :
    a.outbox <+: (a.drainTerminals error).outbox ∧ (a.drainTerminals error).state = a.state := by
  have delivers {ι : Type} {f : RequestAuthority → ι → RequestAuthority}
      (hf : ∀ a i, a.outbox <+: (f a i).outbox ∧ (f a i).state = a.state) (is : List ι)
      (b : RequestAuthority) (hb : a.outbox <+: b.outbox ∧ b.state = a.state) :
      a.outbox <+: (is.foldl f b).outbox ∧ (is.foldl f b).state = a.state :=
    List.foldl_invariant (P := fun b : RequestAuthority => a.outbox <+: b.outbox ∧
      b.state = a.state) (fun b i hb => ⟨hb.1.trans (hf b i).1, (hf b i).2.trans hb.2⟩) is hb
  unfold drainTerminals
  refine delivers (fun b entry => ?_) _ _ ?_
  · split
    · exact ⟨List.prefix_append _ _, rfl⟩
    · exact ⟨List.prefix_rfl, rfl⟩
  · refine delivers (fun b number => ?_) _ _ ⟨List.prefix_rfl, rfl⟩
    exact ⟨List.prefix_append _ _, rfl⟩

end RequestAuthority

namespace OwnerTask

open RequestAuthority

variable {s s' : OwnerTask} {seen : CommandResponse → Prop} {strict : Prop}
  {loose : RequestKey → Prop}
variable {input : OwnerInput}

theorem finishPreparedOperation_serves (h : s.authority.Proper seen)
    (prepared : PreparedOperation) : SamePreparations s (s.finishPreparedOperation prepared) ∧
    ((∀ strict, Serves seen strict (· = prepared.key) [] s.authority
        (s.finishPreparedOperation prepared).authority) ∨
      Serves seen True (fun _ => False)
      (if prepared.acknowledge.detached then [prepared.key] else [])
        s.authority (s.finishPreparedOperation prepared).authority) := by
  let a : RequestAuthority := { s.authority with
    preparationCancellations := s.authority.preparationCancellations.erase prepared.key }
  have hstart (strict : Prop) (loose : RequestKey → Prop) :
      Serves seen strict loose [] s.authority a :=
    .same h
  have ha : a.Proper seen := (hstart True fun _ => False).proper
  have gone (outcome : TerminalOutcome) (hclosed : a.state.isOpen prepared.key = false)
      (strict : Prop) : Serves seen strict (· = prepared.key) [] s.authority
        ((a.dropPending prepared.key).deliver
          (.acknowledged prepared.acknowledge (.error (.terminal outcome)))) :=
    (hstart strict _).trans (dropPending_gone ha hclosed _ (fun _ _ => rfl) rfl)
  unfold finishPreparedOperation
  dsimp only
  split
  · rename_i hrequest
    exact ⟨⟨rfl, rfl⟩, .inl (gone _ (congrArg (Option.any _) hrequest))⟩
  rename_i record hrequest
  have hopen : a.state.isOpen prepared.key = record.callerIsOpen :=
    GenerationState.isOpen_of_request hrequest
  split
  · rename_i outcome hcaller
    refine ⟨⟨rfl, rfl⟩, .inl (gone outcome ?_)⟩
    rw [hopen, RequestRecord.callerIsOpen, hcaller]
    rfl
  rename_i hcaller
  have hwaits : a.state.isOpen prepared.key = true := by
    rw [hopen, RequestRecord.callerIsOpen, hcaller]
    rfl
  split
  · refine ⟨⟨rfl, rfl⟩, .inl fun strict => (hstart strict _).trans ?_⟩
    have hdropped : Serves seen strict (· = prepared.key) [] a _ := prepareFailed_dropped ha
      (GenerationState.isKnown_of_isOpen hwaits) (.error (.wire "prepare-outgoing"))
    exact hdropped.trans (deliver_serves hdropped.proper
      (.acknowledged prepared.acknowledge (.error (.wire "prepare-outgoing"))) fun _ _ => rfl)
  rename_i frame _
  split
  · refine ⟨⟨rfl, rfl⟩, .inl fun strict => (hstart strict _).trans ?_⟩
    have hrefused : Serves seen strict (· = prepared.key) [] a _ := deliver_serves ha
      (.acknowledged prepared.acknowledge (.error (.wire "prepared-operation-missing"))) fun _ _ => rfl
    exact hrefused.trans (.same hrefused.proper)
  · rename_i pending hpending
    let raw := requestRaw prepared.retainRaw frame
    have hput : Serves seen True (fun _ => False) [] a
        (a.putPending prepared.key { pending with requestRaw := raw }) :=
      putPending_seat ha hpending _ rfl
    have hacked := hput.trans (deliver_serves hput.proper
      (.acknowledged prepared.acknowledge (.ok ⟨prepared.key, raw⟩)) fun _ _ => rfl)
    have htaken : ServesOne seen True (fun _ => False) prepared.key _ _ :=
      takeEarlyResponse_serves hacked.proper (GenerationState.terminalOutcome_of_isOpen hwaits)
    exact ⟨⟨rfl, rfl⟩, .inr (((hstart _ _).trans hacked).trans_nil htaken.serves)⟩

inductive Finished (seen : CommandResponse → Prop) :
    List PreparedOperation → RequestAuthority → RequestAuthority → Prop
  | nil (a : RequestAuthority) : Finished seen [] a a
  | dropped {a b c : RequestAuthority} {prepared : PreparedOperation}
      {rest : List PreparedOperation}
      (serves : ∀ strict, Serves seen strict (· = prepared.key) [] a b)
      (finished : Finished seen rest b c) : Finished seen (prepared :: rest) a c
  | acknowledged {a b c : RequestAuthority} {prepared : PreparedOperation}
      {rest : List PreparedOperation}
      (serves : Serves seen True (fun _ => False)
        (if prepared.acknowledge.detached then [prepared.key] else []) a b)
      (finished : Finished seen rest b c) : Finished seen (prepared :: rest) a c

theorem finishPreparedOperations_finished (ready : List PreparedOperation)
    (h : s.authority.Proper seen) : SamePreparations s (ready.foldl finishPreparedOperation s) ∧
      Finished seen ready s.authority (ready.foldl finishPreparedOperation s).authority := by
  induction ready generalizing s with
  | nil => exact ⟨⟨rfl, rfl⟩, .nil _⟩
  | cons prepared ready ih =>
    obtain ⟨hsame, hdropped | hacked⟩ := finishPreparedOperation_serves h prepared
    · obtain ⟨hrest, hfinished⟩ := ih (hdropped True).proper
      exact ⟨⟨hrest.1.trans hsame.1, hrest.2.trans hsame.2⟩, .dropped hdropped hfinished⟩
    · obtain ⟨hrest, hfinished⟩ := ih hacked.proper
      exact ⟨⟨hrest.1.trans hsame.1, hrest.2.trans hsame.2⟩, .acknowledged hacked hfinished⟩

theorem Finished.serves {ready : List PreparedOperation} {a b : RequestAuthority}
    (ha : a.Proper seen) (h : Finished seen ready a b) :
    ∃ acks, Serves seen False (fun _ => True) acks a b := by
  induction h with
  | nil => exact ⟨[], .refl ha⟩
  | dropped hserves _ ih =>
    obtain ⟨acks, hrest⟩ := ih (hserves True).proper
    exact ⟨_, ((hserves True).mono False.elim fun _ _ => trivial).trans hrest⟩
  | acknowledged hserves _ ih =>
    obtain ⟨acks, hrest⟩ := ih hserves.proper
    exact ⟨_, (hserves.mono False.elim fun _ _ => trivial).trans hrest⟩

/-! ## One step -/

structure Quiet (seen : CommandResponse → Prop) (strict : Prop) (s s' : OwnerTask) : Prop where
  same : SamePreparations s s'
  serves : Serves seen strict (fun _ => False) [] s.authority s'.authority

inductive Turned (seen : CommandResponse → Prop) (strict : Prop) (s s' : OwnerTask) : Prop
  | quiet (quiet : Quiet seen strict s s')
  | operation (command : OperationAdmission)
      (submitted : Submitted seen strict (fun _ => False) command
        { s with waitingOperation := none } s')
  | compound (command : CompoundAdmission)
      (submitted : SubmittedCompound seen strict (fun _ => False) command
        { s with waitingCompound := none } s')
  | released (job : Preparation) (result : Option SendFrame)
      (preparations : s.preparations.Perm (job :: s'.preparations))
      (order : s'.preparationOrder = (s.preparationOrder.complete job.key
        ⟨job.key, result, job.retainRaw, job.acknowledge⟩).2)
      (finished : Finished seen (s.preparationOrder.complete job.key
        ⟨job.key, result, job.retainRaw, job.acknowledge⟩).1 s.authority s'.authority)

section

variable (h : s.authority.Proper seen)
include h

theorem Quiet.refl : Quiet seen strict s s := ⟨⟨rfl, rfl⟩, .refl h⟩

theorem Minds.quiet
    (minds : Minds (fun a b => a.Proper seen → Serves seen strict (fun _ => False) [] a b) s s') :
    Quiet seen strict s s' :=
  ⟨⟨minds.preparations, minds.order⟩, minds.tables h⟩

theorem processAdmission_quiet (command : AdmissionCommand) :
    Quiet seen strict s (s.processAdmission command) := by
  unfold processAdmission
  split
  · rename_i a plan hone
    have hadmitted : Serves seen strict (fun _ => False) [] s.authority a := admitOne_serves h hone
    have hfiled := hadmitted.trans (.same (b := { a with
      terminals := a.terminals.insert plan.key command.number }) hadmitted.proper rfl rfl rfl
        rfl rfl rfl)
    exact ⟨⟨rfl, rfl⟩, hfiled.trans (deliver_serves hfiled.proper
      (.acknowledgedRaw command.number (.ok plan.key)) fun _ _ => rfl)⟩
  · rename_i a error hone
    have hadmitted : Serves seen strict (fun _ => False) [] s.authority a := admitOne_serves h hone
    exact ⟨⟨rfl, rfl⟩, hadmitted.trans (refuseRaw_serves hadmitted.proper command error)⟩

theorem prepared_turned (key : RequestKey) (result : Option SendFrame) :
    Turned seen strict s (s.prepared key result) := by
  unfold prepared
  split
  · exact .quiet (.refl h)
  rename_i job hjob
  obtain rfl : job.key = key := by simpa using List.find?_some hjob
  obtain ⟨hsame, hfinished⟩ := finishPreparedOperations_finished (s := { s with
    preparations := s.preparations.eraseP fun j => j.key = job.key
    preparationOrder := (s.preparationOrder.complete job.key
      ⟨job.key, result, job.retainRaw, job.acknowledge⟩).2 })
    (s.preparationOrder.complete job.key ⟨job.key, result, job.retainRaw, job.acknowledge⟩).1 h
  refine .released job result ?_ hsame.2 hfinished
  obtain ⟨-, before, after, hsplit, hbefore⟩ := List.find?_eq_some_iff_append.mp hjob
  have hrest : s.preparations.eraseP (fun j => j.key = job.key) = before ++ after := by
    rw [hsplit, List.eraseP_append_right _ (fun j hj => by simpa using hbefore j hj),
      List.eraseP_cons_of_pos (p := fun j : Preparation => decide (j.key = job.key)) (by simp)]
  rw [hsame.1, hrest, hsplit]
  exact List.perm_middle

end

def Timely (s : OwnerTask) (input : OwnerInput) : Prop :=
  ∀ visit ∈ s.routed input, visit.authority.Timely visit.message

def Reads (seen : CommandResponse → Prop) (strict : Prop) (s : OwnerTask) (input : OwnerInput) :
    Prop :=
  ∀ visit ∈ s.routed input, visit.Read seen strict

theorem decoded_quiet (h : s.authority.Proper seen) (sequence : ℕ)
    (result : Option (List (CommandResponse × Bool))) (laneFull : Bool)
    (ht : s.Reads seen strict (.work (.decoded sequence result laneFull))) :
    Quiet seen strict s (s.decoded sequence result laneFull) := by
  unfold Reads routed at ht
  unfold decoded
  split
  · exact .refl h
  rename_i job hjob
  simp only [hjob] at ht
  exact ⟨⟨rfl, rfl⟩, finishPreparedInbounds_serves _ _ _ h ht⟩

theorem work_quiet (h : s.authority.Proper seen) {work : Work} (hw : work.publishes = true)
    (ht : s.Reads seen strict (.work work)) : Quiet seen strict s (s.work work) := by
  cases work with
  | received bytes =>
    unfold OwnerTask.work
    dsimp only
    split
    · exact ⟨⟨rfl, rfl⟩, .refl h⟩
    · exact .refl h
  | readFailed error laneFull => exact ⟨⟨rfl, rfl⟩,
    (serves_rules _ _).processIo _ s.config.emitEvents laneFull (.failed error) h⟩
  | readPanicked => exact ⟨⟨rfl, rfl⟩, .same h⟩
  | decoded sequence result laneFull => exact decoded_quiet h sequence result laneFull ht
  | _ => cases hw

theorem unparkedOperation (h : s.waitingOperation = none) :
    { s with waitingOperation := none } = s := by
  rw [← h]

theorem unparkedCompound (h : s.waitingCompound = none) :
    { s with waitingCompound := none } = s := by
  rw [← h]

theorem work_turned (h : s.authority.Proper seen) (work : Work)
    (ht : s.Reads seen strict (.work work)) :
    Turned seen strict s (s.work work) := by
  cases work with
  | prepared key result => exact prepared_turned h key result
  | control command => exact .quiet (((serves_rules _ _).handleControl s command).quiet h)
  | admission command => exact .quiet (processAdmission_quiet h command)
  | operation command wire =>
    unfold OwnerTask.work
    dsimp only
    split
    · rename_i hfree
      refine .operation command ?_
      rw [unparkedOperation hfree.1]
      exact processOperationAdmission_submitted h command wire
    · exact .quiet (.refl h)
  | compound command wire =>
    unfold OwnerTask.work
    dsimp only
    split
    · rename_i hfree
      refine .compound command ?_
      rw [unparkedCompound hfree.2.1]
      exact processCompoundAdmission_submitted h command wire
    · exact .quiet (.refl h)
  | _ => exact .quiet (work_quiet h rfl ht)

/-! ## The teardown -/

theorem teardown_serves (h : s.authority.Proper seen) (lanes : Lanes) :
    ∃ a, Serves seen strict loose [] s.authority a ∧ (∀ k, a.state.isOpen k = false) ∧
      a.outbox <+: (s.teardown lanes).authority.outbox ∧
      (s.teardown lanes).authority.state = a.state := by
  let error := s.publishShutdownReason.shutdownReason.getD .closed
  have hcancelled : Serves seen strict loose [] s.authority _ :=
    (serves_rules _ _).cancelAll s.authority error lanes s.waitingOperation s.waitingCompound
      (s.sendQueue.map WriteCommand.cancelBeforeWrite) h
  refine ⟨_, hcancelled.trans (settle_serves hcancelled.proper (.disconnect (networkFailure error))
    (by simp)), fun k => ?_, drainTerminals_spec _ error⟩
  rw [(RequestAuthority.settle_fed _ _).state, closed_disconnect]

/-! ## Every run -/

theorem exited_of_step (h : (s.step input).exited = false) : s.exited = false := by
  by_contra hout
  rw [Bool.not_eq_false] at hout
  have hlast : ∀ bytes completion, (s.finishActiveWrite bytes completion).exited = s.exited := by
    intro bytes completion
    unfold finishActiveWrite
    repeat' split
    all_goals rfl
  rcases step_exited hout input with he | ⟨bytes, completion, he⟩
  · rw [he, hout] at h
    cases h
  · rw [he, hlast, hout] at h
    cases h

/-- **Every step serves**: it admits a submission, or changes slots as its messages say. -/
theorem step_turned (h : s.authority.Proper seen) (hexited : (s.step input).exited = false)
    (ht : s.Reads seen strict input) : Turned seen strict s (s.step input) := by
  have hinside := exited_of_step hexited
  unfold step at hexited ⊢
  split at hexited
  · rename_i hpanicked
    rw [if_pos hpanicked]
    exact .quiet (.refl h)
  rename_i hpanicked
  simp only [if_neg hpanicked, hinside, Bool.false_eq_true, if_false] at hexited ⊢
  cases input with
  | work work => exact work_turned h work ht
  | enqueueInbound => exact .quiet (((serves_rules _ _).enqueueInbound s).quiet h)
  | retryOperation wire =>
    dsimp only
    unfold retryOperation
    split
    · exact .quiet (.refl h)
    rename_i command _
    exact .operation command
      (processOperationAdmission_submitted (s := { s with waitingOperation := none }) h
        command wire)
  | retryCompound wire =>
    dsimp only
    unfold retryCompound
    split
    · exact .quiet (.refl h)
    rename_i command _
    split
    · exact .compound command
        (processCompoundAdmission_submitted (s := { s with waitingCompound := none }) h
          command wire)
    · exact .quiet (.refl h)
  | dispatchNext => exact .quiet (((serves_rules _ _).dispatchNext s).quiet h)
  | awaited work =>
    dsimp only
    split
    · exact .quiet (.refl h)
    have ht : s.Reads seen strict (.work work) := by
      intro visit hvisit
      cases work with
      | decoded sequence result laneFull => exact ht visit hvisit
      | _ => cases hvisit
    split
    · rename_i hpublishes
      have hquiet := work_quiet h hpublishes ht
      exact .quiet ((Minds.publishIfFatal ⟨hquiet.same.1, hquiet.same.2, (work_keeps work).exited,
        fun _ => hquiet.serves⟩).quiet h)
    · exact work_turned h work ht
  | polledWrite bytes completion progressLaneFull laneFull =>
    dsimp only
    split
    · exact .quiet (.refl h)
    · exact .quiet (((serves_rules _ _).polledWrite s _ _ _ _).quiet h)
  | deadline now =>
    dsimp only
    split
    · exact .quiet (.refl h)
    · exact .quiet (((serves_rules _ _).deadlineExpired s fun ha =>
        settle_serves ha (.advanceTime now) (by simp)).quiet h)
  | leave lanes => cases hexited
  | finishWrite bytes completion => exact .quiet (.refl h)

theorem Turned.serves (ha : s.authority.Proper seen) (h : Turned seen strict s s') :
    ∃ acks, Serves seen False (fun _ => True) acks s.authority s'.authority := by
  have weaken {acks : List RequestKey} (h : Serves seen strict (fun _ => False) acks s.authority
      s'.authority) : ∃ acks, Serves seen False (fun _ => True) acks s.authority s'.authority :=
    ⟨acks, h.mono False.elim fun _ _ => trivial⟩
  cases h with
  | quiet quiet => exact weaken quiet.serves
  | operation command submitted =>
    cases submitted with
    | refused _ _ serves => exact weaken serves
    | parked _ _ _ state => exact ⟨[], by rw [state]; exact .refl ha⟩
    | queued _ _ serves => exact weaken serves
    | preparing _ _ serves => exact weaken serves
  | compound command submitted =>
    cases submitted with
    | refused _ _ serves => exact weaken serves
    | parked _ _ _ state => exact ⟨[], by rw [state]; exact .refl ha⟩
    | queued _ _ serves => exact weaken serves
  | released _ _ _ _ finished => exact finished.serves ha

theorem start_proper (config : RuntimeConfig) :
    (start config).authority.Proper seen where
  sound := (start_kept config).filed.sound
  fresh _ _ := rfl
  waiters _ _ _ h := nomatch h
  dry _ _ _ h := nomatch h
  early _ _ h := nomatch h

/-- **Every step keeps the tables proper.** -/
theorem step_proper (h : s.authority.Proper seen) (hexited : (s.step input).exited = false)
    (ht : s.Reads seen False input) : (s.step input).authority.Proper seen := by
  obtain ⟨acks, hserves⟩ := (step_turned h hexited ht).serves h
  exact hserves.proper

end OwnerTask

end Runtime
