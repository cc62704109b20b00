import SmbClient.Runtime.Proof.Desk

/-!
# Functions that end no request

Most functions only register, deliver and answer: they deny nobody the wire and leave the frame
being written alone (`Calm`).
-/

namespace Runtime

namespace RequestAuthority

structure Calm (a a' : RequestAuthority) : Prop where
  still : a.state.Sound → a.Still a'
  frameMembers : a'.frameMembers = a.frameMembers
  frameCancellations : a'.frameCancellations = a.frameCancellations

namespace Calm

variable {a b c : RequestAuthority}

theorem refl (a : RequestAuthority) : Calm a a := ⟨fun _ => .refl a, rfl, rfl⟩

theorem trans (h : Calm a b) (h' : Calm b c) : Calm a c where
  still hs := (h.still hs).trans (h'.still ((h.still hs).sound hs))
  frameMembers := h'.frameMembers.trans h.frameMembers
  frameCancellations := h'.frameCancellations.trans h.frameCancellations

theorem foldl {ι : Type} {f : RequestAuthority → ι → RequestAuthority}
    (h : ∀ a i, Calm a (f a i)) (is : List ι) (a : RequestAuthority) : Calm a (is.foldl f a) :=
  List.foldl_invariant (P := Calm a) (fun b i hb => hb.trans (h b i)) is (refl a)

theorem ite {p : Prop} [Decidable p] (h : Calm a b) (h' : Calm a c) :
    Calm a (if p then b else c) := by
  split
  · exact h
  · exact h'

theorem of_bookkeeping (h : Bookkeeping a b) : Calm a b :=
  ⟨fun _ => .of_bookkeeping h, h.frameMembers, h.frameCancellations⟩

theorem feed (a : RequestAuthority) (event : OwnerEvent)
    (hplans : ∀ payload charge deadline, event ≠ .admitRequest payload charge deadline)
    (hends : ∀ s key, ¬ event.MayEnd s key) : Calm a (a.feed event).1 :=
  ⟨fun hs => .feed a event (hs.plans_nil hplans) hends hs, rfl, rfl⟩

end Calm

variable (a : RequestAuthority) (key : RequestKey)

/-! ## Failing and answering -/

variable (error : RuntimeError)

theorem fail_calm : Calm a (a.fail error) :=
  ⟨fun _ => .of_state rfl rfl (List.Subset.refl _) nofun, rfl, rfl⟩

theorem failFirst_calm : Calm a (a.failFirst error) :=
  ⟨fun _ => .of_state rfl rfl (List.Subset.refl _) nofun, rfl, rfl⟩

theorem deliver_calm (delivery : Delivery) : Calm a (a.deliver delivery) :=
  .of_bookkeeping (a.deliver_bookkeeping delivery)

theorem refuse_calm (submission : Submission) (error : RuntimeError) :
    Calm a (a.refuse submission error) :=
  .of_bookkeeping (a.refuse_bookkeeping submission error)

theorem refuseRaw_calm (command : AdmissionCommand) (error : RuntimeError) :
    Calm a (a.refuseRaw command error) :=
  (a.deliver_calm _).trans (deliver_calm _ _)

theorem acknowledgedRaw_calm (terminals : Table RequestKey ℕ) (delivery : Delivery) :
    Calm a ({ a with terminals }.deliver delivery) :=
  ⟨fun _ => .of_state rfl rfl (List.Subset.refl _) id, rfl, rfl⟩

theorem onObjects_calm {α : Type} (result : Except ObjectError α) (objects : α → ObjectRegistry)
    (reply : α → ControlReply) : Calm a (a.onObjects result objects reply) := by
  unfold onObjects
  split
  · exact a.deliver_calm _
  · exact ⟨fun _ => .of_state rfl rfl (List.Subset.refl _) id, rfl, rfl⟩

theorem replyAccepted_calm (accepted : Bool) (stage : String) :
    Calm a (a.replyAccepted accepted stage) :=
  a.deliver_calm _

theorem setTargetCredits_calm (credits : ℕ) (largeMtu : Bool) :
    Calm a { a with largeMtu, state := a.state.setTargetCredits credits } :=
  ⟨fun _ => ⟨.target .refl credits rfl rfl, .same rfl, fun hs => hs.setTargetCredits credits,
    fun _ _ h => h, List.Subset.refl _, id⟩, rfl, rfl⟩

theorem failWaiting_calm (lanes : OwnerTask.Lanes)
    (waitingOperation : Option OperationAdmission) (waitingCompound : Option CompoundAdmission) :
    Calm a (a.failWaiting error lanes waitingOperation waitingCompound) := by
  have refuses (a : RequestAuthority) (command : OperationAdmission) :
      Calm a (a.refuse command.submission error) := a.refuse_calm command.submission error
  exact ((((Calm.foldl (fun a command => a.refuseRaw_calm command error) _ a).trans
    (.foldl (fun a _ => a.deliver_calm _) _ _)).trans (.foldl refuses _ _)).trans
    (.foldl refuses _ _)).trans (.foldl (fun a _ => a.deliver_calm _) _ _)

theorem cancelAll_calm (lanes : OwnerTask.Lanes)
    (waitingOperation : Option OperationAdmission) (waitingCompound : Option CompoundAdmission)
    (queued : List CancellationToken) :
    Calm a (a.cancelAll error lanes waitingOperation waitingCompound queued) := by
  have prepared : Calm a { a with
      preparationCancellations := ∅
      cancelled := a.preparationCancellations.values ++ a.cancelled } :=
    ⟨fun _ => .of_state rfl rfl (List.subset_append_right _ _) id, rfl, rfl⟩
  exact (prepared.trans (failWaiting_calm _ error lanes waitingOperation waitingCompound)).trans
    ⟨fun _ => .of_state rfl rfl (List.subset_append_right _ _) id, rfl, rfl⟩

theorem cancelAll_cancelled {error : RuntimeError} {lanes : OwnerTask.Lanes}
    {waitingOperation : Option OperationAdmission} {waitingCompound : Option CompoundAdmission}
    {queued : List CancellationToken} {token : CancellationToken}
    (h : a.frameCancellations.lookup key = some token) :
    token ∈ (a.cancelAll error lanes waitingOperation waitingCompound queued).cancelled := by
  have hcalm := a.cancelAll_calm error lanes waitingOperation waitingCompound queued
  rw [← hcalm.frameCancellations] at h
  exact List.mem_append_left _ (List.mem_append_right _ (Table.mem_values.mpr ⟨key, h⟩))

theorem drainTerminals_calm : Calm a (a.drainTerminals error) := by
  have emptied : Calm a { a with terminals := ∅, operationPending := ∅ } :=
    ⟨fun _ => .of_state rfl rfl (List.Subset.refl _) id, rfl, rfl⟩
  refine (emptied.trans (.foldl (fun a _ => a.deliver_calm _) _ _)).trans
    (.foldl (fun a e => ?_) _ _)
  split
  · exact a.deliver_calm _
  · exact .refl a

theorem awaitOperation_calm : Calm a (a.awaitOperation key) := by
  unfold awaitOperation
  refine .trans (b := a.countAwait key) ?_ ?_
  · unfold countAwait
    split
    · exact ⟨fun _ => .of_state rfl rfl (List.Subset.refl _) id, rfl, rfl⟩
    · exact .refl a
  dsimp only
  split
  · exact deliver_calm _ _
  split
  · refine .trans ?_ (deliver_calm _ _)
    split
    · exact .of_bookkeeping (putPending_bookkeeping _ _ _)
    · exact .of_bookkeeping (dropPending_bookkeeping _ _)
  split
  · exact deliver_calm _ _
  · exact .of_bookkeeping (putPending_bookkeeping _ _ _)

/-! ## Reports and responses -/

theorem progress_calm (members : List RequestKey) (event : RequestProgress) :
    Calm a (a.progress members event) :=
  .foldl (fun a member =>
    .feed a (.request member event) (by simp) fun _ _ h => h) members a

variable (message : CommandResponse)

theorem processDecodedResponse_calm : Calm a (a.processDecodedResponse message) := by
  rcases a.processDecodedResponse_cases message with ⟨error, he⟩ | ⟨-, hb⟩ | hb
  · rw [he]
    exact a.fail_calm error
  · exact (Calm.feed a (.recoveryHint _) (by simp) fun _ _ h => h).trans (.of_bookkeeping hb)
  · exact (Calm.feed a (.response _ _ _) (by simp) fun _ _ h => h).trans (.of_bookkeeping hb)

theorem takeEarlyResponse_calm : Calm a (a.takeEarlyResponse key) := by
  unfold takeEarlyResponse
  split
  · exact .refl a
  have erased : Calm a { a with earlyResponses := a.earlyResponses.erase key } :=
    ⟨fun _ => .of_state rfl rfl (List.Subset.refl _) id, rfl, rfl⟩
  exact erased.trans (processDecodedResponse_calm _ _)

theorem acknowledged_calm (entry : OperationPending) (delivery : Delivery) :
    Calm a (((a.putPending key entry).deliver delivery).takeEarlyResponse key) :=
  ((Calm.of_bookkeeping (a.putPending_bookkeeping key entry)).trans (deliver_calm _ _)).trans
    (takeEarlyResponse_calm _ _)

theorem registerMember_calm (member : Member) : Calm a (a.registerMember member) :=
  (Calm.of_bookkeeping (a.putPending_bookkeeping _ _)).trans (takeEarlyResponse_calm _ _)

theorem routeMessage_calm (laneFull : Bool) : Calm a (a.routeMessage message laneFull) := by
  have parked (table : Table RequestKey CommandResponse) :
      Calm a { a with earlyResponses := table } :=
    ⟨fun _ => .of_state rfl rfl (List.Subset.refl _) id, rfl, rfl⟩
  refine .ite (a.processDecodedResponse_calm message) (.ite ?_ (.ite (a.fail_calm _) ?_))
  · exact .ite (a.failFirst_calm _) (.refl a)
  · exact .ite ((parked _).trans (fail_calm _ _)) (parked _)

theorem finishPreparedInbound_calm (emitEvents laneFull : Bool) (inbound : PreparedInbound) :
    Calm a (a.finishPreparedInbound emitEvents laneFull inbound) := by
  have routed (messages : List (CommandResponse × Bool)) :
      Calm a (messages.foldl (fun a message => a.routeMessage message.1 message.2) a) :=
    .foldl (fun a (message : CommandResponse × Bool) => a.routeMessage_calm message.1 message.2) _ a
  unfold finishPreparedInbound
  cases inbound.result with
  | none => exact .ite ((a.fail_calm _).trans (failFirst_calm _ _)) (a.fail_calm _)
  | some messages => exact .ite ((routed _).trans (failFirst_calm _ _)) (routed _)

/-! ## Admitting one request -/

variable {a} {a' : RequestAuthority} {payload : ℕ} {charge : UInt16}
    {deadline : Option MonotonicTime}

theorem admitOne_eq (a : RequestAuthority) (payload : ℕ) (charge : UInt16)
    (deadline : Option MonotonicTime) : a.admitOne payload charge deadline =
      match (a.state.admitRequest payload charge deadline).2 with
      | .admitted plan => ((a.feed (.admitRequest payload charge deadline)).1, .ok plan)
      | .admissionRejected error =>
        ((a.feed (.admitRequest payload charge deadline)).1, .error (.admission error))
      | _ => ((a.feed (.admitRequest payload charge deadline)).1, .error .ownerTerminated) := by
  have hhead : (a.feed (.admitRequest payload charge deadline)).2.head? =
      some (a.state.admitRequest payload charge deadline).2 := rfl
  unfold admitOne
  dsimp only
  rw [hhead]
  cases (a.state.admitRequest payload charge deadline).2 with
  | _ => rfl

/-- An admission that succeeds feeds the reducer one event, which admits the plan. -/
theorem admitOne_ok {plan : PreparationPlan}
    (h : a.admitOne payload charge deadline = (a', .ok plan)) :
    Fed (.admitRequest payload charge deadline) a a' ∧ Admission a.state plan a'.state ∧
      plan.callerDeadline = deadline := by
  have hmove := a.state.admitRequest_move payload charge deadline
  rw [admitOne_eq] at h
  split at h
  · rename_i he
    obtain ⟨rfl, hp⟩ := Prod.mk.inj h
    cases hp
    refine ⟨a.feed_fed _, ?_⟩
    cases hmove with
    | idle _ quiet => rw [he] at quiet; cases quiet.plans
    | admitted p _ _ _ request terms told admission =>
      rw [he] at told
      cases told
      cases request
      exact ⟨admission, terms.2.2⟩
    | touch _ _ _ touch _ => exact touch.aims.elim
    | stale _ _ _ time => cases time
    | expired _ _ _ _ time => cases time
  · cases h
  · cases h

theorem admitOne_error {error : RuntimeError}
    (h : a.admitOne payload charge deadline = (a', .error error)) : Calm a a' := by
  have calm : plans [(a.state.admitRequest payload charge deadline).2] = [] →
      Calm a (a.feed (.admitRequest payload charge deadline)).1 := fun hp =>
    ⟨fun hs => .feed a _ hp (fun _ _ h => h) hs, rfl, rfl⟩
  rw [admitOne_eq] at h
  split at h
  · cases h
  · rename_i he
    obtain ⟨rfl, -⟩ := Prod.mk.inj h
    exact calm (by rw [he]; rfl)
  · rename_i hne _
    obtain ⟨rfl, -⟩ := Prod.mk.inj h
    refine calm ?_
    cases he : (a.state.admitRequest payload charge deadline).2 with
    | admitted plan => exact absurd he (hne plan)
    | _ => rfl

end RequestAuthority

end Runtime
