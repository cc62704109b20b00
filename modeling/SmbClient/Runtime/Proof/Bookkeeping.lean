import SmbClient.Runtime.OwnerTask

/-!
# What carrying out effects does not touch

Functions that carry out effects only write to the tables of who waits and to the outbox
(`Bookkeeping`). A decoded response is refused, or it is one event and bookkeeping.
-/

namespace Runtime

namespace RequestAuthority

structure Bookkeeping (a a' : RequestAuthority) : Prop where
  state : a'.state = a.state
  earlyResponses : a'.earlyResponses = a.earlyResponses
  frameMembers : a'.frameMembers = a.frameMembers
  frameCancellations : a'.frameCancellations = a.frameCancellations
  deferredCancellations : a'.deferredCancellations = a.deferredCancellations
  largeMtu : a'.largeMtu = a.largeMtu
  fatal : a'.fatal = a.fatal
  fed : a'.fed = a.fed
  awaits : a'.awaits = a.awaits
  cancelled : a.cancelled ⊆ a'.cancelled

namespace Bookkeeping

theorem refl (a : RequestAuthority) : Bookkeeping a a :=
  ⟨rfl, rfl, rfl, rfl, rfl, rfl, rfl, rfl, rfl, List.Subset.refl _⟩

theorem trans {a b c : RequestAuthority} (h : Bookkeeping a b) (h' : Bookkeeping b c) :
    Bookkeeping a c where
  state := h'.state.trans h.state
  earlyResponses := h'.earlyResponses.trans h.earlyResponses
  frameMembers := h'.frameMembers.trans h.frameMembers
  frameCancellations := h'.frameCancellations.trans h.frameCancellations
  deferredCancellations := h'.deferredCancellations.trans h.deferredCancellations
  largeMtu := h'.largeMtu.trans h.largeMtu
  fatal := h'.fatal.trans h.fatal
  fed := h'.fed.trans h.fed
  awaits := h'.awaits.trans h.awaits
  cancelled := List.Subset.trans h.cancelled h'.cancelled

theorem foldl {ι : Type} {f : RequestAuthority → ι → RequestAuthority}
    (h : ∀ a i, Bookkeeping a (f a i)) (is : List ι) (a : RequestAuthority) :
    Bookkeeping a (is.foldl f a) :=
  List.foldl_invariant (P := Bookkeeping a) (fun b i hb => hb.trans (h b i)) is (refl a)

end Bookkeeping

variable (a : RequestAuthority) (key : RequestKey)

theorem deliver_bookkeeping (delivery : Delivery) : Bookkeeping a (a.deliver delivery) :=
  ⟨rfl, rfl, rfl, rfl, rfl, rfl, rfl, rfl, rfl, List.Subset.refl _⟩

theorem putPending_bookkeeping (entry : OperationPending) :
    Bookkeeping a (a.putPending key entry) :=
  ⟨rfl, rfl, rfl, rfl, rfl, rfl, rfl, rfl, rfl, List.Subset.refl _⟩

theorem dropPending_bookkeeping : Bookkeeping a (a.dropPending key) :=
  ⟨rfl, rfl, rfl, rfl, rfl, rfl, rfl, rfl, rfl, List.Subset.refl _⟩

theorem cancelToken_bookkeeping (token : CancellationToken) : Bookkeeping a (a.cancelToken token) :=
  ⟨rfl, rfl, rfl, rfl, rfl, rfl, rfl, rfl, rfl, List.subset_cons_self _ _⟩

theorem cancelSome_bookkeeping (token : Option CancellationToken) :
    Bookkeeping a (a.cancelSome token) := by
  cases token with
  | none => exact .refl a
  | some token => exact a.cancelToken_bookkeeping token

theorem completeOperation_bookkeeping (result : Except RuntimeError OperationResult) :
    Bookkeeping a (a.completeOperation key result) := by
  unfold completeOperation
  split
  · exact .refl a
  dsimp only
  split
  · exact (a.dropPending_bookkeeping key).trans (deliver_bookkeeping _ _)
  · exact a.putPending_bookkeeping key _

theorem cancelRolledBackPreparation_bookkeeping :
    Bookkeeping a (a.cancelRolledBackPreparation key) := by
  unfold cancelRolledBackPreparation
  split
  · exact .refl a
  · exact ⟨rfl, rfl, rfl, rfl, rfl, rfl, rfl, rfl, rfl, List.subset_cons_self _ _⟩

theorem markDraining_bookkeeping : Bookkeeping a (a.markDraining key) := by
  unfold markDraining
  split
  · exact .refl a
  · exact a.putPending_bookkeeping key _

variable (publication : RequestKey × TerminalOutcome)

theorem publishOperation_bookkeeping : Bookkeeping a (a.publishOperation publication) := by
  unfold publishOperation
  dsimp only
  split
  · exact .refl a
  split
  · exact .refl a
  split
  · split
    · exact (a.putPending_bookkeeping _ _).trans (deliver_bookkeeping _ _)
    · exact a.putPending_bookkeeping _ _
  · exact a.completeOperation_bookkeeping _ _

theorem publishRaw_bookkeeping : Bookkeeping a (a.publishRaw publication) := by
  unfold publishRaw
  dsimp only
  split
  · exact .refl a
  · exact ⟨rfl, rfl, rfl, rfl, rfl, rfl, rfl, rfl, rfl, List.Subset.refl _⟩

variable (effects : List OwnerEffect)

theorem applyOperationEffects_bookkeeping : Bookkeeping a (a.applyOperationEffects effects) :=
  ((Bookkeeping.foldl cancelRolledBackPreparation_bookkeeping _ a).trans
    (.foldl markDraining_bookkeeping _ _)).trans (.foldl publishOperation_bookkeeping _ _)

theorem applyOwnerEffects_bookkeeping : Bookkeeping a (a.applyOwnerEffects effects) :=
  .foldl publishRaw_bookkeeping _ a

theorem settle_bookkeeping (event : OwnerEvent) : Bookkeeping (a.feed event).1 (a.settle event) :=
  (applyOperationEffects_bookkeeping _ _).trans (applyOwnerEffects_bookkeeping _ _)

theorem refuse_bookkeeping (submission : Submission) (error : RuntimeError) :
    Bookkeeping a (a.refuse submission error) := by
  unfold refuse
  split
  · exact (deliver_bookkeeping a _).trans (deliver_bookkeeping _ _)
  · exact deliver_bookkeeping a _

variable (message : CommandResponse)

theorem acceptFinalResponse_bookkeeping :
    Bookkeeping (a.feed (.response key .final message.creditRequest)).1
      (a.acceptFinalResponse key message) := by
  unfold acceptFinalResponse
  dsimp only
  split
  · exact (applyOwnerEffects_bookkeeping _ _).trans (completeOperation_bookkeeping _ _ _)
  split
  · exact applyOwnerEffects_bookkeeping _ _
  split
  · exact (applyOwnerEffects_bookkeeping _ _).trans (dropPending_bookkeeping _ _)
  · exact applyOwnerEffects_bookkeeping _ _

def keyOf : RequestKey := ⟨a.state.generation, message.messageId⟩

/-- What the reducer is told of a response. -/
def answerOf : ResponseEvent :=
  match message.asyncId with
  | some asyncId =>
    if Msg.Status.tryFrom message.status = some .pending then .pending asyncId else .final
  | none => .final

/-- A response fails the generation, is a hint, or is fed; the rest is bookkeeping. -/
theorem processDecodedResponse_cases : (∃ error, a.processDecodedResponse message = a.fail error) ∨
    (message.unauthenticatedRecoveryHint = true ∧
      Bookkeeping (a.feed (.recoveryHint (a.keyOf message))).1 (a.processDecodedResponse message)) ∨
    Bookkeeping (a.feed (.response (a.keyOf message) (answerOf message) message.creditRequest)).1
      (a.processDecodedResponse message) := by
  unfold processDecodedResponse
  dsimp only
  split
  · exact .inl ⟨_, rfl⟩
  split
  · rename_i hpending
    split
    · exact .inl ⟨_, rfl⟩
    · rename_i asyncId hid
      have answer : answerOf message = .pending asyncId := by simp [answerOf, hid, hpending]
      rw [answer]
      exact .inr (.inr (.refl _))
  rename_i hfinal
  have answer : answerOf message = .final := by
    unfold answerOf
    split
    · exact if_neg hfinal
    · rfl
  split
  · exact .inl ⟨_, rfl⟩
  split
  · rename_i hint
    refine .inr (.inl ⟨hint, ?_⟩)
    exact (applyOwnerEffects_bookkeeping _ _).trans (completeOperation_bookkeeping _ _ _)
  split
  · exact .inl ⟨_, rfl⟩
  · rw [answer]
    exact .inr (.inr (a.acceptFinalResponse_bookkeeping _ message))

end RequestAuthority

/-! ## Cancelling -/

theorem OwnerTask.cancel_cases (s : OwnerTask) (key : RequestKey) (now : MonotonicTime) :
    ∃ a, RequestAuthority.Bookkeeping s.authority a ∧
      ((∃ before command after, s.sendQueue = before ++ command :: after ∧ command.key = key ∧
        s.cancel key now =
          { s with sendQueue := before ++ after, authority := a.settle (.cancel key now) }) ∨
      (∀ command ∈ s.sendQueue, command.key ≠ key) ∧
        ((((s.authority.state.request key).any RequestRecord.wireCommitted = true ∨
            s.authority.frameCancellations.lookup key = none) ∧
          s.cancel key now = { s with authority := a.settle (.cancel key now) }) ∨
        ∃ deferred, s.cancel key now =
          { s with authority := { a with deferredCancellations := deferred } })) := by
  let a := s.authority.cancelSome ((s.sendQueue.find? fun command => command.key = key).map
    WriteCommand.cancelBeforeWrite)
  have hbooks : s.authority.Bookkeeping (a.cancelSome (a.frameCancellations.lookup key)) :=
    (s.authority.cancelSome_bookkeeping _).trans (a.cancelSome_bookkeeping _)
  refine ⟨_, hbooks, ?_⟩
  unfold cancel
  cases hfind : s.sendQueue.find? fun command => command.key = key with
  | some command =>
    left
    obtain ⟨hkey, before, after, hsplit, hbefore⟩ := List.find?_eq_some_iff_append.mp hfind
    have herase : (s.sendQueue.eraseP fun command => command.key = key) = before ++ after := by
      rw [hsplit, List.eraseP_append_right _ (by simpa using hbefore),
        List.eraseP_cons_of_pos (by exact hkey)]
    refine ⟨before, command, after, hsplit, of_decide_eq_true hkey, ?_⟩
    rw [if_pos (.inl rfl), herase]
    simp only [a, hfind]
  | none =>
    right
    have hnone : ∀ command ∈ s.sendQueue, command.key ≠ key := by
      simpa using List.find?_eq_none.mp hfind
    have herase : (s.sendQueue.eraseP fun command => command.key = key) = s.sendQueue :=
      List.eraseP_of_forall_not (by simpa using hnone)
    refine ⟨hnone, ?_⟩
    simp only [a, hfind] at hbooks ⊢
    rw [herase]
    split
    · rename_i h
      rw [hbooks.state, hbooks.frameCancellations] at h
      exact .inl ⟨h.resolve_left (by simp), rfl⟩
    · exact .inr ⟨_, rfl⟩

/-! ## A small owner -/

def smallConfig (credits : ℕ) : RuntimeConfig :=
  { generation := ⟨0⟩, initialMessageId := 0, initialCredits := credits, targetCredits := 1
    admissionLimits := ⟨4, 8⟩, tombstoneDrainTimeout := 10, ioCapacity := 1, emitEvents := false
    decodeUnsolicited := true, preparationParallelism := 1 }

def smallKey (n : ℕ) : RequestKey := ⟨⟨0⟩, n⟩

def echo : TypedOperation := .anyStatus ⟨.echo, none, 0, 0, false⟩

def echoFrame : SendFrame := ⟨[[0]], 1, rfl, by decide, by decide⟩

def submitEcho (detached : Bool) (deadline : Option MonotonicTime) (number : ℕ) :
    OperationAdmission :=
  ⟨echo, deadline, number, detached⟩

def echoed (n : ℕ) : CommandResponse := ⟨n, 0, .echo, none, 1, false, false⟩

def echoHint (n : ℕ) : CommandResponse := ⟨n, 0xC0000203, .echo, none, 0, true, true⟩

end Runtime
