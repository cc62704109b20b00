import SmbClient.Runtime.Proof.Bookkeeping

/-!
# Relations that the owner's own work keeps

`Rules` lists the ways in which the write pump, the timer, the control commands and the teardown
change the tables of requests.
-/

namespace Runtime

def Delivery.refuses : Delivery → Bool
  | .replied _ | .completedRaw _ _ | .completed (.ticket _) _ | .acknowledged _ (.error _)
  | .acknowledgedCompound _ (.error _) | .acknowledgedRaw _ (.error _) => true
  | _ => false

structure Rules (R : RequestAuthority → RequestAuthority → Prop) : Prop where
  trans {a b c : RequestAuthority} : R a b → R b c → R a c
  aside {a b : RequestAuthority} (_ : b.state = a.state := by rfl) (_ : b.fed = a.fed := by rfl)
    (_ : b.earlyResponses = a.earlyResponses := by rfl)
    (_ : b.operationPending = a.operationPending := by rfl) (_ : b.awaits = a.awaits := by rfl)
    (_ : b.outbox = a.outbox := by rfl) : R a b
  refuses (a : RequestAuthority) (delivery : Delivery) : delivery.refuses = true →
    R a (a.deliver delivery)
  reports (a : RequestAuthority) (key : RequestKey) (event : RequestProgress) :
    R a (a.feed (.request key event)).1
  cancels (a : RequestAuthority) (key : RequestKey) (now : MonotonicTime) :
    R a (a.settle (.cancel key now))
  retargets (a : RequestAuthority) (largeMtu : Bool) (credits : ℕ) :
    R a { a with largeMtu, state := a.state.setTargetCredits credits }
  awaits (a : RequestAuthority) (key : RequestKey) : R a (a.awaitOperation key)

namespace Rules

open RequestAuthority

variable {R : RequestAuthority → RequestAuthority → Prop} {a b : RequestAuthority}

section

variable (h : Rules R)
include h

theorem refl (a : RequestAuthority) : R a a := h.aside

theorem foldl {ι : Type} {f : RequestAuthority → ι → RequestAuthority}
    (hf : ∀ a i, R a (f a i)) (is : List ι) (a : RequestAuthority) : R a (is.foldl f a) :=
  List.foldl_invariant (P := R a) (fun b i hb => h.trans hb (hf b i)) is (h.refl a)

/-! ## The write pump -/

theorem progress (a : RequestAuthority) (members : List RequestKey)
    (event : RequestProgress) : R a (a.progress members event) :=
  h.foldl (fun a member => h.reports a member event) members a

theorem settleDeferred (a : RequestAuthority) (key : RequestKey) : R a (a.settleDeferred key) := by
  unfold RequestAuthority.settleDeferred
  split
  · exact h.refl a
  · exact h.trans (b := { a with deferredCancellations := a.deferredCancellations.erase key })
      h.aside (h.cancels _ _ _)

theorem writeCancelled (a : RequestAuthority) (key : RequestKey) : R a (a.writeCancelled key) := by
  let now := (a.deferredCancellations.lookup key).getD 0
  have erased : R a { a with
      deferredCancellations := a.deferredCancellations.erase key
      frameMembers := a.frameMembers.erase key } := h.aside
  have settled := h.trans erased (h.foldl (f := fun a member => a.settle (.cancel member now))
    (fun a member => h.cancels a member now) (a.membersOf key) _)
  exact h.trans settled h.aside

theorem writeComplete (a : RequestAuthority) (key : RequestKey) : R a (a.writeComplete key) := by
  have erased : R a { a with frameMembers := a.frameMembers.erase key } :=
    h.aside
  have settled := h.trans (h.trans erased (h.progress _ (a.membersOf key) .writeComplete))
    (h.settleDeferred _ key)
  exact h.trans settled h.aside

theorem processIo (a : RequestAuthority) (emitEvents laneFull : Bool) (event : IoEvent) :
    R a (a.processIo emitEvents laneFull event) := by
  have emitted {b : RequestAuthority} (hb : R a b) :
      R a (if emitEvents ∧ laneFull then b.failFirst .eventBackpressure else b) := by
    split
    · exact h.trans hb h.aside
    · exact hb
  cases event with
  | writeCancelled key => exact h.writeCancelled a key
  | writeProgress key bytes => exact emitted (h.trans (h.progress a _ _) (h.settleDeferred _ key))
  | writeComplete key => exact emitted (h.writeComplete a key)
  | failed error => exact emitted h.aside

theorem report (a : RequestAuthority) (emitEvents laneFull : Bool) (key : RequestKey)
    (unreported : ℕ) : R a (a.report emitEvents laneFull key unreported) := by
  unfold RequestAuthority.report
  split
  · exact h.processIo a _ _ _
  · exact h.refl a

/-! ## Control commands and the end -/

theorem onObjects {α : Type} (a : RequestAuthority) (result : Except ObjectError α)
    (objects : α → ObjectRegistry) (reply : α → ControlReply) :
    R a (a.onObjects result objects reply) := by
  unfold RequestAuthority.onObjects
  split
  · exact h.refuses a _ rfl
  rename_i result
  exact h.trans (b := { a with objects := objects result }) h.aside
    (h.refuses _ _ rfl)

theorem refuse (a : RequestAuthority) (submission : Submission) (error : RuntimeError) :
    R a (a.refuse submission error) := by
  refine h.trans ?_ (h.refuses _ _ rfl)
  split
  · rename_i waiter hwaiter
    refine h.refuses a _ ?_
    unfold Submission.terminal at hwaiter
    split at hwaiter
    · cases hwaiter
    · cases hwaiter
      rfl
  · exact h.refl a

theorem failWaiting (a : RequestAuthority) (error : RuntimeError)
    (lanes : OwnerTask.Lanes) (waitingOperation : Option OperationAdmission)
    (waitingCompound : Option CompoundAdmission) :
    R a (a.failWaiting error lanes waitingOperation waitingCompound) := by
  have operations (b : RequestAuthority) (commands : List OperationAdmission) :
      R b (commands.foldl (fun a command => a.refuse command.submission error) b) :=
    h.foldl (fun b command => h.refuse b command.submission error) commands b
  have compounds (b : RequestAuthority) (commands : List CompoundAdmission) : R b (commands.foldl
      (fun a command => a.deliver (.acknowledgedCompound command.number (.error error))) b) :=
    h.foldl (fun b command => h.refuses b _ rfl) commands b
  have raws : R a (lanes.admissions.foldl (fun a command => a.refuseRaw command error) a) :=
    h.foldl (fun b command => h.trans (h.refuses b _ rfl) (h.refuses _ _ rfl)) _ a
  exact h.trans (h.trans (h.trans (h.trans raws (compounds _ _)) (operations _ _)) (operations _ _))
    (compounds _ _)

theorem cancelAll (a : RequestAuthority) (error : RuntimeError) (lanes : OwnerTask.Lanes)
    (waitingOperation : Option OperationAdmission) (waitingCompound : Option CompoundAdmission)
    (queued : List CancellationToken) :
    R a (a.cancelAll error lanes waitingOperation waitingCompound queued) := by
  have tokens : R a { a with
      preparationCancellations := ∅
      cancelled := a.preparationCancellations.values ++ a.cancelled } :=
    h.aside
  exact h.trans (h.trans tokens (h.failWaiting _ error lanes waitingOperation waitingCompound))
    h.aside

end

end Rules

/-! ## The owner -/

namespace OwnerTask

structure Minds (R : RequestAuthority → RequestAuthority → Prop) (s s' : OwnerTask) : Prop where
  preparations : s'.preparations = s.preparations
  order : s'.preparationOrder = s.preparationOrder
  exited : s'.exited = s.exited
  tables : R s.authority s'.authority

variable {R : RequestAuthority → RequestAuthority → Prop} {s s' : OwnerTask}

theorem Minds.publishIfFatal (h : Minds R s s') : Minds R s s'.publishIfFatal := by
  unfold OwnerTask.publishIfFatal
  split
  · exact ⟨h.preparations, h.order, h.exited, h.tables⟩
  · exact h

end OwnerTask

namespace Rules

open OwnerTask

variable {R : RequestAuthority → RequestAuthority → Prop}

theorem any : Rules fun _ _ => True := by
  constructor
  all_goals intros; trivial

section

variable (h : Rules R)
include h

variable (s : OwnerTask)

theorem same : Minds R s s := ⟨rfl, rfl, rfl, h.refl _⟩

theorem cancel (key : RequestKey) (now : MonotonicTime) : Minds R s (s.cancel key now) := by
  have token (a : RequestAuthority) (token : Option CancellationToken) :
      R a (a.cancelSome token) := by
    cases token with
    | none => exact h.refl a
    | some token => exact h.aside
  have tokens (first second : Option CancellationToken) :
      R s.authority ((s.authority.cancelSome first).cancelSome second) :=
    h.trans (token _ first) (token _ second)
  unfold OwnerTask.cancel
  dsimp only
  split
  · exact ⟨rfl, rfl, rfl, h.trans (tokens _ _) (h.cancels _ key now)⟩
  · exact ⟨rfl, rfl, rfl, h.trans (tokens _ _) h.aside⟩

theorem handleControl (command : ControlCommand) : Minds R s (s.handleControl command) := by
  have replied (a : RequestAuthority) (reply : Except RuntimeError ControlReply) :
      R a (a.deliver (.replied reply)) := h.refuses a _ rfl
  have objects (a : RequestAuthority) (objects : ObjectRegistry) : R a { a with objects } :=
    h.aside
  cases command with
  | createObject parent kind => exact ⟨rfl, rfl, rfl, h.onObjects _ _ _ _⟩
  | loseObjectGeneration => exact ⟨rfl, rfl, rfl, h.trans (objects _ _) (replied _ _)⟩
  | beginObjectRecovery object => exact ⟨rfl, rfl, rfl, h.onObjects _ _ _ _⟩
  | publishObjectReplacement object => exact ⟨rfl, rfl, rfl, h.trans (objects _ _) (replied _ _)⟩
  | failObjectRecovery object => exact ⟨rfl, rfl, rfl, h.onObjects _ _ _ _⟩
  | installNotifications => exact ⟨rfl, rfl, rfl, h.aside⟩
  | preauthSnapshot | resetPreauthToNegotiate | sessionStarted | sessionEnded =>
    exact ⟨rfl, rfl, rfl, replied _ _⟩
  | awaitOperation key => exact ⟨rfl, rfl, rfl, h.awaits _ key⟩
  | negotiated largeMtu accepted => exact ⟨rfl, rfl, rfl, h.trans (h.retargets _ _ _) (replied _ _)⟩
  | cancel key now => exact h.cancel s key now
  | close deadline =>
    unfold OwnerTask.handleControl
    dsimp only
    split
    · exact ⟨rfl, rfl, rfl, h.refl _⟩
    · exact ⟨rfl, rfl, rfl, replied _ _⟩

theorem dispatchNext : Minds R s s.dispatchNext := by
  unfold OwnerTask.dispatchNext
  split
  · exact h.same s
  · exact h.same s
  split
  · exact ⟨rfl, rfl, rfl, h.trans (h.progress _ _ .queued) h.aside⟩
  · exact ⟨rfl, rfl, rfl, h.refl _⟩

/-- Any relation that keeps the rules is kept by a poll of the write. -/
theorem polledWrite (bytes : ℕ) (completion : Option SendCompletion)
    (progressLaneFull laneFull : Bool) :
    Minds R s (s.polledWrite bytes completion progressLaneFull laneFull) := by
  unfold OwnerTask.polledWrite
  split
  · exact h.same s
  split
  · exact ⟨rfl, rfl, rfl, h.processIo s.authority s.config.emitEvents laneFull (.writeCancelled _)⟩
  split
  · refine Minds.publishIfFatal ?_
    have reported := h.report s.authority s.config.emitEvents progressLaneFull
    unfold finishSend
    split
    · exact ⟨rfl, rfl, rfl, h.trans (reported _ _) (h.processIo _ s.config.emitEvents laneFull
        (.writeComplete _))⟩
    · exact ⟨rfl, rfl, rfl, h.trans (reported _ _)
        (h.processIo _ s.config.emitEvents laneFull (.failed _))⟩
    · exact ⟨rfl, rfl, rfl, h.trans (reported _ _) h.aside⟩
  split
  · exact ⟨rfl, rfl, rfl, h.refl _⟩
  · exact Minds.publishIfFatal
      ⟨rfl, rfl, rfl, h.report s.authority s.config.emitEvents progressLaneFull _ _⟩

theorem deadlineExpired {now : MonotonicTime}
    (settled : R s.authority (s.authority.settle (.advanceTime now))) :
    Minds R s (s.deadlineExpired now) := by
  unfold OwnerTask.deadlineExpired
  dsimp only
  split
  · exact ⟨rfl, rfl, rfl, h.trans settled h.aside⟩
  · exact ⟨rfl, rfl, rfl, settled⟩

theorem enqueueInbound : Minds R s s.enqueueInbound := by
  unfold OwnerTask.enqueueInbound
  dsimp only
  repeat' split
  all_goals exact ⟨rfl, rfl, rfl, h.aside⟩

end

end Rules

end Runtime
