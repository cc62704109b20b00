import SmbClient.Runtime.Proof.Pump
import SmbClient.Runtime.Proof.Rules

/-!
# The places of requests along a run

Every step of the owner is a chain of acts (`step_acts`): `Kept` holds always, `Desk.Unsent` if
every step is `Clean`, `Desk.Placed` if every step is `Whole`.
-/

namespace Runtime

open PreparedOperation OwnerTask

namespace OwnerTask

variable {clean whole : Prop} {s : OwnerTask}

/-! ## Every step -/

structure Kept (s : OwnerTask) : Prop where
  filed : (s.desk []).Filed
  keyed : s.preparationOrder.Keyed key
  stopped : s.exited = true → ∀ w, s.activeWrite = some w →
    w.command.cancelBeforeWrite ∈ s.authority.cancelled
  closed : s.exited = true → ∀ k, s.authority.state.isOpen k = false

theorem finishActiveWrite_acts (h : s.Kept) (hexited : s.exited = true) (bytes : ℕ)
    (completion : Option SendCompletion) :
    Acts clean whole (s.desk []) ((s.finishActiveWrite bytes completion).desk []) := by
  unfold finishActiveWrite
  split
  · exact .refl _
  rename_i active hw
  have ends {d : Desk} (hacts : Acts clean whole (s.desk []) d) (ha : d.authority = s.authority)
      (hactive : d.active = some active) :
      Acts clean whole (s.desk []) { d with hand := [], active := none } := by
    refine (hacts.tail (.finished active hactive)).cleared fun _ _ k _ hopen => ?_
    rw [ha] at hopen
    exact absurd hopen (Bool.eq_false_iff.mp (h.closed hexited k))
  split
  · exact ends (.refl _) rfl hw
  rename_i hruns
  have hruns : ¬ (s.desk []).Stops active := fun h => hruns (stopsWrite_iff.mpr h)
  have hpast : 0 < active.progressed := Nat.pos_of_ne_zero fun hzero =>
    hruns ⟨h.stopped hexited active hw, hzero⟩
  obtain ⟨hhanded, hadvanced⟩ : Acts clean whole _ _ ∧ Acts clean whole _ _ :=
    goesOn_acts h.filed hw hruns hpast (0 < bytes ∨ completion = some .sent)
  split
  · exact ends hhanded rfl hw
  · exact hadvanced

def Work.cancels : Work → Option RequestKey
  | .control (.cancel key _) => some key
  | _ => none

def OwnerInput.cancels : OwnerInput → Option RequestKey
  | .work item | .awaited item => item.cancels
  | _ => none

def OwnerInput.timer : OwnerInput → Option MonotonicTime
  | .deadline now => some now
  | _ => none

def Clean (s : OwnerTask) (input : OwnerInput) : Prop :=
  (∀ key ∈ input.cancels, s.CleanCancel key) ∧ ∀ now ∈ input.timer, s.CleanTimer now

def Whole (s : OwnerTask) (input : OwnerInput) : Prop :=
  ∀ key ∈ input.cancels, s.WholeCancel key

instance (s : OwnerTask) (input : OwnerInput) : Decidable (s.Clean input) := by
  unfold Clean
  infer_instance

instance (s : OwnerTask) (input : OwnerInput) : Decidable (s.Whole input) := by
  unfold Whole
  infer_instance

theorem work_acts (h : s.Kept) (work : Work)
    (hclean : clean → ∀ key ∈ work.cancels, s.CleanCancel key)
    (hwhole : whole → ∀ key ∈ work.cancels, s.WholeCancel key) :
    Acts clean whole (s.desk []) ((s.work work).desk []) := by
  have hf := h.filed
  have calm {a : RequestAuthority} (hcalm : s.authority.Calm a) :
      Acts clean whole (s.desk []) ({ s with authority := a }.desk []) :=
    (Acts.refl _).calm hf hcalm
  cases work with
  | received bytes =>
    unfold work
    dsimp only
    split
    · exact .refl _
    · exact .refl _
  | readFailed error laneFull =>
    exact calm
      ((s.authority.fail_calm _).trans (.ite (RequestAuthority.failFirst_calm _ _) (.refl _)))
  | readPanicked => exact calm (s.authority.fail_calm _)
  | prepared key result => exact prepared_acts hf h.keyed key result
  | decoded sequence result laneFull =>
    unfold work decoded
    dsimp only
    split
    · exact .refl _
    · exact (Acts.refl _).calm hf (.foldl (fun a inbound =>
        a.finishPreparedInbound_calm s.config.emitEvents laneFull inbound) _ _)
  | control command =>
    refine handleControl_acts hf command (fun key now he hc => ?_) fun key now he hw => ?_
    · subst he
      exact hclean hc key rfl
    · subst he
      exact hwhole hw key rfl
  | admission command => exact processAdmission_acts hf command
  | operation command wire =>
    unfold work
    dsimp only
    split
    · exact processOperationAdmission_acts hf command wire
    · exact .refl _
  | compound command wire =>
    unfold work
    dsimp only
    split
    · exact processCompoundAdmission_acts hf command wire
    · exact .refl _

theorem enqueueInbound_acts (hf : (s.desk []).Filed) :
    Acts clean whole (s.desk []) (s.enqueueInbound.desk []) := by
  unfold enqueueInbound
  split
  · exact .refl _
  split
  · dsimp only
    split
    · exact (Acts.refl _).calm hf (s.authority.fail_calm _)
    · exact .refl _
  · exact .refl _

theorem retryOperation_acts (hf : (s.desk []).Filed) (wire : OutgoingTransform) :
    Acts clean whole (s.desk []) ((s.retryOperation wire).desk []) := by
  unfold retryOperation
  split
  · exact .refl _
  · exact processOperationAdmission_acts (s := { s with waitingOperation := none }) hf _ wire

theorem retryCompound_acts (hf : (s.desk []).Filed) (wire : Option SendFrame) :
    Acts clean whole (s.desk []) ((s.retryCompound wire).desk []) := by
  unfold retryCompound
  split
  · exact .refl _
  split
  · exact processCompoundAdmission_acts (s := { s with waitingCompound := none }) hf _ wire
  · exact .refl _

/-- **Every step of the owner is a sequence of acts.** -/
theorem step_acts (h : s.Kept) (input : OwnerInput) :
    Acts (s.Clean input) (s.Whole input) (s.desk []) ((s.step input).desk []) := by
  have hf := h.filed
  unfold step
  split
  · exact .refl _
  split
  · rename_i hexited
    split
    · exact finishActiveWrite_acts h hexited _ _
    · exact .refl _
  split
  · exact work_acts h _ (fun hc => hc.1) fun hw => hw
  · exact enqueueInbound_acts hf
  · exact retryOperation_acts hf _
  · exact retryCompound_acts hf _
  · exact dispatchNext_acts hf
  · rename_i work
    split
    · exact .refl _
    split
    · rw [publishIfFatal_desk]
      exact work_acts h work (fun hc => hc.1) fun hw => hw
    · exact work_acts h work (fun hc => hc.1) fun hw => hw
  · split
    · exact .refl _
    · exact polledWrite_acts hf _ _ _ _
  · split
    · exact .refl _
    · exact (deadlineExpired_acts hf _).mono (fun hc => hc.2 _ rfl) id
  · exact teardown_acts hf _
  · exact .refl _

/-! ## Every run -/

structure Stays (s s' : OwnerTask) : Prop where
  completed : s'.preparationOrder.completed = s.preparationOrder.completed
  exited : s'.exited = s.exited
  activeWrite : s'.activeWrite = s.activeWrite

theorem Stays.trans {s s' s'' : OwnerTask} (h : Stays s s') (h' : Stays s' s'') : Stays s s'' :=
  ⟨h'.completed.trans h.completed, h'.exited.trans h.exited, h'.activeWrite.trans h.activeWrite⟩

theorem processAdmission_stays (command : AdmissionCommand) :
    Stays s (s.processAdmission command) := by
  unfold processAdmission
  split
  · exact ⟨rfl, rfl, rfl⟩
  · exact ⟨rfl, rfl, rfl⟩

theorem processOperationAdmission_stays (command : OperationAdmission) (wire : OutgoingTransform) :
    Stays s (s.processOperationAdmission command wire) := by
  unfold processOperationAdmission
  dsimp only
  repeat' split
  all_goals exact ⟨rfl, rfl, rfl⟩

theorem finishPreparedOperation_stays (prepared : PreparedOperation) :
    Stays s (s.finishPreparedOperation prepared) := by
  unfold finishPreparedOperation
  dsimp only
  repeat' split
  all_goals exact ⟨rfl, rfl, rfl⟩

theorem finishPreparedOperations_stays (ready : List PreparedOperation) (s : OwnerTask) :
    Stays s (ready.foldl finishPreparedOperation s) := by
  induction ready generalizing s with
  | nil => exact ⟨rfl, rfl, rfl⟩
  | cons prepared ready ih => exact (finishPreparedOperation_stays prepared).trans (ih _)

theorem processCompoundAdmission_stays (command : CompoundAdmission) (wire : Option SendFrame) :
    Stays s (s.processCompoundAdmission command wire) := by
  unfold processCompoundAdmission
  repeat' split
  all_goals exact ⟨rfl, rfl, rfl⟩

theorem handleControl_stays (command : ControlCommand) : Stays s (s.handleControl command) := by
  cases command with
  | cancel key now =>
    obtain ⟨a, -, ⟨_, _, _, -, -, he⟩ | ⟨-, ⟨-, he⟩ | ⟨_, he⟩⟩⟩ := s.cancel_cases key now
    all_goals
      show Stays s (s.cancel key now)
      rw [he]
      exact ⟨rfl, rfl, rfl⟩
  | close deadline =>
    unfold handleControl
    dsimp only
    split
    · exact ⟨rfl, rfl, rfl⟩
    · exact ⟨rfl, rfl, rfl⟩
  | _ => exact ⟨rfl, rfl, rfl⟩

structure Keeps (s s' : OwnerTask) : Prop where
  keyed : s.preparationOrder.Keyed key → s'.preparationOrder.Keyed key
  exited : s'.exited = s.exited
  activeWrite : s'.activeWrite = s.activeWrite

theorem Stays.keeps {s' : OwnerTask} (h : Stays s s') : Keeps s s' :=
  ⟨fun hkeyed k p hk => hkeyed k p (by rwa [h.completed] at hk), h.exited, h.activeWrite⟩

theorem prepared_keeps (key : RequestKey) (result : Option SendFrame) :
    Keeps s (s.prepared key result) := by
  unfold prepared
  split
  · exact ⟨id, rfl, rfl⟩
  rename_i job hjob
  have hkey : job.key = key := by simpa using List.find?_some hjob
  have hstays := finishPreparedOperations_stays (s.preparationOrder.complete key
    ⟨job.key, result, job.retainRaw, job.acknowledge⟩).1 { s with
      preparations := s.preparations.eraseP fun job => job.key = key
      preparationOrder := (s.preparationOrder.complete key
        ⟨job.key, result, job.retainRaw, job.acknowledge⟩).2 }
  refine ⟨fun h => hstays.keeps.keyed ?_, hstays.exited, hstays.activeWrite⟩
  exact (OrderedCompletionQueue.complete_order h
    ⟨job.key, result, job.retainRaw, job.acknowledge⟩ hkey).2

theorem work_keeps (work : Work) : Keeps s (s.work work) := by
  cases work with
  | prepared key result => exact prepared_keeps key result
  | control command => exact (handleControl_stays command).keeps
  | admission command => exact (processAdmission_stays command).keeps
  | operation command wire =>
    unfold work
    dsimp only
    split
    · exact (processOperationAdmission_stays command wire).keeps
    · exact ⟨id, rfl, rfl⟩
  | compound command wire =>
    unfold work
    dsimp only
    split
    · exact (processCompoundAdmission_stays command wire).keeps
    · exact ⟨id, rfl, rfl⟩
  | received bytes =>
    unfold work
    dsimp only
    split
    · exact ⟨id, rfl, rfl⟩
    · exact ⟨id, rfl, rfl⟩
  | decoded sequence result laneFull =>
    unfold work decoded
    dsimp only
    split
    · exact ⟨id, rfl, rfl⟩
    · exact ⟨id, rfl, rfl⟩
  | readFailed error laneFull => exact ⟨id, rfl, rfl⟩
  | readPanicked => exact ⟨id, rfl, rfl⟩

theorem step_keyed (h : s.preparationOrder.Keyed key) {input : OwnerInput}
    (hinput : ¬ ∃ lanes, input = .leave lanes ∧ s.panicked = false ∧ s.exited = false) :
    (s.step input).preparationOrder.Keyed key ∧ (s.step input).exited = s.exited := by
  have keeps {s' : OwnerTask} (hk : Keeps s s') :
      s'.preparationOrder.Keyed key ∧ s'.exited = s.exited :=
    ⟨hk.keyed h, hk.exited⟩
  have minds {s' : OwnerTask} (hm : Minds (fun _ _ => True) s s') :
      s'.preparationOrder.Keyed key ∧ s'.exited = s.exited := by
    rw [hm.order]
    exact ⟨h, hm.exited⟩
  unfold step
  split
  · exact ⟨h, rfl⟩
  rename_i hpanicked
  split
  · split
    · unfold finishActiveWrite
      repeat' split
      all_goals exact ⟨h, rfl⟩
    · exact ⟨h, rfl⟩
  rename_i hexited
  split
  · exact keeps (work_keeps _)
  · exact minds (Rules.any.enqueueInbound s)
  · unfold retryOperation
    split
    · exact ⟨h, rfl⟩
    · exact keeps { (processOperationAdmission_stays
        (s := { s with waitingOperation := none }) _ _).keeps with }
  · unfold retryCompound
    split
    · exact ⟨h, rfl⟩
    split
    · exact keeps { (processCompoundAdmission_stays
        (s := { s with waitingCompound := none }) _ _).keeps with }
    · exact ⟨h, rfl⟩
  · exact minds (Rules.any.dispatchNext s)
  · rename_i work
    split
    · exact ⟨h, rfl⟩
    split
    · unfold publishIfFatal
      split
      · exact keeps { work_keeps (s := s) work with }
      · exact keeps (work_keeps work)
    · exact keeps (work_keeps work)
  · split
    · exact ⟨h, rfl⟩
    · exact minds (Rules.any.polledWrite s _ _ _ _)
  · split
    · exact ⟨h, rfl⟩
    · exact minds (Rules.any.deadlineExpired s trivial)
  · exact absurd ⟨_, rfl, Bool.eq_false_iff.mpr hpanicked, Bool.eq_false_iff.mpr hexited⟩ hinput
  · exact ⟨h, rfl⟩

variable (config : RuntimeConfig)

theorem start_kept : (start config).Kept where
  filed :=
    { sound := GenerationState.sound_new _ _ _ _ _ _
      once := fun _ => Nat.zero_le 1
      known := fun _ h => absurd h (lt_irrefl 0)
      queued := fun _ h => nomatch h
      active := fun _ h => nomatch h }
  keyed _ _ h := nomatch h
  stopped h := nomatch h
  closed h := nomatch h

theorem teardown_stopped (hf : (s.desk []).Filed) (lanes : Lanes) {w : ActiveWrite}
    (hw : s.activeWrite = some w) :
    w.command.cancelBeforeWrite ∈ (s.teardown lanes).authority.cancelled := by
  obtain ⟨error, queued, a, hfed, hdrained⟩ := teardown_drains hf.sound lanes
  exact hdrained.cancelled (hfed.cancelled
    (s.authority.cancelAll_cancelled _ (hf.active w hw).token))

theorem finishActiveWrite_same (bytes : ℕ) (completion : Option SendCompletion) :
    (s.finishActiveWrite bytes completion).authority = s.authority ∧
      ∀ w', (s.finishActiveWrite bytes completion).activeWrite = some w' →
        ∃ w, s.activeWrite = some w ∧ w'.command = w.command := by
  unfold finishActiveWrite
  split
  · exact ⟨rfl, fun w' hw' => ⟨w', hw', rfl⟩⟩
  rename_i active hw
  split
  · exact ⟨rfl, fun w' hw' => nomatch hw'⟩
  split
  · exact ⟨rfl, fun w' hw' => nomatch hw'⟩
  refine ⟨rfl, fun w' hw' => ⟨active, hw, ?_⟩⟩
  obtain rfl := Option.some.inj hw'
  rfl

theorem step_exited (h : s.exited = true) (input : OwnerInput) :
    s.step input = s ∨ ∃ bytes completion, s.step input = s.finishActiveWrite bytes completion := by
  unfold step
  split
  · exact .inl rfl
  split
  · exact .inr ⟨_, _, rfl⟩
  · exact .inl rfl

/-- **Every step keeps the owner's invariant.** -/
theorem step_kept (h : s.Kept) (input : OwnerInput) : (s.step input).Kept := by
  have hfiled := (step_acts h input).filed h.filed
  by_cases hleave : ∃ lanes, input = .leave lanes ∧ s.panicked = false ∧ s.exited = false
  · obtain ⟨lanes, rfl, hpanicked, hexited⟩ := hleave
    have hstep : s.step (.leave lanes) = s.teardown lanes := by
      rw [step, if_neg (by simp [hpanicked]), if_neg (by simp [hexited])]
    rw [hstep] at hfiled ⊢
    exact ⟨hfiled, h.keyed, fun _ w hw => teardown_stopped h.filed lanes hw,
      fun _ => teardown_closed h.filed.sound lanes⟩
  obtain ⟨hkeyed, hsame⟩ := step_keyed h.keyed hleave
  cases hexited : s.exited with
  | false =>
    rw [hexited] at hsame
    have hinside : (s.step input).exited ≠ true := by
      rw [hsame]
      nofun
    exact ⟨hfiled, hkeyed, fun hx => absurd hx hinside, fun hx => absurd hx hinside⟩
  | true =>
    rcases step_exited hexited input with he | ⟨bytes, completion, he⟩
    · rwa [he]
    rw [he] at hfiled hkeyed ⊢
    obtain ⟨ha, hw⟩ := finishActiveWrite_same (s := s) bytes completion
    refine ⟨hfiled, hkeyed, fun _ w' hw' => ?_, fun _ => ?_⟩
    · obtain ⟨w, hw, hcommand⟩ := hw w' hw'
      rw [ha, hcommand]
      exact h.stopped hexited w hw
    · rw [ha]
      exact h.closed hexited

theorem run_kept (inputs : List OwnerInput) : (run config inputs).Kept :=
  List.foldl_invariant (P := Kept) (fun _ input h => step_kept h input) inputs (start_kept config)

/-- No request stands in two places on its way out, the first byte of a frame commits all its
members, and nobody waits for an owner that has left its loop. -/
theorem requests_filed_once (inputs : List OwnerInput) :
    (∀ key, ((run config inputs).desk []).count key ≤ 1) ∧
    (∀ w, (run config inputs).activeWrite = some w → 0 < w.progressed →
      ∀ key ∈ w.command.members, (run config inputs).authority.state.isCommitted key = true) ∧
    ((run config inputs).exited = true →
      ∀ key, (run config inputs).authority.state.isOpen key = false) := by
  have kept := run_kept config inputs
  exact ⟨kept.filed.once, fun w active => (kept.filed.active w active).committed, kept.closed⟩

theorem run_append (before after : List OwnerInput) :
    run config (before ++ after) = after.foldl step (run config before) :=
  List.foldl_append

theorem foldl_log (h : s.Kept) (inputs : List OwnerInput) :
    s.authority.Log (inputs.foldl step s).authority := by
  induction inputs generalizing s with
  | nil => exact .refl
  | cons input inputs ih => exact (step_acts h input).log.trans (ih (step_kept h input))

theorem start_unsent : ((start config).desk []).Unsent where
  sent k hk := nomatch hk
  clear k hk := by
    rcases hk with hk | ⟨w, hw, -⟩
    · cases hk
    · cases hw

theorem run_unsent {config : RuntimeConfig} {inputs : List OwnerInput}
    (h : Meets step Clean (start config) inputs) : ((run config inputs).desk []).Unsent :=
  (h.invariant (P := fun s => s.Kept ∧ (s.desk []).Unsent)
    (fun _ input hs hclean => ⟨step_kept hs.1 input,
      (step_acts hs.1 input).unsent hclean hs.1.filed hs.2⟩)
    ⟨start_kept config, start_unsent config⟩).2

theorem start_placed : ((start config).desk []).Placed :=
  fun _ _ h => nomatch h

theorem run_placed {config : RuntimeConfig} {inputs : List OwnerInput}
    (h : Meets step Whole (start config) inputs) : ((run config inputs).desk []).Placed :=
  (h.invariant (P := fun s => s.Kept ∧ (s.desk []).Placed)
    (fun _ input hs hwhole => ⟨step_kept hs.1 input,
      (step_acts hs.1 input).placed hwhole hs.1.filed hs.2⟩)
    ⟨start_kept config, start_placed config⟩).2

end OwnerTask

end Runtime
