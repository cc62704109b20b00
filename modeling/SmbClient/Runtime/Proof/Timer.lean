import SmbClient.Runtime.Proof.ServedSteps
import SmbClient.Runtime.Proof.Deadlines

/-!
# Deadlines of the owner's commands

An admitted request has an entry for its deadline in the heap the owner sleeps on; a command that is
parked for credits has none (`parked_past_deadline`).
-/

namespace Runtime

namespace RequestAuthority

variable {a b : RequestAuthority} {d : MonotonicTime} {key : RequestKey}

def Alarmed (a : RequestAuthority) : Prop := ∃ drained, Armed a.plans drained a.state

theorem Log.alarmed (h : a.Log b) (hs : a.state.Sound) (ha : a.Alarmed) : b.Alarmed := by
  induction h with
  | refl => exact ha
  | idle _ state fed ih =>
    unfold Alarmed plans
    rw [state, fed]
    exact ih
  | event log event state fed ih =>
    obtain ⟨drained, harmed⟩ := ih
    have hsound := log.sound hs
    unfold Alarmed plans
    rw [state, fed, List.flatMap_append, List.flatMap_singleton]
    exact ⟨_, (GenerationState.reduce_moves hsound.keyed event).armed hsound harmed⟩
  | target _ credits state fed ih =>
    obtain ⟨drained, harmed⟩ := ih
    unfold Alarmed plans
    rw [state, fed]
    exact ⟨drained, fun k => (harmed k).frame rfl (fun _ h _ => h) id⟩

def Timed (a : RequestAuthority) (d : MonotonicTime) (key : RequestKey) : Prop :=
  ∃ plan ∈ a.plans, plan.key = key ∧ plan.callerDeadline = some d

theorem Timed.mono (h : a.Timed d key) (hlog : a.Log b) : b.Timed d key := by
  obtain ⟨plan, hp, hplan⟩ := h
  exact ⟨plan, hlog.plans_subset hp, hplan⟩

theorem Timed.entry (h : a.Timed d key) (ha : a.Alarmed) :
    (a.state.terminalOutcome key).isSome ∨ ∃ e ∈ a.state.deadlines, e.instant = d := by
  obtain ⟨plan, hp, rfl, hd⟩ := h
  obtain ⟨drained, harmed⟩ := ha
  obtain ⟨r, hr⟩ := (harmed plan.key).known plan hp rfl
  cases ho : r.lifecycle.caller with
  | opened =>
    obtain ⟨e, he⟩ := (harmed plan.key).caller plan hp rfl r hr ho d hd
    exact .inr ⟨e, he.mem, he.instant⟩
  | terminal o =>
    left
    rw [GenerationState.terminalOutcome_eq, hr]
    simp [RequestRecord.outcome, ho]

theorem Timed.known (h : a.Timed d key) (ha : a.Alarmed) : a.state.isKnown key = true := by
  obtain ⟨plan, hp, rfl, -⟩ := h
  obtain ⟨drained, harmed⟩ := ha
  exact GenerationState.isKnown_iff.mpr ((harmed plan.key).known plan hp rfl)

end RequestAuthority

def GenerationState.WakesBy (s : GenerationState) (d : MonotonicTime) : Prop :=
  ∃ t, s.nextDeadline = some t ∧ t ≤ d

theorem GenerationState.wakesBy_of_entry {s : GenerationState} {e : DeadlineEntry}
    (h : e ∈ s.deadlines) : s.WakesBy e.instant := by
  unfold WakesBy nextDeadline
  cases hp : s.deadlines.peek with
  | none => exact absurd h (MinHeap.peek_none hp)
  | some first =>
    exact ⟨first.instant, rfl, DeadlineEntry.at_le_of_le ((MinHeap.peek_spec hp).2 e h)⟩

/-! ## The commands the owner takes -/

/-- A command that carries a deadline of its caller. -/
inductive OwnerCommand where
  | operation (command : OperationAdmission)
  | compound (command : CompoundAdmission)

namespace OwnerCommand

def deadline : OwnerCommand → Option MonotonicTime
  | .operation command => command.deadline
  | .compound command => command.deadline

def needs (a : RequestAuthority) : OwnerCommand → Option ℕ
  | .operation command => (command.operation.creditCharge a.largeMtu).toOption.map UInt16.toNat
  | .compound command => a.requiredCredits command.operations

def Affordable (a : RequestAuthority) (command : OwnerCommand) : Prop :=
  ∀ credits ∈ command.needs a, credits ≤ a.state.availableCredits

instance (a : RequestAuthority) (command : OwnerCommand) : Decidable (command.Affordable a) := by
  unfold Affordable
  infer_instance

end OwnerCommand

namespace OwnerTask

open RequestAuthority

variable {s s₀ s₁ s' : OwnerTask} {d now : MonotonicTime} {input : OwnerInput}
  {command : OwnerCommand}

def workTaken (s : OwnerTask) : Work → Option OwnerCommand
  | .operation command _ =>
    if s.waitingOperation = none ∧ s.waitingCompound = none then some (.operation command) else none
  | .compound command _ =>
    if s.waitingOperation = none ∧ s.waitingCompound = none ∧ s.preparationOrder.isEmpty then
      some (.compound command)
    else none
  | _ => none

def taken (s : OwnerTask) (input : OwnerInput) : Option OwnerCommand :=
  if s.panicked ∨ s.exited then none
  else match input with
  | .work work => s.workTaken work
  | .awaited work => if s.leaving then none else s.workTaken work
  | .retryOperation _ => s.waitingOperation.map .operation
  | .retryCompound _ =>
    if s.preparationOrder.isEmpty then s.waitingCompound.map .compound else none
  | _ => none

/-- A command with a deadline is taken only with the credits it needs. -/
def Funded (s : OwnerTask) (input : OwnerInput) : Prop :=
  ∀ command ∈ s.taken input, command.deadline.isSome → command.Affordable s.authority

instance (s : OwnerTask) (input : OwnerInput) : Decidable (s.Funded input) := by
  unfold Funded
  infer_instance

def Awake (s : OwnerTask) : Prop := s.panicked = false ∧ s.exited = false ∧ s.leaving = false

instance (s : OwnerTask) : Decidable s.Awake := by
  unfold Awake
  infer_instance

end OwnerTask

/-! ## Completion -/

section
variable {a₀ a₁ a b : RequestAuthority} {d : MonotonicTime} {key : RequestKey}
  {command : OwnerCommand}

def Admits (a₀ a₁ : RequestAuthority) (key : RequestKey) : Prop :=
  a₀.state.isKnown key = false ∧ a₁.state.isKnown key = true

namespace OwnerCommand

/-- An attached caller has been told its result; a detached one has been refused, or its requests
have outcomes. -/
def Completed (a₀ a₁ a : RequestAuthority) : OwnerCommand → Prop
  | .operation command =>
    if command.submission.detached then
      (∃ error, .acknowledged command.submission (.error error) ∈ a.outbox) ∨
      ∃ key, Admits a₀ a₁ key ∧ (a.state.terminalOutcome key).isSome
    else a.Told (.ticket command.submission.number)
  | .compound command =>
    (∃ error, .acknowledgedCompound command.number (.error error) ∈ a.outbox) ∨
    ∃ keys : List RequestKey, .acknowledgedCompound command.number
        (.ok (keys.map fun key => ⟨key, none⟩)) ∈ a.outbox ∧
      ∀ key ∈ keys, Admits a₀ a₁ key ∧ (a.state.terminalOutcome key).isSome

def Pending (a₀ a₁ : RequestAuthority) (d : MonotonicTime) (a : RequestAuthority) :
    OwnerCommand → Prop
  | .operation command =>
    ∃ key, Admits a₀ a₁ key ∧ a.Timed d key ∧ (command.submission.detached = false →
      (a.slot key).Held a.Told command.submission.number)
  | .compound command =>
    ∃ keys : List RequestKey, .acknowledgedCompound command.number
        (.ok (keys.map fun key => ⟨key, none⟩)) ∈ a.outbox ∧
      ∀ key ∈ keys, Admits a₀ a₁ key ∧ a.Timed d key

theorem Completed.mono (h : command.Completed a₀ a₁ a) (houtbox : a.outbox <+: b.outbox)
    (houtcome : ∀ key, (a.state.terminalOutcome key).isSome →
      (b.state.terminalOutcome key).isSome) :
    command.Completed a₀ a₁ b := by
  cases command with
  | operation command =>
    unfold Completed at h ⊢
    dsimp only at h ⊢
    split at h
    · rename_i hdetached
      rw [if_pos hdetached]
      rcases h with ⟨error, he⟩ | ⟨key, hadmits, ho⟩
      · exact .inl ⟨error, houtbox.subset he⟩
      · exact .inr ⟨key, hadmits, houtcome key ho⟩
    · rename_i hattached
      rw [if_neg hattached]
      exact h.mono houtbox
  | compound command =>
    rcases h with ⟨error, he⟩ | ⟨keys, hacked, hkeys⟩
    · exact .inl ⟨error, houtbox.subset he⟩
    · exact .inr ⟨keys, houtbox.subset hacked, fun key hk =>
        ⟨(hkeys key hk).1, houtcome key (hkeys key hk).2⟩⟩

theorem Pending.mono {strict : Prop} {loose : RequestKey → Prop} {acks : List RequestKey}
    (h : command.Pending a₀ a₁ d a) (hb : a.Serves seen strict loose acks b) :
    command.Pending a₀ a₁ d b := by
  cases command with
  | operation command =>
    obtain ⟨key, hadmits, htimed, hheld⟩ := h
    refine ⟨key, hadmits, htimed.mono hb.log, fun hattached => (hb.changes key).held ?_⟩
    exact (hheld hattached).imp_left (RequestAuthority.Told.mono hb.outbox)
  | compound command =>
    obtain ⟨keys, hacked, hkeys⟩ := h
    exact ⟨keys, hb.outbox.subset hacked, fun key hk =>
      ⟨(hkeys key hk).1, (hkeys key hk).2.mono hb.log⟩⟩

theorem Pending.completed (h : command.Pending a₀ a₁ d a)
    (hends : ∀ key, a.Timed d key → (a.state.terminalOutcome key).isSome) :
    command.Completed a₀ a₁ a := by
  cases command with
  | operation command =>
    obtain ⟨key, hadmits, htimed, hheld⟩ := h
    unfold Completed
    dsimp only
    split
    · exact .inr ⟨key, hadmits, hends key htimed⟩
    rename_i hattached
    rcases hheld (Bool.eq_false_iff.mpr hattached) with htold | ⟨hopen, -⟩
    · exact htold
    have hended := hends key htimed
    rw [show a.state.terminalOutcome key = none from hopen] at hended
    cases hended
  | compound command =>
    obtain ⟨keys, hacked, hkeys⟩ := h
    exact .inr ⟨keys, hacked, fun key hk => ⟨(hkeys key hk).1, hends key (hkeys key hk).2⟩⟩

theorem Pending.entry (h : command.Pending a₀ a₁ d a) (ha : a.Alarmed) :
    command.Completed a₀ a₁ a ∨ ∃ e ∈ a.state.deadlines, e.instant = d := by
  by_cases hends : ∀ key, a.Timed d key → (a.state.terminalOutcome key).isSome
  · exact .inl (h.completed hends)
  push Not at hends
  obtain ⟨key, htimed, hopen⟩ := hends
  exact .inr ((htimed.entry ha).resolve_left hopen)

end OwnerCommand

end

/-! ## Every run -/

namespace OwnerTask

open RequestAuthority

variable {s s₀ : OwnerTask} {d now : MonotonicTime} {input : OwnerInput} {command : OwnerCommand}
  {a₀ a₁ : RequestAuthority}

def Processed (s s' : OwnerTask) : OwnerCommand → Prop
  | .operation command => ∃ base wire, base.authority = s.authority ∧
      s' = OwnerTask.processOperationAdmission base command wire
  | .compound command => ∃ base wire, base.authority = s.authority ∧
      s' = OwnerTask.processCompoundAdmission base command wire

theorem workTaken_processed {work : Work} (h : s.workTaken work = some command) :
    Processed s (s.work work) command ∧ work.publishes = false := by
  unfold workTaken at h
  split at h
  · split at h
    · rename_i hfree
      obtain rfl := Option.some.inj h
      exact ⟨⟨s, _, rfl, if_pos hfree⟩, rfl⟩
    · cases h
  · split at h
    · rename_i hfree
      obtain rfl := Option.some.inj h
      exact ⟨⟨s, _, rfl, if_pos hfree⟩, rfl⟩
    · cases h
  · cases h

theorem taken_processed (h : s.taken input = some command) :
    Processed s (s.step input) command := by
  unfold taken at h
  split at h
  · cases h
  rename_i hruns
  push Not at hruns
  unfold step
  rw [if_neg hruns.1, if_neg hruns.2]
  cases input with
  | work work => exact (workTaken_processed h).1
  | awaited work =>
    dsimp only at h ⊢
    split at h
    · cases h
    rename_i hstays
    obtain ⟨hprocessed, hquiet⟩ := workTaken_processed h
    rw [if_neg hstays, if_neg (by rw [hquiet]; nofun)]
    exact hprocessed
  | retryOperation wire =>
    obtain ⟨parked, hparked, rfl⟩ := Option.map_eq_some_iff.mp h
    refine ⟨{ s with waitingOperation := none }, wire, rfl, ?_⟩
    dsimp only [retryOperation]
    rw [hparked]
  | retryCompound wire =>
    dsimp only at h
    split at h
    · rename_i hempty
      obtain ⟨parked, hparked, rfl⟩ := Option.map_eq_some_iff.mp h
      refine ⟨{ s with waitingCompound := none }, wire, rfl, ?_⟩
      dsimp only [retryCompound]
      rw [hparked]
      exact if_pos hempty
    · cases h
  | _ => cases h

/-- A submission with a deadline is completed, or its deadline is armed. -/
theorem Processed.pending {s' : OwnerTask} (h : Processed s s' command)
    (ha : s.authority.Proper seen) (hd : command.deadline = some d)
    (haffordable : command.Affordable s.authority) :
    command.Completed s.authority s'.authority s'.authority ∨
      command.Pending s.authority s'.authority d s'.authority := by
  cases command with
  | operation command =>
    obtain ⟨base, wire, hbase, rfl⟩ := h
    rw [← hbase] at ha haffordable ⊢
    have admitted {key : RequestKey} {b : RequestAuthority}
        (h : Enrolled seen command.deadline command.submission.terminal key base.authority b) :
        OwnerCommand.Pending base.authority b d b (.operation command) := by
      obtain ⟨plan, hplan, hkey, hdeadline⟩ := h.plan
      refine ⟨key, ⟨h.fresh, h.known⟩, ⟨plan, hplan, hkey, hdeadline.trans hd⟩, fun hattached =>
        h.changes.held (.inr ?_)⟩
      refine ⟨rfl, _, rfl, ?_, rfl, rfl⟩
      simp [Submission.terminal, hattached]
    have hsubmitted : Submitted seen True (fun _ => False) command base _ :=
      processOperationAdmission_submitted ha command wire
    cases hsubmitted with
    | refused error _ _ told answered =>
      left
      unfold OwnerCommand.Completed
      dsimp only
      split
      · exact .inl ⟨error, answered⟩
      · rename_i hattached
        exact told _ (if_neg hattached)
    | parked charge needs lacks _ =>
      have hcovers := haffordable charge.toNat
        (by simp [OwnerCommand.needs, needs, Except.toOption])
      omega
    | queued key _ _ enrolled => exact .inr (admitted enrolled)
    | preparing key _ _ enrolled _ _ => exact .inr (admitted enrolled)
  | compound command =>
    obtain ⟨base, wire, hbase, rfl⟩ := h
    rw [← hbase] at ha haffordable ⊢
    have hsubmitted : SubmittedCompound seen True (fun _ => False) command base _ :=
      processCompoundAdmission_submitted ha command wire
    cases hsubmitted with
    | refused error _ _ answered => exact .inl (.inl ⟨error, answered⟩)
    | parked required needs lacks _ =>
      have hcovers := haffordable required needs
      omega
    | queued keys _ _ answered enrolled =>
      refine .inr ⟨keys, answered, fun key hk => ?_⟩
      obtain ⟨plan, hplan, hkey, hdeadline⟩ := (enrolled key hk).plan
      exact ⟨⟨(enrolled key hk).fresh, (enrolled key hk).known⟩, plan, hplan, hkey,
        hdeadline.trans hd⟩

def Owed (a₀ a₁ : RequestAuthority) (d : MonotonicTime) (command : OwnerCommand) (s : OwnerTask) :
    Prop :=
  command.Completed a₀ a₁ s.authority ∨ s.exited = false ∧ command.Pending a₀ a₁ d s.authority

theorem teardown_completed (h : s.authority.Proper seen) (hal : s.authority.Alarmed) (lanes : Lanes)
    (hp : command.Pending a₀ a₁ d s.authority) :
    command.Completed a₀ a₁ (s.teardown lanes).authority := by
  obtain ⟨a, hserves, hclosed, houtbox, hstate⟩ :
    ∃ a, Serves seen True (fun _ => False) [] s.authority a ∧
    _ := teardown_serves h lanes
  refine OwnerCommand.Completed.mono ((hp.mono hserves).completed fun key htimed => ?_) houtbox
    fun key ho => by rwa [hstate]
  rcases GenerationState.isOpen_or_outcome (htimed.known (hserves.log.alarmed h.sound hal))
    with hopen | ⟨o, ho⟩
  · rw [hclosed] at hopen
    cases hopen
  · rw [ho]
    rfl

theorem reads_any (s : OwnerTask) (input : OwnerInput) : s.Reads (fun _ => True) False input :=
  fun _ _ => ⟨trivial, False.elim⟩

structure Going (s : OwnerTask) : Prop where
  kept : s.Kept
  proper : s.exited = false → s.authority.Proper fun _ => True
  alarmed : s.authority.Alarmed

theorem step_going (h : s.Going) (input : OwnerInput) : (s.step input).Going where
  kept := step_kept h.kept input
  proper hexited := step_proper (h.proper (exited_of_step hexited)) hexited (reads_any s input)
  alarmed := (step_acts h.kept input).log.alarmed h.kept.filed.sound h.alarmed

theorem run_going (config : RuntimeConfig) (inputs : List OwnerInput) : (run config inputs).Going :=
  List.foldl_invariant (P := Going) (fun _ input h => step_going h input) inputs
    { kept := start_kept config
      proper := fun _ => start_proper config
      alarmed := ⟨fun _ => [], fun _ => ⟨(fun _ h => nomatch h), (fun _ h => nomatch h),
        (fun _ => rfl), (fun _ _ _ => rfl), fun _ _ h => nomatch h⟩⟩ }

theorem step_split (h : s.Kept) (input : OwnerInput) :
    (s.exited = false ∧ (s.step input).exited = false) ∨
    (s.exited = false ∧ ∃ lanes, input = .leave lanes ∧ s.step input = s.teardown lanes) ∨
    (s.exited = true ∧ (s.step input).authority = s.authority) := by
  by_cases hleave : ∃ lanes, input = .leave lanes ∧ s.panicked = false ∧ s.exited = false
  · obtain ⟨lanes, rfl, hpanicked, hexited⟩ := hleave
    refine .inr (.inl ⟨hexited, lanes, rfl, ?_⟩)
    rw [step, if_neg (by simp [hpanicked]), if_neg (by simp [hexited])]
  have hsame := (step_keyed h.keyed hleave).2
  cases hexited : s.exited with
  | false => exact .inl ⟨rfl, hsame.trans hexited⟩
  | true =>
    rcases step_exited hexited input with he | ⟨bytes, completion, he⟩
    · exact .inr (.inr ⟨rfl, by rw [he]⟩)
    · exact .inr (.inr ⟨rfl, by rw [he, (finishActiveWrite_same bytes completion).1]⟩)

theorem step_outbox (h : s.Going) (input : OwnerInput) :
    s.authority.outbox <+: (s.step input).authority.outbox := by
  rcases step_split h.kept input with ⟨hexited, hout⟩ | ⟨hexited, lanes, -, he⟩ | ⟨-, he⟩
  · obtain ⟨acks, hserves⟩ := (step_turned (h.proper hexited) hout (reads_any s input)).serves
      (h.proper hexited)
    exact hserves.outbox
  · obtain ⟨a, hserves, -, houtbox, -⟩ : ∃ a,
      Serves (fun _ => True) True (fun _ => False) [] s.authority a ∧ _ :=
      teardown_serves (h.proper hexited) lanes
    rw [he]
    exact hserves.outbox.trans houtbox
  · rw [he]

theorem step_completed (h : s.Going) (input : OwnerInput)
    (hc : command.Completed a₀ a₁ s.authority) :
    command.Completed a₀ a₁ (s.step input).authority := by
  refine hc.mono (step_outbox h input) fun key ho => ?_
  obtain ⟨o, ho⟩ := Option.isSome_iff_exists.mp ho
  have hlog : s.authority.Log (s.step input).authority := (step_acts h.kept input).log
  rw [hlog.outcome h.kept.filed.sound ho]
  rfl

/-- What a deadline owes to a submission it owes until it is completed. -/
theorem step_owed (h : s.Going) (input : OwnerInput) (ho : Owed a₀ a₁ d command s) :
    Owed a₀ a₁ d command (s.step input) := by
  rcases ho with hcompleted | ⟨hexited, hpending⟩
  · exact .inl (step_completed h input hcompleted)
  have hproper := h.proper hexited
  rcases step_split h.kept input with ⟨-, hout⟩ | ⟨-, lanes, -, he⟩ | ⟨hout, -⟩
  · obtain ⟨acks, hserves⟩ := (step_turned hproper hout (reads_any _ _)).serves hproper
    exact .inr ⟨hout, hpending.mono hserves⟩
  · rw [he]
    exact .inl (teardown_completed hproper h.alarmed lanes hpending)
  · rw [hexited] at hout
    cases hout

theorem owed_of_taken (h : s.Going) (htaken : s.taken input = some command)
    (hfunded : s.Funded input) (hd : command.deadline = some d) :
    Owed s.authority (s.step input).authority d command (s.step input) := by
  have hexited : s.exited = false := by
    unfold taken at htaken
    split at htaken
    · cases htaken
    rename_i hruns
    push Not at hruns
    exact Bool.eq_false_iff.mpr hruns.2
  have hout : (s.step input).exited = false := by
    rcases step_split h.kept input with ⟨-, hout⟩ | ⟨-, lanes, rfl, -⟩ | ⟨hout, -⟩
    · exact hout
    · unfold taken at htaken
      split at htaken
      · cases htaken
      · cases htaken
    · rw [hexited] at hout
      cases hout
  rcases (taken_processed htaken).pending (h.proper hexited) hd
    (hfunded command htaken (by rw [hd]; rfl)) with hcompleted | hpending
  · exact .inl hcompleted
  · exact .inr ⟨hout, hpending⟩

theorem Owed.entry (ho : Owed a₀ a₁ d command s) (h : s.Going) :
    command.Completed a₀ a₁ s.authority ∨ ∃ e ∈ s.authority.state.deadlines, e.instant = d := by
  rcases ho with hcompleted | ⟨-, hpending⟩
  · exact .inl hcompleted
  · exact hpending.entry h.alarmed

theorem foldl_owed (h : s.Going) (ho : Owed a₀ a₁ d command s) (inputs : List OwnerInput) :
    (inputs.foldl step s).Going ∧ Owed a₀ a₁ d command (inputs.foldl step s) :=
  List.foldl_invariant (P := fun s => s.Going ∧ Owed a₀ a₁ d command s)
    (fun _ input h => ⟨step_going h.1 input, step_owed h.1 input h.2⟩) inputs ⟨h, ho⟩

theorem foldl_completed (h : s.Going) (hc : command.Completed a₀ a₁ s.authority)
    (inputs : List OwnerInput) : command.Completed a₀ a₁ (inputs.foldl step s).authority :=
  (List.foldl_invariant (P := fun s : OwnerTask => s.Going ∧ command.Completed a₀ a₁ s.authority)
    (fun _ input h => ⟨step_going h.1 input, step_completed h.1 input h.2⟩) inputs ⟨h, hc⟩).2

/-- The timer leaves no deadline that has passed. -/
theorem deadline_drained (h : s.Awake) (now : MonotonicTime) :
    ∀ e ∈ (s.step (.deadline now)).authority.state.deadlines, now < e.instant := by
  have hstate : (s.step (.deadline now)).authority.state =
      (s.authority.state.advanceTime now).1 := by
    obtain ⟨hpanicked, hexited, hleaving⟩ := h
    simp only [step, hpanicked, hexited, hleaving, Bool.false_eq_true, if_false]
    unfold deadlineExpired
    dsimp only
    have hfed := (s.authority.settle_fed (.advanceTime now)).state
    split
    · exact hfed
    · exact hfed
  rw [hstate]
  exact s.authority.state.advanceTime_drained now

/-- If a command with a deadline is taken only with the credits it needs, the owner never sleeps
past it, and after the timer its caller is completed. -/
theorem deadlines_kept_when_funded (config : RuntimeConfig) (before after : List OwnerInput)
    (input : OwnerInput) (hfunded : Meets step Funded (start config) (before ++ input :: after)) :
    ∀ command ∈ (run config before).taken input, ∀ d, command.deadline = some d →
      let completed := command.Completed (run config before).authority
        (run config (before ++ [input])).authority
      (completed (run config (before ++ input :: after)).authority ∨
        (run config (before ++ input :: after)).authority.state.WakesBy d) ∧
      ∀ middle now rest, after = middle ++ .deadline now :: rest →
        (run config (before ++ input :: middle)).Awake → d ≤ now →
        completed (run config (before ++ input :: after)).authority := by
  intro command htaken d hd completed
  have hgoing := run_going config before
  have hstep : run config (before ++ [input]) = (run config before).step input := by
    rw [run_append]
    rfl
  have howed : Owed (run config before).authority (run config (before ++ [input])).authority d
      command (run config (before ++ [input])) := by
    rw [hstep]
    exact owed_of_taken hgoing htaken (Meets.append.mp hfunded).2.1 hd
  have hrun (inputs : List OwnerInput) : run config (before ++ input :: inputs) =
      inputs.foldl step (run config (before ++ [input])) := by
    rw [run_append, hstep]
    rfl
  refine ⟨?_, fun middle now rest hafter hawake hle => ?_⟩
  · rw [hrun]
    obtain ⟨hlater, howed⟩ := foldl_owed (run_going config _) howed after
    refine (howed.entry hlater).imp id ?_
    rintro ⟨e, he, rfl⟩
    exact GenerationState.wakesBy_of_entry he
  · rw [hrun] at hawake
    obtain ⟨hlater, howed⟩ := foldl_owed (run_going config _) howed middle
    have hfired := step_owed hlater (.deadline now) howed
    have hdone : completed ((middle.foldl step (run config (before ++ [input]))).step
        (.deadline now)).authority := by
      refine (hfired.entry (step_going hlater _)).resolve_right ?_
      rintro ⟨e, he, rfl⟩
      exact absurd hle (not_le.mpr (deadline_drained hawake now e he))
    rw [hrun, hafter, List.foldl_append]
    exact foldl_completed (step_going hlater _) hdone rest

theorem deadlines_kept_when_funded_echo :
    (run (smallConfig 2)
      [.work (.operation (submitEcho false (some 5) 0) (.inline (some echoFrame))),
      .dispatchNext, .deadline 5]).authority.Told (.ticket 0) :=
  (deadlines_kept_when_funded (smallConfig 2) [] [.dispatchNext, .deadline 5]
    (.work (.operation (submitEcho false (some 5) 0) (.inline (some echoFrame)))) (by decide)
    (.operation (submitEcho false (some 5) 0)) rfl 5 rfl).2 [.dispatchNext] 5 [] rfl
    (by decide) le_rfl

def parkedOperation : List Turn :=
  [{ operations := [(submitEcho false (some 5) 0, .inline (some echoFrame))]
     final := .awaited (.operation (submitEcho false (some 3) 1) (.inline (some echoFrame))) }]

/-- The timer fires at 5 for another request; the command parked for credits, due at 3, is told
nothing.
-/
theorem parked_past_deadline :
    let s := run (smallConfig 1) (parkedOperation.flatMap Turn.inputs)
    let s' := run (smallConfig 1) (parkedOperation.flatMap Turn.inputs ++
      Turn.inputs { final := .deadline 5 })
    s.waitingOperation = some (submitEcho false (some 3) 1) ∧
    s.authority.state.nextDeadline = some 5 ∧ s.Awake ∧
    s'.waitingOperation = some (submitEcho false (some 3) 1) ∧ s'.authority.fatal = none ∧
    s'.authority.answers (.ticket 0) = [.error (.terminal .timedOut)] ∧
    s'.authority.answers (.ticket 1) = [] := by
  decide

end OwnerTask

end Runtime
