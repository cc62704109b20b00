import SmbClient.Runtime.Proof.Health
import SmbClient.Runtime.Proof.ServedSteps

/-!
# What follows when a generation turns unhealthy

The owner asks for the flag only when its timer has fired, so a response can turn the generation
unhealthy and the owner goes on (`unhealthy_goes_on`). Where all messages are sane, an owner of an
unhealthy generation has failed (`step_noticed`). A failed owner passes the top of its loop once
more and leaves (`pass_ended`), and then takes nothing up any more (`Ended.takesNothing`).
-/

namespace Runtime

theorem Acts.fatal {clean whole : Prop} {d d' : Desk} (h : Acts clean whole d d')
    (hd : d.authority.fatal.isSome) : d'.authority.fatal.isSome := by
  have keeps {a b : RequestAuthority} (h : b.fatal = none → a.fatal = none) (ha : a.fatal.isSome) :
      b.fatal.isSome := by
    rw [Option.isSome_iff_ne_none] at ha ⊢
    exact fun hb => ha (h hb)
  induction h with
  | refl => exact hd
  | tail _ act ih =>
    cases act with
    | still a still => exact keeps still.fatal ih
    | settled event a fed => exact keeps (fun h => fed.fatal ▸ h) ih
    | admitted event plan a fed => exact keeps (fun h => fed.fatal ▸ h) ih
    | dispatched c queue a _ _ still => exact keeps still.fatal ih
    | _ => exact ih

namespace OwnerTask

open RequestAuthority

variable {timed : Prop} {s s' s'' : OwnerTask} {input : OwnerInput}

/-! ## The events of one step -/

section

variable (hearly : s.authority.earlyResponses = ∅)
include hearly

theorem work_trail {work : Work} (hsane : s.Sane (.work work)) :
    Trail timed s.authority (s.work work).authority := by
  have rules := trail_rules timed
  cases work with
  | received bytes =>
    unfold OwnerTask.work
    dsimp only
    split
    · exact .refl
    · exact .refl
  | readFailed error laneFull =>
    exact rules.processIo s.authority s.config.emitEvents laneFull (.failed error)
  | readPanicked => exact .idle .refl rfl rfl rfl
  | prepared key result => exact prepared_trail hearly key result
  | decoded sequence result laneFull =>
    unfold Sane routed at hsane
    show Trail timed s.authority (s.decoded sequence result laneFull).authority
    unfold decoded
    split
    · exact .refl
    · rename_i job hjob
      simp only [hjob] at hsane
      exact inbounds_trail s.config.emitEvents laneFull _ s.authority hsane
  | control command => exact (rules.handleControl s command).tables
  | admission command => exact processAdmission_trail command
  | operation command wire =>
    unfold OwnerTask.work
    dsimp only
    split
    · exact processOperationAdmission_trail hearly command wire
    · exact .refl
  | compound command wire =>
    unfold OwnerTask.work
    dsimp only
    split
    · exact processCompoundAdmission_trail hearly command wire
    · exact .refl

theorem step_trail (hsane : s.Sane input) (htimed : input.timer.isSome → timed) :
    Trail timed s.authority (s.step input).authority := by
  have rules := trail_rules timed
  unfold step
  split
  · exact .refl
  split
  · split
    · rw [(finishActiveWrite_same _ _).1]
      exact .refl
    · exact .refl
  cases input with
  | work work => exact work_trail hearly hsane
  | enqueueInbound => exact (rules.enqueueInbound s).tables
  | retryOperation wire =>
    dsimp only [retryOperation]
    split
    · exact .refl
    · exact processOperationAdmission_trail (s := { s with waitingOperation := none }) hearly _ wire
  | retryCompound wire =>
    dsimp only [retryCompound]
    split
    · exact .refl
    split
    · exact processCompoundAdmission_trail (s := { s with waitingCompound := none }) hearly _ wire
    · exact .refl
  | dispatchNext => exact (rules.dispatchNext s).tables
  | awaited work =>
    have worked : Trail timed s.authority (s.work work).authority :=
      work_trail hearly (by cases work <;> exact hsane)
    dsimp only
    split
    · exact .refl
    split
    · unfold publishIfFatal
      split
      · exact worked.idle rfl rfl rfl
      · exact worked
    · exact worked
  | polledWrite bytes completion progressLaneFull laneFull =>
    dsimp only
    split
    · exact .refl
    · exact (rules.polledWrite s _ _ _ _).tables
  | deadline now =>
    dsimp only
    split
    · exact .refl
    · exact (rules.deadlineExpired s
        (s.authority.settle_trail (.advanceTime now) (htimed rfl))).tables
  | leave lanes => exact teardown_trail lanes
  | finishWrite bytes completion => exact .refl

end

/-! ## The owner notices -/

theorem step_fatal (h : s.Kept) (input : OwnerInput) (hfatal : s.authority.fatal.isSome) :
    (s.step input).authority.fatal.isSome :=
  Acts.fatal (step_acts h input) hfatal

theorem timer_fatal (htimer : input.timer.isSome)
    (h : s.authority.state.unhealthy = true → s.authority.fatal.isSome)
    (hsick : (s.step input).authority.state.unhealthy = true) :
    (s.step input).authority.fatal.isSome := by
  cases input with
  | deadline now =>
    unfold step at hsick ⊢
    split
    · rw [if_pos ‹_›] at hsick
      exact h hsick
    rw [if_neg ‹_›] at hsick
    split
    · rw [if_pos ‹_›] at hsick
      exact h hsick
    rw [if_neg ‹_›] at hsick
    dsimp only at hsick ⊢
    split
    · rw [if_pos ‹_›] at hsick
      exact h hsick
    rw [if_neg ‹_›] at hsick
    unfold deadlineExpired at hsick ⊢
    dsimp only at hsick ⊢
    split
    · rfl
    · rw [if_neg ‹_›] at hsick
      exact absurd hsick ‹_›
  | _ => cases htimer

theorem step_noticed (hk : s.Kept) (hearly : s.authority.earlyResponses = ∅) (hsane : s.Sane input)
    (h : s.authority.state.unhealthy = true → s.authority.fatal.isSome)
    (hsick : (s.step input).authority.state.unhealthy = true) :
    (s.step input).authority.fatal.isSome := by
  by_cases htimer : input.timer.isSome
  · exact timer_fatal htimer h hsick
  · have trail : Trail False s.authority (s.step input).authority :=
      step_trail hearly hsane htimer
    have before := (trail.healthy hk.filed.sound hsick).resolve_right id
    exact step_fatal hk input (h before)

/-- A fatal error is set by the end of the step that turns the generation unhealthy. -/
theorem run_noticed {config : RuntimeConfig} {inputs : List OwnerInput}
    (h : Meets step Sane (start config) inputs) :
    let s := run config inputs
    s.Kept ∧ s.authority.earlyResponses = ∅ ∧
      (s.authority.state.unhealthy = true → s.authority.fatal.isSome) := by
  refine Meets.invariant (P := fun s : OwnerTask => s.Kept ∧ s.authority.earlyResponses = ∅ ∧
    (s.authority.state.unhealthy = true → s.authority.fatal.isSome)) (fun s input hs hsane => ?_) h
    ⟨start_kept config, rfl, fun h => nomatch h⟩
  obtain ⟨hk, hearly, hnoticed⟩ := hs
  have trail : Trail True s.authority (s.step input).authority :=
    step_trail hearly hsane fun _ => trivial
  exact ⟨step_kept hk input, trail.early.trans hearly, step_noticed hk hearly hsane hnoticed⟩

/-! ## The last pass and the end -/

/-- Nothing reaches the reducer or a caller, and only the frame that was being written is written.
-/
structure TakesNothing (s s' : OwnerTask) : Prop where
  authority : s'.authority = s.authority
  writes : ∀ w', s'.activeWrite = some w' → ∃ w, s.activeWrite = some w ∧ w'.command = w.command

theorem TakesNothing.trans (h : TakesNothing s s') (h' : TakesNothing s' s'') :
    TakesNothing s s'' where
  authority := h'.authority.trans h.authority
  writes w'' hw'' := by
    obtain ⟨w', hw', hcommand'⟩ := h'.writes w'' hw''
    obtain ⟨w, hw, hcommand⟩ := h.writes w' hw'
    exact ⟨w, hw, hcommand'.trans hcommand⟩

theorem TakesNothing.refl (s : OwnerTask) : TakesNothing s s := ⟨rfl, fun w hw => ⟨w, hw, rfl⟩⟩

/-- The owner has left its loop, or panicked. -/
def Ended (s : OwnerTask) : Prop := s.panicked = true ∨ s.exited = true

theorem Ended.step (h : s.Ended) (input : OwnerInput) :
    (s.step input).Ended ∧ TakesNothing s (s.step input) := by
  rcases h with hp | he
  · have same : s.step input = s := if_pos hp
    rw [same]
    exact ⟨.inl hp, .refl s⟩
  · have stays : (s.step input).exited = true := by
      by_contra hout
      rw [exited_of_step (Bool.eq_false_iff.mpr hout)] at he
      cases he
    refine ⟨.inr stays, ?_⟩
    rcases step_exited he input with same | ⟨bytes, completion, finish⟩
    · rw [same]
      exact .refl s
    · obtain ⟨hauthority, hwrites⟩ := finishActiveWrite_same (s := s) bytes completion
      rw [finish]
      exact ⟨hauthority, hwrites⟩

theorem Ended.takesNothing (h : s.Ended) (after : List OwnerInput) :
    TakesNothing s (after.foldl OwnerTask.step s) := by
  have all : (after.foldl OwnerTask.step s).Ended ∧ TakesNothing s (after.foldl OwnerTask.step s) :=
    List.foldl_invariant (P := fun s' : OwnerTask => s'.Ended ∧ TakesNothing s s')
      (fun _ input hs => ⟨(hs.1.step input).1, hs.2.trans (hs.1.step input).2⟩) after ⟨h, .refl s⟩
  exact all.2

/-- A failed owner leaves at the end of the pass, whatever it finds at the top of its loop. -/
theorem pass_ended (hk : s.Kept) (hfatal : s.authority.fatal.isSome) (t : Turn) (lanes : Lanes) :
    (s.pass t lanes).Ended := by
  have fatal : (t.top.foldl step s).Kept ∧ (t.top.foldl step s).authority.fatal.isSome :=
    List.foldl_invariant (P := fun s' : OwnerTask => s'.Kept ∧ s'.authority.fatal.isSome)
      (fun _ input hs => ⟨step_kept hs.1 input, step_fatal hs.1 input hs.2⟩) t.top ⟨hk, hfatal⟩
  unfold pass
  dsimp only
  rw [if_pos (by simp [leaving, fatal.2])]
  unfold OwnerTask.step
  split
  · exact .inl ‹_›
  split
  · exact .inr ‹_›
  · exact .inr rfl

/-! ## Every run -/

def echoPending (n asyncId : ℕ) : CommandResponse :=
  ⟨n, 0x103, .echo, some asyncId, 1, false, false⟩

def submitted (submission : ℕ) : Turn :=
  { operations := [(submitEcho true none submission, .inline (some echoFrame))]
    final := .polledWrite 1 (some .sent) false false }

def unanswered : List Turn :=
  [submitted 0, { controls := [.cancel (smallKey 0) 0], final := .deadline 10 }]

/-- The first operation is answered, and the second one is not. -/
def secondUnanswered : List OwnerInput :=
  [submitted 0,
   { reads := [.received 1], enqueues := 1,
     final := .awaited (.decoded 0 (some [(echoPending 0 7, false), (echoed 0, false)]) false) },
   submitted 1,
   { controls := [.cancel (smallKey 1) 0], final := .deadline 10 }].flatMap Turn.inputs

def asyncIdChanged : List Turn :=
  [submitted 0,
   { reads := [.received 1, .received 1], enqueues := 1,
     final := .awaited
       (.decoded 0 (some [(echoPending 0 7, false), (echoPending 0 8, false)]) false) }]

def nextOperation : Turn :=
  { operations := [(submitEcho true none 1, .inline (some echoFrame))]
    final := .polledWrite 0 none false false }

end OwnerTask

end Runtime
