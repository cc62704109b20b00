import SmbClient.Runtime.Proof.RecoveryReturns

/-!
# The end of a recovery

`Settled`: at most one call of `recover` is past the loss it reports, and the coordinator is as that
call has left it, or ended. `Undisturbed`: what a step must not meet for this to hold.
-/

namespace Runtime

open Calls RecoveryCoordinator

namespace RecoveryCoordinator

variable {c : RecoveryCoordinator}

def Follows (c : RecoveryCoordinator) : Option RecoveryEffect → Prop
  | some (.scheduleAttempt _ wakeAt) =>
    c.state.terminal = true ∨ ∃ attempt total, c.state = .waiting attempt wakeAt total
  | some (.startAttempt _ _) =>
    c.state.terminal = true ∨ ∃ attempt deadline total, c.state = .connecting attempt deadline total
  | some .recoveryFailed | some .closed | none => c.state.terminal = true
  | some (.publishGeneration _) => False

section

variable (h : c.state.terminal = true)
include h

theorem reduce_terminal (event : RecoveryEvent) : c.reduce event = (c, none) := by
  unfold reduce
  cases hs : c.state with
  | failed => rfl
  | closed => rfl
  | _ =>
    rw [hs] at h
    cases h

theorem terminal_reduce (event : RecoveryEvent) : (c.reduce event).1.state.terminal = true := by
  rw [reduce_terminal h event]
  exact h

theorem Follows.of_terminal {effect : Option RecoveryEffect}
    (hp : ∀ generation, effect ≠ some (.publishGeneration generation)) : c.Follows effect := by
  unfold Follows
  split
  · exact .inl h
  · exact .inl h
  · exact h
  · exact h
  · exact h
  · exact absurd rfl (hp _)

end

section

variable (c)

theorem close_terminal : (c.reduce .close).1.state.terminal = true := by
  cases hs : c.state with
  | failed => exact terminal_reduce (by rw [hs]; rfl) .close
  | closed => exact terminal_reduce (by rw [hs]; rfl) .close
  | _ =>
    unfold reduce
    rw [hs]
    rfl

theorem schedule_follows (attempt : ℕ) (now total : MonotonicTime) :
    (c.schedule attempt now total).1.Follows (c.schedule attempt now total).2 :=
  .inr ⟨attempt, total, rfl⟩

end

theorem transportLost_follows {generation : GenerationId} (h : c.state = .connected generation)
    (now : MonotonicTime) : (c.reduce (.transportLost generation now)).1.Follows
      (c.reduce (.transportLost generation now)).2 := by
  unfold reduce
  rw [h]
  dsimp only
  rw [if_pos rfl]
  split
  · rfl
  · exact schedule_follows c _ _ _

theorem wake_follows {now wakeAt : MonotonicTime} (hnow : wakeAt ≤ now)
    (h : c.state.terminal = true ∨ ∃ attempt total, c.state = .waiting attempt wakeAt total) :
    (c.reduce (.wake now)).1.Follows (c.reduce (.wake now)).2 := by
  rcases h with h | ⟨attempt, total, h⟩
  · rw [reduce_terminal h]
    exact h
  · unfold reduce
    rw [h]
    dsimp only
    rw [if_pos hnow]
    split
    · rfl
    · exact .inr ⟨_, _, _, rfl⟩

section

variable (h : c.state.terminal = true ∨ ∃ attempt deadline total, c.state = .connecting attempt
    deadline total)
include h

theorem attemptFailed_follows
    (now : MonotonicTime) (jitter : Duration) : (c.reduce (.attemptFailed now jitter)).1.Follows
      (c.reduce (.attemptFailed now jitter)).2 := by
  rcases h with h | ⟨attempt, deadline, total, h⟩
  · rw [reduce_terminal h]
    exact h
  · unfold reduce
    rw [h]
    dsimp only
    split
    · rfl
    · exact schedule_follows c _ _ _

theorem attemptSucceeded_cases
    (generation : GenerationId) :
    (c.state.terminal = true ∧ c.reduce (.attemptSucceeded generation) = (c, none)) ∨
    (c.reduce (.attemptSucceeded generation)).2 = some (.publishGeneration generation) ∧
      (c.reduce (.attemptSucceeded generation)).1.state = .connected generation := by
  rcases h with h | ⟨attempt, deadline, total, h⟩
  · exact .inl ⟨h, reduce_terminal h _⟩
  right
  unfold reduce
  rw [h]
  exact ⟨rfl, rfl⟩

end

end RecoveryCoordinator

/-- Past the loss it reports, and not returned. -/
def RecoverCall.drives : RecoverCall → Bool
  | .entering _ _ | .returned _ => false
  | _ => true

theorem RecoverCall.drives_of_begun {c : RecoverCall} (h : c.begun = true) : c.drives = true := by
  cases c with
  | entering => cases h
  | returned => cases h
  | _ => rfl

/-- Between the coordinator's success and the return. -/
def RecoverCall.publishes : RecoverCall → Bool
  | .publishing _ | .finishing _ => true
  | _ => false

def RecoveryState.underWay : RecoveryState → Bool
  | .waiting _ _ _ | .connecting _ _ _ => true
  | .connected _ | .failed | .closed => false

theorem RecoveryState.not_underWay {state : RecoveryState} (h : state.terminal = true) :
    state.underWay = false := by
  cases state with
  | failed => rfl
  | closed => rfl
  | _ => cases h

namespace RecoveryDriver

variable {s s' : RecoveryDriver}
variable {c c' : RecoverCall} {call : ℕ}

def Placed (s : RecoveryDriver) : RecoverCall → Prop
  | .entering _ _ => True
  | .beginning generation _ effect =>
    s.coordinator.Follows effect ∧ s.admissions.activeConnection.generation = generation
  | .driving _ effect => s.coordinator.Follows effect
  | .waking _ => ∃ wakeAt ≤ s.clock, s.coordinator.state.terminal = true ∨
    ∃ attempt total, s.coordinator.state = .waiting attempt wakeAt total
  | .retrying _ | .succeeded _ => s.coordinator.state.terminal = true ∨
    ∃ attempt deadline total, s.coordinator.state = .connecting attempt deadline total
  | .publishing connection | .finishing connection =>
    s.coordinator.state = .connected connection.generation
  | .failing _ => s.coordinator.state.terminal = true
  | .returned (.error error) => error = .notRecoverable ∨ error = .staleGeneration ∨
    s.coordinator.state.terminal = true
  | .returned (.ok _) => True

structure Settled (s : RecoveryDriver) : Prop where
  placed : ∀ (call : ℕ) (c : RecoverCall), s.recoveries[call]? = some c → s.Placed c
  single : ∀ (i j : ℕ) (c d : RecoverCall), s.recoveries[i]? = some c → s.recoveries[j]? = some d →
    c.drives = true → d.drives = true → i = j
  home : ∀ generation, s.coordinator.state = .connected generation →
    (∀ c ∈ s.recoveries, c.drives = false) → s.admissions.activeConnection.generation = generation
  closing : ∀ (call : ℕ) (c : CloseCall), s.closings[call]? = some c → c ≠ .reducing →
    s.coordinator.state.terminal = true
  attended : s.coordinator.state.underWay = true →
    ∃ (call : ℕ) (c : RecoverCall), s.recoveries[call]? = some c ∧ c.drives = true
  timed : s.clock ≤ Machine.maxValue 64

def SoundAttempt (next : GenerationId) : Option (Except RuntimeError ObjectToken) → Bool
  | some (.ok candidate) => decide (candidate.generation = next)
  | some (.error error) => decide (error ≠ .closed)
  | none => true

section

variable (s)

def TokenSettled : Prop :=
  s.closed = true → s.coordinator.state.terminal = true

def Unpublishing : Prop := ∀ c ∈ s.recoveries, c.publishes = false

def CallUndisturbed (attempt : Option (Except RuntimeError ObjectToken)) :
    Option RecoverCall → Prop
  | some (.entering generation _) =>
    s.coordinator.state = .connected generation → s.Unpublishing
  | some (.driving _ (some (.scheduleAttempt _ _))) => s.TokenSettled
  | some (.driving next (some (.startAttempt _ deadline))) =>
    s.TokenSettled ∧ (s.closed = false → s.clock < deadline → SoundAttempt next attempt = true)
  | _ => True

def Undisturbed : DriverStep → Prop
  | .recover ⟨generation, .transport _⟩ =>
    s.TokenSettled ∧ (s.closed = false → generation.checkedNext ≠ none)
  | .advanceRecover call _ attempt => s.CallUndisturbed attempt s.recoveries[call]?
  | .advanceClose call => s.closings[call]? = some .reducing → s.Unpublishing
  | _ => True

end

section Decidable

variable (s : RecoveryDriver)

instance : Decidable s.TokenSettled := inferInstanceAs (Decidable (_ → _))

instance : Decidable s.Unpublishing := inferInstanceAs (Decidable (∀ c ∈ s.recoveries, _))

instance (attempt : Option (Except RuntimeError ObjectToken)) (c : Option RecoverCall) :
    Decidable (s.CallUndisturbed attempt c) := by
  unfold CallUndisturbed
  split <;> infer_instance

instance (input : DriverStep) : Decidable (s.Undisturbed input) := by
  unfold Undisturbed
  split <;> infer_instance

end Decidable

/-! ## Calls that do not drive -/

theorem Placed.idle (h : s.Placed c) (hc : c.drives = false)
    (ht : s.coordinator.state.terminal = true → s'.coordinator.state.terminal = true) :
    s'.Placed c := by
  cases c with
  | entering => trivial
  | returned result =>
    cases result with
    | ok => trivial
    | error error => exact h.imp_right (.imp_right ht)
  | _ => cases hc

theorem Placed.publishes_of_connected {generation : GenerationId} (h : s.Placed c)
    (hc : c.drives = true) (hs : s.coordinator.state = .connected generation) :
    c.publishes = true := by
  have hterminal : ¬ s.coordinator.state.terminal = true := by
    rw [hs]
    exact Bool.false_ne_true
  have hfollows : ∀ effect, ¬ s.coordinator.Follows effect := by
    intro effect hf
    unfold RecoveryCoordinator.Follows at hf
    rw [hs] at hf
    split at hf
    · obtain h | ⟨_, _, h⟩ := hf
      · cases h
      · cases h
    · obtain h | ⟨_, _, _, h⟩ := hf
      · cases h
      · cases h
    · cases hf
    · cases hf
    · cases hf
    · exact hf
  have hconnecting : ¬ (s.coordinator.state.terminal = true ∨
      ∃ attempt deadline total, s.coordinator.state = .connecting attempt deadline total) := by
    rw [hs]
    rintro (h | ⟨_, _, _, h⟩)
    · cases h
    · cases h
  cases c with
  | entering => cases hc
  | returned => cases hc
  | beginning generation next effect => exact absurd h.1 (hfollows effect)
  | driving next effect => exact absurd h (hfollows effect)
  | waking next =>
    obtain ⟨wakeAt, -, h | ⟨_, _, h⟩⟩ := h
    · exact absurd h hterminal
    · rw [hs] at h
      cases h
  | retrying next => exact absurd h hconnecting
  | succeeded connection => exact absurd h hconnecting
  | publishing connection => rfl
  | finishing connection => rfl
  | failing error => exact absurd h hterminal

section

variable (h : s.Settled)
include h

theorem Settled.unpublishing (ht : s.coordinator.state.terminal = true) : s.Unpublishing := by
  intro c hc
  obtain ⟨call, hcall⟩ := List.mem_iff_getElem?.mp hc
  have hplaced := h.placed call c hcall
  cases c with
  | publishing connection =>
    rw [show s.coordinator.state = _ from hplaced] at ht
    cases ht
  | finishing connection =>
    rw [show s.coordinator.state = _ from hplaced] at ht
    cases ht
  | _ => rfl

theorem Settled.frame (hr : s'.recoveries = s.recoveries)
    (hc : s'.coordinator = s.coordinator) (hclosings : s'.closings = s.closings)
    (hactive : s'.admissions.activeConnection = s.admissions.activeConnection)
    (hclock : s'.clock = s.clock) : s'.Settled := by
  have hplaced : ∀ {c : RecoverCall}, s.Placed c → s'.Placed c := by
    intro c hp
    unfold Placed at hp ⊢
    rw [hc, hactive, hclock]
    exact hp
  refine ⟨fun call c hcall => hplaced (h.placed call c (hr ▸ hcall)), ?_, ?_, ?_, ?_, ?_⟩
  · rw [hr]
    exact h.single
  · rw [hr, hc, hactive]
    exact h.home
  · rw [hclosings, hc]
    exact h.closing
  · rw [hc, hr]
    exact h.attended
  · rw [hclock]
    exact h.timed

theorem Settled.moved (hcall : s.recoveries[call]? = some c)
    (hdrives : c.drives = true ∨ ∀ d ∈ s.recoveries, d.drives = false)
    (hr : s'.recoveries = s.recoveries.set call c') (hclosings : s'.closings = s.closings)
    (hclock : s'.clock = s.clock)
    (ht : s.coordinator.state.terminal = true → s'.coordinator.state.terminal = true)
    (hplaced : s'.Placed c')
    (hend : c'.drives = false → s'.coordinator.state.underWay = false ∧
      ∀ generation, s'.coordinator.state = .connected generation →
        s'.admissions.activeConnection.generation = generation) : s'.Settled := by
  have hidle : ∀ j d, j ≠ call → s.recoveries[j]? = some d → d.drives = false := by
    intro j d hj hd
    rcases hdrives with hdrives | hnone
    · exact Bool.eq_false_iff.mpr fun hdd => hj (h.single _ _ _ _ hd hcall hdd hdrives)
    · exact hnone d (List.mem_of_getElem? hd)
  have hset : ∀ {j : ℕ} {d : RecoverCall}, s'.recoveries[j]? = some d →
      (j = call ∧ d = c') ∨ (s.recoveries[j]? = some d ∧ d.drives = false) := by
    intro j d hd
    rw [hr] at hd
    exact (getElem?_set_cases hd).imp_right fun ⟨hj, hd⟩ => ⟨hd, hidle j d hj hd⟩
  have hhere : s'.recoveries[call]? = some c' := by
    rw [hr, List.getElem?_set_self (List.getElem?_eq_some_iff.mp hcall).1]
  refine ⟨fun j d hd => ?_, fun i j d e hd he hdd hed => ?_, fun generation hs hnone => ?_, ?_,
    fun hway => ?_, by rw [hclock]; exact h.timed⟩
  · rcases hset hd with ⟨-, rfl⟩ | ⟨hd, hidle⟩
    · exact hplaced
    · exact (h.placed j d hd).idle hidle ht
  · rcases hset hd with ⟨rfl, -⟩ | ⟨-, hidle⟩
    · rcases hset he with ⟨rfl, -⟩ | ⟨-, hidle⟩
      · rfl
      · rw [hidle] at hed
        cases hed
    · rw [hidle] at hdd
      cases hdd
  · exact (hend (hnone c' (List.mem_of_getElem? hhere))).2 generation hs
  · rw [hclosings]
    exact fun j d hd hne => ht (h.closing j d hd hne)
  · cases hd : c'.drives with
    | true => exact ⟨call, c', hhere, hd⟩
    | false =>
      rw [(hend hd).1] at hway
      cases hway

/-- The calls that drive are the same. -/
theorem Settled.idled {recoveries : List RecoverCall}
    (hnew : ∀ (j : ℕ) (d : RecoverCall), recoveries[j]? = some d →
      s.recoveries[j]? = some d ∨ d.drives = false ∧ s.Placed d)
    (hback : ∀ (j : ℕ) (d : RecoverCall), s.recoveries[j]? = some d → d.drives = true →
      recoveries[j]? = some d) :
    { s with recoveries }.Settled := by
  have hdriving : ∀ {j : ℕ} {d : RecoverCall}, recoveries[j]? = some d → d.drives = true →
      s.recoveries[j]? = some d := by
    intro j d hd hdd
    refine (hnew j d hd).resolve_right fun ⟨hidle, _⟩ => ?_
    rw [hidle] at hdd
    cases hdd
  refine ⟨fun j d hd => (hnew j d hd).elim (h.placed j d) And.right, fun i j d e hd he hdd hed =>
    h.single _ _ _ _ (hdriving hd hdd) (hdriving he hed) hdd hed, fun generation hs hnone => ?_,
    h.closing, fun hway => ?_, h.timed⟩
  · refine h.home generation hs fun d hd => ?_
    obtain ⟨j, hj⟩ := List.mem_iff_getElem?.mp hd
    cases hdd : d.drives with
    | false => rfl
    | true =>
      rw [hnone d (List.mem_of_getElem? (hback j d hj hdd))] at hdd
      cases hdd
  · obtain ⟨j, d, hd, hdd⟩ := h.attended hway
    exact ⟨j, d, hback j d hd hdd, hdd⟩

theorem Settled.resigned
    (hcall : s.recoveries[call]? = some c) (hidle : c.drives = false) (hidle' : c'.drives = false)
    (hplaced : s.Placed c') : (s.setRecovery call c').Settled := by
  refine h.idled (fun j d hd => ?_) fun j d hd hdd => ?_
  · rcases getElem?_set_cases hd with ⟨-, rfl⟩ | ⟨-, hd⟩
    · exact .inr ⟨hidle', hplaced⟩
    · exact .inl hd
  · have hj : call ≠ j := by
      rintro rfl
      rw [hcall] at hd
      cases hd
      rw [hidle] at hdd
      cases hdd
    rw [List.getElem?_set_ne hj]
    exact hd

end

/-! ## A call of `recover` goes on -/

theorem driveAttempts_placed {next : GenerationId} {effect : Option RecoveryEffect}
    {jitter : Duration} {attempt : Option (Except RuntimeError ObjectToken)}
    (hcall : s.recoveries[call]? = some (.driving next effect)) (hf : s.coordinator.Follows effect)
    (hu : s.Undisturbed (.advanceRecover call jitter attempt)) :
    s.Placed (s.driveAttempts next effect attempt) := by
  dsimp only [Undisturbed] at hu
  rw [hcall] at hu
  unfold driveAttempts
  split
  · rename_i wakeAt
    split
    · rename_i hclosed
      exact hu hclosed
    · split
      · rename_i hat
        exact ⟨wakeAt, hat, hf⟩
      · exact hf
  · obtain ⟨htoken, hsound⟩ := hu
    split
    · rename_i hclosed
      exact htoken hclosed
    · rename_i hopen
      split
      · exact hf
      rename_i hearly
      have hsound := hsound (Bool.eq_false_iff.mpr hopen) (Nat.lt_of_not_le hearly)
      split
      · exact hf
      · split
        · exact hf
        · rename_i hmismatched
          exact absurd (of_decide_eq_true hsound) hmismatched
      · cases hsound
      · exact hf
  · exact hf
  · exact hf
  · exact hf
  · exact hf.elim

theorem beginRecovery_ok {generation next : GenerationId} {effect : Option RecoveryEffect}
    (hd : s.Driven) (h : s.Settled)
    (hcall : s.recoveries[call]? = some (.beginning generation next effect)) :
    s.admissions.beginRecovery generation = .ok { s.admissions with recovering := true } := by
  have hidle : s.admissions.recovering = false := by
    cases hrecovering : s.admissions.recovering with
    | false => rfl
    | true =>
      obtain ⟨j, c, hc, hbegun⟩ := hd hrecovering
      obtain rfl := h.single _ _ _ _ hcall hc rfl (RecoverCall.drives_of_begun hbegun)
      rw [hcall] at hc
      cases hc
      cases hbegun
  obtain ⟨-, hgeneration⟩ := h.placed call _ hcall
  unfold RecoveryAdmissions.beginRecovery
  rw [if_neg]
  rintro (hne | hrecovering)
  · exact hne hgeneration
  · rw [hidle] at hrecovering
    cases hrecovering

theorem advanceRecover_settled {jitter : Duration}
    {attempt : Option (Except RuntimeError ObjectToken)} (hw : s.Waits []) (hd : s.Driven)
    (h : s.Settled) (hu : s.Undisturbed (.advanceRecover call jitter attempt)) :
    (s.advanceRecover call jitter attempt).Settled := by
  unfold advanceRecover
  cases hcall : s.recoveries[call]? with
  | none => exact h
  | some c =>
    have hplaced := h.placed call c hcall
    have hterminal : ∀ event, s.coordinator.state.terminal = true →
        (s.reduce event).1.coordinator.state.terminal = true :=
      fun event ht => terminal_reduce ht event
    cases c with
    | returned result => exact h
    | entering generation next =>
      dsimp only [Undisturbed] at hu
      rw [hcall] at hu
      dsimp only
      split
      · exact h.resigned hcall rfl rfl (.inr (.inl rfl))
      rename_i hconnected
      have hconnected := not_not.mp hconnected
      -- The coordinator is connected and nobody publishes, so nobody drives.
      have hnone : ∀ c ∈ s.recoveries, c.drives = false := by
        intro c hc
        obtain ⟨j, hj⟩ := List.mem_iff_getElem?.mp hc
        cases hdrives : c.drives with
        | false => rfl
        | true =>
          have hpublishes := (h.placed j c hj).publishes_of_connected hdrives hconnected
          rw [hu hconnected c hc] at hpublishes
          cases hpublishes
      exact h.moved hcall (.inr hnone) rfl rfl rfl (hterminal _)
        ⟨transportLost_follows hconnected _, h.home generation hconnected hnone⟩
        fun hidle => nomatch hidle
    | beginning generation next effect =>
      dsimp only
      rw [beginRecovery_ok hd h hcall]
      exact h.moved hcall (.inl rfl) rfl rfl rfl (fun ht => ht) hplaced.1 fun hidle => nomatch hidle
    | driving next effect =>
      refine h.moved hcall (.inl rfl) rfl rfl rfl (fun ht => ht) ?_ fun hidle => ?_
      · have := driveAttempts_placed hcall hplaced hu
        exact this
      · rw [RecoverCall.drives_of_begun (driveAttempts_begun s next effect attempt)] at hidle
        cases hidle
    | waking next =>
      obtain ⟨wakeAt, hat, hs⟩ := hplaced
      exact h.moved hcall (.inl rfl) rfl rfl rfl (hterminal _) (wake_follows hat hs)
        fun hidle => nomatch hidle
    | retrying next =>
      exact h.moved hcall (.inl rfl) rfl rfl rfl (hterminal _)
        (attemptFailed_follows hplaced _ _) fun hidle => nomatch hidle
    | succeeded connection =>
      dsimp only
      rcases attemptSucceeded_cases hplaced connection.generation with
        ⟨ht, he⟩ | ⟨he, hs⟩
      · rw [if_neg]
        · exact h.moved hcall (.inl rfl) rfl rfl rfl (hterminal _) (hterminal _ ht) fun hidle =>
            nomatch hidle
        · show (s.coordinator.reduce _).2 ≠ _
          rw [he]
          exact fun h => nomatch h
      · rw [if_pos (show (s.reduce _).2 = _ from he)]
        exact h.moved hcall (.inl rfl) rfl rfl rfl (hterminal _) hs fun hidle => nomatch hidle
    | publishing connection =>
      exact h.moved hcall (.inl rfl) rfl rfl rfl (fun ht => ht) hplaced fun hidle => nomatch hidle
    | finishing connection =>
      obtain ⟨q, d, w, t, -, he⟩ := finishRecovery_frame hw connection
      dsimp only
      rw [he]
      refine h.moved hcall (.inl rfl) rfl rfl rfl (fun ht => ht) trivial fun _ =>
        ⟨?_, fun generation hs => ?_⟩
      · show s.coordinator.state.underWay = false
        rw [show s.coordinator.state = _ from hplaced]
        rfl
      · exact RecoveryState.connected.inj
          ((show s.coordinator.state = _ from hplaced).symm.trans hs)
    | failing error =>
      obtain ⟨q, d, w, t, -, he⟩ := failWaiters_frame s
      rw [he]
      have ht : s.coordinator.state.terminal = true := hplaced
      refine h.moved hcall (.inl rfl) rfl rfl rfl (fun ht => ht) (.inr (.inr ht)) fun _ =>
        ⟨?_, fun generation hs => ?_⟩
      · exact RecoveryState.not_underWay ht
      · rw [show s.coordinator.state = _ from hs] at ht
        cases ht

/-! ## The other steps -/

theorem recover_settled {exit : GenerationExit} (h : s.Settled)
    (hu : s.Undisturbed (.recover exit)) : (s.step (.recover exit)).Settled := by
  have hidle : (s.recover exit).drives = false := by
    unfold recover
    repeat' split
    all_goals rfl
  have hplaced : s.Placed (s.recover exit) := by
    unfold recover
    split
    · exact .inl rfl
    · exact .inl rfl
    · rename_i error hcause
      obtain ⟨generation, cause⟩ := exit
      obtain rfl : cause = .transport error := hcause
      obtain ⟨htoken, hnext⟩ := hu
      split
      · rename_i hclosed
        exact .inr (.inr (htoken hclosed))
      · rename_i hopen
        split
        · rename_i hnone
          exact absurd hnone (hnext (Bool.eq_false_iff.mpr hopen))
        · trivial
  exact h.idled (fun j d hd => (getElem?_concat_cases hd).imp_right fun ⟨_, he⟩ =>
    he ▸ ⟨hidle, hplaced⟩) fun j d hd _ => getElem?_concat_of _ hd

theorem Placed.ended (h : s.Placed c) (hc : c.publishes = false)
    (ht : s'.coordinator.state.terminal = true)
    (hactive : s'.admissions.activeConnection = s.admissions.activeConnection)
    (hclock : s'.clock = s.clock) : s'.Placed c := by
  have hfollows : ∀ {effect}, s.coordinator.Follows effect → s'.coordinator.Follows effect := by
    intro effect hf
    refine .of_terminal ht fun generation he => ?_
    subst he
    exact hf
  cases c with
  | entering => trivial
  | beginning generation next effect => exact ⟨hfollows h.1, by rw [hactive]; exact h.2⟩
  | driving next effect => exact hfollows h
  | waking next =>
    obtain ⟨wakeAt, hat, -⟩ := h
    exact ⟨wakeAt, hclock ▸ hat, .inl ht⟩
  | retrying next => exact .inl ht
  | succeeded connection => exact .inl ht
  | publishing connection => cases hc
  | finishing connection => cases hc
  | failing error => exact ht
  | returned result =>
    cases result with
    | ok => trivial
    | error error => exact .inr (.inr ht)

theorem advanceClose_settled (h : s.Settled) (hu : s.Undisturbed (.advanceClose call)) :
    (s.advanceClose call).Settled := by
  unfold advanceClose
  split
  · exact h
  · exact h
  · rename_i hreducing
    have hquiet := hu hreducing
    have ht : (s.reduce .close).1.coordinator.state.terminal = true :=
      close_terminal s.coordinator
    refine ⟨fun j d hd => ?_, h.single, fun generation hs => ?_, fun _ _ _ _ => ht, fun hway => ?_,
      h.timed⟩
    · exact (h.placed j d hd).ended (hquiet d (List.mem_of_getElem? hd)) ht rfl rfl
    · rw [show (s.reduce .close).1.coordinator.state = _ from hs] at ht
      cases ht
    · rw [show (s.reduce .close).1.coordinator.state.underWay = _ from
        RecoveryState.not_underWay ht] at hway
      cases hway
  · rename_i hfailing
    obtain ⟨q, d, w, t, -, he⟩ := failWaiters_frame s
    rw [he]
    have ht := h.closing call _ hfailing (fun h => nomatch h)
    exact ⟨h.placed, h.single, h.home, fun _ _ _ _ => ht, h.attended, h.timed⟩

/-- **Every undisturbed step keeps the recovery settled.** -/
theorem step_settled {input : DriverStep} (hw : s.Waits []) (hd : s.Driven) (h : s.Settled)
    (hu : s.Undisturbed input) : (s.step input).Settled := by
  cases input with
  | recover exit => exact recover_settled h hu
  | advanceRecover call jitter attempt => exact advanceRecover_settled hw hd h hu
  | resolveDependency dependency deadline cancellable =>
    obtain ⟨q, c, w, he⟩ := resolveDependency_frame s dependency deadline cancellable
    dsimp only [step]
    rw [he]
    exact h.frame rfl rfl rfl rfl rfl
  | advanceWait call branch =>
    obtain ⟨q, c, w, he⟩ := advanceWait_frame s call branch
    dsimp only [step]
    rw [he]
    exact h.frame rfl rfl rfl rfl rfl
  | close =>
    refine ⟨h.placed, h.single, h.home, fun j d hd hne => ?_, h.attended, h.timed⟩
    rcases getElem?_concat_cases hd with hd | ⟨-, rfl⟩
    · exact h.closing j d hd hne
    · exact absurd rfl hne
  | advanceClose call => exact advanceClose_settled h hu
  | abandon => exact h.frame rfl rfl rfl rfl rfl
  | elapse duration =>
    have hlater : s.clock ≤ s.clock.saturatingAdd duration :=
      Nat.le_min.mpr ⟨Nat.le_add_right _ _, h.timed⟩
    refine ⟨fun j d hd => ?_, h.single, h.home, h.closing, h.attended, Nat.min_le_right _ _⟩
    have hplaced := h.placed j d hd
    cases d with
    | waking next =>
      obtain ⟨wakeAt, hat, hs⟩ := hplaced
      exact ⟨wakeAt, hat.trans hlater, hs⟩
    | returned result =>
      cases result with
      | ok => trivial
      | error error => exact hplaced
    | _ => exact hplaced

variable (connection : ObjectToken)

theorem new_settled (policy : RecoveryPolicy) : (new connection policy).Settled := by
  refine ⟨?_, ?_, ?_, ?_, ?_, Nat.zero_le _⟩
  · intro call c hc
    cases hc
  · intro i j c d hc
    cases hc
  · intro generation hs _
    exact RecoveryState.connected.inj hs
  · intro call c hc
    cases hc
  · intro hway
    cases hway

/-! ## Every run -/

theorem run_settled {connection : ObjectToken} {policy : RecoveryPolicy} {steps : List DriverStep}
    (h : Meets step Undisturbed (new connection policy) steps) :
    (run connection policy steps).Waits [] ∧ (run connection policy steps).Driven ∧
      (run connection policy steps).Settled :=
  Meets.invariant (P := fun s : RecoveryDriver => s.Waits [] ∧ s.Driven ∧ s.Settled)
    (fun _ _ hs hu =>
      ⟨step_waits hs.1 _, step_driven hs.1 hs.2.1 _, step_settled hs.1 hs.2.1 hs.2.2 hu⟩)
    h ⟨new_waits connection policy, .resting rfl, new_settled connection policy⟩

structure Unpublished (s s' : RecoveryDriver) : Prop where
  announced : s'.announced = s.announced
  replaced : s'.replaced = s.replaced
  returned : ∀ (call : ℕ) (token : ObjectToken),
    s'.recoveries[call]? = some (.returned (.ok token)) →
    s.recoveries[call]? = some (.returned (.ok token))

theorem Unpublished.trans {s'' : RecoveryDriver} (h : Unpublished s s') (h' : Unpublished s' s'') :
    Unpublished s s'' :=
  ⟨h'.announced.trans h.announced, h'.replaced.trans h.replaced,
    fun call token hc => h.returned call token (h'.returned call token hc)⟩

theorem Unpublished.same (ha : s'.announced = s.announced) (hr : s'.replaced = s.replaced)
    (hcalls : s'.recoveries = s.recoveries) : Unpublished s s' :=
  ⟨ha, hr, fun call token hc => by rw [← hcalls]; exact hc⟩

theorem Unpublished.moved (ha : s'.announced = s.announced)
    (hr : s'.replaced = s.replaced) (hcalls : s'.recoveries = s.recoveries.set call c)
    (hc : ∀ token, c ≠ .returned (.ok token)) : Unpublished s s' := by
  refine ⟨ha, hr, fun j token hj => ?_⟩
  rw [hcalls] at hj
  rcases getElem?_set_cases hj with ⟨-, he⟩ | ⟨-, hj⟩
  · exact absurd he.symm (hc token)
  · exact hj

/-- Where no call publishes, a step publishes nothing. -/
theorem step_unpublished (h : s.Unpublishing) (input : DriverStep) :
    Unpublished s (s.step input) := by
  have hstep := s.step_steps input
  generalize s.step input = s' at hstep ⊢
  cases hstep with
  | aside => exact .same rfl rfl rfl
  | called exit =>
    refine ⟨rfl, rfl, fun call token hc => ?_⟩
    rcases getElem?_concat_cases hc with hc | ⟨-, hc⟩
    · exact hc
    unfold recover at hc
    repeat' split at hc
    all_goals cases hc
  | closed => exact .same rfl rfl rfl
  | failed =>
    obtain ⟨q, d, w, t, -, he⟩ := failWaiters_frame s
    rw [he]
    exact .same rfl rfl rfl
  | went found went =>
    have hquiet := h _ (List.mem_of_getElem? found)
    cases went with
    | refused => exact .moved rfl rfl rfl (by simp)
    | looked _ stays => exact .moved rfl rfl rfl fun _ => stays _
    | reduced _ _ stays => exact .moved rfl rfl rfl fun _ => stays _
    | began => exact .moved rfl rfl rfl (by simp)
    | announced => cases hquiet
    | finished => cases hquiet
    | failed error =>
      obtain ⟨q, d, w, t, -, he⟩ := failWaiters_frame s
      rw [he]
      exact .moved rfl rfl rfl (by simp)

/-- A coordinator that has ended stays so. -/
theorem step_terminal (hw : s.Waits []) (h : s.coordinator.state.terminal = true)
    (input : DriverStep) : (s.step input).coordinator.state.terminal = true := by
  have hfailed : s.failWaiters.coordinator.state.terminal = true := by
    obtain ⟨q, d, w, t, -, he⟩ := failWaiters_frame s
    rw [he]
    exact h
  have hstep := s.step_steps input
  generalize s.step input = s' at hstep ⊢
  cases hstep with
  | closed => exact terminal_reduce h .close
  | failed => exact hfailed
  | went found went =>
    cases went with
    | reduced event => exact terminal_reduce h event
    | finished connection =>
      obtain ⟨q, d, w, t, -, he⟩ := finishRecovery_frame hw connection
      rw [he]
      exact h
    | failed => exact hfailed
    | _ => exact h
  | _ => exact h

/-- In undisturbed runs a call that has returned an error has left the coordinator in a terminal
state, and once `close` has returned nothing is published. -/
theorem recovery_ends_when_undisturbed (policy : RecoveryPolicy) (before after : List DriverStep)
    (h : Meets step Undisturbed (new connection policy) (before ++ after)) :
    (∀ (call : ℕ) (error : RecoveryError),
      (run connection policy before).recoveries[call]? = some (.returned (.error error)) →
      error ≠ .notRecoverable → error ≠ .staleGeneration →
      (run connection policy before).coordinator.state.terminal = true) ∧
    ((run connection policy before).coordinator.state.underWay = true →
      ∃ (call : ℕ) (c : RecoverCall),
        (run connection policy before).recoveries[call]? = some c ∧ c.drives = true) ∧
    (CloseCall.returned ∈ (run connection policy before).closings →
      Unpublished (run connection policy before) (run connection policy (before ++ after))) := by
  obtain ⟨hbefore, hafter⟩ := Meets.append.mp h
  obtain ⟨hwaits, hdriven, hsettled⟩ := run_settled hbefore
  refine ⟨fun call error hc hne hne' => ?_, hsettled.attended, fun hclosed => ?_⟩
  · rcases hsettled.placed call _ hc with he | he | ht
    · exact absurd he hne
    · exact absurd he hne'
    · exact ht
  · obtain ⟨call, hcall⟩ := List.mem_iff_getElem?.mp hclosed
    have ht := hsettled.closing call _ hcall fun h => nomatch h
    -- The coordinator has ended, so nobody is about to publish, now or later.
    have hlater : (after.foldl step (run connection policy before)).Waits [] ∧
        (after.foldl step (run connection policy before)).Driven ∧
        (after.foldl step (run connection policy before)).Settled ∧
        (after.foldl step (run connection policy before)).coordinator.state.terminal = true ∧
        Unpublished (run connection policy before)
        (after.foldl step (run connection policy before)) :=
      Meets.invariant (P := fun s : RecoveryDriver => s.Waits [] ∧ s.Driven ∧ s.Settled ∧
          s.coordinator.state.terminal = true ∧ Unpublished (run connection policy before) s)
        (fun s input ⟨hw, hd, hs, ht, hu⟩ hc => ⟨step_waits hw input, step_driven hw hd input,
          step_settled hw hd hs hc, step_terminal hw ht input,
          hu.trans (step_unpublished (hs.unpublishing ht) input)⟩) hafter
        ⟨hwaits, hdriven, hsettled, ht, rfl, rfl, fun _ _ hc => hc⟩
    rw [run_append]
    exact hlater.2.2.2.2

def attempting : List DriverStep :=
  [.recover (lost 1), .advanceRecover 0 0 none, .advanceRecover 0 0 none, .advanceRecover 0 0 none,
   .advanceRecover 0 0 none]

def connects (n : ℕ) : DriverStep := .advanceRecover 0 0 (some (.ok ⟨⟨n⟩, 0, 0⟩))

def onward : DriverStep := .advanceRecover 0 0 none

def closesFirst : List DriverStep := [.close, .advanceClose 0, .advanceClose 0]

theorem recovery_ends_when_undisturbed_closed :
    let before := attempting ++ [connects 2, onward, onward, onward] ++ closesFirst
    CloseCall.returned ∈ (run firstConnection onePolicy before).closings ∧
    (run firstConnection onePolicy before).announced = [⟨2⟩] ∧
    Unpublished (run firstConnection onePolicy before)
      (run firstConnection onePolicy (before ++ [.recover (lost 2)])) := by
  refine ⟨by decide, by decide, ?_⟩
  exact (recovery_ends_when_undisturbed firstConnection onePolicy
    (attempting ++ [connects 2, onward, onward, onward] ++ closesFirst) [.recover (lost 2)]
    (by decide)).2.2 (by decide)

/-- A foreign generation, a connection that is gone and an abandoned driver each end `recover` while
the coordinator waits; and a `close` returns before the generation is published. -/
theorem recovery_left_under_way :
    (let s := run firstConnection onePolicy (attempting ++ [connects 9, onward])
     s.recoveries = [.returned (.error .mismatchedGeneration)] ∧
     s.coordinator.state.underWay = true) ∧
    (let s := run firstConnection onePolicy
       (attempting ++ [.advanceRecover 0 0 (some (.error .closed)), onward])
     s.recoveries = [.returned (.error .closed)] ∧ s.coordinator.state.underWay = true) ∧
    (let s := run firstConnection onePolicy (attempting ++ [.abandon, onward, onward])
     s.recoveries = [.returned (.error .closed)] ∧ s.coordinator.state.underWay = true) ∧
    (let s := run firstConnection onePolicy (attempting ++ [connects 2, onward] ++ closesFirst)
     let s' := run firstConnection onePolicy
       (attempting ++ [connects 2, onward] ++ closesFirst ++ [onward, onward])
     CloseCall.returned ∈ s.closings ∧ s.announced = [] ∧
     s'.announced = [⟨2⟩] ∧ s'.recoveries = [.returned (.ok ⟨⟨2⟩, 0, 0⟩)]) := by
  decide

end RecoveryDriver

end Runtime
