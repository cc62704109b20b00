import Mathlib.Data.List.Basic
import SmbClient.Runtime.Recovery

/-!
# Attempts between two connections

`Stretch`: from a connected state on, the attempts started are `1, 2, ...` and whatever was
scheduled is within the deadline that the loss of the transport has fixed (`lossDeadline`).
-/

namespace Runtime

open Run

namespace RecoveryCoordinator

/-! ## One event -/

inductive Reduces (c : RecoveryCoordinator) :
    RecoveryEvent → RecoveryState → Option RecoveryEffect → Prop where
  | ignored (event : RecoveryEvent)
      (kept : ∀ active now, c.state = .connected active → event ≠ .transportLost active now) :
      Reduces c event c.state none
  | closed : Reduces c .close .closed (some .closed)
  | failed (event : RecoveryEvent) : Reduces c event .failed (some .recoveryFailed)
  | lost (active : GenerationId) (now wakeAt : MonotonicTime) (start : c.state = .connected active)
      (allowed : 0 < c.policy.maxAttempts)
      (within : wakeAt ≤ now.saturatingAdd c.policy.totalTimeout) :
      Reduces c (.transportLost active now)
        (.waiting 1 wakeAt (now.saturatingAdd c.policy.totalTimeout))
        (some (.scheduleAttempt 1 wakeAt))
  | started (attempt : ℕ) (wakeAt total now deadline : MonotonicTime)
      (start : c.state = .waiting attempt wakeAt total) (early : now < total)
      (within : deadline ≤ total) :
      Reduces c (.wake now) (.connecting attempt deadline total)
      (some (.startAttempt attempt deadline))
  | succeeded (attempt : ℕ) (deadline total : MonotonicTime) (generation : GenerationId)
      (start : c.state = .connecting attempt deadline total) :
      Reduces c (.attemptSucceeded generation) (.connected generation)
        (some (.publishGeneration generation))
  | retried (attempt : ℕ) (deadline total now wakeAt : MonotonicTime) (jitter : Duration)
      (start : c.state = .connecting attempt deadline total)
      (allowed : attempt < c.policy.maxAttempts) (within : wakeAt ≤ total) :
      Reduces c (.attemptFailed now jitter) (.waiting (attempt + 1) wakeAt total)
        (some (.scheduleAttempt (attempt + 1) wakeAt))

variable {c : RecoveryCoordinator}

section

variable (c)

variable (event : RecoveryEvent)

theorem reduce_policy : (c.reduce event).1.policy = c.policy := by
  unfold reduce
  split <;> simp only [schedule] <;> (repeat' split) <;> rfl

theorem reduces : c.Reduces event (c.reduce event).1.state (c.reduce event).2 := by
  unfold reduce
  cases hs : c.state with
  | closed => exact .ignored event (by simp [hs])
  | failed => exact .ignored event (by simp [hs])
  | connected active =>
    cases event with
    | close => exact .closed
    | transportLost generation now =>
      dsimp only
      by_cases hsame : active = generation
      · subst hsame
        rw [if_pos rfl]
        by_cases hnone : c.policy.maxAttempts = 0
        · rw [if_pos hnone]
          exact .failed _
        · rw [if_neg hnone]
          exact .lost active now _ hs (Nat.pos_of_ne_zero hnone) (Nat.min_le_right _ _)
      · rw [if_neg hsame]
        apply Reduces.ignored
        intro other now' hother
        rw [hs] at hother
        cases hother
        intro heq
        cases heq
        exact hsame rfl
    | _ => exact .ignored _ (by simp)
  | waiting attempt wakeAt total =>
    cases event with
    | close => exact .closed
    | wake now =>
      dsimp only
      by_cases hdue : now ≥ wakeAt
      · rw [if_pos hdue]
        by_cases hlate : now ≥ total
        · rw [if_pos hlate]
          exact .failed _
        · rw [if_neg hlate]
          exact .started attempt wakeAt total now _ hs (Nat.lt_of_not_le hlate)
            (Nat.min_le_right _ _)
      · rw [if_neg hdue]
        exact .ignored _ (by simp)
    | _ => exact .ignored _ (by simp [hs])
  | connecting attempt deadline total =>
    cases event with
    | close => exact .closed
    | attemptSucceeded generation => exact .succeeded attempt deadline total generation hs
    | attemptFailed now jitter =>
      dsimp only
      by_cases hover : attempt ≥ c.policy.maxAttempts ∨ now ≥ total
      · rw [if_pos hover]
        exact .failed _
      · rw [if_neg hover]
        have hallowed : attempt < c.policy.maxAttempts := by omega
        exact .retried attempt deadline total now _ jitter hs hallowed (Nat.min_le_right _ _)
    | _ => exact .ignored _ (by simp [hs])

/-! ## Runs -/

def react : RecoveryCoordinator × List RecoveryEffect :=
  ((c.reduce event).1, (c.reduce event).2.toList)

end

variable (policy : RecoveryPolicy)

def run (generation : GenerationId) (events : List RecoveryEvent) :
    Run RecoveryCoordinator RecoveryEvent RecoveryEffect :=
  .along react (new generation policy) events

def start? : RecoveryEffect → Option ℕ
  | .startAttempt attempt _ => some attempt
  | _ => none

def starts (effects : List RecoveryEffect) : List ℕ := effects.filterMap start?

def lossDeadline (policy : RecoveryPolicy) (active : GenerationId) :
    List RecoveryEvent → Option MonotonicTime
  | [] => none
  | .transportLost generation now :: events =>
    if generation = active then some (now.saturatingAdd policy.totalTimeout)
    else lossDeadline policy active events
  | _ :: events => lossDeadline policy active events

def Within (loss : Option MonotonicTime) (event : RecoveryEvent) : RecoveryEffect → Prop
  | .scheduleAttempt _ wakeAt => ∃ total, loss = some total ∧ wakeAt ≤ total
  | .startAttempt _ deadline =>
    ∃ total now, loss = some total ∧ deadline ≤ total ∧ event = .wake now ∧ now < total
  | .publishGeneration _ | .recoveryFailed | .closed => True

section
variable {policy : RecoveryPolicy} {active : GenerationId} {loss : Option MonotonicTime}
  {total : MonotonicTime} {events : List RecoveryEvent} {event : RecoveryEvent}
  {effect : RecoveryEffect}

theorem starts_append (effects effects' : List RecoveryEffect) :
    starts (effects ++ effects') = starts effects ++ starts effects' := List.filterMap_append

@[simp] theorem starts_nil : starts [] = [] := rfl

@[simp] theorem starts_singleton (effect : RecoveryEffect) :
    starts [effect] = (start? effect).toList := by
  cases effect <;> rfl

theorem lossDeadline_append (more : List RecoveryEvent) :
    lossDeadline policy active (events ++ more) =
      (lossDeadline policy active events).or (lossDeadline policy active more) := by
  induction events with
  | nil => rfl
  | cons first events ih =>
    cases first with
    | transportLost generation now =>
      simp only [List.cons_append, lossDeadline]
      split
      · rfl
      · exact ih
    | _ => exact ih

theorem lossDeadline_concat (h : lossDeadline policy active events = some total)
    (event : RecoveryEvent) : lossDeadline policy active (events ++ [event]) = some total := by
  rw [lossDeadline_append, h, Option.some_or]

theorem Within.concat (h : Within (lossDeadline policy active events) event effect)
    (next : RecoveryEvent) : Within (lossDeadline policy active (events ++ [next])) event
    effect := by
  cases effect with
  | scheduleAttempt attempt wakeAt =>
    obtain ⟨total, hloss, hat⟩ := h
    exact ⟨total, lossDeadline_concat hloss next, hat⟩
  | startAttempt attempt deadline =>
    obtain ⟨total, now, hloss, hrest⟩ := h
    exact ⟨total, now, lossDeadline_concat hloss next, hrest⟩
  | _ => trivial

end

/-! ## Stretches without a publication -/

/-- How far a stretch is, by the state it has reached. -/
def Place (active : GenerationId) (loss : Option MonotonicTime)
    (started : List ℕ) : RecoveryState → Prop
  | .connected generation => generation = active ∧ loss = none ∧ started = []
  | .waiting attempt _ total =>
    loss = some total ∧ ∃ n, attempt = n + 1 ∧ n < policy.maxAttempts ∧ started = List.range' 1 n
  | .connecting attempt _ total =>
    loss = some total ∧ attempt ≤ policy.maxAttempts ∧ started = List.range' 1 attempt
  | .failed | .closed => ∃ n ≤ policy.maxAttempts, started = List.range' 1 n

structure Stretch (policy : RecoveryPolicy) (active : GenerationId)
    (r : Run RecoveryCoordinator RecoveryEvent RecoveryEffect) : Prop where
  same : r.state.policy = policy
  place : Place policy active (lossDeadline policy active (r.history.map (·.1))) (starts r.outputs)
    r.state.state
  within : ∀ step ∈ r.history, ∀ effect ∈ step.2,
    Within (lossDeadline policy active (r.history.map (·.1))) step.1 effect

section
variable {policy : RecoveryPolicy} {active : GenerationId} {loss : Option MonotonicTime}
  {started : List ℕ} {state : RecoveryState}
variable {event : RecoveryEvent}

theorem Place.numbered (h : Place policy active loss started state) :
    ∃ n ≤ policy.maxAttempts, started = List.range' 1 n := by
  cases state with
  | connected generation => exact ⟨0, Nat.zero_le _, h.2.2⟩
  | waiting attempt wakeAt total =>
    obtain ⟨-, n, -, hn, hstarted⟩ := h
    exact ⟨n, hn.le, hstarted⟩
  | connecting attempt deadline total =>
    obtain ⟨-, hmax, hstarted⟩ := h
    exact ⟨attempt, hmax, hstarted⟩
  | failed => exact h
  | closed => exact h

variable {r : Run RecoveryCoordinator RecoveryEvent RecoveryEffect}

theorem Stretch.extend (h : Stretch policy active r) {state' : RecoveryState}
    {effect : Option RecoveryEffect} (hstate : (r.state.reduce event).1.state = state')
    (heffect : (r.state.reduce event).2 = effect)
    (place : Place policy active (lossDeadline policy active (r.history.map (·.1) ++ [event]))
      (starts r.outputs ++ starts effect.toList) state')
    (within : ∀ e ∈ effect, Within (lossDeadline policy active (r.history.map (·.1) ++ [event]))
      event e) :
    Stretch policy active (r.next react event) := by
  subst hstate heffect
  have hevents : (r.next react event).history.map (·.1) = r.history.map (·.1) ++ [event] := by
    simp
  have hstarts : starts (r.next react event).outputs =
      starts r.outputs ++ starts (r.state.reduce event).2.toList := by
    rw [outputs_next, starts_append]
    rfl
  refine ⟨?_, ?_, ?_⟩
  · exact (reduce_policy r.state event).trans h.same
  · rw [hevents, hstarts]
    exact place
  · intro step hstep effect heffect
    rw [hevents]
    rw [history_next, List.mem_append, List.mem_singleton] at hstep
    rcases hstep with hold | rfl
    · exact (h.within step hold effect heffect).concat event
    · exact within effect (by simpa [react] using heffect)

theorem Place.ignored {events : List RecoveryEvent}
    (h : Place policy active (lossDeadline policy active events) started state)
    (kept : ∀ now, state = .connected active → event ≠ .transportLost active now) :
    Place policy active (lossDeadline policy active (events ++ [event])) started state := by
  cases state with
  | connected generation =>
    obtain ⟨rfl, hnone, hstarted⟩ := h
    refine ⟨rfl, ?_, hstarted⟩
    rw [lossDeadline_append, hnone, Option.none_or]
    cases event with
    | transportLost lost now =>
      have hother : lost ≠ generation := by
        intro heq
        subst heq
        exact kept now rfl rfl
      simp [lossDeadline, hother]
    | _ => rfl
  | waiting attempt wakeAt total => exact ⟨lossDeadline_concat h.1 event, h.2⟩
  | connecting attempt deadline total => exact ⟨lossDeadline_concat h.1 event, h.2⟩
  | failed => exact h
  | closed => exact h

theorem Stretch.next (h : Stretch policy active r)
    (unpublished : ∀ generation, (r.state.reduce event).2 ≠ some (.publishGeneration generation)) :
    Stretch policy active (r.next react event) := by
  have hplace := h.place
  have hpolicy := h.same
  obtain ⟨state', hstate⟩ : ∃ state', (r.state.reduce event).1.state = state' := ⟨_, rfl⟩
  obtain ⟨effect, heffect⟩ : ∃ effect, (r.state.reduce event).2 = effect := ⟨_, rfl⟩
  have hstep := reduces r.state event
  rw [hstate, heffect] at hstep
  rw [heffect] at unpublished
  cases hstep with
  | ignored _ kept =>
    apply h.extend hstate heffect
    · simpa using hplace.ignored fun now hconnected => kept active now hconnected
    · simp
  | closed =>
    apply h.extend hstate heffect
    · simpa [start?, Place] using hplace.numbered
    · simp [Within]
  | failed =>
    apply h.extend hstate heffect
    · simpa [start?, Place] using hplace.numbered
    · simp [Within]
  | lost lost now wakeAt start allowed within =>
    rw [start] at hplace
    obtain ⟨rfl, hnone, hstarted⟩ := hplace
    have hloss : lossDeadline policy lost (r.history.map (·.1) ++ [.transportLost lost now]) =
        some (now.saturatingAdd r.state.policy.totalTimeout) := by
      rw [lossDeadline_append, hnone, Option.none_or, hpolicy]
      simp [lossDeadline]
    apply h.extend hstate heffect
    · exact ⟨hloss, 0, rfl, hpolicy ▸ allowed, by simpa [start?] using hstarted⟩
    · intro e he
      cases he
      exact ⟨_, hloss, within⟩
  | started attempt wakeAt total now deadline start early within =>
    rw [start] at hplace
    obtain ⟨hloss, n, rfl, hmax, hstarted⟩ := hplace
    have hloss' := lossDeadline_concat hloss (.wake now)
    apply h.extend hstate heffect
    · refine ⟨hloss', hmax, ?_⟩
      rw [hstarted, List.range'_concat]
      simp [start?, Nat.add_comm]
    · intro e he
      cases he
      exact ⟨total, now, hloss', within, rfl, early⟩
  | succeeded attempt deadline total generation => exact absurd rfl (unpublished generation)
  | retried attempt deadline total now wakeAt jitter start allowed within =>
    rw [start] at hplace
    obtain ⟨hloss, hmax, hstarted⟩ := hplace
    have hloss' := lossDeadline_concat hloss (.attemptFailed now jitter)
    apply h.extend hstate heffect
    · exact ⟨hloss', attempt, rfl, hpolicy ▸ allowed, by simpa [start?] using hstarted⟩
    · intro e he
      cases he
      exact ⟨total, hloss', within⟩

end

/-! ## Every run -/

section
variable {policy : RecoveryPolicy} {active : GenerationId} {c : RecoveryCoordinator}

theorem run_policy (policy : RecoveryPolicy) (generation : GenerationId)
    (events : List RecoveryEvent) : (run policy generation events).state.policy = policy := by
  induction events using List.reverseRecOn with
  | nil => rfl
  | append_singleton events event ih =>
    rw [run, along_concat]
    exact (reduce_policy _ event).trans ih

theorem history_along (c : RecoveryCoordinator) (events : List RecoveryEvent) :
    (along react c events).history.map (·.1) = events := by
  induction events using List.reverseRecOn with
  | nil => rfl
  | append_singleton events event ih =>
    rw [along_concat, history_next, List.map_append, ih]
    rfl

theorem stretch_along (hpolicy : c.policy = policy) (connected : c.state = .connected active)
    {events : List RecoveryEvent}
    (unpublished : ∀ generation, .publishGeneration generation ∉ (along react c events).outputs) :
    Stretch policy active (along react c events) := by
  induction events using List.reverseRecOn with
  | nil =>
    refine ⟨hpolicy, ?_, by simp [along, start]⟩
    show Place policy active none [] c.state
    rw [connected]
    exact ⟨rfl, rfl, rfl⟩
  | append_singleton events event ih =>
    rw [along_concat] at unpublished ⊢
    simp only [outputs_next, List.mem_append, not_or] at unpublished
    apply (ih fun generation => (unpublished generation).1).next
    intro generation hpublished
    exact (unpublished generation).2 (by simp [react, hpublished])

theorem along_terminal (h : c.state.terminal = true) (events : List RecoveryEvent) :
    (along react c events).state = c ∧ (along react c events).outputs = [] := by
  induction events using List.reverseRecOn with
  | nil => exact ⟨rfl, rfl⟩
  | append_singleton events event ih =>
    have habsorbed : c.reduce event = (c, none) := by
      unfold reduce
      cases hs : c.state <;> simp_all [RecoveryState.terminal]
    rw [along_concat]
    simp [ih.1, ih.2, react, habsorbed]

end

/-- As long as no generation is published, attempts are numbered from 1 without gaps up to
`max_attempts`, within the deadline fixed by the loss of the transport. -/
theorem attempts_bounded (generation : GenerationId) (before during : List RecoveryEvent) :
    let c := (run policy generation before).state
    let stretch := along react c during
    (∀ active, c.state = .connected active →
      (∀ generation, .publishGeneration generation ∉ stretch.outputs) →
      (∃ n ≤ policy.maxAttempts, starts stretch.outputs = List.range' 1 n) ∧
      ∀ step ∈ stretch.history, ∀ effect ∈ step.2,
        Within (lossDeadline policy active during) step.1 effect) ∧
    (c.state.terminal = true → stretch.state = c ∧ stretch.outputs = []) := by
  intro c stretch
  refine ⟨fun active connected unpublished => ?_, fun terminal => along_terminal terminal during⟩
  have h : Stretch policy active stretch :=
    stretch_along (run_policy policy generation before) connected unpublished
  refine ⟨h.place.numbered, ?_⟩
  have hwithin := h.within
  rwa [history_along] at hwithin

def twoAttempts : RecoveryPolicy := ⟨2, 5, 20, 1, 4, 0, 8⟩

def failingOnce : List RecoveryEvent :=
  [.transportLost ⟨1⟩ 10, .wake 10, .attemptFailed 12 0, .wake 13]

theorem failingOnce_bounded :
    (∃ n ≤ 2, starts (along react (new ⟨1⟩ twoAttempts) failingOnce).outputs = List.range' 1 n) ∧
    (along react (run twoAttempts ⟨1⟩ [.close]).state failingOnce).outputs = [] := by
  have houtputs : (along react (run twoAttempts ⟨1⟩ []).state failingOnce).outputs =
      [.scheduleAttempt 1 10, .startAttempt 1 15, .scheduleAttempt 2 13, .startAttempt 2 18] := by
    decide
  exact ⟨((attempts_bounded twoAttempts ⟨1⟩ [] failingOnce).1 ⟨1⟩ rfl (by simp [houtputs])).1,
    ((attempts_bounded twoAttempts ⟨1⟩ [.close] failingOnce).2 rfl).2⟩

end RecoveryCoordinator

end Runtime
