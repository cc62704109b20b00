import SmbClient.Runtime.Proof.RecoveryWaits

/-!
# The returns of a recovery, over every interleaving

`Driven`: the flag is set only while a call that has set it has not returned.
-/

namespace Runtime

open Calls

/-- Between `begin_recovery` and the return. -/
def RecoverCall.begun : RecoverCall → Bool
  | .driving _ _ | .waking _ | .retrying _ | .succeeded _ | .publishing _ | .finishing _
  | .failing _ =>
    true
  | .entering _ _ | .beginning _ _ _ | .returned _ => false

def WaitCall.result : WaitCall → Option (Except RecoveryError ObjectToken)
  | .waiting _ _ _ result => result
  | .removing _ error => some (.error error)
  | .returned _ result => some result

namespace RecoveryDriver

variable {s s' : RecoveryDriver}
variable {c : RecoverCall} {call : ℕ} {result : Except RecoveryError ObjectToken}

/-! ## What a step does -/

inductive Section (s : RecoveryDriver) : RecoverCall → RecoverCall → RecoveryDriver → Prop
  | refused {c : RecoverCall} (error : RecoveryError) (unbegun : c.begun = false) :
      Section s c (.returned (.error error)) s
  | looked {c c' : RecoverCall} (begun : c'.begun = c.begun)
      (stays : ∀ result, c' ≠ .returned result) : Section s c c' s
  | reduced {c c' : RecoverCall} (event : RecoveryEvent) (begun : c'.begun = c.begun)
      (stays : ∀ result, c' ≠ .returned result) : Section s c c' (s.reduce event).1
  | began (generation next : GenerationId) (effect : Option RecoveryEffect) :
      Section s (.beginning generation next effect) (.driving next effect)
        { s with admissions := { s.admissions with recovering := true } }
  | announced (connection : ObjectToken) :
      Section s (.publishing connection) (.finishing connection)
      { s with announced := s.announced ++ [connection.generation] }
  | finished (connection : ObjectToken) :
      Section s (.finishing connection) (.returned (.ok connection)) (s.finishRecovery connection)
  | failed (error : RecoveryError) :
      Section s (.failing error) (.returned (.error error)) s.failWaiters

inductive Steps (s : RecoveryDriver) : RecoveryDriver → Prop
  /-- A wait goes on, `close` is called, or time passes. -/
  | aside (queue : RecoveryQueue) (completions : Table RecoveryWaitId ℕ) (waiters : List WaitCall)
      (clock : MonotonicTime) (closed : Bool) (closings : List CloseCall) :
      Steps s { s with
        admissions := { s.admissions with queue, completions }, waiters, clock, closed, closings }
  | called (exit : GenerationExit) :
      Steps s { s with recoveries := s.recoveries ++ [s.recover exit] }
  | went {call : ℕ} {c c' : RecoverCall} (found : s.recoveries[call]? = some c)
      {s' : RecoveryDriver} (went : Section s c c' s') : Steps s (s'.setRecovery call c')
  | closed (closings : List CloseCall) : Steps s { (s.reduce .close).1 with closings }
  | failed (closings : List CloseCall) : Steps s { s.failWaiters with closings }

section

variable (s)

theorem driveAttempts_begun (next : GenerationId) (effect : Option RecoveryEffect)
    (attempt : Option (Except RuntimeError ObjectToken)) :
    (s.driveAttempts next effect attempt).begun = true := by
  unfold driveAttempts
  repeat' split
  all_goals rfl

theorem advanceRecover_steps (call : ℕ) (jitter : Duration)
    (attempt : Option (Except RuntimeError ObjectToken)) :
    Steps s (s.advanceRecover call jitter attempt) := by
  unfold advanceRecover
  split
  · exact .aside _ _ _ _ _ _
  · exact .aside _ _ _ _ _ _
  · rename_i hc
    split
    · exact .went hc (.refused _ rfl)
    · exact .went hc (.reduced (.transportLost _ _) rfl (by simp))
  · rename_i hc
    unfold RecoveryAdmissions.beginRecovery
    split
    · exact .went hc (.refused _ rfl)
    rename_i hok
    split at hok
    · cases hok
    · cases hok
      exact .went hc (.began _ _ _)
  · rename_i next effect hc
    have hbegun := driveAttempts_begun s next effect attempt
    refine .went hc (.looked hbegun fun result he => ?_)
    rw [he] at hbegun
    cases hbegun
  · rename_i hc
    exact .went hc (.reduced (.wake _) rfl (by simp))
  · rename_i hc
    exact .went hc (.reduced (.attemptFailed _ _) rfl (by simp))
  · rename_i connection hc
    dsimp only
    split
    · exact .went hc (.reduced (.attemptSucceeded _) rfl (by simp))
    · exact .went hc (.reduced (.attemptSucceeded _) rfl (by simp))
  · rename_i hc
    exact .went hc (.announced _)
  · rename_i hc
    exact .went hc (.finished _)
  · rename_i hc
    exact .went hc (.failed _)

theorem advanceWait_frame (call : ℕ) (branch : WaitBranch) :
    ∃ queue completions waiters, s.advanceWait call branch =
      { s with admissions := { s.admissions with queue, completions }, waiters } := by
  unfold advanceWait
  repeat' split
  all_goals exact ⟨_, _, _, rfl⟩

theorem resolveDependency_frame (dependency : ObjectToken)
    (deadline : Option MonotonicTime) (cancellable : Bool) :
    ∃ queue completions waiters, s.resolveDependency dependency deadline cancellable =
      { s with admissions := { s.admissions with queue, completions }, waiters } := by
  unfold resolveDependency
  dsimp only
  repeat' split
  all_goals exact ⟨_, _, _, rfl⟩

theorem step_steps (input : DriverStep) : Steps s (s.step input) := by
  cases input with
  | recover exit => exact .called exit
  | advanceRecover call jitter attempt => exact advanceRecover_steps s call jitter attempt
  | resolveDependency dependency deadline cancellable =>
    obtain ⟨q, c, w, he⟩ := resolveDependency_frame s dependency deadline cancellable
    dsimp only [step]
    rw [he]
    exact .aside q c w _ _ _
  | advanceWait call branch =>
    obtain ⟨q, c, w, he⟩ := advanceWait_frame s call branch
    dsimp only [step]
    rw [he]
    exact .aside q c w _ _ _
  | close => exact .aside _ _ _ _ _ _
  | advanceClose call =>
    unfold step advanceClose
    dsimp only
    split
    · exact .aside _ _ _ _ _ _
    · exact .aside _ _ _ _ _ _
    · exact .closed _
    · exact .failed _
  | abandon => exact .aside _ _ _ _ _ _
  | elapse duration => exact .aside _ _ _ _ _ _

theorem completeWaits_recoveries (outcomes : List RecoveryWaitOutcome)
    (replacement : Option ObjectToken) :
    (completeWaits s outcomes replacement).recoveries = s.recoveries := by
  obtain ⟨c, w, t, he⟩ := completeWaits_frame replacement outcomes s
  rw [he]

end

theorem Section.recoveries {c' : RecoverCall} (h : Section s c c' s') :
    s'.recoveries = s.recoveries := by
  cases h with
  | finished connection => exact completeWaits_recoveries _ _ _
  | failed => exact completeWaits_recoveries _ _ _
  | _ => rfl

/-! ## Who recovers -/

/-- Whoever set the flag has not returned. -/
def Driven (s : RecoveryDriver) : Prop :=
  s.admissions.recovering = true →
    ∃ (call : ℕ) (c : RecoverCall), s.recoveries[call]? = some c ∧ c.begun = true

theorem Driven.frame (h : s.Driven) (ha : s'.admissions.recovering = s.admissions.recovering)
    (hr : s'.recoveries = s.recoveries) : s'.Driven := by
  intro hrecovering
  rw [hr]
  exact h (ha.symm.trans hrecovering)

theorem Driven.moved {c' : RecoverCall} (h : s.Driven)
    (hc : s.recoveries[call]? = some c) (hkeep : c.begun = true → c'.begun = true)
    (ha : s'.admissions.recovering = true → s.admissions.recovering = true ∨ c'.begun = true)
    (hr : s'.recoveries = s.recoveries.set call c') : s'.Driven := by
  intro hrecovering
  have hcall : call < s.recoveries.length := (List.getElem?_eq_some_iff.mp hc).1
  have here : c'.begun = true → ∃ (j : ℕ) (d : RecoverCall), s'.recoveries[j]? = some d ∧
      d.begun = true :=
    fun hbegun => ⟨call, c', by rw [hr, List.getElem?_set_self hcall], hbegun⟩
  rcases ha hrecovering with hbefore | hbegun
  · obtain ⟨j, d, hd, hbegun⟩ := h hbefore
    by_cases hj : call = j
    · subst hj
      rw [hc] at hd
      cases hd
      exact here (hkeep hbegun)
    · exact ⟨j, d, by rw [hr, List.getElem?_set_ne hj]; exact hd, hbegun⟩
  · exact here hbegun

theorem Driven.resting (h : s.admissions.recovering = false) : s.Driven := by
  intro hrecovering
  rw [h] at hrecovering
  cases hrecovering

theorem failWaiters_recovering (s : RecoveryDriver) :
    s.failWaiters.admissions.recovering = false := by
  obtain ⟨q, c, w, t, -, he⟩ := failWaiters_frame s
  rw [he]

/-- Every step keeps a begun call that answers for the flag. -/
theorem step_driven (hw : s.Waits []) (h : s.Driven) (input : DriverStep) :
    (s.step input).Driven := by
  have hstep := s.step_steps input
  generalize s.step input = s' at hstep ⊢
  cases hstep with
  | aside => exact h.frame rfl rfl
  | called exit =>
    intro hrecovering
    obtain ⟨j, d, hd, hbegun⟩ := h hrecovering
    exact ⟨j, d, getElem?_concat_of _ hd, hbegun⟩
  | closed => exact h.frame rfl rfl
  | failed => exact .resting (failWaiters_recovering s)
  | went found went =>
    cases went with
    | refused error unbegun =>
      exact h.moved found (fun hb => nomatch hb.symm.trans unbegun) .inl rfl
    | looked begun => exact h.moved found begun.trans .inl rfl
    | reduced event begun => exact h.moved found begun.trans .inl rfl
    | began => exact h.moved found (fun _ => rfl) (fun _ => .inr rfl) rfl
    | announced => exact h.moved found (fun _ => rfl) .inl rfl
    | finished connection =>
      obtain ⟨q, c, w, t, -, he⟩ := finishRecovery_frame hw connection
      rw [he]
      exact .resting rfl
    | failed => exact .resting (failWaiters_recovering s)

theorem run_driven (connection : ObjectToken) (policy : RecoveryPolicy) (steps : List DriverStep) :
    (run connection policy steps).Driven := by
  have h : (run connection policy steps).Waits [] ∧ (run connection policy steps).Driven :=
    List.foldl_invariant (P := fun s : RecoveryDriver => s.Waits [] ∧ s.Driven)
      (fun _ input h => ⟨step_waits h.1 input, step_driven h.1 h.2 input⟩) steps
      ⟨new_waits connection policy, .resting rfl⟩
  exact h.2

/-! ## One result for a call -/

section Returned

variable {call : ℕ} {id : Option RecoveryWaitId} {result : Except RecoveryError ObjectToken}

theorem completeWaits_returned (replacement : Option ObjectToken)
    (outcomes : List RecoveryWaitOutcome) : ∀ {s : RecoveryDriver},
    s.waiters[call]? = some (.returned id result) →
      (completeWaits s outcomes replacement).waiters[call]? = some (.returned id result) := by
  induction outcomes with
  | nil => exact fun h => h
  | cons outcome outcomes ih =>
    intro s h
    refine ih ?_
    unfold completeWait
    split
    · exact h
    rw [List.getElem?_modify, h]
    split
    · rfl
    · rfl

theorem step_returned (h : s.waiters[call]? = some (.returned id result)) (input : DriverStep) :
    (s.step input).waiters[call]? = some (.returned id result) := by
  cases input with
  | recover exit => exact h
  | advanceRecover other jitter attempt =>
    unfold step advanceRecover
    dsimp only
    split
    case h_10 => exact completeWaits_returned _ _ h
    case h_11 => exact completeWaits_returned _ _ h
    case h_8 =>
      split
      · exact h
      · exact h
    case h_3 =>
      split
      · exact h
      · exact h
    case h_4 =>
      split
      · exact h
      · exact h
    all_goals exact h
  | resolveDependency dependency deadline cancellable =>
    unfold step resolveDependency
    dsimp only
    repeat' split
    all_goals exact getElem?_concat_of _ h
  | advanceWait other branch =>
    have hset : ∀ {w : WaitCall}, other ≠ call →
        (s.waiters.set other w)[call]? = some (.returned id result) := by
      intro w hne
      rw [List.getElem?_set_ne hne]
      exact h
    by_cases hother : other = call
    · subst hother
      dsimp only [step]
      unfold advanceWait
      rw [h]
      exact h
    · unfold step advanceWait
      dsimp only
      repeat' split
      all_goals first
        | exact h
        | exact hset hother
  | close => exact h
  | advanceClose other =>
    unfold step advanceClose
    dsimp only
    split
    · exact h
    · exact h
    · exact h
    · exact completeWaits_returned _ _ h
  | abandon => exact h
  | elapse duration => exact h

theorem run_append (connection : ObjectToken) (policy : RecoveryPolicy)
    (before after : List DriverStep) :
    run connection policy (before ++ after) = after.foldl step (run connection policy before) :=
  List.foldl_append

theorem foldl_returned (h : s.waiters[call]? = some (.returned id result))
    (steps : List DriverStep) : (steps.foldl step s).waiters[call]? = some (.returned id result) :=
  List.foldl_invariant (P := fun s : RecoveryDriver =>
    s.waiters[call]? = some (.returned id result)) (fun _ input h => step_returned h input) steps h

end Returned

theorem step_returns {input : DriverStep} (hnot : s.recoveries[call]? ≠ some (.returned result))
    (h : (s.step input).recoveries[call]? = some (.returned result)) :
    (∃ exit, call = s.recoveries.length ∧
      s.step input = { s with recoveries := s.recoveries ++ [s.recover exit] }) ∨
    ∃ c s', s.recoveries[call]? = some c ∧ Section s c (.returned result) s' ∧
      s.step input = s'.setRecovery call (.returned result) := by
  have hstep := s.step_steps input
  generalize s.step input = s' at h hstep ⊢
  cases hstep with
  | aside => exact absurd h hnot
  | called exit =>
    rcases getElem?_concat_cases h with h | ⟨hlast, -⟩
    · exact absurd h hnot
    · exact .inl ⟨exit, hlast, rfl⟩
  | closed => exact absurd h hnot
  | failed =>
    exact absurd ((congrArg (·[call]?) (completeWaits_recoveries _ _ _)).symm.trans h) hnot
  | went found went =>
    dsimp only [setRecovery] at h
    rw [went.recoveries] at h
    rcases getElem?_set_cases h with ⟨rfl, rfl⟩ | ⟨-, h⟩
    · exact .inr ⟨_, _, found, went, rfl⟩
    · exact absurd h hnot

theorem begun_returns
    (hw : s.Waits []) (hc : s.recoveries[call]? = some c) (hbegun : c.begun = true)
    (input : DriverStep) (h : (s.step input).recoveries[call]? = some (.returned result)) :
    (s.step input).admissions.queue.waits = [] := by
  have hstay : s.recoveries[call]? ≠ some (.returned result) := by
    rw [hc]
    rintro ⟨rfl⟩
    cases hbegun
  obtain ⟨exit, hlast, -⟩ | ⟨c', s', hc', went, he⟩ := step_returns hstay h
  · exact absurd (List.getElem?_eq_some_iff.mp hc).1 (by omega)
  obtain rfl : c = c' := Option.mem_unique hc hc'
  rw [he]
  cases went with
  | refused error unbegun => exact nomatch hbegun.symm.trans unbegun
  | looked _ stays => exact absurd rfl (stays _)
  | reduced _ _ stays => exact absurd rfl (stays _)
  | finished connection =>
    obtain ⟨q, d, w, t, hq, he⟩ := finishRecovery_frame hw connection
    rw [he]
    exact hq
  | failed error =>
    obtain ⟨q, d, w, t, hq, he⟩ := failWaiters_frame s
    rw [he]
    exact hq

theorem unbegun_returns
    (hc : ∀ c, s.recoveries[call]? = some c → c.begun = false ∧ ∀ result, c ≠ .returned result)
    (input : DriverStep) (h : (s.step input).recoveries[call]? = some (.returned result)) :
    (s.step input).admissions = s.admissions := by
  obtain ⟨exit, -, he⟩ | ⟨c, s', hc', went, he⟩ := step_returns (fun he => (hc _ he).2 result rfl) h
  · rw [he]
  obtain ⟨hbegun, -⟩ := hc c hc'
  rw [he]
  cases went with
  | refused => rfl
  | looked _ stays => exact absurd rfl (stays _)
  | reduced _ _ stays => exact absurd rfl (stays _)
  | finished => cases hbegun
  | failed => cases hbegun

/-! ## Every interleaving -/

theorem Waits.outcome {w : WaitCall} {id : RecoveryWaitId} (h : s.Waits [])
    (hw : s.waiters[call]? = some w) (hid : w.id = some id) :
    (id ∈ s.admissions.queue.ids ∧ s.sentTo id = [] ∧ ∀ result, w ≠ .returned (some id) result) ∨
    (id ∉ s.admissions.queue.ids ∧ (s.sentTo id).length ≤ 1 ∧ ∃ result, w.result = some result ∧
      (s.sentTo id = [result] ∨
        ∃ error : RecoveryError, result = .error error ∧ error.ownExit = true)) := by
  have hserved := h.served call w hw
  have hlisted := h.listed id
  rw [List.append_nil] at hlisted
  have hqueued : s.admissions.completions.lookup id = some call →
      id ∈ s.admissions.queue.ids ∧ s.sentTo id = [] := fun hlookup =>
    ⟨hlisted.mp ⟨call, hlookup⟩, h.unsent id call hlookup⟩
  have hgone : s.admissions.completions.lookup id = none → id ∉ s.admissions.queue.ids := by
    intro hnone hmem
    obtain ⟨j, hj⟩ := hlisted.mpr hmem
    rw [hnone] at hj
    cases hj
  cases w with
  | waiting id' deadline cancellable result =>
    obtain rfl : id' = id := Option.some.inj hid
    cases result with
    | none => exact .inl ⟨(hqueued hserved).1, (hqueued hserved).2, fun _ h => nomatch h⟩
    | some result =>
      refine .inr ⟨hgone hserved.1, ?_, result, rfl, .inl hserved.2⟩
      rw [hserved.2]
      exact le_rfl
  | removing id' error =>
    obtain rfl : id' = id := Option.some.inj hid
    obtain ⟨hexit, hlookup | ⟨hnone, result, hsent⟩⟩ := hserved
    · exact .inl ⟨(hqueued hlookup).1, (hqueued hlookup).2, fun _ h => nomatch h⟩
    · refine .inr ⟨hgone hnone, ?_, _, rfl, .inr ⟨error, rfl, hexit⟩⟩
      rw [hsent]
      exact le_rfl
  | returned id' result =>
    obtain rfl : id' = some id := hid
    obtain ⟨hnone, hsent | ⟨hexit, hlength⟩⟩ := hserved
    · refine .inr ⟨hgone hnone, ?_, result, rfl, .inl hsent⟩
      rw [hsent]
      exact le_rfl
    · exact .inr ⟨hgone hnone, hlength, result, rfl, .inr hexit⟩

theorem Waits.replacement {id : RecoveryWaitId} {token : ObjectToken} (h : s.Waits [])
    (hw : s.waiters[call]? = some (.returned (some id) (.ok token))) : token ∈ s.replaced := by
  obtain ⟨-, hsent | ⟨⟨error, herror, -⟩, -⟩⟩ := h.served call _ hw
  · have hmem : (.ok token : Except RecoveryError ObjectToken) ∈ s.sentTo id := by
      rw [hsent]
      exact List.mem_singleton_self _
    obtain ⟨p, hp, hok⟩ := List.mem_map.mp hmem
    exact h.honest p (List.mem_filter.mp hp).1 token hok
  · cases herror

/-- A call that waits is in the queue and nothing was sent to it, or it has left with one result; no
wait is left behind by a call that returns after it has begun, or while no other has begun. -/
theorem waits_answered_once (connection : ObjectToken) (policy : RecoveryPolicy)
    (steps : List DriverStep) :
    (∀ id, (∃ call, (run connection policy steps).admissions.completions.lookup id = some call) ↔
      id ∈ (run connection policy steps).admissions.queue.ids) ∧
    ((run connection policy steps).admissions.recovering = true →
      ∃ (call : ℕ) (c : RecoverCall),
        (run connection policy steps).recoveries[call]? = some c ∧ c.begun = true) ∧
    (∀ (call : ℕ) (w : WaitCall) (id : RecoveryWaitId),
      (run connection policy steps).waiters[call]? = some w → w.id = some id →
      (id ∈ (run connection policy steps).admissions.queue.ids ∧
        (run connection policy steps).sentTo id = [] ∧ ∀ result, w ≠ .returned (some id) result) ∨
      (id ∉ (run connection policy steps).admissions.queue.ids ∧
        ((run connection policy steps).sentTo id).length ≤ 1 ∧
        ∃ result, w.result = some result ∧ ((run connection policy steps).sentTo id = [result] ∨
          ∃ error : RecoveryError, result = .error error ∧ error.ownExit = true))) ∧
    (∀ (call : ℕ) (id : RecoveryWaitId) (result : Except RecoveryError ObjectToken),
      (run connection policy steps).waiters[call]? = some (.returned (some id) result) →
      (∀ token, result = .ok token → token ∈ (run connection policy steps).replaced) ∧
      ∀ more, (run connection policy (steps ++ more)).waiters[call]? =
        some (.returned (some id) result)) ∧
    (∀ (input : DriverStep) (call : ℕ) (result : Except RecoveryError ObjectToken),
      (∀ result, (run connection policy steps).recoveries[call]? ≠ some (.returned result)) →
      (run connection policy (steps ++ [input])).recoveries[call]? = some (.returned result) →
      (∃ c, (run connection policy steps).recoveries[call]? = some c ∧ c.begun = true) ∨
        (∀ c ∈ (run connection policy steps).recoveries, c.begun = false) →
      (run connection policy (steps ++ [input])).admissions.queue.waits = []) := by
  have hwaits := run_waits connection policy steps
  have hdriven := run_driven connection policy steps
  refine ⟨fun id => ?_, hdriven, fun call w id => hwaits.outcome, fun call id result hw => ⟨?_, ?_⟩,
    fun input call result hnot hreturned hwho => ?_⟩
  · rw [hwaits.listed id, List.append_nil]
  · rintro token rfl
    exact hwaits.replacement hw
  · intro more
    rw [run_append]
    exact foldl_returned hw more
  · rw [run_append] at hreturned ⊢
    rcases hwho with ⟨c, hc, hbegun⟩ | hnobody
    · exact begun_returns hwaits hc hbegun input hreturned
    -- Nobody has set the flag, so nobody waits.
    have hidle : (run connection policy steps).admissions.recovering = false := by
      cases hrecovering : (run connection policy steps).admissions.recovering with
      | false => rfl
      | true =>
        obtain ⟨j, c, hc, hbegun⟩ := hdriven hrecovering
        rw [hnobody c (List.mem_of_getElem? hc)] at hbegun
        cases hbegun
    have hsame := unbegun_returns (fun c hc => ⟨hnobody c (List.mem_of_getElem? hc),
      fun result he => hnot result (he ▸ hc)⟩) input hreturned
    show (step _ input).admissions.queue.waits = []
    rw [hsame]
    exact hwaits.idle hidle

def onePolicy : RecoveryPolicy := ⟨1, 10, 20, 0, 0, 0, 3⟩

def firstConnection : ObjectToken := ⟨⟨1⟩, 0, 0⟩

def lost (n : ℕ) : GenerationExit := ⟨⟨n⟩, .transport (.transport "connection-reset")⟩

def waitingRecovery : List DriverStep :=
  [.recover (lost 1), .advanceRecover 0 0 none, .advanceRecover 0 0 none,
   .resolveDependency firstConnection none false]

/-- A second `recover` is refused as stale and returns while the first one drives, with a wait in
the queue. -/
theorem refused_recover_leaves_waits :
    (let s := run firstConnection onePolicy (waitingRecovery ++ [.recover (lost 1)])
     let s' := run firstConnection onePolicy
       (waitingRecovery ++ [.recover (lost 1)] ++ [.advanceRecover 1 0 none])
     s.recoveries[1]? = some (.entering ⟨1⟩ ⟨2⟩) ∧
     s'.recoveries[1]? = some (.returned (.error .staleGeneration)) ∧
     s'.admissions.queue.ids = [0] ∧ s'.recoveries[0]?.any (·.begun) = true) := by
  decide

end RecoveryDriver

end Runtime
