import SmbClient.Lib.Calls
import SmbClient.Runtime.RecoveryDriver

/-!
# The waits of a recovery, over every interleaving

`Waits s pending`: the senders and the queue hold the same ids, apart from the `pending` ones, which
are about to be answered; nothing is sent twice.
-/

namespace Runtime

open Calls RecoveryQueue

def WaitCall.id : WaitCall → Option RecoveryWaitId
  | .waiting id _ _ _ | .removing id _ => some id
  | .returned id _ => id

theorem WaitCall.receive_id (result : Except RecoveryError ObjectToken) (w : WaitCall) :
    (w.receive result).id = w.id := by
  unfold WaitCall.receive
  split
  · rfl
  · rfl

def RecoveryError.ownExit : RecoveryError → Bool
  | .waitTimedOut | .waitCancelled => true
  | _ => false

namespace RecoveryDriver

variable {s s' : RecoveryDriver} {pending : List RecoveryWaitId}
variable {call : ℕ} {w w' : WaitCall} {id : RecoveryWaitId}

def sentTo (s : RecoveryDriver) (id : RecoveryWaitId) : List (Except RecoveryError ObjectToken) :=
  (s.sent.filter fun p => p.1 = id).map (·.2)

/-- What a call in progress may rely on. -/
def Served (s : RecoveryDriver) (call : ℕ) : WaitCall → Prop
  | .waiting id _ _ none => s.admissions.completions.lookup id = some call
  | .waiting id _ _ (some result) =>
    s.admissions.completions.lookup id = none ∧ s.sentTo id = [result]
  | .removing id error => error.ownExit = true ∧
    (s.admissions.completions.lookup id = some call ∨
      s.admissions.completions.lookup id = none ∧ ∃ result, s.sentTo id = [result])
  | .returned (some id) result => s.admissions.completions.lookup id = none ∧
    (s.sentTo id = [result] ∨
      (∃ error : RecoveryError, result = .error error ∧ error.ownExit = true) ∧
        (s.sentTo id).length ≤ 1)
  | .returned none _ => True

structure Waits (s : RecoveryDriver) (pending : List RecoveryWaitId) : Prop where
  served : ∀ call w, s.waiters[call]? = some w → s.Served call w
  seated : ∀ id call, s.admissions.completions.lookup id = some call →
    ∃ w, s.waiters[call]? = some w ∧ w.id = some id
  listed : ∀ id, (∃ call, s.admissions.completions.lookup id = some call) ↔
    id ∈ s.admissions.queue.ids ++ pending
  nodup : (s.admissions.queue.ids ++ pending).Nodup
  unsent : ∀ id call, s.admissions.completions.lookup id = some call → s.sentTo id = []
  unique : ∀ (call call' : ℕ) (w w' : WaitCall) (id : RecoveryWaitId), s.waiters[call]? = some w →
    s.waiters[call']? = some w' → w.id = some id → w'.id = some id → call = call'
  fresh : ∀ n, s.admissions.queue.nextId = some n →
    (∀ (call : ℕ) (w : WaitCall) (id : RecoveryWaitId),
      s.waiters[call]? = some w → w.id = some id → id < n) ∧ ∀ p ∈ s.sent, p.1 < n
  onActive : ∀ w ∈ s.admissions.queue.waits, w.dependency = s.admissions.activeConnection
  idle : s.admissions.recovering = false → s.admissions.queue.waits = []
  honest : ∀ p ∈ s.sent, ∀ token, p.2 = .ok token → token ∈ s.replaced

theorem Waits.frame (h : s.Waits pending) (ha : s'.admissions = s.admissions := by rfl)
    (hw : s'.waiters = s.waiters := by rfl) (hs : s'.sent = s.sent := by rfl)
    (hr : s'.replaced = s.replaced := by rfl) : s'.Waits pending := by
  cases s
  subst ha hw hs hr
  exact ⟨h.served, h.seated, h.listed, h.nodup, h.unsent, h.unique, h.fresh, h.onActive, h.idle,
    h.honest⟩

/-! ## What is sent -/

theorem sentTo_append (l : List (RecoveryWaitId × Except RecoveryError ObjectToken))
    (id id' : RecoveryWaitId) (result : Except RecoveryError ObjectToken) :
    ((l ++ [(id, result)]).filter fun p => p.1 = id').map (·.2) =
      (l.filter fun p => p.1 = id').map (·.2) ++ if id = id' then [result] else [] := by
  by_cases h : id = id'
  · simp [h]
  · simp [h]

variable (replacement : Option ObjectToken)

def resultOf (outcome : RecoveryWaitOutcome) : Except RecoveryError ObjectToken :=
  match outcome, replacement with
  | .ready _, some replacement => .ok replacement
  | _, _ => .error .waitFailed

theorem Served.other (h : s.Served call w) (hsame : ∀ id, w.id = some id →
      s'.admissions.completions.lookup id = s.admissions.completions.lookup id ∧
      s'.sentTo id = s.sentTo id) : s'.Served call w := by
  cases w with
  | waiting id deadline cancellable result =>
    obtain ⟨hlookup, hsent⟩ := hsame id rfl
    cases result with
    | none => exact hlookup.trans h
    | some result => exact ⟨hlookup.trans h.1, hsent.trans h.2⟩
  | removing id error =>
    obtain ⟨hlookup, hsent⟩ := hsame id rfl
    dsimp only [Served] at h ⊢
    rw [hlookup, hsent]
    exact h
  | returned id result =>
    cases id with
    | none => trivial
    | some id =>
      obtain ⟨hlookup, hsent⟩ := hsame id rfl
      dsimp only [Served] at h ⊢
      rw [hlookup, hsent]
      exact h

/-! ## Calls that keep their ids -/

theorem map_id_receive (waiters : List WaitCall) (call : ℕ)
    (result : Except RecoveryError ObjectToken) :
    (waiters.modify call (WaitCall.receive result)).map WaitCall.id = waiters.map WaitCall.id := by
  apply List.ext_getElem?
  intro j
  rw [List.getElem?_map, List.getElem?_map, List.getElem?_modify]
  cases waiters[j]? with
  | none => simp
  | some w =>
    by_cases hj : call = j
    · simp [hj, WaitCall.receive_id]
    · simp [hj]

theorem map_id_set {waiters : List WaitCall} (hw : waiters[call]? = some w) (hid : w'.id = w.id) :
    (waiters.set call w').map WaitCall.id = waiters.map WaitCall.id := by
  have hcall : call < waiters.length := (List.getElem?_eq_some_iff.mp hw).1
  apply List.ext_getElem?
  intro j
  rw [List.getElem?_map, List.getElem?_map, List.getElem?_set]
  by_cases hj : call = j
  · subst hj
    rw [if_pos rfl, if_pos hcall, hw]
    exact congrArg some hid
  · rw [if_neg hj]

theorem place_of_ids (hids : s'.waiters.map WaitCall.id = s.waiters.map WaitCall.id)
    (hw : s'.waiters[call]? = some w) :
    ∃ v, s.waiters[call]? = some v ∧ v.id = w.id := by
  have hid := congrArg (·[call]?) hids
  simp only [List.getElem?_map, hw] at hid
  exact Option.map_eq_some_iff.mp hid.symm

theorem Waits.unique_of_ids (h : s.Waits pending)
    (hids : s'.waiters.map WaitCall.id = s.waiters.map WaitCall.id) {call' : ℕ}
    (hw : s'.waiters[call]? = some w) (hw' : s'.waiters[call']? = some w')
    (hid : w.id = some id) (hid' : w'.id = some id) : call = call' := by
  obtain ⟨v, hv, hvid⟩ := place_of_ids hids hw
  obtain ⟨v', hv', hvid'⟩ := place_of_ids hids hw'
  exact h.unique _ _ _ _ _ hv hv' (hvid.trans hid) (hvid'.trans hid')

theorem Waits.below_of_ids (h : s.Waits pending)
    (hids : s'.waiters.map WaitCall.id = s.waiters.map WaitCall.id) {n : ℕ}
    (hn : s.admissions.queue.nextId = some n)
    (hw : s'.waiters[call]? = some w) (hid : w.id = some id) : id < n := by
  obtain ⟨v, hv, hvid⟩ := place_of_ids hids hw
  exact (h.fresh n hn).1 _ _ _ hv (hvid.trans hid)

structure Takes (s s' : RecoveryDriver) (id : RecoveryWaitId) : Prop where
  ids : s'.waiters.map WaitCall.id = s.waiters.map WaitCall.id
  others : ∀ (call : ℕ) (w : WaitCall), s'.waiters[call]? = some w → w.id ≠ some id →
    s.waiters[call]? = some w
  lookup : ∀ id', s'.admissions.completions.lookup id' =
    if id' = id then none else s.admissions.completions.lookup id'
  sentTo : ∀ id', id' ≠ id → s'.sentTo id' = s.sentTo id'
  sent : ∀ p ∈ s'.sent, p.1 = id ∨ p ∈ s.sent
  nextId : s'.admissions.queue.nextId = s.admissions.queue.nextId
  queued : s'.admissions.queue.waits.Sublist s.admissions.queue.waits
  active : s'.admissions.activeConnection = s.admissions.activeConnection
  recovering : s'.admissions.recovering = s.admissions.recovering

theorem Takes.waits {listed : List RecoveryWaitId} (t : Takes s s' id)
    (h : s.Waits listed) (hw : s.waiters[call]? = some w)
    (hid : w.id = some id) (hserved : ∀ v, s'.waiters[call]? = some v → s'.Served call v)
    (hlisted : ∀ id', id' ∈ s'.admissions.queue.ids ++ pending ↔
      id' ∈ s.admissions.queue.ids ++ listed ∧ id' ≠ id)
    (hnodup : (s'.admissions.queue.ids ++ pending).Nodup)
    (hhonest : ∀ p ∈ s'.sent, ∀ token, p.2 = .ok token → token ∈ s'.replaced) :
    s'.Waits pending := by
  have hfiled : ∀ {id' : RecoveryWaitId} {call' : ℕ},
      s'.admissions.completions.lookup id' = some call' →
      id' ≠ id ∧ s.admissions.completions.lookup id' = some call' := by
    intro id' call' hcall'
    rw [t.lookup] at hcall'
    split at hcall'
    · cases hcall'
    · exact ⟨‹_›, hcall'⟩
  refine ⟨fun call' v hv => ?_, fun id' call' hcall' => ?_, fun id' => ?_, hnodup,
    fun id' call' hcall' => ?_, fun _ _ _ _ _ hv hv' hvid hvid' =>
    h.unique_of_ids t.ids hv hv' hvid hvid', fun n hn => ?_, fun v hv => ?_,
      fun hidle => ?_, hhonest⟩
  · by_cases hvid : v.id = some id
    · obtain ⟨w', hw', hwid'⟩ := place_of_ids t.ids hv
      obtain rfl : call' = call := h.unique _ _ _ _ _ hw' hw (hwid'.trans hvid) hid
      exact hserved v hv
    · refine (h.served call' v (t.others call' v hv hvid)).other fun id' hid' => ?_
      have hne : id' ≠ id := fun he => hvid (he ▸ hid')
      exact ⟨by rw [t.lookup, if_neg hne], t.sentTo id' hne⟩
  · obtain ⟨v, hv, hvid⟩ := h.seated id' call' (hfiled hcall').2
    obtain ⟨v', hv', hvid'⟩ := place_of_ids t.ids.symm hv
    exact ⟨v', hv', hvid'.trans hvid⟩
  · rw [hlisted, ← h.listed]
    constructor
    · rintro ⟨call', hcall'⟩
      exact ⟨⟨call', (hfiled hcall').2⟩, (hfiled hcall').1⟩
    · rintro ⟨⟨call', hcall'⟩, hne⟩
      exact ⟨call', by rw [t.lookup, if_neg hne, hcall']⟩
  · rw [t.sentTo id' (hfiled hcall').1]
    exact h.unsent id' call' (hfiled hcall').2
  · rw [t.nextId] at hn
    refine ⟨fun _ _ _ hv hvid => h.below_of_ids t.ids hn hv hvid, fun p hp => ?_⟩
    rcases t.sent p hp with hpid | hp
    · rw [hpid]
      exact (h.fresh n hn).1 _ _ _ hw hid
    · exact (h.fresh n hn).2 p hp
  · rw [t.active]
    exact h.onActive v (t.queued.subset hv)
  · rw [t.recovering] at hidle
    have hnone := t.queued
    rw [h.idle hidle] at hnone
    exact List.sublist_nil.mp hnone

/-! ## Answering a wait -/

section Complete
variable {outcome : RecoveryWaitOutcome} {replacement : Option ObjectToken} {call : ℕ}
    {w : WaitCall}

theorem completeWait_eq (replacement : Option ObjectToken)
    (hcall : s.admissions.completions.lookup outcome.id = some call) :
    completeWait replacement s outcome =
      { s with
        admissions := { s.admissions with completions := s.admissions.completions.erase outcome.id }
        waiters := s.waiters.modify call (WaitCall.receive (resultOf replacement outcome))
        sent := s.sent ++ [(outcome.id, resultOf replacement outcome)] } := by
  unfold completeWait
  rw [hcall]
  rfl

theorem completeWait_takes (hcall : s.admissions.completions.lookup outcome.id = some call)
    (hw : s.waiters[call]? = some w) (hid : w.id = some outcome.id) :
    Takes s (completeWait replacement s outcome) outcome.id := by
  rw [completeWait_eq replacement hcall]
  refine ⟨map_id_receive _ _ _, fun j v hv hvid => ?_, fun _ => Table.lookup_erase_eq _ _ _,
    fun id' hne => ?_, fun p hp => ?_, rfl, .refl _, rfl, rfl⟩
  · have hj : call ≠ j := by
      rintro rfl
      obtain ⟨v', hv', rfl⟩ := Option.map_eq_some_iff.mp
        ((List.getElem?_modify_eq _ _ _).symm.trans hv)
      obtain rfl : v' = w := Option.mem_unique hv' hw
      exact hvid ((WaitCall.receive_id _ _).trans hid)
    exact (List.getElem?_modify_ne _ _ hj).symm.trans hv
  · refine (sentTo_append s.sent outcome.id id' (resultOf replacement outcome)).trans ?_
    rw [if_neg (Ne.symm hne), List.append_nil]
    rfl
  · rcases List.mem_append.mp hp with hp | hp
    · exact .inr hp
    · exact .inl (congrArg Prod.fst (List.mem_singleton.mp hp))

theorem completeWait_served (h : s.Waits pending)
    (hcall : s.admissions.completions.lookup outcome.id = some call)
    (hw : s.waiters[call]? = some w) (hid : w.id = some outcome.id) :
    (completeWait replacement s outcome).Served call
    (w.receive (resultOf replacement outcome)) := by
  have hlookup : (completeWait replacement s outcome).admissions.completions.lookup
      outcome.id = none := by
    rw [(completeWait_takes hcall hw hid).lookup, if_pos rfl]
  have hsent : (completeWait replacement s outcome).sentTo outcome.id =
      [resultOf replacement outcome] := by
    rw [completeWait_eq replacement hcall]
    refine (sentTo_append s.sent outcome.id outcome.id (resultOf replacement outcome)).trans ?_
    rw [if_pos rfl]
    exact congrArg (· ++ _) (h.unsent _ _ hcall)
  have hserved := h.served call w hw
  cases w with
  | waiting id deadline cancellable result =>
    obtain rfl : id = outcome.id := Option.some.inj hid
    cases result with
    | none => exact ⟨hlookup, hsent⟩
    | some result =>
      rw [hserved.1] at hcall
      cases hcall
  | removing id error =>
    obtain rfl : id = outcome.id := Option.some.inj hid
    exact ⟨hserved.1, .inr ⟨hlookup, _, hsent⟩⟩
  | returned id result =>
    obtain rfl : id = some outcome.id := hid
    rw [hserved.1] at hcall
    cases hcall

theorem resultOf_ok {token : ObjectToken} (h : resultOf replacement outcome = .ok token) :
    token ∈ replacement := by
  unfold resultOf at h
  split at h
  · cases h
    rfl
  · cases h

theorem completeWait_waits (h : s.Waits (outcome.id :: pending))
    (hr : ∀ token ∈ replacement, token ∈ s.replaced) :
    (completeWait replacement s outcome).Waits pending := by
  obtain ⟨call, hcall⟩ := (h.listed outcome.id).mpr (by simp)
  obtain ⟨w, hw, hid⟩ := h.seated _ _ hcall
  obtain ⟨hpending, hnodup⟩ := List.nodup_cons.mp (List.nodup_middle.mp h.nodup)
  have heq := completeWait_eq replacement hcall
  have hqueue : (completeWait replacement s outcome).admissions.queue = s.admissions.queue := by
    rw [heq]
  refine (completeWait_takes hcall hw hid).waits h hw hid (fun v hv => ?_) (fun id' => ?_) ?_
    fun p hp token htoken => ?_
  · rw [heq] at hv
    obtain ⟨v', hv', rfl⟩ := Option.map_eq_some_iff.mp
      ((List.getElem?_modify_eq _ _ _).symm.trans hv)
    obtain rfl : v' = w := Option.mem_unique hv' hw
    exact completeWait_served h hcall hw hid
  · grind
  · rw [hqueue]
    exact hnodup
  · rw [heq] at hp ⊢
    rcases List.mem_append.mp hp with hp | hp
    · exact h.honest p hp token htoken
    · rw [List.mem_singleton.mp hp] at htoken
      exact hr token (resultOf_ok htoken)

end Complete

theorem completeWait_frame (s : RecoveryDriver)
    (outcome : RecoveryWaitOutcome) : ∃ completions waiters sent,
      completeWait replacement s outcome =
        { s with admissions := { s.admissions with completions }, waiters, sent } := by
  unfold completeWait
  split
  · exact ⟨_, _, _, rfl⟩
  · exact ⟨_, _, _, rfl⟩

theorem completeWaits_frame (outcomes : List RecoveryWaitOutcome) :
    ∀ s : RecoveryDriver, ∃ completions waiters sent,
      completeWaits s outcomes replacement =
        { s with admissions := { s.admissions with completions }, waiters, sent } := by
  induction outcomes with
  | nil => exact fun s => ⟨_, _, _, rfl⟩
  | cons outcome outcomes ih =>
    intro s
    obtain ⟨c, w, t, he⟩ := completeWait_frame replacement s outcome
    obtain ⟨c', w', t', he'⟩ := ih (completeWait replacement s outcome)
    refine ⟨c', w', t', ?_⟩
    show completeWaits (completeWait replacement s outcome) outcomes replacement = _
    rw [he', he]

theorem completeWaits_waits {replacement : Option ObjectToken}
    (outcomes : List RecoveryWaitOutcome) : ∀ {s : RecoveryDriver}, s.Waits (outcomes.map (·.id)) →
      (∀ token ∈ replacement, token ∈ s.replaced) → (completeWaits s outcomes replacement).Waits
      [] := by
  induction outcomes with
  | nil => exact fun h _ => h
  | cons outcome outcomes ih =>
    intro s h hr
    obtain ⟨c, w, t, he⟩ := completeWait_frame replacement s outcome
    refine ih (completeWait_waits h hr) fun token htoken => ?_
    rw [he]
    exact hr token htoken

/-! ## Ending a recovery -/

theorem Waits.drained {ids : List RecoveryWaitId} (h : s.Waits [])
    (hleft : ids = s.admissions.queue.ids) (hqueue : s'.admissions.queue.waits = [])
    (hnext : s'.admissions.queue.nextId = s.admissions.queue.nextId)
    (hcompletions : s'.admissions.completions = s.admissions.completions)
    (hwaiters : s'.waiters = s.waiters) (hsent : s'.sent = s.sent)
    (hreplaced : s.replaced ⊆ s'.replaced) : s'.Waits ids := by
  subst hleft
  have hids : s'.admissions.queue.ids = [] := by
    rw [ids, hqueue]
    rfl
  have hto : ∀ id, s'.sentTo id = s.sentTo id := by
    intro id
    unfold sentTo
    rw [hsent]
  refine ⟨fun call w hw => ?_, ?_, fun id => ?_, ?_, fun id call hcall => ?_, ?_, ?_, ?_,
    fun _ => hqueue, ?_⟩
  · rw [hwaiters] at hw
    exact (h.served call w hw).other fun id _ => ⟨by rw [hcompletions], hto id⟩
  · rw [hcompletions, hwaiters]
    exact h.seated
  · rw [hcompletions, hids, h.listed id, List.append_nil]
    rfl
  · rw [hids]
    simpa using h.nodup
  · rw [hcompletions] at hcall
    rw [hto]
    exact h.unsent id call hcall
  · rw [hwaiters]
    exact h.unique
  · rw [hnext, hwaiters, hsent]
    exact h.fresh
  · rw [hqueue]
    intro w hw
    cases hw
  · rw [hsent]
    exact fun p hp token htoken => hreplaced (h.honest p hp token htoken)

variable (q : RecoveryQueue)

theorem failAll_spec : q.failAll.1.waits = [] ∧ q.failAll.2.map (·.id) = q.ids := by
  simp [failAll, ids, RecoveryWaitOutcome.id]

theorem releaseAll_spec {previous : ObjectToken} (replacement : ObjectToken)
    (h : ∀ w ∈ q.waits, w.dependency = previous) :
    ((q.publishReplacement (.replacementPublished previous replacement)).releaseDependency
      replacement).1.waits = [] ∧
    ((q.publishReplacement (.replacementPublished previous replacement)).releaseDependency
      replacement).2.map (·.id) = q.ids := by
  have hwaits : (q.publishReplacement (.replacementPublished previous replacement)).waits =
      q.waits.map fun w => { w with dependency := replacement } := by
    apply List.map_congr_left
    intro w hw
    rw [if_pos (h w hw)]
  unfold releaseDependency release
  constructor
  · rw [hwaits]
    simp
  · rw [hwaits, List.map_map, List.filter_map, List.filter_eq_self.mpr (by simp), List.map_map]
    rfl

theorem failWaiters_frame (s : RecoveryDriver) : ∃ queue completions waiters sent,
    queue.waits = [] ∧ s.failWaiters =
      { s with
        admissions := { s.admissions with recovering := false, queue, completions }
        waiters
        sent } := by
  obtain ⟨c, w, t, he⟩ := completeWaits_frame none s.admissions.queue.failAll.2
    { s with admissions :=
      { s.admissions with recovering := false, queue := s.admissions.queue.failAll.1 } }
  exact ⟨_, c, w, t, rfl, he⟩

section

variable (h : s.Waits [])
include h

theorem failWaiters_waits : s.failWaiters.Waits [] := by
  obtain ⟨hwaits, hids⟩ := failAll_spec s.admissions.queue
  refine completeWaits_waits _ ?_ fun token htoken => nomatch htoken
  exact h.drained hids hwaits rfl rfl rfl rfl (List.Subset.refl _)

/-- The end of a recovery empties the queue and leaves the recovering calls. -/
theorem finishRecovery_frame (replacement : ObjectToken) : ∃ queue completions waiters sent,
      queue.waits = [] ∧ s.finishRecovery replacement =
        { s with
          admissions := ⟨replacement, false, queue, completions⟩
          waiters
          sent
          replaced := s.replaced ++ [replacement] } := by
  obtain ⟨hwaits, -⟩ := releaseAll_spec s.admissions.queue replacement h.onActive
  obtain ⟨c, w, t, he⟩ := completeWaits_frame (some replacement)
    ((s.admissions.queue.publishReplacement
      (.replacementPublished s.admissions.activeConnection replacement)).releaseDependency
      replacement).2
    { s with
      admissions := { s.admissions with
        activeConnection := replacement
        recovering := false
        queue := ((s.admissions.queue.publishReplacement
          (.replacementPublished s.admissions.activeConnection replacement)).releaseDependency
            replacement).1 }
      replaced := s.replaced ++ [replacement] }
  exact ⟨_, c, w, t, hwaits, he⟩

theorem finishRecovery_waits (replacement : ObjectToken) :
    (s.finishRecovery replacement).Waits [] := by
  obtain ⟨hwaits, hids⟩ := releaseAll_spec s.admissions.queue replacement h.onActive
  refine completeWaits_waits _ ?_ fun token htoken => ?_
  · exact h.drained hids hwaits rfl rfl rfl rfl (List.subset_append_left _ _)
  · cases htoken
    exact List.mem_append_right _ (List.mem_singleton_self _)

/-! ## The calls that wait -/

theorem Waits.answered (result : Except RecoveryError ObjectToken) :
    Waits { s with waiters := s.waiters ++ [.returned none result] } [] := by
  refine ⟨fun call w hw => ?_, fun id call hcall => ?_, h.listed, h.nodup, h.unsent,
    fun call call' w w' id hw hw' hid hid' => ?_, fun n hn =>
    ⟨fun call w id hw hid => ?_, (h.fresh n hn).2⟩, h.onActive, h.idle, h.honest⟩
  · rcases getElem?_concat_cases hw with hw | ⟨-, rfl⟩
    · exact (h.served call w hw).other fun id _ => ⟨rfl, rfl⟩
    · trivial
  · obtain ⟨w, hw, hid⟩ := h.seated id call hcall
    exact ⟨w, getElem?_concat_of _ hw, hid⟩
  · rcases getElem?_concat_cases hw with hw | ⟨-, rfl⟩
    · rcases getElem?_concat_cases hw' with hw' | ⟨-, rfl⟩
      · exact h.unique _ _ _ _ _ hw hw' hid hid'
      · cases hid'
    · cases hid
  · rcases getElem?_concat_cases hw with hw | ⟨-, rfl⟩
    · exact (h.fresh n hn).1 _ _ _ hw hid
    · cases hid

theorem Waits.unused (hn : s.admissions.queue.nextId = some id) :
    (∀ (call : ℕ) (w : WaitCall), s.waiters[call]? = some w → w.id ≠ some id) ∧
      id ∉ s.admissions.queue.ids ∧ s.sentTo id = [] := by
  obtain ⟨hcalls, hsent⟩ := h.fresh id hn
  have hold : ∀ (call : ℕ) (w : WaitCall), s.waiters[call]? = some w → w.id ≠ some id :=
    fun call w hw hid => lt_irrefl _ (hcalls call w id hw hid)
  refine ⟨hold, fun hmem => ?_, ?_⟩
  · obtain ⟨call, hcall⟩ := (h.listed id).mpr (List.mem_append_left _ hmem)
    obtain ⟨w, hw, hid⟩ := h.seated id call hcall
    exact hold call w hw hid
  · unfold sentTo
    rw [List.filter_eq_nil_iff.mpr]
    · rfl
    · intro p hp heq
      exact lt_irrefl _ (of_decide_eq_true heq ▸ hsent p hp)

end

theorem Waits.enqueued {dependency : ObjectToken} {deadline : MonotonicTime} {cancellable : Bool}
    {queue : RecoveryQueue} (h : s.Waits [])
    (hrecovering : s.admissions.recovering = true)
    (hdependency : dependency = s.admissions.activeConnection)
    (he : s.admissions.queue.enqueue dependency (some deadline) = .ok (queue, id)) :
    Waits { s with
      admissions := { s.admissions with
        queue
        completions := s.admissions.completions.insert id s.waiters.length }
      waiters := s.waiters ++ [.waiting id deadline cancellable none] } [] := by
  unfold enqueue at he
  split at he
  · cases he
  split at he
  · cases he
  rename_i n hn
  cases he
  have hfresh := h.fresh id hn
  obtain ⟨hold, hunlisted, hempty⟩ := h.unused hn
  have hids : ids { s.admissions.queue with
      nextId := Machine.checkedAdd 64 id 1
      waits := s.admissions.queue.waits ++ [⟨id, dependency, some deadline⟩] } =
      s.admissions.queue.ids ++ [id] := List.map_append
  refine ⟨fun call w hw => ?_, fun id' call hcall => ?_, fun id' => ?_, ?_, fun id' call hcall =>
    ?_, fun call call' w w' id' hw hw' hid hid' => ?_, fun m hm => ?_,
      fun w hw => ?_, fun hidle => ?_,
    h.honest⟩
  · rcases getElem?_concat_cases hw with hfiled | ⟨hcall, rfl⟩
    · refine (h.served call w hfiled).other fun id' hid' => ⟨?_, rfl⟩
      have hne : id' ≠ id := by
        rintro rfl
        exact hold call w hfiled hid'
      exact (Table.lookup_insert_eq _ _ _ _).trans (if_neg hne)
    · rw [hcall]
      exact AList.lookup_insert _
  · rw [Table.lookup_insert_eq] at hcall
    split at hcall
    · cases hcall
      refine ⟨_, List.getElem?_concat_length, ?_⟩
      rename_i hid'
      rw [hid']
      rfl
    · obtain ⟨w, hw, hid⟩ := h.seated id' call hcall
      exact ⟨w, getElem?_concat_of _ hw, hid⟩
  · rw [Table.lookup_insert_eq]
    rw [hids, List.append_nil, List.mem_append, List.mem_singleton]
    by_cases hid' : id' = id
    · simp [hid']
    · rw [if_neg hid', h.listed id', List.append_nil]
      simp [hid']
  · rw [hids, List.append_nil]
    have hnodup := h.nodup
    rw [List.append_nil] at hnodup
    exact List.nodup_append.mpr ⟨hnodup, List.nodup_singleton _, fun a ha b hb hab =>
      hunlisted (List.mem_singleton.mp hb ▸ hab ▸ ha)⟩
  · rw [Table.lookup_insert_eq] at hcall
    split at hcall
    · rename_i hid'
      rw [hid']
      exact hempty
    · exact h.unsent id' call hcall
  · rcases getElem?_concat_cases hw with hw | ⟨hcall, rfl⟩
    · rcases getElem?_concat_cases hw' with hw' | ⟨-, rfl⟩
      · exact h.unique _ _ _ _ _ hw hw' hid hid'
      · cases hid'
        exact absurd hid (hold call w hw)
    · rcases getElem?_concat_cases hw' with hw' | ⟨hcall', rfl⟩
      · cases hid
        exact absurd hid' (hold call' w' hw')
      · exact hcall.trans hcall'.symm
  · obtain ⟨-, rfl⟩ := Machine.checkedAdd_eq_some.mp hm
    refine ⟨fun call w id' hw hid' => ?_, fun p hp => Nat.lt_succ_of_lt (hfresh.2 p hp)⟩
    rcases getElem?_concat_cases hw with hw | ⟨-, rfl⟩
    · exact Nat.lt_succ_of_lt (hfresh.1 call w id' hw hid')
    · cases hid'
      exact Nat.lt_succ_self id
  · rcases List.mem_append.mp hw with hw | hw
    · exact h.onActive w hw
    · rw [List.mem_singleton.mp hw]
      exact hdependency
  · rw [hrecovering] at hidle
    cases hidle

theorem resolveDependency_waits (h : s.Waits []) (dependency : ObjectToken)
    (deadline : Option MonotonicTime) (cancellable : Bool) :
    (s.resolveDependency dependency deadline cancellable).Waits [] := by
  unfold resolveDependency
  split
  · exact h.answered _
  rename_i hrecovering
  split
  · exact h.answered _
  rename_i hdependency
  dsimp only
  split
  · exact h.answered _
  · exact h.answered _
  · rename_i he
    exact h.enqueued (by simpa using hrecovering) (not_not.mp hdependency) he

theorem Waits.moved (h : s.Waits []) (hw : s.waiters[call]? = some w)
    (hid : w'.id = w.id) (hserved : s.Served call w') : (s.setWaiter call w').Waits [] := by
  have hids : (s.setWaiter call w').waiters.map WaitCall.id = s.waiters.map WaitCall.id :=
    map_id_set hw hid
  refine ⟨fun j v hv => ?_, fun id j hj => ?_, h.listed, h.nodup, h.unsent,
    fun _ _ _ _ _ hv hv' hvid hvid' => h.unique_of_ids hids hv hv' hvid hvid',
    fun n hn => ⟨fun _ _ _ hv hvid => h.below_of_ids hids hn hv hvid, (h.fresh n hn).2⟩,
    h.onActive, h.idle, h.honest⟩
  · rcases getElem?_set_cases hv with ⟨rfl, rfl⟩ | ⟨-, hv⟩
    · exact hserved.other fun id _ => ⟨rfl, rfl⟩
    · exact (h.served j v hv).other fun id _ => ⟨rfl, rfl⟩
  · obtain ⟨v, hv, hvid⟩ := h.seated id j hj
    obtain ⟨v', hv', hvid'⟩ := place_of_ids hids.symm hv
    exact ⟨v', hv', hvid'.trans hvid⟩

theorem cancel_ids (id : RecoveryWaitId) : (q.cancel id).1.ids = q.ids.erase id := by
  have herase : ∀ l : List RecoveryWait,
      (l.eraseP (·.id = id)).map (·.id) = (l.map (·.id)).erase id := by
    intro l
    induction l with
    | nil => rfl
    | cons w l ih =>
      by_cases hw : w.id = id
      · simp [hw]
      · rw [List.eraseP_cons_of_neg (by simpa using hw), List.map_cons, List.map_cons, ih,
          List.erase_cons_tail (by simpa using hw)]
  unfold cancel
  split
  · exact herase q.waits
  rename_i hany
  refine (List.erase_of_not_mem fun hmem => hany ?_).symm
  obtain ⟨w, hw, hid⟩ := List.mem_map.mp hmem
  exact List.any_eq_true.mpr ⟨w, hw, by simpa using hid⟩

theorem cancel_frame (id : RecoveryWaitId) :
    (q.cancel id).1.nextId = q.nextId ∧ (q.cancel id).1.waits.Sublist q.waits := by
  unfold cancel
  split
  · exact ⟨rfl, List.eraseP_sublist⟩
  · exact ⟨rfl, .refl _⟩

variable {error : RecoveryError}

theorem removeWait_takes (hw : s.waiters[call]? = some (.removing id error)) :
    Takes s ((s.removeWait id).setWaiter call (.returned (some id) (.error error))) id := by
  obtain ⟨hnext, hsub⟩ := cancel_frame s.admissions.queue id
  refine ⟨map_id_set hw rfl, fun j v hv hvid => ?_, fun _ => Table.lookup_erase_eq _ _ _,
    fun _ _ => rfl, fun _ hp => .inr hp, hnext, hsub, rfl, rfl⟩
  rcases getElem?_set_cases hv with ⟨-, rfl⟩ | ⟨-, hv⟩
  · exact absurd rfl hvid
  · exact hv

theorem removing_waits (h : s.Waits []) (hw : s.waiters[call]? = some (.removing id error)) :
    ((s.removeWait id).setWaiter call (.returned (some id) (.error error))).Waits [] := by
  have htakes := removeWait_takes hw
  obtain ⟨hexit, hserved⟩ := h.served call _ hw
  have hnodup : s.admissions.queue.ids.Nodup := by simpa using h.nodup
  have hids :
      ((s.removeWait id).setWaiter call (.returned (some id) (.error error))).admissions.queue.ids =
      s.admissions.queue.ids.erase id := cancel_ids _ _
  refine htakes.waits h hw rfl (fun v hv => ?_) (fun id' => ?_) ?_ h.honest
  · rcases getElem?_set_cases hv with ⟨-, rfl⟩ | ⟨hne, -⟩
    · -- At most one result has been sent, and it does not arrive any more.
      refine ⟨by rw [htakes.lookup, if_pos rfl], .inr ⟨⟨error, rfl, hexit⟩, ?_⟩⟩
      show (s.sentTo id).length ≤ 1
      rcases hserved with hsender | ⟨-, result, hsent⟩
      · rw [h.unsent id call hsender]
        exact Nat.zero_le 1
      · rw [hsent]
        exact le_rfl
    · exact absurd rfl hne
  · rw [hids, List.append_nil, List.append_nil, hnodup.mem_erase_iff, and_comm]
  · rw [hids, List.append_nil]
    exact hnodup.erase id

theorem advanceWait_waits (h : s.Waits []) (call : ℕ) (branch : WaitBranch) :
    (s.advanceWait call branch).Waits [] := by
  unfold advanceWait
  split
  · exact h
  · exact h
  · rename_i id deadline cancellable result hw
    have hserved := h.served call _ hw
    -- Whatever the channel holds, the call may leave by itself.
    have leave : ∀ error : RecoveryError, error.ownExit = true →
        (s.setWaiter call (.removing id error)).Waits [] := by
      intro error hexit
      refine h.moved hw rfl ⟨hexit, ?_⟩
      cases result with
      | none => exact .inl hserved
      | some result => exact .inr ⟨hserved.1, result, hserved.2⟩
    cases branch with
    | completion =>
      cases result with
      | some result => exact h.moved hw rfl ⟨hserved.1, .inl hserved.2⟩
      | none =>
        dsimp only [Served] at hserved ⊢
        rw [if_pos hserved]
        exact h
    | deadline =>
      dsimp only
      split
      · exact leave .waitTimedOut rfl
      · exact h
    | cancellation =>
      dsimp only
      split
      · exact leave .waitCancelled rfl
      · exact h
  · rename_i id error hw
    exact removing_waits h hw

/-! ## Every step -/

theorem advanceRecover_waits (h : s.Waits []) (call : ℕ) (jitter : Duration)
    (attempt : Option (Except RuntimeError ObjectToken)) :
    (s.advanceRecover call jitter attempt).Waits [] := by
  unfold advanceRecover
  split
  · exact h
  · exact h
  · split
    · exact h.frame
    · exact h.frame
  · split
    · exact h.frame
    rename_i admissions hbegun
    unfold RecoveryAdmissions.beginRecovery at hbegun
    split at hbegun
    · cases hbegun
    cases hbegun
    refine ⟨fun j w hw => (h.served j w hw).other fun _ _ => ⟨rfl, rfl⟩, h.seated,
      h.listed, h.nodup, h.unsent, h.unique, h.fresh, h.onActive, fun hidle => ?_, h.honest⟩
    cases hidle
  · exact h.frame
  · exact h.frame
  · exact h.frame
  · dsimp only
    split
    · exact h.frame
    · exact h.frame
  · exact h.frame
  · exact (finishRecovery_waits h _).frame rfl rfl rfl rfl
  · exact (failWaiters_waits h).frame rfl rfl rfl rfl

/-- **Every step keeps the waits served**: queued, or answered once. -/
theorem step_waits (h : s.Waits []) (input : DriverStep) : (s.step input).Waits [] := by
  cases input with
  | recover exit => exact h.frame
  | advanceRecover call jitter attempt => exact advanceRecover_waits h call jitter attempt
  | resolveDependency dependency deadline cancellable =>
    exact resolveDependency_waits h dependency deadline cancellable
  | advanceWait call branch => exact advanceWait_waits h call branch
  | close => exact h.frame
  | advanceClose call =>
    unfold step advanceClose
    dsimp only
    split
    · exact h
    · exact h
    · exact h.frame
    · exact (failWaiters_waits h).frame rfl rfl rfl rfl
  | abandon => exact h.frame
  | elapse duration => exact h.frame

theorem new_waits (connection : ObjectToken) (policy : RecoveryPolicy) :
    (new connection policy).Waits [] := by
  refine ⟨?_, ?_, fun id => ?_, List.nodup_nil, ?_, ?_, fun n hn => ⟨?_, ?_⟩, ?_, fun _ => rfl, ?_⟩
  · intro call w hw
    cases hw
  · intro id call hcall
    cases hcall
  · constructor
    · rintro ⟨call, hcall⟩
      cases hcall
    · intro hmem
      cases hmem
  · intro id call hcall
    cases hcall
  · intro call call' w w' id hw
    cases hw
  · intro call w id hw
    cases hw
  · intro p hp
    cases hp
  · intro w hw
    cases hw
  · intro p hp
    cases hp

theorem run_waits (connection : ObjectToken) (policy : RecoveryPolicy) (steps : List DriverStep) :
    (run connection policy steps).Waits [] :=
  List.foldl_invariant (P := fun s : RecoveryDriver => s.Waits [])
    (fun _ input h => step_waits h input) steps (new_waits connection policy)

end RecoveryDriver

end Runtime
