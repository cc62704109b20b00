import SmbClient.Runtime.Proof.Lifecycle

/-!
# Responses: the async index, and what a rejected response leaves behind

`ResponseStep` is everything a response can do to the state. `Indexed`: the async index is the
inverse of the records' pending async ids.
-/

namespace Runtime

open GenerationState

/-! ## One response -/

inductive ResponseStep (s : GenerationState) (key : RequestKey) :
    ResponseEvent → UInt16 → GenerationState → List OwnerEffect → Prop where
  | ignored (event : ResponseEvent) (grant : UInt16) (effect : OwnerEffect)
      (told : effect = .request key .ignoredForeignGeneration ∨ effect = .unknownRequest key ∨
        effect = .duplicateResponse key) :
      ResponseStep s key event grant s [effect]
  | conflict (asyncId : ℕ) (existing : RequestKey) (grant : UInt16)
      (taken : s.asyncIndex.lookup asyncId = some existing) (other : existing ≠ key) :
      ResponseStep s key (.pending asyncId) grant { s with unhealthy := true }
        [.asyncIdConflict asyncId existing key, .generationUnhealthy key]
  | changed (r : OwnedRequest) (existing incoming : ℕ) (grant : UInt16)
      (found : s.requests.lookup key = some r)
      (pending : r.lifecycle.response = .asyncPending existing) (other : existing ≠ incoming) :
      ResponseStep s key (.pending incoming) grant { s with unhealthy := true }
        [.asyncIdChanged key existing incoming, .generationUnhealthy key]
  | overflowed (event : ResponseEvent) (grant : UInt16) (r : OwnedRequest) (saturated : Bool)
      (found : s.requests.lookup key = some r) (live : r.lifecycle.response ≠ .final)
      (free : s.asyncConflict key event = none)
      (same : asyncChange event r.lifecycle.response = none)
      (full : Machine.checkedAdd 32 s.availableCredits grant.toNat = none) :
      ResponseStep s key event grant
        { (s.credited r grant saturated s.availableCredits).put key r.answered with
          unhealthy := true }
        [.creditLedgerOverflow key s.availableCredits grant, .generationUnhealthy key]
  | acceptedPending (asyncId : ℕ) (grant : UInt16) (r : OwnedRequest) (saturated : Bool)
      (available : ℕ) (found : s.requests.lookup key = some r)
      (live : r.lifecycle.response ≠ .final) (free : s.asyncConflict key (.pending asyncId) = none)
      (same : asyncChange (.pending asyncId) r.lifecycle.response = none) :
      ResponseStep s key (.pending asyncId) grant
        ((s.credited r grant saturated available).acceptPending key r.answered asyncId).1
        (.creditGrantApplied key grant available ::
          ((s.credited r grant saturated available).acceptPending key r.answered asyncId).2)
  | acceptedFinal (grant : UInt16) (r : OwnedRequest) (saturated : Bool) (available : ℕ)
      (found : s.requests.lookup key = some r) :
      ResponseStep s key .final grant
        ((s.credited r grant saturated available).acceptFinal key r.answered r.lifecycle.response).1
        (.creditGrantApplied key grant available ::
          ((s.credited r grant saturated available).acceptFinal key r.answered
            r.lifecycle.response).2)

namespace GenerationState

variable {s s' : GenerationState} {key : RequestKey}
variable {asyncId : ℕ}

theorem asyncConflict_eq_some {event : ResponseEvent} {existing : RequestKey}
    (h : s.asyncConflict key event = some (asyncId, existing)) :
    event = .pending asyncId ∧ s.asyncIndex.lookup asyncId = some existing ∧ existing ≠ key := by
  cases event with
  | final => cases h
  | pending id =>
    simp only [asyncConflict] at h
    split at h
    · rename_i found hfound
      split at h
      · rename_i hother
        cases h
        exact ⟨rfl, hfound, hother⟩
      · cases h
    · cases h

theorem asyncConflict_eq_none (h : s.asyncConflict key (.pending asyncId) = none)
    {existing : RequestKey} (hfound : s.asyncIndex.lookup asyncId = some existing) :
    existing = key := by
  simpa [asyncConflict, hfound] using h

theorem asyncChange_eq_some {event : ResponseEvent} {progress : ResponseProgress}
    {existing incoming : ℕ} (h : asyncChange event progress = some (existing, incoming)) :
    event = .pending incoming ∧ progress = .asyncPending existing ∧ existing ≠ incoming := by
  unfold asyncChange at h
  split at h
  · split at h
    · rename_i hother
      cases h
      exact ⟨rfl, rfl, hother⟩
    · cases h
  · cases h

theorem asyncChange_eq_none {existing : ℕ}
    (h : asyncChange (.pending asyncId) (.asyncPending existing) = none) : existing = asyncId := by
  simpa [asyncChange] using h

/-- **What a response does, case by case.** -/
theorem response_step (s : GenerationState) (key : RequestKey) (event : ResponseEvent)
    (grant : UInt16) :
    ResponseStep s key event grant (s.response key event grant).1
    (s.response key event grant).2 := by
  unfold response
  split
  · exact .ignored event grant _ (.inl rfl)
  split
  · rename_i asyncId existing hconflict
    obtain ⟨rfl, htaken, hother⟩ := asyncConflict_eq_some hconflict
    exact .conflict asyncId existing grant htaken hother
  · rename_i hfree
    split
    · exact .ignored event grant _ (.inr (.inl rfl))
    rename_i r hfound
    split
    · rename_i existing incoming hchange
      obtain ⟨rfl, hpending, hother⟩ := asyncChange_eq_some hchange
      exact .changed r existing incoming grant hfound hpending hother
    · rename_i hsame
      split
      · exact .ignored event grant _ (.inr (.inr rfl))
      rename_i hlive
      obtain ⟨saturated, -, hobserve⟩ := s.observeCredits_eq r grant
      rw [hobserve]
      dsimp only [takePayload]
      split
      · rename_i hfull
        exact .overflowed event grant r saturated hfound hlive hfree hsame hfull
      · rename_i available havailable
        cases event with
        | pending asyncId =>
          exact .acceptedPending asyncId grant r saturated available hfound hlive hfree hsame
        | final => exact .acceptedFinal grant r saturated available hfound

end GenerationState

/-! ## The async index -/

def ResponseProgress.pendingId : ResponseProgress → Option ℕ
  | .asyncPending asyncId => some asyncId
  | .none | .final => Option.none

namespace RequestRecord

variable (r : RequestRecord)

theorem reduce_asyncPending {key : RequestKey} (hkey : r.key = key) (hlive : r.response ≠ .final)
    (asyncId : ℕ) : (r.reduce (.asyncPending key asyncId)).1.response = .asyncPending asyncId := by
  subst hkey
  simp [reduce, hlive]

end RequestRecord

namespace GenerationState

def pendingOf (s : GenerationState) (key : RequestKey) : Option ℕ :=
  (s.requests.lookup key).bind fun r => r.lifecycle.response.pendingId

def Indexed (s : GenerationState) : Prop := s.asyncIndex.Inverts s.pendingOf

structure SameAnswers (s s' : GenerationState) : Prop where
  asyncIndex : s'.asyncIndex = s.asyncIndex
  pendingOf : s'.pendingOf = s.pendingOf

variable {s s' : GenerationState} {key : RequestKey} {r : OwnedRequest}

theorem pendingOf_insert (r' : OwnedRequest) (h : s'.requests = s.requests.insert key r') :
    s'.pendingOf = Function.update s.pendingOf key r'.lifecycle.response.pendingId := by
  funext k
  unfold pendingOf
  rw [h, Table.lookup_insert_eq, Function.update_apply]
  split <;> rfl

theorem pendingOf_found (h : s.requests.lookup key = some r) :
    s.pendingOf key = r.lifecycle.response.pendingId := by
  simp [pendingOf, h]

namespace SameAnswers

theorem refl (s : GenerationState) : SameAnswers s s := ⟨rfl, rfl⟩

theorem trans {s'' : GenerationState} (h : SameAnswers s s') (h' : SameAnswers s' s'') :
    SameAnswers s s'' := ⟨h'.asyncIndex.trans h.asyncIndex, h'.pendingOf.trans h.pendingOf⟩

theorem indexed (h : SameAnswers s s') (hs : s.Indexed) : s'.Indexed := by
  unfold Indexed
  rw [h.asyncIndex, h.pendingOf]
  exact hs

theorem of_insert {r' : OwnedRequest} (hindex : s'.asyncIndex = s.asyncIndex)
    (hrequests : s'.requests = s.requests.insert key r') (hfound : s.requests.lookup key = some r)
    (hsame : r'.lifecycle.response = r.lifecycle.response) : SameAnswers s s' := by
  refine ⟨hindex, ?_⟩
  rw [pendingOf_insert r' hrequests, hsame, ← pendingOf_found hfound, Function.update_eq_self]

end SameAnswers

section

variable (s)

section

variable (key)

theorem releasePayload_same : SameAnswers s (s.releasePayload key) := by
  unfold releasePayload
  split
  · exact .refl s
  · rename_i r hfound
    exact .of_insert rfl rfl hfound rfl

theorem releaseRequestOwnership_same : SameAnswers s (s.releaseRequestOwnership key) := by
  apply (s.releasePayload_same key).trans
  unfold releaseRequestOwnership
  dsimp only
  split
  · exact .refl _
  · rename_i r hfound
    exact .of_insert rfl rfl hfound rfl

theorem rollback_same : SameAnswers s (s.rollback key).1 := by
  unfold rollback
  split
  · exact .refl s
  rename_i r hfound
  split
  · exact .refl s
  split
  · split
    · exact .refl s
    · refine SameAnswers.trans ?_ (releaseRequestOwnership_same _ key)
      exact .of_insert rfl rfl hfound rfl
  · exact s.releaseRequestOwnership_same key

theorem scheduleDeadline_same (t : MonotonicTime)
    (kind : DeadlineKind) : SameAnswers s (s.scheduleDeadline key t kind).1 := by
  unfold scheduleDeadline
  split
  · exact .refl s
  rename_i r hfound
  split
  · exact ⟨rfl, rfl⟩
  · exact .of_insert rfl rfl hfound rfl

theorem settleUnanswered_same (now : MonotonicTime)
    (committed : Bool) : SameAnswers s (s.settleUnanswered key now committed).1 := by
  unfold settleUnanswered
  split
  · exact s.scheduleDeadline_same key _ _
  · exact s.rollback_same key

end

end

theorem put_same (r' : OwnedRequest) (hfound : s.requests.lookup key = some r)
    (hsame : r'.lifecycle.response = r.lifecycle.response) : SameAnswers s (s.put key r') :=
  .of_insert rfl rfl hfound hsame

section

variable (s)

section

variable (key)

theorem requestEvent_same (progress : RequestProgress) :
    SameAnswers s (s.requestEvent key progress).1 := by
  unfold requestEvent
  split
  · exact .refl s
  split
  · exact .refl s
  rename_i r hfound
  have hput := put_same { r with lifecycle := (r.lifecycle.reduce (progressEvent progress)).1 }
    hfound (RequestRecord.reduce_response (by cases progress <;> simp [progressEvent])
      (by cases progress <;> simp [progressEvent]))
  dsimp only
  split
  · exact hput.trans (releasePayload_same _ key)
  · exact hput

theorem cancel_same (now : MonotonicTime) : SameAnswers s (s.cancel key now).1 := by
  unfold cancel
  split
  · exact .refl s
  split
  · exact .refl s
  rename_i r hfound
  split
  · exact .refl s
  split
  · exact put_same _ hfound rfl
  · exact (put_same _ hfound RequestRecord.reduce_response).trans
      (settleUnanswered_same _ key now _)

theorem prepareFailed_same : SameAnswers s (s.prepareFailed key).1 := by
  unfold prepareFailed
  split
  · exact .refl s
  split
  · exact .refl s
  rename_i r hfound
  split
  · exact .refl s
  · exact (put_same _ hfound (r.lifecycle.publishOnce_response _)).trans (rollback_same _ key)

theorem recoveryHint_same : SameAnswers s (s.recoveryHint key).1 := by
  unfold recoveryHint
  split
  · exact .refl s
  split
  · exact .refl s
  rename_i r hfound
  exact (put_same _ hfound RequestRecord.reduce_response).trans
    (releaseRequestOwnership_same _ key)

end

theorem expire_same (now : MonotonicTime) (entry : DeadlineEntry) :
    SameAnswers s (s.expire now entry).1 := by
  unfold expire
  split
  · exact .refl s
  rename_i r hfound
  split
  · exact .refl s
  split
  · split
    · exact .refl s
    · exact (put_same _ hfound RequestRecord.reduce_response).trans
        (settleUnanswered_same _ entry.key now _)
  · split
    · exact ⟨rfl, rfl⟩
    · exact .refl s

end

theorem drainDeadlines_same (now : MonotonicTime) (fuel : ℕ) (s : GenerationState) :
    SameAnswers s (drainDeadlines now fuel s).1 := by
  induction fuel generalizing s with
  | zero => exact .refl s
  | succ fuel ih =>
    unfold drainDeadlines
    split
    · exact .refl s
    rename_i entry hpeek
    split
    · have hpopped : SameAnswers s { s with deadlines := s.deadlines.pop } := ⟨rfl, rfl⟩
      exact (hpopped.trans (expire_same _ now entry)).trans (ih _)
    · exact .refl s

theorem disconnectAll_same (network : Option NetworkFailure) (keys : List RequestKey)
    (s : GenerationState) : SameAnswers s (disconnectAll network keys s).1 := by
  induction keys generalizing s with
  | nil => exact .refl s
  | cons key keys ih =>
    have hone : SameAnswers s (s.disconnectRequest network key).1 := by
      unfold disconnectRequest
      split
      · exact s.releaseRequestOwnership_same key
      rename_i r hfound
      exact (put_same _ hfound RequestRecord.reduce_response).trans
        (releaseRequestOwnership_same _ key)
    exact hone.trans (ih _)

theorem Indexed.admitRequest (hs : s.Indexed) (hsound : s.Sound) (payload : ℕ) (charge : UInt16)
    (deadline : Option MonotonicTime) : (s.admitRequest payload charge deadline).1.Indexed := by
  unfold GenerationState.admitRequest
  split
  · exact hs
  split
  · exact hs
  rename_i id hid
  have hfresh : s.pendingOf ⟨s.generation, id⟩ = none := by
    cases hfound : s.requests.lookup ⟨s.generation, id⟩ with
    | none => simp [pendingOf, hfound]
    | some r => exact absurd (hsound.fresh _ r id hfound hid) (Nat.lt_irrefl id)
  dsimp only
  generalize hadmitted : mk _ _ _ _ _ _ _ _ _ _ _ _ _ _ _ _ _ = admitted
  have hindexed : admitted.Indexed := by
    have hpending : admitted.pendingOf = s.pendingOf := by
      rw [pendingOf_insert _ (by rw [← hadmitted])]
      exact Function.update_eq_self_iff.mpr hfresh.symm
    unfold Indexed
    rw [hpending, ← hadmitted]
    exact hs
  cases deadline with
  | none => exact hindexed
  | some d => exact (admitted.scheduleDeadline_same _ d .caller).indexed hindexed

theorem answered_response (r : OwnedRequest) :
    r.answered.lifecycle.response = r.lifecycle.response := by
  obtain ⟨send, he⟩ := r.lifecycle.observeResponseCommitment_eq
  rw [OwnedRequest.answered, he]

theorem answered_key (r : OwnedRequest) : r.answered.lifecycle.key = r.lifecycle.key := by
  obtain ⟨send, he⟩ := r.lifecycle.observeResponseCommitment_eq
  rw [OwnedRequest.answered, he]

section
variable {grant : UInt16} {saturated : Bool} {available : ℕ} (hs : s.Indexed)
  (hfound : s.requests.lookup key = some r) (hkey : r.lifecycle.key = key)
  (hlive : r.lifecycle.response ≠ .final)
include hs hfound hkey

include hlive in
theorem Indexed.acceptPending {asyncId : ℕ} (hfree : s.asyncConflict key (.pending asyncId) = none)
    (hsame : asyncChange (.pending asyncId) r.lifecycle.response = none) :
    ((s.credited r grant saturated available).acceptPending key r.answered asyncId).1.Indexed := by
  have hresponse : (r.answered.lifecycle.reduce (.asyncPending key asyncId)).1.response =
      .asyncPending asyncId := by
    apply RequestRecord.reduce_asyncPending
    · rw [answered_key, hkey]
    · rw [answered_response]
      exact hlive
  have hpending : ((s.credited r grant saturated available).acceptPending key r.answered
      asyncId).1.pendingOf = Function.update s.pendingOf key (some asyncId) := by
    rw [pendingOf_insert (s := s) { r.answered with
      lifecycle := (r.answered.lifecycle.reduce (.asyncPending key asyncId)).1 } rfl, hresponse]
    rfl
  unfold Indexed
  rw [hpending]
  apply Table.Inverts.insert hs
  · intro existing htaken
    exact asyncConflict_eq_none hfree htaken
  · intro existing hpending
    rw [pendingOf_found hfound] at hpending
    cases hprogress : r.lifecycle.response with
    | asyncPending other =>
      rw [hprogress] at hsame hpending
      cases hpending
      exact asyncChange_eq_none hsame
    | none => rw [hprogress] at hpending; cases hpending
    | final => rw [hprogress] at hpending; cases hpending

theorem Indexed.acceptFinal :
    ((s.credited r grant saturated available).acceptFinal key r.answered
      r.lifecycle.response).1.Indexed := by
  have hresponse : (r.answered.lifecycle.reduce (.finalResponse key)).1.response = .final := by
    refine (RequestRecord.reduce_finalResponse _ ?_).2.2
    rw [answered_key, hkey]
  obtain ⟨asyncIndex, hforget⟩ :=
    (s.credited r grant saturated available).forgetAsync_eq r.lifecycle.response
  have hbefore := pendingOf_found hfound
  -- The index without the async id of the request fits the request without an async id.
  have hinverts : asyncIndex.Inverts (Function.update s.pendingOf key none) := by
    have hindex : asyncIndex =
        ((s.credited r grant saturated available).forgetAsync r.lifecycle.response).asyncIndex := by
      rw [hforget]
    rw [hindex]
    cases hprogress : r.lifecycle.response with
    | asyncPending asyncId =>
      rw [hprogress] at hbefore
      exact Table.Inverts.erase hs hbefore
    | none =>
      rw [hprogress] at hbefore
      rw [Function.update_eq_self_iff.mpr hbefore.symm]
      exact hs
    | final =>
      rw [hprogress] at hbefore
      rw [Function.update_eq_self_iff.mpr hbefore.symm]
      exact hs
  unfold GenerationState.acceptFinal
  dsimp only
  rw [hforget]
  split
  all_goals
    apply (releaseRequestOwnership_same _ key).indexed
    unfold Indexed
    rw [pendingOf_insert (s := s) _ rfl, hresponse]
    exact hinverts

end

theorem Indexed.response (hs : s.Indexed) (hkeyed : s.Keyed) (key : RequestKey)
    (event : ResponseEvent) (grant : UInt16) : (s.response key event grant).1.Indexed := by
  have hstep := s.response_step key event grant
  generalize (s.response key event grant).1 = s', (s.response key event grant).2 = effects at hstep
  cases hstep with
  | ignored => exact hs
  | conflict => exact hs
  | changed => exact hs
  | overflowed _ _ r saturated found =>
    exact SameAnswers.indexed (s := s) (.of_insert rfl rfl found (answered_response r)) hs
  | acceptedPending asyncId _ r saturated available found live free same =>
    exact hs.acceptPending found (hkeyed key r found) live free same
  | acceptedFinal _ r saturated available found => exact hs.acceptFinal found (hkeyed key r found)

/-- **Every event keeps the index of async ids exact.** -/
theorem Indexed.reduce (hs : s.Indexed) (hsound : s.Sound) (event : OwnerEvent) :
    (s.reduce event).1.Indexed := by
  cases event with
  | admitRequest payload charge deadline => exact hs.admitRequest hsound payload charge deadline
  | request key progress => exact (s.requestEvent_same key progress).indexed hs
  | prepareFailed key => exact (s.prepareFailed_same key).indexed hs
  | cancel key now => exact (s.cancel_same key now).indexed hs
  | response key answer grant => exact hs.response hsound.keyed key answer grant
  | recoveryHint key => exact (s.recoveryHint_same key).indexed hs
  | advanceTime now => exact (drainDeadlines_same now _ s).indexed hs
  | disconnect network => exact (disconnectAll_same network _ s).indexed hs

theorem indexed_new (generation : GenerationId) (m c target : ℕ) (limits : AdmissionLimits)
    (timeout : Duration) : (new generation m c target limits timeout).Indexed := by
  intro asyncId key
  simp [new, pendingOf]

end GenerationState

/-- In every reachable state the async index is the inverse of the pending async ids, which differ.
-/
theorem asyncIndex_inverse (c : Setup) (events : List OwnerEvent) :
    let s := (c.run events).state
    let pending (asyncId : ℕ) (key : RequestKey) : Prop :=
      ∃ record, s.request key = some record ∧ record.response = .asyncPending asyncId
    ∀ asyncId, (∀ key, s.requestForAsyncId asyncId = some key ↔ pending asyncId key) ∧
      {key | pending asyncId key}.Subsingleton := by
  intro s pending asyncId
  have hs : s.Indexed := c.run_invariant (P := fun run => run.state.Indexed)
    (indexed_new _ _ _ _ _ _) (fun run event hsound h => h.reduce hsound event) events
  have hpending : ∀ key, s.pendingOf key = some asyncId ↔ pending asyncId key := by
    intro key
    simp only [pending, pendingOf, request]
    cases hfound : s.requests.lookup key with
    | none => simp
    | some r =>
      cases hprogress : r.lifecycle.response <;> simp [hprogress, ResponseProgress.pendingId]
  refine ⟨fun key => (hs asyncId key).trans (hpending key), ?_⟩
  intro key hkey key' hkey'
  exact hs.injective ((hpending key).mpr hkey) ((hpending key').mpr hkey')

/-! ## Rejected responses -/

def OwnerEffect.fault : OwnerEffect → Bool
  | .asyncIdConflict _ _ _ | .asyncIdChanged _ _ _ | .creditLedgerOverflow _ _ _ => true
  | _ => false

namespace GenerationState

structure OnlyUnhealthy (s s' : GenerationState) : Prop where
  generation : s'.generation = s.generation
  limits : s'.limits = s.limits
  nextMessageId : s'.nextMessageId = s.nextMessageId
  availableCredits : s'.availableCredits = s.availableCredits
  totalCredits : s'.totalCredits = s.totalCredits
  pendingExtraCredits : s'.pendingExtraCredits = s.pendingExtraCredits
  targetCredits : s'.targetCredits = s.targetCredits
  admittedOperations : s'.admittedOperations = s.admittedOperations
  retainedPayloadBytes : s'.retainedPayloadBytes = s.retainedPayloadBytes
  requests : ∀ key, s'.requests.lookup key = s.requests.lookup key
  asyncIndex : s'.asyncIndex = s.asyncIndex
  deadlines : s'.deadlines = s.deadlines
  nextDeadlineSequence : s'.nextDeadlineSequence = s.nextDeadlineSequence
  tombstoneDrainTimeout : s'.tombstoneDrainTimeout = s.tombstoneDrainTimeout

/-- Whatever a response is booked on has been booked before. -/
def Booked (s : GenerationState) (key : RequestKey) (grant : UInt16) : Prop :=
  ∃ r, s.requests.lookup key = some r ∧ r.creditResponseSeen = true ∧
    r.lifecycle.wireCommitted = true ∧ r.payloadHeld = false ∧
    Machine.saturatingAdd 32 s.totalCredits grant.toNat = s.totalCredits

variable {s s' : GenerationState} {key : RequestKey} {r : OwnedRequest}

theorem answered_eq_self : r.answered = r ↔
    r.creditResponseSeen = true ∧ r.lifecycle.wireCommitted = true ∧ r.payloadHeld = false := by
  constructor
  · intro h
    rw [← h]
    exact ⟨rfl, r.lifecycle.observeResponseCommitment_committed, rfl⟩
  · rintro ⟨hseen, hsent, hpayload⟩
    have hlifecycle : r.lifecycle.observeResponseCommitment = r.lifecycle := if_pos hsent
    cases r
    simp_all [OwnedRequest.answered]

theorem overflowed_unchanged_iff {grant : UInt16} {saturated : Bool}
    (found : s.requests.lookup key = some r) :
    OnlyUnhealthy s { (s.credited r grant saturated s.availableCredits).put key r.answered with
      unhealthy := true } ↔ s.Booked key grant := by
  constructor
  · intro h
    have hrecord := h.requests key
    change (s.requests.insert key r.answered).lookup key = _ at hrecord
    rw [AList.lookup_insert, found] at hrecord
    obtain ⟨hseen, hsent, hpayload⟩ := answered_eq_self.mp (Option.some.inj hrecord)
    have htotal := h.totalCredits
    change Machine.saturatingAdd 32 (s.settledTotal r) grant.toNat = _ at htotal
    rw [settledTotal, if_pos hseen] at htotal
    exact ⟨r, found, hseen, hsent, hpayload, htotal⟩
  · rintro ⟨r', found', hseen, hsent, hpayload, htotal⟩
    obtain rfl : r = r' := Option.mem_unique found found'
    have hrecord : r.answered = r := answered_eq_self.mpr ⟨hseen, hsent, hpayload⟩
    constructor
    case totalCredits =>
      show Machine.saturatingAdd 32 (s.settledTotal r) grant.toNat = s.totalCredits
      rw [settledTotal, if_pos hseen]
      exact htotal
    case pendingExtraCredits =>
      show s.settledExtra r = s.pendingExtraCredits
      rw [settledExtra, if_pos hseen]
    case retainedPayloadBytes =>
      show s.retainedPayloadBytes - r.heldBytes = s.retainedPayloadBytes
      simp [OwnedRequest.heldBytes, hpayload]
    case requests =>
      intro k
      show (s.requests.insert key r.answered).lookup k = s.requests.lookup k
      rw [Table.lookup_insert_eq, hrecord]
      split
      · rename_i hk
        rw [hk, found]
      · rfl
    all_goals rfl

end GenerationState

/-- A rejected response leaves everything but the health flag exactly when its grant fits, its async
id is refused first, or there is nothing left to book. -/
theorem rejected_unchanged_iff (c : Setup) (events : List OwnerEvent) (key : RequestKey)
    (event : ResponseEvent) (grant : UInt16)
    (rejected : ∃ effect ∈ ((c.run events).state.reduce (.response key event grant)).2,
      effect.fault = true) :
    let s := (c.run events).state
    s.OnlyUnhealthy (s.reduce (.response key event grant)).1 ↔
      s.availableCredits + grant.toNat < 2 ^ 32 ∨ (s.asyncConflict key event).isSome ∨
      (∃ r, s.requests.lookup key = some r ∧ (asyncChange event r.lifecycle.response).isSome) ∨
      s.Booked key grant := by
  intro s
  have hstep := s.response_step key event grant
  change ∃ effect ∈ (s.response key event grant).2, _ at rejected
  change s.OnlyUnhealthy (s.response key event grant).1 ↔ _
  generalize (s.response key event grant).1 = s', (s.response key event grant).2 = effects at *
  cases hstep with
  | ignored _ _ effect told =>
    rcases told with rfl | rfl | rfl <;> simp [OwnerEffect.fault] at rejected
  | conflict asyncId existing _ taken other =>
    refine ⟨fun _ => .inr (.inl ?_), fun _ => ?_⟩
    · simp [asyncConflict, taken, other]
    · constructor <;> intros <;> rfl
  | changed r existing incoming _ found pending other =>
    refine ⟨fun _ => .inr (.inr (.inl ⟨r, found, ?_⟩)), fun _ => ?_⟩
    · simp [asyncChange, pending, other]
    · constructor <;> intros <;> rfl
  | overflowed _ _ r saturated found live free same full =>
    rw [overflowed_unchanged_iff found]
    refine ⟨fun booked => .inr (.inr (.inr booked)), ?_⟩
    rintro (hfits | hconflict | ⟨r', found', hchange⟩ | booked)
    · rw [Machine.checkedAdd_eq_none] at full
      omega
    · simp [free] at hconflict
    · obtain rfl : r = r' := Option.mem_unique found found'
      simp [same] at hchange
    · exact booked
  | acceptedPending asyncId _ r saturated available =>
    simp [acceptPending, OwnerEffect.fault] at rejected
  | acceptedFinal _ r saturated available =>
    unfold GenerationState.acceptFinal at rejected
    dsimp only at rejected
    split at rejected <;> simp [OwnerEffect.fault] at rejected

def fullPool : Setup := ⟨⟨1⟩, 0, 2 ^ 32 - 1, 2 ^ 32 - 1, ⟨8, 1000⟩, 0⟩

def onePending : List OwnerEvent :=
  [.admitRequest 0 1 none, .admitRequest 0 1 none, .response ⟨⟨1⟩, 0⟩ (.pending 7) 1]

theorem rejected_unchanged_onePending :
    (fullPool.run onePending).state.OnlyUnhealthy
      ((fullPool.run onePending).state.reduce (.response ⟨⟨1⟩, 1⟩ (.pending 7) 1)).1 :=
  (rejected_unchanged_iff fullPool onePending ⟨⟨1⟩, 1⟩ (.pending 7) 1
    ⟨.asyncIdConflict 7 ⟨⟨1⟩, 0⟩ ⟨⟨1⟩, 1⟩, by decide, rfl⟩).mpr (.inr (.inl (by decide)))

def withPayload : GenerationState := (fullPool.run [.admitRequest 100 1 none]).state

def overGranted : GenerationState × List OwnerEffect :=
  withPayload.reduce (.response ⟨⟨1⟩, 0⟩ (.pending 7) 2)

/-- A response whose credits overflow is rejected after it has been booked on its request. -/
theorem overflow_changes_state :
    overGranted.2 = [.creditLedgerOverflow ⟨⟨1⟩, 0⟩ (2 ^ 32 - 2) 2, .generationUnhealthy ⟨⟨1⟩, 0⟩] ∧
    withPayload.retainedPayloadBytes = 100 ∧ overGranted.1.retainedPayloadBytes = 0 ∧
    (withPayload.requests.lookup ⟨⟨1⟩, 0⟩).map
        (fun r => (r.creditResponseSeen, r.lifecycle.wireCommitted)) = some (false, false) ∧
    (overGranted.1.requests.lookup ⟨⟨1⟩, 0⟩).map
        (fun r => (r.creditResponseSeen, r.lifecycle.wireCommitted)) = some (true, true) ∧
    ¬ withPayload.OnlyUnhealthy overGranted.1 := by
  refine ⟨by decide, by decide, by decide, by decide, by decide, ?_⟩
  intro h
  exact absurd h.retainedPayloadBytes (by decide)

end Runtime
