import SmbClient.Runtime.Proof.Moves

/-!
# Every event is a chain of moves

`advance_time` and `disconnect` are the events with more than one move; the loop of the former ends
because a round pops an entry and only a caller's entry pushes one.
-/

namespace Runtime

open RequestRecord Machine GenerationState

namespace RequestRecord

variable (r : RequestRecord) (o : TerminalOutcome)

theorem publishOnce_closed : (r.publishOnce o).1.caller ≠ .opened := by
  rcases r.publishOnce_cases o with ⟨-, he⟩ | ⟨hc, he⟩
  · rw [he]
    simp
  · rw [he]
    exact hc

theorem finishWithoutResponse_closed : (r.finishWithoutResponse o).1.caller ≠ .opened := by
  unfold finishWithoutResponse
  split
  · split
    · exact publishOnce_closed _ _
    · exact publishOnce_closed _ _
  · exact publishOnce_closed _ _

end RequestRecord

namespace GenerationState

variable (s : GenerationState) (key : RequestKey)

theorem requestEvent_move (progress : RequestProgress) :
    Move (.request key progress) s (s.requestEvent key progress).2
      (s.requestEvent key progress).1 := by
  unfold requestEvent
  split
  · exact .nothing ⟨rfl, rfl, rfl, rfl, rfl, rfl⟩
  split
  · exact .nothing ⟨rfl, rfl, rfl, rfl, rfl, rfl⟩
  rename_i r hf
  have report : Reports (.request key progress) key r.lifecycle _ _ :=
    .reduce _ (progressEvent progress) (by cases progress <;> simp [progressEvent])
  have hu (h : (r.lifecycle.reduce (progressEvent progress)).1.tombstone = true) :
      r.lifecycle.tombstone = true :=
    (reduce_tombstone h).resolve_right (by cases progress <;> simp [progressEvent])
  dsimp only
  split
  · rw [put_releasePayload]
    refine .touch key r { r with lifecycle := (r.lifecycle.reduce (progressEvent progress)).1,
                                 payloadHeld := false } ?_ (by simp)
    exact touch_report (.request key progress) hf rfl report rfl (fun h => ⟨h, rfl⟩)
      (.sent rfl rfl rfl rfl rfl) (.same rfl rfl rfl rfl rfl rfl rfl rfl rfl)
      (.kept rfl rfl rfl hu rfl)
      rfl ⟨rfl, rfl, rfl, rfl⟩ ⟨rfl, rfl, rfl⟩
  · refine .touch key r
      { r with lifecycle := (r.lifecycle.reduce (progressEvent progress)).1 } ?_ (by simp)
    exact touch_report (.request key progress) hf rfl report rfl (fun h => ⟨h, rfl⟩)
      (.kept rfl rfl rfl rfl rfl) (.same rfl rfl rfl rfl rfl rfl rfl rfl rfl)
      (.kept rfl rfl rfl hu rfl)
      rfl ⟨rfl, rfl, rfl, rfl⟩ ⟨rfl, rfl, rfl⟩

theorem touch_cancelSeen {s : GenerationState} {key : RequestKey} {r : OwnedRequest}
    {now : MonotonicTime} (hf : s.requests.lookup key = some r)
    (hc : r.lifecycle.caller ≠ .opened) :
    Touch s (.cancel key now) key r { r with cancelSeen := true } [.duplicateCancel key]
      (s.put key { r with cancelSeen := true }) where
  aims := rfl
  found := hf
  requests := rfl
  frame := ⟨rfl, rfl, rfl, rfl⟩
  terms := ⟨rfl, rfl, rfl⟩
  plans := rfl
  recordKey := rfl
  committed := id
  waiting := id
  final := id
  cancelSeen _ := .inr hc
  caller := .inl ⟨rfl, rfl⟩
  answered h := nomatch h
  held h := ⟨h, rfl⟩
  hold := .kept rfl rfl rfl rfl rfl
  credit := .same rfl rfl rfl rfl rfl rfl rfl rfl rfl
  deadline := .kept rfl rfl rfl id rfl

theorem cancel_move (now : MonotonicTime) :
    Move (.cancel key now) s (s.cancel key now).2 (s.cancel key now).1 := by
  unfold cancel
  split
  · exact .nothing ⟨rfl, rfl, rfl, rfl, rfl, rfl⟩
  split
  · exact .nothing ⟨rfl, rfl, rfl, rfl, rfl, rfl⟩
  rename_i r hf
  split
  · exact .nothing ⟨rfl, rfl, rfl, rfl, rfl, rfl⟩
  split
  · rename_i hc
    have hc : r.lifecycle.caller ≠ .opened := by
      simpa [callerIsOpen] using hc
    exact .touch key r _ (touch_cancelSeen hf hc) (by simp)
  · rename_i ho
    have ho : r.lifecycle.caller = .opened := by
      simpa [callerIsOpen] using ho
    obtain ⟨r', -, h⟩ := touch_settleUnanswered (.cancel key now) hf rfl
      (.reduce _ .cancel (by simp)) now true [.cancelControlQueued key] rfl ho
      (r.lifecycle.finishWithoutResponse_closed .cancelled)
      (fun h => (reduce_tombstone h).imp_right And.left) ⟨rfl, rfl, rfl, rfl, rfl, rfl⟩
    exact .touch key r r' h (by simp)

theorem prepareFailed_move :
    Move (.prepareFailed key) s (s.prepareFailed key).2 (s.prepareFailed key).1 := by
  unfold prepareFailed
  split
  · exact .nothing ⟨rfl, rfl, rfl, rfl, rfl, rfl⟩
  split
  · exact .nothing ⟨rfl, rfl, rfl, rfl, rfl, rfl⟩
  rename_i r hf
  split
  · exact .nothing ⟨rfl, rfl, rfl, rfl, rfl, rfl⟩
  rename_i hc
  have hc : r.lifecycle.wireCommitted = false := by simpa using hc
  obtain ⟨r', -, h⟩ := touch_rollback (.prepareFailed key) hf rfl
    ⟨told_publishOnce (o := .preparationFailed) rfl rfl rfl fun _ => hc,
      fun h => waiting_publishOnce h _, fun h => (r.lifecycle.publishOnce_response _).trans h,
      fun h => nomatch publishOnce_publication h⟩
    r.cancelSeen [] .inl (.inl rfl) hc (fun h => r.lifecycle.publishOnce_tombstone ▸ h)
    ⟨rfl, rfl, rfl, rfl, rfl, rfl⟩
  exact .touch key r r' h (by simp)

theorem recoveryHint_move :
    Move (.recoveryHint key) s (s.recoveryHint key).2 (s.recoveryHint key).1 := by
  unfold recoveryHint
  split
  · exact .nothing ⟨rfl, rfl, rfl, rfl, rfl, rfl⟩
  split
  · exact .nothing ⟨rfl, rfl, rfl, rfl, rfl, rfl⟩
  rename_i r hf
  exact .touch key r _ (touch_release _ hf rfl (.reduce _ (.recoveryHint key) (by simp))
    fun h => (reduce_tombstone h).resolve_right (by simp)) (by simp)

theorem observeCredits_eq (r : OwnedRequest) (grant : UInt16) :
    ∃ saturated, (saturated = false → s.saturated = false ∧
        s.settledTotal r + grant.toNat ≤ maxValue 32) ∧
      s.observeCredits r grant =
        ({ s with
           totalCredits := saturatingAdd 32 (s.settledTotal r) grant.toNat
           pendingExtraCredits := s.settledExtra r
           saturated },
         { r with creditResponseSeen := true }) := by
  unfold observeCredits settledTotal settledExtra
  split
  · rename_i h
    refine ⟨s.saturated || decide (maxValue 32 < s.totalCredits + grant.toNat), ?_, ?_⟩
    · simp
    · rw [← h]
  · refine ⟨s.saturated || decide (s.pendingExtraCredits < r.requestedExtraCredits) ||
      decide (s.totalCredits < r.creditCharge.toNat) ||
      decide (maxValue 32 < s.totalCredits - r.creditCharge.toNat + grant.toNat), ?_, rfl⟩
    simp +contextual

theorem forgetAsync_eq (previous : ResponseProgress) :
    ∃ asyncIndex, s.forgetAsync previous = { s with asyncIndex } := by
  cases previous with
  | asyncPending asyncId => exact ⟨s.asyncIndex.erase asyncId, rfl⟩
  | none | final => exact ⟨s.asyncIndex, rfl⟩

def credited (r : OwnedRequest) (grant : UInt16) (saturated : Bool) (available : ℕ) :
    GenerationState :=
  { s with
    totalCredits := saturatingAdd 32 (s.settledTotal r) grant.toNat
    pendingExtraCredits := s.settledExtra r
    saturated
    retainedPayloadBytes := s.retainedPayloadBytes - r.heldBytes
    underflow := s.underflow || decide (s.retainedPayloadBytes < r.heldBytes)
    availableCredits := available }

end GenerationState

def OwnedRequest.answered (r : OwnedRequest) : OwnedRequest :=
  { r with
    creditResponseSeen := true
    lifecycle := r.lifecycle.observeResponseCommitment
    payloadHeld := false }

namespace RequestRecord

variable (l : RequestRecord)

theorem observeResponseCommitment_committed : l.observeResponseCommitment.wireCommitted = true := by
  unfold observeResponseCommitment
  split
  · assumption
  · rfl

theorem observeResponseCommitment_eq :
    ∃ send, l.observeResponseCommitment = { l with send } := by
  unfold observeResponseCommitment
  split
  · exact ⟨l.send, rfl⟩
  · exact ⟨.complete, rfl⟩

theorem Told.of_answered {l l' : RequestRecord} {effect : ReduceEffect}
    (h : Told l.observeResponseCommitment l' effect) :
    Told l l' effect ∧ l'.wireCommitted = true := by
  have hc := h.committed l.observeResponseCommitment_committed
  obtain ⟨send, he⟩ := l.observeResponseCommitment_eq
  refine ⟨⟨by rw [h.key, he], fun _ => hc, ?_⟩, hc⟩
  rcases h.caller with ⟨hn, hc'⟩ | ⟨o, heff, ho, hc', hns⟩
  · exact .inl ⟨hn, by rw [hc', he]⟩
  refine .inr ⟨o, heff, by rw [he] at ho; exact ho, hc', fun h' => ?_⟩
  rw [l.observeResponseCommitment_committed] at hns
  exact absurd (hns h') (by simp)

theorem waiting_observeResponseCommitment (h : l.Waiting) :
    l.observeResponseCommitment.Waiting := by
  obtain ⟨send, he⟩ := l.observeResponseCommitment_eq
  rw [he]
  exact h

theorem reduce_finalResponse {key : RequestKey} (hk : l.key = key) :
    (l.reduce (.finalResponse key)).1.caller ≠ .opened ∧
      (l.reduce (.finalResponse key)).1.tombstone = false ∧
      (l.reduce (.finalResponse key)).1.response = .final := by
  subst hk
  simp only [reduce, ne_eq, not_true_eq_false]
  exact ⟨publishOnce_closed _ _, publishOnce_tombstone _, publishOnce_response _ _⟩

end RequestRecord

section
variable {s : GenerationState} {key : RequestKey} {r : OwnedRequest} {grant : UInt16}
  {saturated : Bool}

theorem touch_overflow {answer : ResponseEvent} (hf : s.requests.lookup key = some r)
    (hsat : saturated = false → s.saturated = false) :
    Touch s (.response key answer grant) key r r.answered
      [.creditLedgerOverflow key s.availableCredits grant, .generationUnhealthy key]
      { (s.credited r grant saturated s.availableCredits).put key r.answered with
        unhealthy := true } where
  aims := rfl
  found := hf
  requests := rfl
  frame := ⟨rfl, rfl, rfl, rfl⟩
  terms := ⟨rfl, rfl, rfl⟩
  plans := rfl
  recordKey := by
    obtain ⟨send, he⟩ := r.lifecycle.observeResponseCommitment_eq
    rw [OwnedRequest.answered, he]
  committed _ := r.lifecycle.observeResponseCommitment_committed
  waiting := r.lifecycle.waiting_observeResponseCommitment
  final h := by
    obtain ⟨send, he⟩ := r.lifecycle.observeResponseCommitment_eq
    rw [OwnedRequest.answered, he]
    exact h
  cancelSeen := .inl
  caller := by
    obtain ⟨send, he⟩ := r.lifecycle.observeResponseCommitment_eq
    rw [OwnedRequest.answered, he]
    exact .inl ⟨rfl, rfl⟩
  answered h := nomatch h
  held h := ⟨h, rfl⟩
  hold := .sent rfl rfl rfl rfl rfl
  credit := .overflowed ⟨answer, grant, rfl⟩ rfl hsat
    r.lifecycle.observeResponseCommitment_committed rfl rfl rfl rfl rfl
  deadline :=
    { heap := fun _ h => h
      pushed := fun _ h => .inl h
      unhealthy := fun _ => rfl
      raised := fun _ => .inr (.inl ⟨answer, grant, rfl⟩)
      version := .inl rfl
      opened := fun _ => rfl
      tombstone := fun h => .inl ⟨by
        obtain ⟨send, he⟩ := r.lifecycle.observeResponseCommitment_eq
        rw [OwnedRequest.answered, he] at h
        exact h, rfl⟩
      wireCancels := .inl rfl }

theorem touch_granted {answer : ResponseEvent} {available : ℕ} {effect : ReduceEffect}
    {after : List OwnerEffect} {r' : OwnedRequest} {s' : GenerationState}
    (hf : s.requests.lookup key = some r) (hlive : r.lifecycle.response ≠ .final)
    (ht : RequestRecord.Told r.lifecycle.observeResponseCommitment r'.lifecycle effect)
    (hw : r.lifecycle.observeResponseCommitment.Waiting → r'.lifecycle.Waiting)
    (hr : s'.requests = s.requests.insert key r') (hc : r'.cancelSeen = r.cancelSeen)
    (held : r'.admissionHeld = true →
      r.admissionHeld = true ∧ r'.creditObligation = r.creditObligation)
    (hold : HoldStep s s' r r')
    (hsat : s'.saturated = false → s.saturated = false ∧
      s.settledTotal r + grant.toNat ≤ maxValue 32)
    (hob : r'.creditObligation = true → r.creditObligation = true)
    (hu : s.unhealthy = true → s'.unhealthy = true)
    (hv : r'.deadlineVersion = r.deadlineVersion ∨
      r'.deadlineVersion = r.deadlineVersion + 1 ∧ r'.lifecycle.response = .final)
    (hopen : r'.lifecycle.caller = .opened → r'.deadlineVersion = r.deadlineVersion)
    (htomb : r'.lifecycle.tombstone = true →
      r.lifecycle.tombstone = true ∧ r'.deadlineVersion = r.deadlineVersion)
    (hq : Quiet after) (ha : s'.availableCredits = s.availableCredits + grant.toNat)
    (htot : s'.totalCredits = saturatingAdd 32 (s.settledTotal r) grant.toNat)
    (hpend : s'.pendingExtraCredits = s.settledExtra r) (hseen : r'.creditResponseSeen = true)
    (hd : s'.deadlines = s.deadlines) (hs : Frame s s') (hm : SameTerms r r') :
    Touch s (.response key answer grant) key r r'
      (.creditGrantApplied key grant available :: .request key effect :: after) s' := by
  obtain ⟨ht', hcom⟩ := ht.of_answered
  have hwait := fun h => hw (r.lifecycle.waiting_observeResponseCommitment h)
  show Touch _ _ _ _ _ ([.creditGrantApplied key grant available] ++ .request key effect :: after) _
  refine touch_told ⟨ht', hwait, fun h => absurd h hlive, fun _ => ⟨answer, grant, rfl⟩⟩ hf rfl
    (fun h => .inl (hc ▸ h)) rfl rfl held hold ?_ ?_ hq.publications hq.plans hr hs hm
  · exact .granted grant ⟨answer, rfl⟩ hlive ha htot hpend hsat hob hseen hcom hq.rollbacks
      (congrArg ((key, grant) :: ·) hq.grants) hq.overflows
  · exact
      { heap := fun e h => hd ▸ h
        pushed := fun e h => .inl (hd ▸ h)
        unhealthy := hu
        raised := fun _ => .inr (.inl ⟨answer, grant, rfl⟩)
        version := hv.imp_right fun h => ⟨h.1, .inr h.2⟩
        opened := hopen
        tombstone := fun h => .inl (htomb h)
        wireCancels := .inl hq.wireCancels }

variable (hf : s.requests.lookup key = some r) (hlive : r.lifecycle.response ≠ .final)
  (hsat : saturated = false → s.saturated = false ∧ s.settledTotal r + grant.toNat ≤ maxValue 32)
include hf hlive hsat

theorem touch_acceptPending (asyncId : ℕ) :
    ∃ r', Touch s (.response key (.pending asyncId) grant) key r r'
      (.creditGrantApplied key grant (s.availableCredits + grant.toNat) ::
        ((s.credited r grant saturated (s.availableCredits + grant.toNat)).acceptPending key
          r.answered asyncId).2)
      ((s.credited r grant saturated (s.availableCredits + grant.toNat)).acceptPending key
        r.answered asyncId).1 := by
  have ht := r.lifecycle.observeResponseCommitment.told_reduce (.asyncPending key asyncId)
  have hw := fun h => waiting_reduce
    (r := r.lifecycle.observeResponseCommitment) h (.asyncPending key asyncId)
  have hu (h : (r.lifecycle.observeResponseCommitment.reduce
      (.asyncPending key asyncId)).1.tombstone = true) : r.lifecycle.tombstone = true := by
    obtain ⟨send, he⟩ := r.lifecycle.observeResponseCommitment_eq
    have := (reduce_tombstone h).resolve_right (by simp)
    rwa [he] at this
  exact ⟨{ r.answered with lifecycle :=
      (r.lifecycle.observeResponseCommitment.reduce (.asyncPending key asyncId)).1 },
    touch_granted hf hlive ht hw rfl rfl (fun h => ⟨h, rfl⟩) (.sent rfl rfl rfl rfl rfl) hsat id id
      (.inl rfl) (fun _ => rfl) (fun h => ⟨hu h, rfl⟩)
      ⟨rfl, rfl, rfl, rfl, rfl, rfl⟩ rfl rfl rfl rfl rfl ⟨rfl, rfl, rfl, rfl⟩ ⟨rfl, rfl, rfl⟩⟩

theorem touch_acceptFinal (hk : r.lifecycle.key = key) (previous : ResponseProgress) :
    ∃ r', Touch s (.response key .final grant) key r r'
      (.creditGrantApplied key grant (s.availableCredits + grant.toNat) ::
        ((s.credited r grant saturated (s.availableCredits + grant.toNat)).acceptFinal key
          r.answered previous).2)
      ((s.credited r grant saturated (s.availableCredits + grant.toNat)).acceptFinal key
        r.answered previous).1 := by
  have ht := r.lifecycle.observeResponseCommitment.told_reduce (.finalResponse key)
  have hw := fun h => waiting_reduce
    (r := r.lifecycle.observeResponseCommitment) h (.finalResponse key)
  obtain ⟨hclosed, htomb, hfinal⟩ := r.lifecycle.observeResponseCommitment.reduce_finalResponse
    (show _ = key by obtain ⟨send, he⟩ := r.lifecycle.observeResponseCommitment_eq; rw [he, hk])
  obtain ⟨asyncIndex, hi⟩ := (s.credited r grant saturated
    (s.availableCredits + grant.toNat)).forgetAsync_eq previous
  -- The payload was given back with the credits, so releasing it again takes nothing.
  have hunder : ∀ b : Bool, (s.underflow || decide (s.retainedPayloadBytes < r.heldBytes) ||
      decide (s.retainedPayloadBytes - r.heldBytes < 0) || b) =
      (s.underflow || decide (s.retainedPayloadBytes < r.heldBytes) || b) := by
    simp
  unfold acceptFinal
  dsimp only
  rw [hi]
  split
  · rename_i version hversion
    obtain ⟨-, rfl⟩ := checkedAdd_eq_some.mp hversion
    rw [put_releaseRequestOwnership]
    exact ⟨_, touch_granted hf hlive ht hw rfl rfl (fun h => nomatch h)
      (.dropped rfl rfl (hunder _) rfl rfl) hsat (fun h => nomatch h) id (.inr ⟨rfl, hfinal⟩)
      (fun h => absurd h hclosed) (fun h => absurd (htomb ▸ h) Bool.false_ne_true)
      ⟨rfl, rfl, rfl, rfl, rfl, rfl⟩ rfl rfl rfl rfl rfl ⟨rfl, rfl, rfl, rfl⟩ ⟨rfl, rfl, rfl⟩⟩
  · rw [put_releaseRequestOwnership]
    exact ⟨_, touch_granted hf hlive ht hw rfl rfl (fun h => nomatch h)
      (.dropped rfl rfl (hunder _) rfl rfl) hsat (fun h => nomatch h) (fun _ => rfl) (.inl rfl)
      (fun h => absurd h hclosed) (fun h => absurd (htomb ▸ h) Bool.false_ne_true)
      ⟨rfl, rfl, rfl, rfl, rfl, rfl⟩ rfl rfl rfl rfl rfl ⟨rfl, rfl, rfl, rfl⟩ ⟨rfl, rfl, rfl⟩⟩

end

namespace GenerationState

variable (s : GenerationState) (key : RequestKey)

def Keyed (s : GenerationState) : Prop :=
  ∀ key r, s.requests.lookup key = some r → r.lifecycle.key = key

/-- A response touches its own request only. -/
theorem response_move (hk : s.Keyed) (answer : ResponseEvent) (grant : UInt16) :
    Move (.response key answer grant) s (s.response key answer grant).2
      (s.response key answer grant).1 := by
  unfold response
  split
  · exact .nothing ⟨rfl, rfl, rfl, rfl, rfl, rfl⟩
  split
  · exact .sick ⟨rfl, rfl, rfl, rfl, rfl, rfl⟩
  split
  · exact .nothing ⟨rfl, rfl, rfl, rfl, rfl, rfl⟩
  rename_i r hf
  split
  · exact .sick ⟨rfl, rfl, rfl, rfl, rfl, rfl⟩
  split
  · exact .nothing ⟨rfl, rfl, rfl, rfl, rfl, rfl⟩
  rename_i hlive
  obtain ⟨saturated, hsat, ho⟩ := s.observeCredits_eq r grant
  rw [ho]
  dsimp only [takePayload]
  split
  · exact .touch key r r.answered (touch_overflow hf fun h => (hsat h).1) (by simp)
  rename_i available ha
  obtain ⟨-, rfl⟩ := checkedAdd_eq_some.mp ha
  cases answer with
  | pending asyncId =>
    obtain ⟨r', h⟩ := touch_acceptPending hf hlive hsat asyncId
    exact .touch key r r' h (by simp)
  | final =>
    obtain ⟨r', h⟩ := touch_acceptFinal hf hlive hsat (hk key r hf) r.lifecycle.response
    exact .touch key r r' h (by simp)

/-! ## Admission -/

theorem creditRequest_ge (charge : UInt16) : charge.toNat ≤ s.creditRequest charge := by
  have h16 : charge.toNat < 2 ^ 16 := charge.toNat_lt
  simp only [creditRequest, saturatingAdd, maxValue]
  omega

theorem admission_of_not_rejected {payload : ℕ} {charge : UInt16}
    (h : s.admissionRejection payload charge = none) :
    0 < charge.toNat ∧ s.admittedOperations < s.limits.maxOperations ∧
      s.retainedPayloadBytes + payload ≤ s.limits.maxPayloadBytes ∧
      charge.toNat ≤ s.availableCredits := by
  unfold admissionRejection at h
  split at h
  · cases h
  rename_i hcharge
  split at h
  · cases h
  split at h
  · cases h
  rename_i hbytes
  split at h
  · cases h
  refine ⟨?_, by omega, ?_, by omega⟩
  · have : charge.toNat ≠ 0 := fun h0 => hcharge (by
      apply UInt16.toNat_inj.mp
      rw [h0]
      rfl)
    omega
  · cases hsum : checkedAdd 64 s.retainedPayloadBytes payload with
    | none => simp [hsum] at hbytes
    | some total =>
      obtain ⟨-, rfl⟩ := checkedAdd_eq_some.mp hsum
      simpa [hsum] using hbytes

/-- An admission admits one plan, or leaves everything as it is. -/
theorem admitRequest_move (payload : ℕ) (charge : UInt16) (deadline : Option MonotonicTime) :
    Move (.admitRequest payload charge deadline) s [(s.admitRequest payload charge deadline).2]
      (s.admitRequest payload charge deadline).1 := by
  unfold admitRequest
  split
  · exact .nothing ⟨rfl, rfl, rfl, rfl, rfl, rfl⟩
  rename_i hrej
  split
  · exact .nothing ⟨rfl, rfl, rfl, rfl, rfl, rfl⟩
  rename_i id hid
  obtain ⟨hpos, hops, hbytes, hcredits⟩ := s.admission_of_not_rejected hrej
  have hreq := s.creditRequest_ge charge
  have hunder : (s.underflow || decide (s.availableCredits < charge.toNat) ||
      decide (s.creditRequest charge < charge.toNat)) = s.underflow := by
    rw [decide_eq_false (not_lt.mpr hcredits), decide_eq_false (not_lt.mpr hreq)]
    simp
  have hsat : (s.saturated || decide (maxValue 32 <
        s.pendingExtraCredits + (s.creditRequest charge - charge.toNat))) = false →
      s.saturated = false ∧ s.pendingExtraCredits + (s.creditRequest charge - charge.toNat) ≤
        maxValue 32 := by
    intro h
    rw [Bool.or_eq_false_iff, decide_eq_false_iff_not, not_lt] at h
    exact h
  -- The version of a new record is zero, so its first deadline is always scheduled.
  have hfirst : checkedAdd 64 0 1 = some 1 := by decide
  cases deadline with
  | none =>
    refine .admitted ⟨⟨s.generation, id⟩, payload, charge, s.creditRequest charge, none⟩ payload
      charge none rfl ⟨rfl, rfl, rfl⟩ rfl ?_
    exact ⟨rfl, hid, hops, hbytes, ⟨hpos, hcredits⟩, rfl, rfl, rfl, rfl, rfl, rfl, rfl, rfl,
      hsat, rfl, rfl, hunder, rfl, by simp⟩
  | some d =>
    dsimp only [scheduleDeadline]
    rw [AList.lookup_insert]
    dsimp only
    rw [hfirst]
    refine .admitted ⟨⟨s.generation, id⟩, payload, charge, s.creditRequest charge, some d⟩ payload
      charge (some d) rfl ⟨rfl, rfl, rfl⟩ rfl ?_
    refine ⟨rfl, hid, hops, hbytes, ⟨hpos, hcredits⟩, by simp [PreparationPlan.record], rfl, rfl,
      rfl, rfl, rfl, rfl, rfl, hsat, rfl, rfl, hunder, rfl, fun e => ?_⟩
    simp [or_comm]

/-! ## Time -/

theorem expire_move {now : MonotonicTime} {entry : DeadlineEntry}
    (hpeek : s.deadlines.peek = some entry) (hdue : entry.instant ≤ now) :
    Move (.advanceTime now) s ({ s with deadlines := s.deadlines.pop }.expire now entry).2
      ({ s with deadlines := s.deadlines.pop }.expire now entry).1 := by
  have stale : (∀ r, s.requests.lookup entry.key = some r → r.deadlineVersion = entry.version →
      (entry.kind = .caller → r.lifecycle.caller ≠ .opened) ∧
      (entry.kind = .tombstone → r.lifecycle.Waiting → r.lifecycle.tombstone = true →
        s.unhealthy = true)) → Move (.advanceTime now) s [.staleDeadlineIgnored entry.key]
      { s with deadlines := s.deadlines.pop } := fun h =>
    .stale now entry s.unhealthy rfl hpeek hdue ⟨rfl, rfl, rfl, rfl, rfl, rfl⟩ id h rfl
  unfold expire
  split
  · rename_i hf
    exact stale fun r hr => by rw [hf] at hr; cases hr
  · rename_i r hf
    have only : ∀ r', s.requests.lookup entry.key = some r' → r' = r := fun r' hr' => by
      rw [show s.requests.lookup entry.key = some r from hf] at hr'
      exact (Option.some.inj hr').symm
    split
    · rename_i hv
      exact stale fun r' hr' hv' => absurd (only r' hr' ▸ hv') hv
    · rename_i hv
      have hv : r.deadlineVersion = entry.version := not_not.mp hv
      split
      · rename_i hkind
        split
        · rename_i hc
          have hc : r.lifecycle.caller ≠ .opened := by
            simpa [callerIsOpen] using hc
          refine stale fun r' hr' _ => ⟨fun _ => only r' hr' ▸ hc, fun h => ?_⟩
          rw [hkind] at h
          cases h
        · rename_i ho
          have ho : r.lifecycle.caller = .opened := by
            simpa [callerIsOpen] using ho
          have hclosed := r.lifecycle.finishWithoutResponse_closed .timedOut
          obtain ⟨r', hl, h⟩ := touch_settleUnanswered (.advanceTime now) hf trivial
            (.reduce _ .deadline (by simp)) now r.cancelSeen [] rfl ho hclosed
            (fun h => (reduce_tombstone h).imp_right And.left) ⟨rfl, rfl, rfl, rfl, rfl, rfl⟩
          exact .expired now entry r r' rfl hpeek hdue hkind hv ho
            (by rw [hl]; exact hclosed) h
      · rename_i hkind
        have hne : entry.kind ≠ .caller := by simp [hkind]
        split
        · exact .stale now entry true rfl hpeek hdue ⟨rfl, rfl, rfl, rfl, rfl, rfl⟩ (fun _ => rfl)
            (fun r' _ _ => ⟨fun h => absurd h hne, fun _ _ _ => rfl⟩) rfl
        · rename_i hn
          refine stale fun r' hr' _ => ⟨fun h => absurd h hne, fun _ hw ht => ?_⟩
          rw [only r' hr'] at hw ht
          exact absurd ⟨ht, hw ht⟩ hn

theorem drainDeadlines_moves (now : MonotonicTime) : ∀ (fuel : ℕ) (s : GenerationState),
    Moves (.advanceTime now) s (drainDeadlines now fuel s).2 (drainDeadlines now fuel s).1
  | 0, s => .nil s
  | fuel + 1, s => by
    unfold drainDeadlines
    split
    · exact .nil s
    rename_i entry hpeek
    split
    · rename_i hdue
      exact .cons (s.expire_move hpeek hdue) (drainDeadlines_moves now fuel _)
    · exact .nil s

/-! ## Disconnect -/

theorem disconnectRequest_moves (network : Option NetworkFailure) :
    Moves (.disconnect network) s (s.disconnectRequest network key).2
      (s.disconnectRequest network key).1 := by
  unfold disconnectRequest
  split
  · rename_i hf
    have : s.releaseRequestOwnership key = s := by
      simp only [releaseRequestOwnership, releasePayload, hf]
    rw [this]
    exact .nil s
  · rename_i r hf
    exact .single (.touch key r _
      (touch_release _ hf trivial (.reduce _ (.disconnect network) (by simp))
        fun h => (reduce_tombstone h).resolve_right (by simp)) (by simp))

end GenerationState

theorem Moves.append {event : OwnerEvent} {s s' s'' : GenerationState}
    {effects rest : List OwnerEffect} (h : Moves event s effects s')
    (h' : Moves event s' rest s'') : Moves event s (effects ++ rest) s'' := by
  induction h with
  | nil => exact h'
  | cons move _ ih =>
    rw [List.append_assoc]
    exact .cons move (ih h')

namespace GenerationState

theorem disconnectAll_moves (network : Option NetworkFailure) :
    ∀ (keys : List RequestKey) (s : GenerationState),
      Moves (.disconnect network) s (disconnectAll network keys s).2
      (disconnectAll network keys s).1
  | [], s => .nil s
  | key :: keys, s =>
    (s.disconnectRequest_moves key network).append (disconnectAll_moves network keys _)

/-- **Every event is a sequence of moves.** -/
theorem reduce_moves {s : GenerationState} (hk : s.Keyed) (event : OwnerEvent) :
    Moves event s (s.reduce event).2 (s.reduce event).1 := by
  cases event with
  | admitRequest payload charge deadline =>
    exact .single (s.admitRequest_move payload charge deadline)
  | request key progress => exact .single (s.requestEvent_move key progress)
  | prepareFailed key => exact .single (s.prepareFailed_move key)
  | cancel key now => exact .single (s.cancel_move key now)
  | response key answer grant => exact .single (s.response_move key hk answer grant)
  | recoveryHint key => exact .single (s.recoveryHint_move key)
  | advanceTime now => exact drainDeadlines_moves now _ s
  | disconnect network => exact disconnectAll_moves network _ s

end GenerationState

end Runtime
