import SmbClient.Runtime.Proof.Acts

/-!
# The write pump, the timer and the teardown as acts

A poll of the active write hands bytes to the transport and reports them in one step. The teardown
withdraws every queued frame before it disconnects, so it denies the wire to nobody who may still be
sent (`teardown_acts`).
-/

namespace Runtime

/-! ## Reports -/

namespace RequestAuthority

variable {a : RequestAuthority} {members : List RequestKey} {key : RequestKey}

theorem progress_cancelled (a : RequestAuthority) (members : List RequestKey)
    (event : RequestProgress) : (a.progress members event).cancelled = a.cancelled := by
  induction members generalizing a with
  | nil => rfl
  | cons member members ih => exact ih _

theorem progress_committed {event : RequestProgress} (hs : a.state.Sound)
    (hk : ∀ k ∈ members, a.state.isKnown k = true)
    (he : event = .writeComplete ∨ ∃ bytes, 0 < bytes ∧ event = .writeProgress bytes) :
    ∀ k ∈ members, (a.progress members event).state.isCommitted k = true := by
  induction members generalizing a with
  | nil => simp
  | cons member members ih =>
    have hfirst := ((a.progress_calm [member] event).still hs).onward
    have hsound := ((a.progress_calm [member] event).still hs).sound hs
    intro k hmem
    rcases List.mem_cons.mp hmem with rfl | hmem
    · have hone := committed_progress hs (hk k List.mem_cons_self) he
      exact (((a.progress [k] event).progress_calm members event).still hsound).onward.committed k
        hone
    · exact ih hsound (fun k hk' => hfirst.known k (hk k (List.mem_cons_of_mem _ hk'))) k hmem

end RequestAuthority

open RequestAuthority

section
variable {clean whole : Prop} {d d' : Desk} {a : RequestAuthority} {key : RequestKey}

theorem Acts.idle (acts : Acts clean whole d d') (h : d'.authority.Still a)
    (hidle : d'.active = none) : Acts clean whole d { d' with authority := a } :=
  acts.tail (.still a h fun _ hw => nomatch hidle.symm.trans hw)

theorem Acts.cancelled (now : MonotonicTime) (acts : Acts clean whole d d') (hf : d.Filed) :
    Acts clean whole d { d' with
      authority := d'.hand.foldl (fun a member => a.settle (.cancel member now)) d'.authority
      hand := [] } := by
  obtain ⟨authority, hand, order, queue, active, handed⟩ := d'
  induction hand generalizing authority with
  | nil => exact acts
  | cons member members ih =>
    have hsound := (acts.filed hf).sound
    refine ih _ (acts.ended (a := authority.settle (.cancel member now)) hf rfl
      (authority.settle_fed _) (by simp) (fun _ _ h => h.symm) fun hopen => ?_)
    rw [(authority.settle_fed _).state, closed_cancel hsound] at hopen
    cases hopen

theorem Acts.withdrawnAll (acts : Acts clean whole d d') :
    ∃ hand, Acts clean whole d { d' with hand, queue := [] } := by
  obtain ⟨authority, hand, order, queue, active, handed⟩ := d'
  induction queue generalizing hand with
  | nil => exact ⟨hand, acts⟩
  | cons command queue ih => exact ih _ (acts.tail (.withdrawn [] queue command rfl))

theorem Acts.settleDeferred (acts : Acts clean whole d d') (hf : d.Filed)
    (hc : d'.state.isCommitted key = true) :
    Acts clean whole d { d' with authority := d'.authority.settleDeferred key } := by
  unfold RequestAuthority.settleDeferred
  split
  · exact acts
  rename_i now h
  have hcalm := acts.calm hf (a := { d'.authority with
    deferredCancellations := d'.authority.deferredCancellations.erase key })
    ⟨fun _ => .of_state rfl rfl (List.Subset.refl _) id, rfl, rfl⟩
  refine hcalm.tail (.settled _ _ (settle_fed _ (.cancel key now)) (by simp)
    fun _ k hk _ huncommitted => ?_)
  obtain rfl : key = k := hk
  exact absurd hc (Bool.eq_false_iff.mp huncommitted)

end

namespace OwnerTask

variable {clean whole : Prop} {s : OwnerTask}

/-! ## The write pump -/

theorem dispatchNext_acts (hf : (s.desk []).Filed) :
    Acts clean whole (s.desk []) (s.dispatchNext.desk []) := by
  unfold dispatchNext
  split
  · exact .refl _
  · exact .refl _
  · rename_i command queue hidle hqueue
    split
    · have hstill := (s.authority.progress_calm command.members .queued).still hf.sound
      exact .single (.dispatched command queue _ hqueue hidle (hstill.trans
        (.of_state rfl rfl (List.Subset.refl _) id)) (AList.lookup_insert _)
        (AList.lookup_insert _))
    · exact .refl _

section
variable {w v : ActiveWrite} {bytes : ℕ}

section
variable (hf : (s.desk []).Filed) (hw : s.activeWrite = some w)
include hf hw

theorem known_of_writing : ∀ k ∈ w.command.members, s.authority.state.isKnown k = true := by
  intro k hk
  refine hf.known k (Nat.lt_of_lt_of_le ?_ (Nat.le_add_left _ _))
  rw [Desk.writing_eq (d := s.desk []) hw]
  exact List.count_pos_iff.mpr hk

theorem membersOf_writing : s.authority.membersOf w.command.key = w.command.members := by
  have h : s.authority.frameMembers.lookup w.command.key = _ := (hf.active w hw).members
  rw [membersOf, h]
  rfl

theorem report_acts (hruns : ¬ (s.desk []).Stops w) (hcommand : v.command = w.command)
    (hprogressed : v.progressed = w.progressed + bytes) (hreported : v.reported ≤ v.progressed)
    (hlast : v.uninterruptible = true → 0 < v.progressed) (emit laneFull : Bool) :
    Acts clean whole (s.desk []) { s.desk [] with
      authority := s.authority.report emit laneFull w.command.key
        (w.progressed + bytes - w.reported)
      active := some v
      handed := if 0 < bytes then w.command.members ++ s.handed else s.handed } := by
  have hwrites := hf.active w hw
  by_cases hnews : 0 < w.progressed + bytes - w.reported
  · let a := s.authority.progress w.command.members
      (.writeProgress (w.progressed + bytes - w.reported))
    have hcommitted : ∀ k ∈ w.command.members, a.state.isCommitted k = true :=
      progress_committed hf.sound (known_of_writing hf hw) (.inr ⟨_, hnews, rfl⟩)
    have hsame : a.cancelled = s.authority.cancelled := progress_cancelled _ _ _
    have hcalm : Acts clean whole (s.desk []) { s.desk [] with authority := a } :=
      (Acts.refl _).calm hf (s.authority.progress_calm _ _)
    have hadvanced := hcalm.tail (.advanced w v hw hcommand (by omega) hreported hlast
      (fun _ => hcommitted) fun hs => hruns ⟨hsame ▸ hs.1, hs.2⟩)
    have hhanded : Acts clean whole (s.desk []) { s.desk [] with
        authority := a
        active := some v
        handed := if 0 < bytes then w.command.members ++ s.handed else s.handed } := by
      split
      · rw [← hcommand] at hcommitted ⊢
        exact hadvanced.tail (.handedOver v rfl (fun hs => by have := hs.2; omega) hcommitted)
      · exact hadvanced
    have hsettled := hhanded.settleDeferred hf (hcommitted _ hwrites.sealed.leader)
    rw [report, if_pos hnews, processIo, writeProgress, membersOf_writing hf hw]
    exact hsettled.calm hf (.ite (failFirst_calm _ _) (.refl _))
  · have hreport : w.reported ≤ w.progressed := hwrites.reported
    have hnone : ¬ 0 < bytes := by omega
    rw [report, if_neg hnews, if_neg hnone]
    exact .single (.advanced w v hw hcommand (by omega) hreported hlast
      (fun hp => hwrites.committed (by omega)) hruns)

theorem writeCancelled_acts :
    Acts clean whole (s.desk []) { s.desk [] with
      authority := s.authority.writeCancelled w.command.key
      active := none } := by
  have hfinished : Acts clean whole (s.desk []) _ := .single (.finished w hw)
  have herased := hfinished.idle (a := { s.authority with
    deferredCancellations := s.authority.deferredCancellations.erase w.command.key
    frameMembers := s.authority.frameMembers.erase w.command.key })
    (.of_state rfl rfl (List.Subset.refl _) id) rfl
  have hcancelled := herased.cancelled
    ((s.authority.deferredCancellations.lookup w.command.key).getD 0) hf
  have hends := hcancelled.idle (a := s.authority.writeCancelled w.command.key) ?_ rfl
  · exact hends
  · rw [writeCancelled, membersOf_writing hf hw]
    show RequestAuthority.Still (List.foldl _ _ (w.command.members ++ [])) _
    rw [List.append_nil]
    exact .of_state rfl rfl (List.Subset.refl _) id

end

theorem sent_acts {a : RequestAuthority} {handed : List RequestKey} (hf : (s.desk []).Filed)
    (hacts : Acts clean whole (s.desk []) { s.desk [] with
      authority := a, active := some v, handed := if 0 < bytes then handed else s.handed })
    (hhanded : handed = v.command.members ++ s.handed)
    (hruns : bytes = 0 → ¬ (v.command.cancelBeforeWrite ∈ a.cancelled ∧ v.progressed = 0))
    (emit laneFull : Bool) :
    Acts clean whole (s.desk []) { s.desk [] with
      authority := a.processIo emit laneFull (.writeComplete v.command.key)
      active := none
      handed } := by
  have hfiled := hacts.filed hf
  have hwrites := hfiled.active v rfl
  have hknown : ∀ k ∈ v.command.members, a.state.isKnown k = true := by
    intro k hk
    refine hfiled.known k (Nat.lt_of_lt_of_le ?_ (Nat.le_add_left _ _))
    exact List.count_pos_iff.mpr hk
  let b := { a with frameMembers := a.frameMembers.erase v.command.key }.progress
    v.command.members .writeComplete
  have hprogress : RequestAuthority.Calm { a with
      frameMembers := a.frameMembers.erase v.command.key } b :=
    progress_calm _ _ _
  have hcommitted : ∀ k ∈ v.command.members, b.state.isCommitted k = true :=
    progress_committed (a := { a with frameMembers := _ }) hfiled.sound hknown (.inl rfl)
  -- The tables of the frame are pruned after the frame has left its place.
  have herased : a.Still { a with frameMembers := a.frameMembers.erase v.command.key } :=
    .of_state rfl rfl (List.Subset.refl _) id
  have hstill : a.Still { b with frameMembers := a.frameMembers } :=
    (herased.trans (hprogress.still hfiled.sound)).trans (.of_state rfl rfl (List.Subset.refl _) id)
  have hreported := hacts.tail (.still _ hstill (.of_eq rfl hprogress.frameCancellations))
  have hall : Acts clean whole (s.desk []) { s.desk [] with
      authority := { b with frameMembers := a.frameMembers }, active := some v, handed } := by
    by_cases hbytes : 0 < bytes
    · rwa [if_pos hbytes] at hreported
    rw [if_neg hbytes] at hreported
    rw [hhanded]
    refine hreported.tail (.handedOver v rfl (fun hs => hruns (by omega) ⟨?_, hs.2⟩) hcommitted)
    have hsame : b.cancelled = a.cancelled := progress_cancelled _ _ _
    exact hsame ▸ hs.1
  have hcleared := (hall.tail (.finished v rfl)).cleared fun _ _ k hk _ =>
    hcommitted k (by rwa [show (s.desk []).hand = [] from rfl, List.append_nil] at hk)
  have hpruned := hcleared.idle (a := b) (.of_state rfl rfl (List.Subset.refl _) id) rfl
  have hsettled := hpruned.settleDeferred hf (hcommitted _ hwrites.sealed.leader)
  have hends := hsettled.idle (a := a.writeComplete v.command.key) ?_ rfl
  · exact hends.calm hf (.ite (failFirst_calm _ _) (.refl _))
  · have hmembers : a.membersOf v.command.key = v.command.members := by
      rw [membersOf, show a.frameMembers.lookup _ = _ from hwrites.members]
      rfl
    rw [writeComplete, hmembers]
    exact .of_state rfl rfl (List.Subset.refl _) id

/-- A frame that goes on was written to before, so its members are committed. -/
theorem goesOn_acts (hf : (s.desk []).Filed) (hw : s.activeWrite = some w)
    (hruns : ¬ (s.desk []).Stops w) (hpast : 0 < w.progressed) (p : Prop) [Decidable p] :
    Acts clean whole (s.desk []) { s.desk [] with
      handed := if p then w.command.members ++ s.handed else s.handed } ∧
    Acts clean whole (s.desk []) { s.desk [] with
      handed := if p then w.command.members ++ s.handed else s.handed
      active := some { w with progressed := w.progressed + bytes } } := by
  have hwrites := hf.active w hw
  have hhanded : Acts clean whole (s.desk []) { s.desk [] with
      handed := if p then w.command.members ++ s.handed else s.handed } := by
    split
    · exact .single (.handedOver w hw hruns (hwrites.committed hpast))
    · exact .refl _
  exact ⟨hhanded, hhanded.tail (.advanced w _ hw rfl (Nat.le_add_right _ bytes)
    (hwrites.reported.trans (Nat.le_add_right _ bytes)) (fun _ => Nat.add_pos_left hpast bytes)
    (fun _ => hwrites.committed hpast) hruns)⟩

theorem gaveUp_acts {d : Desk} (hacts : Acts clean whole (s.desk []) d) (hw : d.active = some w)
    (hfatal : d.authority.fatal ≠ none) :
    Acts clean whole (s.desk []) { d with hand := [], active := none } :=
  (hacts.tail (.finished w hw)).cleared fun _ h => absurd h hfatal

theorem publishIfFatal_desk (hand : List RequestKey) :
    s.publishIfFatal.desk hand = s.desk hand := by
  unfold publishIfFatal
  split
  · rfl
  · rfl

end

/-- Bytes are reported as they are written, and a frame is left when it is done. -/
theorem polledWrite_acts (hf : (s.desk []).Filed) (bytes : ℕ) (completion : Option SendCompletion)
    (progressLaneFull laneFull : Bool) :
    Acts clean whole (s.desk [])
      ((s.polledWrite bytes completion progressLaneFull laneFull).desk []) := by
  unfold polledWrite
  split
  · exact .refl _
  rename_i active hw
  split
  · exact writeCancelled_acts hf hw
  rename_i hruns
  have hruns : ¬ (s.desk []).Stops active := fun h => hruns (stopsWrite_iff.mpr h)
  have hwrites := hf.active active hw
  cases completion with
  | some completion =>
    rw [publishIfFatal_desk]
    have hreport : Acts clean whole (s.desk []) _ := report_acts
      (v := { active with
        progressed := active.progressed + bytes, reported := active.progressed + bytes })
      hf hw hruns rfl rfl (le_refl _)
      (fun h => Nat.add_pos_left (hwrites.uninterruptible h) bytes) s.config.emitEvents
      progressLaneFull
    cases completion with
    | sent =>
      have hsent := sent_acts hf hreport rfl (fun hbytes h => ?_) s.config.emitEvents laneFull
      · rw [hand, if_pos (.inr rfl)]
        exact hsent
      · -- A frame of no bytes was not reported, and its token is as it was.
        obtain ⟨htoken, hzero⟩ := h
        dsimp only at hzero
        rw [report, if_neg (by omega)] at htoken
        exact hruns ⟨htoken, by omega⟩
    | failed error =>
      have hfailed := hreport.calm hf ((fail_calm _ (.ofTransport error)).trans
        (.ite (p := s.config.emitEvents = true ∧ laneFull = true)
          (failFirst_calm _ .eventBackpressure) (.refl _)))
      have hends := gaveUp_acts hfailed rfl (by dsimp only; split <;> nofun)
      simp only [hand, Option.some.injEq, reduceCtorEq, or_false]
      exact hends
    | panicked =>
      have hfailed := hreport.calm hf (fail_calm _ (.transport "pump-panicked"))
      have hends := gaveUp_acts hfailed rfl nofun
      simp only [hand, Option.some.injEq, reduceCtorEq, or_false]
      exact hends
  | none =>
    simp only [hand, reduceCtorEq, or_false]
    split
    · exact (goesOn_acts hf hw hruns (hwrites.uninterruptible ‹_›) (0 < bytes)).2
    · rw [publishIfFatal_desk]
      refine report_acts (v := { active with
        progressed := active.progressed + bytes, reported := active.progressed + bytes
        uninterruptible := decide (active.command.cancelBeforeWrite ∈ s.authority.cancelled) })
        hf hw hruns rfl rfl (le_refl _) (fun h => ?_) s.config.emitEvents progressLaneFull
      have htoken : active.command.cancelBeforeWrite ∈ s.authority.cancelled := of_decide_eq_true h
      exact Nat.add_pos_left (Nat.pos_of_ne_zero fun hzero => hruns ⟨htoken, hzero⟩) bytes

/-! ## The timer -/

def CleanTimer (s : OwnerTask) (now : MonotonicTime) : Prop :=
  ∀ key ∈ s.sendable, s.authority.state.isOpen key = true →
    s.authority.state.isCommitted key = false →
    ∀ entry ∈ s.authority.state.deadlines.entries, entry.key = key → entry.kind = .caller →
      now < entry.instant

instance (s : OwnerTask) (now : MonotonicTime) : Decidable (s.CleanTimer now) := by
  unfold CleanTimer
  infer_instance

theorem deadlineExpired_acts (hf : (s.desk []).Filed) (now : MonotonicTime) :
    Acts (s.CleanTimer now) whole (s.desk []) ((s.deadlineExpired now).desk []) := by
  have hsettled : Acts (s.CleanTimer now) whole (s.desk [])
      ((s.onAuthority (·.settle (.advanceTime now))).desk []) := by
    refine .single (.settled _ _ (s.authority.settle_fed (.advanceTime now)) (by simp)
      fun hclean key hdue hopen huncommitted hsend => ?_)
    obtain ⟨r, -, -, entry, he, hkey, hkind, -, hat⟩ := hdue
    exact absurd (hclean key (mem_sendable.mp hsend) hopen huncommitted entry he hkey hkind)
      (not_lt.mpr hat)
  unfold deadlineExpired
  dsimp only
  split
  · exact hsettled.calm hf (fail_calm _ _)
  · exact hsettled

/-! ## Teardown -/

theorem teardown_drains (hs : s.authority.state.Sound) (lanes : Lanes) : ∃ error queued a,
    RequestAuthority.Fed (.disconnect (networkFailure error))
      (s.authority.cancelAll error lanes s.waitingOperation s.waitingCompound queued) a ∧
    a.Still (s.teardown lanes).authority := by
  unfold teardown
  dsimp only
  generalize s.publishShutdownReason.shutdownReason.getD .closed = error
  let a := s.authority.cancelAll error lanes s.waitingOperation s.waitingCompound
    (s.sendQueue.map WriteCommand.cancelBeforeWrite)
  have hsound : a.state.Sound := ((s.authority.cancelAll_calm error lanes _ _ _).still hs).sound hs
  have hfed := a.settle_fed (.disconnect (networkFailure error))
  exact ⟨error, _, _, hfed, (drainTerminals_calm _ error).still (hfed.state ▸ hsound.reduce _)⟩

/-- **After the end of the loop no request is open.** -/
theorem teardown_closed (hs : s.authority.state.Sound) (lanes : Lanes) (key : RequestKey) :
    (s.teardown lanes).authority.state.isOpen key = false := by
  obtain ⟨error, queued, a, hfed, hdrained⟩ := teardown_drains hs lanes
  refine Bool.eq_false_iff.mpr fun hopen => ?_
  have hbefore := (hdrained.onward.opened key hopen).resolve_right (by simp)
  rw [hfed.state, closed_disconnect] at hbefore
  cases hbefore

/-- **The end of the loop is a sequence of acts**, too. -/
theorem teardown_acts (hf : (s.desk []).Filed) (lanes : Lanes) :
    Acts clean whole (s.desk []) ((s.teardown lanes).desk []) := by
  have hclosed := teardown_closed hf.sound lanes
  unfold teardown at hclosed ⊢
  dsimp only at hclosed ⊢
  generalize s.publishShutdownReason.shutdownReason.getD .closed = error at hclosed ⊢
  let a := s.authority.cancelAll error lanes s.waitingOperation s.waitingCompound
    (s.sendQueue.map WriteCommand.cancelBeforeWrite)
  have hcalm : Acts clean whole (s.desk []) { s.desk [] with authority := a } :=
    (Acts.refl _).calm hf (s.authority.cancelAll_calm _ _ _ _ _)
  obtain ⟨hand, hwithdrawn⟩ := hcalm.withdrawnAll
  have hfiled := hwithdrawn.filed hf
  -- What may still be sent is the rest of the active frame, whose members are committed.
  have hsettled := hwithdrawn.tail (.settled _ _ (a.settle_fed (.disconnect (networkFailure error)))
    (by simp) fun _ k _ _ huncommitted hsend => by
      obtain hq | ⟨w, hw, hk, hruns⟩ := hsend
      · cases hq
      · have hpast : 0 < w.progressed := Nat.pos_of_ne_zero fun hzero =>
          hruns ⟨s.authority.cancelAll_cancelled _ (hf.active w hw).token, hzero⟩
        rw [(hfiled.active w hw).committed hpast k hk] at huncommitted
        cases huncommitted)
  have hdrained := hsettled.calm hf (drainTerminals_calm _ error)
  exact hdrained.cleared fun _ _ k _ hopen => absurd hopen (Bool.eq_false_iff.mp (hclosed k))

end OwnerTask

end Runtime
