import SmbClient.Runtime.Proof.Routing
import SmbClient.Runtime.Proof.Slots

/-!
# The owner's functions as changes of slots

A response leaves all slots but one alone (`ServesOne`), and it is strict if it is `Timely`.
-/

namespace Runtime

open Msg

def RequestAuthority.Timely (a : RequestAuthority) (message : CommandResponse) : Prop :=
  ∀ entry ∈ a.operationPending.lookup (a.keyOf message),
    Status.tryFrom message.status = some .pending ∨
    if message.unauthenticatedRecoveryHint then
      a.state.terminalOutcome (a.keyOf message) = none
    else entry.draining = true → entry.buffered.isNone = true

def Visit.Read (seen : CommandResponse → Prop) (strict : Prop) (visit : Visit) : Prop :=
  seen visit.message ∧ (strict → visit.authority.Timely visit.message)

namespace RequestAuthority

variable {a b c : RequestAuthority} {key k : RequestKey} {seen : CommandResponse → Prop}
  {strict : Prop} {loose : RequestKey → Prop} {entry : OperationPending}

structure ServesOne (seen : CommandResponse → Prop) (strict : Prop) (loose : RequestKey → Prop)
    (key : RequestKey) (a b : RequestAuthority) : Prop where
  serves : Serves seen strict loose [] a b
  elsewhere : ∀ k, k ≠ key → b.slot k = a.slot k

theorem ServesOne.trans (h : ServesOne seen strict loose key a b)
    (h' : ServesOne seen strict loose key b c) : ServesOne seen strict loose key a c :=
  ⟨h.serves.trans h'.serves, fun k hk => (h'.elsewhere k hk).trans (h.elsewhere k hk)⟩

section

variable (h : a.Proper seen)
include h

theorem ServesOne.same (state : b.state = a.state := by rfl) (fed : b.fed = a.fed := by rfl)
    (early : b.earlyResponses = a.earlyResponses := by rfl)
    (pending : b.operationPending = a.operationPending := by rfl)
    (awaits : b.awaits = a.awaits := by rfl) (outbox : b.outbox = a.outbox := by rfl) :
    ServesOne seen strict loose key a b :=
  ⟨.same h state fed early pending awaits outbox, fun k _ => by
    simp only [slot, state, pending, awaits, answers, outbox]⟩

theorem Proper.known
    (he : a.operationPending.lookup key = some entry) : a.state.isKnown key = true := by
  by_contra hk
  have hseat := slot_seat he
  rw [h.fresh key (Bool.eq_false_iff.mpr hk)] at hseat
  cases hseat

/-! ## Events without their effects -/

theorem slot_feed (event : OwnerEvent) (hn : ∀ o, (k, o) ∉ publications (a.state.reduce event).2) :
    (a.feed event).1.slot k = a.slot k := by
  show { a.slot k with outcome := (a.state.reduce event).1.terminalOutcome k } = a.slot k
  rw [h.sound.outcome_untold hn]
  rfl

theorem feed_serves (event : OwnerEvent) (hn : publications (a.state.reduce event).2 = []) :
    Serves seen strict loose [] a (a.feed event).1 :=
  .idle h (.event .refl event rfl rfl) rfl List.prefix_rfl (List.append_nil _).symm fun k =>
    slot_feed h event fun o ho => by rw [hn] at ho; cases ho

theorem ServesOne.answered {event : OwnerEvent} {o : TerminalOutcome}
    (hp : (key, o) ∈ publications (a.state.reduce event).2)
    (honly : ∀ k o', (k, o') ∈ publications (a.state.reduce event).2 → k = key)
    (hknown : a.state.isKnown key = true) (hsilent : Silent (a.feed event).1 c)
    (hanswers : Answers seen o key c b) : ServesOne seen strict loose key a b := by
  have hlog : a.Log b := (Log.event .refl event rfl rfl).idle
    (hanswers.books.state.trans hsilent.books.state) (hanswers.books.fed.trans hsilent.books.fed)
  have elsewhere : ∀ k, k ≠ key → b.slot k = a.slot k := fun k hk => by
    rw [hanswers.elsewhere k hk, hsilent.slots k]
    exact slot_feed h event fun o' ho => hk (honly k o' ho)
  refine ⟨.only h hlog (hanswers.books.earlyResponses.trans hsilent.books.earlyResponses)
    (hsilent.outbox.trans hanswers.outbox) (hanswers.acked.trans hsilent.acked) hknown elsewhere
    hanswers.waiters (.single ?_), elsewhere⟩
  obtain ⟨hopen, hclosed, -⟩ := h.sound.outcome_told hp
  obtain ⟨answer, hr, hpays⟩ := hanswers.pays
  have hafter : (b.slot key).outcome = some o := by
    show b.state.terminalOutcome key = some o
    rw [hanswers.books.state, hsilent.books.state]
    exact hclosed
  have hended : Slot.Change seen strict (loose key) b.Told key (a.slot key)
      { { b.slot key with outcome := none } with outcome := some o } := by
    refine .ended o answer _ _ hr hopen (.inl ?_) (hpays.outcome none)
    rw [hsilent.slots key]
    show { a.slot key with outcome := none } = a.slot key
    rw [← hopen]
    rfl
  rwa [← hafter] at hended

end

/-! ## Responses -/

theorem dropPending_late (h : a.Proper seen)
    (he : a.operationPending.lookup key = some entry) (hd : entry.draining = true)
    (hb : strict → entry.buffered = none) :
    ServesOne seen strict loose key a (a.dropPending key) := by
  have elsewhere : ∀ k, k ≠ key → (a.dropPending key).slot k = a.slot k :=
    fun k hk => slot_dropPending_ne hk
  refine ⟨.only h (.idle .refl rfl rfl) rfl List.prefix_rfl rfl (h.known he) elsewhere
    (fun st w hst => ?_) (.single ?_), elsewhere⟩
  · rw [slot_dropPending] at hst
    cases hst
  · rw [slot_dropPending]
    exact .late entry.seat (slot_seat he) hd hb

theorem recoveryHint_serves (h : a.Proper seen) (he : a.operationPending.lookup key = some entry)
    (ht : strict → a.state.terminalOutcome key = none) :
    ServesOne seen strict loose key a
      (((a.feed (.recoveryHint key)).1.applyOwnerEffects
        (a.feed (.recoveryHint key)).2).completeOperation
        key (.error (.terminal .sessionInvalidated))) := by
  have honly : ∀ k o, (k, o) ∈ publications (a.state.reduce (.recoveryHint key)).2 → k = key :=
    fun k o ho => (publications_recoveryHint (s := a.state) ho).1
  have hsilent := applyOwnerEffects_silent (a.feed (.recoveryHint key)).1
    (a.feed (.recoveryHint key)).2
  have hanswers : Answers seen .sessionInvalidated key _ _ := completeOperation_answers
    (a := (a.feed (.recoveryHint key)).1.applyOwnerEffects (a.feed (.recoveryHint key)).2)
    (show TerminalOutcome.Reports seen key .sessionInvalidated
      (.error (.terminal .sessionInvalidated)) from rfl)
    fun st w hst hw => by
      rw [hsilent.slots key] at hst
      exact h.waiters key st w hst hw
  rcases GenerationState.isOpen_or_outcome (h.known he) with hopen | ⟨o, ho⟩
  · exact .answered h (told_recoveryHint h.sound hopen) honly (h.known he) hsilent hanswers
  have hlog : a.Log _ := (Log.event .refl (.recoveryHint key) rfl rfl).idle
    (hanswers.books.state.trans hsilent.books.state) (hanswers.books.fed.trans hsilent.books.fed)
  have elsewhere : ∀ k, k ≠ key → RequestAuthority.slot _ k = a.slot k := fun k hk => by
    rw [hanswers.elsewhere k hk, hsilent.slots k]
    exact slot_feed h _ fun o' ho => hk (honly k o' ho)
  refine ⟨.only h hlog (hanswers.books.earlyResponses.trans hsilent.books.earlyResponses)
    (hsilent.outbox.trans hanswers.outbox) (hanswers.acked.trans hsilent.acked)
    (h.known he) elsewhere hanswers.waiters (.single (.repeated _ ?_ ?_ fun hs => ?_)), elsewhere⟩
  · exact fun hnone => nomatch ho.symm.trans hnone
  · exact (hlog.outcome h.sound ho).trans ho.symm
  · rw [ht hs] at ho
    cases ho

theorem mem_of_publication {effects : List OwnerEffect} {o : TerminalOutcome}
    (h : (key, o) ∈ publications effects) : .request key (.publish o) ∈ effects := by
  obtain ⟨effect, he, hp⟩ := List.mem_filterMap.mp h
  unfold OwnerEffect.publication at hp
  split at hp
  · cases hp
    exact he
  · cases hp

theorem acceptFinalResponse_serves (h : a.Proper seen)
    (he : a.operationPending.lookup key = some entry) {message : CommandResponse}
    (hid : message.messageId = key.messageId) (hm : seen message)
    (ht : strict → entry.draining = true → entry.buffered.isNone = true) :
    ServesOne seen strict loose key a (a.acceptFinalResponse key message) := by
  have honly : ∀ k o, (k, o) ∈ publications
      (a.state.reduce (.response key .final message.creditRequest)).2 → k = key ∧ o = .response :=
    fun k o ho =>
      ⟨(publications_response (s := a.state) ho).1, (publications_response (s := a.state) ho).2.1⟩
  have hsilent : Silent (a.feed (.response key .final message.creditRequest)).1 _ :=
    applyOwnerEffects_silent _ (a.state.reduce (.response key .final message.creditRequest)).2
  unfold acceptFinalResponse
  dsimp only
  split
  · rename_i hpublished
    have hp : (key, .response) ∈ publications
        (a.state.reduce (.response key .final message.creditRequest)).2 :=
      List.mem_filterMap.mpr ⟨_, of_decide_eq_true hpublished, rfl⟩
    refine .answered h hp (fun k o ho => (honly k o ho).1) (h.known he) hsilent
      (completeOperation_answers ⟨rfl, hid, hm⟩ fun st w hst hw => ?_)
    rw [hsilent.slots key] at hst
    exact h.waiters key st w hst hw
  · rename_i hunpublished
    have hnone : ∀ k o, (k, o) ∉ publications
        (a.state.reduce (.response key .final message.creditRequest)).2 := by
      intro k o ho
      obtain ⟨rfl, rfl⟩ := honly k o ho
      exact hunpublished (decide_eq_true (mem_of_publication ho))
    have hslots : ∀ k, (applyOwnerEffects _ _).slot k = a.slot k := fun k =>
      (hsilent.slots k).trans (slot_feed h _ (hnone k))
    have hsame : ServesOne seen strict loose key a _ :=
      ⟨.idle h ((Log.event .refl _ rfl rfl).idle hsilent.books.state hsilent.books.fed)
        hsilent.books.earlyResponses hsilent.outbox (hsilent.acked.trans (List.append_nil _).symm)
        hslots, fun k _ => hslots k⟩
    split
    · exact hsame
    rename_i entry' he'
    split
    · rename_i hdraining
      have hseat : entry'.seat = entry.seat :=
        Option.some.inj
          ((slot_seat he').symm.trans ((congrArg Slot.seat (hslots key)).trans (slot_seat he)))
      refine hsame.trans (dropPending_late hsame.serves.proper he' hdraining fun hs => ?_)
      rw [show entry'.buffered = entry.buffered from congrArg Seat.buffered hseat]
      exact Option.isNone_iff_eq_none.mp
        (ht hs ((congrArg Seat.draining hseat).symm.trans hdraining))
    · exact hsame

theorem processDecodedResponse_serves (h : a.Proper seen) (message : CommandResponse)
    (hm : seen message) (ht : strict → a.Timely message) :
    ServesOne seen strict loose (a.keyOf message) a (a.processDecodedResponse message) := by
  have fails (error : RuntimeError) :
      ServesOne seen strict loose (a.keyOf message) a (a.fail error) :=
    .same h
  unfold processDecodedResponse
  rw [show (⟨a.state.generation, message.messageId⟩ : RequestKey) = a.keyOf message from rfl]
  dsimp only
  split
  · exact fails _
  rename_i entry he
  split
  · split
    · exact fails _
    rename_i asyncId _
    refine ⟨feed_serves h _ ?_, fun k _ => slot_feed h _ ?_⟩
    · refine List.eq_nil_iff_forall_not_mem.mpr fun p hp => ?_
      cases (publications_response (s := a.state) (o := p.2) hp).2.2
    · intro o ho
      cases (publications_response (s := a.state) ho).2.2
  rename_i hfinal
  split
  · exact fails _
  split
  · rename_i hint
    have ht : strict → a.state.terminalOutcome (a.keyOf message) = none := fun hs => by
      have := (ht hs entry he).resolve_left hfinal
      rwa [if_pos hint] at this
    exact recoveryHint_serves h he ht
  split
  · exact fails _
  rename_i hint _
  refine acceptFinalResponse_serves h he rfl hm fun hs => ?_
  have := (ht hs entry he).resolve_left hfinal
  rwa [if_neg hint] at this

theorem ServesOne.parked (h : a.Proper seen) {table : Table RequestKey CommandResponse}
    (ht : ∀ k message, table.lookup k = some message → a.keyOf message = k ∧ seen message) :
    ServesOne seen strict loose key a { a with earlyResponses := table } :=
  ⟨⟨.idle .refl rfl rfl, List.prefix_rfl, (List.append_nil _).symm,
    ⟨h.sound, h.fresh, h.waiters, h.dry, ht⟩, fun _ => .refl⟩, fun _ _ => rfl⟩

/-- A response that came early is taken once its request is registered. -/
theorem takeEarlyResponse_serves (h : a.Proper seen) (hopen : (a.slot key).outcome = none) :
    ServesOne seen strict loose key a (a.takeEarlyResponse key) := by
  unfold takeEarlyResponse
  split
  · exact .same h
  rename_i message hm
  obtain ⟨rfl, hseen⟩ : a.keyOf message = key ∧ _ := h.early key message hm
  have herased : ServesOne seen strict loose (a.keyOf message) a
      { a with earlyResponses := a.earlyResponses.erase (a.keyOf message) } := by
    refine .parked h fun k m hlookup => ?_
    rw [Table.lookup_erase_eq] at hlookup
    split at hlookup
    · cases hlookup
    · exact h.early k m hlookup
  refine herased.trans (processDecodedResponse_serves herased.serves.proper message hseen
    fun _ entry he => ?_)
  right
  split
  · exact hopen
  intro hdraining
  have hdry : entry.draining = false := h.dry _ hopen entry.seat (slot_seat he)
  rw [hdry] at hdraining
  cases hdraining

theorem routeMessage_serves (h : a.Proper seen) (message : CommandResponse) (laneFull : Bool)
    (hm : seen message) (ht : strict → a.Timely message) :
    Serves seen strict loose [] a (a.routeMessage message laneFull) := by
  have hfail : Serves seen strict loose [] a (a.fail (.wire "early-response-overflow-or-duplicate")) :=
    .same h
  have hparked : ServesOne seen strict loose (a.keyOf message) a
      { a with earlyResponses := a.earlyResponses.insert (a.keyOf message) message } := by
    refine .parked h fun k m hlookup => ?_
    rw [Table.lookup_insert_eq] at hlookup
    split at hlookup
    · rename_i hk
      rw [hk, ← Option.some.inj hlookup]
      exact ⟨rfl, hm⟩
    · exact h.early k m hlookup
  unfold routeMessage
  rw [show (⟨a.state.generation, message.messageId⟩ : RequestKey) = a.keyOf message from rfl]
  dsimp only
  split
  · exact (processDecodedResponse_serves h message hm ht).serves
  split
  · split
    · exact .same h
    · exact .refl h
  split
  · exact hfail
  split
  · exact hparked.serves.trans (.same hparked.serves.proper)
  · exact hparked.serves

theorem routeMessages_serves (messages : List (CommandResponse × Bool)) (h : a.Proper seen)
    (ht : ∀ visit ∈ visits messages a, visit.Read seen strict) :
    Serves seen strict loose [] a
      (messages.foldl (fun a message => a.routeMessage message.1 message.2) a) := by
  induction messages generalizing a with
  | nil => exact .refl h
  | cons message messages ih =>
    have hfirst : Serves seen strict loose [] a (a.routeMessage message.1 message.2) :=
      have hread := ht _ List.mem_cons_self
      routeMessage_serves h message.1 message.2 hread.1 hread.2
    exact hfirst.trans (ih hfirst.proper fun visit hv => ht visit (List.mem_cons_of_mem _ hv))

theorem finishPreparedInbound_serves (h : a.Proper seen) (emitEvents laneFull : Bool)
    (inbound : PreparedInbound)
    (ht : ∀ visit ∈ visits (inbound.result.getD []) a, visit.Read seen strict) :
    Serves seen strict loose [] a (a.finishPreparedInbound emitEvents laneFull inbound) := by
  have backpressure {b : RequestAuthority} (hb : Serves seen strict loose [] a b) :
      Serves seen strict loose [] a
      (if emitEvents ∧ laneFull then b.failFirst .eventBackpressure else b) := by
    split
    · exact hb.trans (.same hb.proper)
    · exact hb
  unfold finishPreparedInbound
  dsimp only
  cases hr : inbound.result with
  | none => exact backpressure (.same h)
  | some messages =>
    rw [hr] at ht
    exact backpressure (routeMessages_serves messages h ht)

theorem finishPreparedInbounds_serves (emitEvents laneFull : Bool) (ready : List PreparedInbound)
    (h : a.Proper seen) (ht : ∀ visit ∈ inboundVisits emitEvents laneFull ready a,
      visit.Read seen strict) :
    Serves seen strict loose [] a
      (ready.foldl (fun a inbound => a.finishPreparedInbound emitEvents laneFull inbound) a) := by
  induction ready generalizing a with
  | nil => exact .refl h
  | cons inbound ready ih =>
    have hfirst : Serves seen strict loose [] a
        (a.finishPreparedInbound emitEvents laneFull inbound) :=
      finishPreparedInbound_serves h emitEvents laneFull inbound fun visit hv =>
        ht visit (List.mem_append_left _ hv)
    exact hfirst.trans (ih hfirst.proper fun visit hv => ht visit (List.mem_append_right _ hv))

/-! ## Awaits -/

theorem slot_awaits : { a with awaits := a.awaits ++ [key] }.slot key =
    { a.slot key with awaits := (a.slot key).awaits + 1 } := by
  simp only [slot, List.count_append, List.count_singleton_self]
  rfl

theorem slot_awaits_ne (h : k ≠ key) :
    { a with awaits := a.awaits ++ [key] }.slot k = a.slot k := by
  simp only [slot, List.count_append, List.count_singleton, beq_iff_eq, if_neg (Ne.symm h)]
  rfl

theorem Serves.awaited (h : a.Proper seen) (hknown : a.state.isKnown key = true) {v : Slot}
    (hb : b = { a with awaits := a.awaits ++ [key] }) (books : Bookkeeping b c)
    (outbox : b.outbox <+: c.outbox) (acked : c.acknowledged = b.acknowledged)
    (elsewhere : ∀ k, k ≠ key → c.slot k = b.slot k) (fetches : (a.slot key).Fetches key v)
    (after : c.slot key = { v with awaits := (a.slot key).awaits + 1 }) :
    Serves seen strict loose [] a c := by
  subst hb
  refine .only h (.idle .refl books.state books.fed) books.earlyResponses outbox acked hknown
    (fun k hk => (elsewhere k hk).trans (slot_awaits_ne hk)) (fun st w hst => ?_) (.single ?_)
  · rw [after] at hst
    exact fetches.waiters (h.waiters key) st w hst
  · rw [after]
    exact .awaited v fetches

/-- The first await takes the result or the seat; a later one is refused. -/
theorem awaitOperation_serves (h : a.Proper seen) (key : RequestKey) :
    Serves seen strict loose [] a (a.awaitOperation key) := by
  have hlookup : (a.state.requests.lookup key).isSome = a.state.isKnown key := by
    rw [GenerationState.isKnown, GenerationState.request, Option.isSome_map]
  unfold awaitOperation nextWaiter countAwait
  rw [hlookup]
  cases hknown : a.state.isKnown key with
  | false =>
    have hnone : a.operationPending.lookup key = none := by
      have hseat := congrArg Slot.seat (h.fresh key hknown)
      exact Option.map_eq_none_iff.mp hseat
    simp only [Bool.false_eq_true, if_false, hnone]
    exact deliver_serves h (.completed (.stranger key) _) fun _ _ => rfl
  | true =>
    let b : RequestAuthority := { a with awaits := a.awaits ++ [key] }
    simp only [if_true]
    have tells (c : RequestAuthority) (answer : Answer) (k : RequestKey) (hk : k ≠ key) :
        (c.deliver (.completed (.awaiting key (a.awaits.count key)) answer)).slot k = c.slot k := by
      have hof : Waiter.Of key (.awaiting key (a.awaits.count key)) := rfl
      rw [slot_completed, Slot.tell_other _ hof hk]
    split
    · rename_i hnone
      refine .awaited h hknown (b := b) rfl (deliver_bookkeeping _ _) (List.prefix_append _ _) ?_
        (fun k hk => tells b _ k hk) (.unknown (slot_unseated hnone)) ?_
      · rw [acknowledged_deliver]
        exact List.append_nil _
      · rw [slot_completed, slot_awaits]
        rfl
    rename_i pending hpending
    have hseat : (a.slot key).seat = some pending.seat := slot_seat hpending
    split
    · rename_i answer hbuffered
      have acked (c : RequestAuthority) (hc : c.acknowledged = b.acknowledged) :
          (c.deliver (.completed (.awaiting key (a.awaits.count key)) answer)).acknowledged =
            b.acknowledged := by
        rw [acknowledged_deliver, hc]
        exact List.append_nil _
      split
      · refine .awaited h hknown (b := b) rfl
          ((b.putPending_bookkeeping key _).trans (deliver_bookkeeping _ _))
          (List.prefix_append _ _) (acked _ rfl)
          (fun k hk => (tells _ _ k hk).trans (slot_putPending_ne _ hk))
          (.fetched pending.seat answer hseat hbuffered _ (.inr rfl)) ?_
        rw [slot_completed, slot_putPending, slot_awaits]
        rfl
      · refine .awaited h hknown (b := b) rfl
          ((b.dropPending_bookkeeping key).trans (deliver_bookkeeping _ _)) (List.prefix_append _ _)
          (acked _ rfl) (fun k hk => (tells _ _ k hk).trans (slot_dropPending_ne hk))
          (.fetched pending.seat answer hseat hbuffered none (.inl rfl)) ?_
        rw [slot_completed, slot_dropPending, slot_awaits]
        rfl
    rename_i hbuffered
    split
    · rename_i htaken
      refine .awaited h hknown (b := b) rfl (deliver_bookkeeping _ _) (List.prefix_append _ _) ?_
        (fun k hk => tells b _ k hk) (.refused pending.seat hseat hbuffered htaken) ?_
      · rw [acknowledged_deliver]
        exact List.append_nil _
      · rw [slot_completed, slot_awaits]
        rfl
    · rename_i hfree
      have hterminal : pending.terminal = none := by
        cases ht : pending.terminal with
        | none => rfl
        | some w => exact absurd (.inl (by rw [ht]; rfl)) hfree
      have hcompleted : pending.callerCompleted = false :=
        Bool.eq_false_iff.mpr fun hc => hfree (.inr hc)
      refine .awaited h hknown (b := b) rfl (b.putPending_bookkeeping key _) List.prefix_rfl rfl
        (fun k hk => slot_putPending_ne _ hk)
        (.waits pending.seat hseat hbuffered hterminal hcompleted) ?_
      rw [slot_putPending, slot_awaits]
      rfl

end RequestAuthority

end Runtime
