import SmbClient.Runtime.Proof.Callers
import SmbClient.Runtime.Proof.Calm

/-!
# Slots of the owner's tables

`RequestAuthority.slot` reads the slot of a request out of the tables, `Serves` says that between
two states of them every slot went through changes.
-/

namespace Runtime

def Delivery.answerTo (waiter : Waiter) : Delivery → Option Answer
  | .completed w answer => if w = waiter then some answer else none
  | _ => none

def Delivery.acknowledgedKeys : Delivery → List RequestKey
  | .acknowledged submission (.ok accepted) => if submission.detached then [accepted.key] else []
  | .acknowledgedCompound _ (.ok accepted) => accepted.map (·.key)
  | _ => []

namespace RequestAuthority

section
variable (a : RequestAuthority)

def answers (waiter : Waiter) : List Answer := a.outbox.filterMap (Delivery.answerTo waiter)

def Told (waiter : Waiter) : Prop := ∃ answer, .completed waiter answer ∈ a.outbox

def acknowledged : List RequestKey := a.outbox.flatMap Delivery.acknowledgedKeys

def slot (key : RequestKey) : Slot where
  outcome := a.state.terminalOutcome key
  seat := (a.operationPending.lookup key).map OperationPending.seat
  awaits := a.awaits.count key
  heard i := a.answers (.awaiting key i)

/-- What holds of the tables at any time. -/
structure Proper (seen : CommandResponse → Prop) : Prop where
  sound : a.state.Sound
  fresh : ∀ k, a.state.isKnown k = false → a.slot k = .empty
  waiters : ∀ k st w, (a.slot k).seat = some st → st.terminal = some w → w.Of k
  dry : ∀ k, (a.slot k).Dry
  early : ∀ k message, a.earlyResponses.lookup k = some message → a.keyOf message = k ∧ seen message

end

structure Serves (seen : CommandResponse → Prop) (strict : Prop) (loose : RequestKey → Prop)
    (acks : List RequestKey) (a b : RequestAuthority) : Prop where
  log : a.Log b
  outbox : a.outbox <+: b.outbox
  acked : b.acknowledged = a.acknowledged ++ acks
  proper : b.Proper seen
  changes : ∀ key, Slot.Changes seen strict (loose key) b.Told key (a.slot key) (b.slot key)

section
variable {a b c : RequestAuthority} {key k : RequestKey} {seen : CommandResponse → Prop}
  {strict : Prop} {loose : RequestKey → Prop} {acks acks' : List RequestKey}
variable {entry : OperationPending} {answer : Answer}

theorem Told.mono (h : a.outbox <+: b.outbox) {waiter : Waiter} (hw : a.Told waiter) :
    b.Told waiter := by
  obtain ⟨answer, ha⟩ := hw
  exact ⟨answer, h.subset ha⟩

theorem Log.known (h : a.Log b) (hs : a.state.Sound) (hk : a.state.isKnown key = true) :
    b.state.isKnown key = true := by
  induction h with
  | refl => exact hk
  | idle _ state _ ih => exact state ▸ ih
  | event log event state _ ih => exact state ▸ ((log.sound hs).onward event).known key ih
  | target _ credits state _ ih => exact state ▸ ih

theorem Log.generation (h : a.Log b) (hs : a.state.Sound) :
    b.state.generation = a.state.generation := by
  induction h with
  | refl => rfl
  | idle _ state _ ih => rw [state, ih]
  | event log event state _ ih =>
    rw [state, (GenerationState.reduce_moves (log.sound hs).keyed event).config.1, ih]
  | target _ credits state _ ih => rw [state, ← ih]; rfl

theorem Proper.early_same (h : a.Proper seen) (log : a.Log b)
    (early : b.earlyResponses = a.earlyResponses) (k : RequestKey) (message : CommandResponse)
    (hm : b.earlyResponses.lookup k = some message) : b.keyOf message = k ∧ seen message := by
  rw [keyOf, log.generation h.sound]
  exact h.early k message (early ▸ hm)

namespace Serves

theorem trans (h : Serves seen strict loose acks a b) (h' : Serves seen strict loose acks' b c) :
    Serves seen strict loose (acks ++ acks') a c where
  log := h.log.trans h'.log
  outbox := h.outbox.trans h'.outbox
  acked := by rw [h'.acked, h.acked, List.append_assoc]
  proper := h'.proper
  changes key := ((h.changes key).mono id id fun _ => Told.mono h'.outbox).trans (h'.changes key)

theorem trans_nil (h : Serves seen strict loose acks a b) (h' : Serves seen strict loose [] b c) :
    Serves seen strict loose acks a c := by
  have htrans := h.trans h'
  rwa [List.append_nil] at htrans

theorem mono {strict' : Prop} {loose' : RequestKey → Prop} (hs : strict' → strict)
    (hl : ∀ k, loose k → loose' k) (h : Serves seen strict loose acks a b) :
    Serves seen strict' loose' acks a b where
  log := h.log
  outbox := h.outbox
  acked := h.acked
  proper := h.proper
  changes key := (h.changes key).mono hs (hl key) fun _ => id

theorem idle (h : a.Proper seen) (log : a.Log b) (early : b.earlyResponses = a.earlyResponses)
    (outbox : a.outbox <+: b.outbox) (acked : b.acknowledged = a.acknowledged ++ acks)
    (slots : ∀ k, b.slot k = a.slot k) :
    Serves seen strict loose acks a b where
  log := log
  outbox := outbox
  acked := acked
  proper :=
    { sound := log.sound h.sound
      fresh := fun k hk => by
        rw [slots]
        refine h.fresh k (Bool.eq_false_iff.mpr fun hknown => ?_)
        exact Bool.eq_false_iff.mp hk (log.known h.sound hknown)
      waiters := fun k st w hst hw => h.waiters k st w (by rwa [slots] at hst) hw
      dry := fun k => slots k ▸ h.dry k
      early := h.early_same log early }
  changes key := by rw [slots]

theorem same (h : a.Proper seen) (state : b.state = a.state := by rfl)
    (fed : b.fed = a.fed := by rfl) (early : b.earlyResponses = a.earlyResponses := by rfl)
    (pending : b.operationPending = a.operationPending := by rfl)
    (awaits : b.awaits = a.awaits := by rfl) (outbox : b.outbox = a.outbox := by rfl) :
    Serves seen strict loose [] a b := by
  refine idle h (.idle .refl state fed) early (by rw [outbox]) ?_ fun k => ?_
  · rw [acknowledged, acknowledged, outbox, List.append_nil]
  · simp only [slot, state, pending, awaits, answers, outbox]

theorem refl (h : a.Proper seen) : Serves seen strict loose [] a a := same h

/-- Serving one key is enough where the other slots are as they were. -/
theorem only (h : a.Proper seen) (log : a.Log b) (early : b.earlyResponses = a.earlyResponses)
    (outbox : a.outbox <+: b.outbox) (acked : b.acknowledged = a.acknowledged)
    (known : a.state.isKnown key = true) (elsewhere : ∀ k, k ≠ key → b.slot k = a.slot k)
    (waiters : ∀ st w, (b.slot key).seat = some st → st.terminal = some w → w.Of key)
    (changes : Slot.Changes seen strict (loose key) b.Told key (a.slot key) (b.slot key)) :
    Serves seen strict loose [] a b where
  log := log
  outbox := outbox
  acked := by rw [acked, List.append_nil]
  proper :=
    { sound := log.sound h.sound
      fresh := fun k hk => by
        have hunknown : a.state.isKnown k = false := Bool.eq_false_iff.mpr fun hknown =>
          Bool.eq_false_iff.mp hk (log.known h.sound hknown)
        have hne : k ≠ key := by
          rintro rfl
          rw [known] at hunknown
          cases hunknown
        rw [elsewhere k hne]
        exact h.fresh k hunknown
      waiters := fun k st w hst hw => by
        by_cases he : k = key
        · subst he
          exact waiters st w hst hw
        · rw [elsewhere k he] at hst
          exact h.waiters k st w hst hw
      dry := fun k => by
        by_cases he : k = key
        · subst he
          exact changes.dry (h.dry k)
        · rw [elsewhere k he]
          exact h.dry k
      early := h.early_same log early }
  changes k := by
    by_cases he : k = key
    · subst he
      exact changes
    · rw [elsewhere k he]

end Serves

/-! ## Slots of single changes -/

section

variable (entry)

theorem slot_putPending :
    (a.putPending key entry).slot key = { a.slot key with seat := some entry.seat } := by
  simp only [slot, putPending, AList.lookup_insert]
  rfl

theorem slot_putPending_ne (h : k ≠ key) : (a.putPending key entry).slot k = a.slot k := by
  simp only [slot, putPending, AList.lookup_insert_ne h]
  rfl

end

theorem slot_dropPending : (a.dropPending key).slot key = { a.slot key with seat := none } := by
  simp only [slot, dropPending, AList.lookup_erase]
  rfl

theorem slot_dropPending_ne (h : k ≠ key) : (a.dropPending key).slot k = a.slot k := by
  simp only [slot, dropPending, AList.lookup_erase_ne h]
  rfl

theorem slot_seat (h : a.operationPending.lookup key = some entry) :
    (a.slot key).seat = some entry.seat := by
  simp only [slot, h, Option.map_some]

theorem slot_unseated (h : a.operationPending.lookup key = none) : (a.slot key).seat = none := by
  simp only [slot, h, Option.map_none]

variable (delivery : Delivery)

variable (waiter : Waiter)

theorem answers_deliver : (a.deliver delivery).answers waiter =
      a.answers waiter ++ (delivery.answerTo waiter).toList := by
  simp only [answers, deliver, List.filterMap_append, List.filterMap_cons]
  cases delivery.answerTo waiter with
  | none => rfl
  | some answer => rfl

theorem slot_completed (answer : Answer) :
    (a.deliver (.completed waiter answer)).slot k = (a.slot k).tell k waiter answer := by
  have hheard : ∀ i, (a.deliver (.completed waiter answer)).answers (.awaiting k i) =
      if waiter = .awaiting k i then a.answers (.awaiting k i) ++ [answer]
      else a.answers (.awaiting k i) := by
    intro i
    rw [answers_deliver, Delivery.answerTo]
    split
    · rfl
    · exact List.append_nil _
  simp only [slot, hheard]
  rfl

theorem slot_deliver (h : ∀ k i, delivery.answerTo (.awaiting k i) = none) :
    (a.deliver delivery).slot k = a.slot k := by
  simp only [slot, answers_deliver, h, Option.toList_none, List.append_nil]
  rfl

theorem told_deliver (answer : Answer) : (a.deliver (.completed waiter answer)).Told waiter :=
  ⟨answer, List.mem_append_right _ (List.mem_singleton_self _)⟩

theorem acknowledged_deliver :
    (a.deliver delivery).acknowledged = a.acknowledged ++ delivery.acknowledgedKeys := by
  simp [acknowledged, deliver]

theorem deliver_serves (h : a.Proper seen) (delivery : Delivery)
    (hd : ∀ k i, delivery.answerTo (.awaiting k i) = none) :
    Serves seen strict loose delivery.acknowledgedKeys a (a.deliver delivery) :=
  .idle h (.idle .refl rfl rfl) rfl (List.prefix_append _ _) (acknowledged_deliver delivery)
    fun _ => slot_deliver delivery hd

/-! ## Answering a caller -/

structure Answers (seen : CommandResponse → Prop) (outcome : TerminalOutcome) (key : RequestKey)
    (a b : RequestAuthority) : Prop where
  books : Bookkeeping a b
  outbox : a.outbox <+: b.outbox
  acked : b.acknowledged = a.acknowledged
  elsewhere : ∀ k, k ≠ key → b.slot k = a.slot k
  waiters : ∀ st w, (b.slot key).seat = some st → st.terminal = some w → w.Of key
  pays : ∃ answer, outcome.Reports seen key answer ∧ (a.slot key).Pays b.Told key answer
    (b.slot key)

variable {outcome : TerminalOutcome}

theorem Answers.nobody (outcome : TerminalOutcome)
    (hr : outcome.Reports seen key answer) (h : a.operationPending.lookup key = none) :
    Answers seen outcome key a a where
  books := .refl a
  outbox := List.prefix_rfl
  acked := rfl
  elsewhere _ _ := rfl
  waiters st w hst := by
    rw [slot_unseated h] at hst
    cases hst
  pays := ⟨answer, hr, .nobody (slot_unseated h)⟩

theorem Answers.delivered {waiter : Waiter}
    (hr : outcome.Reports seen key answer) (h : a.operationPending.lookup key = some entry)
    (hw : entry.terminal = some waiter) (hof : waiter.Of key)
    (hb : b = a.dropPending key ∨
      ∃ entry', b = a.putPending key entry' ∧
        entry'.seat = { entry.seat with terminal := none, callerCompleted := true }) :
    Answers seen outcome key a (b.deliver (.completed waiter answer)) := by
  have hself : (b.slot key) = { a.slot key with seat := none } ∨
      (b.slot key) = { a.slot key with
        seat := some { entry.seat with terminal := none, callerCompleted := true } } := by
    rcases hb with rfl | ⟨entry', rfl, he⟩
    · exact .inl slot_dropPending
    · rw [slot_putPending, he]
      exact .inr rfl
  have hbooks : Bookkeeping a b := by
    rcases hb with rfl | ⟨entry', rfl, -⟩
    · exact a.dropPending_bookkeeping key
    · exact a.putPending_bookkeeping key entry'
  have hsame : b.outbox = a.outbox := by
    rcases hb with rfl | ⟨entry', rfl, -⟩
    · rfl
    · rfl
  refine ⟨hbooks.trans (b.deliver_bookkeeping _), ?_, ?_, fun k hk => ?_, fun st w hst hw => ?_,
    answer, hr, ?_⟩
  · rw [← hsame]
    exact List.prefix_append _ _
  · rw [acknowledged_deliver, acknowledged, hsame]
    exact List.append_nil _
  · rw [slot_completed, Slot.tell_other _ hof hk]
    rcases hb with rfl | ⟨entry', rfl, -⟩
    · exact slot_dropPending_ne hk
    · exact slot_putPending_ne entry' hk
  · rw [slot_completed] at hst
    rcases hself with hself | hself
    · rw [hself] at hst
      cases hst
    · rw [hself] at hst
      obtain rfl := Option.some.inj hst
      cases hw
  · rw [slot_completed]
    rcases hself with hself | hself
    · rw [hself]
      exact .delivered entry.seat waiter (slot_seat h) hw (told_deliver waiter answer)
    · rw [hself]
      exact .drained entry.seat waiter (slot_seat h) hw (told_deliver waiter answer)

theorem Answers.buffered {entry' : OperationPending}
    (hr : outcome.Reports seen key answer) (h : a.operationPending.lookup key = some entry)
    (hw : entry.terminal = none) (he : entry'.seat = { entry.seat with buffered := some answer }) :
    Answers seen outcome key a (a.putPending key entry') where
  books := a.putPending_bookkeeping key entry'
  outbox := List.prefix_rfl
  acked := rfl
  elsewhere _ hk := slot_putPending_ne entry' hk
  waiters st w hst hterminal := by
    rw [slot_putPending, he] at hst
    obtain rfl := Option.some.inj hst
    rw [show entry.seat.terminal = none from hw] at hterminal
    cases hterminal
  pays := by
    refine ⟨answer, hr, ?_⟩
    rw [slot_putPending, he]
    exact .buffered entry.seat (slot_seat h) hw

theorem takeRaw_reports (entry : OperationPending) (h : outcome.Reports seen key answer) :
    outcome.Reports seen key (entry.takeRaw answer).2 ∧
    (entry.takeRaw answer).1.seat = entry.seat := by
  cases answer with
  | error error => exact ⟨h, rfl⟩
  | ok completed =>
    unfold OperationPending.takeRaw
    dsimp only
    split
    · refine ⟨?_, rfl⟩
      cases outcome with
      | response => exact h
      | _ => cases h
    · exact ⟨h, rfl⟩

/-- A completion sends the result to its waiter, or buffers it. -/
theorem completeOperation_answers (hr : outcome.Reports seen key answer)
    (hw : ∀ st w, (a.slot key).seat = some st → st.terminal = some w → w.Of key) :
    Answers seen outcome key a (a.completeOperation key answer) := by
  unfold completeOperation
  split
  · rename_i h
    exact .nobody outcome hr h
  · rename_i entry h
    obtain ⟨hr', hseat⟩ := takeRaw_reports entry hr
    have hterminal : (entry.takeRaw answer).1.terminal = entry.terminal :=
      congrArg Seat.terminal hseat
    dsimp only
    split
    · rename_i waiter hwaiter
      rw [hterminal] at hwaiter
      exact .delivered hr' h hwaiter (hw _ _ (slot_seat h) hwaiter) (.inl rfl)
    · rename_i hnone
      rw [hterminal] at hnone
      refine .buffered hr' h hnone ?_
      exact congrArg (fun st : Seat => { st with buffered := some (entry.takeRaw answer).2 }) hseat

theorem publishOperation_answers (hne : outcome ≠ .response)
    (hw : ∀ st w, (a.slot key).seat = some st → st.terminal = some w → w.Of key) :
    Answers seen outcome key a (a.publishOperation (key, outcome)) := by
  have hr : outcome.Reports seen key (.error (.terminal outcome)) := by
    cases outcome with
    | response => exact absurd rfl hne
    | _ => rfl
  unfold publishOperation
  dsimp only
  rw [if_neg hne]
  split
  · rename_i h
    exact .nobody outcome hr h
  rename_i entry h
  split
  · split
    · rename_i waiter hwaiter
      exact .delivered hr h hwaiter (hw _ _ (slot_seat h) hwaiter) (.inr ⟨_, rfl, rfl⟩)
    · rename_i hnone
      exact .buffered hr h hnone rfl
  · exact completeOperation_answers hr hw

/-! ## Carrying out the effects of an event -/

structure Silent (a b : RequestAuthority) : Prop where
  books : Bookkeeping a b
  outbox : a.outbox <+: b.outbox
  acked : b.acknowledged = a.acknowledged
  slots : ∀ k, b.slot k = a.slot k

namespace Silent

theorem refl (a : RequestAuthority) : Silent a a := ⟨.refl a, List.prefix_rfl, rfl, fun _ => rfl⟩

theorem trans (h : Silent a b) (h' : Silent b c) : Silent a c where
  books := h.books.trans h'.books
  outbox := h.outbox.trans h'.outbox
  acked := h'.acked.trans h.acked
  slots k := (h'.slots k).trans (h.slots k)

theorem foldl {ι : Type} {f : RequestAuthority → ι → RequestAuthority}
    (h : ∀ a i, Silent a (f a i)) (is : List ι) (a : RequestAuthority) :
    Silent a (is.foldl f a) :=
  List.foldl_invariant (P := Silent a) (fun b i hb => hb.trans (h b i)) is (refl a)

end Silent

section

variable (a)

theorem cancelRolledBackPreparation_silent (key : RequestKey) :
    Silent a (a.cancelRolledBackPreparation key) := by
  refine ⟨a.cancelRolledBackPreparation_bookkeeping key, ?_, ?_, fun k => ?_⟩
  all_goals
    unfold cancelRolledBackPreparation
    split
    · rfl
    · rfl

theorem publishRaw_silent (publication : RequestKey × TerminalOutcome) :
    Silent a (a.publishRaw publication) := by
  obtain ⟨key, outcome⟩ := publication
  unfold publishRaw
  dsimp only
  split
  · exact .refl a
  refine ⟨⟨rfl, rfl, rfl, rfl, rfl, rfl, rfl, rfl, rfl, List.Subset.refl _⟩,
    List.prefix_append _ _, ?_, fun k => slot_deliver _ fun _ _ => rfl⟩
  rw [acknowledged_deliver]
  exact List.append_nil _

theorem applyOwnerEffects_silent (effects : List OwnerEffect) :
    Silent a (a.applyOwnerEffects effects) :=
  .foldl publishRaw_silent _ a

end

theorem markDraining_slot : (a.markDraining key).slot key = (a.slot key).drain := by
  unfold markDraining
  split
  · rename_i h
    simp only [Slot.drain, slot, h, Option.map_none]
  · rename_i entry h
    rw [slot_putPending, Slot.drain, slot_seat h]
    rfl

theorem markDraining_slot_ne (h : k ≠ key) : (a.markDraining key).slot k = a.slot k := by
  unfold markDraining
  split
  · rfl
  · exact slot_putPending_ne _ h

theorem markDraining_outbox : (a.markDraining key).outbox = a.outbox := by
  unfold markDraining
  split
  · rfl
  · rfl

theorem foldl_markDraining (keys : List RequestKey) :
    (keys.foldl markDraining a).outbox = a.outbox ∧
    ((keys.foldl markDraining a).slot k = a.slot k ∨
      k ∈ keys ∧ (keys.foldl markDraining a).slot k = (a.slot k).drain) := by
  induction keys generalizing a with
  | nil => exact ⟨rfl, .inl rfl⟩
  | cons key keys ih =>
    obtain ⟨houtbox, hslot⟩ := @ih (a.markDraining key)
    rw [List.foldl_cons]
    refine ⟨houtbox.trans markDraining_outbox, ?_⟩
    by_cases hk : k = key
    · subst hk
      rw [markDraining_slot] at hslot
      refine .inr ⟨List.mem_cons_self, ?_⟩
      rcases hslot with hslot | ⟨-, hslot⟩
      · exact hslot
      · rw [hslot, Slot.drain_drain]
    · rw [markDraining_slot_ne hk] at hslot
      exact hslot.imp_right fun h => ⟨List.mem_cons_of_mem _ h.1, h.2⟩

theorem foldl_publishOperation (ps : List (RequestKey × TerminalOutcome))
    (hne : ∀ p ∈ ps, p.2 ≠ .response)
    (hw : ∀ k st w, (a.slot k).seat = some st → st.terminal = some w → w.Of k) :
    let b := ps.foldl publishOperation a
    a.outbox <+: b.outbox ∧ b.acknowledged = a.acknowledged ∧
    (∀ k st w, (b.slot k).seat = some st → st.terminal = some w → w.Of k) ∧
    ∀ k, ((∀ p ∈ ps, p.1 ≠ k) → b.slot k = a.slot k) ∧
      ∀ o, ps.filter (·.1 = k) = [(k, o)] → ∃ answer, o.Reports seen k answer ∧
        (a.slot k).Pays b.Told k answer (b.slot k) := by
  induction ps generalizing a with
  | nil => exact ⟨List.prefix_rfl, rfl, hw, fun k => ⟨fun _ => rfl, fun _ h => nomatch h⟩⟩
  | cons p ps ih =>
    obtain ⟨key, o⟩ := p
    have hfirst : Answers seen o key a (a.publishOperation (key, o)) :=
      publishOperation_answers (hne _ List.mem_cons_self) (hw key)
    have hw' : ∀ k st w, ((a.publishOperation (key, o)).slot k).seat = some st →
        st.terminal = some w → w.Of k := by
      intro k st w hst hterminal
      by_cases hk : k = key
      · subst hk
        exact hfirst.waiters st w hst hterminal
      · rw [hfirst.elsewhere k hk] at hst
        exact hw k st w hst hterminal
    obtain ⟨houtbox, hacked, hwaiters, hslots⟩ :=
      ih (fun p hp => hne p (List.mem_cons_of_mem _ hp)) hw'
    refine ⟨hfirst.outbox.trans houtbox, hacked.trans hfirst.acked, hwaiters, fun k => ?_⟩
    obtain ⟨hother, hself⟩ := hslots k
    refine ⟨fun hnone => ?_, fun o' hfilter => ?_⟩
    · exact (hother fun p hp => hnone p (List.mem_cons_of_mem _ hp)).trans
        (hfirst.elsewhere k (Ne.symm (hnone _ List.mem_cons_self)))
    · by_cases hk : key = k
      · subst hk
        rw [List.filter_cons_of_pos (by simp), List.cons_eq_cons, Prod.mk.injEq] at hfilter
        obtain ⟨⟨-, rfl⟩, hrest⟩ := hfilter
        have hnone : ∀ p ∈ ps, p.1 ≠ key := by simpa using List.filter_eq_nil_iff.mp hrest
        obtain ⟨answer, hr, hpays⟩ := hfirst.pays
        refine ⟨answer, hr, ?_⟩
        rw [List.foldl_cons, hother hnone]
        exact hpays.mono fun _ => Told.mono houtbox
      · rw [List.filter_cons_of_neg (by simpa using hk)] at hfilter
        rw [← hfirst.elsewhere k (Ne.symm hk)]
        exact hself o' hfilter

theorem settle_slot (h : a.Proper seen) (event : OwnerEvent)
    (hevent : ∀ k answer grant, event ≠ .response k answer grant) :
    a.outbox <+: (a.settle event).outbox ∧ (a.settle event).acknowledged = a.acknowledged ∧
    (∀ k st w, ((a.settle event).slot k).seat = some st → st.terminal = some w → w.Of k) ∧
    ∀ k, (a.settle event).slot k = a.slot k ∨
      Slot.Change seen True False (a.settle event).Told k (a.slot k) ((a.settle event).slot k) ∧
        ((a.settle event).slot k).outcome ≠ none := by
  let a₁ := (a.feed event).1
  let effects := (a.state.reduce event).2
  let a₂ := (rollbacks effects).foldl cancelRolledBackPreparation a₁
  let a₃ := (wireCancels effects).foldl markDraining a₂
  let a₄ := (publications effects).foldl publishOperation a₃
  have hmoves := GenerationState.reduce_moves h.sound.keyed event
  have hrolled : Silent a₁ a₂ := .foldl cancelRolledBackPreparation_silent _ a₁
  have hraw : Silent a₄ (a.settle event) := a₄.applyOwnerEffects_silent effects
  have hdrained (k : RequestKey) := foldl_markDraining (a := a₂) (k := k) (wireCancels effects)
  have hsame : a₃.outbox = a₂.outbox := (hdrained ⟨⟨0⟩, 0⟩).1
  -- Before anybody is answered, the outcomes are written and abandoned requests drain.
  have hbefore (k : RequestKey) : a₃.slot k = { a.slot k with
        outcome := (a.state.reduce event).1.terminalOutcome k } ∨
      k ∈ wireCancels effects ∧ a₃.slot k = Slot.drain { a.slot k with
        outcome := (a.state.reduce event).1.terminalOutcome k } := by
    have hslot := (hdrained k).2
    rwa [hrolled.slots k] at hslot
  have hwaiters : ∀ k st w, (a₃.slot k).seat = some st → st.terminal = some w → w.Of k := by
    intro k st w hst hterminal
    rcases hbefore k with hk | ⟨-, hk⟩
    · rw [hk] at hst
      exact h.waiters k st w hst hterminal
    · rw [hk] at hst
      obtain ⟨st', hst', rfl⟩ := Option.map_eq_some_iff.mp hst
      exact h.waiters k st' w hst' hterminal
  have hne : ∀ p ∈ publications effects, p.2 ≠ .response := by
    rintro ⟨k, o⟩ hp rfl
    obtain ⟨k', answer, grant, he⟩ := hmoves.answered hp
    exact hevent k' answer grant he
  obtain ⟨houtbox, hacked, hwaiters', hslots⟩ := foldl_publishOperation _ hne hwaiters
  refine ⟨?_, ?_, fun k st w hst => ?_, fun k => ?_⟩
  · refine (hrolled.outbox.trans ?_).trans (houtbox.trans hraw.outbox)
    rw [hsame]
  · rw [hraw.acked, hacked, acknowledged, hsame]
    exact hrolled.acked
  · rw [hraw.slots] at hst
    exact hwaiters' k st w hst
  · rw [hraw.slots k]
    by_cases hp : ∃ o, (k, o) ∈ publications effects
    · obtain ⟨o, ho⟩ := hp
      obtain ⟨hopen, hclosed, hfilter⟩ := h.sound.outcome_told ho
      obtain ⟨answer, hr, hpays⟩ := (hslots k).2 o hfilter
      have hafter : (a₄.slot k).outcome = some o := by
        show a₄.state.terminalOutcome k = some o
        have hbooks := a₁.applyOperationEffects_bookkeeping effects
        rw [show a₄.state = a₁.state from hbooks.state]
        exact hclosed
      right
      refine ⟨?_, by rw [hafter]; nofun⟩
      have hended : Slot.Change seen True False (a.settle event).Told k (a.slot k)
          { { a₄.slot k with outcome := none } with outcome := some o } := by
        refine .ended o answer _ _ hr hopen ?_
          ((hpays.outcome none).mono fun _ => Told.mono hraw.outbox)
        have hv : { a.slot k with outcome := none } = a.slot k := by rw [← hopen]; rfl
        rcases hbefore k with hk | ⟨-, hk⟩
        · rw [hk]
          exact .inl hv
        · rw [hk]
          exact .inr (congrArg Slot.drain hv)
      rwa [← hafter] at hended
    · have hnone : ∀ o, (k, o) ∉ publications effects := fun o ho => hp ⟨o, ho⟩
      left
      rw [(hslots k).1 (by rintro ⟨k', o⟩ ho rfl; exact hnone o ho)]
      rcases hbefore k with hk | ⟨hcancelled, -⟩
      · rw [hk, h.sound.outcome_untold hnone]
        rfl
      · exact absurd (hmoves.wireCancels_told hcancelled) hp

/-- An event that is no response completes only what it ends. -/
theorem settle_serves (h : a.Proper seen) (event : OwnerEvent)
    (hevent : ∀ k answer grant, event ≠ .response k answer grant) :
    Serves seen strict loose [] a (a.settle event) := by
  obtain ⟨houtbox, hacked, hwaiters, hslots⟩ := settle_slot h event hevent
  have hlog : a.Log (a.settle event) :=
    .event .refl event (a.settle_fed event).state (a.settle_fed event).fed
  have hearly : (a.settle event).earlyResponses = a.earlyResponses :=
    (a.settle_bookkeeping event).earlyResponses
  refine ⟨hlog, houtbox, by rw [hacked, List.append_nil],
    ⟨hlog.sound h.sound, fun k hk => ?_, hwaiters, fun k => ?_, h.early_same hlog hearly⟩,
    fun k => ?_⟩
  · rcases hslots k with hsame | ⟨-, hended⟩
    · rw [hsame]
      exact h.fresh k (Bool.eq_false_iff.mpr fun hknown =>
        Bool.eq_false_iff.mp hk (hlog.known h.sound hknown))
    · obtain ⟨o, ho⟩ := Option.ne_none_iff_exists'.mp hended
      rw [GenerationState.isKnown_of_outcome ho] at hk
      cases hk
  · rcases hslots k with hsame | ⟨hchange, -⟩
    · rw [hsame]
      exact h.dry k
    · exact hchange.dry (h.dry k)
  · rcases hslots k with hsame | ⟨hchange, -⟩
    · rw [hsame]
    · exact .single (hchange.mono (fun _ => trivial) False.elim fun _ => id)

end

end RequestAuthority

end Runtime
