import SmbClient.Runtime.Proof.Bookkeeping
import SmbClient.Runtime.Proof.Fate

/-!
# Where the owner keeps its requests

A request that is not finished is in the preparation order, in a queued frame, in the frame being
written, or in the hand of the function that moves it. `Desk` is this part of the owner, `Act` one
move on it.
-/

namespace Runtime

open GenerationState

variable {d d' : Desk} {clean whole : Prop}

structure Desk where
  authority : RequestAuthority
  hand : List RequestKey
  order : List RequestKey
  queue : List WriteCommand
  active : Option ActiveWrite
  handed : List RequestKey

namespace Desk

def writing (d : Desk) : List RequestKey :=
  match d.active with
  | some w => w.command.members
  | none => []

def queued (d : Desk) : List RequestKey := d.queue.flatMap (·.members)

def count (d : Desk) (key : RequestKey) : ℕ :=
  d.hand.count key + d.order.count key + d.queued.count key + d.writing.count key

abbrev state (d : Desk) : GenerationState := d.authority.state

def Stops (d : Desk) (w : ActiveWrite) : Prop :=
  w.command.cancelBeforeWrite ∈ d.authority.cancelled ∧ w.progressed = 0

def MaySend (d : Desk) (key : RequestKey) : Prop :=
  key ∈ d.queued ∨ ∃ w, d.active = some w ∧ key ∈ w.command.members ∧ ¬ d.Stops w

end Desk

open Desk

structure WriteCommand.Sealed (c : WriteCommand) : Prop where
  leader : c.key ∈ c.members
  token : c.cancelBeforeWrite = .frame c.key

/-! ## Changes of the tables -/

namespace RequestAuthority

variable {a b : RequestAuthority}

inductive Log (a : RequestAuthority) : RequestAuthority → Prop
  | refl : Log a a
  | idle {b c : RequestAuthority} (log : Log a b) (state : c.state = b.state)
      (fed : c.fed = b.fed) : Log a c
  | event {b c : RequestAuthority} (log : Log a b) (event : OwnerEvent)
      (state : c.state = (b.state.reduce event).1)
      (fed : c.fed = b.fed ++ [(event, (b.state.reduce event).2)]) : Log a c
  | target {b c : RequestAuthority} (log : Log a b) (credits : ℕ)
      (state : c.state = b.state.setTargetCredits credits) (fed : c.fed = b.fed) : Log a c

theorem Log.trans {c : RequestAuthority} (h : Log a b) (h' : Log b c) : Log a c := by
  induction h' with
  | refl => exact h
  | idle _ state fed ih => exact ih.idle state fed
  | event _ event state fed ih => exact ih.event event state fed
  | target _ credits state fed ih => exact ih.target credits state fed

theorem Log.sound (h : Log a b) (hs : a.state.Sound) : b.state.Sound := by
  induction h with
  | refl => exact hs
  | idle _ state _ ih => exact state ▸ ih
  | event _ event state _ ih => exact state ▸ ih.reduce event
  | target _ credits state _ ih => exact state ▸ ih.setTargetCredits credits

theorem Log.outcome {key : RequestKey} {o : TerminalOutcome} (h : Log a b)
    (hs : a.state.Sound) (ho : a.state.terminalOutcome key = some o) :
    b.state.terminalOutcome key = some o := by
  induction h with
  | refl => exact ho
  | idle _ state _ ih => exact state ▸ ih
  | event log event state _ ih => exact state ▸ (log.sound hs).outcome_stays ih event
  | target _ credits state _ ih => exact state ▸ ih

structure Fed (event : OwnerEvent) (a a' : RequestAuthority) : Prop where
  state : a'.state = (a.state.reduce event).1
  fed : a'.fed = a.fed ++ [(event, (a.state.reduce event).2)]
  cancelled : a.cancelled ⊆ a'.cancelled
  fatal : a'.fatal = a.fatal
  frameMembers : a'.frameMembers = a.frameMembers
  frameCancellations : a'.frameCancellations = a.frameCancellations

theorem feed_fed (a : RequestAuthority) (event : OwnerEvent) : Fed event a (a.feed event).1 :=
  ⟨rfl, rfl, List.Subset.refl _, rfl, rfl, rfl⟩

theorem Fed.bookkeeping {event : OwnerEvent} {c : RequestAuthority} (h : Fed event a b)
    (h' : Bookkeeping b c) : Fed event a c where
  state := h'.state.trans h.state
  fed := h'.fed.trans h.fed
  cancelled := List.Subset.trans h.cancelled h'.cancelled
  fatal := h'.fatal.trans h.fatal
  frameMembers := h'.frameMembers.trans h.frameMembers
  frameCancellations := h'.frameCancellations.trans h.frameCancellations

theorem settle_fed (a : RequestAuthority) (event : OwnerEvent) : Fed event a (a.settle event) :=
  (a.feed_fed event).bookkeeping (a.settle_bookkeeping event)

end RequestAuthority

structure RequestAuthority.Still (a a' : RequestAuthority) : Prop where
  log : a.Log a'
  onward : a.state.Onward [] a'.state
  sound : a.state.Sound → a'.state.Sound
  denied : a.state.Sound → ∀ k, a'.state.isDenied k = true → a.state.isDenied k = true
  cancelled : a.cancelled ⊆ a'.cancelled
  fatal : a'.fatal = none → a.fatal = none

namespace RequestAuthority.Still

variable {a b c : RequestAuthority}

theorem refl (a : RequestAuthority) : Still a a :=
  ⟨.refl, .same rfl, id, fun _ _ h => h, List.Subset.refl _, id⟩

theorem trans (h : Still a b) (h' : Still b c) : Still a c where
  log := h.log.trans h'.log
  onward := h.onward.trans h'.onward
  sound hs := h'.sound (h.sound hs)
  denied hs k hk := h.denied hs k (h'.denied (h.sound hs) k hk)
  cancelled := List.Subset.trans h.cancelled h'.cancelled
  fatal hf := h.fatal (h'.fatal hf)

theorem of_state (hs : b.state = a.state) (hl : b.fed = a.fed) (hc : a.cancelled ⊆ b.cancelled)
    (hf : b.fatal = none → a.fatal = none) : Still a b :=
  ⟨.idle .refl hs hl, .same (by rw [hs]), fun h => hs ▸ h, fun _ k hk => hs ▸ hk, hc, hf⟩

theorem of_bookkeeping (h : Bookkeeping a b) : Still a b :=
  of_state h.state h.fed h.cancelled fun hf => h.fatal ▸ hf

theorem feed (a : RequestAuthority) (event : OwnerEvent)
    (hplans : plans (a.state.reduce event).2 = [])
    (hends : ∀ s key, ¬ event.MayEnd s key) (hs : a.state.Sound) : Still a (a.feed event).1 where
  log := .event .refl event rfl rfl
  onward := by
    have ho := hs.onward event
    rwa [hplans] at ho
  sound h := h.reduce event
  denied h k hk := (denied_cause h hk).resolve_right fun hc => hends _ _ hc.2.2
  cancelled := List.Subset.refl _
  fatal := id

end RequestAuthority.Still

/-! ## Acts -/

def Desk.SameFrame (d : Desk) (a : RequestAuthority) : Prop :=
  ∀ w, d.active = some w →
    a.frameMembers.lookup w.command.key = d.authority.frameMembers.lookup w.command.key ∧
    a.frameCancellations.lookup w.command.key = d.authority.frameCancellations.lookup w.command.key

theorem Desk.SameFrame.of_eq {a : RequestAuthority} (hm : a.frameMembers = d.authority.frameMembers)
    (hc : a.frameCancellations = d.authority.frameCancellations) : d.SameFrame a :=
  fun _ _ => ⟨by rw [hm], by rw [hc]⟩

theorem RequestAuthority.Fed.sameFrame {event : OwnerEvent} {a : RequestAuthority}
    (h : d.authority.Fed event a) : d.SameFrame a :=
  .of_eq h.frameMembers h.frameCancellations

/-- An act is `clean` if it denies the wire to nobody who may still be sent, and `whole` if it puts
nobody out of place who waits. -/
inductive Act (clean whole : Prop) (d : Desk) : Desk → Prop
  | still (a : RequestAuthority) (still : d.authority.Still a) (frame : d.SameFrame a) :
      Act clean whole d { d with authority := a }
  | settled (event : OwnerEvent) (a : RequestAuthority) (fed : d.authority.Fed event a)
      (plans : ∀ payload charge deadline, event ≠ .admitRequest payload charge deadline)
      (unsent : clean → ∀ k, event.MayEnd d.state k → d.state.isOpen k = true →
        d.state.isCommitted k = false → ¬ d.MaySend k) :
      Act clean whole d { d with authority := a }
  | admitted (event : OwnerEvent) (plan : PreparationPlan) (a : RequestAuthority)
      (fed : d.authority.Fed event a) (admission : Admission d.state plan a.state) :
      Act clean whole d { d with authority := a, hand := d.hand ++ [plan.key] }
  | reserved (key : RequestKey) (rest : List RequestKey) (hand : d.hand = key :: rest) :
      Act clean whole d { d with hand := rest, order := d.order ++ [key] }
  | released (keys order : List RequestKey) (split : d.order = keys ++ order) :
      Act clean whole d { d with hand := keys ++ d.hand, order }
  | pushed (c : WriteCommand) (rest : List RequestKey) (hand : d.hand = c.members ++ rest)
      (sealed : c.Sealed) (clear : ∀ k ∈ c.members, d.state.isDenied k = false) :
      Act clean whole d { d with hand := rest, queue := d.queue ++ [c] }
  | withdrawn (before after : List WriteCommand) (c : WriteCommand)
      (split : d.queue = before ++ c :: after) :
      Act clean whole d { d with hand := c.members ++ d.hand, queue := before ++ after }
  | dropped (before after : List RequestKey) (key : RequestKey)
      (hand : d.hand = before ++ key :: after)
      (settled : whole → d.authority.fatal = none → d.state.isOpen key = true →
        d.state.isCommitted key = true) :
      Act clean whole d { d with hand := before ++ after }
  | dispatched (c : WriteCommand) (queue : List WriteCommand) (a : RequestAuthority)
      (head : d.queue = c :: queue) (idle : d.active = none) (still : d.authority.Still a)
      (members : a.frameMembers.lookup c.key = some c.members)
      (token : a.frameCancellations.lookup c.key = some c.cancelBeforeWrite) :
      Act clean whole d { d with authority := a, queue, active := some ⟨c, 0, 0, false⟩ }
  | handedOver (w : ActiveWrite) (active : d.active = some w) (runs : ¬ d.Stops w)
      (committed : ∀ k ∈ w.command.members, d.state.isCommitted k = true) :
      Act clean whole d { d with handed := w.command.members ++ d.handed }
  | advanced (w w' : ActiveWrite) (active : d.active = some w) (command : w'.command = w.command)
      (progressed : w.progressed ≤ w'.progressed) (reported : w'.reported ≤ w'.progressed)
      (uninterruptible : w'.uninterruptible = true → 0 < w'.progressed)
      (committed : 0 < w'.progressed → ∀ k ∈ w.command.members, d.state.isCommitted k = true)
      (runs : ¬ d.Stops w) :
      Act clean whole d { d with active := some w' }
  | finished (w : ActiveWrite) (active : d.active = some w) :
      Act clean whole d { d with active := none, hand := w.command.members ++ d.hand }

theorem Act.mono {clean' whole' : Prop} (hc : clean' → clean)
    (hw : whole' → whole) (act : Act clean whole d d') : Act clean' whole' d d' := by
  cases act with
  | still a still frame => exact .still a still frame
  | settled event a fed plans unsent => exact .settled event a fed plans fun h => unsent (hc h)
  | admitted event plan a fed admission => exact .admitted event plan a fed admission
  | reserved key rest hand => exact .reserved key rest hand
  | released keys order split => exact .released keys order split
  | pushed c rest hand sealed clear => exact .pushed c rest hand sealed clear
  | withdrawn before after c split => exact .withdrawn before after c split
  | dropped before after key hand settled =>
    exact .dropped before after key hand fun h => settled (hw h)
  | dispatched c queue a head idle still members token =>
    exact .dispatched c queue a head idle still members token
  | handedOver w active runs committed => exact .handedOver w active runs committed
  | advanced w w' active command progressed reported uninterruptible committed runs =>
    exact .advanced w w' active command progressed reported uninterruptible committed runs
  | finished w active => exact .finished w active

inductive Acts (clean whole : Prop) : Desk → Desk → Prop
  | refl (d : Desk) : Acts clean whole d d
  | tail {d d' d'' : Desk} (acts : Acts clean whole d d') (act : Act clean whole d' d'') :
      Acts clean whole d d''

namespace Acts

variable {clean whole : Prop} {d d' d'' : Desk}

theorem single (h : Act clean whole d d') : Acts clean whole d d' := .tail (.refl d) h

theorem mono {clean' whole' : Prop} (hc : clean' → clean) (hw : whole' → whole)
    (h : Acts clean whole d d') : Acts clean' whole' d d' := by
  induction h with
  | refl => exact .refl d
  | tail _ act ih => exact ih.tail (act.mono hc hw)

theorem trans (h : Acts clean whole d d') (h' : Acts clean whole d' d'') :
    Acts clean whole d d'' := by
  induction h' with
  | refl => exact h
  | tail _ act ih => exact .tail ih act

end Acts

theorem Act.log (act : Act clean whole d d') : d.authority.Log d'.authority := by
  cases act with
  | still a still frame => exact still.log
  | settled event a fed plans unsent => exact .event .refl event fed.state fed.fed
  | admitted event plan a fed admission => exact .event .refl event fed.state fed.fed
  | dispatched c queue a head idle still members token => exact still.log
  | reserved | released | pushed | withdrawn | dropped | handedOver | advanced | finished =>
    exact .refl

theorem Acts.log (acts : Acts clean whole d d') : d.authority.Log d'.authority := by
  induction acts with
  | refl => exact .refl
  | tail _ act ih => exact ih.trans act.log

/-! ## What an act does to the places -/

namespace Desk

variable {d : Desk} {w : ActiveWrite}
variable {c : WriteCommand}

theorem writing_eq (h : d.active = some w) : d.writing = w.command.members := by
  rw [writing, h]

theorem writing_none (h : d.active = none) : d.writing = [] := by
  rw [writing, h]

theorem count_admitted (a : RequestAuthority) (key k : RequestKey) :
    count { d with authority := a, hand := d.hand ++ [key] } k =
      d.count k + if key = k then 1 else 0 := by
  show (d.hand ++ [key]).count k + d.order.count k + d.queued.count k + d.writing.count k = _
  rw [List.count_append, List.count_singleton, count]
  simp only [beq_iff_eq]
  omega

theorem count_reserved {key : RequestKey} {rest : List RequestKey} (hand : d.hand = key :: rest)
    (k : RequestKey) :
    count { d with hand := rest, order := d.order ++ [key] } k = d.count k := by
  show rest.count k + (d.order ++ [key]).count k + d.queued.count k + d.writing.count k = _
  rw [count, hand]
  simp only [List.count_append, List.count_cons, List.count_nil]
  omega

theorem count_released {keys order : List RequestKey} (split : d.order = keys ++ order)
    (k : RequestKey) : count { d with hand := keys ++ d.hand, order } k = d.count k := by
  show (keys ++ d.hand).count k + order.count k + d.queued.count k + d.writing.count k = _
  rw [count, split, List.count_append, List.count_append]
  omega

theorem count_pushed {rest : List RequestKey} (hand : d.hand = c.members ++ rest)
    (k : RequestKey) : count { d with hand := rest, queue := d.queue ++ [c] } k = d.count k := by
  show rest.count k + d.order.count k + ((d.queue ++ [c]).flatMap (·.members)).count k +
    d.writing.count k = _
  rw [count, hand, List.flatMap_append, List.flatMap_singleton, List.count_append,
    List.count_append, queued]
  omega

theorem count_withdrawn {before after : List WriteCommand}
    (split : d.queue = before ++ c :: after) (k : RequestKey) :
    count { d with hand := c.members ++ d.hand, queue := before ++ after } k = d.count k := by
  show (c.members ++ d.hand).count k + d.order.count k +
    ((before ++ after).flatMap (·.members)).count k + d.writing.count k = _
  rw [count, queued, split]
  simp only [List.flatMap_append, List.flatMap_cons, List.count_append]
  omega

theorem count_dropped {before after : List RequestKey} {key : RequestKey}
    (hand : d.hand = before ++ key :: after) (k : RequestKey) :
    d.count k = count { d with hand := before ++ after } k + if key = k then 1 else 0 := by
  show _ = (before ++ after).count k + d.order.count k + d.queued.count k + d.writing.count k + _
  rw [count, hand]
  simp only [List.count_append, List.count_cons, beq_iff_eq]
  omega

theorem count_dispatched {queue : List WriteCommand} (head : d.queue = c :: queue)
    (idle : d.active = none) (a : RequestAuthority) (k : RequestKey) :
    count { d with authority := a, queue, active := some ⟨c, 0, 0, false⟩ } k = d.count k := by
  show d.hand.count k + d.order.count k + (queue.flatMap (·.members)).count k +
    c.members.count k = _
  rw [count, queued, head, List.flatMap_cons, List.count_append, writing_none idle]
  simp only [List.count_nil]
  omega

theorem count_advanced {w' : ActiveWrite} (active : d.active = some w)
    (command : w'.command = w.command) (k : RequestKey) :
    count { d with active := some w' } k = d.count k := by
  show d.hand.count k + d.order.count k + d.queued.count k + w'.command.members.count k = _
  rw [count, writing_eq active, command]

theorem count_finished (active : d.active = some w) (k : RequestKey) :
    count { d with active := none, hand := w.command.members ++ d.hand } k = d.count k := by
  show (w.command.members ++ d.hand).count k + d.order.count k + d.queued.count k +
    ([] : List RequestKey).count k = _
  rw [count, writing_eq active, List.count_append, List.count_nil]
  omega

end Desk

/-! ## Nobody is in two places -/

structure Desk.Writes (d : Desk) (w : ActiveWrite) : Prop where
  sealed : w.command.Sealed
  members : d.authority.frameMembers.lookup w.command.key = some w.command.members
  token : d.authority.frameCancellations.lookup w.command.key = some w.command.cancelBeforeWrite
  committed : 0 < w.progressed → ∀ k ∈ w.command.members, d.state.isCommitted k = true
  reported : w.reported ≤ w.progressed
  uninterruptible : w.uninterruptible = true → 0 < w.progressed

structure Desk.Filed (d : Desk) : Prop where
  sound : d.state.Sound
  once : ∀ k, d.count k ≤ 1
  known : ∀ k, 0 < d.count k → d.state.isKnown k = true
  queued : ∀ c ∈ d.queue, c.Sealed
  active : ∀ w, d.active = some w → d.Writes w

section
variable {clean whole : Prop} {d d' : Desk} {a : RequestAuthority}

theorem Desk.Writes.later {w : ActiveWrite} (h : d.Writes w) (hw : d.active = some w)
    (hf : d.SameFrame a) (hc : ∀ k, d.state.isCommitted k = true → a.state.isCommitted k = true)
    (hand : List RequestKey) : Writes { d with authority := a, hand } w where
  sealed := h.sealed
  members := (hf w hw).1.trans h.members
  token := (hf w hw).2.trans h.token
  committed hp k hk := hc k (h.committed hp k hk)
  reported := h.reported
  uninterruptible := h.uninterruptible

theorem Desk.Writes.moved {w : ActiveWrite} (h : d.Writes w) (ha : d'.authority = d.authority) :
    d'.Writes w where
  sealed := h.sealed
  members := ha ▸ h.members
  token := ha ▸ h.token
  committed hp k hk := by
    show d'.authority.state.isCommitted k = true
    rw [ha]
    exact h.committed hp k hk
  reported := h.reported
  uninterruptible := h.uninterruptible

theorem Desk.Filed.later (h : d.Filed) (hs : a.state.Sound) (ho : d.state.Onward [] a.state)
    (hf : d.SameFrame a) : Filed { d with authority := a } where
  sound := hs
  once := h.once
  known k hk := ho.known k (h.known k hk)
  queued := h.queued
  active w hw := (h.active w hw).later hw hf ho.committed d.hand

theorem Desk.Filed.moved (h : d.Filed) (ha : d'.authority = d.authority)
    (hcount : ∀ k, d'.count k ≤ d.count k) (hq : ∀ c ∈ d'.queue, c.Sealed)
    (hw : ∀ w, d'.active = some w → d'.Writes w) : d'.Filed where
  sound := by
    show d'.authority.state.Sound
    rw [ha]
    exact h.sound
  once k := (hcount k).trans (h.once k)
  known k hk := by
    show d'.authority.state.isKnown k = true
    rw [ha]
    exact h.known k (hk.trans_le (hcount k))
  queued := hq
  active := hw

theorem Desk.Filed.count_fresh {plan : PreparationPlan} {s : GenerationState} (h : d.Filed)
    (ha : Admission d.state plan s) : d.count plan.key = 0 := by
  by_contra hne
  obtain ⟨r, hr⟩ := isKnown_iff.mp (h.known plan.key (Nat.pos_of_ne_zero hne))
  rw [ha.fresh h.sound] at hr
  cases hr

theorem Act.filed (act : Act clean whole d d') (h : d.Filed) : d'.Filed := by
  cases act with
  | still a still frame => exact h.later (still.sound h.sound) still.onward frame
  | settled event a fed plans unsent =>
    exact h.later (fed.state ▸ h.sound.reduce event) (fed.state ▸ h.sound.onward_unplanned plans)
      fed.sameFrame
  | admitted event plan a fed admission =>
    have ho := admission.onward h.sound
    refine ⟨admission.sound h.sound, fun k => ?_, fun k hk => ?_, h.queued, fun w hw =>
      (h.active w hw).later hw fed.sameFrame ho.committed _⟩
    · rw [count_admitted]
      split
      · rename_i he
        rw [← he, h.count_fresh admission]
      · exact h.once k
    · rw [count_admitted] at hk
      split at hk
      · rename_i he
        refine isKnown_iff.mpr ⟨plan.record, ?_⟩
        rw [← he]
        exact (admission.lookup plan.key).trans (if_pos rfl)
      · exact ho.known k (h.known k hk)
  | reserved key rest hand =>
    exact h.moved rfl (fun k => (count_reserved hand k).le) h.queued
      fun w hw => (h.active w hw).moved rfl
  | released keys order split =>
    exact h.moved rfl (fun k => (count_released split k).le) h.queued
      fun w hw => (h.active w hw).moved rfl
  | pushed c rest hand sealed clear =>
    refine h.moved rfl (fun k => (count_pushed hand k).le) (fun c' hc' => ?_)
      fun w hw => (h.active w hw).moved rfl
    rcases List.mem_append.mp hc' with hc' | hc'
    · exact h.queued c' hc'
    · rw [List.mem_singleton.mp hc']
      exact sealed
  | withdrawn before after c split =>
    refine h.moved rfl (fun k => (count_withdrawn split k).le)
      (fun c' hc' => h.queued c' ?_) fun w hw => (h.active w hw).moved rfl
    rw [split]
    rcases List.mem_append.mp hc' with hc' | hc'
    · exact List.mem_append_left _ hc'
    · exact List.mem_append_right _ (List.mem_cons_of_mem _ hc')
  | dropped before after key hand settled =>
    refine h.moved rfl (fun k => ?_) h.queued fun w hw => (h.active w hw).moved rfl
    rw [count_dropped hand k]
    exact Nat.le_add_right _ _
  | dispatched c queue a head idle still members token =>
    have hsealed : c.Sealed := h.queued c (by rw [head]; exact List.mem_cons_self)
    refine ⟨still.sound h.sound, fun k => (count_dispatched head idle a k).trans_le (h.once k),
      fun k hk => ?_,
      fun c' hc' => h.queued c' (by rw [head]; exact List.mem_cons_of_mem _ hc'), fun w hw => ?_⟩
    · rw [count_dispatched head idle] at hk
      exact still.onward.known k (h.known k hk)
    · obtain rfl := Option.some.inj hw
      exact ⟨hsealed, members, token, fun hp => absurd hp (lt_irrefl 0), le_refl 0,
        fun hu => nomatch hu⟩
  | handedOver w active runs committed =>
    exact h.moved rfl (fun k => le_refl _) h.queued fun w hw => (h.active w hw).moved rfl
  | advanced w w' active command progressed reported uninterruptible committed runs =>
    refine h.moved rfl (fun k => (count_advanced active command k).le) h.queued
      (fun w₁ hw₁ => ?_)
    obtain rfl := Option.some.inj hw₁
    have hw := h.active w active
    exact ⟨command ▸ hw.sealed, command ▸ hw.members, command ▸ hw.token,
      fun hp => command ▸ committed hp, reported, uninterruptible⟩
  | finished w active =>
    exact h.moved rfl (fun k => (count_finished active k).le) h.queued
      (fun w₁ hw₁ => nomatch hw₁)

/-- **No key stands in two places**, whatever the owner does. -/
theorem Acts.filed (acts : Acts clean whole d d') (h : d.Filed) : d'.Filed := by
  induction acts with
  | refl => exact h
  | tail _ act ih => exact act.filed ih

/-! ## Nobody is sent after having been told that it was not -/

structure Desk.Unsent (d : Desk) : Prop where
  sent : ∀ k ∈ d.handed, d.state.isCommitted k = true ∧ d.state.isDenied k = false
  clear : ∀ k, d.MaySend k → d.state.isDenied k = false

theorem Desk.MaySend.before {k : RequestKey} {hand : List RequestKey}
    (hc : d.authority.cancelled ⊆ a.cancelled)
    (h : MaySend { d with authority := a, hand } k) : d.MaySend k := by
  rcases h with hq | ⟨w, hw, hk, hs⟩
  · exact .inl hq
  · exact .inr ⟨w, hw, hk, fun h => hs ⟨hc h.1, h.2⟩⟩

theorem Desk.Unsent.later (h : d.Unsent) (hc : d.authority.cancelled ⊆ a.cancelled)
    (hcommitted : ∀ k, d.state.isCommitted k = true → a.state.isCommitted k = true)
    (hdenied : ∀ k, a.state.isDenied k = true → d.state.isDenied k = true ∨
      (d.state.isCommitted k = false ∧ ¬ d.MaySend k)) (hand : List RequestKey) :
    Unsent { d with authority := a, hand } where
  sent k hk := by
    obtain ⟨hcom, hden⟩ := h.sent k hk
    refine ⟨hcommitted k hcom, Bool.eq_false_iff.mpr fun hd => ?_⟩
    rcases hdenied k hd with hd | ⟨hd, -⟩
    · rw [hden] at hd
      cases hd
    · rw [hcom] at hd
      cases hd
  clear k hk := by
    have hm := hk.before hc
    refine Bool.eq_false_iff.mpr fun hd => ?_
    rcases hdenied k hd with hd | ⟨-, hd⟩
    · rw [h.clear k hm] at hd
      cases hd
    · exact hd hm

theorem Desk.Unsent.moved (h : d.Unsent) (ha : d'.authority = d.authority)
    (hh : d'.handed = d.handed)
    (hm : ∀ k, d'.MaySend k → d.MaySend k ∨ d.state.isDenied k = false) : d'.Unsent where
  sent k hk := by
    show d'.authority.state.isCommitted k = true ∧ d'.authority.state.isDenied k = false
    rw [ha]
    exact h.sent k (hh ▸ hk)
  clear k hk := by
    show d'.authority.state.isDenied k = false
    rw [ha]
    exact (hm k hk).elim (h.clear k) id

theorem Admission.denied {s s' : GenerationState} {plan : PreparationPlan}
    (h : Admission s plan s') {k : RequestKey} (hk : s'.isDenied k = true) :
    s.isDenied k = true := by
  obtain ⟨o, ho, hn⟩ := isDenied_iff.mp hk
  refine isDenied_iff.mpr ⟨o, ?_, hn⟩
  rw [terminalOutcome_eq, h.lookup] at ho
  split at ho
  · cases ho
  · rwa [terminalOutcome_eq]

theorem Act.unsent (act : Act clean whole d d') (hclean : clean) (hf : d.Filed) (h : d.Unsent) :
    d'.Unsent := by
  cases act with
  | still a still frame =>
    exact h.later still.cancelled still.onward.committed
      (fun k hk => .inl (still.denied hf.sound k hk)) d.hand
  | settled event a fed plans unsent =>
    refine h.later fed.cancelled (fed.state ▸ (hf.sound.onward_unplanned plans).committed)
      (fun k hk => ?_) d.hand
    rw [fed.state] at hk
    rcases denied_cause hf.sound hk with hd | ⟨hopen, huncommitted, hend⟩
    · exact .inl hd
    · exact .inr ⟨huncommitted, unsent hclean k hend hopen huncommitted⟩
  | admitted event plan a fed admission =>
    exact h.later fed.cancelled (admission.onward hf.sound).committed
      (fun k hk => .inl (admission.denied hk)) _
  | reserved key rest hand => exact h.moved rfl rfl fun k hk => .inl hk
  | released keys order split => exact h.moved rfl rfl fun k hk => .inl hk
  | pushed c rest hand sealed clear =>
    refine h.moved rfl rfl fun k hk => ?_
    rcases hk with hq | ha
    · change k ∈ (d.queue ++ [c]).flatMap (·.members) at hq
      rw [List.flatMap_append, List.flatMap_singleton, List.mem_append] at hq
      exact hq.imp .inl (clear k)
    · exact .inl (.inr ha)
  | withdrawn before after c split =>
    refine h.moved rfl rfl fun k hk => .inl (hk.imp_left fun hq => ?_)
    change k ∈ (before ++ after).flatMap (·.members) at hq
    rw [queued, split]
    simp only [List.flatMap_append, List.flatMap_cons, List.mem_append] at hq ⊢
    exact hq.imp_right .inr
  | dropped before after key hand settled => exact h.moved rfl rfl fun k hk => .inl hk
  | dispatched c queue a head idle still members token =>
    have hl : Desk.Unsent { d with authority := a } :=
      h.later still.cancelled still.onward.committed
        (fun k hk => .inl (still.denied hf.sound k hk)) d.hand
    refine hl.moved rfl rfl fun k hk => .inl (.inl ?_)
    rw [queued, head, List.flatMap_cons, List.mem_append]
    rcases hk with hq | ⟨w, hw, hk, -⟩
    · exact .inr hq
    · obtain rfl := Option.some.inj hw
      exact .inl hk
  | handedOver w active runs committed =>
    refine ⟨fun k hk => ?_, h.clear⟩
    rcases List.mem_append.mp hk with hk | hk
    · exact ⟨committed k hk, h.clear k (.inr ⟨w, active, hk, runs⟩)⟩
    · exact h.sent k hk
  | advanced w w' active command progressed reported uninterruptible committed runs =>
    refine h.moved rfl rfl fun k hk => .inl ?_
    rcases hk with hq | ⟨w₁, hw₁, hk, -⟩
    · exact .inl hq
    · obtain rfl := Option.some.inj hw₁
      exact .inr ⟨w, active, command ▸ hk, runs⟩
  | finished w active =>
    refine h.moved rfl rfl fun k hk => .inl ?_
    rcases hk with hq | ⟨w₁, hw₁, -⟩
    · exact .inl hq
    · cases hw₁

/-- **Nobody is sent after having been told that it was not.** -/
theorem Acts.unsent (acts : Acts clean whole d d') (hclean : clean) (hf : d.Filed)
    (h : d.Unsent) : d'.Unsent := by
  induction acts with
  | refl => exact h
  | tail acts act ih => exact act.unsent hclean (acts.filed hf) ih

/-! ## Nobody waits without a place -/

def Desk.Placed (d : Desk) : Prop :=
  d.authority.fatal = none → ∀ k, d.state.isOpen k = true →
    d.state.isCommitted k = true ∨ 0 < d.count k

theorem Desk.Placed.later (h : d.Placed) (hf : a.fatal = none → d.authority.fatal = none)
    (ho : d.state.Onward [] a.state) : Placed { d with authority := a } := by
  intro hfatal k hk
  have hk := (ho.opened k hk).resolve_right (by simp)
  exact (h (hf hfatal) k hk).imp_left (ho.committed k)

theorem Desk.Placed.moved (h : d.Placed) (ha : d'.authority = d.authority)
    (hc : ∀ k, d'.count k = d.count k) : d'.Placed := by
  intro hfatal k hk
  rw [state, ha] at hk ⊢
  rw [hc]
  exact h (ha ▸ hfatal) k hk

theorem Act.placed (act : Act clean whole d d') (hwhole : whole) (hf : d.Filed) (h : d.Placed) :
    d'.Placed := by
  cases act with
  | still a still frame => exact h.later still.fatal still.onward
  | settled event a fed plans unsent =>
    exact h.later (fun hfatal => fed.fatal ▸ hfatal) (fed.state ▸ hf.sound.onward_unplanned plans)
  | admitted event plan a fed admission =>
    intro hfatal k hk
    have ho := admission.onward hf.sound
    rw [count_admitted]
    rcases ho.opened k hk with hk | ⟨p, hp, rfl⟩
    · exact (h (fed.fatal ▸ hfatal) k hk).imp (ho.committed k) fun h => Nat.add_pos_left h _
    right
    rw [List.mem_singleton.mp hp, if_pos rfl]
    exact Nat.succ_pos _
  | reserved key rest hand => exact h.moved rfl (count_reserved hand)
  | released keys order split => exact h.moved rfl (count_released split)
  | pushed c rest hand sealed clear => exact h.moved rfl (count_pushed hand)
  | withdrawn before after c split => exact h.moved rfl (count_withdrawn split)
  | dropped before after key hand settled =>
    intro hfatal k hk
    by_cases he : key = k
    · subst he
      exact .inl (settled hwhole hfatal hk)
    · have hcount := count_dropped hand k
      rw [if_neg he, Nat.add_zero] at hcount
      rw [← hcount]
      exact h hfatal k hk
  | dispatched c queue a head idle still members token =>
    have hl : Desk.Placed { d with authority := a } := h.later still.fatal still.onward
    intro hfatal k hk
    rw [count_dispatched head idle]
    exact hl hfatal k hk
  | handedOver w active runs committed => exact h.moved rfl fun _ => rfl
  | advanced w w' active command progressed reported uninterruptible committed runs =>
    exact h.moved rfl (count_advanced active command)
  | finished w active => exact h.moved rfl (count_finished active)

/-- **Nobody waits without a place.** -/
theorem Acts.placed (acts : Acts clean whole d d') (hwhole : whole) (hf : d.Filed)
    (h : d.Placed) : d'.Placed := by
  induction acts with
  | refl => exact h
  | tail acts act ih => exact act.placed hwhole (acts.filed hf) ih

end

end Runtime
