import Mathlib.Logic.Relation
import SmbClient.Runtime.Proof.Desk

/-!
# What the owner keeps for one caller

`Slot` is everything the owner keeps for the caller of one request, `Change` one change of it.
`Slot.Held`: whoever submitted the operation waits or was told something. `Slot.Parcel`: the result
waits for the first `AwaitOperation`; only strict changes that are not loose keep it.
-/

namespace Runtime

abbrev Answer : Type := Except RuntimeError OperationResult

/-- How a caller learns of the outcome: a response is a message that was `seen`. -/
def TerminalOutcome.Reports (seen : CommandResponse → Prop) (key : RequestKey) :
    TerminalOutcome → Answer → Prop
  | .response, .ok result =>
    result.key = key ∧ result.response.messageId = key.messageId ∧ seen result.response
  | .response, .error _ => False
  | outcome, answer => answer = .error (.terminal outcome)

structure Seat where
  terminal : Option Waiter
  buffered : Option Answer
  draining : Bool
  callerCompleted : Bool

def OperationPending.seat (entry : OperationPending) : Seat :=
  ⟨entry.terminal, entry.buffered, entry.draining, entry.callerCompleted⟩

def Waiter.Of (key : RequestKey) : Waiter → Prop
  | .ticket _ => True
  | .awaiting k _ => k = key
  | .stranger _ => False

structure Slot where
  outcome : Option TerminalOutcome
  seat : Option Seat
  awaits : ℕ
  heard : ℕ → List Answer

namespace Slot

def empty : Slot := ⟨none, none, 0, fun _ => []⟩

def new (terminal : Option Waiter) : Slot :=
  { empty with seat := some ⟨terminal, none, false, false⟩ }

variable (v : Slot)

def tell (key : RequestKey) (waiter : Waiter) (answer : Answer) : Slot :=
  { v with heard := fun i => if waiter = .awaiting key i then v.heard i ++ [answer] else v.heard i }

theorem tell_other {key k : RequestKey} {waiter : Waiter} (h : waiter.Of key)
    (hk : k ≠ key) (answer : Answer) : v.tell k waiter answer = v := by
  have hne : ∀ i, waiter ≠ .awaiting k i := by
    rintro i rfl
    exact hk h
  simp only [tell, hne, if_false]

def drain : Slot :=
  { v with seat := v.seat.map fun st => { st with draining := true } }

theorem drain_drain : v.drain.drain = v.drain := by
  simp [drain, Function.comp_def]

/-! ## Changes -/

inductive Pays (told : Waiter → Prop) (key : RequestKey) (answer : Answer) (v : Slot) : Slot → Prop
  | nobody (seat : v.seat = none) : Pays told key answer v v
  | delivered (st : Seat) (waiter : Waiter) (seat : v.seat = some st)
      (terminal : st.terminal = some waiter) (hears : told waiter) :
      Pays told key answer v ({ v with seat := none }.tell key waiter answer)
  | drained (st : Seat) (waiter : Waiter) (seat : v.seat = some st)
      (terminal : st.terminal = some waiter) (hears : told waiter) :
      Pays told key answer v
        ({ v with seat := some { st with terminal := none, callerCompleted := true } }.tell
          key waiter answer)
  | buffered (st : Seat) (seat : v.seat = some st) (terminal : st.terminal = none) :
      Pays told key answer v { v with seat := some { st with buffered := some answer } }

inductive Fetches (key : RequestKey) (v : Slot) : Slot → Prop
  | unknown (seat : v.seat = none) :
      Fetches key v (v.tell key (.awaiting key v.awaits) (.error (.unknownRequest key)))
  | fetched (st : Seat) (answer : Answer) (seat : v.seat = some st)
      (buffered : st.buffered = some answer) (rest : Option Seat)
      (left : rest = none ∨ rest = some { st with buffered := none, callerCompleted := true }) :
      Fetches key v ({ v with seat := rest }.tell key (.awaiting key v.awaits) answer)
  | refused (st : Seat) (seat : v.seat = some st) (buffered : st.buffered = none)
      (taken : st.terminal.isSome ∨ st.callerCompleted) :
      Fetches key v (v.tell key (.awaiting key v.awaits) (.error (.alreadyAwaited key)))
  | waits (st : Seat) (seat : v.seat = some st) (buffered : st.buffered = none)
      (terminal : st.terminal = none) (callerCompleted : st.callerCompleted = false) :
      Fetches key v { v with seat := some { st with terminal := some (.awaiting key v.awaits) } }

inductive Change (seen : CommandResponse → Prop) (strict loose : Prop) (told : Waiter → Prop)
    (key : RequestKey) (v : Slot) : Slot → Prop
  | registered (terminal : Option Waiter) (fresh : v = empty) :
      Change seen strict loose told key v (new terminal)
  | ended (outcome : TerminalOutcome) (answer : Answer) (w v' : Slot)
      (reports : outcome.Reports seen key answer) (opened : v.outcome = none)
      (drains : w = v ∨ w = v.drain) (pays : w.Pays told key answer v') :
      Change seen strict loose told key v { v' with outcome := some outcome }
  /-- A draining entry is dropped with the late response. -/
  | late (st : Seat) (seat : v.seat = some st) (draining : st.draining = true)
      (fetched : strict → st.buffered = none) :
      Change seen strict loose told key v { v with seat := none }
  | repeated (v' : Slot) (closed : v.outcome ≠ none) (same : v'.outcome = v.outcome)
      (sloppy : ¬ strict) :
      Change seen strict loose told key v v'
  | awaited (v' : Slot) (fetches : v.Fetches key v') :
      Change seen strict loose told key v { v' with awaits := v.awaits + 1 }
  | dropped (v' : Slot) (preparing : loose) (seat : v'.seat = none)
      (hears : v.outcome = none → ∀ st waiter, v.seat = some st → st.terminal = some waiter →
        told waiter) :
      Change seen strict loose told key v v'

abbrev Changes (seen : CommandResponse → Prop) (strict loose : Prop) (told : Waiter → Prop)
    (key : RequestKey) : Slot → Slot → Prop :=
  Relation.ReflTransGen (Change seen strict loose told key)

section
variable {seen : CommandResponse → Prop} {strict loose strict' loose' : Prop}
  {told told' : Waiter → Prop} {key : RequestKey} {answer : Answer} {v w v' : Slot}
variable {number : ℕ}

theorem Pays.mono (ht : ∀ waiter, told waiter → told' waiter) (h : v.Pays told key answer v') :
    v.Pays told' key answer v' := by
  cases h with
  | nobody seat => exact .nobody seat
  | delivered st waiter seat terminal hears => exact .delivered st waiter seat terminal (ht _ hears)
  | drained st waiter seat terminal hears => exact .drained st waiter seat terminal (ht _ hears)
  | buffered st seat terminal => exact .buffered st seat terminal

theorem Pays.outcome (o : Option TerminalOutcome) (h : v.Pays told key answer v') :
    Pays told key answer { v with outcome := o } { v' with outcome := o } := by
  cases h with
  | nobody seat => exact .nobody seat
  | delivered st waiter seat terminal hears => exact .delivered st waiter seat terminal hears
  | drained st waiter seat terminal hears => exact .drained st waiter seat terminal hears
  | buffered st seat terminal => exact .buffered st seat terminal

theorem Change.mono (hs : strict' → strict) (hl : loose → loose')
    (ht : ∀ waiter, told waiter → told' waiter) (h : Change seen strict loose told key v v') :
    Change seen strict' loose' told' key v v' := by
  cases h with
  | registered terminal fresh => exact .registered terminal fresh
  | ended outcome answer w v' reports opened drains pays =>
    exact .ended outcome answer w v' reports opened drains (pays.mono ht)
  | late st seat draining fetched => exact .late st seat draining fun h => fetched (hs h)
  | repeated v' closed same sloppy => exact .repeated _ closed same fun h => sloppy (hs h)
  | awaited v' fetches => exact .awaited v' fetches
  | dropped v' preparing seat hears =>
    exact .dropped _ (hl preparing) seat fun ho st waiter h₁ h₂ => ht _ (hears ho st waiter h₁ h₂)

theorem Changes.mono (hs : strict' → strict) (hl : loose → loose')
    (ht : ∀ waiter, told waiter → told' waiter) (h : Changes seen strict loose told key v v') :
    Changes seen strict' loose' told' key v v' :=
  h.lift id fun _ _ change => change.mono hs hl ht

theorem Fetches.waiters (h : v.Fetches key v')
    (hv : ∀ st w, v.seat = some st → st.terminal = some w → w.Of key) :
    ∀ st w, v'.seat = some st → st.terminal = some w → w.Of key := by
  intro st w hst hw
  cases h with
  | unknown seat => exact hv st w hst hw
  | fetched st' answer seat buffered rest left =>
    rcases left with rfl | rfl
    · cases hst
    · obtain rfl := Option.some.inj hst
      exact hv st' w seat hw
  | refused st' seat buffered taken => exact hv st w hst hw
  | waits st' seat buffered terminal callerCompleted =>
    obtain rfl := Option.some.inj hst
    obtain rfl := Option.some.inj hw
    rfl

/-- Only the entry of a request that has ended drains. -/
def Dry (v : Slot) : Prop := v.outcome = none → ∀ st, v.seat = some st → st.draining = false

theorem Change.dry (h : Change seen strict loose told key v v') (hv : v.Dry) : v'.Dry := by
  intro hopen st hst
  cases h with
  | registered terminal fresh =>
    obtain rfl := Option.some.inj hst
    rfl
  | ended => cases hopen
  | late => cases hst
  | repeated v' closed same => exact absurd (same.symm.trans hopen) closed
  | awaited v' fetches =>
    cases fetches with
    | unknown => exact hv hopen st hst
    | fetched st' answer seat buffered rest left =>
      rcases left with rfl | rfl
      · cases hst
      · obtain rfl := Option.some.inj hst
        exact hv hopen st' seat
    | refused => exact hv hopen st hst
    | waits st' seat =>
      obtain rfl := Option.some.inj hst
      exact hv hopen st' seat
  | dropped v' preparing seat =>
    rw [seat] at hst
    cases hst

theorem Changes.dry (h : Changes seen strict loose told key v v') (hv : v.Dry) : v'.Dry := by
  induction h with
  | refl => exact hv
  | tail _ change ih => exact change.dry ih

/-! ## Who submitted the operation -/

def Held (told : Waiter → Prop) (number : ℕ) (v : Slot) : Prop :=
  told (.ticket number) ∨ v.outcome = none ∧ ∃ st, v.seat = some st ∧
    st.terminal = some (.ticket number) ∧ st.buffered = none ∧ st.draining = false

theorem Pays.ticket {st : Seat} (h : v.Pays told key answer v')
    (hseat : v.seat = some st) (hterminal : st.terminal = some (.ticket number)) :
    told (.ticket number) := by
  cases h with
  | nobody seat => rw [hseat] at seat; cases seat
  | delivered st' waiter seat terminal hears | drained st' waiter seat terminal hears =>
    rw [hseat, Option.some.injEq] at seat
    rw [← seat, hterminal, Option.some.injEq] at terminal
    rwa [terminal]
  | buffered st' seat terminal =>
    rw [hseat, Option.some.injEq] at seat
    rw [← seat, hterminal] at terminal
    cases terminal

theorem Change.held (h : Change seen strict loose told key v v') (hv : v.Held told number) :
    v'.Held told number := by
  rcases hv with htold | ⟨hopen, st, hseat, hterminal, hbuffered, hdraining⟩
  · exact .inl htold
  have only : ∀ {st' : Seat}, v.seat = some st' → st' = st := fun h =>
    Option.mem_unique h hseat
  cases h with
  | registered terminal fresh => rw [fresh] at hseat; cases hseat
  | ended outcome answer w v' reports opened drains pays =>
    rcases drains with rfl | rfl
    · exact .inl (pays.ticket hseat hterminal)
    · have hdrained : v.drain.seat = some { st with draining := true } := by rw [drain, hseat]; rfl
      exact .inl (pays.ticket hdrained hterminal)
  | late st' seat draining fetched =>
    rw [only seat, hdraining] at draining
    cases draining
  | repeated v' closed same sloppy => exact absurd hopen closed
  | awaited v' fetches =>
    cases fetches with
    | unknown seat => rw [hseat] at seat; cases seat
    | fetched st' answer seat buffered =>
      rw [only seat, hbuffered] at buffered
      cases buffered
    | refused st' seat buffered taken =>
      exact .inr ⟨hopen, st, hseat, hterminal, hbuffered, hdraining⟩
    | waits st' seat buffered terminal =>
      rw [only seat, hterminal] at terminal
      cases terminal
  | dropped v' preparing seat hears => exact .inl (hears hopen st _ hseat hterminal)

theorem Changes.held (h : Changes seen strict loose told key v v')
    (hv : v.Held told number) : v'.Held told number := by
  induction h with
  | refl => exact hv
  | tail _ change ih => exact change.held ih

/-! ## The result of a detached operation -/

def Refusal (key : RequestKey) (answer : Answer) : Prop :=
  answer = .error (.alreadyAwaited key) ∨ answer = .error (.unknownRequest key)

inductive Kept (seen : CommandResponse → Prop) (key : RequestKey) (v : Slot) : Prop
  | waiting (st : Seat) (outcome : v.outcome = none) (seat : v.seat = some st)
      (terminal : st.terminal = if v.awaits = 0 then none else some (.awaiting key 0))
      (buffered : st.buffered = none) (draining : st.draining = false)
      (callerCompleted : st.callerCompleted = false) (heard : v.heard 0 = [])
  | stored (st : Seat) (o : TerminalOutcome) (answer : Answer) (outcome : v.outcome = some o)
      (reports : o.Reports seen key answer) (seat : v.seat = some st)
      (terminal : st.terminal = none) (buffered : st.buffered = some answer) (awaits : v.awaits = 0)
      (heard : v.heard 0 = [])
  | fetched (o : TerminalOutcome) (answer : Answer) (outcome : v.outcome = some o)
      (reports : o.Reports seen key answer) (awaits : 0 < v.awaits) (heard : v.heard 0 = [answer])
      (seat : ∀ st, v.seat = some st → st.terminal = none ∧ st.buffered = none ∧
        st.callerCompleted = true)

def Refused (key : RequestKey) (v : Slot) : Prop :=
  ∀ i, 0 < i → (i < v.awaits → ∃ answer, v.heard i = [answer] ∧ Refusal key answer) ∧
    (v.awaits ≤ i → v.heard i = [])

/-- A detached operation that has not failed. -/
structure Parcel (seen : CommandResponse → Prop) (key : RequestKey) (v : Slot) : Prop where
  kept : v.Kept seen key
  refused : v.Refused key

@[simp] theorem tell_heard_self (v : Slot) (key : RequestKey) (i : ℕ) (answer : Answer) :
    (v.tell key (.awaiting key i) answer).heard i = v.heard i ++ [answer] :=
  if_pos rfl

theorem tell_heard_ne (v : Slot) (key : RequestKey) {i j : ℕ} (answer : Answer) (h : j ≠ i) :
    (v.tell key (.awaiting key i) answer).heard j = v.heard j :=
  if_neg fun he => h (Waiter.awaiting.inj he).2.symm

theorem Refused.tell_first (h : v.Refused key) (answer : Answer) (hn : w.awaits = v.awaits)
    (hh : w.heard = (v.tell key (.awaiting key 0) answer).heard) : w.Refused key := by
  intro i hi
  rw [hn, hh, tell_heard_ne v key answer (Nat.pos_iff_ne_zero.mp hi)]
  exact h i hi

theorem Refused.count_first (h : v.Refused key) (hawaits : v.awaits = 0) (hn : w.awaits = 1)
    (hh : ∀ i, 0 < i → w.heard i = v.heard i) : w.Refused key := by
  intro i hi
  refine ⟨fun hlt => ?_, fun _ => ?_⟩
  · omega
  · rw [hh i hi]
    exact (h i hi).2 (by omega)

theorem Refused.count_later (h : v.Refused key) (hr : Refusal key answer) :
    Refused key { v.tell key (.awaiting key v.awaits) answer with awaits := v.awaits + 1 } := by
  intro i hi
  show (i < v.awaits + 1 → ∃ answer', (v.tell key _ answer).heard i = [answer'] ∧ _) ∧
    (v.awaits + 1 ≤ i → (v.tell key _ answer).heard i = [])
  by_cases he : i = v.awaits
  · subst he
    rw [tell_heard_self, (h _ hi).2 le_rfl]
    exact ⟨fun _ => ⟨answer, rfl, hr⟩, fun hle => by omega⟩
  · rw [tell_heard_ne v key answer he]
    exact ⟨fun hlt => (h i hi).1 (by omega), fun hle => (h i hi).2 (by omega)⟩

theorem Kept.count_later (h : v.Kept seen key) (hawaits : 0 < v.awaits) (answer : Answer) :
    Kept seen key { v.tell key (.awaiting key v.awaits) answer with awaits := v.awaits + 1 } := by
  have hfirst : (v.tell key (.awaiting key v.awaits) answer).heard 0 = v.heard 0 :=
    tell_heard_ne v key answer (by omega)
  cases h with
  | waiting st outcome seat terminal buffered draining callerCompleted heard =>
    refine .waiting st outcome seat ?_ buffered draining callerCompleted (hfirst.trans heard)
    rw [terminal, if_neg (by omega), if_neg (Nat.succ_ne_zero _)]
  | stored st o answer outcome reports seat terminal buffered awaits heard => omega
  | fetched o answer outcome reports awaits heard seat =>
    exact .fetched o answer outcome reports (Nat.succ_pos _) (hfirst.trans heard) seat

theorem Parcel.pays {o : TerminalOutcome} {st : Seat} (h : w.Pays told key answer v')
    (hreports : o.Reports seen key answer) (hseat : w.seat = some st)
    (hterminal : st.terminal = if w.awaits = 0 then none else some (.awaiting key 0))
    (hbuffered : st.buffered = none) (hheard : w.heard 0 = []) (hrefused : w.Refused key) :
    Parcel seen key { v' with outcome := some o } := by
  have only : ∀ {st' : Seat}, w.seat = some st' → st' = st := fun h =>
    Option.mem_unique h hseat
  have waits : ∀ {waiter}, st.terminal = some waiter → 0 < w.awaits ∧ waiter = .awaiting key 0 := by
    intro waiter hw
    rw [hterminal] at hw
    split at hw
    · cases hw
    · exact ⟨by omega, (Option.some.inj hw).symm⟩
  have hears : (w.tell key (.awaiting key 0) answer).heard 0 = [answer] := by
    rw [tell_heard_self, hheard, List.nil_append]
  cases h with
  | nobody seat => rw [hseat] at seat; cases seat
  | delivered st' waiter seat terminal =>
    obtain ⟨hawaits, rfl⟩ := waits (only seat ▸ terminal)
    exact ⟨.fetched o answer rfl hreports hawaits hears (fun _ h => nomatch h),
      hrefused.tell_first answer rfl rfl⟩
  | drained st' waiter seat terminal =>
    obtain ⟨hawaits, rfl⟩ := waits (only seat ▸ terminal)
    refine ⟨.fetched o answer rfl hreports hawaits hears fun st'' h => ?_,
      hrefused.tell_first answer rfl rfl⟩
    obtain rfl := Option.some.inj h
    exact ⟨rfl, only seat ▸ hbuffered, rfl⟩
  | buffered st' seat terminal =>
    have hnone : w.awaits = 0 := by
      rw [only seat, hterminal] at terminal
      by_contra hne
      rw [if_neg hne] at terminal
      cases terminal
    exact ⟨.stored _ o answer rfl hreports rfl terminal rfl hnone hheard, hrefused⟩

theorem Parcel.fetches (h : v.Parcel seen key) (hf : v.Fetches key v') :
    Parcel seen key { v' with awaits := v.awaits + 1 } := by
  have only : ∀ {st st' : Seat}, v.seat = some st → v.seat = some st' → st' = st :=
    fun h h' => Option.mem_unique h' h
  cases hf with
  | unknown seat =>
    have hawaits : 0 < v.awaits := by
      cases h.kept with
      | waiting st _ seat' => rw [seat] at seat'; cases seat'
      | stored st _ _ _ _ seat' => rw [seat] at seat'; cases seat'
      | fetched _ _ _ _ awaits => exact awaits
    exact ⟨h.kept.count_later hawaits _, h.refused.count_later (.inr rfl)⟩
  | fetched st answer seat buffered rest left =>
    cases h.kept with
    | waiting st' _ seat' _ buffered' =>
      rw [only seat' seat, buffered'] at buffered
      cases buffered
    | stored st' o answer' outcome reports seat' terminal buffered' awaits heard =>
      obtain rfl := only seat' seat
      obtain rfl := Option.mem_unique buffered' buffered
      rw [awaits]
      refine ⟨.fetched o answer' outcome reports Nat.one_pos ?_ fun st'' hst => ?_, ?_⟩
      · show (tell _ key (.awaiting key 0) answer').heard 0 = _
        rw [tell_heard_self]
        exact congrArg (· ++ [answer']) heard
      · rcases left with rfl | rfl
        · cases hst
        · obtain rfl := Option.some.inj hst
          exact ⟨terminal, rfl, rfl⟩
      · exact h.refused.count_first awaits rfl fun i hi => tell_heard_ne _ key _ (by omega)
    | fetched _ _ _ _ _ _ seat' =>
      rw [(seat' st seat).2.1] at buffered
      cases buffered
  | refused st seat buffered taken =>
    have hawaits : 0 < v.awaits := by
      cases h.kept with
      | waiting st' _ seat' terminal _ _ callerCompleted =>
        rw [only seat' seat, callerCompleted, terminal] at taken
        by_contra hzero
        rw [if_pos (by omega)] at taken
        simp at taken
      | stored st' _ _ _ _ seat' _ buffered' =>
        rw [only seat' seat, buffered'] at buffered
        cases buffered
      | fetched _ _ _ _ awaits => exact awaits
    exact ⟨h.kept.count_later hawaits _, h.refused.count_later (.inl rfl)⟩
  | waits st seat buffered terminal callerCompleted =>
    cases h.kept with
    | waiting st' outcome seat' terminal' buffered' draining callerCompleted' heard =>
      obtain rfl := only seat' seat
      have hawaits : v.awaits = 0 := by
        rw [terminal'] at terminal
        by_contra hne
        rw [if_neg hne] at terminal
        cases terminal
      rw [hawaits]
      exact ⟨.waiting _ outcome rfl rfl buffered draining callerCompleted heard,
        h.refused.count_first hawaits rfl fun _ _ => rfl⟩
    | stored st' _ _ _ _ seat' _ buffered' =>
      rw [only seat' seat, buffered'] at buffered
      cases buffered
    | fetched _ _ _ _ _ _ seat' =>
      rw [(seat' st seat).2.2] at callerCompleted
      cases callerCompleted

theorem Change.parcel (h : Change seen True False told key v v') (hv : v.Parcel seen key) :
    v'.Parcel seen key := by
  cases h with
  | registered terminal fresh =>
    cases hv.kept with
    | waiting _ _ seat => rw [fresh] at seat; cases seat
    | stored _ _ _ outcome => rw [fresh] at outcome; cases outcome
    | fetched _ _ outcome => rw [fresh] at outcome; cases outcome
  | ended outcome answer w v' reports opened drains pays =>
    cases hv.kept with
    | waiting st _ seat terminal buffered _ _ heard =>
      rcases drains with rfl | rfl
      · exact .pays pays reports seat terminal buffered heard hv.refused
      · have hdrained : v.drain.seat = some { st with draining := true } := by rw [drain, seat]; rfl
        exact .pays pays reports hdrained terminal buffered heard hv.refused
    | stored _ _ _ outcome => rw [opened] at outcome; cases outcome
    | fetched _ _ outcome => rw [opened] at outcome; cases outcome
  | late st seat draining fetched =>
    cases hv.kept with
    | waiting st' _ seat' _ _ draining' =>
      rw [← Option.mem_unique seat' seat, draining'] at draining
      cases draining
    | stored st' _ _ _ _ seat' _ buffered =>
      have hnone := fetched trivial
      rw [← Option.mem_unique seat' seat, buffered] at hnone
      cases hnone
    | fetched o answer outcome reports awaits heard =>
      exact ⟨.fetched o answer outcome reports awaits heard (fun _ h => nomatch h), hv.refused⟩
  | repeated v' closed same sloppy => exact absurd trivial sloppy
  | awaited v' fetches => exact hv.fetches fetches
  | dropped v' preparing => exact preparing.elim

/-- **A result stays at hand until it is fetched**, and is the one of the request. -/
theorem Changes.parcel (h : Changes seen True False told key v v') (hv : v.Parcel seen key) :
    v'.Parcel seen key := by
  induction h with
  | refl => exact hv
  | tail _ change ih => exact change.parcel ih

theorem Parcel.registered (key : RequestKey) : Parcel seen key (new none) :=
  ⟨.waiting _ rfl rfl rfl rfl rfl rfl rfl, fun _ _ => ⟨(fun h => nomatch h), fun _ => rfl⟩⟩

end

end Slot

end Runtime
