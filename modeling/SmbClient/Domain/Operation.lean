import SmbClient.Error
import SmbClient.Lib.Run

/-!
# Domain operations (`domain/operation.rs`)

An operation runs its closure at the first poll and waits for the closure's future, its cancellation
token, a token of the caller's and its deadline at once. `starts` counts the runs of the closure.
-/

namespace Domain

structure Operation where
  start : Bool
  future : Bool
  deadline : Option ℕ
  -- Whether the caller's token, if there is one, is cancelled.
  externalCancellation : Option Bool
  cancellation : Bool
  started : Bool
  completed : Bool
  dropped : Bool
  now : ℕ
  starts : ℕ

namespace Operation

variable {α : Type}

/-- What happens to an operation. At a poll the timer may have fired, which it does not before the
deadline, and the closure's future may be ready. -/
inductive Event (α : Type) where
  | poll (timer : Bool) (inner : Option (Except Error α))
  | requestCancel
  | cancelExternal
  | wait (time : ℕ)
  | drop

variable (deadline : Option ℕ)

variable (external : Bool)

def new : Operation :=
  ⟨true, false, deadline, if external then some false else none, false, false, false, false, 0, 0⟩

variable (o : Operation)

def expired : Bool := o.deadline.any (· ≤ o.now)

def cancelled : Bool := o.cancellation || o.externalCancellation == some true

def complete (result : Except Error α) : Operation × List (Except Error α) :=
  ({ o with completed := true }, [result])

def polledAgain : Error := .invalidState "operation was polled after terminal completion"

/-- `run_bounded`: the branches in their order. Nothing is returned while all of them wait. -/
def runBounded (timer : Bool) (inner : Option (Except Error α)) :
    Operation × List (Except Error α) :=
  if o.cancellation then o.complete (.error (.cancelled "domain operation"))
  else if o.externalCancellation == some true then
    { o with cancellation := true }.complete (.error (.cancelled "domain operation"))
  else if timer && o.expired then { o with cancellation := true }.complete
    (.error .operationTimeout)
  else match inner with
    | some result => o.complete result
    | none => (o, [])

def poll (timer : Bool) (inner : Option (Except Error α)) : Operation × List (Except Error α) :=
  if o.completed then (o, [.error polledAgain])
  else if o.future then o.runBounded timer inner
  else if o.cancelled then o.complete (.error (.cancelled "domain operation"))
  else if o.expired then o.complete (.error .operationTimeout)
  else if o.start then
    { o with started := true, start := false, future := true, starts := o.starts + 1 }.runBounded
      timer inner
  else { o with started := true }.complete (.error polledAgain)

def step (event : Event α) : Operation × List (Except Error α) :=
  match event with
  | .poll timer inner => if o.dropped then (o, []) else o.poll timer inner
  | .requestCancel => (if o.dropped then o else { o with cancellation := true }, [])
  | .cancelExternal =>
    ({ o with externalCancellation := o.externalCancellation.map fun _ => true }, [])
  | .wait time => ({ o with now := o.now + time }, [])
  | .drop =>
    ({ o with dropped := true, cancellation := o.cancellation || o.started && !o.completed }, [])

/-! ## What holds of every run -/

def isEnd : Except Error α → Bool
  | .error (.cancelled _) | .error .operationTimeout => true
  | _ => false

/-- The closure has run once if its future is there. -/
structure Sound (o : Operation) : Prop where
  starts : o.starts = o.future.toNat
  fresh : o.start = !o.future
  started : o.started = o.future

def Event.inner : Event α → Option (Except Error α)
  | .poll _ inner => inner
  | _ => none

/-- At a poll one of the branches that bound the future is ready. -/
def bounds : Event α → Bool
  | .poll timer _ => o.cancelled || timer && o.expired
  | _ => false

/-- What the poll of the bounded future can do to the operation and to a caller. -/
structure Polled (o : Operation) (event : Event α) (after : Operation × List (Except Error α)) :
    Prop where
  sound : Sound after.1
  completed : after.2 ≠ [] ∨ o.completed = true → after.1.completed = true
  ended : ∀ result ∈ after.2, after.1.future = true → isEnd result = true →
    after.1.cancellation = true ∨ event.inner = some result ∧ o.bounds event = false

theorem runBounded_polled {o : Operation} (sound : Sound o) (timer : Bool)
    (inner : Option (Except Error α)) :
    Polled o (.poll timer inner) (o.runBounded timer inner) := by
  have kept {cancellation completed : Bool} : Sound { o with cancellation, completed } :=
    ⟨sound.starts, sound.fresh, sound.started⟩
  unfold runBounded complete
  split
  · rename_i h
    exact ⟨kept, fun _ => rfl, fun _ _ _ _ => .inl h⟩
  · rename_i uncancelled
    split
    · exact ⟨kept, fun _ => rfl, fun _ _ _ _ => .inl rfl⟩
    rename_i unasked
    split
    · exact ⟨kept, fun _ => rfl, fun _ _ _ _ => .inl rfl⟩
    rename_i early
    cases inner with
    | some r =>
      refine ⟨kept, fun _ => rfl, fun result returned _ _ => .inr ⟨?_, ?_⟩⟩
      · rw [List.mem_singleton.1 returned]
        rfl
      · simp [bounds, cancelled, uncancelled, unasked, early]
    | none => exact ⟨sound, by simp, by simp⟩

theorem poll_polled {o : Operation} (sound : Sound o) (timer : Bool)
    (inner : Option (Except Error α)) : Polled o (.poll timer inner) (o.poll timer inner) := by
  have early {result : Except Error α} (none : ¬ o.future = true) :
      Polled o (.poll timer inner) (o.complete result) := by
    refine ⟨⟨sound.starts, sound.fresh, sound.started⟩, fun _ => rfl, fun _ _ future => ?_⟩
    exact absurd future none
  unfold poll
  split
  · rename_i completed
    exact ⟨sound, fun _ => completed, by simp [isEnd, polledAgain]⟩
  · split
    · exact runBounded_polled sound timer inner
    rename_i hopen none
    split
    · exact early none
    split
    · exact early none
    rw [if_pos (by simp [sound.fresh, none])]
    obtain ⟨sound', completed, ended⟩ := runBounded_polled
      (o := { o with started := true, start := false, future := true, starts := o.starts + 1 })
      ⟨by simp [sound.starts, none], rfl, rfl⟩ timer inner
    exact ⟨sound', completed, ended⟩

/-- What one event does to an operation. -/
theorem step_polled {o : Operation} (sound : Sound o) (event : Event α) :
    Polled o event (o.step event) := by
  have still : Polled o event (o, []) := ⟨sound, by simp, by simp⟩
  cases event with
  | poll timer inner =>
    simp only [step]
    split
    · exact still
    · exact poll_polled sound timer inner
  | requestCancel =>
    simp only [step]
    split
    · exact still
    · exact ⟨⟨sound.starts, sound.fresh, sound.started⟩, by simp, by simp⟩
  | cancelExternal | wait | drop =>
    exact ⟨⟨sound.starts, sound.fresh, sound.started⟩, by simp [step], by simp [step]⟩

def Barred : Prop :=
  o.future = false ∧ (o.cancelled = true ∨ o.expired = true ∨ o.completed = true)

theorem Barred.step {o : Operation} (barred : Barred o) (event : Event α) :
    Barred (o.step event).1 := by
  obtain ⟨none, h⟩ := barred
  cases event with
  | poll timer inner =>
    simp only [Operation.step, poll]
    split
    · exact ⟨none, h⟩
    split
    · exact ⟨none, h⟩
    rename_i hopen
    rcases h with h | h | h
    · simp [h, complete, Barred, none]
    · by_cases quiet : o.cancelled = true <;> simp [h, quiet, complete, Barred, none]
    · exact absurd h hopen
  | requestCancel =>
    simp only [Operation.step]
    split
    · exact ⟨none, h⟩
    · exact ⟨none, .inl (by simp [cancelled])⟩
  | cancelExternal =>
    refine ⟨none, h.imp_left fun h => ?_⟩
    simp only [cancelled, Bool.or_eq_true, Operation.step] at h ⊢
    refine h.imp_right fun h => ?_
    rw [eq_of_beq h]
    rfl
  | wait time =>
    refine ⟨none, h.imp_right (.imp_left fun h => ?_)⟩
    show ({ o with now := o.now + time } : Operation).expired = true
    simp only [expired, Option.any_eq_true, decide_eq_true_eq] at h ⊢
    obtain ⟨deadline, hit, passed⟩ := h
    exact ⟨deadline, hit, by omega⟩
  | drop =>
    refine ⟨none, h.imp_left fun h => ?_⟩
    simp only [cancelled, Bool.or_eq_true, Operation.step] at h ⊢
    exact h.imp_left .inl

def next (event : Event α) : Operation := (o.step event).1

def run (events : List (Event α)) : Operation :=
  events.foldl next (new deadline external)

def Event.isPoll : Event α → Bool
  | .poll _ _ => true
  | _ => false

theorem Sound.next {o : Operation} (sound : Sound o) (event : Event α) : Sound (o.next event) :=
  (step_polled sound event).sound

theorem sound_run (events : List (Event α)) : Sound (run deadline external events) :=
  List.foldl_invariant (P := Sound) (fun _ event sound => sound.next event) events ⟨rfl, rfl, rfl⟩

theorem future_run {deadline : Option ℕ} {external : Bool} {events : List (Event α)}
    (unpolled : ∀ event ∈ events, event.isPoll = false) :
    (run deadline external events).future = false := by
  induction events using List.reverseRecOn with
  | nil => rfl
  | append_singleton events event ih =>
    have before := ih fun event h => unpolled event (List.mem_append_left _ h)
    have last := unpolled event (by simp)
    rw [run, List.foldl_append]
    cases event with
    | poll => cases last
    | requestCancel =>
      simp only [List.foldl_cons, next, step]
      split <;> exact before
    | cancelExternal | wait | drop => exact before

/-- The closure runs once at most, and not after a cancellation or an expiry before the first poll;
what has returned is polled in vain; and the token is cancelled by a drop before that and by every
end but one that the closure's future comes to with no bound ready. -/
theorem operation_kept (events : List (Event α)) : let o := run deadline external events
    o.starts ≤ 1 ∧
    (∀ before after, events = before ++ after → (∀ e ∈ before, e.isPoll = false) →
      (run deadline external before).cancelled = true ∨
      (run deadline external before).expired = true → o.starts = 0) ∧
    (∀ before e after timer inner, events = before ++ e :: after →
      ((run deadline external before).step e).2 ≠ [] → o.dropped = false →
      (o.step (.poll timer inner : Event α)).2 = [.error polledAgain]) ∧
    (o.starts = 1 → o.completed = false → (o.step (.drop : Event α)).1.cancellation = true) ∧
    ∀ timer inner, ∀ result ∈ (o.step (.poll timer inner : Event α)).2, isEnd result = true →
      (inner = some result → o.bounds (.poll timer inner : Event α) = true) →
      (o.step (.poll timer inner : Event α)).1.starts = 1 →
      (o.step (.poll timer inner : Event α)).1.cancellation = true := by
  intro o
  have sound : Sound o := sound_run deadline external events
  have future {o : Operation} (sound : Sound o) (once : o.starts = 1) : o.future = true := by
    rw [sound.starts] at once
    simpa using once
  refine ⟨?_, ?_, ?_, ?_, ?_⟩
  · rw [sound.starts]
    exact Bool.toNat_le _
  · intro before after split unpolled h
    have barred : Barred (run deadline external before) :=
      ⟨future_run unpolled, h.imp_right .inl⟩
    have last : Barred o := by
      simp only [o, split, run, List.foldl_append]
      exact List.foldl_invariant (fun _ event barred => barred.step event) after barred
    rw [sound.starts, last.1]
    rfl
  · intro before e after timer inner split returned alive
    have completed : o.completed = true := by
      simp only [o, split, run, List.foldl_append]
      have first := step_polled (sound_run deadline external before) e
      exact (List.foldl_invariant (P := fun o => Sound o ∧ o.completed = true)
        (fun _ event h => ⟨(step_polled h.1 event).sound, (step_polled h.1 event).completed
          (.inr h.2)⟩)
        after ⟨first.sound, first.completed (.inl returned)⟩).2
    simp [step, alive, poll, completed]
  · intro once hopen
    simp [step, sound.started, future sound once, hopen]
  · intro timer inner result returned ends bounded once
    have polled := step_polled sound (.poll timer inner : Event α)
    refine (polled.ended result returned (future polled.sound once) ends).resolve_right ?_
    rintro ⟨own, free⟩
    rw [bounded own] at free
    cases free

/-- The closure's future reports that it timed out, and the token is not cancelled. Neither is it
when an operation that has returned is dropped. -/
theorem own_timeout_uncancelled :
    let polled := (new none false).step (.poll false (some (.error .operationTimeout)) : Event Unit)
    polled.1.starts = 1 ∧ polled.2 = [.error .operationTimeout] ∧ polled.1.cancellation = false ∧
      (polled.1.step (.drop : Event Unit)).1.cancellation = false := ⟨rfl, rfl, rfl, rfl⟩

end Operation

end Domain
