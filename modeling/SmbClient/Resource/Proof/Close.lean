import SmbClient.Lib.Calls
import SmbClient.Lib.Run
import SmbClient.Resource.Close

/-!
# The two latches of `close()`

`Sound`: one call at most has the lock, and the authority is confirmed only by the server.
`Retryable`: as long as nothing was handed to the wire, the resource is open, or a call is about to
send.
-/

namespace Resource.Closing

open Calls

variable {call : CloseCall}

structure Sound (s : Closing) : Prop where
  held : ∀ (i : ℕ) (call : CloseCall), s.calls[i]? = some call → call.holdsLock = true →
    s.owner = some i
  fresh : s.opened = true → s.submitted = 0
  unsent : ∀ i : ℕ, s.calls[i]? = some .sending → s.submitted = 0 ∧ s.opened = false
  sent : ∀ i : ℕ, s.calls[i]? = some .sent → s.submitted = 1
  once : s.submitted ≤ 1
  known : s.state = .confirmed → s.confirmed = true
  already : ∀ i : ℕ, s.calls[i]? = some (.returned (.ok .alreadyClosed)) → s.confirmed = true

variable {s : Closing} {i : ℕ}

theorem sound_new (kind : ResourceKind) : Sound (new kind) where
  held i call h := by cases h
  fresh _ := rfl
  unsent i h := by cases h
  sent i h := by cases h
  once := Nat.zero_le 1
  known h := by cases h
  already i h := by cases h

section

variable (h : Sound s)
include h

section

variable (howner : s.owner = some i ∨ s.owner = none)
include howner

theorem Sound.alone {j : ℕ}
    (hj : j ≠ i) (hcall : s.calls[j]? = some call) : call.holdsLock = false := by
  cases hholds : call.holdsLock
  · rfl
  · have hheld := h.held j call hcall hholds
    rcases howner with howner | howner <;> rw [howner] at hheld
    · exact absurd (Option.some.inj hheld).symm hj
    · cases hheld

theorem Sound.ends (hcall : call.holdsLock = false) {state : FileCloseState} {confirmed : Bool}
    (hmono : s.confirmed = true → confirmed = true) (hstate : state = .confirmed → confirmed = true)
    (halready : call = .returned (.ok .alreadyClosed) → confirmed = true) :
    Sound { s.release i call with state := state, confirmed := confirmed } where
  held j c hc hholds := by
    rcases getElem?_set_cases hc with ⟨-, rfl⟩ | ⟨hj, hc⟩
    · rw [hcall] at hholds
      cases hholds
    · rw [h.alone howner hj hc] at hholds
      cases hholds
  fresh := h.fresh
  unsent j hc := by
    rcases getElem?_set_cases hc with ⟨-, rfl⟩ | ⟨-, hc⟩
    · cases hcall
    · exact h.unsent j hc
  sent j hc := by
    rcases getElem?_set_cases hc with ⟨-, rfl⟩ | ⟨-, hc⟩
    · cases hcall
    · exact h.sent j hc
  once := h.once
  known := hstate
  already j hc := by
    rcases getElem?_set_cases hc with ⟨-, hc⟩ | ⟨-, hc⟩
    · exact halready hc.symm
    · exact hmono (h.already j hc)

theorem Sound.proceeds (hcall : call.holdsLock = true) {opened : Bool} {submitted : ℕ}
    (hfresh : opened = true → submitted = 0)
    (hsending : call = .sending → submitted = 0 ∧ opened = false)
    (hsent : call = .sent → submitted = 1) (honce : submitted ≤ 1) :
    Sound { s.advance i call with owner := some i, opened := opened, submitted := submitted } where
  held j c hc hholds := by
    rcases getElem?_set_cases hc with ⟨rfl, -⟩ | ⟨hj, hc⟩
    · rfl
    · rw [h.alone howner hj hc] at hholds
      cases hholds
  fresh := hfresh
  unsent j hc := by
    rcases getElem?_set_cases hc with ⟨-, hc⟩ | ⟨hj, hc⟩
    · exact hsending hc.symm
    · cases h.alone howner hj hc
  sent j hc := by
    rcases getElem?_set_cases hc with ⟨-, hc⟩ | ⟨hj, hc⟩
    · exact hsent hc.symm
    · cases h.alone howner hj hc
  once := honce
  known := h.known
  already j hc := by
    rcases getElem?_set_cases hc with ⟨-, rfl⟩ | ⟨-, hc⟩
    · cases hcall
    · exact h.already j hc

end

theorem Sound.leaves (i : ℕ) : Sound (s.advance i .dropped) where
  held j c hc hholds := by
    rcases getElem?_set_cases hc with ⟨-, rfl⟩ | ⟨-, hc⟩
    · cases hholds
    · exact h.held j c hc hholds
  fresh := h.fresh
  unsent j hc := (getElem?_set_cases hc).elim (fun hc => by cases hc.2) fun hc => h.unsent j hc.2
  sent j hc := (getElem?_set_cases hc).elim (fun hc => by cases hc.2) fun hc => h.sent j hc.2
  once := h.once
  known := h.known
  already j hc := (getElem?_set_cases hc).elim (fun hc => by cases hc.2) fun hc => h.already j hc.2

theorem Sound.settle (howner : s.owner = some i) (error : Error) :
    Sound (s.settle i (.error error)) := by
  simp only [Closing.settle]
  split
  · exact h.ends (.inl howner) (by rfl) id (by simp) (by simp)
  · exact h.ends (.inl howner) (by rfl) id h.known (by simp)

theorem Sound.begin (remaining : Except Error Unit) (replay : ReplayPolicy) :
    Sound { s with calls := s.calls ++ [s.begin remaining replay] } := by
  have hnew : s.begin remaining replay = .locking ∨
      ∃ error, s.begin remaining replay = .returned (.error error) := by
    unfold Closing.begin
    split
    · exact .inr ⟨_, rfl⟩
    split
    · exact .inl rfl
    · exact .inr ⟨_, rfl⟩
  constructor
  · intro j call hc hholds
    rcases getElem?_concat_cases hc with hc | ⟨-, rfl⟩
    · exact h.held j call hc hholds
    · rcases hnew with hnew | ⟨error, hnew⟩ <;> rw [hnew] at hholds <;> cases hholds
  · exact h.fresh
  · intro j hc
    rcases getElem?_concat_cases hc with hc | ⟨-, hc⟩
    · exact h.unsent j hc
    · rcases hnew with hnew | ⟨error, hnew⟩ <;> rw [hnew] at hc <;> cases hc
  · intro j hc
    rcases getElem?_concat_cases hc with hc | ⟨-, hc⟩
    · exact h.sent j hc
    · rcases hnew with hnew | ⟨error, hnew⟩ <;> rw [hnew] at hc <;> cases hc
  · exact h.once
  · exact h.known
  · intro j hc
    rcases getElem?_concat_cases hc with hc | ⟨-, hc⟩
    · exact h.already j hc
    · rcases hnew with hnew | ⟨error, hnew⟩ <;> rw [hnew] at hc <;> cases hc

/-- **Every move keeps the latches sound**: one CLOSE is sent at most. -/
theorem step_sound (move : CloseMove) : Sound (s.step move) := by
  cases move with
  | call remaining replay => exact h.begin remaining replay
  | lock i =>
    simp only [step]
    split
    · rename_i hcall howner
      simp only [enter]
      split
      · rename_i hstate
        exact h.ends (.inr howner) (by rfl) id h.known fun _ => h.known hstate
      · exact h.ends (.inr howner) (by rfl) id h.known (by simp)
      · exact h.proceeds (.inr howner) (by rfl) h.fresh (by simp) (by simp) h.once
    · exact h
  | ensured i result =>
    simp only [step]
    split
    · rename_i hcall
      have howner := h.held i _ hcall rfl
      simp only [mark]
      split
      · exact h.settle howner _
      split
      · rename_i hopened
        have hnone := h.fresh hopened
        have hsound : Sound { s.advance i .sending with
            owner := some i, opened := false, submitted := s.submitted } :=
          h.proceeds (.inl howner) (by rfl) (by simp) (fun _ => ⟨hnone, rfl⟩) (by simp) h.once
        rwa [← howner] at hsound
      · exact h.settle howner _
    · exact h
  | submit i =>
    simp only [step]
    split
    · rename_i hcall
      have howner := h.held i _ hcall rfl
      obtain ⟨hnone, hopened⟩ := h.unsent i hcall
      have hsound : Sound { s.advance i .sent with
          owner := some i, opened := s.opened, submitted := s.submitted + 1 } :=
        h.proceeds (.inl howner) (by rfl) (by simp [hopened]) (by simp) (by simp [hnone]) (by omega)
      rwa [← howner] at hsound
    · exact h
  | answered i result =>
    simp only [step]
    split
    · rename_i hcall
      exact h.settle (h.held i _ hcall rfl) _
    · rename_i hcall
      exact h.ends (.inl (h.held i _ hcall rfl)) (by rfl) (fun _ => rfl) (fun _ => rfl)
        (fun _ => rfl)
    · rename_i hcall
      exact h.settle (h.held i _ hcall rfl) _
    · exact h
  | drop i =>
    simp only [step]
    split
    · exact h.leaves i
    · rename_i hcall
      exact h.ends (.inl (h.held i _ hcall rfl)) (by rfl) id h.known (by simp)
    · rename_i hcall
      exact h.ends (.inl (h.held i _ hcall rfl)) (by rfl) id h.known (by simp)
    · rename_i hcall
      exact h.ends (.inl (h.held i _ hcall rfl)) (by rfl) id h.known (by simp)
    · exact h

end

/-! ## A resource that can still be closed -/

def Retryable (s : Closing) : Prop :=
  s.submitted = 0 → s.state = .opened ∧ (s.opened = true ∨ ∃ i : ℕ, s.calls[i]? = some .sending)

/-- The step ends no close between clearing the flag and handing over the CLOSE. -/
def Clean (s : Closing) : CloseMove → Prop
  | .ensured _ (.error error) => error.isOutcomeUnknown = false
  | .answered i (.error _) => ∀ call, s.calls[i]? = some call → call ≠ .sending
  | .drop i => ∀ call, s.calls[i]? = some call → call ≠ .sending
  | _ => True

theorem Retryable.moves (h : Retryable s) {t : Closing} {old : CloseCall}
    (hcalls : t.calls = s.calls.set i call) (hold : s.calls[i]? = some old) (hne : old ≠ .sending)
    (hstate : t.state = s.state) (hopened : t.opened = s.opened)
    (hsubmitted : t.submitted = s.submitted) :
    Retryable t := by
  intro hnone
  rw [hsubmitted] at hnone
  obtain ⟨hopen, hsend⟩ := h hnone
  refine ⟨hstate.trans hopen, hsend.imp (fun ho => hopened.trans ho) fun ⟨j, hj⟩ => ⟨j, ?_⟩⟩
  have hji : i ≠ j := by
    rintro rfl
    rw [hold] at hj
    exact hne (Option.some.inj hj)
  rw [hcalls, List.getElem?_set_ne hji]
  exact hj

theorem Retryable.settle (h : Retryable s) {old : CloseCall} (hold : s.calls[i]? = some old)
    (hne : old ≠ .sending) {error : Error} (hcertain : error.isOutcomeUnknown = false) :
    Retryable (s.settle i (.error error)) := by
  simp only [Closing.settle, hcertain]
  exact h.moves rfl hold hne rfl rfl rfl

/-- A resource with no CLOSE sent can still be closed. -/
theorem step_retryable (hsound : Sound s) (h : Retryable s) {move : CloseMove}
    (hclean : Clean s move) : Retryable (s.step move) := by
  cases move with
  | call remaining replay =>
    intro hnone
    obtain ⟨hopen, hsend⟩ := h hnone
    exact ⟨hopen, hsend.imp_right fun ⟨j, hj⟩ => ⟨j, getElem?_concat_of _ hj⟩⟩
  | lock i =>
    simp only [step]
    split
    · rename_i hcall howner
      simp only [enter]
      split <;> exact h.moves rfl hcall (by simp) rfl rfl rfl
    · exact h
  | ensured i result =>
    simp only [step]
    split
    · rename_i hcall
      simp only [mark]
      split
      · exact h.settle hcall (by simp) hclean
      split
      · intro hnone
        refine ⟨(h hnone).1, .inr ⟨i, ?_⟩⟩
        simp only [advance]
        rw [List.getElem?_set_self (List.getElem?_eq_some_iff.mp hcall).1]
      · exact h.settle hcall (by simp) rfl
    · exact h
  | submit i =>
    simp only [step]
    split
    · intro hnone
      simp at hnone
    · exact h
  | answered i result =>
    simp only [step]
    split
    · rename_i hcall
      exact absurd rfl (hclean _ hcall)
    · rename_i hcall
      intro hnone
      have hone := hsound.sent i hcall
      have hzero : s.submitted = 0 := hnone
      omega
    · rename_i error hcall
      intro hnone
      have hone := hsound.sent i hcall
      have hzero : s.submitted = 0 := by
        rw [← hnone]
        simp only [Closing.settle]
        split <;> rfl
      omega
    · exact h
  | drop i =>
    simp only [step]
    split
    · rename_i hcall
      exact h.moves rfl hcall (by simp) rfl rfl rfl
    · rename_i hcall
      exact h.moves rfl hcall (by simp) rfl rfl rfl
    · rename_i hcall
      exact absurd rfl (hclean _ hcall)
    · rename_i hcall
      exact h.moves rfl hcall (by simp) rfl rfl rfl
    · exact h

def again (s : Closing) : List CloseMove :=
  [.call (.ok ()) .never, .lock s.calls.length, .ensured s.calls.length (.ok ()),
    .submit s.calls.length]

theorem again_submits (hsound : Sound s) (h : Retryable s) (hnone : s.submitted = 0)
    (hfree : s.owner = none) : (s.run s.again).submitted = 1 := by
  obtain ⟨hstate, hsend⟩ := h hnone
  have hopened : s.opened = true := by
    rcases hsend with hopened | ⟨j, hj⟩
    · exact hopened
    have := hsound.held j _ hj rfl
    rw [hfree] at this
    cases this
  simp [run, again, step, begin, enter, mark, advance, hfree, hstate, hopened, hnone]

/-- In clean runs `AlreadyClosed` is answered only after a confirmed CLOSE, one CLOSE at most is
sent, and as long as none was sent, the next close sends one. -/
theorem close_latches_agree (kind : ResourceKind) (moves : List CloseMove)
    (hclean : Meets step Clean (new kind) moves) :
    (∀ i : ℕ, ((new kind).run moves).calls[i]? = some (.returned (.ok .alreadyClosed)) →
        ((new kind).run moves).confirmed = true) ∧
      ((new kind).run moves).submitted ≤ 1 ∧
      (((new kind).run moves).submitted = 0 → ((new kind).run moves).owner = none →
        (((new kind).run moves).run ((new kind).run moves).again).submitted = 1) := by
  have hnew : Retryable (new kind) := fun _ => ⟨rfl, .inl rfl⟩
  obtain ⟨hsound, hretryable⟩ := hclean.invariant (P := fun s => Sound s ∧ Retryable s)
    (fun s move h hc => ⟨step_sound h.1 move, step_retryable h.1 h.2 hc⟩) ⟨sound_new kind, hnew⟩
  exact ⟨hsound.already, hsound.once, again_submits hsound hretryable⟩

theorem close_latches_agree_confirmed :
    let moves : List CloseMove := [.call (.ok ()) .never, .lock 0, .call (.ok ()) .never, .drop 1,
      .ensured 0 (.ok ()), .submit 0, .answered 0 (.ok ())]
    Meets step Clean (new .file) moves ∧ ((new .file).run moves).submitted ≤ 1 := by
  have hclean : Meets step Clean (new .file) [.call (.ok ()) .never, .lock 0, .call (.ok ()) .never,
      .drop 1, .ensured 0 (.ok ()), .submit 0, .answered 0 (.ok ())] := by
    simp [Meets, Clean, step, new, begin, enter, advance]
  exact ⟨hclean, (close_latches_agree .file _ hclean).2.1⟩

/-- A close is refused by the admission, and the next one finds the handle marked closed. -/
theorem close_refused_is_final :
    let s := (new .file).run [.call (.ok ()) .never, .lock 0, .ensured 0 (.ok ()),
      .answered 0 (.error (.backpressure "admission"))]
    s.submitted = 0 ∧ s.owner = none ∧ (s.run s.again).submitted = 0 ∧
      (s.run s.again).calls[1]? =
        some (.returned (.error (.invalidState "Resource is already closed"))) := by
  refine ⟨rfl, rfl, rfl, rfl⟩

end Resource.Closing
