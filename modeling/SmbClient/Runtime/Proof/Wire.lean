import SmbClient.Lib.Run
import SmbClient.Runtime.Wire

/-!
# What the pipeline changes

A pipeline only ever advances its hash and rewrites its setup signers; what survives these two
survives a run.
-/

namespace Wire

open Msg Session

namespace WirePipeline

variable {env : Env} {w w' : WirePipeline}

structure Sturdy (env : Env) (P : WirePipeline → Prop) : Prop where
  advance : ∀ {w w' data}, P w → advance env w data = .ok w' → P w'
  signers : ∀ {w} (signers : Table ℕ MessageSigner), P w → P { w with setupSigners := signers }

namespace Sturdy

variable {P : WirePipeline → Prop} (hP : Sturdy env P)
include hP

/-! ## Outgoing requests -/

theorem ingestOutgoing {msg : CommandRequest} (hw : P w) (h : w.ingestOutgoing env msg = .ok w') :
    P w' := by
  unfold WirePipeline.ingestOutgoing at h
  split at h
  · exact hP.advance hw h
  · cases h
    exact hw

theorem sealSetup (hw : P w) (msg : CommandRequest) (key : Key) :
    P (w.sealSetup env msg key).1 := by
  unfold WirePipeline.sealSetup
  split
  · exact hw
  dsimp only
  split
  · exact hw
  rename_i hadvance
  have hw' := hP.advance hw hadvance
  split
  · exact hw'
  · exact hP.signers _ hw'

theorem sealOutgoing (hw : P w) (msg : CommandRequest) (protection : Protection) :
    P (w.sealOutgoing env msg protection).1 := by
  cases protection with
  | none => exact hw
  | encrypt => exact hw
  | snapshotKdfSign key => exact hP.sealSetup hw msg key
  | signWithChannel =>
    unfold WirePipeline.sealOutgoing
    dsimp only
    split <;> exact hw

theorem transformOutgoing (hw : P w) (msg : CommandRequest) (cancelled : Bool) (random : Octets) :
    P (w.transformOutgoing env msg cancelled random).1 := by
  unfold WirePipeline.transformOutgoing
  split
  · exact hw
  split
  · exact hw
  rename_i protection _
  split
  · exact hw
  rename_i w₁ hingest
  have hsealed := hP.sealOutgoing (hP.ingestOutgoing hw hingest) msg protection
  split <;> rename_i hresult <;> rw [hresult] at hsealed <;> exact hsealed

/-! ## Incoming frames -/

theorem verifyPlainIncoming (hw : P w) (header : Header) (raw : Octets) (form : MessageForm) :
    P (w.verifyPlainIncoming env header raw form).1 := by
  unfold WirePipeline.verifyPlainIncoming
  split
  · exact hw
  split
  · exact hw
  split
  · exact hw
  · exact hw
  split
  · exact hw
  split
  · exact hP.signers _ hw
  · exact hw

theorem admitMember (hw : P w) (form : MessageForm) (current : PlainResponse) (slice : Octets) :
    P (w.admitMember env form current slice).1 := by
  unfold WirePipeline.admitMember
  split
  · exact hw
  rename_i w₁ hingest
  have hw₁ : P w₁ := by
    unfold ingestIncoming at hingest
    split at hingest
    · exact hP.advance hw hingest
    · cases hingest
      exact hw
  have hverified := hP.verifyPlainIncoming hw₁ current.header slice form
  split <;> rename_i hresult <;> rw [hresult] at hverified <;> exact hverified

theorem walk (hw : P w) (form : MessageForm) (current : PlainResponse) (remaining : Octets) :
    P (w.walk env form current remaining).1 := by
  -- Induction on the bytes that are left, as the chain is walked.
  induction hn : remaining.length using Nat.strong_induction_on generalizing w current
    remaining with
  | _ n ih =>
    have hafter := hP.admitMember hw form current (memberSlice current.header remaining)
    rw [WirePipeline.walk]
    split
    · exact hw
    split
    · rename_i hmember
      rw [hmember] at hafter
      exact hafter
    rename_i w₁ response hmember
    rw [hmember] at hafter
    split
    · exact hafter
    split
    · exact hafter
    · rename_i next hnext
      have hshorter : (remaining.drop current.header.nextCommand).length < n := by
        rw [List.length_drop]
        omega
      have hrest := ih _ hshorter hafter next _ rfl
      split <;> rename_i hresult <;> rw [hresult] at hrest <;> exact hrest
    · exact hafter

theorem transformIncomingAll (hw : P w) (frame : Octets) :
    P (w.transformIncomingAll env frame).1 := by
  unfold WirePipeline.transformIncomingAll
  split
  · exact hw
  · exact hP.walk hw _ _ _

end Sturdy

/-! ## What is never touched -/

structure SameSessions (w w' : WirePipeline) : Prop where
  sessions : w'.sessions = w.sessions
  store : w'.store = w.store
  connInfo : w'.connInfo = w.connInfo

theorem sameSessions_sturdy (env : Env) (w : WirePipeline) : Sturdy env (SameSessions w) where
  advance hw h := by
    obtain ⟨hash, -, hw'⟩ := Except.bind_eq_ok.mp h
    cases hw'
    exact ⟨hw.sessions, hw.store, hw.connInfo⟩
  signers _ hw := ⟨hw.sessions, hw.store, hw.connInfo⟩

theorem transformOutgoing_sameSessions (env : Env) (w : WirePipeline) (msg : CommandRequest)
    (cancelled : Bool) (random : Octets) :
    SameSessions w (w.transformOutgoing env msg cancelled random).1 :=
  (sameSessions_sturdy env w).transformOutgoing ⟨rfl, rfl, rfl⟩ msg cancelled random

theorem transformIncomingAll_sameSessions (env : Env) (w : WirePipeline) (frame : Octets) :
    SameSessions w (w.transformIncomingAll env frame).1 :=
  (sameSessions_sturdy env w).transformIncomingAll ⟨rfl, rfl, rfl⟩ frame

/-! ## The hash is never finished in place -/

/-- A snapshot finishes a copy of the hash; the hash itself goes on. -/
def Unfinished (w : WirePipeline) : Prop := ∀ hash, w.preauthHash ≠ .finished hash

theorem advance_isOk (h : w.Unfinished) (data : Octets) : ∃ w', w.advance env data = .ok w' := by
  unfold advance
  cases hw : w.preauthHash with
  | unsupported => exact ⟨_, rfl⟩
  | inProgress hash => exact ⟨_, rfl⟩
  | finished hash => exact absurd hw (h hash)

/-- The hash stays unfinished, whatever it takes. -/
theorem unfinished_sturdy (env : Env) : Sturdy env Unfinished where
  advance {w w' data} hw h := by
    obtain ⟨next, hnext, hw'⟩ := Except.bind_eq_ok.mp h
    cases hw'
    intro hash
    cases hp : w.preauthHash with
    | unsupported =>
      rw [hp] at hnext
      cases hnext
      simp
    | inProgress old =>
      rw [hp] at hnext
      cases hnext
      simp
    | finished old => exact absurd hp (hw old)
  signers _ hw := hw

theorem react_unfinished (hw : w.Unfinished) (event : WireEvent) :
    (w.react env event).1.Unfinished := by
  cases event with
  | negotiated info =>
    simp only [react, negotiated]
    split
    · exact hw
    · exact info.unfinished
  | resetPreauthToNegotiate =>
    simp only [react, resetPreauthToNegotiate]
    split
    · exact hw
    · rename_i info _
      exact info.unfinished
  | sessionStarted entry =>
    simp only [react, sessionStarted]
    split
    · exact hw
    split <;> exact hw
  | sessionEnded entry =>
    simp only [react, sessionEnded]
    split
    · exact hw
    split <;> exact hw
  | outgoing msg cancelled random =>
    exact (unfinished_sturdy env).transformOutgoing hw msg cancelled random
  | incoming frame => exact (unfinished_sturdy env).transformIncomingAll hw frame
  | infoCreated info => exact hw
  | entryCreated sessionId session => exact hw
  | infoChanged entry info => exact hw
  | channelInstalled entry channel => exact hw

theorem along_unfinished (env : Env) (events : List WireEvent) :
    (Run.along (react env) .default events).state.Unfinished := by
  have hstep : ∀ (r : Run WirePipeline WireEvent CommandResponse) event, r.state.Unfinished →
      (r.next (react env) event).state.Unfinished := fun r event hr => react_unfinished hr event
  exact List.foldl_invariant hstep events (s := .start .default) nofun

end WirePipeline

end Wire
