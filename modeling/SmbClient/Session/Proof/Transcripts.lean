import SmbClient.Session.Proof.Setup
import SmbClient.Session.Transcripts

/-!
# Whose transcript the keys come from

Setups that use the hash one after another derive their keys from their own messages, but nothing
keeps them apart.
-/

namespace Session

open Msg Wire WirePipeline Transcripts

variable {env : Env} {w w' : WirePipeline} {hash : Octets}

/-! ## The hash -/

theorem advance_hash {data : Octets} (h : w.preauthHash = .inProgress hash) :
    w.advance env data = .ok { w with preauthHash := .inProgress (env.sha512 (hash ++ data)) } := by
  simp only [advance, h]
  rfl

theorem snapshot_inProgress (h : w.preauthHash = .inProgress hash) :
    w.snapshotPreauthFinalized = .ok (some hash) := by
  simp only [snapshotPreauthFinalized, h]
  rfl

theorem transformOutgoing_setupRequest (h : w.preauthHash = .inProgress hash) (env : Env)
    (info : ConnectionInfo) (buffer : Octets) (sessionId : ℕ) (stamp : Stamp) (random : Octets) :
    (w.transformOutgoing env (setupRequest info buffer sessionId stamp) false
      random).1.preauthHash =
      .inProgress (env.sha512 (hash ++ (setupRequest info buffer sessionId stamp).plain)) := by
  have hingest : w.ingestOutgoing env (setupRequest info buffer sessionId stamp) =
      .ok { w with preauthHash := .inProgress (env.sha512
        (hash ++ (setupRequest info buffer sessionId stamp).plain)) } := by
    exact advance_hash h
  have hsecurity : (setupRequest info buffer sessionId stamp).security = some .none := rfl
  simp only [transformOutgoing, hingest, Bool.false_eq_true]
  rfl

def ingested (responses : List CommandResponse) : List Octets :=
  (responses.filter fun r => participatesInPreauthIncoming r.message.header).map (·.raw)

theorem verifyPlainIncoming_hash (env : Env) (w : WirePipeline) (header : Header) (raw : Octets)
    (form : MessageForm) :
    (w.verifyPlainIncoming env header raw form).1.preauthHash = w.preauthHash := by
  unfold verifyPlainIncoming
  split
  · rfl
  split
  · rfl
  split
  · rfl
  · rfl
  split
  · rfl
  dsimp only
  split <;> rfl

theorem admitMember_hash {form : MessageForm} {current : PlainResponse} {slice : Octets}
    {r : CommandResponse} (h : w.preauthHash = .inProgress hash)
    (hr : w.admitMember env form current slice = (w', .ok r)) :
    w'.preauthHash = .inProgress (extend env hash (ingested [r])) := by
  obtain ⟨-, hmessage, hraw, -⟩ := admitMember_ok hr
  unfold admitMember at hr
  split at hr
  · cases hr
  rename_i w₁ hingest
  have hsame := verifyPlainIncoming_hash env w₁ current.header slice form
  have hhash : w₁.preauthHash = .inProgress (extend env hash (ingested [r])) := by
    unfold ingestIncoming at hingest
    split at hingest
    · rename_i hpart
      rw [advance_hash h] at hingest
      cases hingest
      simp [ingested, hmessage, hpart, hraw, extend]
    · rename_i hpart
      cases hingest
      simp [ingested, hmessage, hpart, h, extend]
  split at hr
  · cases hr
  rename_i hverify
  rw [hverify] at hsame
  cases hr
  exact hsame.trans hhash

theorem extend_append (base : Octets) (messages more : List Octets) :
    extend env base (messages ++ more) = extend env (extend env base messages) more := by
  simp [extend]

theorem ingested_cons (r : CommandResponse) (rs : List CommandResponse) :
    ingested (r :: rs) = ingested [r] ++ ingested rs := by
  simp only [ingested, ← List.map_append, ← List.filter_append, List.singleton_append]

theorem walked_hash {form : MessageForm} {current : PlainResponse} {remaining : Octets}
    {rs : List CommandResponse} (h : Walked env form w current remaining w' rs)
    (hw : w.preauthHash = .inProgress hash) :
    w'.preauthHash = .inProgress (extend env hash (ingested rs)) := by
  induction h generalizing hash with
  | last _ member => exact admitMember_hash hw member
  | @next _ _ _ _ _ _ response responses _ _ member _ _ ih =>
    rw [ih (admitMember_hash hw member), ingested_cons response responses, extend_append]

theorem transformIncomingAll_hash {frame : Octets} {rs : List CommandResponse}
    (hw : w.preauthHash = .inProgress hash) (h : w.transformIncomingAll env frame = (w', .ok rs)) :
    w'.preauthHash = .inProgress (extend env hash (ingested rs)) := by
  unfold transformIncomingAll at h
  split at h
  · cases h
  · exact walked_hash (walked h) hw

theorem transformOutgoing_other {msg : CommandRequest} {cancelled : Bool} {random : Octets}
    (h : sparesHash (.outgoing msg cancelled random) = true) :
    (w.transformOutgoing env msg cancelled random).1 = w := by
  unfold transformOutgoing
  split
  · rfl
  simp only [sparesHash] at h
  cases hsecurity : msg.security with
  | none => rfl
  | some protection =>
    have hpart : participatesInPreauthOutgoing msg.header = false ∧
        ∀ key, protection ≠ .snapshotKdfSign key := by
      rw [hsecurity] at h
      cases protection <;> simp_all
    have hingest : w.ingestOutgoing env msg = .ok w := by
      simp [ingestOutgoing, hpart.1]
    have hseal : (w.sealOutgoing env msg protection).1 = w := by
      cases protection with
      | snapshotKdfSign key => exact absurd rfl (hpart.2 key)
      | none => rfl
      | encrypt => rfl
      | signWithChannel =>
        unfold sealOutgoing
        dsimp only
        split <;> rfl
    simp only [hingest]
    split <;> rename_i hresult <;> rw [hresult] at hseal <;> exact hseal

theorem react_sparesHash {event : WireEvent} (h : sparesHash event = true) (env : Env)
    (w : WirePipeline) :
    (w.react env event).1.preauthHash = w.preauthHash ∧
      (w.react env event).1.connInfo = w.connInfo := by
  cases event with
  | negotiated info => cases h
  | resetPreauthToNegotiate => cases h
  | incoming frame => cases h
  | infoCreated info => exact ⟨rfl, rfl⟩
  | entryCreated sessionId session => exact ⟨rfl, rfl⟩
  | infoChanged entry info => exact ⟨rfl, rfl⟩
  | channelInstalled entry channel => exact ⟨rfl, rfl⟩
  | sessionStarted entry =>
    simp only [react, sessionStarted]
    split
    · exact ⟨rfl, rfl⟩
    split <;> exact ⟨rfl, rfl⟩
  | sessionEnded entry =>
    simp only [react, sessionEnded]
    split
    · exact ⟨rfl, rfl⟩
    split <;> exact ⟨rfl, rfl⟩
  | outgoing msg cancelled random =>
    simp only [react, transformOutgoing_other h, and_self]

/-! ## Keeping the setups apart -/

namespace Transcripts

variable {setup : ℕ}

/-- A setup begins only when no other has used the hash since its last reset, and its messages come
while no other uses it. -/
def Apart (env : Env) (x : Transcripts) : TranscriptMove → Prop
  | .prepare setup _ _ _ _ _ =>
    x.current = some setup ∨ x.current = none ∧ setup ∉ x.begun
  | .decode frame => ∀ r ∈ responses (x.wire.transformIncomingAll env frame).2,
    participatesInPreauthIncoming r.message.header = true →
      r.message.header.command = .sessionSetup ∧
      ∃ setup, x.current = some setup ∧ x.owner.lookup r.message.header.messageId = some setup
  | .reset => ∀ setup, x.current = some setup → setup ∈ x.ended
  | .derive _ | .finish _ | .elsewhere _ => True

structure Separate (env : Env) (info : ConnectionInfo) (base : Octets) (x : Transcripts) :
    Prop where
  connInfo : x.wire.connInfo = some info
  logged : ∀ message ∈ x.log, message.1 ∈ x.begun
  owned : ∀ id setup, x.owner.lookup id = some setup → setup ∈ x.begun
  alone : ∀ setup ∈ x.begun, setup ∉ x.ended → x.current = some setup
  idle : x.alive = true → x.current = none → x.wire.preauthHash = .inProgress base
  hash : x.alive = true → ∀ setup, x.current = some setup → setup ∉ x.ended →
    x.wire.preauthHash = .inProgress (extend env base (x.own setup))

variable {info : ConnectionInfo} {base : Octets} {x : Transcripts}

section

variable (h : Separate env info base x)
include h

theorem own_eq_nil (hnew : setup ∉ x.begun) : x.own setup = [] := by
  have hnone : (x.log.filter fun message => message.1 = setup) = [] := by
    rw [List.filter_eq_nil_iff]
    intro message hmessage heq
    exact hnew (decide_eq_true_iff.mp heq ▸ h.logged message hmessage)
  rw [own, hnone, List.map_nil]

theorem Separate.before_prepare (halive : x.alive = true)
    (hover : setup ∉ x.ended)
    (hmove : x.current = some setup ∨ x.current = none ∧ setup ∉ x.begun) :
    x.wire.preauthHash = .inProgress (extend env base (x.own setup)) := by
  rcases hmove with hcurrent | ⟨hcurrent, hnew⟩
  · exact h.hash halive setup hcurrent hover
  · rw [own_eq_nil h hnew]
    exact h.idle halive hcurrent

theorem Separate.prepare {buffer : Octets} {sessionId : ℕ}
    {stamp : Stamp} {cancelled : Bool} {random : Octets}
    (hmove : x.current = some setup ∨ x.current = none ∧ setup ∉ x.begun) :
    (x.prepare env setup (setupRequest info buffer sessionId stamp) cancelled random).Separate env
    info
      base := by
  unfold Transcripts.prepare
  dsimp only
  split
  · exact h
  rename_i hallowed
  push Not at hallowed
  obtain ⟨halive, hover, -⟩ := hallowed
  have hbefore := h.before_prepare halive hover hmove
  have hsame := transformOutgoing_sameSessions env x.wire (setupRequest info buffer sessionId stamp)
    cancelled random
  have hmine : ∀ other ∈ setup :: x.begun, other ∉ x.ended → some setup = some other := by
    intro other hother hopen
    rcases List.mem_cons.mp hother with rfl | hbegun
    · rfl
    have hcurrent := h.alone other hbegun hopen
    rcases hmove with hmove | ⟨hmove, -⟩
    · exact hmove.symm.trans hcurrent
    · rw [hmove] at hcurrent
      cases hcurrent
  have howned : ∀ id other,
      (x.owner.insert (setupRequest info buffer sessionId stamp).header.messageId setup).lookup id =
      some other → other ∈ setup :: x.begun := by
    intro id other hother
    rw [Table.lookup_insert_eq] at hother
    split at hother
    · cases hother
      exact List.mem_cons_self
    · exact List.mem_cons_of_mem _ (h.owned id other hother)
  cases hresult : x.wire.transformOutgoing env (setupRequest info buffer sessionId stamp) cancelled
      random with
  | mk wire result =>
    rw [hresult] at hsame
    cases result with
    | error error =>
      -- The hash may have taken the request, but its setup is over.
      refine ⟨hsame.connInfo.trans h.connInfo, fun m hm => List.mem_cons_of_mem _ (h.logged m hm),
        howned, fun other hother hopen => ?_, fun _ hnone => ?_, fun _ other hcurrent hopen => ?_⟩
      · exact hmine other hother fun hover' => hopen (List.mem_cons_of_mem _ hover')
      · cases hnone
      · cases hcurrent
        exact absurd List.mem_cons_self hopen
    | ok frame =>
      have hsent : cancelled = false := by
        cases cancelled with
        | false => rfl
        | true => cases hresult
      subst hsent
      have hhash := transformOutgoing_setupRequest hbefore env info buffer sessionId stamp random
      rw [hresult] at hhash
      refine ⟨hsame.connInfo.trans h.connInfo, fun m hm => ?_, howned, hmine, fun _ hnone => ?_,
        fun _ other hcurrent _ => ?_⟩
      · rcases List.mem_append.mp hm with hm | hm
        · exact List.mem_cons_of_mem _ (h.logged m hm)
        · obtain rfl := List.mem_singleton.mp hm
          exact List.mem_cons_self
      · cases hnone
      · cases hcurrent
        rw [hhash]
        simp [own, extend]

end

theorem intermediate_eq (x : Transcripts) (r : CommandResponse) :
    x.intermediate r = if r.message.header.command = .sessionSetup ∧
        participatesInPreauthIncoming r.message.header = true then
      (x.owner.lookup r.message.header.messageId).map (·, r.raw) else none := by
  unfold intermediate
  refine if_congr (and_congr_right fun hcommand => ?_) rfl rfl
  simp [participatesInPreauthIncoming, hcommand]

theorem own_decoded {rs : List CommandResponse}
    (hrs : ∀ r ∈ rs, participatesInPreauthIncoming r.message.header = true →
      r.message.header.command = .sessionSetup ∧
        x.owner.lookup r.message.header.messageId = some setup) :
    ((rs.filterMap x.intermediate).filter fun message => message.1 = setup).map (·.2) =
      ingested rs := by
  induction rs with
  | nil => rfl
  | cons r rs ih =>
    have hrest := ih fun r' hr' => hrs r' (List.mem_cons_of_mem _ hr')
    rw [ingested_cons r rs, ← hrest]
    cases hpart : participatesInPreauthIncoming r.message.header with
    | false => simp [intermediate_eq, ingested, hpart]
    | true =>
      obtain ⟨hcommand, howner⟩ := hrs r List.mem_cons_self hpart
      simp [intermediate_eq, ingested, hpart, hcommand, howner]

theorem Separate.decode (h : Separate env info base x) {frame : Octets}
    (hmove : x.Apart env (.decode frame)) : (x.decode env frame).Separate env info base := by
  unfold Transcripts.decode
  split
  · exact h
  rename_i halive
  have hsame := transformIncomingAll_sameSessions env x.wire frame
  cases hresult : x.wire.transformIncomingAll env frame with
  | mk wire result =>
    simp only [Apart, hresult] at hmove
    rw [hresult] at hsame
    cases result with
    | error error =>
      exact ⟨hsame.connInfo.trans h.connInfo, h.logged, h.owned, h.alone, by simp, by simp⟩
    | ok rs =>
      refine ⟨hsame.connInfo.trans h.connInfo, fun m hm => ?_, h.owned, h.alone, fun _ hnone => ?_,
        fun _ setup hcurrent hopen => ?_⟩
      · rcases List.mem_append.mp hm with hm | hm
        · exact h.logged m hm
        · obtain ⟨r, -, hm⟩ := List.mem_filterMap.mp hm
          rw [intermediate_eq] at hm
          split at hm
          · obtain ⟨setup, howner, rfl⟩ := Option.map_eq_some_iff.mp hm
            exact h.owned _ setup howner
          · cases hm
      · have hquiet : ingested rs = [] := by
          simp only [ingested, List.map_eq_nil_iff, List.filter_eq_nil_iff]
          intro r hr hpart
          obtain ⟨-, setup, hsome, -⟩ := hmove r hr hpart
          rw [hnone] at hsome
          cases hsome
        have hhash := transformIncomingAll_hash (h.idle (by simpa using halive) hnone) hresult
        rwa [hquiet] at hhash
      · have hmine : ∀ r ∈ rs, participatesInPreauthIncoming r.message.header = true →
            r.message.header.command = .sessionSetup ∧
              x.owner.lookup r.message.header.messageId = some setup := by
          intro r hr hpart
          obtain ⟨hcommand, other, hother, howner⟩ := hmove r hr hpart
          rw [hcurrent, Option.some_inj] at hother
          exact ⟨hcommand, hother ▸ howner⟩
        have hhash := transformIncomingAll_hash
          (h.hash (by simpa using halive) setup hcurrent hopen) hresult
        rw [hhash, ← extend_append, ← own_decoded hmine]
        simp [own]

/-- **Every move apart keeps the transcripts separate.** -/
theorem Separate.step (h : Separate env info base x) (hbase : info.preauthHash = .inProgress base)
    {move : TranscriptMove} (hmove : x.Apart env move) :
    (x.step env info move).1.Separate env info base := by
  cases move with
  | prepare setup buffer sessionId stamp cancelled random => exact h.prepare hmove
  | decode frame => exact h.decode hmove
  | derive setup => exact h
  | reset =>
    simp only [Transcripts.step]
    split
    · have hreset : x.wire.resetPreauthToNegotiate =
          .ok { x.wire with preauthHash := info.preauthHash, setupSigners := ∅ } := by
        simp [resetPreauthToNegotiate, h.connInfo]
      rw [hreset]
      refine ⟨h.connInfo, h.logged, h.owned, fun setup hbegun hopen => ?_, fun _ _ =>
        hbase, by simp⟩
      exact absurd (hmove setup (h.alone setup hbegun hopen)) hopen
    · exact h
  | finish setup =>
    have hopen : ∀ {other : ℕ}, other ∉ setup :: x.ended → other ∉ x.ended := fun hother hover =>
      hother (List.mem_cons_of_mem _ hover)
    exact ⟨h.connInfo, h.logged, h.owned, fun other hbegun hother =>
      h.alone other hbegun (hopen hother), h.idle, fun halive other hcurrent hother =>
        h.hash halive other hcurrent (hopen hother)⟩
  | elsewhere event =>
    simp only [Transcripts.step]
    split
    · rename_i hspares
      obtain ⟨hhash, hconn⟩ := react_sparesHash hspares env x.wire
      exact ⟨hconn.trans h.connInfo, h.logged, h.owned, h.alone,
        fun halive hnone => hhash.trans (h.idle halive hnone),
        fun halive other hcurrent hopen => hhash.trans (h.hash halive other hcurrent hopen)⟩
    · exact h

theorem start_separate {wire : WirePipeline} (hconn : wire.connInfo = some info)
    (hbase : wire.preauthHash = .inProgress base) : (start wire).Separate env info base where
  connInfo := hconn
  logged := nofun
  owned := nofun
  alone := nofun
  idle _ _ := hbase
  hash := nofun

end Transcripts

/-- In any order that keeps the setups apart, every hash a setup derives keys from is that of the
negotiation and exactly its own requests and intermediate responses. -/
theorem keys_from_own_transcript (env : Env) (info : ConnectionInfo) (base : Octets)
    (wire : WirePipeline) (moves : List TranscriptMove)
    (hbase : info.preauthHash = .inProgress base) (hconn : wire.connInfo = some info)
    (hhash : wire.preauthHash = info.preauthHash)
    (hmoves : Meets (fun x move => (step env info x move).1) (Transcripts.Apart env)
      (.start wire) moves) :
    ∀ before move after, moves = before ++ move :: after →
      ∃ x, x = (Run.along (step env info) (.start wire) before).state ∧
        ∀ derived ∈ (x.step env info move).2,
          derived.2 = .ok (some (extend env base (x.own derived.1))) := by
  rintro before move after rfl
  obtain ⟨hbefore, -⟩ := Meets.append.mp hmoves
  have hseparate : (Run.along (step env info) (.start wire) before).state.Separate env info
      base :=
    Run.meets (P := fun r => r.state.Separate env info base)
      (start_separate hconn (hhash.trans hbase))
      (fun r move hmove hr => hr.step hbase hmove) hbefore
  refine ⟨_, rfl, ?_⟩
  generalize (Run.along (step env info) (.start wire) before).state = x at hseparate
  rintro ⟨setup, snapshot⟩ hderived
  cases move with
  | derive other =>
    simp only [step] at hderived
    split at hderived
    · rename_i hallowed
      obtain ⟨halive, hbegun, hopen⟩ := hallowed
      cases List.mem_singleton.mp hderived
      exact snapshot_inProgress
        (hseparate.hash halive setup (hseparate.alone setup hbegun hopen) hopen)
    · cases hderived
  | prepare => cases hderived
  | decode => cases hderived
  | reset => cases hderived
  | finish => cases hderived
  | elsewhere => cases hderived

/-! ## Two sessions of a connection -/

def info311 : ConnectionInfo where
  negotiation := { sampleInfo.negotiation with dialectRev := .smb0311 }
  config := sampleInfo.config
  preauthHash := .inProgress []
  unfinished := PreauthHashState.inProgress_ne_finished []

def negotiated311 : WirePipeline :=
  (Run.along (react sampleEnv) .default [.negotiated info311]).state

def firstToken (setup messageId : ℕ) : TranscriptMove :=
  .prepare setup [1] 0 ⟨messageId, 1, 1⟩ false []

def afterMoves (moves : List TranscriptMove) : Transcripts :=
  (Run.along (step sampleEnv info311) (.start negotiated311) moves).state

theorem lone_setup_transcript : ∃ hash x,
    x = afterMoves [firstToken 0 3, .decode (setupFrame .moreProcessingRequired 0 false)] ∧
    (x.step sampleEnv info311 (.derive 0)).2 = [(0, .ok (some hash))] ∧ (x.own 0).length = 2 ∧
    hash = extend sampleEnv [] (x.own 0) := by
  have hframe : responses ((afterMoves [firstToken 0 3]).wire.transformIncomingAll sampleEnv
      (setupFrame .moreProcessingRequired 0 false)).2 =
        [setupResponse .moreProcessingRequired 0 false] := by
    decide +kernel
  have hmoves : Meets (fun x move => (step sampleEnv info311 x move).1)
      (Transcripts.Apart sampleEnv) (.start negotiated311)
      [firstToken 0 3, .decode (setupFrame .moreProcessingRequired 0 false), .derive 0] := by
    refine ⟨.inr ⟨rfl, nofun⟩, fun r hr _ => ?_, trivial, trivial⟩
    obtain rfl := List.mem_singleton.mp (hframe ▸ hr)
    exact ⟨rfl, 0, rfl, by decide +kernel⟩
  obtain ⟨x, hx, hderived⟩ :=
    keys_from_own_transcript sampleEnv info311 [] negotiated311 _ rfl rfl rfl hmoves
      [firstToken 0 3, .decode (setupFrame .moreProcessingRequired 0 false)] (.derive 0) [] rfl
  have hone : (x.step sampleEnv info311 (.derive 0)).2 =
      [(0, x.wire.snapshotPreauthFinalized)] := by
    subst hx
    decide +kernel
  have hhash : x.wire.snapshotPreauthFinalized = .ok (some (extend sampleEnv [] (x.own 0))) :=
    hderived (0, x.wire.snapshotPreauthFinalized) (hone ▸ List.mem_singleton_self _)
  refine ⟨_, x, hx, hone.trans ?_, ?_, rfl⟩
  · rw [hhash]
  · subst hx
    decide +kernel

/-- Without a reset the second setup inherits the hash of the first; a reset in between loses what
the first one has exchanged. -/
theorem transcripts_mix :
    (∃ hash x, x = afterMoves [firstToken 0 3, .finish 0, firstToken 1 4] ∧
      (x.step sampleEnv info311 (.derive 1)).2 = [(1, .ok (some hash))] ∧
      hash ≠ extend sampleEnv [] (x.own 1)) ∧
    ∃ hash x, x = afterMoves [.reset, firstToken 0 3, .reset, firstToken 1 4] ∧
      (x.step sampleEnv info311 (.derive 0)).2 = [(0, .ok (some hash))] ∧
      hash ≠ extend sampleEnv [] (x.own 0) := by
  refine ⟨⟨_, _, rfl, rfl, ?_⟩, ⟨_, _, rfl, rfl, ?_⟩⟩
  · decide +kernel
  · decide +kernel

end Session
