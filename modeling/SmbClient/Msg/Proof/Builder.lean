import SmbClient.Lib.Run
import SmbClient.Msg.Proof.WireOut

/-!
# Every use of a wire builder

The calls that succeed on an encoded builder are payloads, the offsets, signatures in order, and one
way to finish (`Progress`).
-/

namespace Msg

namespace WireBuilder

variable {builder next : WireBuilder} {parts payloads : List Octets} {signatures : List ℕ}
  {requests : List PlainRequest} {segmentLimit : ℕ}

inductive Call where
  | attachPayload (payload : Octets)
  | finalizeOffsets
  | signingSegments (member : ℕ)
  | patchSignature (member signature : ℕ)
  | finishSigned
  | finishUnsigned

def call (builder : WireBuilder) : Call → Except SmbMsgError WireBuilder
  | .attachPayload payload => builder.attachPayload payload
  | .finalizeOffsets => builder.finalizeOffsets
  | .signingSegments member => (builder.signingSegments member).map fun _ => builder
  | .patchSignature member signature => builder.patchSignature member signature
  | .finishSigned => builder.finishSigned
  | .finishUnsigned => builder.finishUnsigned

def perform (builder : WireBuilder) (c : Call) : WireBuilder × List Call :=
  match builder.call c with
  | .error _ => (builder, [])
  | .ok next => (next, [c].filter fun
    | .signingSegments _ => false
    | _ => true)

/-! ## Signed members -/

def signed : List Octets → List ℕ → List Octets
  | part :: parts, signature :: signatures =>
    part.splice 48 (Octets.encode 16 signature) :: signed parts signatures
  | parts, _ => parts

theorem signed_nil (parts : List Octets) : signed parts [] = parts := by cases parts <;> rfl

theorem length_signed : (signed parts signatures).length = parts.length := by
  induction parts generalizing signatures with
  | nil => rfl
  | cons part parts ih => cases signatures <;> simp [signed, ih]

theorem signed_concat {part : Octets} (signature : ℕ)
    (h : (signed parts signatures)[signatures.length]? = some part) :
    signed parts (signatures ++ [signature]) = (signed parts signatures).set signatures.length
      (part.splice 48 (Octets.encode 16 signature)) := by
  induction signatures generalizing parts with
  | nil =>
    cases parts with
    | nil => simp [signed] at h
    | cons first parts => simp_all [signed, signed_nil]
  | cons _ signatures ih =>
    cases parts with
    | nil => simp [signed] at h
    | cons first parts => simp_all [signed]

def patches (signatures : List ℕ) : List Call :=
  signatures.zipIdx.map fun (signature, member) => .patchSignature member signature

/-! ## Runs -/

structure Progress (parts payloads : List Octets) (signatures : List ℕ) (log : List Call)
    (builder : WireBuilder) : Prop where
  framed : Framed builder.metadata builder.memberRanges (signed parts signatures)
  attached : builder.payloads = payloads.filter (!·.isEmpty)
  patched : builder.patchedMembers = signatures.length
  log : match builder.state with
    | .encoded => signatures = [] ∧ log = payloads.map .attachPayload
    | .offsetsFinalized => log = payloads.map .attachPayload ++ .finalizeOffsets ::
        patches signatures
    | .protected' => ∃ finish, log = payloads.map .attachPayload ++
          .finalizeOffsets :: (patches signatures ++ [finish]) ∧
        (finish = .finishSigned ∧ signatures.length = parts.length ∨
          finish = .finishUnsigned ∧ signatures = [])

theorem Progress.perform {log : List Call} (h : Progress parts payloads signatures log builder)
    (c : Call) : ∃ payloads signatures,
      Progress parts payloads signatures (log ++ (builder.perform c).2) (builder.perform c).1 := by
  unfold WireBuilder.perform
  split
  · exact ⟨payloads, signatures, by simpa using h⟩
  rename_i next hnext
  have hlog := h.log
  cases c with
  | attachPayload payload =>
    obtain ⟨hstate, hnext⟩ := requireState_bind.mp hnext
    simp only [hstate] at hlog
    obtain ⟨rfl, rfl⟩ := hlog
    refine ⟨payloads ++ [payload], [], ?_⟩
    split at hnext
    · cases hnext
      exact ⟨h.framed, by simp_all [h.attached], h.patched, by simp [hstate]⟩
    · split at hnext
      · cases hnext
      · cases hnext
        exact ⟨h.framed, by simp_all [h.attached], h.patched, by simp [hstate]⟩
  | finalizeOffsets =>
    obtain ⟨hstate, rfl⟩ := finalizeOffsets_eq_ok.mp hnext
    simp only [hstate] at hlog
    obtain ⟨rfl, rfl⟩ := hlog
    exact ⟨payloads, [], h.framed, h.attached, h.patched, rfl⟩
  | signingSegments member =>
    have hsame : builder = next := by
      revert hnext
      simp only [call]
      cases builder.signingSegments member <;> simp [Except.map]
    exact ⟨payloads, signatures, by simpa [← hsame] using h⟩
  | patchSignature member signature =>
    obtain ⟨part, hpart, hframed⟩ := patchSignature_framed h.framed hnext
    obtain ⟨hstate, rfl, range, -, -, rfl⟩ := patchSignature_eq_ok hnext
    simp only [hstate] at hlog
    rw [h.patched] at hpart hframed
    refine ⟨payloads, signatures ++ [signature], ?_, h.attached, by simp [h.patched], ?_⟩
    · rwa [signed_concat signature hpart]
    · simp [hstate, hlog, patches, List.zipIdx_append, h.patched]
  | finishSigned =>
    obtain ⟨hstate, hcount, rfl⟩ := finishSigned_eq_ok.mp hnext
    simp only [hstate] at hlog
    have hmembers : builder.memberCount = (signed parts signatures).length := h.framed.count
    rw [length_signed, ← hcount, h.patched] at hmembers
    exact ⟨payloads, signatures, h.framed, h.attached, h.patched, .finishSigned, by simp [hlog],
      .inl ⟨rfl, hmembers⟩⟩
  | finishUnsigned =>
    obtain ⟨hstate, hcount, rfl⟩ := finishUnsigned_eq_ok.mp hnext
    simp only [hstate] at hlog
    rw [h.patched] at hcount
    exact ⟨payloads, signatures, h.framed, h.attached, h.patched, .finishUnsigned, by simp [hlog],
      .inr ⟨rfl, List.eq_nil_of_length_eq_zero hcount⟩⟩

/-- A patch replaces the 16 bytes at the member's start plus 48; a message that is sealed is the
members, all signed in order or none, and the payloads. -/
theorem sealed_as_called {written : List PlainRequest}
    (h : encode requests segmentLimit = .ok (builder, written)) (calls : List Call) :
    let run := Run.along perform builder calls
    (∀ member signature next, run.state.patchSignature member signature = .ok next →
      ∃ range : ByteRange, run.state.builderMemberRange member = .ok range ∧
        range.start + 48 + 16 ≤ run.state.metadata.length ∧ next = { run.state with
        metadata := run.state.metadata.splice (range.start + 48) (Octets.encode 16 signature)
        patchedMembers := run.state.patchedMembers + 1 }) ∧
    ∀ message, run.state.sealMessage = .ok message →
      ∃ (payloads : List Octets) (signatures : List ℕ) (finish : Call),
      run.outputs = payloads.map .attachPayload ++
        .finalizeOffsets :: (patches signatures ++ [finish]) ∧
      (finish = .finishSigned ∧ signatures.length = requests.length ∨
        finish = .finishUnsigned ∧ signatures = []) ∧
      message.segments =
        (signed (members requests) signatures).flatten :: payloads.filter (!·.isEmpty) := by
  intro run
  obtain ⟨hencodable, rfl, -⟩ := encode_eq_ok.mp h
  refine ⟨fun member signature next hnext => ?_, fun message hmessage => ?_⟩
  · obtain ⟨-, -, range, hrange, hroom, hnext⟩ := patchSignature_eq_ok hnext
    exact ⟨range, hrange, hroom, hnext⟩
  · obtain ⟨payloads, signatures, hprogress⟩ : ∃ payloads signatures,
        Progress (members requests) payloads signatures run.outputs run.state := by
      refine List.foldl_invariant (P := fun r : Run WireBuilder Call Call => ∃ payloads signatures,
        Progress (members requests) payloads signatures r.outputs r.state) ?_ calls
        ⟨[], [], ?_, rfl, rfl, rfl, rfl⟩
      · rintro r c ⟨payloads, signatures, hr⟩
        rw [Run.outputs_next, Run.state_next]
        exact hr.perform c
      · rw [signed_nil]
        exact framed_encoded hencodable
    have hlog := hprogress.log
    simp only [(requireState_bind.mp hmessage).1, length_members] at hlog
    obtain ⟨finish, hlog, hfinish⟩ := hlog
    refine ⟨payloads, signatures, finish, hlog, hfinish, ?_⟩
    rw [segments_of_seal hmessage, hprogress.framed.metadata_eq, hprogress.attached]

def smallRequest : PlainRequest where
  header :=
    { creditCharge := 0, status := 0, command := .echo, creditRequest := 1, flags := .new
      nextCommand := 0, messageId := 3, treeId := some 0, asyncId := none
      sessionId := 5, signature := 0 }
  body := [4, 0, 0, 0]

set_option maxRecDepth 4000 in
theorem smallRequest_sealed : ∃ builder written message,
    encode [smallRequest, smallRequest] 2 = .ok (builder, written) ∧
    (Run.along perform builder [.attachPayload [7], .finalizeOffsets, .patchSignature 0 5,
      .patchSignature 1 6, .finishSigned]).state.sealMessage = .ok message ∧
    ∃ payloads signatures, message.segments =
      (signed (members [smallRequest, smallRequest]) signatures).flatten :: payloads := by
  have hencode : encode [smallRequest, smallRequest] 2 = .ok (_, _) := rfl
  refine ⟨_, _, _, hencode, rfl, ?_⟩
  obtain ⟨payloads, signatures, -, -, -, h⟩ := (sealed_as_called hencode [.attachPayload [7],
    .finalizeOffsets, .patchSignature 0 5, .patchSignature 1 6, .finishSigned]).2 _ rfl
  exact ⟨_, signatures, h⟩

end WireBuilder

end Msg
