import SmbClient.Runtime.Proof.Walk
import SmbClient.Runtime.WireCompound

/-!
# What a signature covers

A member is signed over segments or owned ones, and checked over its bytes on the wire: all are the
bytes of the member with the signature zeroed, followed by the payloads of a single message.
-/

namespace Msg

open Octets

namespace Header

variable {h : Header}

/-- A header of 64 bytes: an asynchronous one has its id. -/
def Whole (h : Header) : Prop := h.flags.asyncCommand = true → h.asyncId.isSome = true

instance (h : Header) : Decidable h.Whole := inferInstanceAs (Decidable (_ → _))

def front (h : Header) : Octets := h.lead ++ (encode 4 h.nextCommand ++ h.ids)

theorem write_eq_front (h : Header) : h.write = h.front ++ encode 16 h.signature := by
  rw [write_eq, front, List.append_assoc, List.append_assoc]

theorem length_front (hwhole : h.Whole) : h.front.length = 48 := by
  have hids : h.ids.length = 24 := by
    unfold ids
    cases hasync : h.flags.asyncCommand
    · simp
    · obtain ⟨id, hid⟩ := Option.isSome_iff_exists.mp (hwhole hasync)
      simp [hid]
  rw [front, List.length_append, List.length_append, length_lead, length_encode, hids]

theorem length_whole (hwhole : h.Whole) : h.write.length = structSize := by
  rw [write_eq_front, List.length_append, length_front hwhole]
  rfl

theorem field_write (before : Octets) {offset width n : ℕ} (hlen : before.length = offset)
    (hwrite : ∃ after, h.write = before ++ (encode width n ++ after)) :
    h.write.field offset width = n % 256 ^ width := by
  obtain ⟨after, hwrite⟩ := hwrite
  exact field_of_eq hwrite hlen

section

variable (h)

theorem field_size : h.write.field 4 2 = structSize := by
  refine (field_write magic rfl ?_).trans (by decide : structSize % 256 ^ 2 = structSize)
  exact ⟨_, rfl⟩

theorem field_command : h.write.field 12 2 = h.command.code := by
  have hcode : h.command.code % 256 ^ 2 = h.command.code := by cases h.command <;> decide
  refine (field_write (magic ++ (encode 2 structSize ++
    (encode 2 h.creditCharge ++ encode 4 h.status.toNat))) (by simp [magic]) ?_).trans
    hcode
  exact ⟨_, rfl⟩

theorem field_flags : h.write.field 16 4 = h.flags.toBits % 256 ^ 4 := by
  refine field_write (magic ++ (encode 2 structSize ++ (encode 2 h.creditCharge ++
    (encode 4 h.status.toNat ++ (encode 2 h.command.code ++
      encode 2 h.creditRequest))))) (by simp [magic]) ?_
  exact ⟨_, rfl⟩

theorem field_messageId : h.write.field 24 8 = h.messageId % 256 ^ 8 := by
  refine field_write (h.lead ++ encode 4 h.nextCommand) (by simp [length_lead]) ?_
  exact ⟨_, rfl⟩

end

theorem field_signature (hwhole : h.Whole) : h.write.field 48 16 = h.signature % 256 ^ 16 :=
  field_write h.front (length_front hwhole) ⟨[], by rw [write_eq_front, List.append_nil]⟩

theorem ofCode_code (command : Command) : Command.ofCode command.code = some command := by
  cases command <;> decide

theorem serverToRedir_ofBits (flags : HeaderFlags) :
    (HeaderFlags.ofBits (flags.toBits % 256 ^ 4)).serverToRedir = flags.serverToRedir := by
  have hbit : flags.toBits % 256 ^ 4 % 2 = flags.serverToRedir.toNat := by
    have hle := Bool.toNat_le flags.serverToRedir
    unfold HeaderFlags.toBits
    omega
  rw [HeaderFlags.ofBits, Nat.testBit_zero, hbit]
  cases flags.serverToRedir <;> rfl

theorem read_write (hwhole : h.Whole) (rest : Octets) :
    ∃ header, read (h.write ++ rest) = some header ∧
      header.messageId = h.messageId % 256 ^ 8 ∧ header.command = h.command ∧
      header.flags.serverToRedir = h.flags.serverToRedir ∧
      header.signature = h.signature % 256 ^ 16 := by
  have htake : (h.write ++ rest).take structSize = h.write := by
    rw [← length_whole hwhole, List.take_left]
  have hlen : ¬ (h.write ++ rest).length < structSize := by
    rw [List.length_append, length_whole hwhole]
    omega
  have hmagic : h.write.take 4 = magic := by
    rw [write_eq]
    rfl
  have hread : read (h.write ++ rest) = parse h.write := by rw [read, if_neg hlen, htake]
  rw [hread, parse, if_neg (not_not.mpr h.field_size), h.field_command, ofCode_code]
  rw [h.field_messageId, h.field_flags, field_signature hwhole]
  exact ⟨_, rfl, rfl, rfl, serverToRedir_ofBits h.flags, rfl⟩

end Header

end Msg

namespace Wire

open Msg WireBuilder Session MessageSigner

variable {env : Env} {signer : MessageSigner}
variable {header : Header} {part : Octets} {builder : WireBuilder} {payloads parts : List Octets}
  {requests : List PlainRequest} {segmentLimit : ℕ}

/-! ## The bytes of a signature -/

def signedBytes (header : Header) : List Octets → Octets
  | [] => []
  | first :: rest =>
    let written := { header with signature := 0 }.write
    written ++ List.replicate (Header.structSize - written.length) 0 ++
      (first.drop Header.structSize :: rest).flatten

theorem mac_congr {h : Header} (hmessage : header.messageId = h.messageId % 256 ^ 8)
    (hcommand : header.command = h.command)
    (hredir : header.flags.serverToRedir = h.flags.serverToRedir) (data : Octets) :
    signer.mac env header data = signer.mac env h data := by
  have hnonce : makeNonce header = makeNonce h := by
    rw [makeNonce, makeNonce, hmessage, hcommand, hredir, Octets.encode_mod]
  rw [mac, mac, hnonce]

structure Carries (header : Header) (part : Octets) : Prop where
  whole : header.Whole
  writable : header.treeId.isSome ≠ header.flags.asyncCommand
  starts : ∃ tail, part = header.write ++ tail

namespace Carries

variable {header : Header} {part : Octets}

section

variable (h : Carries header part)
include h

theorem le_length : Header.structSize ≤ part.length := by
  obtain ⟨tail, rfl⟩ := h.starts
  rw [List.length_append, Header.length_whole h.whole]
  exact Nat.le_add_right _ _

theorem splice_eq (signature : ℕ) : part.splice 48 (Octets.encode 16 signature) =
      { header with signature }.write ++ part.drop Header.structSize := by
  obtain ⟨tail, rfl⟩ := h.starts
  have hfront : { header with signature }.front = header.front := rfl
  have hlen := Header.length_front h.whole
  have hdrop : (header.write ++ tail).drop Header.structSize = tail := by
    rw [← Header.length_whole h.whole, List.drop_left]
  rw [hdrop, Header.write_eq_front, Header.write_eq_front, hfront, List.append_assoc,
    List.append_assoc, ← hlen, Octets.splice_middle]
  rw [Octets.length_encode, Octets.length_encode]

theorem zeroSignature_eq : zeroSignature part =
      { header with signature := 0 }.write ++ part.drop Header.structSize := by
  rw [zeroSignature, ← Octets.encode_zero, h.splice_eq 0]

theorem signedBytes_eq (payloads : List Octets) : signedBytes header (part :: payloads) =
      zeroSignature part ++ payloads.flatten := by
  have hwhole : { header with signature := 0 }.Whole := h.whole
  rw [signedBytes, Header.length_whole hwhole, Nat.sub_self, List.replicate_zero, List.append_nil,
    h.zeroSignature_eq, List.flatten_cons, List.append_assoc]

theorem signatureForSegments_eq (payloads : List Octets) :
    signer.signatureForSegments env header (part :: payloads) =
      .ok (signer.mac env header (signedBytes header (part :: payloads))) := by
  have htry : { header with signature := 0 }.tryWrite = .ok { header with signature := 0 }.write :=
    Header.tryWrite_eq_ok.mpr ⟨h.writable, rfl⟩
  rw [signatureForSegments, if_neg (Nat.not_lt.mpr h.le_length), htry]
  rfl

end

end Carries

theorem zeroSignature_splice {new : Octets} (hnew : new.length = 16)
    (hlong : Header.structSize ≤ part.length) (after : Octets) :
    zeroSignature (part.splice 48 new ++ after) = zeroSignature part ++ after := by
  have hzero : (List.replicate 16 (0 : UInt8)).length = 16 := List.length_replicate
  have hroom : 48 + new.length ≤ part.length := by
    rw [hnew]
    exact hlong
  rw [zeroSignature, Octets.splice_append_left, Octets.splice_splice (hzero.trans hnew.symm) hroom]
  · rfl
  · rw [Octets.length_splice hroom]
    exact hlong

/-! ## Signing one member -/

section

variable {builder next : WireBuilder} {parts : List Octets} {member : ℕ} {header : Header}
  {part : Octets}

section
variable (hframed : Framed builder.metadata builder.memberRanges parts)
    (hstate : builder.state = .offsetsFinalized) (hpart : parts[member]? = some part)
include hframed hstate hpart

theorem memberMetadata_eq : builder.memberMetadata member = .ok part := by
  obtain ⟨hmember, -⟩ := List.getElem?_eq_some_iff.mp hpart
  obtain ⟨range, hrange⟩ : ∃ range, (Chain.ranges 0 parts)[member]? = some range :=
    ⟨_, List.getElem?_eq_getElem (by rwa [Chain.length_ranges])⟩
  have hget := Chain.get_ranges [] hrange
  rw [List.nil_append, ← hframed.metadata_eq, hpart] at hget
  rw [memberMetadata, requireState_bind]
  refine ⟨hstate, Except.bind_eq_ok.mpr ⟨range, ?_, ?_⟩⟩
  · rw [builderMemberRange_eq_ok, hframed.memberSpans_eq]
    exact hrange
  · rw [hget]
    rfl

theorem signingSegments_eq :
    builder.signingSegments member = .ok (part :: builder.signedPayloads) := by
  rw [signingSegments, memberMetadata_eq hframed hstate hpart]
  rfl

theorem ownedSigningSegments_eq (hlong : Header.structSize ≤ part.length) :
    builder.ownedSigningSegments member = .ok (zeroSignature part :: builder.signedPayloads) := by
  rw [ownedSigningSegments, memberMetadata_eq hframed hstate hpart]
  exact if_neg (Nat.not_lt.mpr hlong)

end

theorem memberSignature_covers {batched : Bool}
    (hframed : Framed builder.metadata builder.memberRanges parts)
    (hstate : builder.state = .offsetsFinalized) (hpart : parts[member]? = some part)
    (hcarries : Carries header part) (hbatched : batched = true → signer.isBatchableCmac = true) :
    memberSignature env signer batched builder member header =
      .ok (signer.mac env header
        (zeroSignature part ++ builder.signedPayloads.flatten)) := by
  cases batched with
  | false =>
    rw [memberSignature, signingSegments_eq hframed hstate hpart]
    exact (hcarries.signatureForSegments_eq _).trans (by rw [hcarries.signedBytes_eq])
  | true =>
    have halgo : signer.signingAlgo = .aesCmac := by
      simpa [isBatchableCmac] using hbatched rfl
    rw [memberSignature, ownedSigningSegments_eq hframed hstate hpart hcarries.le_length]
    refine congrArg Except.ok ?_
    rw [env.cmacBatch_eq, List.flatten_cons, mac, halgo]

/-! ## Signing all members -/

theorem liftMsg_eq_ok {α : Type} {x : Except SmbMsgError α} {a : α} :
    liftMsg x = .ok a ↔ x = .ok a := by
  cases x <;> simp [liftMsg]

def signedPart (env : Env) (signer : MessageSigner) (payloads : List Octets) (header : Header)
    (part : Octets) : Octets :=
  part.splice 48 (Octets.encode 16
    (signer.mac env header (zeroSignature part ++ payloads.flatten)))

theorem signMembers_parts {batched : Bool} {headers : List Header}
    (hbatched : batched = true → signer.isBatchableCmac = true)
    (hframed : Framed builder.metadata builder.memberRanges parts)
    (hstate : builder.state = .offsetsFinalized)
    (hcarries : ∀ i header, headers[i]? = some header →
      ∃ part, parts[member + i]? = some part ∧ Carries header part)
    (h : signMembers env signer batched builder member headers = .ok next) :
    ∃ signed, Framed next.metadata next.memberRanges signed ∧
      next = { builder with metadata := next.metadata, patchedMembers := next.patchedMembers } ∧
      signed.length = parts.length ∧ (∀ i < member, signed[i]? = parts[i]?) ∧
      ∀ i header, headers[i]? = some header → ∃ part, parts[member + i]? = some part ∧
        signed[member + i]? = some (signedPart env signer builder.signedPayloads header part) := by
  induction headers generalizing builder member parts with
  | nil =>
    cases h
    exact ⟨parts, hframed, rfl, rfl, fun _ _ => rfl, by simp⟩
  | cons header rest ih =>
    obtain ⟨part, hpart, hcarry⟩ := hcarries 0 header rfl
    rw [Nat.add_zero] at hpart
    obtain ⟨signature, hsignature, h⟩ := Except.bind_eq_ok.mp h
    rw [memberSignature_covers hframed hstate hpart hcarry hbatched] at hsignature
    cases hsignature
    obtain ⟨patched, hpatched, h⟩ := Except.bind_eq_ok.mp h
    rw [liftMsg_eq_ok] at hpatched
    obtain ⟨_, hsame, hnext⟩ := patchSignature_framed hframed hpatched
    rw [hpart, Option.some.injEq] at hsame
    subst hsame
    change Framed _ _ (parts.set member (signedPart env signer builder.signedPayloads header part))
      at hnext
    obtain ⟨-, -, range, -, -, hpatch⟩ := patchSignature_eq_ok hpatched
    have hpayloads : patched.signedPayloads = builder.signedPayloads := by rw [hpatch]; rfl
    have hlater : ∀ i, (parts.set member (signedPart env signer builder.signedPayloads header
        part))[member + 1 + i]? = parts[member + (i + 1)]? := by
      intro i
      rw [List.getElem?_set_ne (by omega), Nat.add_assoc, Nat.add_comm 1 i]
    obtain ⟨signed, hsigned, hrecord, hlength, hearlier, hheaders⟩ := ih hnext
      (by rw [hpatch]; exact hstate)
      (fun i header hi => by
        have hcarry := hcarries (i + 1) header hi
        rwa [← hlater i] at hcarry) h
    refine ⟨signed, hsigned, ?_, by rw [hlength, List.length_set], fun i hi => ?_, ?_⟩
    · rw [hrecord, hpatch]
    · rw [hearlier i (by omega), List.getElem?_set_ne (by omega)]
    · rintro (_ | i) found hi
      · rw [List.getElem?_cons_zero, Option.some.injEq] at hi
        subst hi
        obtain ⟨hlt, -⟩ := List.getElem?_eq_some_iff.mp hpart
        refine ⟨part, hpart, ?_⟩
        rw [Nat.add_zero, hearlier member (Nat.lt_succ_self _), List.getElem?_set_self hlt]
      · obtain ⟨later, hfound, hresult⟩ := hheaders i found hi
        rw [hpayloads] at hresult
        rw [hlater] at hfound
        refine ⟨later, hfound, ?_⟩
        rw [← hresult, Nat.add_assoc, Nat.add_comm 1 i]

end

/-! ## Messages -/

theorem attachPayload_eq_ok {next : WireBuilder} {payload : Octets}
    (h : builder.attachPayload payload = .ok next) :
    ∃ attached, next = { builder with payloads := attached } ∧
      attached.flatten = builder.payloads.flatten ++ payload := by
  obtain ⟨-, h⟩ := requireState_bind.mp h
  split at h
  · rename_i hempty
    cases h
    rw [List.isEmpty_iff] at hempty
    exact ⟨_, rfl, by rw [hempty, List.append_nil]⟩
  split at h
  · cases h
  · cases h
    exact ⟨_, rfl, by rw [List.flatten_append, List.flatten_singleton]⟩

theorem attachAll_eq_ok {next : WireBuilder}
    (h : payloads.foldlM attachPayload builder = .ok next) :
    ∃ attached, next = { builder with payloads := attached } ∧
      attached.flatten = builder.payloads.flatten ++ payloads.flatten := by
  induction payloads generalizing builder with
  | nil =>
    cases h
    exact ⟨_, rfl, (List.append_nil _).symm⟩
  | cons payload rest ih =>
    obtain ⟨middle, hmiddle, hrest⟩ := Except.bind_eq_ok.mp h
    obtain ⟨first, rfl, hfirst⟩ := attachPayload_eq_ok hmiddle
    obtain ⟨attached, rfl, hattached⟩ := ih hrest
    refine ⟨attached, rfl, ?_⟩
    rw [hattached, hfirst, List.flatten_cons, List.append_assoc]

/-- The finalized builder is framed, one member for each request. -/
theorem finalized_eq_ok {written : List PlainRequest}
    (h : finalized requests payloads segmentLimit = .ok (builder, written)) :
    WireBuilder.Encodable requests segmentLimit ∧ written = numbered requests ∧
      Framed builder.metadata builder.memberRanges (members requests) ∧
      builder.payloads.flatten = payloads.flatten ∧ builder.state = .offsetsFinalized := by
  obtain ⟨⟨encoded, _⟩, hencode, h⟩ := Except.bind_eq_ok.mp h
  obtain ⟨hencodable, rfl, rfl⟩ := encode_eq_ok.mp hencode
  obtain ⟨attached, hattach, h⟩ := Except.bind_eq_ok.mp h
  obtain ⟨all, rfl, hall⟩ := attachAll_eq_ok hattach
  obtain ⟨final, hfinal, h⟩ := Except.bind_eq_ok.mp h
  obtain ⟨-, rfl⟩ := finalizeOffsets_eq_ok.mp hfinal
  cases h
  exact ⟨hencodable, rfl, framed_encoded hencodable, hall, rfl⟩

theorem carries_members (hwhole : ∀ r ∈ requests, r.header.Whole)
    (hwritable : ∀ r ∈ requests, r.Writable) {i : ℕ} {request : PlainRequest}
    (h : (numbered requests)[i]? = some request) :
    ∃ part, (members requests)[i]? = some part ∧ Carries request.header part := by
  induction requests generalizing i with
  | nil => simp [numbered] at h
  | cons r rest ih =>
    rw [List.forall_mem_cons] at hwhole hwritable
    cases i with
    | succ i => exact ih hwhole.2 hwritable.2 h
    | zero =>
      cases h
      refine ⟨_, rfl, hwhole.1, hwritable.1.2, ?_⟩
      cases rest.isEmpty with
      | true => exact ⟨r.body, rfl⟩
      | false => exact ⟨r.body ++ List.replicate (r.padded - r.size) 0, List.append_assoc _ _ _⟩

/-- A signed member verifies. -/
theorem signedPart_checks (hcarries : Carries header part)
    (hmac : ∀ header data, signer.mac env header data < 2 ^ 128) (payloads : List Octets) :
    ∃ parsed, Header.read (signedPart env signer payloads header part ++ payloads.flatten) =
        some parsed ∧
      signer.check env parsed (signedPart env signer payloads header part ++ payloads.flatten) =
        .ok () := by
  have hwhole : ∀ signature, { header with signature }.Whole := fun _ => hcarries.whole
  have hsplice := hcarries.splice_eq (signer.mac env header
    (zeroSignature part ++ payloads.flatten))
  obtain ⟨parsed, hread, hmessage, hcommand, hredir, hsignature⟩ := Header.read_write (hwhole _)
    (part.drop Header.structSize ++ payloads.flatten)
  have hzero := zeroSignature_splice (Octets.length_encode 16 (signer.mac env header
    (zeroSignature part ++ payloads.flatten))) hcarries.le_length payloads.flatten
  refine ⟨parsed, ?_, check_eq_ok.mpr ⟨?_, ?_⟩⟩
  · rw [signedPart, hsplice, List.append_assoc]
    exact hread
  · rw [signedPart, List.length_append, Octets.length_splice]
    · exact Nat.le_trans hcarries.le_length (Nat.le_add_right _ _)
    · exact hcarries.le_length
  · rw [signedPart, hzero, mac_congr hmessage hcommand hredir, hsignature]
    exact (Nat.mod_eq_of_lt (hmac _ _)).symm

structure SignedAlike (env : Env) (signer : MessageSigner) (builder : WireBuilder) (member : ℕ)
    (header : Header) (slice : Octets) : Prop where
  segments : ∃ segments, builder.signingSegments member = .ok segments ∧
    signedBytes header segments = zeroSignature slice ∧
    signer.signatureForSegments env header segments =
      .ok (signer.mac env header (zeroSignature slice))
  owned : ∃ segments, builder.ownedSigningSegments member = .ok segments ∧
    segments.flatten = zeroSignature slice
  verification : ∃ segments, ownedVerificationSegments slice = .ok segments ∧
    segments.flatten = zeroSignature slice
  accepted : ∃ parsed, Header.read slice = some parsed ∧
    signer.verifySignature env parsed slice = .ok () ∧ signer.check env parsed slice = .ok ()

theorem signedAlike {member : ℕ} (hmac : ∀ header data, signer.mac env header data < 2 ^ 128)
    (hframed : Framed builder.metadata builder.memberRanges parts)
    (hstate : builder.state = .offsetsFinalized) (hpart : parts[member]? = some part)
    (hcarries : Carries header part) :
    SignedAlike env signer builder member header
      (signedPart env signer builder.signedPayloads header part ++
        builder.signedPayloads.flatten) := by
  have hzero : zeroSignature
      (signedPart env signer builder.signedPayloads header part ++ builder.signedPayloads.flatten) =
      zeroSignature part ++ builder.signedPayloads.flatten :=
    zeroSignature_splice (Octets.length_encode 16 _) hcarries.le_length _
  obtain ⟨parsed, hread, hcheck⟩ :=
    signedPart_checks hcarries hmac builder.signedPayloads
  obtain ⟨hlong, hvalid⟩ := check_eq_ok.mp hcheck
  refine ⟨?_, ?_, ?_, parsed, hread, (verifySignature_eq_ok hlong).mpr hvalid, hcheck⟩
  · refine ⟨_, signingSegments_eq hframed hstate hpart, ?_, ?_⟩
    · rw [hcarries.signedBytes_eq, hzero]
    · rw [hcarries.signatureForSegments_eq, hcarries.signedBytes_eq, hzero]
  · refine ⟨_, ownedSigningSegments_eq hframed hstate hpart hcarries.le_length, ?_⟩
    rw [List.flatten_cons, hzero]
  · refine ⟨_, if_neg (Nat.not_lt.mpr hlong), ?_⟩
    rw [List.flatten_cons, List.flatten_singleton, zeroSignature_split]

theorem signedPayloads_eq
    (hframed : Framed builder.metadata builder.memberRanges parts) (hone : parts.length = 1) :
    builder.signedPayloads = builder.payloads := by
  have hcount : builder.memberCount = parts.length := hframed.count
  rw [signedPayloads, hcount, hone, if_pos rfl]

theorem slices_linked {metadata : Octets} {ranges : List ByteRange}
    {signed : List Octets} (hframed : Framed builder.metadata builder.memberRanges parts)
    (hsigned : Framed metadata ranges signed) (hlength : signed.length = parts.length)
    (halone : parts.length = 1 ∨ builder.payloads.flatten = []) :
    (signed.map (· ++ builder.signedPayloads.flatten)).flatten =
        signed.flatten ++ builder.payloads.flatten ∧
      Chain.Linked nextCommandOf 8 (signed.map (· ++ builder.signedPayloads.flatten)) := by
  rcases halone with hone | hnone
  · obtain ⟨part, rfl⟩ := List.length_eq_one_iff.mp (hlength.trans hone)
    have hlink : nextCommandOf (part ++ builder.payloads.flatten) = nextCommandOf part :=
      Octets.field_append_left (hsigned.reaches part (List.mem_singleton_self part))
    have hzero : nextCommandOf part = 0 := by
      cases hsigned.linked with
      | last h => exact h
      | next _ _ _ hrest => exact absurd rfl hrest.ne_nil
    rw [signedPayloads_eq hframed hone, List.map_singleton, List.flatten_singleton,
      List.flatten_singleton]
    exact ⟨rfl, .last (hlink.trans hzero)⟩
  · have hempty : builder.signedPayloads.flatten = [] := by
      rw [signedPayloads]
      split
      · exact hnone
      · rfl
    simp only [hempty, List.append_nil, List.map_id', hnone]
    exact ⟨trivial, hsigned.linked⟩

variable {batched : Bool}

theorem signMessage_members {message : WireMessage}
    (hbatched : batched = true → signer.isBatchableCmac = true)
    (hwhole : ∀ r ∈ requests, r.header.Whole)
    (h : signMessage env signer batched requests payloads segmentLimit = .ok message) :
    ∃ builder metadata ranges signed,
      finalized requests payloads segmentLimit = .ok (builder, numbered requests) ∧
      message.segments = metadata :: builder.payloads ∧ Framed metadata ranges signed ∧
      signed.length = requests.length ∧
      ∀ (i : ℕ) (request : PlainRequest), (numbered requests)[i]? = some request →
        ∃ part, (members requests)[i]? = some part ∧ Carries request.header part ∧
          signed[i]? = some (signedPart env signer builder.signedPayloads request.header part) := by
  obtain ⟨⟨builder, written⟩, hfinal, h⟩ := Except.bind_eq_ok.mp h
  rw [liftMsg_eq_ok] at hfinal
  obtain ⟨hencodable, rfl, hframed, -, hstate⟩ := finalized_eq_ok hfinal
  obtain ⟨last, hsign, h⟩ := Except.bind_eq_ok.mp h
  obtain ⟨done, hdone, h⟩ := Except.bind_eq_ok.mp h
  rw [liftMsg_eq_ok] at hdone h
  obtain ⟨-, -, rfl⟩ := finishSigned_eq_ok.mp hdone
  have hcarries := fun (i : ℕ) (request : PlainRequest) =>
    @carries_members requests hwhole hencodable.writable i request
  obtain ⟨signed, hsigned, hrecord, hlength, -, hparts⟩ := signMembers_parts hbatched hframed hstate
    (fun i header hi => by
      rw [List.getElem?_map, Option.map_eq_some_iff] at hi
      obtain ⟨request, hrequest, rfl⟩ := hi
      rw [Nat.zero_add]
      exact hcarries i request hrequest) hsign
  have hsegments := segments_of_seal h
  have hpayloads : last.payloads = builder.payloads := by rw [hrecord]
  rw [hpayloads] at hsegments
  refine ⟨builder, _, _, signed, hfinal, hsegments, hsigned,
    hlength.trans length_members, fun i request hrequest => ?_⟩
  obtain ⟨part, hpart, hcarry⟩ := hcarries i request hrequest
  obtain ⟨_, hsame, hresult⟩ := hparts i request.header (by
    rw [List.getElem?_map, hrequest]
    rfl)
  rw [Nat.zero_add] at hsame hresult
  rw [hpart, Option.some.injEq] at hsame
  subst hsame
  exact ⟨part, hpart, hcarry, hresult⟩

/-- **Signatures.** Every member of a signed message is the same bytes to all ways of signing and
checking it, and passes the check of the receiver. -/
theorem signed_members_verify {requests : List PlainRequest}
    {payloads : List Octets} {segmentLimit : ℕ} {message : WireMessage}
    (hmac : ∀ header data, signer.mac env header data < 2 ^ 128)
    (hbatched : batched = true → signer.isBatchableCmac = true)
    (hwhole : ∀ r ∈ requests, r.header.Whole) (halone : requests.length = 1 ∨ payloads = [])
    (h : signMessage env signer batched requests payloads segmentLimit = .ok message) :
    ∃ builder written slices, finalized requests payloads segmentLimit = .ok (builder, written) ∧
      message.segments.flatten = slices.flatten ∧ Chain.Linked nextCommandOf 8 slices ∧
      slices.length = requests.length ∧ written.length = requests.length ∧
      ∀ i request slice, written[i]? = some request → slices[i]? = some slice →
        SignedAlike env signer builder i request.header slice := by
  obtain ⟨builder, metadata, ranges, signed, hfinal, hsegments, hsigned, hlength, hparts⟩ :=
    signMessage_members hbatched hwhole h
  obtain ⟨-, -, hframed, hpayloads, hstate⟩ := finalized_eq_ok hfinal
  have hslices := slices_linked hframed hsigned (hlength.trans length_members.symm) (by
    rw [hpayloads, length_members]
    exact halone.imp_right fun hnone => by rw [hnone]; rfl)
  refine ⟨builder, _, signed.map (· ++ builder.signedPayloads.flatten), hfinal, ?_, hslices.2, ?_,
    length_numbered, ?_⟩
  · rw [hsegments, List.flatten_cons, hslices.1, hsigned.metadata_eq]
  · rw [List.length_map, hlength]
  · intro i request slice hrequest hslice
    obtain ⟨part, hpart, hcarry, hresult⟩ := hparts i request hrequest
    rw [List.getElem?_map, hresult] at hslice
    cases hslice
    exact signedAlike hmac hframed hstate hpart hcarry

def checksum (data : Octets) : ℕ := (data.map UInt8.toNat).sum % 256

def sumEnv : Env :=
  { sampleEnv with
    hmacSha256 _ data := checksum data
    aesCmac _ data := checksum data
    aesGmac _ _ data := checksum data
    cmacBatch _ segments := checksum segments.flatten
    cmacBatch_eq _ _ := rfl }

theorem sumEnv_mac (signer : MessageSigner) (header : Header) (data : Octets) :
    signer.mac sumEnv header data < 2 ^ 128 := by
  have hlow : checksum data < 2 ^ 128 := Nat.lt_trans (Nat.mod_lt _ (by decide)) (by decide)
  unfold mac
  split <;> exact hlow

def sumSigner : MessageSigner := ⟨.aesCmac, sampleKey⟩

def echo : PlainRequest := WirePipeline.echoOf 9

theorem exists_ok {ε α : Type} {x : Except ε α} {P : α → Prop} [DecidablePred P]
    (h : (x.toOption.any fun a => decide (P a)) = true) : ∃ a, x = .ok a ∧ P a := by
  cases x with
  | error error => cases h
  | ok a => exact ⟨a, rfl, of_decide_eq_true h⟩

theorem signed_echoes_verify :
    (∃ message, signMessage sumEnv sumSigner false [echo, echo] [] 1 = .ok message ∧
      ∃ builder written slices, finalized [echo, echo] [] 1 = .ok (builder, written) ∧
        message.segments.flatten = slices.flatten ∧ Chain.Linked nextCommandOf 8 slices ∧
        slices.length = 2 ∧ written.length = 2 ∧
        ∀ i request slice, written[i]? = some request → slices[i]? = some slice →
          SignedAlike sumEnv sumSigner builder i request.header slice) ∧
    ∃ message, signMessage sumEnv sumSigner true [echo] [[7, 8]] 2 = .ok message ∧
      ∃ builder written slices, finalized [echo] [[7, 8]] 2 = .ok (builder, written) ∧
        message.segments.flatten = slices.flatten ∧ Chain.Linked nextCommandOf 8 slices ∧
        slices.length = 1 ∧ written.length = 1 ∧
        ∀ i request slice, written[i]? = some request → slices[i]? = some slice →
          SignedAlike sumEnv sumSigner builder i request.header slice := by
  have hwhole : ∀ r ∈ [echo, echo], r.header.Whole := by decide
  obtain ⟨message, hmessage, -⟩ := exists_ok (P := fun _ => True) (x :=
    signMessage sumEnv sumSigner false [echo, echo] [] 1) (by decide +kernel)
  obtain ⟨alone, halone, -⟩ := exists_ok (P := fun _ => True) (x :=
    signMessage sumEnv sumSigner true [echo] [[7, 8]] 2) (by decide +kernel)
  exact ⟨⟨message, hmessage, signed_members_verify (sumEnv_mac _) (by decide) hwhole (.inr rfl)
      hmessage⟩,
    alone, halone, signed_members_verify (sumEnv_mac _) (by decide)
      (fun r hr => hwhole r (List.mem_cons_of_mem _ hr)) (.inl rfl) halone⟩

/-- An echo that is marked as asynchronous, without its id. -/
def idlessEcho : PlainRequest :=
  { echo with
    header := { echo.header with
      flags := { HeaderFlags.new with asyncCommand := true }, treeId := none, signature := 1 }
    body := List.replicate 16 4 }

/-- A payload stands behind the last member, which was signed without it. Without its asynchronous
id a header ends early, and half of the signature it had is left before the new one. -/
theorem payload_behind_compound :
    (∃ message, signMessage sumEnv sumSigner false [echo, echo] [[7, 8]] 2 = .ok message ∧
      nextCommandOf message.segments.flatten = 72 ∧
      ∃ parsed ∈ Header.read (message.segments.flatten.drop 72), parsed.nextCommand = 0 ∧
        sumSigner.check sumEnv parsed (message.segments.flatten.drop 72) =
          .error .signatureVerificationFailed) ∧
    ∃ message, signMessage sumEnv sumSigner false [idlessEcho] [] 1 = .ok message ∧
      ∃ parsed ∈ Header.read message.segments.flatten,
        sumSigner.check sumEnv parsed message.segments.flatten =
          .error .signatureVerificationFailed :=
  ⟨exists_ok (by decide +kernel), exists_ok (by decide +kernel)⟩

/-! ## The messages of the pipeline -/

/-- **The code's compound is the signed message of this model**, protected for the wire. -/
theorem transformOutgoingCompound_signed {w : WirePipeline} {first : CommandRequest}
    {rest : List CommandRequest} {random : Octets} {frame : List Octets}
    (hplain : first.security ≠ some .encrypt) (hsigned : first.header.flags.signed = true)
    (h : w.transformOutgoingCompound env (first :: rest) random = .ok frame) :
    ∃ signer message, w.compoundSigner first.header.sessionId = .ok signer ∧
      signMessage env signer false ((first :: rest).map CommandRequest.message) [] 1 = .ok message ∧
      w.protectWire env message.segments false first.header.sessionId random = .ok frame := by
  obtain ⟨-, -, h⟩ := Except.bind_eq_ok.mp h
  obtain ⟨⟨builder, written⟩, hfinal, h⟩ := Except.bind_eq_ok.mp h
  simp only [decide_eq_false hplain, hsigned] at h
  split at h
  · cases h
  split at h
  · cases h
  obtain ⟨signer, hsigner, h⟩ := Except.bind_eq_ok.mp h
  obtain ⟨last, hlast, h⟩ := Except.bind_eq_ok.mp h
  obtain ⟨done, hdone, h⟩ := Except.bind_eq_ok.mp h
  obtain ⟨message, hseal, h⟩ := Except.bind_eq_ok.mp h
  refine ⟨signer, message, hsigner, ?_, h⟩
  refine Except.bind_eq_ok.mpr ⟨_, hfinal, Except.bind_eq_ok.mpr ⟨_, hlast, ?_⟩⟩
  exact Except.bind_eq_ok.mpr ⟨_, hdone, hseal⟩

/-- The code's single request is signed as this model signs a message of one member. -/
theorem signedWith_eq {r : CommandRequest}
    {message : WireMessage} (hbatched : batched = true → signer.isBatchableCmac = true)
    (hwhole : r.header.Whole) (halone : r.header.nextCommand = 0)
    (h : signMessage env signer batched [r.message] r.additionalData.toList segmentLimit =
      .ok message) :
    message.segments.flatten = (r.signedWith env signer).flatten := by
  obtain ⟨builder, metadata, ranges, signed, hfinal, hsegments, hsigned, hlength, hparts⟩ :=
    signMessage_members hbatched (List.forall_mem_singleton.mpr hwhole) h
  obtain ⟨-, -, hframed, hpayloads, -⟩ := finalized_eq_ok hfinal
  have hsame : r.message.withNextCommand 0 = r.message := by
    rw [PlainRequest.withNextCommand, CommandRequest.message, ← halone]
  have hplain : r.message.member true = r.plain := by
    rw [PlainRequest.member, hsame]
    rfl
  have hdrop : r.plain.drop Header.structSize = r.body := by
    rw [CommandRequest.plain, ← Header.length_whole hwhole, List.drop_left]
  obtain ⟨part, hpart, hcarry, hresult⟩ := hparts 0 _ rfl
  obtain ⟨only, rfl⟩ := List.length_eq_one_iff.mp hlength
  cases hpart
  cases hresult
  rw [List.isEmpty_nil, if_pos rfl, hsame, hplain] at hcarry hsigned
  have hzero := hcarry.zeroSignature_eq
  rw [hdrop] at hzero
  rw [hsegments, hsigned.metadata_eq, List.flatten_singleton, List.flatten_cons,
    CommandRequest.signedWith, signedPart, signedPayloads_eq hframed rfl, hpayloads,
    hzero, List.append_assoc]
  rfl

end Wire
