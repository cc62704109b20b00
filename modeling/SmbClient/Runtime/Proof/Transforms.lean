import SmbClient.Runtime.Proof.Signing
import SmbClient.Runtime.Transforms
import SmbClient.Transport.Proof.Frame

/-!
# Frames are undone

A sealed message is taken for no transform; an encrypted frame decrypts to the buffer behind its
header; a compressed buffer is decompressed unless it announces more than the receiver takes.
-/

theorem Except.mapError_eq_ok {ε ε' α : Type} {f : ε → ε'} {x : Except ε α} {a : α} :
    x.mapError f = .ok a ↔ x = .ok a := by
  cases x <;> simp [Except.mapError]

namespace Msg

/-! ## Sealed messages -/

namespace WireBuilder

variable {builder next : WireBuilder}

theorem patchSignatures_take {member : ℕ} {signatures : List ℕ}
    (h : builder.patchSignatures member signatures = .ok next) :
    next.metadata.take 4 = builder.metadata.take 4 := by
  induction signatures generalizing builder member with
  | nil =>
    cases h
    rfl
  | cons signature rest ih =>
    obtain ⟨patched, hpatched, hrest⟩ := Except.bind_eq_ok.mp h
    obtain ⟨-, -, range, -, hroom, rfl⟩ := patchSignature_eq_ok hpatched
    have hlong : 64 ≤ builder.metadata.length := Nat.le_trans (Nat.le_add_left _ _) hroom
    exact (ih hrest).trans (Octets.take_splice_before (by omega) (by omega))

theorem protect_take {signatures : Option (List ℕ)} (h : builder.protect signatures = .ok next) :
    next.metadata.take 4 = builder.metadata.take 4 := by
  cases signatures with
  | none =>
    obtain ⟨-, -, rfl⟩ := finishUnsigned_eq_ok.mp h
    rfl
  | some signatures =>
    obtain ⟨patched, hpatched, hfinish⟩ := Except.bind_eq_ok.mp h
    obtain ⟨-, -, rfl⟩ := finishSigned_eq_ok.mp hfinish
    have hpatches := patchSignatures_take hpatched
    exact hpatches

theorem take_members {requests : List PlainRequest} (h : requests ≠ []) :
    (members requests).flatten.take 4 = Header.magic := by
  cases requests with
  | nil => exact absurd rfl h
  | cons r rest =>
    have hwrite : ∀ h : Header, ∃ tail, h.write = Header.magic ++ tail := by
      intro h
      exact ⟨_, rfl⟩
    have hmember : ∃ tail, r.member rest.isEmpty = Header.magic ++ tail := by
      unfold PlainRequest.member
      split <;> obtain ⟨tail, htail⟩ := hwrite _ <;> rw [PlainRequest.bytes, htail]
      · exact ⟨_, List.append_assoc _ _ _⟩
      · exact ⟨_, by rw [List.append_assoc, List.append_assoc]⟩
    obtain ⟨tail, htail⟩ := hmember
    rw [members, List.flatten_cons, htail]
    rfl

end WireBuilder

end Msg

namespace Wire

open Msg Session Compression Transport

def Sealed (message : WireMessage) : Prop :=
  ∃ requests payloads segmentLimit signatures builder written done,
    finalized requests payloads segmentLimit = .ok (builder, written) ∧
      builder.protect signatures = .ok done ∧ done.sealMessage = .ok message

theorem Sealed.starts {message : WireMessage} (h : Sealed message) :
    message.segments.flatten.take 4 = Header.magic := by
  obtain ⟨requests, payloads, limit, signatures, builder, written, done, hfinal, hprotect, hseal⟩ :=
    h
  obtain ⟨hencodable, -, hframed, -, -⟩ := finalized_eq_ok hfinal
  have hfirst := WireBuilder.protect_take hprotect
  rw [hframed.metadata_eq, WireBuilder.take_members hencodable.nonempty] at hfirst
  have hlong : 4 ≤ done.metadata.length := by
    have hlen := congrArg List.length hfirst
    exact Nat.le_of_lt_succ (by simp [Header.magic] at hlen; omega)
  rw [WireBuilder.segments_of_seal hseal, List.flatten_cons, List.take_append_of_le_length hlong,
    hfirst]

end Wire

namespace Msg.EncryptedHeader

/-! ## Encryption headers -/

theorem length_write {h : EncryptedHeader} (hnonce : h.nonce.length = 16) :
    h.write.length = structureSize := by
  simp [write, magic, hnonce, structureSize]

theorem aeadBytes_signature (h : EncryptedHeader) (signature : ℕ) :
    { h with signature }.aeadBytes = h.aeadBytes := by
  have hdrop : ∀ h : EncryptedHeader, h.aeadBytes = h.nonce ++ Octets.encode 4
      h.originalMessageSize ++ Octets.encode 2 0 ++ Octets.encode 2 1 ++ Octets.encode 8
      h.sessionId := by
    intro h
    have hfront : (magic ++ Octets.encode 16 h.signature).length = 20 := by simp [magic]
    simp only [aeadBytes, write, List.append_assoc]
    rw [← List.append_assoc, ← hfront, List.drop_left]
  rw [hdrop, hdrop]

structure Sized (h : EncryptedHeader) : Prop where
  signature : h.signature < 2 ^ 128
  nonce : h.nonce.length = 16
  originalMessageSize : h.originalMessageSize < 2 ^ 32
  sessionId : h.sessionId < 2 ^ 64

theorem read_write {h : EncryptedHeader} (hsized : h.Sized) (rest : Octets) :
    read (h.write ++ rest) = some h := by
  have hnonce := hsized.nonce
  have hraw : h.write ++ rest = magic ++ (Octets.encode 16 h.signature ++ (h.nonce ++
      (Octets.encode 4 h.originalMessageSize ++ (Octets.encode 2 0 ++ (Octets.encode 2 1 ++
        (Octets.encode 8 h.sessionId ++ rest)))))) := by
    simp only [write, List.append_assoc]
  generalize h.write ++ rest = raw at hraw
  have hlong : ¬ raw.length < structureSize := by
    rw [hraw]
    simp [magic, structureSize]
    omega
  have hmagic : raw.take 4 = magic := by rw [hraw]; rfl
  have hsignature : raw.field 4 16 = h.signature :=
    (Octets.field_of_eq hraw rfl).trans (Nat.mod_eq_of_lt hsized.signature)
  rw [← List.append_assoc] at hraw
  have hread : (raw.drop 20).take 16 = h.nonce := by
    rw [hraw, List.drop_left' (by simp [magic]), List.take_left' hnonce]
  rw [← List.append_assoc] at hraw
  have hsize : raw.field 36 4 = h.originalMessageSize :=
    (Octets.field_of_eq hraw (by simp [magic, hnonce])).trans
      (Nat.mod_eq_of_lt hsized.originalMessageSize)
  rw [← List.append_assoc, ← List.append_assoc] at hraw
  have hflags : raw.field 42 2 = 1 := Octets.field_of_eq hraw (by simp [magic, hnonce])
  rw [← List.append_assoc] at hraw
  have hsession : raw.field 44 8 = h.sessionId :=
    (Octets.field_of_eq hraw (by simp [magic, hnonce])).trans (Nat.mod_eq_of_lt hsized.sessionId)
  rw [read, if_neg hlong, if_neg (not_not.mpr hmagic), if_neg (not_not.mpr hflags),
    hsignature, hread, hsize, hsession]

end Msg.EncryptedHeader

namespace Msg

variable {raw : Octets} {env : Env}

/-! ## Which transform a frame is -/

variable {message : EncryptedMessage}

theorem EncryptedMessage.read_magic
    (h : EncryptedMessage.read raw = some message) : raw.take 4 = EncryptedHeader.magic := by
  obtain ⟨header, hheader, -⟩ := Option.map_eq_some_iff.mp h
  unfold EncryptedHeader.read at hheader
  split at hheader
  · cases hheader
  split at hheader
  · cases hheader
  rename_i hmagic
  exact not_not.mp hmagic

theorem CompressedMessage.read_magic {checks : Bool} {message : CompressedMessage}
    (h : CompressedMessage.read checks raw = .ok message) : raw.take 4 = compressedMagic := by
  have hrequire : ∀ {x : Unit}, Reading.require (decide (raw.take 4 = compressedMagic)) = .ok x →
      raw.take 4 = compressedMagic := by
    intro x hx
    exact of_decide_eq_true (Reading.require_eq_ok.mp hx)
  unfold CompressedMessage.read at h
  split at h
  · rename_i unchained hunchained
    obtain ⟨x, hx, -⟩ := Except.bind_eq_ok.mp hunchained
    exact hrequire hx
  · cases hchained : CompressedChainedMessage.read checks raw with
    | error fault =>
      rw [hchained] at h
      cases h
    | ok chained =>
      obtain ⟨x, hx, -⟩ := Except.bind_eq_ok.mp hchained
      exact hrequire hx

theorem PlainResponse.read_magic {message : PlainResponse}
    (h : PlainResponse.read env raw = some message) : raw.take 4 = Header.magic :=
  Header.read_magic (PlainResponse.read_eq_some h).1

theorem Response.read_encrypted (h : EncryptedMessage.read raw = some message) :
    Response.read env raw = some (.encrypted message) := by
  unfold Response.read
  split
  · rename_i plain hplain
    have hmagic := PlainResponse.read_magic hplain
    rw [EncryptedMessage.read_magic h] at hmagic
    exact absurd hmagic (by decide)
  · rw [h]

theorem Response.read_compressed (h : raw.take 4 = compressedMagic) :
    Response.read env raw = some (.compressed raw) := by
  unfold Response.read
  split
  · rename_i plain hplain
    have hmagic := PlainResponse.read_magic hplain
    rw [h] at hmagic
    exact absurd hmagic (by decide)
  · split
    · rename_i message hmessage
      have hmagic := EncryptedMessage.read_magic hmessage
      rw [h] at hmagic
      exact absurd hmagic (by decide)
    · exact if_pos h

end Msg

/-- Sealing in place with a tag of 16 bytes, which opening undoes. -/
structure Env.Inverts (env : Env) : Prop where
  length : ∀ {cipher key payload associated nonce sealed tag},
    env.encrypt cipher key payload associated nonce = some (sealed, tag) →
      sealed.length = payload.length
  tag : ∀ {cipher key payload associated nonce sealed tag},
    env.encrypt cipher key payload associated nonce = some (sealed, tag) → tag < 2 ^ 128
  opens : ∀ {cipher key payload associated nonce sealed tag},
    env.encrypt cipher key payload associated nonce = some (sealed, tag) →
      env.decrypt cipher key sealed associated nonce tag = some payload

namespace Session.EncryptingAlgo

open Msg

variable {env : Env}

theorem nonceSize_le (cipher : EncryptionCipher) : nonceSize cipher ≤ 16 := by
  cases cipher <;> decide

theorem decryptBytes_encryptMessage (henv : env.Inverts) {algo : EncryptingAlgo}
    {body payload random : Octets} {sessionId : ℕ} {header : EncryptedHeader}
    (hsession : sessionId < 2 ^ 64) (hrandom : nonceSize algo.cipher ≤ random.length)
    (h : algo.encryptMessage env body sessionId random = .ok (header, payload)) :
    header.Sized ∧ payload.length = body.length ∧
      algo.decryptBytes env ⟨header, payload⟩ = .ok body := by
  unfold encryptMessage at h
  dsimp only at h
  split at h
  · cases h
  rename_i hsize
  split at h
  · cases h
  rename_i sealed tag hencrypt
  cases h
  have hcipher := nonceSize_le algo.cipher
  have htaken : (random.take (nonceSize algo.cipher)).length = nonceSize algo.cipher := by
    rw [List.length_take, Nat.min_eq_left hrandom]
  generalize hnonce : random.take (nonceSize algo.cipher) ++
    List.replicate (16 - nonceSize algo.cipher) 0 = nonce at hencrypt ⊢
  have hlength : nonce.length = 16 := by
    rw [← hnonce, List.length_append, List.length_replicate]
    omega
  have hunused : ¬ (nonce.drop (nonceSize algo.cipher)).any (· ≠ 0) = true := by
    rw [← hnonce, List.drop_left' htaken]
    simp
  refine ⟨⟨henv.tag hencrypt, hlength, Nat.lt_of_not_le hsize, hsession⟩, henv.length hencrypt, ?_⟩
  rw [← EncryptedHeader.aeadBytes_signature _ tag] at hencrypt
  unfold decryptBytes
  rw [if_neg (not_not.mpr (henv.length hencrypt)), if_neg hunused, henv.opens hencrypt]

end Session.EncryptingAlgo

namespace Wire

open Msg Session Compression Transport

variable {env : Env} {lz4 : Lz4}
variable {body out random plain : Octets} {sessionId : ℕ} {caps : Capabilities} {wire : WireMessage}
  {compressor : Option Capabilities} {encryptor : Option EncryptingAlgo} {frame : SendFrame}
  {checks : Bool}

/-! ## Protected frames -/

theorem encryptArena_eq_ok (henv : env.Inverts) {algo : EncryptingAlgo}
    (hsession : sessionId < 2 ^ 64) (hrandom : nonceSize algo.cipher ≤ random.length)
    (h : encryptArena env algo (List.replicate EncryptedHeader.structureSize 0 ++ body) sessionId
      random = .ok out) :
    ∃ header payload, algo.encryptMessage env body sessionId random = .ok (header, payload) ∧
      out = header.write ++ payload ∧ EncryptedMessage.read out = some ⟨header, payload⟩ ∧
      algo.decryptBytes env ⟨header, payload⟩ = .ok body := by
  obtain ⟨⟨header, payload⟩, hencrypt, h⟩ := Except.bind_eq_ok.mp h
  rw [Except.mapError_eq_ok, List.drop_left' List.length_replicate] at hencrypt
  obtain ⟨hsized, hlength, hopens⟩ :=
    EncryptingAlgo.decryptBytes_encryptMessage henv hsession hrandom hencrypt
  have hheader := EncryptedHeader.length_write hsized.nonce
  have hout : out = header.write ++ payload := by
    have hbody : body.splice 0 payload = payload := by
      rw [Octets.splice, Nat.zero_add, hlength, List.drop_length, List.take_zero, List.nil_append,
        List.append_nil]
    have hsplice := Octets.splice_append_right (List.replicate EncryptedHeader.structureSize 0) body
      0 payload
    rw [List.length_replicate, Nat.add_zero, hbody] at hsplice
    have hfront := @Octets.splice_middle [] payload
      (List.replicate EncryptedHeader.structureSize 0) header.write
      (by rw [hheader, List.length_replicate])
    refine (Except.ok.inj h).symm.trans ?_
    rw [hsplice]
    exact hfront
  refine ⟨header, payload, hencrypt, hout, ?_, hopens⟩
  rw [hout, EncryptedMessage.read, EncryptedHeader.read_write hsized, Option.map_some,
    List.drop_left' hheader]

def Packed (lz4 : Lz4) (plain : Octets) : Option Capabilities → Octets → Prop
  | none, body => body = plain
  | some caps, body => caps.compressTransform lz4 plain 0 = .ok body

theorem Packed.compressed (h : Packed lz4 plain (some caps) body) : plain.length < 2 ^ 32 ∧ ∃ data,
      lz4.compressInto plain (lz4.maximumOutputSize plain.length) = some data ∧
      body = unchainedHeader plain.length ++ data := by
  obtain ⟨-, hsize, -, data, hdata, hbody⟩ := compressTransform_eq_ok.mp h
  exact ⟨hsize, data, hdata, hbody⟩

theorem intoContiguous_eq_ok {reserved : ℕ} (h : wire.intoContiguous reserved = .ok out) :
    out = List.replicate reserved 0 ++ wire.segments.flatten := by
  unfold WireMessage.intoContiguous at h
  split at h
  · cases h
  · exact (Except.ok.inj h).symm

theorem arena_eq_ok {reserved : ℕ} (h : arena lz4 wire compressor reserved = .ok out) :
    ∃ body, out = List.replicate reserved 0 ++ body ∧
      Packed lz4 wire.segments.flatten compressor body := by
  cases compressor with
  | none =>
    rw [arena, Except.mapError_eq_ok] at h
    exact ⟨_, intoContiguous_eq_ok h, rfl⟩
  | some caps =>
    obtain ⟨plain, hplain, h⟩ := Except.bind_eq_ok.mp h
    rw [Except.mapError_eq_ok] at hplain h
    have hflat := intoContiguous_eq_ok hplain
    rw [List.replicate_zero, List.nil_append] at hflat
    rw [hflat] at h
    obtain ⟨hmem, hsize, hfits, data, hdata, hout⟩ := compressTransform_eq_ok.mp h
    exact ⟨_, hout, compressTransform_eq_ok.mpr ⟨hmem, hsize, by omega, data, hdata, rfl⟩⟩

theorem protectMessage_eq_ok
    (h : protectMessage env lz4 wire compressor encryptor sessionId random = .ok frame) :
    ∃ body, Packed lz4 wire.segments.flatten compressor body ∧
      (encryptor = none → frame.segments.flatten = body) ∧
      ∀ algo, encryptor = some algo →
        encryptArena env algo (List.replicate EncryptedHeader.structureSize 0 ++ body) sessionId
          random = .ok frame.segments.flatten := by
  unfold protectMessage at h
  split at h
  · rename_i hnone
    obtain ⟨hcompressor, hencryptor⟩ := hnone
    rw [Option.isNone_iff_eq_none] at hcompressor hencryptor
    subst hcompressor hencryptor
    rw [Except.mapError_eq_ok] at h
    exact ⟨_, rfl, fun _ => by rw [SendFrame.fromSegments_ok h], by simp⟩
  · obtain ⟨transformed, harena, h⟩ := Except.bind_eq_ok.mp h
    obtain ⟨body, hbody, hpacked⟩ := arena_eq_ok harena
    obtain ⟨out, hout, h⟩ := Except.bind_eq_ok.mp h
    obtain ⟨final, hfinal, h⟩ := Except.bind_eq_ok.mp h
    rw [Except.mapError_eq_ok] at hfinal h
    have hsame : final = out := by
      unfold transformFrame at hfinal
      split at hfinal
      · cases hfinal
      · exact (Except.ok.inj hfinal).symm
    have hflat : frame.segments.flatten = out := by
      rw [SendFrame.fromSegments_ok h, List.flatten_singleton, hsame]
    refine ⟨body, hpacked, ?_, ?_⟩
    · rintro rfl
      rw [hflat, ← Except.ok.inj hout, hbody]
      rfl
    · rintro algo rfl
      rw [hflat, ← hout, hbody]
      rfl

/-! ## Undone frames -/

variable (size : ℕ)

theorem take_unchainedHeader (data : Octets) :
    (unchainedHeader size ++ data).take 4 = compressedMagic := by
  rfl

theorem undoEncryption_packed
    {decryptor : Option EncryptingAlgo} (hplain : plain.take 4 = Header.magic)
    (h : Packed lz4 plain compressor body) : undoEncryption env decryptor body = .ok body := by
  have hmagic : body.take 4 ≠ EncryptedHeader.magic := by
    cases compressor with
    | none =>
      rw [show body = plain from h, hplain]
      decide
    | some caps =>
      obtain ⟨-, data, -, rfl⟩ := h.compressed
      rw [take_unchainedHeader]
      decide
  unfold undoEncryption
  split
  · rfl
  · rename_i message hread
    exact absurd (EncryptedMessage.read_magic hread) hmagic

theorem undoCompression_packed (hlz4 : lz4.Inverts) (checks : Bool)
    (hplain : plain.take 4 = Header.magic)
    (h : Packed lz4 plain compressor body) :
    undoCompression lz4 checks compressor body =
      if compressor.isSome ∧ defaultMaxFrameSize < plain.length then
        .error (.compression (.failed (.decompressedSizeLimitExceeded plain.length
          defaultMaxFrameSize)))
      else .ok plain := by
  cases compressor with
  | none =>
    obtain rfl : body = plain := h
    have hother : body.take 4 ≠ compressedMagic := by
      rw [hplain]
      decide
    unfold undoCompression
    split
    · rename_i hpanicked
      exact absurd (CompressedMessage.read_eq_panicked.mp hpanicked).2.2.1 hother
    · rfl
    · rename_i message hread
      exact absurd (CompressedMessage.read_magic hread) hother
  | some caps =>
    obtain ⟨hsize, data, hdata, rfl⟩ := h.compressed
    rw [undoCompression, read_unchainedHeader checks hsize]
    dsimp only
    rw [decompress_compressed hlz4 hsize hdata]
    by_cases hlarge : defaultMaxFrameSize < plain.length
    · rw [if_pos hlarge, if_pos ⟨rfl, hlarge⟩]
      rfl
    · rw [if_neg hlarge, if_neg (fun h => hlarge h.2)]
      rfl

/-- **What is protected is undone**, up to the size limit of the receiver. -/
theorem undo_protectMessage (henv : env.Inverts) (hlz4 : lz4.Inverts) (checks : Bool)
    (hplain : wire.segments.flatten.take 4 = Header.magic) (hsession : sessionId < 2 ^ 64)
    (hrandom : ∀ algo, encryptor = some algo → nonceSize algo.cipher ≤ random.length)
    (h : protectMessage env lz4 wire compressor encryptor sessionId random = .ok frame) :
    undo env lz4 checks ⟨encryptor, compressor⟩ frame.segments.flatten =
      if compressor.isSome ∧ defaultMaxFrameSize < wire.segments.flatten.length then
        .error (.compression (.failed (.decompressedSizeLimitExceeded wire.segments.flatten.length
          defaultMaxFrameSize)))
      else .ok wire.segments.flatten := by
  obtain ⟨body, hpacked, hunencrypted, hencrypted⟩ := protectMessage_eq_ok h
  have hbody : undoEncryption env encryptor frame.segments.flatten = .ok body := by
    cases encryptor with
    | none =>
      rw [hunencrypted rfl]
      exact undoEncryption_packed hplain hpacked
    | some algo =>
      obtain ⟨header, payload, -, -, hread, hopens⟩ :=
        encryptArena_eq_ok henv hsession (hrandom algo rfl) (hencrypted algo rfl)
      rw [undoEncryption, hread]
      dsimp only
      rw [hopens]
      rfl
  rw [undo, hbody]
  exact undoCompression_packed hlz4 checks hplain hpacked

/-- **Round trip.** The receiver gets the bytes of a sealed message back from the frame it was sent
in. Only a message that was compressed and is above the receiver's limit is refused. -/
theorem protected_frame_undone (henv : env.Inverts) (hlz4 : lz4.Inverts) (checks : Bool)
    {message : WireMessage} {compressor : Option Capabilities}
    {encryptor : Option EncryptingAlgo} {sessionId : ℕ} {random : Octets} {frame : SendFrame}
    (hsealed : Sealed message) (hsession : sessionId < 2 ^ 64)
    (hrandom : ∀ algo, encryptor = some algo → nonceSize algo.cipher ≤ random.length)
    (h : protectMessage env lz4 message compressor encryptor sessionId random = .ok frame) :
    undo env lz4 checks ⟨encryptor, compressor⟩ frame.segments.flatten =
      if compressor.isSome ∧ defaultMaxFrameSize < message.segments.flatten.length then
        .error (.compression
          (.failed (.decompressedSizeLimitExceeded message.segments.flatten.length
            defaultMaxFrameSize)))
      else .ok message.segments.flatten :=
  undo_protectMessage henv hlz4 checks hsealed.starts hsession hrandom h

theorem Sealed.of_build {requests : List PlainRequest} {segmentLimit : ℕ}
    {signatures : Option (List ℕ)} {message : WireMessage}
    (h : WireBuilder.build requests segmentLimit signatures = .ok message) : Sealed message := by
  obtain ⟨⟨builder, written⟩, hencode, h⟩ := Except.bind_eq_ok.mp h
  obtain ⟨final, hfinal, h⟩ := Except.bind_eq_ok.mp h
  obtain ⟨done, hprotect, h⟩ := Except.bind_eq_ok.mp h
  refine ⟨requests, [], segmentLimit, signatures, final, written, done, ?_, hprotect, h⟩
  exact Except.bind_eq_ok.mpr ⟨_, hencode, Except.bind_eq_ok.mpr ⟨builder, rfl,
    Except.bind_eq_ok.mpr ⟨final, hfinal, rfl⟩⟩⟩

theorem sampleEnv_inverts : sampleEnv.Inverts where
  length h := by
    cases h
    rfl
  tag h := by
    cases h
    decide
  opens h := by
    cases h
    rfl

def lz4Only : Capabilities := ⟨[.lz4], true⟩

theorem echo_frame_undone :
    ∃ message frame, Sealed message ∧
      protectMessage sampleEnv storing message (some lz4Only) (some ⟨.aes128Gcm, sampleKey⟩) 5
        (List.replicate 16 7) = .ok frame ∧
      undo sampleEnv storing true ⟨some ⟨.aes128Gcm, sampleKey⟩, some lz4Only⟩
        frame.segments.flatten = .ok message.segments.flatten := by
  obtain ⟨message, hmessage, hframe⟩ := exists_ok (x := WireBuilder.build [echo, echo] 1 none)
    (P := fun message => ((protectMessage sampleEnv storing message (some lz4Only)
      (some ⟨.aes128Gcm, sampleKey⟩) 5 (List.replicate 16 7)).toOption.any fun _ =>
        message.segments.flatten.length ≤ defaultMaxFrameSize) = true)
    (by decide +kernel)
  obtain ⟨frame, hframe, hlength⟩ := exists_ok
    (P := fun _ => message.segments.flatten.length ≤ defaultMaxFrameSize) (by simpa using hframe)
  have hsealed := Sealed.of_build hmessage
  refine ⟨message, frame, hsealed, hframe, ?_⟩
  have hundone := protected_frame_undone sampleEnv_inverts storing_inverts true hsealed (by decide)
    (fun algo halgo => Nat.le_trans (EncryptingAlgo.nonceSize_le _) (by decide)) hframe
  exact hundone.trans (if_neg fun h => Nat.not_lt.mpr hlength h.2)

theorem protectMessage_compressed (env : Env)
    (sessionId : ℕ) (random : Octets) (htotal : wire.totalLen < 2 ^ 64)
    (hout : caps.compressTransform lz4 wire.segments.flatten 0 = .ok out) (hpos : 0 < out.length)
    (hmax : out.length ≤ Machine.maxValue 32) :
    ∃ frame, protectMessage env lz4 wire (some caps) none sessionId random = .ok frame := by
  obtain ⟨frame, hframe⟩ := SendFrame.fromSegments_singleton out hpos hmax
  have hroom : Machine.checkedAdd 64 0 wire.totalLen = some (0 + wire.totalLen) :=
    Machine.checkedAdd_eq_some.mpr ⟨by omega, rfl⟩
  have hplain : wire.intoContiguous 0 = .ok wire.segments.flatten := by
    rw [WireMessage.intoContiguous, hroom]
    rfl
  have hnonempty : transformFrame out = .ok out := by
    refine if_neg ?_
    rw [List.isEmpty_iff]
    rintro rfl
    exact absurd hpos (by simp)
  refine ⟨frame, ?_⟩
  refine Except.bind_eq_ok.mpr ⟨out, Except.bind_eq_ok.mpr ⟨_, Except.mapError_eq_ok.mpr hplain,
    Except.mapError_eq_ok.mpr hout⟩, Except.bind_eq_ok.mpr ⟨out, rfl, Except.bind_eq_ok.mpr
      ⟨out, Except.mapError_eq_ok.mpr hnonempty, Except.mapError_eq_ok.mpr hframe⟩⟩⟩

def longEcho : PlainRequest := ⟨echo.header, List.replicate size 0⟩

theorem length_longEcho : (WireBuilder.members [longEcho size]).flatten.length = 64 + size := by
  have hwhole : ((longEcho size).withNextCommand 0).header.Whole := by
    unfold Header.Whole
    simp [longEcho, echo, WirePipeline.echoOf, PlainRequest.withNextCommand, HeaderFlags.new]
  have hbody : ((longEcho size).withNextCommand 0).body = List.replicate size 0 := rfl
  rw [WireBuilder.members, WireBuilder.members, List.flatten_singleton, PlainRequest.member,
    List.isEmpty_nil, if_pos rfl, PlainRequest.bytes, List.length_append,
    hbody, List.length_replicate]
  rfl

theorem encodable_longEcho (h : size < 2 ^ 32) : WireBuilder.Encodable [longEcho size] 1 where
  nonempty := by simp
  limit := by decide
  writable := by
    intro r hr
    rw [List.mem_singleton.mp hr]
    exact (by decide : echo.Writable)
  sized := by simp
  fits := by
    rw [length_longEcho]
    omega

theorem compressTransform_storing (bytes : Octets) (h : bytes.length < 2 ^ 32) :
    lz4Only.compressTransform storing bytes 0 = .ok (unchainedHeader bytes.length ++ bytes) := by
  have hstored : storing.compressInto bytes (storing.maximumOutputSize bytes.length) = some bytes :=
    if_pos (Nat.le_refl _)
  refine compressTransform_eq_ok.mpr ⟨by decide, h, ?_, _, hstored, rfl⟩
  change 0 + 16 + bytes.length < 2 ^ 64
  omega

/-- A message above the limit of the receiver is compressed and sent. -/
theorem large_frame_refused :
    ∃ message frame, Sealed message ∧
      protectMessage sampleEnv storing message (some lz4Only) none 5 [] = .ok frame ∧
      undo sampleEnv storing true ⟨none, some lz4Only⟩ frame.segments.flatten =
        .error (.compression (.failed (.decompressedSizeLimitExceeded
          message.segments.flatten.length defaultMaxFrameSize))) := by
  obtain ⟨size, hsize⟩ : ∃ size, size = 2 ^ 24 := ⟨_, rfl⟩
  have hsealed := Sealed.of_build (WireBuilder.build_unsigned (encodable_longEcho size (by omega)))
  have hlength : (WireBuilder.unsigned [longEcho size]).segments.flatten.length = 64 + size := by
    rw [← length_longEcho size]
    exact congrArg List.length (List.append_nil _)
  have htotal : (WireBuilder.unsigned [longEcho size]).totalLen < 2 ^ 64 := by
    change (WireBuilder.members [longEcho size]).flatten.length < 2 ^ 64
    rw [length_longEcho]
    omega
  generalize WireBuilder.unsigned [longEcho size] = message at hsealed hlength htotal
  have hout := compressTransform_storing message.segments.flatten (by omega)
  have houtLength : (unchainedHeader message.segments.flatten.length ++
      message.segments.flatten).length = 16 + (64 + size) := by
    rw [List.length_append, hlength]
    rfl
  have hmax : 16 + (64 + size) ≤ Machine.maxValue 32 := by
    rw [hsize]
    decide
  obtain ⟨frame, hframe⟩ :=
    protectMessage_compressed sampleEnv 5 [] htotal hout (by omega) (by omega)
  have hundo := undo_protectMessage sampleEnv_inverts storing_inverts true hsealed.starts
    (by decide) (by simp) hframe
  refine ⟨message, frame, hsealed, hframe, hundo.trans (if_pos ⟨rfl, ?_⟩)⟩
  rw [hlength, hsize]
  decide

/-! ## The steps of the pipeline -/

/-- The code decompresses what the model undoes. -/
theorem decompressFrame_of_undo {w : WirePipeline}
    {decompressor : Option Capabilities} {raw : Octets} {current : PlainResponse}
    (hcaps : ∀ found, decompressor = some found → found = caps ∧ w.compress = true)
    (hundo : undoCompression lz4 checks decompressor raw = .ok plain)
    (hread : Response.read env plain = some (.plain current)) :
    ∃ response, Response.read env raw = some response ∧
      (∀ encrypted, response ≠ .encrypted encrypted) ∧
      ∀ form, ∃ form', w.decompressFrame (env.compressing lz4 checks caps) response raw form =
        .ok (.plain current, plain, form') := by
  unfold undoCompression at hundo
  split at hundo
  · cases hundo
  · cases hundo
    exact ⟨_, hread, by simp, fun form => ⟨form, rfl⟩⟩
  · rename_i message hmessage
    have hmagic := CompressedMessage.read_magic hmessage
    cases decompressor with
    | none => cases hundo
    | some found =>
      obtain ⟨rfl, hcompress⟩ := hcaps found rfl
      rw [Except.mapError_eq_ok] at hundo
      have hdecompress : (env.compressing lz4 checks found).decompress raw = some plain := by
        simp only [Env.compressing, hmessage, hundo, Except.toOption, Option.bind_some]
      have hread' : Response.read (env.compressing lz4 checks found) plain =
          some (.plain current) :=
        hread
      refine ⟨_, Response.read_compressed hmagic, by simp,
        fun form => ⟨{ form with compressed := true }, ?_⟩⟩
      simp only [WirePipeline.decompressFrame, hcompress, hdecompress, hread', not_true_eq_false,
        if_false]

/-- **The code opens a frame to what the model undoes it to.** -/
theorem openFrame_of_undo {w : WirePipeline}
    {receiver : Receiver} {frame : Octets} {current : PlainResponse}
    (hcaps : ∀ found, receiver.decompressor = some found → found = caps ∧ w.compress = true)
    (hdecryptor : ∀ message, EncryptedMessage.read frame = some message →
      w.getDecryptor message.header.sessionId = .ok receiver.decryptor)
    (hundo : undo env lz4 checks receiver frame = .ok plain)
    (hread : Response.read env plain = some (.plain current)) :
    ∃ form, w.openFrame (env.compressing lz4 checks caps) frame = .ok (current, plain, form) := by
  obtain ⟨raw, hraw, hundo⟩ := Except.bind_eq_ok.mp hundo
  obtain ⟨response, hresponse, hplain, hframe⟩ := decompressFrame_of_undo hcaps hundo hread
  have hsecond : ∀ {message : Response} {form : MessageForm},
      Response.read (env.compressing lz4 checks caps) frame = some message →
      w.decryptFrame (env.compressing lz4 checks caps) message frame = .ok (response, raw, form) →
      ∃ form', w.openFrame (env.compressing lz4 checks caps) frame =
      .ok (current, plain, form') := by
    intro message form hmessage hdecrypt
    obtain ⟨form', hform⟩ := hframe form
    refine ⟨form', ?_⟩
    rw [WirePipeline.openFrame, hmessage]
    refine Except.bind_eq_ok.mpr ⟨_, hdecrypt, Except.bind_eq_ok.mpr ⟨_, hform, rfl⟩⟩
  unfold undoEncryption at hraw
  split at hraw
  · cases hraw
    refine @hsecond _ .default hresponse ?_
    cases response with
    | encrypted encrypted => exact absurd rfl (hplain encrypted)
    | plain message => rfl
    | compressed message => rfl
  · rename_i message hmessage
    split at hraw
    · cases hraw
    rename_i algo halgo
    rw [Except.mapError_eq_ok] at hraw
    refine @hsecond _ { MessageForm.default with encrypted := true }
      (Response.read_encrypted hmessage) ?_
    have hopens : algo.decryptMessage (env.compressing lz4 checks caps) message =
        .ok (response, raw) := by
      refine Except.bind_eq_ok.mpr ⟨raw, hraw, ?_⟩
      rw [show Response.read (env.compressing lz4 checks caps) raw = _ from hresponse]
    refine Except.bind_eq_ok.mpr ⟨_, hdecryptor message hmessage, ?_⟩
    rw [halgo]
    exact Except.bind_eq_ok.mpr ⟨_, hopens, rfl⟩

/-- **The code's protected bytes are those of the model.** -/
theorem protectWireWith_of_protectMessage (henv : env.Inverts)
    (hcaps : ∀ found, compressor = some found → found = caps)
    (hsession : sessionId < 2 ^ 64)
    (hrandom : ∀ algo, encryptor = some algo → nonceSize algo.cipher ≤ random.length)
    (h : protectMessage env lz4 wire compressor encryptor sessionId random = .ok frame) :
    ∃ segments, WirePipeline.protectWireWith (env.compressing lz4 checks caps) wire.segments
        compressor.isSome encryptor sessionId random = .ok segments ∧
      segments.flatten = frame.segments.flatten := by
  obtain ⟨body, hpacked, hunencrypted, hencrypted⟩ := protectMessage_eq_ok h
  -- Without a transform both are the segments; otherwise the buffer is joined, compressed or not.
  have hcompress : ∀ found, compressor = some found →
      (env.compressing lz4 checks caps).compress wire.segments.flatten = some body := by
    rintro found rfl
    rw [hcaps found rfl] at hpacked
    exact congrArg Except.toOption hpacked
  unfold WirePipeline.protectWireWith
  cases encryptor with
  | none =>
    cases compressor with
    | none =>
      refine ⟨_, if_pos ⟨Bool.false_ne_true, rfl⟩, ?_⟩
      rw [hunencrypted rfl]
      exact hpacked.symm
    | some found =>
      refine ⟨[body], ?_, by rw [hunencrypted rfl, List.flatten_singleton]⟩
      simp [hcompress found rfl, pure, Except.pure, bind, Except.bind]
  | some algo =>
    obtain ⟨header, payload, hencrypt, hout, -, -⟩ :=
      encryptArena_eq_ok henv hsession (hrandom algo rfl) (hencrypted algo rfl)
    have hencrypt' : algo.encryptMessage (env.compressing lz4 checks caps) body sessionId random =
        .ok (header, payload) := hencrypt
    refine ⟨[header.write ++ payload], ?_, by rw [hout, List.flatten_singleton]⟩
    cases compressor with
    | none =>
      obtain rfl : body = wire.segments.flatten := hpacked
      simp [hencrypt', pure, Except.pure, bind, Except.bind]
    | some found =>
      simp [hcompress found rfl, hencrypt', pure, Except.pure, bind, Except.bind]

end Wire
