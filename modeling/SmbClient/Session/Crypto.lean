import SmbClient.Env
import SmbClient.Error
import SmbClient.Msg.WireOut

/-!
# Signing, opening and the preauthentication hash (`session/signer.rs`,
`session/encryptor_decryptor.rs`, `crypto/signing.rs`, `connection/preauth_hash.rs`)
-/

namespace Session

open Msg

variable (env : Env)

/-! ## Signing -/

structure MessageSigner where
  signingAlgo : SigningAlgorithmId
  key : Key

namespace MessageSigner

def makeNonce (header : Header) : Octets :=
  Octets.encode 8 header.messageId ++
    Octets.encode 4 (header.flags.serverToRedir.toNat + 2 *
      (decide (header.command = .cancel)).toNat)

variable (s : MessageSigner)

def mac (header : Header) (data : Octets) : ℕ :=
  match s.signingAlgo with
  | .hmacSha256 => env.hmacSha256 s.key data
  | .aesCmac => env.aesCmac s.key data
  | .aesGmac => env.aesGmac s.key (makeNonce header) data

def signSegments (header : Header) (first : Octets) (segments : List Octets) : ℕ :=
  s.mac env header (first ++ segments.flatten)

/-- The header is written anew with a signature of 0, in place of the bytes it has in the first
segment.
-/
def signatureForSegments (header : Header) (segments : List Octets) : Except Error ℕ :=
  match segments with
  | [] => .error (.invalidMessage "Signed message has no metadata segment")
  | first :: rest =>
    if first.length < Header.structSize then
      .error (.invalidMessage "Signed message is shorter than the SMB2 header")
    else match { header with signature := 0 }.tryWrite with
    | .error _ => .error .binrw
    | .ok written =>
      .ok (s.signSegments env header
        (written ++ List.replicate (Header.structSize - written.length) 0)
        (first.drop Header.structSize :: rest))

def zeroSignature (raw : Octets) : Octets := raw.splice 48 (List.replicate 16 0)

def calculateSignatureBytes (header : Header) (data : Octets) : Except Error ℕ :=
  if data.length < Header.structSize then
    .error (.invalidMessage "Signed message is shorter than the SMB2 header")
  else
    .ok (s.signSegments env header (zeroSignature (data.take Header.structSize))
      [data.drop Header.structSize])

def verifySignature (header : Header) (raw : Octets) : Except Error Unit :=
  match s.calculateSignatureBytes env header raw with
  | .error error => .error error
  | .ok signature =>
    if signature ≠ header.signature then .error .signatureVerificationFailed else .ok ()

def shouldBatch (bytes : ℕ) : Bool := decide (1024 ≤ bytes ∧ bytes ≤ 64 * 1024 - 1)

def isBatchableCmac : Bool := decide (s.signingAlgo = .aesCmac)

def ownedVerificationSegments (raw : Octets) : Except Error (List Octets) :=
  if raw.length < Header.structSize then
    .error (.invalidMessage "Signed message is shorter than the SMB2 header")
  else .ok [zeroSignature (raw.take Header.structSize), raw.drop Header.structSize]

/-- Messages of a middle size signed with CMAC go through the batcher. -/
def check (header : Header) (raw : Octets) : Except Error Unit :=
  if s.isBatchableCmac && shouldBatch raw.length then
    match ownedVerificationSegments raw with
    | .error error => .error error
    | .ok segments =>
      if env.cmacBatch s.key segments ≠ header.signature then .error .signatureVerificationFailed
      else .ok ()
  else s.verifySignature env header raw

variable {env} {s : MessageSigner} {header : Header} {raw : Octets}

theorem zeroSignature_split (raw : Octets) :
    zeroSignature (raw.take Header.structSize) ++ raw.drop Header.structSize = zeroSignature raw :=
  Octets.splice_take_append_drop (by decide)

theorem verifySignature_eq_ok (h : Header.structSize ≤ raw.length) :
    s.verifySignature env header raw = .ok () ↔
      s.mac env header (zeroSignature raw) = header.signature := by
  have hmac : s.signSegments env header (zeroSignature (raw.take Header.structSize))
      [raw.drop Header.structSize] = s.mac env header (zeroSignature raw) := by
    rw [signSegments, List.flatten_singleton, zeroSignature_split raw]
  simp [verifySignature, calculateSignatureBytes, Nat.not_lt.mpr h, hmac]

/-- The check compares the code of the bytes with a zeroed signature field. -/
theorem check_eq_ok : s.check env header raw = .ok () ↔
    Header.structSize ≤ raw.length ∧ s.mac env header (zeroSignature raw) = header.signature := by
  by_cases hlong : Header.structSize ≤ raw.length
  · unfold check
    split
    · rename_i hbatch
      have halgo : s.signingAlgo = .aesCmac := by
        simp only [isBatchableCmac, Bool.and_eq_true, decide_eq_true_eq] at hbatch
        exact hbatch.1
      have hmac : env.cmacBatch s.key
          [zeroSignature (raw.take Header.structSize), raw.drop Header.structSize] =
            s.mac env header (zeroSignature raw) := by
        rw [env.cmacBatch_eq, List.flatten_cons, List.flatten_singleton, zeroSignature_split raw,
          mac, halgo]
      simp [ownedVerificationSegments, hlong, Nat.not_lt.mpr hlong, hmac]
    · rw [verifySignature_eq_ok hlong]
      simp [hlong]
  · have hshort : raw.length < Header.structSize := Nat.lt_of_not_le hlong
    simp [check, ownedVerificationSegments, verifySignature, calculateSignatureBytes, hshort]

end MessageSigner

/-! ## Sealing -/

def nonceSize : EncryptionCipher → ℕ
  | .aes128Ccm | .aes256Ccm => 11
  | .aes128Gcm | .aes256Gcm => 12

structure EncryptingAlgo where
  cipher : EncryptionCipher
  key : Key
deriving DecidableEq

/-- `make_encrypting_algo`: the AES-256 ciphers refuse a key of 16 bytes. -/
def makeEncryptingAlgo (cipher : EncryptionCipher) (key : Key) : Except Error EncryptingAlgo :=
  match cipher with
  | .aes128Ccm | .aes128Gcm => .ok ⟨cipher, key⟩
  | .aes256Ccm | .aes256Gcm => .error .crypto

namespace EncryptingAlgo

def encryptMessage (algo : EncryptingAlgo) (message : Octets) (sessionId : ℕ) (random : Octets) :
    Except Error (EncryptedHeader × Octets) :=
  let size := nonceSize algo.cipher
  let nonce := random.take size ++ List.replicate (16 - size) 0
  let header : EncryptedHeader :=
    { signature := 0, nonce, originalMessageSize := message.length, sessionId }
  if 2 ^ 32 ≤ message.length then .error (.invalidMessage "encrypted transform exceeds u32")
  else match env.encrypt algo.cipher algo.key message header.aeadBytes nonce with
  | none => .error .crypto
  | some (payload, signature) => .ok ({ header with signature }, payload)

def decryptBytes (algo : EncryptingAlgo) (message : EncryptedMessage) : Except Error Octets :=
  let header := message.header
  if message.encryptedMessage.length ≠ header.originalMessageSize then
    .error (.invalidMessage "encrypted payload length does not match OriginalMessageSize")
  else if (header.nonce.drop (nonceSize algo.cipher)).any (· ≠ 0) then
    .error (.invalidMessage "encrypted nonce has non-zero unused bytes")
  else match env.decrypt algo.cipher algo.key message.encryptedMessage header.aeadBytes header.nonce
      header.signature with
  | none => .error .crypto
  | some buffer => .ok buffer

def decryptMessage (algo : EncryptingAlgo) (message : EncryptedMessage) :
    Except Error (Response × Octets) := do
  let buffer ← algo.decryptBytes env message
  match Response.read env buffer with
  | none => .error .binrw
  | some response => .ok (response, buffer)

end EncryptingAlgo

/-! ## The preauthentication hash -/

/-- The hash of an SMB 3.1.1 connection; other dialects have none. -/
inductive PreauthHashState where
  | unsupported
  | inProgress (hash : Octets)
  | finished (hash : Octets)
deriving DecidableEq

namespace PreauthHashState

def next (state : PreauthHashState) (data : Octets) : Except Error PreauthHashState :=
  match state with
  | .inProgress hash => .ok (.inProgress (env.sha512 (hash ++ data)))
  | .unsupported => .ok .unsupported
  | .finished _ => .error (.invalidState "Preauth hash already finished")

def finish : PreauthHashState → Except Error PreauthHashState
  | .inProgress hash => .ok (.finished hash)
  | .unsupported => .ok .unsupported
  | .finished _ => .error (.invalidState "Preauth hash already finished")

end PreauthHashState

end Session
