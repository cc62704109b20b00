import SmbClient.Msg.Response

/-!
# What the development does not embed

Cryptographic primitives, the readers of message bodies and the compression transform are fields of
`Env`, of which only is assumed that the four-lane CMAC computes the MAC of the joined segments.
-/

inductive SigningAlgorithmId where
  | hmacSha256
  | aesCmac
  | aesGmac
deriving DecidableEq

inductive EncryptionCipher where
  | aes128Ccm
  | aes128Gcm
  | aes256Ccm
  | aes256Gcm
deriving DecidableEq

structure Key where
  bytes : Octets
  sized : bytes.length = 16
deriving DecidableEq

structure Env where
  sha512 : Octets → Octets
  -- Key, label and context.
  kbkdfHmacsha256 : Key → Octets → Octets → Key
  hmacSha256 : Key → Octets → ℕ
  aesCmac : Key → Octets → ℕ
  -- Key, nonce and message.
  aesGmac : Key → Octets → Octets → ℕ
  -- `BatchCmac128::sign_batch` on one message.
  cmacBatch : Key → List Octets → ℕ
  cmacBatch_eq : ∀ key segments, cmacBatch key segments = aesCmac key segments.flatten
  -- Payload, associated data and nonce; the sealed payload with its tag.
  encrypt : EncryptionCipher → Key → Octets → Octets → Octets → Option (Octets × ℕ)
  decrypt : EncryptionCipher → Key → Octets → Octets → Octets → ℕ → Option Octets
  compress : Octets → Option Octets
  decompress : Octets → Option Octets
  -- The body of a response to a command; the bytes are those of the whole message.
  content : Msg.Command → Octets → Option Msg.ResponseContent

namespace Msg

variable (env : Env)

/-- A response has the flag that says it comes from the server. -/
def PlainResponse.read (raw : Octets) : Option PlainResponse :=
  match Header.read raw with
  | none => none
  | some header =>
    if ¬ header.flags.serverToRedir then none
    else (env.content header.command raw).map fun content => ⟨header, content⟩

def EncryptedMessage.read (raw : Octets) : Option EncryptedMessage :=
  (EncryptedHeader.read raw).map fun header => ⟨header, raw.drop EncryptedHeader.structureSize⟩

def Response.read (raw : Octets) : Option Response :=
  match PlainResponse.read env raw with
  | some message => some (.plain message)
  | none =>
    match EncryptedMessage.read raw with
    | some message => some (.encrypted message)
    | none => if raw.take 4 = [0xFC, 0x53, 0x4D, 0x42] then some (.compressed raw) else none

variable {env}

theorem PlainResponse.read_eq_some {raw : Octets} {message : PlainResponse}
    (h : PlainResponse.read env raw = some message) :
    Header.read raw = some message.header ∧ message.header.flags.serverToRedir = true ∧
      env.content message.header.command raw = some message.content := by
  unfold PlainResponse.read at h
  split at h
  · cases h
  rename_i header hheader
  split at h
  · cases h
  rename_i hredir
  obtain ⟨content, hcontent, rfl⟩ := Option.map_eq_some_iff.mp h
  exact ⟨hheader, by simpa using hredir, hcontent⟩

theorem Response.read_eq_compressed {raw compressed : Octets}
    (h : Response.read env raw = some (.compressed compressed)) :
    raw = compressed ∧ raw.take 4 = [0xFC, 0x53, 0x4D, 0x42] := by
  unfold Response.read at h
  split at h
  · cases h
  split at h
  · cases h
  split at h
  · rename_i magic
    exact ⟨Response.compressed.inj (Option.some.inj h), magic⟩
  · cases h

theorem Response.read_plain {raw : Octets} {message : PlainResponse}
    (h : Response.read env raw = some (.plain message)) :
    Header.read raw = some message.header := by
  unfold Response.read at h
  split at h
  · rename_i plain hplain
    cases h
    exact (PlainResponse.read_eq_some hplain).1
  · split at h
    · cases h
    · split at h <;> cases h

end Msg

/-- An environment to run the model in: bodies are read, and the cryptography hides nothing. -/
def sampleEnv : Env where
  sha512 data := data
  kbkdfHmacsha256 key _ _ := key
  hmacSha256 _ data := data.length
  aesCmac _ data := data.length
  aesGmac _ _ data := data.length
  cmacBatch _ segments := segments.flatten.length
  cmacBatch_eq _ _ := rfl
  encrypt _ _ payload _ _ := some (payload, 0)
  decrypt _ _ payload _ _ _ := some payload
  compress data := some data
  decompress data := some data
  content := Msg.ResponseContent.read fun _ size raw => 64 + size ≤ raw.length
