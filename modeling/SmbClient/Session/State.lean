import SmbClient.Session.Crypto

/-!
# The state of a session (`session/state.rs`, `connection/connection_info.rs`, `signing.rs`)

A session is initial, setting up once its keys exist, ready once the server has accepted it.
-/

namespace Session

open Msg

/-! ## The negotiated connection -/

inductive Dialect where
  | smb0202
  | smb021
  | smb030
  | smb0302
  | smb0311
deriving DecidableEq

def Dialect.isSmb3 : Dialect → Bool
  | .smb0202 | .smb021 => false
  | .smb030 | .smb0302 | .smb0311 => true

inductive SigningPolicy where
  | required
  | whenRequired
deriving DecidableEq

def SigningPolicy.requires (policy : SigningPolicy) (serverRequires : Bool) : Bool :=
  decide (policy = .required) || serverRequires

inductive EncryptionMode where
  | allowed
  | required
  | disabled
deriving DecidableEq

structure ConnectionConfig where
  signingPolicy : SigningPolicy
  allowUnsignedGuestAccess : Bool
  encryptionMode : EncryptionMode
  compressionEnabled : Bool

structure NegotiatedProperties where
  signingRequired : Bool
  -- `caps.dfs()`, and whether compression capabilities were negotiated.
  dfs : Bool
  compression : Bool
  signingAlgo : Option SigningAlgorithmId
  encryptionCipher : Option EncryptionCipher
  dialectRev : Dialect

structure ConnectionInfo where
  negotiation : NegotiatedProperties
  config : ConnectionConfig
  preauthHash : PreauthHashState
  unfinished : ∀ hash, preauthHash ≠ .finished hash

theorem PreauthHashState.unsupported_ne_finished (hash : Octets) :
    unsupported ≠ .finished hash := by
  simp

theorem PreauthHashState.inProgress_ne_finished (begun hash : Octets) :
    inProgress begun ≠ .finished hash := by
  simp

/-! ## Key derivation -/

def ascii (text : String) : Octets := text.toList.map fun c => .ofNat c.toNat

namespace Dialect

def getSigningDeriveLabel : Dialect → Except Error Octets
  | .smb0311 => .ok (ascii "SMBSigningKey\x00")
  | .smb0302 | .smb030 => .ok (ascii "SMB2AESCMAC\x00")
  | .smb0202 | .smb021 =>
    .error (.invalidState "SMB 2.x dialects do not support signing key derivation")

def defaultSigningAlgo : Dialect → SigningAlgorithmId
  | .smb0311 | .smb0302 | .smb030 => .aesCmac
  | .smb0202 | .smb021 => .hmacSha256

def supportsCompression (d : Dialect) : Bool := decide (d = .smb0311)

def s2cEncryptKeyDeriveLabel : Dialect → Except Error Octets
  | .smb0311 => .ok (ascii "SMBS2CCipherKey\x00")
  | .smb0302 | .smb030 => .ok (ascii "SMB2AESCCM\x00")
  | .smb0202 | .smb021 => .error (.invalidState "Encryption is not supported for SMB 2.x dialects")

def c2sEncryptKeyDeriveLabel : Dialect → Except Error Octets
  | .smb0311 => .ok (ascii "SMBC2SCipherKey\x00")
  | .smb0302 | .smb030 => .ok (ascii "SMB2AESCCM\x00")
  | .smb0202 | .smb021 => .error (.invalidState "Encryption is not supported for SMB 2.x dialects")

end Dialect

structure SessionAlgos where
  encryptor : Option EncryptingAlgo
  decryptor : Option EncryptingAlgo
deriving DecidableEq

namespace SessionAlgosFactory

variable (env : Env)

def preauthHashOr (preauthHash : Option Octets) (elseVal : String) : Octets :=
  preauthHash.getD (ascii elseVal)

variable (sessionKey : Key)

def smb2MakeSigner : MessageSigner := ⟨.hmacSha256, sessionKey⟩

variable (info : ConnectionInfo)

def smb3xxMakeSigner (preauthHash : Option Octets) :
    Except Error MessageSigner := do
  let label ← info.negotiation.dialectRev.getSigningDeriveLabel
  let signingKey := env.kbkdfHmacsha256 sessionKey label (preauthHashOr preauthHash "SmbSign\x00")
  return ⟨info.negotiation.signingAlgo.getD info.negotiation.dialectRev.defaultSigningAlgo,
    signingKey⟩

def cipherOf : Option EncryptionCipher :=
  if info.negotiation.dialectRev = .smb0311 then info.negotiation.encryptionCipher
  else some .aes128Ccm

def smb3xxMakeCipherPair (preauthHash : Option Octets) :
    Except Error (Option (EncryptingAlgo × EncryptingAlgo)) :=
  if ¬ info.negotiation.dialectRev.isSmb3 then .ok none
  else if info.config.encryptionMode = .disabled then .ok none
  else match cipherOf info with
  | none => .ok none
  | some cipher => do
    let encLabel ← info.negotiation.dialectRev.c2sEncryptKeyDeriveLabel
    let encKey := env.kbkdfHmacsha256 sessionKey encLabel (preauthHashOr preauthHash "ServerIn \x00")
    let decLabel ← info.negotiation.dialectRev.s2cEncryptKeyDeriveLabel
    let decKey := env.kbkdfHmacsha256 sessionKey decLabel (preauthHashOr preauthHash "ServerOut\x00")
    let encryptor ← makeEncryptingAlgo cipher encKey
    let decryptor ← makeEncryptingAlgo cipher decKey
    return some (encryptor, decryptor)

def smb3xxMakeCiphers (preauthHash : Option Octets) :
    Except Error SessionAlgos := do
  match ← smb3xxMakeCipherPair env sessionKey info preauthHash with
  | some (encryptor, decryptor) => return ⟨some encryptor, some decryptor⟩
  | none =>
    if info.config.encryptionMode = .required then
      .error (.invalidMessage
        "Encryption is required, seems to be unsupported by the server with current config.")
    else return ⟨none, none⟩

def newSession (preauthHash : Option Octets) (info : ConnectionInfo) : Except Error SessionAlgos :=
  if decide (info.negotiation.dialectRev = .smb0311) ≠ preauthHash.isSome then
    .error (.invalidMessage
      "Preauth hash must be present for SMB3.1.1, and not present for SMB3.0.2 or older revisions.")
  else if info.negotiation.dialectRev.isSmb3 then smb3xxMakeCiphers env sessionKey info preauthHash
  else .ok ⟨none, none⟩

def newChannel (channelSessionKey : Key) (preauthHash : Option Octets) (info : ConnectionInfo) :
    Except Error MessageSigner :=
  if info.negotiation.dialectRev.isSmb3 then smb3xxMakeSigner env channelSessionKey info preauthHash
  else .ok (smb2MakeSigner channelSessionKey)

end SessionAlgosFactory

/-! ## Channels -/

structure ChannelInfo where
  id : ℕ
  algos : MessageSigner
  valid : Bool
  -- The channel is being bound to a session of another connection.
  binding : Bool

namespace ChannelInfo

def new (env : Env) (internalId : ℕ) (channelSessionKey : Key) (preauthHash : Option Octets)
    (info : ConnectionInfo) : Except Error ChannelInfo := do
  let algos ← SessionAlgosFactory.newChannel env channelSessionKey preauthHash info
  return { id := internalId, algos, valid := true, binding := false }

def signer (channel : ChannelInfo) : Except Error MessageSigner :=
  if ¬ channel.valid then .error (.invalidState "Channel is not valid, cannot get signer.")
  else .ok channel.algos

end ChannelInfo

/-! ## Sessions -/

inductive SessionInfoState where
  | initial
  | settingUp (algos : SessionAlgos) (allowUnsigned : Bool)
  | ready (algos : SessionAlgos) (flags : SessionFlags) (forceEncryption signingRequired : Bool)
  | invalid
deriving DecidableEq

structure SessionInfo where
  sessionId : ℕ
  state : SessionInfoState

namespace SessionInfo

def new (sessionId : ℕ) : SessionInfo := ⟨sessionId, .initial⟩

variable (s : SessionInfo)

def isInitial : Bool := decide (s.state = .initial)

def isSettingUp : Bool :=
  match s.state with
  | .settingUp _ _ => true
  | _ => false

def isReady : Bool :=
  match s.state with
  | .ready _ _ _ _ => true
  | _ => false

def isInvalid : Bool := decide (s.state = .invalid)

def setup (env : Env) (s : SessionInfo) (sessionKey : Key) (preauthHash : Option Octets)
    (info : ConnectionInfo) : Except Error SessionInfo :=
  if ¬ s.isInitial then .error (.invalidState "Session is not in state initialized, cannot set up.")
  else do
    let algos ← SessionAlgosFactory.newSession env sessionKey preauthHash info
    return { s with state := .settingUp algos info.config.allowUnsignedGuestAccess }

def ready (flags : SessionFlags) (info : ConnectionInfo) : Except Error SessionInfo :=
  match s.state with
  | .settingUp algos _ =>
    let required := decide (info.config.encryptionMode = .required)
    if required ∧ ¬ (algos.encryptor.isSome ∧ algos.decryptor.isSome) then
      .error (.invalidMessage
        "Encryption is required by the connection config, but is not available!")
    else if flags.isGuestOrNullSession ∧
        (¬ info.config.allowUnsignedGuestAccess ∨ info.negotiation.signingRequired) then
      .error (.invalidMessage "Signing may be disabled to allow guest or anonymous logins.")
    else
      let signingRequired := info.config.signingPolicy.requires info.negotiation.signingRequired
      .ok { s with state := .ready algos flags required signingRequired }
  | _ => .error (.invalidState "Session is not set up, cannot set flags.")

def invalidate : SessionInfo := { s with state := .invalid }

def shouldEncrypt : Except Error Bool :=
  match s.state with
  | .ready _ flags forceEncryption _ => .ok (flags.encryptData || forceEncryption)
  | _ => .error (.invalidState "Session is not ready!")

def allowUnsigned : Except Error Bool :=
  match s.state with
  | .ready _ flags _ signingRequired => .ok (flags.isGuestOrNullSession || !signingRequired)
  | .settingUp _ allowUnsigned => .ok allowUnsigned
  | _ => .error (.invalidState "Session is not setting up or ready!")

def isGuestOrAnonymous : Except Error Bool :=
  match s.state with
  | .ready _ flags _ _ => .ok flags.isGuestOrNullSession
  | _ => .error (.invalidState "Session is not ready")

def decryptor : Except Error (Option EncryptingAlgo) :=
  match s.state with
  | .ready algos _ _ _ => .ok algos.decryptor
  | _ => .error (.invalidState "Session is not ready, cannot get decryptor.")

def encryptor : Except Error (Option EncryptingAlgo) :=
  match s.state with
  | .ready algos _ _ _ => .ok algos.encryptor
  | _ => .error (.invalidState "Session is not ready, cannot get encryptor.")

end SessionInfo

/-! ## Shared session objects

An entry and its session information are shared by the setup, the channel contexts and the pipeline:
an object is named by its place in a list that only grows.
-/

abbrev InfoRef : Type := ℕ
abbrev EntryRef : Type := ℕ

structure SessionAndChannel where
  sessionId : ℕ
  session : InfoRef
  channel : Option ChannelInfo

structure SessionStore where
  infos : List SessionInfo
  entries : List SessionAndChannel

namespace SessionStore

def empty : SessionStore := ⟨[], []⟩

variable (store : SessionStore)

variable (entry : EntryRef)

def info : Option SessionInfo := do
  let e ← store.entries[entry]?
  store.infos[e.session]?

def channel : Option ChannelInfo := do
  let e ← store.entries[entry]?
  e.channel

/-- `Arc::new(RwLock::new(..))` of a session. -/
def addInfo (info : SessionInfo) : SessionStore × InfoRef :=
  ({ store with infos := store.infos ++ [info] }, store.infos.length)

/-- `Arc::new(SessionAndChannel::new(..))`. -/
def addEntry (sessionId : ℕ) (session : InfoRef) : SessionStore × EntryRef :=
  ({ store with entries := store.entries ++ [⟨sessionId, session, none⟩] }, store.entries.length)

def setChannel (channel : ChannelInfo) : SessionStore :=
  match store.entries[entry]? with
  | none => store
  | some e => { store with entries := store.entries.set entry { e with channel := some channel } }

def setInfo (info : SessionInfo) : SessionStore :=
  match store.entries[entry]? with
  | none => store
  | some e => { store with infos := store.infos.set e.session info }

end SessionStore

end Session
