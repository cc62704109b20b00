import SmbClient.Msg.Compressed
import SmbClient.Session.State

/-!
# Negotiation (`connection.rs`, `dialects.rs`, `smb-msg/src/negotiate.rs`)

`_negotiate_smb2` offers dialects and, for SMB 3.1.1, contexts; the response is checked by the
dialect it selects. The algorithms that are compiled in are parameters (`BuildFeatures`).
-/

namespace Session

open Msg (CompressionAlgorithm)

/-! ## Dialects -/

namespace Dialect

def code : Dialect → ℕ
  | .smb0202 => 0x0202
  | .smb021 => 0x0210
  | .smb030 => 0x0300
  | .smb0302 => 0x0302
  | .smb0311 => 0x0311

def all : List Dialect := [.smb0202, .smb021, .smb030, .smb0302, .smb0311]

theorem mem_all (dialect : Dialect) : dialect ∈ all := by
  cases dialect <;> decide

end Dialect

/-- A dialect in a response: SMB 2.0 has a wildcard revision. -/
inductive NegotiateDialect where
  | revision (dialect : Dialect)
  | smb02Wildcard

def NegotiateDialect.tryInto : NegotiateDialect → Except Error Dialect
  | .revision dialect => .ok dialect
  | .smb02Wildcard => .error .smbMessage

/-! ## Messages -/

inductive HashAlgorithm where
  | sha512
deriving DecidableEq

structure CompressionCapabilities where
  flags : UInt32
  compressionAlgorithms : List CompressionAlgorithm

def CompressionCapabilities.chained : UInt32 := 1

inductive NegotiateContext where
  | preauthIntegrityCapabilities (hashAlgorithms : List HashAlgorithm) (salt : Octets)
  | encryptionCapabilities (ciphers : List EncryptionCipher)
  | compressionCapabilities (capabilities : CompressionCapabilities)
  | netnameNegotiateContextId (netname : String)
  | signingCapabilities (signingAlgorithms : List SigningAlgorithmId)
  -- Transport and RDMA transform capabilities.
  | other

namespace NegotiateContext

variable (contexts : List NegotiateContext)

def hashes : List (List HashAlgorithm) :=
  contexts.filterMap fun
    | .preauthIntegrityCapabilities hashAlgorithms _ => some hashAlgorithms
    | _ => none

def ciphers : List (List EncryptionCipher) :=
  contexts.filterMap fun
    | .encryptionCapabilities ciphers => some ciphers
    | _ => none

def compressions : List CompressionCapabilities :=
  contexts.filterMap fun
    | .compressionCapabilities capabilities => some capabilities
    | _ => none

def signings : List (List SigningAlgorithmId) :=
  contexts.filterMap fun
    | .signingCapabilities signingAlgorithms => some signingAlgorithms
    | _ => none

end NegotiateContext

structure CapabilityBits where
  dfs : Bool := false
  leasing : Bool := false
  largeMtu : Bool := false
  multiChannel : Bool := false
  persistentHandles : Bool := false
  directoryLeasing : Bool := false
  encryption : Bool := false
  notifications : Bool := false

def CapabilityBits.toBits (bits : CapabilityBits) : UInt32 :=
  bits.dfs.toUInt32 ||| bits.leasing.toUInt32 <<< 1 ||| bits.largeMtu.toUInt32 <<< 2 |||
    bits.multiChannel.toUInt32 <<< 3 ||| bits.persistentHandles.toUInt32 <<< 4 |||
    bits.directoryLeasing.toUInt32 <<< 5 ||| bits.encryption.toUInt32 <<< 6 |||
    bits.notifications.toUInt32 <<< 7

def hasEncryption (capabilities : UInt32) : Bool := decide ((capabilities >>> 6) &&& 1 = 1)

def hasDfs (capabilities : UInt32) : Bool := decide (capabilities &&& 1 = 1)

structure NegotiateRequest where
  signingEnabled : Bool
  signingRequired : Bool
  capabilities : CapabilityBits
  clientGuid : ℕ
  dialects : List Dialect
  negotiateContextList : Option (List NegotiateContext)

structure NegotiateResponse where
  signingRequired : Bool
  dialectRevision : NegotiateDialect
  serverGuid : ℕ
  capabilities : UInt32
  maxTransactSize : ℕ
  maxReadSize : ℕ
  maxWriteSize : ℕ
  buffer : Octets
  negotiateContextList : Option (List NegotiateContext)

/-! ## The request -/

structure BuildFeatures where
  signingAlgos : List SigningAlgorithmId
  encryptingAlgos : List EncryptionCipher
  compressionAlgos : List CompressionAlgorithm

structure NegotiationConfig extends ConnectionConfig where
  minDialect : Option Dialect
  maxDialect : Option Dialect
  clientName : Option String
  multichannel : Bool
  disableNotifications : Bool

variable (features : BuildFeatures) (config : NegotiationConfig)

namespace NegotiationConfig

def lowest : Dialect := config.minDialect.getD .smb0202

def highest : Dialect := config.maxDialect.getD .smb0311

def dialects : List Dialect :=
  Dialect.all.filter fun dialect => config.lowest.code ≤ dialect.code ∧
    dialect.code ≤ config.highest.code

def encryptionAlgos : List EncryptionCipher :=
  if config.encryptionMode = .disabled then [] else features.encryptingAlgos

end NegotiationConfig

def appendOptionalNegotiateContexts (contexts : List NegotiateContext)
    (encryptingAlgorithms : List EncryptionCipher)
    (compressionAlgorithms : List CompressionAlgorithm)
    (signingAlgorithms : List SigningAlgorithmId) : List NegotiateContext :=
  contexts ++ (if encryptingAlgorithms = [] then [] else
    [.encryptionCapabilities encryptingAlgorithms]) ++ (if compressionAlgorithms = [] then []
      else [.compressionCapabilities ⟨CompressionCapabilities.chained, compressionAlgorithms⟩])
    ++ (if signingAlgorithms = [] then [] else [.signingCapabilities signingAlgorithms])

def makeSmb2NegRequest (clientGuid : ℕ) (salt : Octets) (supportedDialects : List Dialect)
    (signingAlgorithms : List SigningAlgorithmId) (encryptingAlgorithms : List EncryptionCipher)
    (compressionAlgorithms : List CompressionAlgorithm) : NegotiateRequest where
  signingEnabled := !signingAlgorithms.isEmpty
  signingRequired := !signingAlgorithms.isEmpty && config.signingPolicy.requires false
  capabilities :=
    if supportedDialects.all (·.code < Dialect.smb030.code) then {}
    else
      { dfs := true
        leasing := true
        largeMtu := true
        multiChannel := config.multichannel
        persistentHandles := true
        directoryLeasing := true
        encryption := !encryptingAlgorithms.isEmpty
        notifications := !config.disableNotifications && supportedDialects.contains .smb0311 }
  clientGuid
  dialects := supportedDialects
  negotiateContextList :=
    if .smb0311 ∈ supportedDialects then
      some (appendOptionalNegotiateContexts
        [.preauthIntegrityCapabilities [.sha512] salt,
          .netnameNegotiateContextId (config.clientName.getD "smb-client")]
        encryptingAlgorithms compressionAlgorithms signingAlgorithms)
    else none

/-! ## The response -/

def Dialect.negotiateCapsMask (dialect : Dialect) : CapabilityBits where
  dfs := true
  leasing := decide (Dialect.smb0202.code < dialect.code)
  largeMtu := decide (Dialect.smb0202.code < dialect.code)
  multiChannel := decide (Dialect.smb021.code < dialect.code)
  persistentHandles := decide (Dialect.smb021.code < dialect.code)
  directoryLeasing := decide (Dialect.smb021.code < dialect.code)
  encryption := decide (Dialect.smb030.code ≤ dialect.code ∧ dialect.code ≤ Dialect.smb0302.code)
  notifications := decide (dialect = .smb0311)

structure Selection where
  signingAlgo : Option SigningAlgorithmId
  encryptionCipher : Option EncryptionCipher
  compression : Option CompressionCapabilities

def selectSigning : Option (List SigningAlgorithmId) → Except Error (Option SigningAlgorithmId)
  | none => .ok none
  | some [algo] =>
    if algo ∈ features.signingAlgos then .ok (some algo)
    else .error (.negotiation "Unsupported signing algorithm selected!")
  | some _ => .error (.negotiation "The server must select exactly one signing algorithm")

def checkHash : List HashAlgorithm → Except Error Unit
  | [hash] =>
    if hash ∈ [HashAlgorithm.sha512] then .ok ()
    else .error (.negotiation "Unsupported preauth integrity algorithm received")
  | _ => .error (.negotiation
      "The server must select exactly one preauthentication integrity algorithm")

variable (mode : EncryptionMode)

def selectCipher (first : Option EncryptionCipher) : Except Error (Option EncryptionCipher) :=
  match first with
  | some cipher =>
    if cipher ∈ features.encryptingAlgos then .ok (some cipher)
    else .error (.negotiation "Unsupported encryption algorithm received")
  | none =>
    if mode = .required then
      .error (.negotiation "Encryption is required, but no algorithms provided by the server")
    else .ok none

def processSmb311 (contexts : List NegotiateContext) : Except Error Selection :=
  match NegotiateContext.hashes contexts with
  | [hashAlgorithms] =>
    if 1 < (NegotiateContext.signings contexts).length then
      .error (.negotiation "SMB 3.1.1 response contains multiple signing capability contexts")
    else do
      let signingAlgo ← selectSigning features (NegotiateContext.signings contexts).head?
      checkHash hashAlgorithms
      let encryptionCipher ← selectCipher features mode
        ((NegotiateContext.ciphers contexts).head?.bind List.head?)
      return ⟨signingAlgo, encryptionCipher, (NegotiateContext.compressions contexts).head?⟩
  | _ => .error (.negotiation "SMB 3.1.1 requires exactly one preauthentication integrity context")

def processNegotiateRequest (dialect : Dialect) (response : NegotiateResponse) :
    Except Error Selection :=
  match dialect, response.negotiateContextList with
  | .smb0311, none => .error (.invalidMessage "Expected negotiate context list")
  | .smb0311, some contexts => processSmb311 features mode contexts
  | _, some _ => .error (.invalidMessage "Negotiate context list not expected")
  | .smb0302, none | .smb030, none =>
    if mode = .required ∧ ¬ hasEncryption response.capabilities then
      .error (.negotiation "Encryption is required, but cap not supported by the server.")
    else .ok ⟨none, none, none⟩
  | .smb021, none | .smb0202, none => .ok ⟨none, none, none⟩

structure Negotiated where
  serverGuid : ℕ
  signingRequired : Bool
  caps : UInt32
  maxTransactSize : ℕ
  maxReadSize : ℕ
  maxWriteSize : ℕ
  authBuffer : Octets
  selection : Selection
  dialectRev : Dialect

def Negotiated.properties (negotiated : Negotiated) : NegotiatedProperties where
  signingRequired := negotiated.signingRequired
  dfs := hasDfs negotiated.caps
  compression := negotiated.selection.compression.isSome
  signingAlgo := negotiated.selection.signingAlgo
  encryptionCipher := negotiated.selection.encryptionCipher
  dialectRev := negotiated.dialectRev

def acceptResponse (response : NegotiateResponse) : Except Error Negotiated := do
  let dialectRev ← response.dialectRevision.tryInto
  if config.highest.code < dialectRev.code ∨ dialectRev.code < config.lowest.code then
    .error (.negotiation "Server selected an unsupported dialect.")
  else do
    let selection ← processNegotiateRequest features config.encryptionMode dialectRev response
    if ~~~ dialectRev.negotiateCapsMask.toBits &&& response.capabilities ≠ 0 then
      .error (.negotiation "Server capabilities are invalid for the selected dialect.")
    else
      return {
        serverGuid := response.serverGuid
        signingRequired := response.signingRequired
        caps := response.capabilities
        maxTransactSize := response.maxTransactSize
        maxReadSize := response.maxReadSize
        maxWriteSize := response.maxWriteSize
        authBuffer := response.buffer
        selection
        dialectRev }

def negotiationHash (env : Env) (dialect : Dialect) (requestRaw responseRaw : Octets) :
    PreauthHashState :=
  if dialect = .smb0311 then
    .inProgress (env.sha512 (env.sha512 (List.replicate 64 0 ++ requestRaw) ++ responseRaw))
  else .unsupported

theorem negotiationHash_ne_finished (env : Env) (dialect : Dialect)
    (requestRaw responseRaw hash : Octets) :
    negotiationHash env dialect requestRaw responseRaw ≠ .finished hash := by
  unfold negotiationHash
  split <;> simp

/-- The exchange of the NEGOTIATE: the bytes of both messages, and the response if it is one. -/
structure NegotiateExchange where
  requestRaw : Octets
  responseRaw : Octets
  content : Except Error NegotiateResponse

def negotiateRequest (clientGuid : ℕ) (salt : Octets) : NegotiateRequest :=
  makeSmb2NegRequest config clientGuid salt config.dialects features.signingAlgos
    (config.encryptionAlgos features) features.compressionAlgos

def negotiateSmb2 (env : Env) (clientGuid : ℕ) (salt : Octets)
    (exchange : NegotiateRequest → Except Error NegotiateExchange) :
    Except Error (Negotiated × ConnectionInfo) := do
  if config.dialects = [] then .error (.invalidConfiguration "No dialects to negotiate")
  else do
    let exchanged ← exchange (negotiateRequest features config clientGuid salt)
    let response ← exchanged.content
    let negotiated ← acceptResponse features config response
    return (negotiated,
      { negotiation := negotiated.properties
        config := config.toConnectionConfig
        preauthHash := negotiationHash env negotiated.dialectRev exchanged.requestRaw
          exchanged.responseRaw
        unfinished := negotiationHash_ne_finished env _ _ _ })

end Session
