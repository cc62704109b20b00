import SmbClient.Lib.Table
import SmbClient.Session.State

/-!
# The wire pipeline (`runtime/wire.rs`, `command.rs`)

One pipeline signs, seals and compresses for all sessions of a connection generation, and owns the
preauthentication hash.
-/

namespace Wire

open Msg Session

/-! ## Requests and responses -/

inductive Protection where
  | none
  | signWithChannel
  | snapshotKdfSign (sessionKey : Key)
  | encrypt
deriving DecidableEq

structure CommandRequest where
  header : Header
  body : Octets
  additionalData : Option Octets
  security : Option Protection

namespace CommandRequest

def plain (r : CommandRequest) : Octets := r.header.write ++ r.body

def segments (r : CommandRequest) : List Octets := r.plain :: r.additionalData.toList

def signedWith (env : Env) (r : CommandRequest) (signer : MessageSigner) : List Octets :=
  let rest := r.body :: r.additionalData.toList
  let signature := signer.signSegments env r.header { r.header with signature := 0 }.write rest
  r.plain.splice 48 (Octets.encode 16 signature) :: r.additionalData.toList

end CommandRequest

structure MessageForm where
  compressed : Bool
  encrypted : Bool
  signed : Bool
  unauthenticatedRecoveryHint : Bool
deriving DecidableEq

namespace MessageForm

def default : MessageForm := ⟨false, false, false, false⟩

def signedOrEncrypted (form : MessageForm) : Bool := form.signed || form.encrypted

end MessageForm

structure CommandResponse where
  message : PlainResponse
  -- The bytes of this message, after the transforms around the frame are undone.
  raw : Octets
  form : MessageForm
deriving DecidableEq

/-! ## The pipeline -/

structure WirePipeline where
  sessions : Table ℕ EntryRef
  -- Set when the connection is negotiated.
  connInfo : Option ConnectionInfo
  compress : Bool
  preauthHash : PreauthHashState
  setupSigners : Table ℕ MessageSigner
  store : SessionStore

namespace WirePipeline

variable (env : Env)

def default : WirePipeline :=
  { sessions := ∅, connInfo := none, compress := false, preauthHash := .unsupported
    setupSigners := ∅, store := .empty }

def negotiated (w : WirePipeline) (info : ConnectionInfo) : Except Error WirePipeline :=
  if w.connInfo.isSome then .error (.invalidState "Connection is already negotiated!")
  else
    .ok { w with
      compress := info.negotiation.dialectRev.supportsCompression &&
        info.config.compressionEnabled && info.negotiation.compression
      preauthHash := info.preauthHash
      connInfo := some info }

variable (w : WirePipeline)

def snapshotPreauthFinalized : Except Error (Option Octets) := do
  match ← w.preauthHash.finish with
  | .finished hash => return some hash
  | .unsupported => return none
  | .inProgress _ => .error (.invalidState
      "PreauthHashState::finish() returned InProgress — should be unreachable")

def resetPreauthToNegotiate : Except Error WirePipeline :=
  match w.connInfo with
  | none => .error (.invalidState "connection is not negotiated")
  | some info => .ok { w with preauthHash := info.preauthHash, setupSigners := ∅ }

variable (data : Octets)

def advance : Except Error WirePipeline := do
  let hash ← w.preauthHash.next env data
  return { w with preauthHash := hash }

def deriveSetupPhaseSigner (sessionKey : Key) : Except Error MessageSigner :=
  match w.connInfo with
  | none => .error (.invalidState "setup-phase signing requested before `negotiated` ran")
  | some info => do
    let snapshot ← w.snapshotPreauthFinalized
    let channel ← ChannelInfo.new env (Machine.maxValue 32) sessionKey snapshot info
    channel.signer

variable (header : Header)

def participatesInPreauthOutgoing : Bool :=
  decide (header.command = .negotiate ∨ header.command = .sessionSetup)

def participatesInPreauthIncoming : Bool :=
  match header.command with
  | .negotiate => true
  | .sessionSetup => decide (header.status = Status.moreProcessingRequired.code)
  | _ => false

/-! ### Sessions -/

def sessionStarted (entry : EntryRef) : Except Error WirePipeline :=
  if w.connInfo.isNone then .error (.invalidState "Connection is not negotiated yet!")
  else match w.store.entries[entry]? with
  | none => .ok w
  | some e => .ok { w with sessions := w.sessions.insert e.sessionId entry }

def sessionEnded (entry : EntryRef) : Except Error WirePipeline :=
  match w.store.entries[entry]? with
  | none => .ok w
  | some e =>
    if (w.sessions.lookup e.sessionId).isSome then
      .ok { w with sessions := w.sessions.erase e.sessionId }
    else .error (.invalidState s!"Session {e.sessionId} not found!")

variable (sessionId : ℕ)

def sessionEntry : Except Error EntryRef :=
  match w.sessions.lookup sessionId with
  | some entry => .ok entry
  | none => .error (.invalidState s!"Session {sessionId} not found!")

/-- Before the channel is installed, the one a final binding request left. -/
def getSigner : Except Error (Option MessageSigner) := do
  let entry ← w.sessionEntry sessionId
  match w.store.channel entry with
  | some channel => return some (← channel.signer)
  | none => return w.setupSigners.lookup sessionId

def isBinding : Except Error Bool := do
  let entry ← w.sessionEntry sessionId
  return ((w.store.channel entry).map ChannelInfo.binding).getD false

def sessionInfo : Except Error SessionInfo := do
  let entry ← w.sessionEntry sessionId
  match w.store.info entry with
  | some info => return info
  | none => .error (.invalidState s!"Session {sessionId} not found!")

def getEncryptor : Except Error (Option EncryptingAlgo) := do
  (← w.sessionInfo sessionId).encryptor

def getDecryptor : Except Error (Option EncryptingAlgo) := do
  (← w.sessionInfo sessionId).decryptor

/-! ### Outgoing requests -/

variable (msg : CommandRequest)

/-- A signed session setup request takes part in the hash once it is signed. -/
def ingestOutgoing : Except Error WirePipeline :=
  if participatesInPreauthOutgoing msg.header ∧
      ¬ (msg.header.command = .sessionSetup ∧ msg.header.flags.signed) then
    w.advance env msg.plain
  else .ok w

/-- The final request of a binding is signed with a key of the hash before it, and the answer
expected under one that includes it. -/
def sealSetup (sessionKey : Key) : WirePipeline × Except Error (List Octets) :=
  match w.deriveSetupPhaseSigner env sessionKey with
  | .error error => (w, .error error)
  | .ok signer =>
    let wire := msg.signedWith env signer
    match w.advance env (wire.headD []) with
    | .error error => (w, .error error)
    | .ok w =>
      match w.deriveSetupPhaseSigner env sessionKey with
      | .error error => (w, .error error)
      | .ok response =>
        ({ w with setupSigners := w.setupSigners.insert msg.header.sessionId response }, .ok wire)

def sealOutgoing :
    Protection → WirePipeline × Except Error (List Octets)
  | .none | .encrypt => (w, .ok msg.segments)
  | .snapshotKdfSign sessionKey => w.sealSetup env msg sessionKey
  | .signWithChannel =>
    match w.getSigner msg.header.sessionId with
    | .error error => (w, .error error)
    | .ok none => (w, .error (.transformFailed
        { outgoing := true
          phase := .signVerify
          sessionId := some msg.header.sessionId
          why := "Message is required to be signed, but no channel is set up!"
          msgId := some msg.header.messageId }))
    | .ok (some signer) => (w, .ok (msg.signedWith env signer))

def protectWireWith (wire : List Octets) (compressor : Bool) (encryptor : Option EncryptingAlgo)
    (sessionId : ℕ) (random : Octets) : Except Error (List Octets) :=
  if ¬ compressor ∧ encryptor.isNone then .ok wire
  else do
    let transformed ←
      if compressor then
        match env.compress wire.flatten with
        | some compressed => pure compressed
        | none => Except.error Error.compression
      else pure wire.flatten
    match encryptor with
    | none => return [transformed]
    | some algo =>
      let (header, payload) ← algo.encryptMessage env transformed sessionId random
      return [header.write ++ payload]

def protectWire (wire : List Octets) (shouldEncrypt : Bool) (sessionId : ℕ)
    (random : Octets) : Except Error (List Octets) := do
  let compressor := decide (1024 < wire.flatten.length) && w.compress
  if shouldEncrypt then
    match ← w.getEncryptor sessionId with
    | some algo => protectWireWith env wire compressor (some algo) sessionId random
    | none => .error (.transformFailed
        { outgoing := true
          phase := .encryptDecrypt
          sessionId := some sessionId
          why := "Message is required to be encrypted, but no encryptor is set up!"
          msgId := none })
  else protectWireWith env wire compressor none sessionId random

/-- `cancelled` says that the preparation was cancelled before it ran. What the hash and the setup
signers took stays when a later stage fails. -/
def transformOutgoing (cancelled : Bool)
    (random : Octets) : WirePipeline × Except Error (List Octets) :=
  if cancelled then (w, .error (.cancelled "outgoing preparation"))
  else match msg.security with
  | none => (w, .error (.invalidState "wire protection policy is not sealed"))
  | some protection =>
    match w.ingestOutgoing env msg with
    | .error error => (w, .error error)
    | .ok w =>
      match w.sealOutgoing env msg protection with
      | (w, .error error) => (w, .error error)
      | (w, .ok wire) =>
        (w, w.protectWire env wire (decide (protection = .encrypt)) msg.header.sessionId random)

/-! ### Incoming frames -/

/-- Some servers sign the session setup response of a binding without saying so in its flags. -/
def isBindingSessionSetupSigned (header : Header) : Bool :=
  if header.command ≠ .sessionSetup ∨ header.signature = 0 then false
  else match w.isBinding header.sessionId with
  | .ok binding => binding
  | .error _ => false

/-- The status of a session the server has discarded together with its key. -/
def isRecoveryHint : Bool :=
  decide (header.status = Status.userSessionDeleted.code ∨
    header.status = Status.networkSessionExpired.code)

def verifyPlainIncoming (header : Header) (raw : Octets) (form : MessageForm) :
    WirePipeline × Except Error MessageForm :=
  if isRecoveryHint header then (w, .ok { form with unauthenticatedRecoveryHint := true })
  else if form.encrypted ∨ header.messageId = Machine.maxValue 64 ∨
      header.status = Status.pending.code ∨
      ¬ (header.flags.signed ∨ w.isBindingSessionSetupSigned header) then (w, .ok form)
  else match w.getSigner header.sessionId with
  | .error error => (w, .error error)
  | .ok none => (w, .error (.transformFailed
      { outgoing := false
        phase := .signVerify
        sessionId := some header.sessionId
        why := "Message is required to be signed, but no channel is set up!"
        msgId := some header.messageId }))
  | .ok (some signer) =>
    match signer.check env header raw with
    | .error error => (w, .error error)
    | .ok () =>
      let w :=
        if header.command = .sessionSetup ∧ header.status = Status.success.code then
          { w with setupSigners := w.setupSigners.erase header.sessionId }
        else w
      (w, .ok { form with signed := true })

/-- An encrypted frame is opened with the key of the session its transform header names. -/
def decryptFrame (message : Response) (data : Octets) :
    Except Error (Response × Octets × MessageForm) :=
  match message with
  | .encrypted encrypted => do
    let sessionId := encrypted.header.sessionId
    match ← w.getDecryptor sessionId with
    | none => .error (.transformFailed
        { outgoing := false
          phase := .encryptDecrypt
          sessionId := some sessionId
          why := "Message is required to be encrypted, but no decryptor is set up!"
          msgId := none })
    | some decryptor =>
      let (message, raw) ← decryptor.decryptMessage env encrypted
      return (message, raw, { MessageForm.default with encrypted := true })
  | message => .ok (message, data, .default)

def decompressFrame (message : Response) (raw : Octets) (form : MessageForm) :
    Except Error (Response × Octets × MessageForm) :=
  match message with
  | .compressed compressed =>
    if ¬ w.compress then .error (.transformFailed
      { outgoing := false
        phase := .compressDecompress
        sessionId := none
        why := "Compression is requested, but no decompressor is set up!"
        msgId := none })
    else match env.decompress compressed with
    | none => .error .compression
    | some raw =>
      match Response.read env raw with
      | none => .error .compression
      | some message => .ok (message, raw, { form with compressed := true })
  | message => .ok (message, raw, form)

/-- The transforms around a frame are undone: what remains is the first message of a chain, the
bytes of the chain, and how it arrived. -/
def openFrame : Except Error (PlainResponse × Octets × MessageForm) :=
  match Response.read env data with
  | none => .error .binrw
  | some message => do
    let (message, raw, form) ← w.decryptFrame env message data
    let (message, raw, form) ← w.decompressFrame env message raw form
    match message with
    | .plain message => return (message, raw, form)
    | _ => .error (.invalidMessage "Expected plain message after decryption/decompression")

/-- The hash takes part of a chain in as it is walked, before the part is verified. -/
def ingestIncoming (header : Header) (slice : Octets) : Except Error WirePipeline :=
  if participatesInPreauthIncoming header then w.advance env slice else .ok w

def admitMember (form : MessageForm) (current : PlainResponse) (slice : Octets) :
    WirePipeline × Except Error CommandResponse :=
  match w.ingestIncoming env current.header slice with
  | .error error => (w, .error error)
  | .ok w =>
    match w.verifyPlainIncoming env current.header slice form with
    | (w, .error _) => (w, .error (.transformFailed
        { outgoing := false
          phase := .signVerify
          sessionId := some current.header.sessionId
          why := "Failed to verify compound member signature!"
          msgId := some current.header.messageId }))
    | (w, .ok form) => (w, .ok ⟨current, slice, form⟩)

def memberSlice (remaining : Octets) : Octets :=
  if 0 < header.nextCommand then remaining.take header.nextCommand else remaining

def walk (w : WirePipeline) (form : MessageForm) (current : PlainResponse) (remaining : Octets) :
    WirePipeline × Except Error (List CommandResponse) :=
  let nextOffset := current.header.nextCommand
  if remaining.length < nextOffset then
    (w, .error (.invalidMessage
      s!"Compound NextCommand offset {nextOffset} exceeds remaining buffer {remaining.length}"))
  else match w.admitMember env form current (memberSlice current.header remaining) with
  | (w, .error error) => (w, .error error)
  | (w, .ok response) =>
    if nextOffset = 0 then (w, .ok [response])
    else match Response.read env (remaining.drop nextOffset) with
    | none => (w, .error .binrw)
    | some (.plain next) =>
      match w.walk form next (remaining.drop nextOffset) with
      | (w, .error error) => (w, .error error)
      | (w, .ok responses) => (w, .ok (response :: responses))
    | some _ => (w, .error (.invalidMessage
        ("Compound chain member must be a plain SMB2 response " ++
          "(encryption/compression apply to the whole chain only)")))
termination_by remaining.length
decreasing_by
  rw [List.length_drop]
  omega

/-- `walk` with the panics of the reader it hands the rest of the chain to: nothing is returned
then. -/
def walkChecked (panics : Octets → Bool) (w : WirePipeline) (form : MessageForm)
    (current : PlainResponse) (remaining : Octets) :
    Option (WirePipeline × Except Error (List CommandResponse)) :=
  let nextOffset := current.header.nextCommand
  if remaining.length < nextOffset then
    some (w, .error (.invalidMessage
      s!"Compound NextCommand offset {nextOffset} exceeds remaining buffer {remaining.length}"))
  else match w.admitMember env form current (memberSlice current.header remaining) with
  | (w, .error error) => some (w, .error error)
  | (w, .ok response) =>
    if nextOffset = 0 then some (w, .ok [response])
    else if panics (remaining.drop nextOffset) then none
    else match Response.read env (remaining.drop nextOffset) with
    | none => some (w, .error .binrw)
    | some (.plain next) =>
      (walkChecked panics w form next (remaining.drop nextOffset)).map fun (w, result) =>
        (w, result.map (response :: ·))
    | some _ => some (w, .error (.invalidMessage
        ("Compound chain member must be a plain SMB2 response " ++
          "(encryption/compression apply to the whole chain only)")))
termination_by remaining.length
decreasing_by
  rw [List.length_drop]
  omega

def transformIncomingAll : WirePipeline × Except Error (List CommandResponse) :=
  match w.openFrame env data with
  | .error error => (w, .error error)
  | .ok (plain, raw, form) => w.walk env form plain raw

/-! ### Runs -/

inductive WireEvent where
  | negotiated (info : ConnectionInfo)
  | resetPreauthToNegotiate
  | infoCreated (info : SessionInfo)
  | entryCreated (sessionId : ℕ) (session : InfoRef)
  | infoChanged (entry : EntryRef) (info : SessionInfo)
  | channelInstalled (entry : EntryRef) (channel : ChannelInfo)
  | sessionStarted (entry : EntryRef)
  | sessionEnded (entry : EntryRef)
  | outgoing (msg : CommandRequest) (cancelled : Bool) (random : Octets)
  | incoming (frame : Octets)

/-- An operation that failed leaves the pipeline as it was. -/
def orElse : Except Error WirePipeline → WirePipeline
  | .ok w => w
  | .error _ => w

def responses : Except Error (List CommandResponse) → List CommandResponse
  | .ok messages => messages
  | .error _ => []

def react : WireEvent → WirePipeline × List CommandResponse
  | .negotiated info => (w.orElse (w.negotiated info), [])
  | .resetPreauthToNegotiate => (w.orElse w.resetPreauthToNegotiate, [])
  | .infoCreated info => ({ w with store := (w.store.addInfo info).1 }, [])
  | .entryCreated sessionId session =>
    ({ w with store := (w.store.addEntry sessionId session).1 }, [])
  | .infoChanged entry info => ({ w with store := w.store.setInfo entry info }, [])
  | .channelInstalled entry channel => ({ w with store := w.store.setChannel entry channel }, [])
  | .sessionStarted entry => (w.orElse (w.sessionStarted entry), [])
  | .sessionEnded entry => (w.orElse (w.sessionEnded entry), [])
  | .outgoing msg cancelled random => ((w.transformOutgoing env msg cancelled random).1, [])
  | .incoming frame =>
    let (w, result) := w.transformIncomingAll env frame
    (w, responses result)

end WirePipeline

end Wire
