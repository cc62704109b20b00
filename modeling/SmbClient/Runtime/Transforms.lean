import SmbClient.Compression
import SmbClient.Runtime.WireCompound

/-!
# The transforms of a frame, byte by byte (`runtime/wire.rs`, `session/encryptor_decryptor.rs`)

`protect_wire_with` compresses and encrypts a sealed message within one buffer; `undo` is what the
first two steps of `transform_incoming_all` do to the bytes.
-/

namespace Wire

open Msg Session Compression Transport

variable (env : Env) (lz4 : Lz4)

inductive FrameError where
  | message (error : SmbMsgError)
  | compression (error : CompressionError)
  | transport (error : TransportError)
  | other (error : Error)

/-! ## Sending -/

def arena (wire : WireMessage) (compressor : Option Capabilities) (reserved : ℕ) :
    Except FrameError Octets :=
  match compressor with
  | some caps => do
    let plain ← (wire.intoContiguous 0).mapError .message
    (caps.compressTransform lz4 plain reserved).mapError .compression
  | none => (wire.intoContiguous reserved).mapError .message

def encryptArena (algo : EncryptingAlgo) (transformed : Octets) (sessionId : ℕ) (random : Octets) :
    Except FrameError Octets := do
  let (header, payload) ← (algo.encryptMessage env
    (transformed.drop EncryptedHeader.structureSize) sessionId random).mapError .other
  let transformed := transformed.splice EncryptedHeader.structureSize payload
  return transformed.splice 0 header.write

def sealArena (encryptor : Option EncryptingAlgo) (transformed : Octets) (sessionId : ℕ)
    (random : Octets) : Except FrameError Octets :=
  match encryptor with
  | some algo => encryptArena env algo transformed sessionId random
  | none => .ok transformed

def transformFrame (bytes : Octets) : Except SmbMsgError Octets :=
  if bytes.isEmpty then .error (.invalidData "transform frame cannot be empty") else .ok bytes

def protectMessage (wire : WireMessage) (compressor : Option Capabilities)
    (encryptor : Option EncryptingAlgo) (sessionId : ℕ) (random : Octets) :
    Except FrameError SendFrame :=
  if compressor.isNone ∧ encryptor.isNone then
    (SendFrame.fromSegments wire.segments (Machine.maxValue 64)).mapError .transport
  else do
    let transformed ← arena lz4 wire compressor
      (if encryptor.isSome then EncryptedHeader.structureSize else 0)
    let transformed ← sealArena env encryptor transformed sessionId random
    let transformed ← (transformFrame transformed).mapError .message
    (SendFrame.fromSegments [transformed] 1).mapError .transport

/-! ## Receiving -/

/-- What a receiver has to undo the transforms with. -/
structure Receiver where
  decryptor : Option EncryptingAlgo
  decompressor : Option Capabilities

inductive UndoError where
  | compression (fault : Fault)
  | other (error : Error)

def undoEncryption (decryptor : Option EncryptingAlgo) (frame : Octets) : Except UndoError Octets :=
  match EncryptedMessage.read frame with
  | none => .ok frame
  | some message =>
    match decryptor with
    | none => .error (.other (.transformFailed
        { outgoing := false
          phase := .encryptDecrypt
          sessionId := some message.header.sessionId
          why := "Message is required to be encrypted, but no decryptor is set up!"
          msgId := none }))
    | some algo => (algo.decryptBytes env message).mapError .other

def undoCompression (checks : Bool) (decompressor : Option Capabilities) (raw : Octets) :
    Except UndoError Octets :=
  match CompressedMessage.read checks raw with
  | .error .panicked => .error (.compression .panicked)
  | .error _ => .ok raw
  | .ok message =>
    match decompressor with
    | none => .error (.other (.transformFailed
        { outgoing := false
          phase := .compressDecompress
          sessionId := none
          why := "Compression is requested, but no decompressor is set up!"
          msgId := none }))
    | some caps => (caps.decompressBytes lz4 checks message).mapError .compression

/-- Both steps of `transform_incoming_all`; `checks` says that the build is a debug build. -/
def undo (checks : Bool) (receiver : Receiver) (frame : Octets) : Except UndoError Octets := do
  undoCompression lz4 checks receiver.decompressor (← undoEncryption env receiver.decryptor frame)

end Wire

def Env.compressing (env : Env) (lz4 : Compression.Lz4) (checks : Bool)
    (caps : Compression.Capabilities) : Env :=
  { env with
    compress data := (caps.compressTransform lz4 data 0).toOption
    decompress raw := (Msg.CompressedMessage.read checks raw).toOption.bind fun message =>
      (caps.decompressBytes lz4 checks message).toOption }
