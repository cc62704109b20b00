import SmbClient.Runtime.Wire

/-!
# Signing built messages (`runtime/wire.rs`)

A single message may go to the CMAC batcher with segments of its own; a compound is signed member by
member and has no payloads.
-/

namespace Wire

open Msg Session

def liftMsg {α : Type} : Except SmbMsgError α → Except Error α
  | .ok a => .ok a
  | .error _ => .error .smbMessage

variable (env : Env)

def memberSignature (signer : MessageSigner) (batched : Bool) (builder : WireBuilder) (member : ℕ)
    (header : Header) : Except Error ℕ := do
  if batched then return env.cmacBatch signer.key (← liftMsg (builder.ownedSigningSegments member))
  else signer.signatureForSegments env header (← liftMsg (builder.signingSegments member))

def signMembers (signer : MessageSigner) (batched : Bool) (builder : WireBuilder) :
    ℕ → List Header → Except Error WireBuilder
  | _, [] => .ok builder
  | member, header :: rest => do
    let signature ← memberSignature env signer batched builder member header
    let builder ← liftMsg (builder.patchSignature member signature)
    signMembers signer batched builder (member + 1) rest

def finalized (requests : List PlainRequest) (payloads : List Octets) (segmentLimit : ℕ) :
    Except SmbMsgError (WireBuilder × List PlainRequest) := do
  let (builder, requests) ← WireBuilder.encode requests segmentLimit
  let builder ← payloads.foldlM WireBuilder.attachPayload builder
  return (← builder.finalizeOffsets, requests)

def signMessage (signer : MessageSigner) (batched : Bool) (requests : List PlainRequest)
    (payloads : List Octets) (segmentLimit : ℕ) : Except Error WireMessage := do
  let (builder, requests) ← liftMsg (finalized requests payloads segmentLimit)
  let builder ← signMembers env signer batched builder 0 (requests.map PlainRequest.header)
  let builder ← liftMsg builder.finishSigned
  liftMsg builder.sealMessage

namespace CommandRequest

def message (r : CommandRequest) : PlainRequest := ⟨r.header, r.body⟩

def checkMembers : ℕ → List CommandRequest → Except Error Unit
  | _, [] => .ok ()
  | i, m :: rest => do
    if m.additionalData.isSome then
      Except.error (Error.invalidArgument
        s!"compound member {i}: additional_data is not supported in compound mode")
    else if m.security.isNone then
      Except.error (Error.invalidState s!"compound member {i}: protection policy is not sealed")
    else checkMembers (i + 1) rest

end CommandRequest

namespace WirePipeline

def compoundSigner (w : WirePipeline) (sessionId : ℕ) : Except Error MessageSigner := do
  match ← w.getSigner sessionId with
  | some signer => return signer
  | none => .error (.transformFailed
      { outgoing := true
        phase := .signVerify
        sessionId := some sessionId
        why := "Compound message is signed, but no channel signer is set up"
        msgId := none })

def transformOutgoingCompound (w : WirePipeline) (msgs : List CommandRequest) (random : Octets) :
    Except Error (List Octets) :=
  match msgs with
  | [] => .error (.invalidArgument "compound chain requires at least one message")
  | first :: _ => do
    CommandRequest.checkMembers 0 msgs
    let (builder, requests) ← liftMsg (finalized (msgs.map CommandRequest.message) [] 1)
    let shouldEncrypt := decide (first.security = some .encrypt)
    let shouldSign := !shouldEncrypt && first.header.flags.signed
    if msgs.any fun m => decide (m.security = some .encrypt) ≠ shouldEncrypt then
      Except.error (Error.invalidArgument "compound chain has inconsistent encryption policy")
    else if msgs.any fun m => m.header.flags.signed ≠ shouldSign then
      Except.error (Error.invalidArgument
        ("compound chain has inconsistent `signed` flags across members; " ++
          "all members must opt in or opt out together"))
    else
      let builder ←
        if shouldSign then do
          let signer ← w.compoundSigner first.header.sessionId
          let builder ← signMembers env signer false builder 0 (requests.map PlainRequest.header)
          liftMsg builder.finishSigned
        else liftMsg builder.finishUnsigned
      let message ← liftMsg builder.sealMessage
      w.protectWire env message.segments shouldEncrypt first.header.sessionId random

end WirePipeline

end Wire
