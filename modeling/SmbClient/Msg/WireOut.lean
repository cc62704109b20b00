import SmbClient.Lib.Machine
import SmbClient.Msg.Message

/-!
# The wire builder (`smb-msg/wire_out.rs`)

Requests are written one after the other into one buffer, all but the last padded to a multiple of 8
bytes, with the distance to the next one patched into the header. Offsets are final before
signatures are patched in.
-/

namespace Msg

/-- `SmbMsgError`, as far as writing a message makes it. -/
inductive SmbMsgError where
  | invalidData (why : String)
  | binrw

def Header.tryWrite (h : Header) : Except SmbMsgError Octets :=
  if h.treeId.isSome = h.flags.asyncCommand then .error .binrw else .ok h.write

structure PlainRequest where
  header : Header
  body : Octets

namespace PlainRequest

def withNextCommand (request : PlainRequest) (next : ℕ) : PlainRequest :=
  { request with header := { request.header with nextCommand := next } }

def write (request : PlainRequest) : Except SmbMsgError Octets :=
  if request.header.flags.serverToRedir then .error .binrw
  else request.header.tryWrite.map (· ++ request.body)

end PlainRequest

inductive BuildState where
  | encoded
  | offsetsFinalized
  | protected'
deriving DecidableEq

/-! ## Sealed messages -/

structure WireMessage where
  metadata : Octets
  payloads : List Octets
  -- Empty when there is one member, which is all of the metadata.
  memberRanges : List ByteRange
  totalLen : ℕ

namespace WireMessage

variable (message : WireMessage)

def segments : List Octets := message.metadata :: message.payloads

def intoContiguous (reserved : ℕ) : Except SmbMsgError Octets :=
  match Machine.checkedAdd 64 reserved message.totalLen with
  | none => .error (.invalidData "transform arena length overflow")
  | some _ => .ok (List.replicate reserved 0 ++ message.segments.flatten)

def memberRange (index : ℕ) : Option ByteRange :=
  if message.memberRanges.isEmpty then
    if index = 0 then some ⟨0, message.metadata.length⟩ else none
  else message.memberRanges[index]?

end WireMessage

/-! ## Building -/

structure WireBuilder where
  metadata : Octets
  payloads : List Octets
  memberRanges : List ByteRange
  segmentLimit : ℕ
  state : BuildState
  patchedMembers : ℕ

namespace WireBuilder

def alignedEnd (len : ℕ) : Option ℕ := (Machine.checkedAdd 64 len 7).map (· / 8 * 8)

variable (metadata : Octets)

def patchHeader (start : ℕ) (header : Header) : Except SmbMsgError Octets :=
  match Machine.checkedAdd 64 start Header.structSize with
  | none => .error (.invalidData "header range overflow")
  | some stop =>
    if metadata.length < stop then
      .error (.invalidData "encoded member is shorter than SMB header")
    else header.tryWrite.map (metadata.splice start)

/-- `MetadataCursor::write`: the buffer grows as far as a `usize` counts. -/
def append (metadata written : Octets) : Except SmbMsgError Octets :=
  if metadata.length + written.length < 2 ^ 64 then .ok (metadata ++ written) else .error .binrw

/-- One turn of the loop of `encode`: the buffer behind the request, and the request as it was
written. -/
def encodeMember (request : PlainRequest) (isLast : Bool) :
    Except SmbMsgError (Octets × PlainRequest) := do
  let start := metadata.length
  let request := request.withNextCommand 0
  let metadata ← append metadata (← request.write)
  if isLast then return (metadata, request)
  else match alignedEnd metadata.length with
  | none => .error (.invalidData "compound metadata length overflow")
  | some aligned =>
    let metadata := metadata ++ List.replicate (aligned - metadata.length) 0
    if 2 ^ 32 ≤ aligned - start then
      .error (.invalidData "compound member length exceeds u32")
    else
      let request := request.withNextCommand (aligned - start)
      return (← patchHeader metadata start request.header, request)

/-- The loop of `encode`, with the ranges and the requests it leaves. -/
def encodeAll (metadata : Octets) :
    List PlainRequest → Except SmbMsgError (Octets × List ByteRange × List PlainRequest)
  | [] => .ok (metadata, [], [])
  | request :: rest => do
    let (behind, request) ← encodeMember metadata request rest.isEmpty
    let (whole, ranges, requests) ← encodeAll behind rest
    return (whole, ⟨metadata.length, behind.length⟩ :: ranges, request :: requests)

/-- `encode`; the requests are given back with the distances written into their headers. -/
def encode (requests : List PlainRequest) (segmentLimit : ℕ) :
    Except SmbMsgError (WireBuilder × List PlainRequest) :=
  if requests.isEmpty then .error (.invalidData "wire builder requires at least one request")
  else if segmentLimit = 0 then .error (.invalidData "wire segment limit must include metadata")
  else do
    let (metadata, ranges, written) ← encodeAll [] requests
    let builder : WireBuilder :=
      { metadata
        payloads := []
        memberRanges := if 1 < requests.length then ranges else []
        segmentLimit
        state := .encoded
        patchedMembers := 0 }
    return (builder, written)

variable (builder : WireBuilder)

def requireState (expected : BuildState) : Except SmbMsgError Unit :=
  if builder.state = expected then .ok ()
  else .error (.invalidData "invalid wire builder state transition")

def attachPayload (payload : Octets) : Except SmbMsgError WireBuilder := do
  builder.requireState .encoded
  if payload.isEmpty then return builder
  else if builder.segmentLimit ≤ 1 + builder.payloads.length then
    .error (.invalidData "wire segment limit exceeded")
  else return { builder with payloads := builder.payloads ++ [payload] }

def finalizeOffsets : Except SmbMsgError WireBuilder := do
  builder.requireState .encoded
  return { builder with state := .offsetsFinalized }

def memberCount : ℕ := max builder.memberRanges.length 1

def builderMemberRange (index : ℕ) : Except SmbMsgError ByteRange :=
  if builder.memberRanges.isEmpty then
    if index = 0 then .ok ⟨0, builder.metadata.length⟩
    else .error (.invalidData "wire member index out of bounds")
  else match builder.memberRanges[index]? with
  | some range => .ok range
  | none => .error (.invalidData "wire member index out of bounds")

/-- The bytes of one member, which both kinds of signing segments start with. -/
def memberMetadata (member : ℕ) : Except SmbMsgError Octets := do
  builder.requireState .offsetsFinalized
  let range ← builder.builderMemberRange member
  match range.get builder.metadata with
  | some metadata => return metadata
  | none => .error (.invalidData "signature member range escaped metadata")

/-- A compound's members are signed without payloads. -/
def signedPayloads : List Octets :=
  if builder.memberCount = 1 then builder.payloads else []

def signingSegments (member : ℕ) : Except SmbMsgError (List Octets) := do
  let metadata ← builder.memberMetadata member
  return metadata :: builder.signedPayloads

def ownedSigningSegments (member : ℕ) :
    Except SmbMsgError (List Octets) := do
  let metadata ← builder.memberMetadata member
  if metadata.length < Header.structSize then
    .error (.invalidData "signature member is shorter than the SMB2 header")
  else return metadata.splice 48 (List.replicate 16 0) :: builder.signedPayloads

def patchSignature (member signature : ℕ) :
    Except SmbMsgError WireBuilder := do
  builder.requireState .offsetsFinalized
  if member ≠ builder.patchedMembers then
    .error (.invalidData "signature patches must follow member order")
  else
    let range ← builder.builderMemberRange member
    match Machine.checkedAdd 64 range.start 48 with
    | none => .error (.invalidData "signature range overflow")
    | some start =>
      if builder.metadata.length < start + 16 then
        .error (.invalidData "signature range escaped metadata")
      else
        return { builder with
          metadata := builder.metadata.splice start (Octets.encode 16 signature)
          patchedMembers := builder.patchedMembers + 1 }

def finishSigned : Except SmbMsgError WireBuilder := do
  builder.requireState .offsetsFinalized
  if builder.patchedMembers ≠ builder.memberCount then
    .error (.invalidData "not every wire member has a signature")
  else return { builder with state := .protected' }

def finishUnsigned : Except SmbMsgError WireBuilder := do
  builder.requireState .offsetsFinalized
  if builder.patchedMembers ≠ 0 then
    .error (.invalidData "partially signed message cannot become unsigned")
  else return { builder with state := .protected' }

def totalLen (payloads : List Octets) : Option ℕ :=
  payloads.foldlM (fun total payload => Machine.checkedAdd 64 total payload.length) metadata.length

def sealMessage : Except SmbMsgError WireMessage := do
  builder.requireState .protected'
  match totalLen builder.metadata builder.payloads with
  | none => .error (.invalidData "wire message length overflow")
  | some totalLen =>
    return ⟨builder.metadata, builder.payloads, builder.memberRanges, totalLen⟩

end WireBuilder

end Msg
