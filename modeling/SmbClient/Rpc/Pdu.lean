import SmbClient.Lib.Codec

/-!
# DCE/RPC packets (`smb-rpc/pdu.rs`)

A packet is a header of 16 bytes and a content. The reader lets the content have as many bytes as
the whole fragment; a stub goes on to their end. The results of a bind acknowledgement are aligned
when they are read, not when they are written. A GUID is kept as the number its bytes spell.
-/

namespace Rpc

open Codec Octets

/-! ## Contents -/

structure DceRpcSyntaxId where
  uuid : Word 16
  version : Word 4
deriving DecidableEq

namespace DceRpcSyntaxId

def write (syntaxId : DceRpcSyntaxId) : Octets :=
  encode 16 syntaxId.uuid ++ encode 4 syntaxId.version

def read : Reader DceRpcSyntaxId := do
  let uuid ← word 16
  let version ← word 4
  return ⟨uuid, version⟩

end DceRpcSyntaxId

structure DcRpcCoPktRequest where
  allocHint : Word 4
  contextId : Word 2
  opnum : Word 2
  stubData : Octets

structure DcRpcCoPktBindContextElement where
  contextId : Word 2
  abstractSyntax : DceRpcSyntaxId
  transferSyntaxes : List DceRpcSyntaxId

namespace DcRpcCoPktBindContextElement

def write (element : DcRpcCoPktBindContextElement) : Octets :=
  encode 2 element.contextId ++ (encode 1 element.transferSyntaxes.length ++ (encode 1 0 ++
    (element.abstractSyntax.write ++ (element.transferSyntaxes.map (·.write)).flatten)))

def read : Reader DcRpcCoPktBindContextElement := do
  let contextId ← word 2
  let numTransferSyntaxes ← word 1
  let _reserved ← word 1
  let abstractSyntax ← DceRpcSyntaxId.read
  let transferSyntaxes ← many DceRpcSyntaxId.read numTransferSyntaxes
  return ⟨contextId, abstractSyntax, transferSyntaxes⟩

end DcRpcCoPktBindContextElement

structure DcRpcCoPktBind where
  maxXmitFrag : Word 2
  maxRecvFrag : Word 2
  assocGroupId : Word 4
  contextElements : List DcRpcCoPktBindContextElement

structure DcRpcCoPktResponse where
  contextId : Word 2
  cancelCount : Word 1
  stubData : Octets
deriving DecidableEq

structure DcRpcCoPktFault where
  allocHint : Word 4
  contextId : Word 2
  cancelCount : Word 1
  reserved : Word 1
  status : Word 4
  reserved2 : Word 4
deriving DecidableEq

inductive DceRpcCoPktBindAckDefResult where
  | acceptance | userRejection | providerRejection | negotiateAck
deriving DecidableEq

inductive DcRpcCoPktBindAckReason where
  | notSpecified | abstractSyntaxNotSupported | proposedTransferSyntaxesNotSupported
  | localLimitExceeded
deriving DecidableEq

inductive DceRpcCoPktBindRejectReason where
  | reasonNotSpecified | temporaryCongestion | localLimitExceeded | calledPaddrUnknown
  | protocolVersionNotSupported | defaultContextNotSupported | userDataNotReadable | noPsapAvailable
  | authenticationTypeNotRecognized | authenticationTypeNotSupported
deriving DecidableEq

/-! The codes of these count from zero. -/

def DceRpcCoPktBindAckDefResult.all : List DceRpcCoPktBindAckDefResult :=
  [.acceptance, .userRejection, .providerRejection, .negotiateAck]

def DcRpcCoPktBindAckReason.all : List DcRpcCoPktBindAckReason :=
  [.notSpecified, .abstractSyntaxNotSupported, .proposedTransferSyntaxesNotSupported,
    .localLimitExceeded]

def DceRpcCoPktBindRejectReason.all : List DceRpcCoPktBindRejectReason :=
  [.reasonNotSpecified, .temporaryCongestion, .localLimitExceeded, .calledPaddrUnknown,
    .protocolVersionNotSupported, .defaultContextNotSupported, .userDataNotReadable,
    .noPsapAvailable, .authenticationTypeNotRecognized, .authenticationTypeNotSupported]

structure DcRpcCoPktBindAckResult where
  result : DceRpcCoPktBindAckDefResult
  reason : DcRpcCoPktBindAckReason
  syntaxId : DceRpcSyntaxId
deriving DecidableEq

namespace DcRpcCoPktBindAckResult

def write (r : DcRpcCoPktBindAckResult) : Octets :=
  encode 2 (DceRpcCoPktBindAckDefResult.all.idxOf r.result) ++
    (encode 2 (DcRpcCoPktBindAckReason.all.idxOf r.reason) ++ r.syntaxId.write)

def read : Reader DcRpcCoPktBindAckResult := do
  let result ← variant 2 DceRpcCoPktBindAckDefResult.all.idxOf DceRpcCoPktBindAckDefResult.all
  let reason ← variant 2 DcRpcCoPktBindAckReason.all.idxOf DcRpcCoPktBindAckReason.all
  let syntaxId ← DceRpcSyntaxId.read
  return ⟨result, reason, syntaxId⟩

end DcRpcCoPktBindAckResult

structure DcRpcCoPktBindAck where
  maxXmitFrag : Word 2
  maxRecvFrag : Word 2
  assocGroupId : Word 4
  portSpec : Octets
  results : List DcRpcCoPktBindAckResult
deriving DecidableEq

structure DcRpcCoPktBindNak where
  reason : DceRpcCoPktBindRejectReason
  protocols : List (Word 1 × Word 1)
deriving DecidableEq

/-! ## Directions -/

inductive DcRpcCoPktRequestContent where
  | request (value : DcRpcCoPktRequest)
  | bind (value : DcRpcCoPktBind)

inductive DcRpcCoPktResponseContent where
  | response (value : DcRpcCoPktResponse)
  | fault (value : DcRpcCoPktFault)
  | bindAck (value : DcRpcCoPktBindAck)
  | bindNak (value : DcRpcCoPktBindNak)
deriving DecidableEq

structure Direction (C : Type) where
  getType : C → ℕ
  write : C → Octets
  read : ℕ → Reader C

def requests : Direction DcRpcCoPktRequestContent where
  getType
    | .request _ => 0
    | .bind _ => 11
  write
    | .request r => encode 4 r.allocHint ++
        (encode 2 r.contextId ++ (encode 2 r.opnum ++ r.stubData))
    | .bind b => encode 2 b.maxXmitFrag ++ (encode 2 b.maxRecvFrag ++ (encode 4 b.assocGroupId ++
        (encode 1 b.contextElements.length ++ (encode 1 0 ++ (encode 2 0 ++
          (b.contextElements.map (·.write)).flatten)))))
  read
    | 0 => do
      let allocHint ← word 4
      let contextId ← word 2
      let opnum ← word 2
      let stubData ← untilEof
      return .request ⟨allocHint, contextId, opnum, stubData⟩
    | 11 => do
      let maxXmitFrag ← word 2
      let maxRecvFrag ← word 2
      let assocGroupId ← word 4
      let numContextItems ← word 1
      let _reserved ← word 1
      let _reserved2 ← word 2
      let contextElements ← many DcRpcCoPktBindContextElement.read numContextItems
      return .bind ⟨maxXmitFrag, maxRecvFrag, assocGroupId, contextElements⟩
    | _ => fail .refused

def responses : Direction DcRpcCoPktResponseContent where
  getType
    | .response _ => 2
    | .fault _ => 3
    | .bindAck _ => 12
    | .bindNak _ => 13
  write
    | .response r => encode 4 0 ++
        (encode 2 r.contextId ++ (encode 1 r.cancelCount ++ (encode 1 0 ++ r.stubData)))
    | .fault f => encode 4 f.allocHint ++ (encode 2 f.contextId ++ (encode 1 f.cancelCount ++
        (encode 1 f.reserved ++ (encode 4 f.status ++ encode 4 f.reserved2))))
    | .bindAck b => encode 2 b.maxXmitFrag ++ (encode 2 b.maxRecvFrag ++ (encode 4 b.assocGroupId ++
        (encode 2 b.portSpec.length ++ (b.portSpec ++ (encode 1 b.results.length ++ (encode 1 0 ++
          (encode 2 0 ++ (b.results.map (·.write)).flatten)))))))
    | .bindNak b => encode 2 (DceRpcCoPktBindRejectReason.all.idxOf b.reason) ++
        (encode 1 b.protocols.length ++
          (b.protocols.map fun v => encode 1 v.1 ++ encode 1 v.2).flatten)
  read
    | 2 => do
      let _allocHint ← word 4
      let contextId ← word 2
      let cancelCount ← word 1
      let _reserved ← word 1
      let stubData ← untilEof
      return .response ⟨contextId, cancelCount, stubData⟩
    | 3 => do
      let allocHint ← word 4
      let contextId ← word 2
      let cancelCount ← word 1
      let reserved ← word 1
      let status ← word 4
      let reserved2 ← word 4
      return .fault ⟨allocHint, contextId, cancelCount, reserved, status, reserved2⟩
    | 12 => do
      let maxXmitFrag ← word 2
      let maxRecvFrag ← word 2
      let assocGroupId ← word 4
      let portSpecLen ← word 2
      -- A sized string has at least one byte.
      require (portSpecLen ≠ 0)
      let portSpec ← take portSpecLen
      align 4
      let numResults ← word 1
      let _reserved ← word 1
      let _reserved2 ← word 2
      let results ← many DcRpcCoPktBindAckResult.read numResults
      return .bindAck ⟨maxXmitFrag, maxRecvFrag, assocGroupId, portSpec, results⟩
    | 13 => do
      let reason ← variant 2 DceRpcCoPktBindRejectReason.all.idxOf DceRpcCoPktBindRejectReason.all
      let numProtocols ← word 1
      let protocols ← many (do return (← word 1, ← word 1)) numProtocols
      return .bindNak ⟨reason, protocols⟩
    | _ => fail .refused

/-! ## Packets -/

structure Packet (C : Type) where
  pfcFlags : Word 1
  packedDrep : Word 4
  callId : Word 4
  content : C
deriving DecidableEq

abbrev DceRpcCoRequestPkt : Type := Packet DcRpcCoPktRequestContent
abbrev DceRpcCoResponsePkt : Type := Packet DcRpcCoPktResponseContent

namespace Packet

variable {C : Type}

variable (packet : Packet C)

def firstFrag : Bool := packet.pfcFlags.val.testBit 0
def lastFrag : Bool := packet.pfcFlags.val.testBit 1
def objectUuid : Bool := packet.pfcFlags.val.testBit 7

def commonSizeBytes : ℕ := 16

/-- The length of the fragment is written last, and refused if it does not fit. -/
def write (direction : Direction C) (packet : Packet C) : Option Octets :=
  let content := direction.write packet.content
  if commonSizeBytes + content.length < 2 ^ 16 then
    some (encode 1 5 ++ (encode 1 0 ++ (encode 1 (direction.getType packet.content) ++
      (encode 1 packet.pfcFlags ++ (encode 4 packet.packedDrep ++
        (encode 2 (commonSizeBytes + content.length) ++ (encode 2 0 ++
          (encode 4 packet.callId ++ content))))))))
  else none

def read (direction : Direction C) : Reader (Packet C) := do
  let major ← word 1
  let minor ← word 1
  require (major = 5 ∧ minor = 0)
  let ptype ← word 1
  let pfcFlags ← word 1
  require (!pfcFlags.val.testBit 7)
  let packedDrep ← word 4
  let fragLength ← word 2
  let authLength ← word 2
  require (authLength = 0)
  let callId ← word 4
  let content ← limited fragLength (direction.read ptype)
  return ⟨pfcFlags, packedDrep, callId, content⟩

end Packet

end Rpc
