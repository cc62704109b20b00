import SmbClient.Lib.Octets
import SmbClient.Msg.Header

/-!
# Messages on the wire (`smb-msg/header.rs`, `plain.rs`, `encrypted.rs`, `message.rs`)
-/

namespace Msg

/-! ## Headers -/

namespace Command

def code : Command → ℕ
  | .negotiate => 0x00
  | .sessionSetup => 0x01
  | .logoff => 0x02
  | .treeConnect => 0x03
  | .treeDisconnect => 0x04
  | .create => 0x05
  | .close => 0x06
  | .flush => 0x07
  | .read => 0x08
  | .write => 0x09
  | .lock => 0x0A
  | .ioctl => 0x0B
  | .cancel => 0x0C
  | .echo => 0x0D
  | .queryDirectory => 0x0E
  | .changeNotify => 0x0F
  | .queryInfo => 0x10
  | .setInfo => 0x11
  | .oplockBreak => 0x12
  | .serverToClientNotification => 0x13

def all : List Command :=
  [.negotiate, .sessionSetup, .logoff, .treeConnect, .treeDisconnect, .create, .close, .flush,
   .read, .write, .lock, .ioctl, .cancel, .echo, .queryDirectory, .changeNotify, .queryInfo,
   .setInfo, .oplockBreak, .serverToClientNotification]

def ofCode (value : ℕ) : Option Command := all.find? (·.code = value)

end Command

structure HeaderFlags where
  serverToRedir : Bool
  asyncCommand : Bool
  relatedOperations : Bool
  signed : Bool
  priorityMask : ℕ
  dfsOperation : Bool
  replayOperation : Bool
deriving DecidableEq

namespace HeaderFlags

def new : HeaderFlags := ⟨false, false, false, false, 0, false, false⟩

def ofBits (bits : ℕ) : HeaderFlags where
  serverToRedir := bits.testBit 0
  asyncCommand := bits.testBit 1
  relatedOperations := bits.testBit 2
  signed := bits.testBit 3
  priorityMask := bits / 2 ^ 4 % 2 ^ 3
  dfsOperation := bits.testBit 28
  replayOperation := bits.testBit 29

def toBits (flags : HeaderFlags) : ℕ :=
  flags.serverToRedir.toNat + 2 ^ 1 * flags.asyncCommand.toNat +
    2 ^ 2 * flags.relatedOperations.toNat + 2 ^ 3 * flags.signed.toNat +
    2 ^ 4 * (flags.priorityMask % 2 ^ 3) + 2 ^ 28 * flags.dfsOperation.toNat +
    2 ^ 29 * flags.replayOperation.toNat

end HeaderFlags

structure Header where
  creditCharge : ℕ
  status : UInt32
  command : Command
  creditRequest : ℕ
  flags : HeaderFlags
  nextCommand : ℕ
  messageId : ℕ
  treeId : Option ℕ
  asyncId : Option ℕ
  sessionId : ℕ
  signature : ℕ
deriving DecidableEq

namespace Header

def structSize : ℕ := 64

def magic : Octets := [0xFE, 0x53, 0x4D, 0x42]

def parse (raw : Octets) : Option Header :=
  if raw.take 4 ≠ magic then none
  else if raw.field 4 2 ≠ structSize then none
  else match Command.ofCode (raw.field 12 2) with
  | none => none
  | some command =>
    let flags := HeaderFlags.ofBits (raw.field 16 4)
    some
      { creditCharge := raw.field 6 2
        status := .ofNat (raw.field 8 4)
        command
        creditRequest := raw.field 14 2
        flags
        nextCommand := raw.field 20 4
        messageId := raw.field 24 8
        treeId := if flags.asyncCommand then none else some (raw.field 36 4)
        asyncId := if flags.asyncCommand then some (raw.field 32 8) else none
        sessionId := raw.field 40 8
        signature := raw.field 48 16 }

def read (raw : Octets) : Option Header :=
  if raw.length < structSize then none else parse (raw.take structSize)

def write (h : Header) : Octets :=
  magic ++ Octets.encode 2 structSize ++ Octets.encode 2 h.creditCharge ++
    Octets.encode 4 h.status.toNat ++ Octets.encode 2 h.command.code ++
    Octets.encode 2 h.creditRequest ++ Octets.encode 4 h.flags.toBits ++
    Octets.encode 4 h.nextCommand ++ Octets.encode 8 h.messageId ++
    -- An absent asynchronous id is written as nothing.
    (if h.flags.asyncCommand then (h.asyncId.map (Octets.encode 8)).getD []
     else Octets.encode 4 0 ++ Octets.encode 4 (h.treeId.getD 0)) ++
    Octets.encode 8 h.sessionId ++ Octets.encode 16 h.signature

theorem read_magic {raw : Octets} {h : Header} (hread : read raw = some h) :
    raw.take 4 = magic := by
  unfold read at hread
  split at hread
  · cases hread
  unfold parse at hread
  split at hread
  · cases hread
  rename_i hmagic
  rwa [not_not, List.take_take] at hmagic

theorem length_of_read {raw : Octets} {h : Header} (hread : read raw = some h) :
    structSize ≤ raw.length := by
  unfold read at hread
  split at hread
  · cases hread
  · omega

theorem read_take {raw : Octets} {n : ℕ} (h : structSize ≤ n) : read (raw.take n) = read raw := by
  have hlen : (raw.take n).length < structSize ↔ raw.length < structSize := by
    rw [List.length_take]
    omega
  unfold read
  simp only [hlen, List.take_take, Nat.min_eq_left h]

end Header

/-! ## Session setup -/

structure SessionFlags where
  isGuest : Bool
  isNullSession : Bool
  encryptData : Bool
deriving DecidableEq

def SessionFlags.isGuestOrNullSession (flags : SessionFlags) : Bool :=
  flags.isGuest || flags.isNullSession

structure SessionSetupResponse where
  sessionFlags : SessionFlags
  buffer : Octets
deriving DecidableEq

/-- The session setup request of `SessionSetupRequest::new`: no previous session. -/
structure SessionSetupRequest where
  binding : Bool
  signingRequired : Bool
  dfs : Bool
  buffer : Octets

/-- The body of a session setup request; the buffer follows at offset 88 of the message. -/
def SessionSetupRequest.write (request : SessionSetupRequest) : Octets :=
  Octets.encode 2 25 ++ Octets.encode 1 request.binding.toNat ++
    Octets.encode 1 (1 + 2 * request.signingRequired.toNat) ++
    Octets.encode 4 request.dfs.toNat ++ Octets.encode 4 0 ++ Octets.encode 2 88 ++
    Octets.encode 2 request.buffer.length ++ Octets.encode 8 0 ++ request.buffer

/-! ## Frames -/

inductive ResponseContent where
  | sessionSetup (response : SessionSetupResponse)
  | error
  | other
deriving DecidableEq

structure PlainResponse where
  header : Header
  content : ResponseContent
deriving DecidableEq

structure EncryptedHeader where
  signature : ℕ
  nonce : Octets
  originalMessageSize : ℕ
  sessionId : ℕ
deriving DecidableEq

namespace EncryptedHeader

def structureSize : ℕ := 52

def magic : Octets := [0xFD, 0x53, 0x4D, 0x42]

def read (raw : Octets) : Option EncryptedHeader :=
  if raw.length < structureSize then none
  else if raw.take 4 ≠ magic then none
  else if raw.field 42 2 ≠ 1 then none
  else some
    { signature := raw.field 4 16
      nonce := (raw.drop 20).take 16
      originalMessageSize := raw.field 36 4
      sessionId := raw.field 44 8 }

def write (h : EncryptedHeader) : Octets :=
  magic ++ Octets.encode 16 h.signature ++ h.nonce ++ Octets.encode 4 h.originalMessageSize ++
    Octets.encode 2 0 ++ Octets.encode 2 1 ++ Octets.encode 8 h.sessionId

/-- The header without its magic and its signature. -/
def aeadBytes (h : EncryptedHeader) : Octets := h.write.drop 20

end EncryptedHeader

structure EncryptedMessage where
  header : EncryptedHeader
  encryptedMessage : Octets
deriving DecidableEq

inductive Response where
  | plain (message : PlainResponse)
  | encrypted (message : EncryptedMessage)
  -- The compression transform with its own header.
  | compressed (message : Octets)
deriving DecidableEq

end Msg
