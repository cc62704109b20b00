import SmbClient.Session.State

/-!
# Positioned reads and writes (`domain/mod.rs`, `resource/file.rs`)

`read_exact_at` and `write_all_at` loop over requests of at most the negotiated maximum and advance
by what the server says. What the server and the environment do is a `FileWire`, of which nothing is
assumed.
-/

/-! ## Ranges in a message (`smb-msg/src/wire_range.rs`, `smb-msg/src/file.rs`) -/

namespace Msg

structure WireRange (memberLen : ℕ) where
  start : ℕ
  stop : ℕ
  ordered : start ≤ stop
  inside : stop ≤ memberLen

def invalidWireRange (field : String) (offset length : ℕ) : String :=
  s!"invalid wire range for {field}: offset={offset}, length={length}"

def WireRange.validate (field : String) (offset length memberLen minimumOffset alignment : ℕ) :
    Except String (WireRange memberLen) :=
  if offset < minimumOffset ∨ alignment = 0 ∨ ¬ offset % alignment = 0 then
    .error (invalidWireRange field offset length)
  else if offset + length < 2 ^ 64 then
    if h : offset + length ≤ memberLen then
      .ok ⟨offset, offset + length, Nat.le_add_right offset length, h⟩
    else .error (invalidWireRange field offset length)
  else .error (invalidWireRange field offset length)

def WireRange.slice {memberLen : ℕ} (range : WireRange memberLen) (raw : Octets) : Octets :=
  (raw.drop range.start).take (range.stop - range.start)

structure ReadResponse where
  dataOffset : ℕ
  dataLength : ℕ
  behind : 80 ≤ dataOffset
  some : 0 < dataLength

def ReadResponse.dataRange (response : ReadResponse) (memberLen : ℕ) :
    Except String (WireRange memberLen) :=
  WireRange.validate "ReadResponse.data" response.dataOffset response.dataLength memberLen 80 1

structure ReadFlags where
  readUnbuffered : Bool
  readCompressed : Bool

structure ReadRequest where
  flags : ReadFlags
  length : ℕ
  offset : ℕ
  fileId : ℕ
  minimumCount : ℕ

structure WriteRequest where
  offset : ℕ
  fileId : ℕ
  length : ℕ
  data : Octets
deriving DecidableEq

end Msg

namespace Resource

open Msg Session

/-! ## The file and its exchanges -/

structure File where
  readData : Bool
  writeData : Bool
  maximumReadSize : ℕ
  maximumWriteSize : ℕ
  compressionEnabled : Bool
  dialect : Dialect

structure ReadReply where
  status : UInt32
  content : Except String ReadResponse
  raw : Octets

structure WriteReply where
  content : Except String ℕ

/-- What the n-th step of an operation meets. A READ is answered from a file; the count of a WRITE
is the server's to choose. -/
structure FileWire where
  remaining : ℕ → Except Error Unit
  fileId : ℕ → Except Error ℕ
  read : ℕ → ReadRequest → Except Error ReadReply
  write : ℕ → Except Error WriteReply

structure Performed (Request Result : Type) where
  requests : List Request
  result : Except Error Result

def Performed.after {Request Result : Type} (earlier : List Request)
    (performed : Performed Request Result) : Performed Request Result :=
  { performed with requests := earlier ++ performed.requests }

def unexpectedContent (actual expected : String) : Error :=
  .invalidMessage s!"Unexpected content: {actual} - expected {expected}"

def ReadReply.data (reply : ReadReply) : Except Error Octets :=
  match Status.tryFrom reply.status with
  | none => .error .smbMessage
  | some .endOfFile => .ok []
  | some _ =>
    match reply.content with
    | .error actual => .error (unexpectedContent actual "Read")
    | .ok content =>
      match content.dataRange reply.raw.length with
      | .error why => .error (.invalidMessage why)
      | .ok range => .ok (range.slice reply.raw)

def WriteReply.count (reply : WriteReply) : Except Error ℕ :=
  match reply.content with
  | .error actual => .error (unexpectedContent actual "Write")
  | .ok count => .ok count

namespace File

variable (file : File) (wire : FileWire)

/-! ## One request (`resource/file.rs`) -/

def readFlags (unbuffered : Bool) : ReadFlags where
  readUnbuffered := unbuffered && (file.dialect = .smb0302 ∨ file.dialect = .smb0311)
  readCompressed := file.compressionEnabled && file.dialect.supportsCompression

def readBlockBytes (n maxLen pos : ℕ) : Performed ReadRequest Octets :=
  if maxLen = 0 then ⟨[], .ok []⟩
  else if ¬ file.readData then ⟨[], .error (.missingPermissions "file read data")⟩
  else
    match wire.fileId n with
    | .error error => ⟨[], .error error⟩
    | .ok fileId =>
      let request : ReadRequest := ⟨file.readFlags false, maxLen, pos, fileId, 1⟩
      ⟨[request], wire.read n request >>= ReadReply.data⟩

def writeBlock (n : ℕ) (buf : Octets) (pos : ℕ) : Performed WriteRequest ℕ :=
  if buf = [] then ⟨[], .ok 0⟩
  else if ¬ file.writeData then ⟨[], .error (.missingPermissions "file write data")⟩
  else
    match wire.fileId n with
    | .error error => ⟨[], .error error⟩
    | .ok fileId =>
      ⟨[⟨pos, fileId, buf.length % 2 ^ 32, buf⟩], wire.write n >>= WriteReply.count⟩

/-- The n-th request of an operation: the time left is looked at before it is made. -/
def readAt (n offset maxLen : ℕ) : Performed ReadRequest Octets :=
  match wire.remaining n with
  | .error error => ⟨[], .error error⟩
  | .ok _ => file.readBlockBytes wire n maxLen offset

def writeAt (n offset : ℕ) (bytes : Octets) : Performed WriteRequest ℕ :=
  match wire.remaining n with
  | .error error => ⟨[], .error error⟩
  | .ok _ => file.writeBlock wire n bytes offset

/-! ## The loops (`domain/mod.rs`) -/

/-- The loop of `read_exact_at`, with `result` read so far in `n` steps. -/
def readExactLoop (offset length n : ℕ) (result : Octets) : Performed ReadRequest Octets :=
  if result.length < length then
    match Machine.checkedAdd 64 offset result.length with
    | none => ⟨[], .error (.invalidArgument "read range exceeds u64 offsets")⟩
    | some position =>
      let remaining := length - result.length
      let read := file.readAt wire n position (min remaining file.maximumReadSize)
      match read.result with
      | .error error => ⟨read.requests, .error error⟩
      | .ok bytes =>
        if bytes.length = 0 then ⟨read.requests, .error (.io .unexpectedEof)⟩
        else if remaining < bytes.length then
          ⟨read.requests, .error (.invalidMessage "read response exceeded the requested range")⟩
        else (readExactLoop offset length (n + 1) (result ++ bytes)).after read.requests
  else ⟨[], .ok result⟩
termination_by length - result.length
decreasing_by
  rw [List.length_append]
  omega

def readExactAt (offset length : ℕ) : Performed ReadRequest Octets :=
  if length = 0 then ⟨[], .ok []⟩
  else
    let first := file.readAt wire 0 offset (min length file.maximumReadSize)
    match first.result with
    | .error error => ⟨first.requests, .error error⟩
    | .ok bytes =>
      if bytes.length = length then ⟨first.requests, .ok bytes⟩
      else if bytes.length = 0 then ⟨first.requests, .error (.io .unexpectedEof)⟩
      else if length < bytes.length then
        ⟨first.requests, .error (.invalidMessage "read response exceeded the requested range")⟩
      else (file.readExactLoop wire offset length 1 bytes).after first.requests

def chunk (bytes : Octets) (written : ℕ) : Octets := (bytes.drop written).take file.maximumWriteSize

/-- The loop of `write_all_at`, with `written` bytes acknowledged so far in `n` steps. -/
def writeAllLoop (offset : ℕ) (bytes : Octets) (n written : ℕ) : Performed WriteRequest Unit :=
  if written < bytes.length then
    match Machine.checkedAdd 64 offset written with
    | none => ⟨[], .error (.invalidArgument "write range exceeds u64 offsets")⟩
    | some position =>
      let write := file.writeAt wire n position (file.chunk bytes written)
      match write.result with
      | .error error => ⟨write.requests, .error error⟩
      | .ok count =>
        if count = 0 then ⟨write.requests, .error (.io .writeZero)⟩
        -- The bound is what is left of the buffer, not the chunk of this request.
        else if bytes.length - written < count then
          ⟨write.requests, .error (.invalidMessage "write response exceeded the submitted payload")⟩
        else (writeAllLoop offset bytes (n + 1) (written + count)).after write.requests
  else ⟨[], .ok ()⟩
termination_by bytes.length - written

def writeAllAt (offset : ℕ) (bytes : Octets) : Performed WriteRequest Unit :=
  file.writeAllLoop wire offset bytes 0 0

/-- What a call of `read_at_into` comes to. The buffer is the caller's afterwards. -/
inductive ReadInto where
  | returned (result : Except Error ℕ) (buffer : Octets)
  | panicked

def readAtInto (offset : ℕ) (buffer : Octets) : ReadInto :=
  match wire.remaining 0 with
  | .error error => .returned (.error error) buffer
  | .ok _ =>
    if 2 ^ 32 ≤ buffer.length then .returned (.error .parsing) buffer
    else
      match (file.readBlockBytes wire 0 (min buffer.length file.maximumReadSize) offset).result with
      | .error error => .returned (.error error) buffer
      | .ok bytes =>
        -- `buffer[..bytes.len()]` panics when the buffer is shorter.
        if buffer.length < bytes.length then .panicked
        else .returned (.ok bytes.length) (bytes ++ buffer.drop bytes.length)

end File

end Resource
