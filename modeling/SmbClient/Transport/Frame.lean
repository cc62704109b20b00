import SmbClient.Error
import SmbClient.Lib.Machine
import SmbClient.Lib.Octets
import Mathlib.Algebra.BigOperators.Group.List.Basic

/-!
# Frames on a byte stream

A socket is what it does to the calls of `write_vectored` (`Write`). Slicing beyond the end of a
segment panics in the source; `none` stands for that in `tryAdvance`.
-/

namespace Transport

inductive TransportError where
  | alreadyConnected
  | invalidMessage
  | frameTooLarge (announced maximum : ℕ)
  | segmentLimitExceeded (actual maximum : ℕ)
  | cursorAdvanceOutOfBounds (requested remaining : ℕ)
  | writeZero
  | parseError
  | notConnected
  | alreadySplit
  | timeout
  | invalidAddress
  | ioError (kind : IoErrorKind)
deriving DecidableEq

def defaultMaxFrameSize : ℕ := 0xFFFFFF

/-! ## `SendFrame` -/

def totalLength (segments : List Octets) : Option ℕ :=
  segments.foldlM (fun total segment => Machine.checkedAdd 64 total segment.length) 0

theorem totalLength_eq {segments : List Octets} {total : ℕ}
    (h : totalLength segments = some total) : total = (segments.map List.length).sum := by
  obtain ⟨-, rfl⟩ := (Machine.foldlM_checkedAdd segments (Nat.two_pow_pos 64)).mp h
  rw [List.length_flatten, Nat.zero_add]

structure SendFrame where
  segments : List Octets
  totalLen : ℕ
  total : totalLen = (segments.map List.length).sum
  positive : 0 < totalLen
  bounded : totalLen ≤ Machine.maxValue 32

def SendFrame.fromSegments (segments : List Octets) (maximumSegments : ℕ) :
    Except TransportError SendFrame :=
  if segments.isEmpty then .error .invalidMessage
  else if maximumSegments < segments.length then
    .error (.segmentLimitExceeded segments.length maximumSegments)
  else match h : totalLength segments with
  | none => .error .invalidMessage
  | some totalLen =>
    if hzero : totalLen = 0 then .error .invalidMessage
    else if hmax : Machine.maxValue 32 < totalLen then
      .error (.frameTooLarge totalLen (Machine.maxValue 32))
    else .ok
      { segments
        totalLen
        total := totalLength_eq h
        positive := Nat.pos_of_ne_zero hzero
        bounded := Nat.le_of_not_lt hmax }

/-! ## `SmbTcpMessageHeader` -/

/-- `binrw::helpers::write_u24`, big-endian: the last three of the four bytes of the number. -/
def writeU24 (value : ℕ) : Octets := (Octets.encode 4 value).reverse.drop 1

def readU24 (bytes : Octets) : ℕ := Octets.decode (bytes.take 3).reverse

namespace SmbTcpMessageHeader

def size : ℕ := 4

def write (streamProtocolLength : ℕ) : Octets := 0 :: writeU24 streamProtocolLength

def read (bytes : Octets) : Except TransportError ℕ :=
  if bytes.length < size then .error .parseError
  else if bytes.head? = some 0 then .ok (readU24 bytes.tail) else .error .parseError

end SmbTcpMessageHeader

/-! ## `SendCursor` -/

structure SendCursor where
  header : Octets
  headerPos : ℕ
  frame : SendFrame
  segmentIndex : ℕ
  segmentPos : ℕ

namespace SendCursor

def new (frame : SendFrame) : Except TransportError SendCursor :=
  if Machine.maxValue 32 < frame.totalLen then
    .error (.frameTooLarge frame.totalLen (Machine.maxValue 32))
  else .ok
    { header := SmbTcpMessageHeader.write frame.totalLen
      headerPos := 0
      frame
      segmentIndex := 0
      segmentPos := 0 }

variable (c : SendCursor)

def starts : List (Octets × ℕ) :=
  (c.frame.segments.zipIdx.drop c.segmentIndex).map fun (segment, index) =>
    (segment, if index = c.segmentIndex then c.segmentPos else 0)

def tail? (start : Octets × ℕ) : Option Octets :=
  if start.2 < start.1.length then some (start.1.drop start.2) else none

def remaining : ℕ :=
  (c.header.length - c.headerPos) + (c.starts.map fun start => start.1.length - start.2).sum

def chunk : Octets :=
  if c.headerPos < c.header.length then c.header.drop c.headerPos
  else (c.starts.findSome? tail?).getD []

def chunksVectored (slots : ℕ) : List Octets :=
  ((if c.headerPos < c.header.length then [c.header.drop c.headerPos] else []) ++
    c.starts.filterMap tail?).take slots

/-- The loop of `try_advance`, at the first of `segments`: the index and the position behind `count`
more bytes. -/
def advanceSegments : List Octets → ℕ → ℕ → ℕ → Option (ℕ × ℕ)
  | _, index, pos, 0 => some (index, pos)
  | [], _, _, _ + 1 => none
  | segment :: segments, index, pos, count + 1 =>
    if segment.length < pos then none
    else
      let consumed := min (count + 1) (segment.length - pos)
      if pos + consumed = segment.length then
        advanceSegments segments (index + 1) 0 (count + 1 - consumed)
      else
        -- The segment is not used up, so nothing is left to consume.
        some (index, pos + consumed)

def tryAdvance (count : ℕ) : Option (Except TransportError SendCursor) :=
  if c.remaining < count then some (.error (.cursorAdvanceOutOfBounds count c.remaining))
  else
    let headerCount := min count (c.header.length - c.headerPos)
    match advanceSegments (c.frame.segments.drop c.segmentIndex) c.segmentIndex c.segmentPos
        (count - headerCount) with
    | none => none
    | some (segmentIndex, segmentPos) =>
      some (.ok { c with headerPos := c.headerPos + headerCount, segmentIndex, segmentPos })

end SendCursor

/-! ## `TcpTransport::send` -/

def mapTcpError : IoErrorKind → TransportError
  | .connectionAborted | .unexpectedEof => .notConnected
  | kind => .ioError kind

/-- What a socket does to one `write_vectored`: it fails, or it takes the first bytes it is given,
at most so many. -/
inductive Write where
  | fails (kind : IoErrorKind)
  | takes (limit : ℕ)

inductive SendOutcome where
  /-- The socket has not answered yet. -/
  | waiting
  | sent
  | failed (error : TransportError)
  | panicked
deriving DecidableEq

namespace SendCursor

/-- The loop of `send`: the bytes the socket has taken, and how the loop ends. -/
def sendLoop (slots : ℕ) : SendCursor → List Write → Octets × SendOutcome
  | c, [] => ([], if c.remaining = 0 then .sent else .waiting)
  | c, write :: writes =>
    if c.remaining = 0 then ([], .sent)
    else match write with
    | .fails kind => ([], .failed (mapTcpError kind))
    | .takes limit =>
      let slices := (c.chunksVectored slots).flatten
      let written := min limit slices.length
      if written = 0 then ([], .failed .writeZero)
      else match c.tryAdvance written with
      | none => (slices.take written, .panicked)
      | some (.error error) => (slices.take written, .failed error)
      | some (.ok c) =>
        let (rest, outcome) := sendLoop slots c writes
        (slices.take written ++ rest, outcome)

end SendCursor

def maxVectoredSegments : ℕ := 63

/-- `connected` says that the transport has a writer. -/
def send (connected : Bool) (data : SendFrame) (writes : List Write) : Octets × SendOutcome :=
  if maxVectoredSegments < data.segments.length then
    ([], .failed (.segmentLimitExceeded data.segments.length maxVectoredSegments))
  else match SendCursor.new data with
  | .error error => ([], .failed error)
  | .ok cursor => if connected then cursor.sendLoop 64 writes else ([], .failed .notConnected)

/-! ## `receive_with_limit` -/

def receiveExact (stream : Octets) (length : ℕ) : Except TransportError (Octets × Octets) :=
  if stream.length < length then .error .notConnected
  else .ok (stream.take length, stream.drop length)

def TransportFrame.fromBytes (bytes : Octets) (maxLen : ℕ) : Except TransportError Octets :=
  if maxLen < bytes.length then .error (.frameTooLarge bytes.length maxLen) else .ok bytes

def receiveWithLimit (maximum : ℕ) (stream : Octets) : Except TransportError (Octets × Octets) := do
  let (headerData, stream) ← receiveExact stream SmbTcpMessageHeader.size
  let len ← SmbTcpMessageHeader.read headerData
  if maximum < len then throw (.frameTooLarge len maximum)
  let (data, stream) ← receiveExact stream len
  let frame ← TransportFrame.fromBytes data maximum
  return (frame, stream)

end Transport
