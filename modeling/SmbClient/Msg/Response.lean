import SmbClient.Msg.Message

/-!
# The body of a response (`smb-msg/plain.rs`, `error.rs`, `notify.rs`, `chained_list.rs`)

The reader tries the layouts of the header's command in order, and that of an error response last;
the first that reads wins. The layouts with the structure size of an error response are embedded,
and the one that asserts none; of the others the structure size is.
-/

namespace Msg

/-! ## Error responses -/

inductive ErrorId where
  | default
  | shareRedirect
deriving DecidableEq

namespace ErrorId

def code : ErrorId → ℕ
  | .default => 0
  | .shareRedirect => 0x72645253

def ofCode (value : ℕ) : Option ErrorId := [.default, .shareRedirect].find? (·.code = value)

theorem ofCode_code (id : ErrorId) : ofCode id.code = some id := by cases id <;> decide

end ErrorId

structure ErrorResponseContext where
  errorId : ErrorId
  errorData : Octets

structure ErrorResponse where
  errorData : List ErrorResponseContext

def alignBefore (position : ℕ) : ℕ := position + (8 - position % 8) % 8

namespace ErrorResponseContext

def writeAll : ℕ → List ErrorResponseContext → Octets
  | _, [] => []
  | position, context :: rest =>
    List.replicate (alignBefore position - position) 0 ++
      (Octets.encode 4 context.errorData.length ++ (Octets.encode 4 context.errorId.code ++
        (context.errorData ++ writeAll (alignBefore position + 8 + context.errorData.length) rest)))

def readAll (stream : Octets) : ℕ → ℕ → Option (List ErrorResponseContext)
  | 0, _ => some []
  | count + 1, position => do
    let start := alignBefore position
    let length ← stream.field? start 4
    let errorId ← (stream.field? (start + 4) 4).bind ErrorId.ofCode
    let errorData ← stream.slice? (start + 8) length
    let rest ← readAll stream count (start + 8 + length)
    return ⟨errorId, errorData⟩ :: rest

end ErrorResponseContext

namespace ErrorResponse

def dataOffset : ℕ := 72

def write (e : ErrorResponse) : Option Octets :=
  let data := ErrorResponseContext.writeAll dataOffset e.errorData
  if e.errorData.length < 2 ^ 8 ∧ data.length < 2 ^ 32 then
    some (Octets.encode 2 9 ++ (Octets.encode 1 e.errorData.length ++ (Octets.encode 1 0 ++
      (Octets.encode 4 data.length ++ data))))
  else none

def read (raw : Octets) : Option ErrorResponse := do
  let size ← raw.field? 64 2
  guard (size = 9)
  let count ← raw.field? 66 1
  let _ ← raw.field? 67 1
  let byteCount ← raw.field? 68 4
  let errorData ← ErrorResponseContext.readAll (raw.take (dataOffset + byteCount)) count dataOffset
  return ⟨errorData⟩

end ErrorResponse

/-! ## Layouts of structure size 9 -/

/-- The security buffer is read where the fixed fields end, whatever its offset says. -/
def SessionSetupResponse.read (raw : Octets) : Option SessionSetupResponse := do
  let size ← raw.field? 64 2
  guard (size = 9)
  let flags ← raw.field? 66 2
  let _ ← raw.field? 68 2
  let length ← raw.field? 70 2
  let buffer ← raw.slice? 72 length
  return ⟨⟨flags.testBit 0, flags.testBit 1, flags.testBit 2⟩, buffer⟩

def OutputBuffer.read (raw : Octets) : Option Octets := do
  let size ← raw.field? 64 2
  guard (size = 9)
  let offset ← raw.field? 66 2
  let length ← raw.field? 68 4
  return (raw.take (offset + length)).drop offset

inductive NotifyAction where
  | added
  | removed
  | modified
  | renamedOldName
  | renamedNewName
  | addedStream
  | removedStream
  | modifiedStream
  | removedByDelete
  | idNotTunnelled
  | tunnelledIdCollision

/-- The actions in the order of their codes, which start with 1. -/
def NotifyAction.all : List NotifyAction :=
  [.added, .removed, .modified, .renamedOldName, .renamedNewName, .addedStream, .removedStream,
   .modifiedStream, .removedByDelete, .idNotTunnelled, .tunnelledIdCollision]

def NotifyAction.ofCode : ℕ → Option NotifyAction
  | 0 => none
  | code + 1 => all[code]?

/-- `SizedWideString`. A name without characters is refused. -/
def SizedWideString.read (stream : Octets) (position size : ℕ) : Option (List ℕ) :=
  if size % 2 ≠ 0 ∨ size = 0 then none
  else if position + size ≤ stream.length then
    some ((List.range (size / 2)).map fun i => stream.field (position + 2 * i) 2)
  else none

structure FileNotifyInformation where
  action : NotifyAction
  fileName : List ℕ

def FileNotifyInformation.read (stream : Octets) (position : ℕ) : Option FileNotifyInformation := do
  let action ← (stream.field? position 4).bind NotifyAction.ofCode
  let size ← stream.field? (position + 4) 4
  let fileName ← SizedWideString.read stream (position + 8) size
  return ⟨action, fileName⟩

namespace ChainedItemList

variable {T : Type}

/-- Each entry starts with the distance to the next one, 0 in the last. -/
def readFrom (offsetPad : ℕ) (item : Octets → ℕ → Option T) (stream : Octets) (position : ℕ) :
    Option (List T) :=
  if position % offsetPad ≠ 0 then none
  else if _hroom : position + 4 ≤ stream.length then
    let next := stream.field position 4
    match item stream (position + 4) with
    | none => none
    | some value =>
      if _hlast : next = 0 then some [value]
      else (readFrom offsetPad item stream (position + next)).map (value :: ·)
  else none
termination_by stream.length - position
decreasing_by omega

/-- An empty stream is the empty list. -/
def read (offsetPad : ℕ) (item : Octets → ℕ → Option T) (stream : Octets)
    (position streamEnd : ℕ) : Option (List T) :=
  if position = streamEnd then some [] else readFrom offsetPad item stream position

def paddingNeeded (offsetPad position : ℕ) : ℕ := (offsetPad - position % offsetPad) % offsetPad

section
variable (offsetPad : ℕ) (item : ℕ → T → Octets)

def distance (position : ℕ) (value : T) : ℕ :=
  let size := 4 + (item (position + 4) value).length
  size + paddingNeeded offsetPad (position + size)

/-- The distance is cut to 32 bits, and the last entry is not padded. -/
def write : ℕ → List T → Octets
  | _, [] => []
  | position, [value] => Octets.encode 4 0 ++ item (position + 4) value
  | position, value :: next :: rest =>
    let bytes := item (position + 4) value
    Octets.encode 4 (distance offsetPad item position value) ++ (bytes ++
      (List.replicate (paddingNeeded offsetPad (position + (4 + bytes.length))) 0 ++
        write (position + distance offsetPad item position value) (next :: rest)))

end

end ChainedItemList

def ChangeNotifyResponse.read (raw : Octets) : Option (List FileNotifyInformation) := do
  let size ← raw.field? 64 2
  guard (size = 9)
  let offset ← raw.field? 66 2
  let length ← raw.field? 68 4
  ChainedItemList.read 4 FileNotifyInformation.read (raw.take (offset + length)) offset
    (offset + length)

/-! ## The other layouts -/

/-- `ServerToClientNotification` does not assert its structure size. -/
def ServerToClientNotification.read (raw : Octets) : Option Unit := do
  let _ ← raw.field? 64 2
  let _ ← raw.field? 66 2
  let notificationType ← raw.field? 68 4
  guard (notificationType = 0)
  let _ ← raw.field? 72 4
  return ()

/-- The structure sizes that the layouts of a command assert, in the order they are tried. -/
def Command.structureSizes : Command → List ℕ
  | .negotiate => [65]
  | .logoff => [4]
  | .treeConnect => [16]
  | .treeDisconnect => [4]
  | .create => [89]
  | .close => [60]
  | .flush => [4]
  | .read => [17]
  | .write => [17]
  | .lock => [4]
  | .ioctl => [49]
  | .echo => [4]
  | .setInfo => [2]
  -- `OplockBreakNotify`, `LeaseBreakNotify`, `OplockBreakResponse` and `LeaseBreakResponse`.
  | .oplockBreak => [24, 44, 24, 36]
  | .sessionSetup | .queryDirectory | .changeNotify | .queryInfo => [9]
  | .cancel | .serverToClientNotification => []

section
-- Whether what follows the structure size reads, for each layout of a command.
variable (fields : Command → ℕ → Octets → Bool)

def Command.readsOther (command : Command) (raw : Octets) : Bool :=
  command.structureSizes.any fun size =>
    decide (raw.field? 64 2 = some size) && fields command size raw

def ResponseContent.readOwn (command : Command) (raw : Octets) : Option ResponseContent :=
  match command with
  | .sessionSetup => (SessionSetupResponse.read raw).map .sessionSetup
  | .queryDirectory | .queryInfo => (OutputBuffer.read raw).map fun _ => .other
  | .changeNotify => (ChangeNotifyResponse.read raw).map fun _ => .other
  | .serverToClientNotification => (ServerToClientNotification.read raw).map fun _ => .other
  | command => if command.readsOther fields raw then some .other else none

def ResponseContent.read (command : Command) (raw : Octets) : Option ResponseContent :=
  match readOwn fields command raw with
  | some content => some content
  | none => (ErrorResponse.read raw).map fun _ => .error

end

end Msg
