import SmbClient.Error
import SmbClient.Lib.Machine
import SmbClient.Lib.VecCursor

/-!
# File cursors (`domain/cursor.rs`)

A cursor keeps a read or a write that waits across polls. What it completes is put into the buffer
of the poll that finds it complete, and moves the position from where it is then. The server answers
a `read_at` with bytes of the file at the offset it was asked for, and how many is its choice.
-/

namespace Domain

inductive CursorError where
  | invalidInput (why : String)
  | invalidData (why : String)
  | other (error : Error)

structure ReadRequest where
  offset : ℕ
  length : ℕ

structure WriteRequest where
  offset : ℕ
  bytes : Octets

structure FileCursor where
  openedLen : ℕ
  position : ℕ
  pendingRead : Option ReadRequest
  pendingWrite : Option WriteRequest
  -- Not in the source: what the file holds.
  content : Octets

namespace FileCursor

def new (openedLen : ℕ) (content : Octets) : FileCursor := ⟨openedLen, 0, none, none, content⟩

/-- A call, and how many bytes the pending operation has come to if it is complete. -/
inductive Call where
  | pollRead (remaining : ℕ) (reply : Option (Except Error ℕ))
  | pollWrite (buffer : Octets) (reply : Option (Except Error ℕ))
  | startSeek (target : SeekFrom)

/-- What a call returns. Writing beyond the end of a buffer panics. -/
inductive Outcome where
  | pending
  | delivered (bytes : Octets)
  | written (count : ℕ)
  | sought
  | failed (error : CursorError)
  | panicked

def seekFrom (base : ℕ) (delta : ℤ) : Except CursorError ℕ :=
  if 0 ≤ delta then
    match Machine.checkedAdd 64 base delta.natAbs with
    | some position => .ok position
    | none => .error (.invalidInput "seek offset overflow")
  else if delta.natAbs ≤ base then .ok (base - delta.natAbs)
  else .error (.invalidInput "seek before file start")

variable (c : FileCursor)

/-- The `read_at` that a call polls: the one that waits, or the one it starts. -/
def reading (remaining : ℕ) : ReadRequest := c.pendingRead.getD ⟨c.position, remaining⟩

def writing (buffer : Octets) : WriteRequest := c.pendingWrite.getD ⟨c.position, buffer⟩

/-- What the file answers to a `read_at`. -/
def served (request : ReadRequest) (count : ℕ) : Octets :=
  (c.content.drop request.offset).take count

/-- What the file holds when bytes have been written; no bytes leave it as long as it was. -/
def stored (offset : ℕ) (bytes : Octets) : Octets :=
  if bytes.isEmpty then c.content else c.content.overwrite offset bytes

def pollRead (remaining : ℕ) (reply : Option (Except Error ℕ)) : FileCursor × Outcome :=
  if remaining = 0 then (c, .delivered [])
  else if c.pendingRead.isNone ∧ 2 ^ 32 ≤ remaining then
    (c, .failed (.invalidInput "out of range integral type conversion attempted"))
  else match reply with
    | none => ({ c with pendingRead := some (c.reading remaining) }, .pending)
    | some (.error error) => ({ c with pendingRead := none }, .failed (.other error))
    | some (.ok count) =>
      let bytes := c.served (c.reading remaining) count
      if remaining < bytes.length then ({ c with pendingRead := none }, .panicked)
      else match Machine.checkedAdd 64 c.position bytes.length with
        | some position => ({ c with pendingRead := none, position }, .delivered bytes)
        | none => ({ c with pendingRead := none }, .failed (.invalidData "read position overflow"))

def pollWrite (buffer : Octets) (reply : Option (Except Error ℕ)) : FileCursor × Outcome :=
  if buffer.isEmpty then (c, .written 0)
  else match reply with
    | none => ({ c with pendingWrite := some (c.writing buffer) }, .pending)
    | some (.error error) => ({ c with pendingWrite := none }, .failed (.other error))
    | some (.ok count) =>
      let request := c.writing buffer
      let content := c.stored request.offset (request.bytes.take count)
      match Machine.checkedAdd 64 c.position count with
      | some position => ({ c with pendingWrite := none, position, content }, .written count)
      | none =>
        ({ c with pendingWrite := none, content }, .failed (.invalidData "write position overflow"))

def seekTo : SeekFrom → Except CursorError ℕ
  | .start position => .ok position.toNat
  | .current delta => seekFrom c.position delta
  | .ending delta => seekFrom c.openedLen delta

def startSeek (target : SeekFrom) : FileCursor × Outcome :=
  if c.pendingRead.isSome ∨ c.pendingWrite.isSome then
    (c, .failed (.invalidInput "cannot seek while cursor I/O is pending"))
  else
    match c.seekTo target with
    | .ok position => ({ c with position }, .sought)
    | .error error => (c, .failed error)

def step : Call → FileCursor × Outcome
  | .pollRead remaining reply => c.pollRead remaining reply
  | .pollWrite buffer reply => c.pollWrite buffer reply
  | .startSeek target => c.startSeek target

/-! ## What a call owes its caller -/

/-- A read delivers what the file holds at the position, a write stores what it was given there, and
both move the position by what they report. -/
def Kept (call : Call) (after : FileCursor × Outcome) : Prop :=
  match call, after.2 with
  | _, .panicked => False
  | .pollRead remaining _, .delivered bytes => bytes.length ≤ remaining ∧
      bytes = (c.content.drop c.position).take bytes.length ∧
      after.1.position = c.position + bytes.length
  | .pollWrite buffer _, .written count => count ≤ (c.writing buffer).bytes.length ∧
      after.1.content = c.stored c.position ((c.writing buffer).bytes.take count) ∧
      after.1.position = c.position + count
  | .startSeek _, .sought => c.pendingRead = none ∧ c.pendingWrite = none
  | _, _ => after.1.position = c.position

/-- The buffer has room for what is served, no more is acknowledged than was written, and the cursor
does not read and write at once. -/
def Apt : Call → Prop
  | .pollRead remaining reply => c.pendingWrite = none ∧
      ∀ count, reply = some (.ok count) → (c.served (c.reading remaining) count).length ≤ remaining
  | .pollWrite buffer reply => c.pendingRead = none ∧
      ∀ count, reply = some (.ok count) → count ≤ (c.writing buffer).bytes.length
  | .startSeek _ => True

/-- What waits was started where the cursor is. -/
structure Steady : Prop where
  read : ∀ request ∈ c.pendingRead, request.offset = c.position
  write : ∀ request ∈ c.pendingWrite, request.offset = c.position

namespace Steady

variable {c} (steady : Steady c)
include steady

theorem reading_offset (remaining : ℕ) : (c.reading remaining).offset = c.position := by
  cases waits : c.pendingRead with
  | none => simp [reading, waits]
  | some request => simpa [reading, waits] using steady.read request waits

theorem writing_offset (buffer : Octets) : (c.writing buffer).offset = c.position := by
  cases waits : c.pendingWrite with
  | none => simp [writing, waits]
  | some request => simpa [writing, waits] using steady.write request waits

end Steady

theorem read_kept {c : FileCursor} (steady : Steady c) {remaining : ℕ}
    {reply : Option (Except Error ℕ)} (apt : Apt c (.pollRead remaining reply)) :
    Kept c (.pollRead remaining reply) (c.pollRead remaining reply) ∧
      Steady (c.pollRead remaining reply).1 := by
  obtain ⟨idle, room⟩ := apt
  have starts := steady.reading_offset remaining
  have ended {position : ℕ} : Steady { c with pendingRead := none, position } :=
    ⟨nofun, by simp [idle]⟩
  unfold pollRead
  split
  · exact ⟨⟨Nat.zero_le _, rfl, rfl⟩, steady⟩
  split
  · exact ⟨rfl, steady⟩
  rcases reply with _ | error | count
  · exact ⟨rfl, by simpa using starts, steady.write⟩
  · exact ⟨rfl, ended⟩
  · have fits := room count rfl
    have bytes : c.served (c.reading remaining) count =
        (c.content.drop c.position).take (c.served (c.reading remaining) count).length := by
      rw [served, starts, List.length_take, ← List.take_eq_take_min]
    simp only [Nat.not_lt.2 fits, if_false]
    split
    · rename_i position added
      obtain ⟨-, rfl⟩ := Machine.checkedAdd_eq_some.1 added
      exact ⟨⟨fits, bytes, rfl⟩, ended⟩
    · exact ⟨rfl, ended⟩

theorem write_kept {c : FileCursor} (steady : Steady c) {buffer : Octets}
    {reply : Option (Except Error ℕ)} (apt : Apt c (.pollWrite buffer reply)) :
    Kept c (.pollWrite buffer reply) (c.pollWrite buffer reply) ∧
      Steady (c.pollWrite buffer reply).1 := by
  obtain ⟨idle, room⟩ := apt
  have starts := steady.writing_offset buffer
  have ended {position : ℕ} {content : Octets} :
      Steady { c with pendingWrite := none, position, content } := ⟨by simp [idle], nofun⟩
  unfold pollWrite
  split
  · exact ⟨⟨Nat.zero_le _, rfl, rfl⟩, steady⟩
  rcases reply with _ | error | count
  · exact ⟨rfl, steady.read, by simpa using starts⟩
  · exact ⟨rfl, ended⟩
  · dsimp only
    rw [starts]
    split
    · rename_i position added
      obtain ⟨-, rfl⟩ := Machine.checkedAdd_eq_some.1 added
      exact ⟨⟨room count rfl, rfl, rfl⟩, ended⟩
    · exact ⟨rfl, ended⟩

theorem seek_kept {c : FileCursor} (steady : Steady c) (target : SeekFrom) :
    Kept c (.startSeek target) (c.startSeek target) ∧ Steady (c.startSeek target).1 := by
  unfold startSeek
  split
  · exact ⟨rfl, steady⟩
  rename_i idle
  simp only [not_or, Option.not_isSome_iff_eq_none] at idle
  split
  · exact ⟨idle, by simp [idle], by simp [idle]⟩
  · exact ⟨rfl, steady⟩

theorem step_kept {c : FileCursor} (steady : Steady c) {call : Call} (apt : Apt c call) :
    Kept c call (c.step call) ∧ Steady (c.step call).1 := by
  cases call with
  | pollRead => exact read_kept steady apt
  | pollWrite => exact write_kept steady apt
  | startSeek target => exact seek_kept steady target

def next (call : Call) : FileCursor := (c.step call).1

/-- **Every call keeps what it owes.** In a run of apt calls on a new cursor, reads deliver the
file's bytes at the position, writes store theirs there, and no result is counted from where a seek
has gone. -/
theorem calls_kept (openedLen : ℕ) (content : Octets) (calls : List Call) (call : Call)
    (apt : Meets next Apt (new openedLen content) (calls ++ [call])) :
    Kept (calls.foldl next (new openedLen content)) call
      ((calls.foldl next (new openedLen content)).step call) := by
  obtain ⟨before, last, -⟩ := Meets.append.1 apt
  have steady := before.invariant (P := Steady) (fun _ _ steady apt => (step_kept steady apt).2)
    ⟨nofun, nofun⟩
  exact (step_kept steady last).1

theorem read_twice_kept :
    Kept (next (new 3 [1, 2, 3]) (.pollRead 2 none)) (.pollRead 4 (some (.ok 2)))
      ((next (new 3 [1, 2, 3]) (.pollRead 2 none)).step (.pollRead 4 (some (.ok 2)))) :=
  calls_kept 3 [1, 2, 3] [.pollRead 2 none] (.pollRead 4 (some (.ok 2)))
    ⟨⟨rfl, by simp⟩, ⟨rfl, by simp [served, reading, next, step, pollRead, new]⟩, trivial⟩

def readThenWritten : FileCursor :=
  [.pollRead 2 none, .pollWrite [7] (some (.ok 1))].foldl next (new 3 [1, 2, 3])

/-- A read that was started for four bytes completes when there is room for one. A write that
completes while a read waits moves the cursor away from what the read delivers. -/
theorem smaller_buffer_panics :
    ((next (new 3 [1, 2, 3]) (.pollRead 4 none)).step (.pollRead 1 (some (.ok 2)))).2 = .panicked ∧
    ¬ Kept readThenWritten (.pollRead 2 (some (.ok 2)))
      (readThenWritten.step (.pollRead 2 (some (.ok 2)))) := by
  refine ⟨rfl, fun kept => ?_⟩
  exact absurd kept.2.1 (by decide)

end FileCursor

end Domain
