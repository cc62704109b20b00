import SmbClient.Env
import SmbClient.Lib.Run
import SmbClient.Msg.Compressed

/-!
# Subtractions in the reader of a response (`smb-msg/create.rs`, `compressed.rs`)

Two readers subtract from a number they have read: that of a create context and that of an item of a
chained transform. A build with overflow checks panics there when it is too small (`Underflows`,
`panics_iff`).
-/

namespace Msg

/-! ## Create contexts -/

structure ContextReaders where
  name : Octets → ℕ → Bool
  data : Octets → ℕ → Bool

/-- Readers that take every name and all data. -/
def sampleReaders : ContextReaders := ⟨fun _ _ => true, fun _ _ => true⟩

namespace CreateResponse

variable (checks : Bool) (readers : ContextReaders)

/-- Both offsets count from the 4 bytes before the context (`CHAINED_ITEM_PREFIX_SIZE`). -/
def readContext (stream : Octets) (position : ℕ) : Reading Unit := do
  let nameOffset ← Reading.number stream position 2
  let _nameLength ← Reading.number stream (position + 2) 2
  let _reserved ← Reading.number stream (position + 4) 2
  let dataOffset ← Reading.number stream (position + 6) 2
  let _dataLength ← Reading.number stream (position + 8) 4
  let _ ← Reading.subtract checks nameOffset 4
  Reading.require (readers.name stream position)
  let _ ← Reading.subtract checks dataOffset 4
  Reading.require (readers.data stream position)

def readContexts (stream : Octets) (position : ℕ) : Reading Unit :=
  if position % 8 ≠ 0 then .error .refused
  else if _hroom : position + 4 ≤ stream.length then do
    readContext checks readers stream (position + 4)
    if _hlast : stream.field position 4 = 0 then .ok ()
    else readContexts stream (position + stream.field position 4)
  else .error .eof
termination_by stream.length - position
decreasing_by omega

def readFixed (raw : Octets) : Reading (ℕ × ℕ) := do
  let size ← Reading.number raw 64 2
  Reading.require (size = 89)
  let oplockLevel ← Reading.number raw 66 1
  Reading.require (oplockLevel ∈ [0, 1, 8, 9, 255])
  let _flags ← Reading.number raw 67 1
  let createAction ← Reading.number raw 68 4
  Reading.require (createAction ≤ 3)
  -- The times, the sizes, the attributes and the file id.
  let _ ← Reading.number raw 72 72
  let offset ← Reading.number raw 144 4
  Reading.require (offset % 8 = 0)
  let length ← Reading.number raw 148 4
  return (offset, length)

def read (raw : Octets) : Reading Unit := do
  let (offset, length) ← readFixed raw
  if length = 0 then return ()
  else readContexts checks readers (raw.take (offset + length)) offset

end CreateResponse

def Response.panics (checks : Bool) (readers : ContextReaders) (raw : Octets) : Bool :=
  match Header.read raw with
  | some header =>
    header.flags.serverToRedir && decide (header.command = .create) &&
      decide (CreateResponse.read checks readers raw = .error .panicked)
  | none => decide (CompressedMessage.read checks raw = .error .panicked)

/-- `Response::read` of a build with or without overflow checks. -/
def Response.readChecked (env : Env) (checks : Bool) (readers : ContextReaders) (raw : Octets) :
    Reading Response :=
  if Response.panics checks readers raw then .error .panicked
  else match Response.read env raw with
  | none => .error .refused
  | some (.compressed raw) => (CompressedMessage.read checks raw).map fun _ => .compressed raw
  | some response => .ok response

/-! ## Bytes that underflow -/

namespace CompressedChainedItem

def Short (raw : Octets) (position : ℕ) : Prop :=
  position + 12 ≤ raw.length ∧ raw.field (position + 4) 4 < 4 ∧ ∃ algorithm,
    CompressionAlgorithm.ofCode (raw.field position 2) = some algorithm ∧
      algorithm.originalSizeRequired = true

def Follows (raw : Octets) (position next : ℕ) : Prop :=
  ∃ item, read true raw position = .ok (item, next)

variable {checks : Bool} {raw : Octets} {position : ℕ}

variable {algorithm : CompressionAlgorithm}

theorem readOriginalSize_eq_ok : (∃ size, readOriginalSize raw position algorithm = .ok size) ↔
      (algorithm.originalSizeRequired = true → position + 4 ≤ raw.length) := by
  unfold readOriginalSize
  split
  · unfold Reading.number Octets.field?
    split <;> simp_all [Except.map]
  · simp_all

theorem readOriginalSize_ne_panicked :
    readOriginalSize raw position algorithm ≠ .error .panicked := by
  unfold readOriginalSize Reading.number
  split
  · split <;> simp [Except.map]
  · simp

theorem read_eq_panicked :
    read checks raw position = .error .panicked ↔ checks = true ∧ Short raw position := by
  simp only [read, Except.bind_eq_error, CompressionAlgorithm.read_ne_panicked,
    Reading.number_ne_panicked, readOriginalSize_ne_panicked, false_or,
    CompressionAlgorithm.read_eq_ok, Reading.number_eq_ok, Reading.subtract_eq_panicked, pure,
    Except.pure, reduceCtorEq, and_false, exists_const, or_false]
  constructor
  · rintro ⟨algorithm, ⟨-, hcode⟩, _, -, _, ⟨-, rfl⟩, size, hread, hchecks, hshort⟩
    have hroom := readOriginalSize_eq_ok.mp ⟨size, hread⟩
    unfold addOriginalSizeToTotalLength at hshort
    split at hshort
    · rename_i hrequired
      have hroom := hroom hrequired
      exact ⟨hchecks, by omega, hshort, algorithm, hcode, hrequired⟩
    · omega
  · rintro ⟨hchecks, hroom, hshort, algorithm, hcode, hrequired⟩
    obtain ⟨size, hread⟩ := readOriginalSize_eq_ok.mpr fun _ : algorithm.originalSizeRequired =>
      (by omega : position + 8 + 4 ≤ raw.length)
    refine ⟨algorithm, ⟨by omega, hcode⟩, _, ⟨by omega, rfl⟩, _, ⟨by omega, rfl⟩, size, hread,
      hchecks, ?_⟩
    rw [addOriginalSizeToTotalLength, if_pos hrequired]
    exact hshort

end CompressedChainedItem

namespace CompressedChainedMessage

open CompressedChainedItem

theorem readItems_step {checks : Bool} {raw : Octets} {position : ℕ} :
    readItems checks raw position = .error .panicked ↔
      CompressedChainedItem.read checks raw position = .error .panicked ∨
      ∃ item next, CompressedChainedItem.read checks raw position = .ok (item, next) ∧
        readItems checks raw next = .error .panicked := by
  rw [readItems]
  split
  · rename_i heof
    simp [heof]
  · rename_i fault _ hread
    simp [hread]
  · rename_i item next hread
    simp [hread, Reading.map_eq_panicked]

theorem readItems_eq_panicked {checks : Bool} {raw : Octets} {position : ℕ} :
    readItems checks raw position = .error .panicked ↔
      checks = true ∧ Leads (Follows raw) (Short raw) position := by
  induction hleft : raw.length - position using Nat.strong_induction_on generalizing position with
  | h left ih =>
    have hnext : ∀ {item next}, CompressedChainedItem.read checks raw position = .ok (item, next) →
        (readItems checks raw next = .error .panicked ↔
          checks = true ∧ Leads (Follows raw) (Short raw) next) := by
      intro item next hread
      have hforward := read_forward hread
      exact ih _ (by omega) rfl
    rw [readItems_step, read_eq_panicked, leads_iff, and_or_left]
    refine or_congr_right ⟨?_, ?_⟩
    · rintro ⟨item, next, hread, hpanicked⟩
      obtain ⟨rfl, hleads⟩ := (hnext hread).mp hpanicked
      exact ⟨rfl, next, ⟨item, hread⟩, hleads⟩
    · rintro ⟨rfl, next, ⟨item, hread⟩, hleads⟩
      exact ⟨item, next, hread, (hnext hread).mpr ⟨rfl, hleads⟩⟩

end CompressedChainedMessage

def CompressedMessage.Underflows (raw : Octets) : Prop :=
  (∀ message, CompressedUnchainedMessage.read raw ≠ .ok message) ∧ raw.take 4 = compressedMagic ∧
    Leads (CompressedChainedItem.Follows raw) (CompressedChainedItem.Short raw) 8

/-- Reading panics exactly on an underflow, in a build that checks for it. -/
theorem CompressedMessage.read_eq_panicked {checks : Bool} {raw : Octets} :
    read checks raw = .error .panicked ↔ checks = true ∧ Underflows raw := by
  unfold read Underflows
  split
  · rename_i message hread
    simp only [reduceCtorEq, false_iff, not_and]
    exact fun _ hunread => absurd hread (hunread message)
  · rename_i fault hread
    rw [Reading.map_eq_panicked]
    simp only [CompressedChainedMessage.read, Except.bind_eq_error, Reading.require_ne_panicked,
      Reading.number_ne_panicked, CompressedChainedMessage.readItems_eq_panicked, false_or, pure,
      Except.pure, reduceCtorEq, and_false, exists_const, or_false, Reading.number_eq_ok]
    constructor
    · rintro ⟨⟨⟩, hmagic, _, -, hchecks, hleads⟩
      refine ⟨hchecks, ?_, ?_, hleads⟩
      · simp [hread]
      · simpa using Reading.require_eq_ok.mp hmagic
    · rintro ⟨hchecks, -, hmagic, hleads⟩
      have hroom : 4 + 4 ≤ raw.length := by
        rcases leads_iff.mp hleads with ⟨hroom, -⟩ | ⟨next, ⟨item, hitem⟩, -⟩
        · omega
        · have hforward := CompressedChainedItem.read_forward hitem
          omega
      exact ⟨(), Reading.require_eq_ok.mpr (by simpa using hmagic), _, ⟨hroom, rfl⟩,
        hchecks, hleads⟩

namespace CreateResponse

variable {checks : Bool} {readers : ContextReaders} {raw stream : Octets} {position : ℕ}

def Short (readers : ContextReaders) (stream : Octets) (position : ℕ) : Prop :=
  position % 8 = 0 ∧ position + 16 ≤ stream.length ∧
    (stream.field (position + 4) 2 < 4 ∨
      readers.name stream (position + 4) = true ∧ stream.field (position + 10) 2 < 4)

def Follows (readers : ContextReaders) (stream : Octets) (position next : ℕ) : Prop :=
  position % 8 = 0 ∧ position + 4 ≤ stream.length ∧
    readContext true readers stream (position + 4) = .ok () ∧
    0 < stream.field position 4 ∧ next = position + stream.field position 4

theorem readContext_eq_panicked : readContext checks readers stream position = .error .panicked ↔
    checks = true ∧ position + 12 ≤ stream.length ∧ (stream.field position 2 < 4 ∨
      readers.name stream position = true ∧ stream.field (position + 6) 2 < 4) := by
  simp only [readContext, Except.bind_eq_error, Reading.number_ne_panicked,
    Reading.require_ne_panicked, Reading.subtract_eq_panicked, Reading.number_eq_ok, false_or,
    and_false, exists_const, or_false]
  constructor
  · rintro ⟨_, ⟨-, rfl⟩, _, -, _, -, _, ⟨-, rfl⟩, _, ⟨hroom, -⟩, ⟨hchecks, hshort⟩ |
      ⟨_, -, ⟨⟩, hname, hchecks, hshort⟩⟩
    · exact ⟨hchecks, hroom, .inl hshort⟩
    · exact ⟨hchecks, hroom, .inr ⟨Reading.require_eq_ok.mp hname, hshort⟩⟩
  · rintro ⟨hchecks, hroom, hshort⟩
    refine ⟨_, ⟨by omega, rfl⟩, _, ⟨by omega, rfl⟩, _, ⟨by omega, rfl⟩, _, ⟨by omega, rfl⟩, _,
      ⟨by omega, rfl⟩, ?_⟩
    by_cases hname : stream.field position 2 < 4
    · exact .inl ⟨hchecks, hname⟩
    obtain ⟨hread, hdata⟩ := hshort.resolve_left hname
    exact .inr ⟨_, Reading.subtract_of_le (by omega), (), Reading.require_eq_ok.mpr hread, hchecks,
      hdata⟩

theorem readContexts_step :
    readContexts checks readers stream position = .error .panicked ↔
      position % 8 = 0 ∧ position + 4 ≤ stream.length ∧
      (readContext checks readers stream (position + 4) = .error .panicked ∨
        readContext checks readers stream (position + 4) = .ok () ∧ 0 < stream.field position 4 ∧
          readContexts checks readers stream (position + stream.field position 4) =
            .error .panicked) := by
  rw [readContexts]
  by_cases haligned : position % 8 = 0
  · by_cases hroom : position + 4 ≤ stream.length
    · rw [if_neg (by omega), dif_pos hroom, Except.bind_eq_error]
      by_cases hlast : stream.field position 4 = 0
      · simp [hlast, haligned, hroom]
      · simp [hlast, haligned, hroom, Nat.pos_of_ne_zero hlast, Unique.exists_iff]
    · simp [haligned, hroom]
  · simp [haligned]

theorem readContexts_eq_panicked :
    readContexts checks readers stream position = .error .panicked ↔
      checks = true ∧ Leads (Follows readers stream) (Short readers stream) position := by
  induction hleft : stream.length - position using Nat.strong_induction_on
    generalizing position with
  | h left ih =>
    rw [readContexts_step, leads_iff, readContext_eq_panicked]
    constructor
    · rintro ⟨haligned, hroom, ⟨hchecks, hlong, hshort⟩ | ⟨hread, hnext, hpanicked⟩⟩
      · exact ⟨hchecks, .inl ⟨haligned, by omega, hshort⟩⟩
      · obtain ⟨rfl, hleads⟩ := (ih _ (by omega) rfl).mp hpanicked
        exact ⟨rfl, .inr ⟨_, ⟨haligned, hroom, hread, hnext, rfl⟩, hleads⟩⟩
    · rintro ⟨rfl, ⟨haligned, hroom, hshort⟩ | ⟨_, ⟨haligned, hroom, hread, hnext, rfl⟩, hleads⟩⟩
      · exact ⟨haligned, by omega, .inl ⟨rfl, by omega, hshort⟩⟩
      · exact ⟨haligned, hroom, .inr ⟨hread, hnext, (ih _ (by omega) rfl).mpr ⟨rfl, hleads⟩⟩⟩

theorem readFixed_ne_panicked : readFixed raw ≠ .error .panicked := by
  simp [readFixed, Except.bind_eq_error, Reading.number_ne_panicked,
    Reading.require_ne_panicked, pure, Except.pure]

def Underflows (readers : ContextReaders) (raw : Octets) : Prop :=
  ∃ offset length, readFixed raw = .ok (offset, length) ∧ 0 < length ∧
    Leads (Follows readers (raw.take (offset + length)))
      (Short readers (raw.take (offset + length))) offset

theorem read_eq_panicked :
    read checks readers raw = .error .panicked ↔ checks = true ∧ Underflows readers raw := by
  simp only [read, Except.bind_eq_error, readFixed_ne_panicked, false_or, Prod.exists]
  constructor
  · rintro ⟨offset, length, hfixed, h⟩
    split at h
    · cases h
    rename_i hlength
    obtain ⟨hchecks, hleads⟩ := readContexts_eq_panicked.mp h
    exact ⟨hchecks, offset, length, hfixed, Nat.pos_of_ne_zero hlength, hleads⟩
  · rintro ⟨hchecks, offset, length, hfixed, hlength, hleads⟩
    refine ⟨offset, length, hfixed, ?_⟩
    rw [if_neg (Nat.ne_of_gt hlength)]
    exact readContexts_eq_panicked.mpr ⟨hchecks, hleads⟩

end CreateResponse

/-- The bytes in which reading a response subtracts too much. -/
def Response.Underflows (readers : ContextReaders) (raw : Octets) : Prop :=
  (∃ header, Header.read raw = some header ∧ header.flags.serverToRedir = true ∧
    header.command = .create ∧ CreateResponse.Underflows readers raw) ∨
  Header.read raw = none ∧ CompressedMessage.Underflows raw

/-- The same for a response with all it contains. -/
theorem Response.panics_iff {checks : Bool} {readers : ContextReaders} {raw : Octets} :
    Response.panics checks readers raw = true ↔ checks = true ∧
    Response.Underflows readers raw := by
  unfold Response.panics Response.Underflows
  cases Header.read raw with
  | none => simp [CompressedMessage.read_eq_panicked]
  | some header =>
    simp only [Bool.and_eq_true, decide_eq_true_eq, CreateResponse.read_eq_panicked,
      Option.some.injEq, exists_eq_left', reduceCtorEq, false_and]
    tauto

theorem Response.readChecked_eq_panicked {env : Env} {checks : Bool} {readers : ContextReaders}
    {raw : Octets} : Response.readChecked env checks readers raw = .error .panicked ↔
      checks = true ∧ Response.Underflows readers raw := by
  rw [← Response.panics_iff]
  unfold Response.readChecked
  split
  · simp_all
  rename_i calm
  refine iff_of_false ?_ calm
  split
  · simp
  · rename_i compressed read
    obtain ⟨rfl, magic⟩ := Response.read_eq_compressed read
    rw [Reading.map_eq_panicked]
    -- A header has another magic, so that the transform was looked at before.
    have headless : Header.read raw = none := by
      cases header : Header.read raw with
      | none => rfl
      | some _ => exact absurd (magic.symm.trans (Header.read_magic header)) (by decide)
    simpa [Response.panics, headless] using calm
  · simp

end Msg
