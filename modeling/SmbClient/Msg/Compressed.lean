import SmbClient.Lib.Octets

/-!
# Compression transforms (`smb-msg/compressed.rs`, `negotiate.rs`)

One compressed payload behind a transform header, or a chain of payloads with a header each. A
subtraction that underflows panics or wraps, depending on the build.
-/

namespace Msg

variable {raw before after : Octets} {position : ℕ}

/-! ## Readers -/

inductive ReadFault where
  | eof
  | refused
  | panicked
deriving DecidableEq

abbrev Reading (α : Type) : Type := Except ReadFault α

namespace Reading

def number (raw : Octets) (position width : ℕ) : Reading ℕ :=
  match raw.field? position width with
  | some value => .ok value
  | none => .error .eof

def require (condition : Bool) : Reading Unit :=
  if condition then .ok () else .error .refused

/-- The subtraction of two `u64`s: a build with overflow checks panics, another one wraps. -/
def subtract (checks : Bool) (a b : ℕ) : Reading ℕ :=
  if b ≤ a then .ok (a - b)
  else if checks then .error .panicked
  else .ok (a + 2 ^ 64 - b)

end Reading

/-! ## Algorithms -/

inductive CompressionAlgorithm where
  | none
  | lznt1
  | lz77
  | lz77Huffman
  | patternV1
  | lz4
deriving DecidableEq

namespace CompressionAlgorithm

def code : CompressionAlgorithm → ℕ
  | .none => 0
  | .lznt1 => 1
  | .lz77 => 2
  | .lz77Huffman => 3
  | .patternV1 => 4
  | .lz4 => 5

def ofCode (value : ℕ) : Option CompressionAlgorithm :=
  [.none, .lznt1, .lz77, .lz77Huffman, .patternV1, .lz4].find? (·.code = value)

def originalSizeRequired : CompressionAlgorithm → Bool
  | .lznt1 | .lz77 | .lz77Huffman | .lz4 => true
  | .none | .patternV1 => false

def read (raw : Octets) (position : ℕ) : Reading CompressionAlgorithm := do
  match ofCode (← Reading.number raw position 2) with
  | .some algorithm => return algorithm
  | .none => .error .refused

end CompressionAlgorithm

/-! ## Messages -/

def compressedMagic : Octets := [0xFC, 0x53, 0x4D, 0x42]

structure CompressedUnchainedMessage where
  originalSize : ℕ
  compressionAlgorithm : CompressionAlgorithm
  data : Octets
deriving DecidableEq

namespace CompressedUnchainedMessage

def structSize : ℕ := 16

/-- The data starts `offset` bytes behind the header, or is empty if the bytes end before that. -/
def read (raw : Octets) : Reading CompressedUnchainedMessage := do
  Reading.require (raw.take 4 = compressedMagic)
  let originalSize ← Reading.number raw 4 4
  let compressionAlgorithm ← CompressionAlgorithm.read raw 8
  Reading.require (compressionAlgorithm ≠ .none)
  let flags ← Reading.number raw 10 2
  Reading.require (flags = 0)
  let offset ← Reading.number raw 12 4
  return ⟨originalSize, compressionAlgorithm, raw.drop (structSize + offset)⟩

/-- The writer asserts that an algorithm is used. -/
def write (m : CompressedUnchainedMessage) : Reading Octets := do
  Reading.require (m.compressionAlgorithm ≠ .none)
  return compressedMagic ++ (Octets.encode 4 m.originalSize ++
    (Octets.encode 2 m.compressionAlgorithm.code ++ (Octets.encode 2 0 ++
      (Octets.encode 4 0 ++ m.data))))

end CompressedUnchainedMessage

structure CompressedChainedItem where
  compressionAlgorithm : CompressionAlgorithm
  flags : ℕ
  originalSize : Option ℕ
  payloadData : Octets
deriving DecidableEq

namespace CompressedChainedItem

def addOriginalSizeToTotalLength (algorithm : CompressionAlgorithm) : ℕ :=
  if algorithm.originalSizeRequired then 4 else 0

def readOriginalSize (raw : Octets) (position : ℕ) (algorithm : CompressionAlgorithm) :
    Reading (Option ℕ) :=
  if algorithm.originalSizeRequired then (Reading.number raw position 4).map some else .ok none

/-- The item at a position, and the position behind it, which wraps like the subtraction. -/
def read (checks : Bool) (raw : Octets) (position : ℕ) : Reading (CompressedChainedItem × ℕ) := do
  let algorithm ← CompressionAlgorithm.read raw position
  let flags ← Reading.number raw (position + 2) 2
  let length ← Reading.number raw (position + 4) 4
  let originalSize ← readOriginalSize raw (position + 8) algorithm
  let start := position + 8 + addOriginalSizeToTotalLength algorithm
  let limit ← Reading.subtract checks length (addOriginalSizeToTotalLength algorithm)
  let payloadData := (raw.take ((start + limit) % 2 ^ 64)).drop start
  return (⟨algorithm, flags, originalSize, payloadData⟩, start + payloadData.length)

variable (item : CompressedChainedItem)

def length : ℕ :=
  item.payloadData.length + addOriginalSizeToTotalLength item.compressionAlgorithm

def header : Octets :=
  Octets.encode 2 item.compressionAlgorithm.code ++ (Octets.encode 2 item.flags ++
    (Octets.encode 4 item.length ++ (item.originalSize.map (Octets.encode 4)).getD []))

/-- The writer asserts that an original size is there exactly if the algorithm has one. -/
def write : Reading Octets :=
  if item.originalSize.isSome = item.compressionAlgorithm.originalSizeRequired ∧
      item.length < 2 ^ 32 then .ok (item.header ++ item.payloadData)
  else .error .refused

end CompressedChainedItem

structure CompressedChainedMessage where
  originalSize : ℕ
  items : List CompressedChainedItem
deriving DecidableEq

inductive CompressedMessage where
  | unchained (message : CompressedUnchainedMessage)
  | chained (message : CompressedChainedMessage)
deriving DecidableEq

namespace CompressedChainedMessage

def structSize : ℕ := 8

def writeItems : List CompressedChainedItem → Reading Octets
  | [] => .ok []
  | item :: items => do
    let bytes ← item.write
    return bytes ++ (← writeItems items)

def write (m : CompressedChainedMessage) : Reading Octets := do
  return compressedMagic ++ (Octets.encode 4 m.originalSize ++ (← writeItems m.items))

end CompressedChainedMessage

namespace CompressedMessage

def write : CompressedMessage → Reading Octets
  | .unchained m => m.write
  | .chained m => m.write

def totalSize : CompressedMessage → ℕ
  | .unchained m => m.data.length + CompressedUnchainedMessage.structSize
  | .chained m => (m.items.map (·.payloadData.length)).sum + m.items.length * 4 +
      CompressedChainedMessage.structSize

end CompressedMessage

/-! ## Reading a chained message -/

namespace Reading

variable {α β : Type}

variable {x : Reading α}

theorem map_eq_panicked {f : α → β} : x.map f = .error .panicked ↔ x = .error .panicked := by
  cases x <;> simp [Except.map]

theorem number_eq_ok {raw : Octets} {position width n : ℕ} :
    number raw position width = .ok n ↔
      position + width ≤ raw.length ∧ raw.field position width = n := by
  rw [number, ← Octets.field?_eq_some]
  cases raw.field? position width <;> simp

theorem number_encode {raw : Octets} {position width n : ℕ}
    (hraw : raw = before ++ (Octets.encode width n ++ after))
    (hat : before.length = position) (h : n < 256 ^ width) : number raw position width = .ok n := by
  rw [number, hraw, Octets.field?_encode hat h]

theorem number_ne_panicked {raw : Octets} {position width : ℕ} :
    number raw position width ≠ .error .panicked := by
  unfold number
  split <;> simp

theorem require_eq_ok {condition : Bool} : require condition = .ok () ↔ condition = true := by
  unfold require
  split <;> simp_all

theorem require_ne_panicked {condition : Bool} : require condition ≠ .error .panicked := by
  unfold require
  split <;> simp

theorem subtract_eq_panicked {checks : Bool} {a b : ℕ} :
    subtract checks a b = .error .panicked ↔ checks = true ∧ a < b := by
  unfold subtract
  split
  · simp
    omega
  · cases checks <;> simp
    omega

theorem subtract_of_le {checks : Bool} {a b : ℕ} (h : b ≤ a) : subtract checks a b = .ok (a - b) :=
  if_pos h

end Reading

variable {algorithm : CompressionAlgorithm}

theorem CompressionAlgorithm.read_eq_ok : read raw position = .ok algorithm ↔
      position + 2 ≤ raw.length ∧ ofCode (raw.field position 2) = some algorithm := by
  simp only [read, Except.bind_eq_ok, Reading.number_eq_ok]
  constructor
  · rintro ⟨code, ⟨hroom, rfl⟩, h⟩
    split at h
    · rename_i found hfound
      cases h
      exact ⟨hroom, hfound⟩
    · cases h
  · rintro ⟨hroom, h⟩
    refine ⟨_, ⟨hroom, rfl⟩, ?_⟩
    rw [h]
    rfl

theorem CompressionAlgorithm.read_ne_panicked : read raw position ≠ .error .panicked := by
  rw [read, ne_eq, Except.bind_eq_error]
  rintro (h | ⟨code, -, h⟩)
  · exact Reading.number_ne_panicked h
  · split at h <;> cases h

theorem CompressionAlgorithm.ofCode_code (algorithm : CompressionAlgorithm) :
    ofCode algorithm.code = some algorithm := by
  cases algorithm <;> decide

theorem CompressionAlgorithm.read_encode
    (hraw : raw = before ++ (Octets.encode 2 algorithm.code ++ after))
    (hat : before.length = position) : read raw position = .ok algorithm := by
  have hcode : algorithm.code < 256 ^ 2 := by cases algorithm <;> decide
  rw [read, Reading.number_encode hraw hat hcode]
  show (match ofCode algorithm.code with
    | .some algorithm => Except.ok algorithm
    | .none => .error ReadFault.refused) = _
  rw [ofCode_code]

/-- A transform that was written is read back. -/
theorem CompressedUnchainedMessage.read_write {m : CompressedUnchainedMessage}
    (hsize : m.originalSize < 2 ^ 32) (h : m.write = .ok raw) : read raw = .ok m := by
  obtain ⟨used, hused, h⟩ := Except.bind_eq_ok.mp h
  have hraw := (Except.ok.inj h).symm
  have horiginal : Reading.number raw 4 4 = .ok m.originalSize :=
    Reading.number_encode hraw rfl hsize
  rw [← List.append_assoc] at hraw
  have halgorithm : CompressionAlgorithm.read raw 8 = .ok m.compressionAlgorithm :=
    CompressionAlgorithm.read_encode hraw (by simp [compressedMagic])
  rw [← List.append_assoc] at hraw
  have hflags : Reading.number raw 10 2 = .ok 0 :=
    Reading.number_encode hraw (by simp [compressedMagic]) (by decide)
  rw [← List.append_assoc] at hraw
  have hoffset : Reading.number raw 12 4 = .ok 0 :=
    Reading.number_encode hraw (by simp [compressedMagic]) (by decide)
  rw [← List.append_assoc] at hraw
  have hmagic : Reading.require (raw.take 4 = compressedMagic) = .ok () := by
    rw [hraw]
    rfl
  have hdata : raw.drop structSize = m.data := by
    rw [hraw, List.drop_left' (by simp [compressedMagic, structSize])]
  simp only [read, Except.bind_eq_ok]
  refine ⟨(), hmagic, _, horiginal, _, halgorithm, used, hused, _, hflags, (), rfl, _, hoffset, ?_⟩
  rw [Nat.add_zero, hdata]
  rfl

theorem CompressedChainedItem.read_forward {checks : Bool} {next : ℕ}
    {item : CompressedChainedItem} (h : read checks raw position = .ok (item, next)) :
    position + 8 ≤ raw.length ∧ position + 8 ≤ next := by
  simp only [read, Except.bind_eq_ok, Reading.number_eq_ok] at h
  obtain ⟨algorithm, -, flags, -, length, ⟨hroom, -⟩, originalSize, -, limit, -, hresult⟩ := h
  cases hresult
  exact ⟨hroom, by omega⟩

namespace CompressedChainedMessage

/-- `until_eof`: an item that the bytes end before is not one. -/
def readItems (checks : Bool) (raw : Octets) (position : ℕ) :
    Reading (List CompressedChainedItem) :=
  match _hread : CompressedChainedItem.read checks raw position with
  | .error .eof => .ok []
  | .error fault => .error fault
  | .ok (item, next) => (readItems checks raw next).map (item :: ·)
termination_by raw.length - position
decreasing_by
  have hforward := CompressedChainedItem.read_forward _hread
  omega

def read (checks : Bool) (raw : Octets) : Reading CompressedChainedMessage := do
  Reading.require (raw.take 4 = compressedMagic)
  let originalSize ← Reading.number raw 4 4
  return ⟨originalSize, ← readItems checks raw 8⟩

end CompressedChainedMessage

/-- The reader tries the unchained form first. -/
def CompressedMessage.read (checks : Bool) (raw : Octets) : Reading CompressedMessage :=
  match CompressedUnchainedMessage.read raw with
  | .ok message => .ok (.unchained message)
  | .error _ => (CompressedChainedMessage.read checks raw).map .chained

end Msg
