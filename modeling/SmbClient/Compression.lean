import SmbClient.Msg.Underflow
import SmbClient.Transport.Frame

/-!
# Compression (`compression.rs`)

What is sent is compressed with LZ4 in the unchained form; what is received is decompressed in
either form. The LZ4 library is a parameter.
-/

namespace Compression

open Msg
open CompressedUnchainedMessage (structSize)

variable {size : ℕ}

/-- `lz4_flex`: the size an input cannot outgrow, what it is compressed to, and what is written into
a buffer of a size. -/
structure Lz4 where
  maximumOutputSize : ℕ → ℕ
  compress : Octets → Octets
  compressInto : Octets → ℕ → Option Octets
  decompressInto : Octets → ℕ → Option Octets

/-- Decompressing into a buffer of the original size undoes compressing. -/
structure Lz4.Inverts (lz4 : Lz4) : Prop where
  compress (bytes : Octets) : lz4.decompressInto (lz4.compress bytes) bytes.length = some bytes
  compressInto {bytes data : Octets} {size : ℕ} : lz4.compressInto bytes size = some data →
    lz4.decompressInto data bytes.length = some bytes

structure Capabilities where
  compressionAlgorithms : List CompressionAlgorithm
  chained : Bool

inductive CompressionError where
  | unsupportedAlgorithm (algorithm : CompressionAlgorithm)
  | invalidDecompressedMessage
  | invalidCompressedMessage
  | chainedCompressionFailed (why : String)
  | unsupportedCompressionMethod
  | noSupportedCompressionAlgorithm
  | decompressedSizeLimitExceeded (announced maximum : ℕ)
  | lz4CompressError
  | lz4DecompressError
  | patternV1InvalidDecompressedSize
deriving DecidableEq

/-- How decompressing ends without a result. -/
inductive Fault where
  | failed (error : CompressionError)
  | panicked
deriving DecidableEq

variable (lz4 : Lz4)

/-! ## Compressing -/

def Capabilities.compressTransform (caps : Capabilities) (bytes : Octets)
    (reserved : ℕ) : Except CompressionError Octets :=
  if .lz4 ∉ caps.compressionAlgorithms then .error .noSupportedCompressionAlgorithm
  else if 2 ^ 32 ≤ bytes.length then .error .invalidCompressedMessage
  else match Machine.checkedAdd 64 reserved structSize with
  | none => .error .invalidCompressedMessage
  | some headerEnd =>
    match Machine.checkedAdd 64 headerEnd (lz4.maximumOutputSize bytes.length) with
    | none => .error .invalidCompressedMessage
    | some capacity =>
      let output : Octets := List.replicate capacity 0
      match CompressedUnchainedMessage.write ⟨bytes.length, .lz4, []⟩ with
      | .error _ => .error .invalidCompressedMessage
      | .ok header =>
        let output : Octets := output.splice reserved header
        match lz4.compressInto bytes (capacity - headerEnd) with
        | none => .error .lz4CompressError
        | some data => .ok ((output.splice headerEnd data).take (headerEnd + data.length))

def compressPayload (algorithm : CompressionAlgorithm) (data : Octets) :
    Except CompressionError Octets :=
  match algorithm, data with
  | .none, _ => .ok data
  | .patternV1, [] => .error .noSupportedCompressionAlgorithm
  | .patternV1, pattern :: _ =>
    if data.all (· = pattern)
      then .ok ([pattern, 0] ++ Octets.encode 2 0 ++ Octets.encode 4 data.length)
    else .error .noSupportedCompressionAlgorithm
  | .lz4, _ => .ok (lz4.compress data)
  | .lznt1, _ | .lz77, _ | .lz77Huffman, _ => .error (.unsupportedAlgorithm algorithm)

/-- `UnchainedCompression::compress`; LZ4 is the only algorithm in `ALGORITHM_PRIORITY`. -/
def compressUnchained (data : Octets) (algorithms : List CompressionAlgorithm) :
    Except CompressionError CompressedMessage :=
  if .lz4 ∈ algorithms then do
    let compressed ← compressPayload lz4 .lz4 data
    return .unchained ⟨data.length % 2 ^ 32, .lz4, compressed⟩
  else .error .noSupportedCompressionAlgorithm

def compressRemaining (remaining : Octets) (algorithms : List CompressionAlgorithm) :
    CompressedChainedItem :=
  match if .lz4 ∈ algorithms then (compressPayload lz4 .lz4 remaining).toOption.filter
      (·.length < remaining.length) else none with
  | some compressed => ⟨.lz4, 0, some (remaining.length % 2 ^ 32), compressed⟩
  | none =>
    match if .patternV1 ∈ algorithms then (compressPayload lz4 .patternV1 remaining).toOption
      else none with
    | some pattern => ⟨.patternV1, 0, none, pattern⟩
    | none => ⟨.none, 0, none, remaining⟩

def compressChained (data : Octets) (algorithms : List CompressionAlgorithm) :
    Except CompressionError CompressedMessage :=
  if data.length < Header.structSize then .error .invalidCompressedMessage
  else
    let remaining := data.drop Header.structSize
    .ok (.chained ⟨data.length % 2 ^ 32, ⟨.none, 1, none, data.take Header.structSize⟩ ::
      if remaining.isEmpty then [] else [compressRemaining lz4 remaining algorithms]⟩)

def Capabilities.compress (caps : Capabilities) (bytes : Octets) :
    Except CompressionError CompressedMessage :=
  if caps.chained then compressChained lz4 bytes caps.compressionAlgorithms
  else compressUnchained lz4 bytes caps.compressionAlgorithms

/-! ## Decompressing -/

variable (debug : Bool)

/-- `CompressionAlgorithmImpl::decompress`. Debug builds assert that only LZ4 has an original size.
-/
def decompressPayload (algorithm : CompressionAlgorithm) (compressed : Octets)
    (originalSize : Option ℕ) (out : Octets) : Except Fault Octets :=
  match algorithm with
  | .none =>
    if debug && originalSize.isSome then .error .panicked else .ok (out ++ compressed)
  | .patternV1 =>
    if debug && originalSize.isSome then .error .panicked
    else if compressed.length ≠ 8 then .error .panicked
    -- The pattern, three reserved bytes and the number of repetitions.
    else .ok (out ++ List.replicate (compressed.field 4 4) (compressed.headD 0))
  | .lz4 =>
    match originalSize with
    | none => .error (.failed .invalidCompressedMessage)
    | some size =>
      match Machine.checkedAdd 64 out.length size with
      | none => .error (.failed .invalidCompressedMessage)
      | some _ =>
        match lz4.decompressInto compressed size with
        | none => .error (.failed .lz4DecompressError)
        | some bytes =>
          if bytes.length ≠ size then .error (.failed .patternV1InvalidDecompressedSize)
          else .ok (out ++ bytes)
  | .lznt1 | .lz77 | .lz77Huffman => .error (.failed (.unsupportedAlgorithm algorithm))

def decompressUnchained (message : CompressedUnchainedMessage) : Except Fault Octets := do
  let data ← decompressPayload lz4 debug message.compressionAlgorithm message.data
    (some message.originalSize) []
  if data.length ≠ message.originalSize then .error (.failed .invalidDecompressedMessage)
  else return data

def decompressItems (originalSize : ℕ) (data : Octets) :
    List CompressedChainedItem → Except Fault Octets
  | [] => .ok data
  | item :: rest => do
    let next ← decompressPayload lz4 debug item.compressionAlgorithm item.payloadData
      item.originalSize data
    if originalSize < next.length then
      Except.error (.failed (.chainedCompressionFailed "Decompressed size exceeds the expected size"))
    else if item.originalSize.any (next.length - data.length ≠ ·) then
      Except.error (.failed (.chainedCompressionFailed
        "Decompressed size does not match the item expected size"))
    else decompressItems originalSize next rest

def decompressChained (message : CompressedChainedMessage) : Except Fault Octets := do
  if message.originalSize < Header.structSize then .error (.failed .invalidCompressedMessage)
  else
    let data ← decompressItems lz4 debug message.originalSize [] message.items
    if data.length ≠ message.originalSize then
      Except.error (.failed (.chainedCompressionFailed
        "Decompressed size does not match the expected size"))
    else return data

def decompressMessage : CompressedMessage → Except Fault Octets
  | .unchained message => decompressUnchained lz4 debug message
  | .chained message => decompressChained lz4 debug message

def announcedSize : CompressedMessage → ℕ
  | .unchained message => message.originalSize
  | .chained message => message.originalSize

/-- `Decompressor::decompress` up to the bytes. -/
def Capabilities.decompressBytes (caps : Capabilities)
    (original : CompressedMessage) : Except Fault Octets :=
  if Transport.defaultMaxFrameSize < announcedSize original then
    .error (.failed (.decompressedSizeLimitExceeded (announcedSize original)
      Transport.defaultMaxFrameSize))
  else match original with
  | .unchained message => decompressUnchained lz4 debug message
  | .chained message =>
    if caps.chained then decompressChained lz4 debug message
    else .error (.failed .unsupportedCompressionMethod)

/-- The bytes are read as a response, which may be a transform again. -/
def Capabilities.decompress (env : Env) (readers : ContextReaders) (checks : Bool)
    (caps : Capabilities) (original : CompressedMessage) : Except Fault (Response × Octets) := do
  let bytes ← caps.decompressBytes lz4 debug original
  match Response.readChecked env checks readers bytes with
  | .ok response => return (response, bytes)
  | .error .panicked => .error .panicked
  | .error _ => .error (.failed .invalidDecompressedMessage)

/-! ## What was compressed -/

variable {lz4} {debug} {caps : Capabilities}

def unchainedHeader (size : ℕ) : Octets :=
  compressedMagic ++ (Octets.encode 4 size ++ (Octets.encode 2 CompressionAlgorithm.lz4.code ++
    (Octets.encode 2 0 ++ Octets.encode 4 0)))

theorem length_unchainedHeader (size : ℕ) : (unchainedHeader size).length = structSize := by
  simp [unchainedHeader, compressedMagic, structSize]

theorem write_lz4 (size : ℕ) (data : Octets) :
    CompressedUnchainedMessage.write ⟨size, .lz4, data⟩ = .ok (unchainedHeader size ++ data) := by
  rfl

theorem splice_header {reserved room : ℕ} {data : Octets} :
    ((Octets.splice (List.replicate (reserved + structSize + room) 0)
        reserved (unchainedHeader size)).splice (reserved + structSize)
        data).take (reserved + structSize + data.length) =
      List.replicate reserved 0 ++ (unchainedHeader size ++ data) := by
  have hheader := length_unchainedHeader size
  have hfront : (Octets.splice (List.replicate (reserved + structSize +
      room) 0) reserved (unchainedHeader size)).take
      (reserved + structSize) =
      List.replicate reserved 0 ++ unchainedHeader size := by
    rw [← hheader, Octets.take_splice, List.take_replicate, Nat.min_eq_left]
    · omega
    · rw [List.length_replicate]
      omega
  rw [Octets.take_splice, hfront, List.append_assoc]
  rw [Octets.length_splice, List.length_replicate]
  · omega
  · rw [List.length_replicate]
    omega

/-- A transform is built exactly for LZ4, within the widths of the header and of the buffer. -/
theorem compressTransform_eq_ok {bytes output : Octets} {reserved : ℕ} :
    caps.compressTransform lz4 bytes reserved = .ok output ↔
      .lz4 ∈ caps.compressionAlgorithms ∧ bytes.length < 2 ^ 32 ∧
      reserved + structSize + lz4.maximumOutputSize bytes.length < 2 ^ 64 ∧
      ∃ data, lz4.compressInto bytes (lz4.maximumOutputSize bytes.length) = some data ∧
        output = List.replicate reserved 0 ++ (unchainedHeader bytes.length ++ data) := by
  constructor
  · intro h
    unfold Capabilities.compressTransform at h
    split at h
    · cases h
    rename_i hmem
    split at h
    · cases h
    rename_i hsize
    split at h
    · cases h
    rename_i headerEnd hend
    obtain ⟨-, rfl⟩ := Machine.checkedAdd_eq_some.mp hend
    split at h
    · cases h
    rename_i capacity hcapacity
    obtain ⟨hfits, rfl⟩ := Machine.checkedAdd_eq_some.mp hcapacity
    simp only [write_lz4, List.append_nil, Nat.add_sub_cancel_left] at h
    split at h
    · cases h
    rename_i data hdata
    rw [splice_header] at h
    exact ⟨not_not.mp hmem, Nat.lt_of_not_le hsize, hfits, data, hdata, (Except.ok.inj h).symm⟩
  · rintro ⟨hmem, hsize, hfits, data, hdata, rfl⟩
    have hend : Machine.checkedAdd 64 reserved structSize = some (reserved + structSize) :=
      Machine.checkedAdd_eq_some.mpr ⟨by omega, rfl⟩
    have hcapacity := Machine.checkedAdd_eq_some.mpr ⟨hfits, rfl⟩
    rw [Capabilities.compressTransform, if_neg (not_not.mpr hmem),
      if_neg (Nat.not_le.mpr hsize), hend]
    dsimp only
    rw [hcapacity]
    simp only [write_lz4, List.append_nil, Nat.add_sub_cancel_left, hdata]
    rw [splice_header]

theorem read_unchainedHeader (checks : Bool) (hsize : size < 2 ^ 32) (data : Octets) :
    CompressedMessage.read checks (unchainedHeader size ++ data) =
      .ok (.unchained ⟨size, .lz4, data⟩) := by
  have hread := CompressedUnchainedMessage.read_write hsize (write_lz4 size data)
  rw [CompressedMessage.read, hread]

theorem decompressPayload_lz4 {bytes data out : Octets} (hroom : out.length + bytes.length < 2 ^ 64)
    (hdata : lz4.decompressInto data bytes.length = some bytes) :
    decompressPayload lz4 debug .lz4 data (some bytes.length) out = .ok (out ++ bytes) := by
  have hend := Machine.checkedAdd_eq_some.mpr ⟨hroom, rfl⟩
  simp only [decompressPayload, hend, hdata, ne_eq, not_true_eq_false, if_false]

/-- What was compressed comes back, up to the limit on its size. -/
theorem decompress_compressed (hlz4 : lz4.Inverts) {bytes data : Octets}
    (hsize : bytes.length < 2 ^ 32) (hdata : lz4.compressInto bytes size = some data) :
    caps.decompressBytes lz4 debug (.unchained ⟨bytes.length, .lz4, data⟩) =
      if Transport.defaultMaxFrameSize < bytes.length then
        .error (.failed (.decompressedSizeLimitExceeded bytes.length Transport.defaultMaxFrameSize))
      else .ok bytes := by
  rw [Capabilities.decompressBytes]
  refine if_congr Iff.rfl rfl ?_
  rw [decompressUnchained,
    decompressPayload_lz4 (by rw [List.length_nil]; omega) (hlz4.compressInto hdata)]
  exact if_neg (not_not.mpr rfl)

def storing : Lz4 where
  maximumOutputSize n := n
  compress bytes := bytes
  compressInto bytes size := if bytes.length ≤ size then some bytes else none
  decompressInto data size := if data.length ≤ size then some data else none

theorem storing_inverts : storing.Inverts where
  compress bytes := if_pos (Nat.le_refl _)
  compressInto {bytes data size} h := by
    unfold storing at h ⊢
    dsimp only at h ⊢
    split at h
    · cases h
      exact if_pos (Nat.le_refl _)
    · cases h

end Compression
