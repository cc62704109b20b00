import SmbClient.Msg.Compressed

/-!
# Compressed messages read back

Items are read back one behind the other. A chained message whose first item has the layout of an
unchained header is read as an unchained one.
-/

namespace Msg

open Reading CompressedChainedItem
open Except (bind_eq_ok)

variable {raw before after bytes : Octets} {position width n : ℕ} {checks : Bool}

theorem Reading.number_eof (h : raw.length < position + width) :
    number raw position width = .error .eof := by
  rw [number, Octets.field?, if_neg (by omega)]

/-! ## Items -/

def CompressedChainedItem.Typed (item : CompressedChainedItem) : Prop :=
  item.flags < 2 ^ 16 ∧ ∀ size ∈ item.originalSize, size < 2 ^ 32

namespace CompressedChainedItem

variable {item : CompressedChainedItem}

theorem write_eq_ok : item.write = .ok bytes ↔
    (item.originalSize.isSome = item.compressionAlgorithm.originalSizeRequired ∧
      item.length < 2 ^ 32) ∧ item.header ++ item.payloadData = bytes := by
  unfold write
  split <;> simp_all

theorem length_header
    (h : item.originalSize.isSome = item.compressionAlgorithm.originalSizeRequired) :
    item.header.length = 8 + addOriginalSizeToTotalLength item.compressionAlgorithm := by
  cases hs : item.originalSize <;> simp_all [header, addOriginalSizeToTotalLength]

theorem read_write (checks : Bool) (typed : item.Typed) (h : item.write = .ok bytes)
    (hraw : raw = before ++ (bytes ++ after)) (hroom : raw.length < 2 ^ 64) :
    read checks raw before.length = .ok (item, before.length + bytes.length) := by
  obtain ⟨⟨hsize, hlength⟩, rfl⟩ := write_eq_ok.mp h
  have hheader := length_header hsize
  have hflags : item.flags < 256 ^ 2 := typed.1
  have hfield : readOriginalSize raw (before.length + 8) item.compressionAlgorithm =
      .ok item.originalSize := by
    unfold readOriginalSize
    cases hs : item.originalSize with
    | none => simp_all
    | some size =>
      simp only [header, hs, List.append_assoc] at hraw
      rw [← List.append_assoc, ← List.append_assoc, ← List.append_assoc] at hraw
      rw [← hsize, hs, number_encode (n := size) hraw (by simp) (typed.2 size hs)]
      rfl
  have hlimit : subtract checks item.length
      (addOriginalSizeToTotalLength item.compressionAlgorithm) = .ok item.payloadData.length := by
    rw [length, subtract_of_le (Nat.le_add_left _ _), Nat.add_sub_cancel]
  have hstart : before.length + 8 + addOriginalSizeToTotalLength item.compressionAlgorithm =
      (before ++ item.header).length := by
    rw [List.length_append, hheader]
    omega
  have hdata : (raw.take (((before ++ item.header).length + item.payloadData.length) % 2 ^ 64)).drop
      (before ++ item.header).length = item.payloadData := by
    have hsplit : raw = before ++ item.header ++ item.payloadData ++ after := by simpa using hraw
    rw [Nat.mod_eq_of_lt, ← List.length_append, hsplit, List.take_left, List.drop_left]
    rw [hsplit] at hroom
    simp only [List.length_append] at hroom ⊢
    omega
  simp only [header, List.append_assoc] at hraw
  rw [read, CompressionAlgorithm.read_encode hraw rfl]
  rw [← List.append_assoc] at hraw
  rw [number_encode hraw (by simp) hflags]
  rw [← List.append_assoc] at hraw
  rw [number_encode hraw (by simp) hlength]
  simp only [bind, Except.bind, hfield, hlimit, hstart, hdata, pure, Except.pure]
  rw [List.length_append, List.length_append, Nat.add_assoc]

end CompressedChainedItem

namespace CompressedChainedMessage

theorem readItems_writeItems (checks : Bool) {items : List CompressedChainedItem}
    (typed : ∀ item ∈ items, item.Typed) (h : writeItems items = .ok bytes)
    (hroom : (before ++ bytes).length < 2 ^ 64) :
    readItems checks (before ++ bytes) before.length = .ok items := by
  induction items generalizing before bytes with
  | nil =>
    obtain rfl := Except.ok.inj h
    have heof : CompressedChainedItem.read checks (before ++ []) before.length = .error .eof := by
      rw [CompressedChainedItem.read, CompressionAlgorithm.read, number_eof (by simp)]
      rfl
    rw [readItems]
    split <;> simp_all
  | cons item items ih =>
    simp only [writeItems, bind_eq_ok] at h
    obtain ⟨first, hfirst, rest, hrest, h⟩ := h
    obtain rfl := Except.ok.inj h
    have hread := read_write checks (typed item List.mem_cons_self) hfirst rfl hroom
    rw [← List.append_assoc] at hread hroom ⊢
    have hitems := ih (fun item h => typed item (List.mem_cons_of_mem _ h)) hrest hroom
    rw [List.length_append] at hitems
    rw [readItems]
    split <;> simp_all [Except.map]

theorem length_writeItems {items : List CompressedChainedItem} (h : writeItems items = .ok bytes) :
    (items.map (·.payloadData.length)).sum + items.length * 8 ≤ bytes.length := by
  induction items generalizing bytes with
  | nil => simp
  | cons item items ih =>
    simp only [writeItems, bind_eq_ok] at h
    obtain ⟨first, hfirst, rest, hrest, h⟩ := h
    obtain rfl := Except.ok.inj h
    obtain ⟨⟨hsize, -⟩, rfl⟩ := write_eq_ok.mp hfirst
    have hheader := length_header hsize
    have hitems := ih hrest
    simp only [List.map_cons, List.sum_cons, List.length_cons, List.length_append]
    omega

end CompressedChainedMessage

/-! ## Messages -/

namespace CompressedMessage

variable {m : CompressedMessage}

def Typed : CompressedMessage → Prop
  | .unchained m => m.originalSize < 2 ^ 32
  | .chained m => m.originalSize < 2 ^ 32 ∧ ∀ item ∈ m.items, item.Typed

/-- The first item has an algorithm and no flags, where an unchained header has them. -/
def LooksUnchained : CompressedMessage → Prop
  | .unchained _ => False
  | .chained m => ∃ item ∈ m.items.head?, item.compressionAlgorithm ≠ .none ∧ item.flags = 0

theorem read_unchained_of_chained {m : CompressedChainedMessage} (typed : Typed (.chained m))
    (h : m.write = .ok raw) :
    (∃ message, CompressedUnchainedMessage.read raw = .ok message) ↔
    LooksUnchained (.chained m) := by
  obtain ⟨bytes, hbytes, h⟩ := bind_eq_ok.mp h
  obtain rfl := Except.ok.inj h
  cases hitems : m.items with
  | nil =>
    rw [hitems] at hbytes
    obtain rfl := Except.ok.inj hbytes
    simp [CompressedUnchainedMessage.read, bind_eq_ok, CompressionAlgorithm.read_eq_ok,
      LooksUnchained, hitems, compressedMagic]
  | cons item items =>
    rw [hitems] at hbytes
    simp only [CompressedChainedMessage.writeItems, bind_eq_ok] at hbytes
    obtain ⟨first, hfirst, rest, -, hbytes⟩ := hbytes
    obtain rfl := Except.ok.inj hbytes
    obtain ⟨⟨hsize, hlength⟩, rfl⟩ := write_eq_ok.mp hfirst
    generalize hraw : compressedMagic ++ (Octets.encode 4 m.originalSize ++
      (item.header ++ item.payloadData ++ rest)) = raw
    have hmagic : raw.take 4 = compressedMagic := by
      rw [← hraw]
      rfl
    simp only [header, List.append_assoc] at hraw
    have horiginal : number raw 4 4 = .ok m.originalSize :=
      number_encode hraw.symm rfl typed.1
    rw [← List.append_assoc] at hraw
    have halgorithm : CompressionAlgorithm.read raw 8 = .ok item.compressionAlgorithm :=
      CompressionAlgorithm.read_encode hraw.symm (by simp [compressedMagic])
    rw [← List.append_assoc] at hraw
    have hflags : number raw 10 2 = .ok item.flags :=
      number_encode hraw.symm (by simp [compressedMagic]) (typed.2 item (by simp [hitems])).1
    rw [← List.append_assoc] at hraw
    have hoffset : number raw 12 4 = .ok item.length :=
      number_encode hraw.symm (by simp [compressedMagic]) hlength
    by_cases hnone : item.compressionAlgorithm = .none <;> by_cases hzero : item.flags = 0 <;>
      simp [CompressedUnchainedMessage.read, LooksUnchained, require, bind, Except.bind, pure,
        Except.pure, *]

/-- **Read back is what was written**, unless it looks like an unchained transform. -/
theorem read_write_iff (checks : Bool) (typed : m.Typed) (h : m.write = .ok raw)
    (hroom : raw.length < 2 ^ 64) : read checks raw = .ok m ↔ ¬ m.LooksUnchained := by
  cases m with
  | unchained m =>
    have hread := CompressedUnchainedMessage.read_write typed h
    simp [read, hread, LooksUnchained]
  | chained m =>
    rw [← read_unchained_of_chained typed h]
    obtain ⟨bytes, hbytes, h⟩ := bind_eq_ok.mp h
    obtain rfl := Except.ok.inj h
    rw [← List.append_assoc] at hroom
    have hitems := CompressedChainedMessage.readItems_writeItems checks typed.2 hbytes hroom
    have horiginal : number (compressedMagic ++ (Octets.encode 4 m.originalSize ++ bytes))
      4 4 = .ok m.originalSize := number_encode rfl rfl typed.1
    have hchained : CompressedChainedMessage.read checks
        (compressedMagic ++ (Octets.encode 4 m.originalSize ++ bytes)) = .ok m := by
      rw [List.append_assoc] at hitems
      exact bind_eq_ok.mpr ⟨(), rfl, bind_eq_ok.mpr ⟨_, horiginal, bind_eq_ok.mpr ⟨_, hitems, rfl⟩⟩⟩
    cases hread : CompressedUnchainedMessage.read
        (compressedMagic ++ (Octets.encode 4 m.originalSize ++ bytes)) <;>
      simp [read, hread, hchained, Except.map]

theorem totalSize_iff (h : m.write = .ok raw) :
    m.totalSize = raw.length ↔ ∀ message, m = .chained message → message.items = [] := by
  cases m with
  | unchained m =>
    obtain ⟨-, -, h⟩ := bind_eq_ok.mp h
    obtain rfl := Except.ok.inj h
    simp [totalSize, compressedMagic, CompressedUnchainedMessage.structSize]
    omega
  | chained m =>
    obtain ⟨bytes, hbytes, h⟩ := bind_eq_ok.mp h
    obtain rfl := Except.ok.inj h
    have hlength := CompressedChainedMessage.length_writeItems hbytes
    cases hitems : m.items with
    | nil =>
      rw [hitems] at hbytes
      obtain rfl := Except.ok.inj hbytes
      simp [totalSize, hitems, compressedMagic, CompressedChainedMessage.structSize]
    | cons item items =>
      rw [hitems] at hlength
      simp [totalSize, hitems, compressedMagic, CompressedChainedMessage.structSize] at hlength ⊢
      omega

/-- A message is read back exactly if it does not look like an unchained one; its calculated size is
right exactly if it has no items. -/
theorem compressed_read_back_iff (checks : Bool) (typed : m.Typed) (h : m.write = .ok raw)
    (hroom : raw.length < 2 ^ 64) :
    (read checks raw = .ok m ↔ ¬ m.LooksUnchained) ∧
      (m.totalSize = raw.length ↔ ∀ message, m = .chained message → message.items = []) :=
  ⟨read_write_iff checks typed h hroom, totalSize_iff h⟩

theorem stored_bytes_read_back : read true ([0xFC, 0x53, 0x4D, 0x42] ++ [2, 0, 0, 0] ++
    [0, 0, 1, 0, 2, 0, 0, 0, 10, 20]) = .ok (.chained ⟨2, [⟨.none, 1, none, [10, 20]⟩]⟩) :=
  (compressed_read_back_iff true (m := .chained ⟨2, [⟨.none, 1, none, [10, 20]⟩]⟩)
    ⟨by decide, by simp [CompressedChainedItem.Typed]⟩ rfl (by decide)).1.mpr
    (by simp [LooksUnchained])

def lz4First : CompressedMessage := .chained ⟨1, [⟨.lz4, 0, some 1, [10]⟩]⟩

/-- A chain whose first item has an algorithm and no flags is read as an unchained message without
data.
-/
theorem lz4First_misread : ∃ raw, lz4First.write = .ok raw ∧
    read true raw = .ok (.unchained ⟨1, .lz4, []⟩) ∧ lz4First.totalSize < raw.length :=
  ⟨_, rfl, by decide, by decide⟩

end CompressedMessage

end Msg
