import SmbClient.Resource.FileIo

/-!
# What the read and write loops deliver

`write_all_at` submits one chunk for each acknowledged count, from where the counts before it end:
the whole buffer when no count exceeds the maximum (`starts_cover`), not otherwise (`starts_gap`).
-/

namespace Resource

open Msg

/-! ## Reading -/

/-- READs are answered with the bytes of the file from the requested offset on, however many. -/
def FileWire.Serves (wire : FileWire) (content : Octets) : Prop :=
  ∀ n request reply data, wire.read n request = .ok reply → reply.data = .ok data →
    data <+: content.drop request.offset

theorem prefix_append_of_drop {α : Type} {l l₁ l₂ : List α} (h₁ : l₁ <+: l)
    (h₂ : l₂ <+: l.drop l₁.length) : l₁ ++ l₂ <+: l := by
  obtain ⟨rest, rfl⟩ := h₁
  rw [List.drop_left] at h₂
  exact (List.prefix_append_right_inj l₁).mpr h₂

namespace File

variable {file : File} {wire : FileWire} {content : Octets} {offset length n : ℕ}
variable {maxLen : ℕ} {data : Octets}

theorem readBlockBytes_eq_ok :
    (file.readBlockBytes wire n maxLen offset).result = .ok data ↔
      maxLen = 0 ∧ data = [] ∨ 0 < maxLen ∧ file.readData = true ∧
        ∃ fileId reply, wire.fileId n = .ok fileId ∧
          wire.read n ⟨file.readFlags false, maxLen, offset, fileId, 1⟩ = .ok reply ∧
          reply.data = .ok data := by
  by_cases hmax : maxLen = 0
  · simp only [readBlockBytes, hmax, if_true, Except.ok.injEq, true_and, Nat.lt_irrefl, false_and,
      or_false]
    exact eq_comm
  have hpos : 0 < maxLen := Nat.pos_of_ne_zero hmax
  cases hpermitted : file.readData
  · simp [readBlockBytes, hmax, hpermitted]
  cases hfileId : wire.fileId n
  · simp [readBlockBytes, hmax, hpermitted, hfileId]
  · simp [readBlockBytes, hmax, hpos, hpermitted, hfileId, Except.bind_eq_ok]

theorem readBlockBytes_serves (hserves : wire.Serves content)
    (h : (file.readBlockBytes wire n maxLen offset).result = .ok data) :
    data <+: content.drop offset := by
  rcases readBlockBytes_eq_ok.mp h with ⟨-, rfl⟩ | ⟨-, -, fileId, reply, -, hreply, hdata⟩
  · exact List.nil_prefix
  · exact hserves n _ reply data hreply hdata

theorem readAt_serves (hserves : wire.Serves content)
    (h : (file.readAt wire n offset maxLen).result = .ok data) : data <+: content.drop offset := by
  unfold readAt at h
  split at h
  · cases h
  · exact readBlockBytes_serves hserves h

theorem readAt_requests_length (file : File) (wire : FileWire) (n offset maxLen : ℕ) :
    (file.readAt wire n offset maxLen).requests.length ≤ 1 := by
  unfold readAt readBlockBytes
  (repeat' split) <;> simp

/-- What is read is the file's content, as long as was asked for. -/
theorem readExactLoop_reads (hserves : wire.Serves content) {result : Octets}
    (hresult : result <+: content.drop offset) (hlength : result.length ≤ length)
    (h : (file.readExactLoop wire offset length n result).result = .ok data) :
    data <+: content.drop offset ∧ data.length = length := by
  fun_induction File.readExactLoop file wire offset length n result with
  | case1 => cases h
  | case2 => cases h
  | case3 => cases h
  | case4 => cases h
  | case5 n result _ position hposition remaining read bytes hread _ hfits ih =>
    obtain ⟨-, rfl⟩ := Machine.checkedAdd_eq_some.mp hposition
    have hbytes : bytes <+: (content.drop offset).drop result.length := by
      rw [List.drop_drop]
      exact readAt_serves hserves hread
    refine ih (prefix_append_of_drop hresult hbytes) ?_ h
    rw [List.length_append]
    omega
  | case6 n result hdone =>
    cases h
    exact ⟨hresult, by omega⟩

theorem readExactLoop_requests_length (file : File) (wire : FileWire) (offset length n : ℕ)
    (result : Octets) :
    (file.readExactLoop wire offset length n result).requests.length ≤ length - result.length := by
  have hone := readAt_requests_length file wire
  fun_induction File.readExactLoop file wire offset length n result with
  | case1 | case6 => exact Nat.zero_le _
  | case2 n result _ position _ remaining read _ _
  | case3 n result _ position _ remaining read _ _ _
  | case4 n result _ position _ remaining read _ _ _ _ =>
    have := hone n position (min remaining file.maximumReadSize)
    simp only [read]
    omega
  | case5 n result _ position _ remaining read bytes _ _ hfits ih =>
    have := hone n position (min remaining file.maximumReadSize)
    simp only [Performed.after, List.length_append, read] at ih ⊢
    omega

theorem readExactAt_reads (hserves : wire.Serves content)
    (h : (file.readExactAt wire offset length).result = .ok data) :
    data = (content.drop offset).take length ∧ data.length = length := by
  suffices hall : data <+: content.drop offset ∧ data.length = length by
    obtain ⟨hbegins, hlength⟩ := hall
    rw [← hlength]
    exact ⟨List.prefix_iff_eq_take.mp hbegins, rfl⟩
  unfold readExactAt at h
  split at h
  · rename_i hzero
    cases h
    exact ⟨List.nil_prefix, hzero.symm⟩
  dsimp only at h
  split at h
  · cases h
  rename_i bytes hbytes
  split at h
  · rename_i hlength
    cases h
    exact ⟨readAt_serves hserves hbytes, hlength⟩
  split at h
  · cases h
  split at h
  · cases h
  rename_i hshort
  exact readExactLoop_reads hserves (readAt_serves hserves hbytes) (Nat.le_of_not_lt hshort) h

theorem readExactAt_requests_length :
    (file.readExactAt wire offset length).requests.length ≤ length := by
  have hfirst := readAt_requests_length file wire 0 offset (min length file.maximumReadSize)
  fun_cases File.readExactAt file wire offset length with
  | case1 => exact Nat.zero_le length
  | case2 hpos first | case3 hpos first | case4 hpos first | case5 hpos first =>
    simp only [first]
    omega
  | case6 hpos first bytes =>
    have hloop := readExactLoop_requests_length file wire offset length 1 bytes
    simp only [Performed.after, List.length_append, first]
    omega

end File

/-! ## Writing -/

structure FileWire.Acknowledges (wire : FileWire) (n count : ℕ) : Prop where
  remaining : wire.remaining n = .ok ()
  fileId : ∃ fileId, wire.fileId n = .ok fileId
  count : (wire.write n >>= WriteReply.count) = .ok count

def FileWire.Counts (wire : FileWire) (offset n written : ℕ) (counts : List ℕ) : Prop :=
  ∀ i count, counts[i]? = some count → 0 < count ∧ wire.Acknowledges (n + i) count ∧
    offset + (written + (counts.take i).sum) < 2 ^ 64

theorem FileWire.counts_cons {wire : FileWire} {offset n written count : ℕ} {counts : List ℕ} :
    wire.Counts offset n written (count :: counts) ↔
      (0 < count ∧ wire.Acknowledges n count ∧ offset + written < 2 ^ 64) ∧
        wire.Counts offset (n + 1) (written + count) counts := by
  constructor
  · intro h
    refine ⟨by simpa using h 0 count rfl, fun i c hc => ?_⟩
    obtain ⟨hpos, hack, hoffset⟩ := h (i + 1) c hc
    rw [List.take_succ_cons, List.sum_cons] at hoffset
    exact ⟨hpos, by rwa [Nat.add_right_comm], by omega⟩
  · rintro ⟨hfirst, hrest⟩ i c hc
    cases i with
    | zero =>
      cases hc
      simpa using hfirst
    | succ i =>
      obtain ⟨hpos, hack, hoffset⟩ := hrest i c hc
      rw [List.take_succ_cons, List.sum_cons]
      exact ⟨hpos, by rwa [Nat.add_right_comm] at hack, by omega⟩

namespace File

variable {file : File} {wire : FileWire} {bytes : Octets} {offset n written : ℕ} {counts : List ℕ}
variable {count : ℕ}

def starts (written : ℕ) : List ℕ → List ℕ
  | [] => []
  | count :: counts => written :: starts (written + count) counts

theorem starts_of_mem {start : ℕ} (h : start ∈ starts written counts) : written ≤ start := by
  induction counts generalizing written with
  | nil => cases h
  | cons count counts ih =>
    rcases List.mem_cons.mp h with rfl | hlater
    · exact Nat.le_refl start
    · have := ih hlater
      omega

/-- Chunks of the right size cover every byte. -/
theorem starts_cover {maximum i : ℕ} (hcounts : ∀ count ∈ counts, count ≤ maximum)
    (hle : written ≤ i) (hlt : i < written + counts.sum) :
    ∃ start ∈ starts written counts, start ≤ i ∧ i < start + maximum := by
  induction counts generalizing written with
  | nil =>
    rw [List.sum_nil] at hlt
    omega
  | cons count counts ih =>
    rw [List.sum_cons] at hlt
    by_cases hfirst : i < written + count
    · have := hcounts count List.mem_cons_self
      exact ⟨written, List.mem_cons_self, hle, by omega⟩
    · obtain ⟨start, hstart, hrange⟩ :=
        ih (fun c hc => hcounts c (List.mem_cons_of_mem count hc)) (Nat.le_of_not_lt hfirst)
          (by omega)
      exact ⟨start, List.mem_cons_of_mem written hstart, hrange⟩

/-- A count above the maximum leaves a byte uncovered. -/
theorem starts_gap {maximum : ℕ} (hcount : count ∈ counts) (hlarge : maximum < count) :
    ∃ i, written + maximum ≤ i ∧ i < written + counts.sum ∧
      ∀ start ∈ starts written counts, ¬ (start ≤ i ∧ i < start + maximum) := by
  induction counts generalizing written with
  | nil => cases hcount
  | cons first counts ih =>
    rw [List.sum_cons]
    by_cases hfirst : maximum < first
    · refine ⟨written + maximum, Nat.le_refl _, by omega, fun start hstart => ?_⟩
      rcases List.mem_cons.mp hstart with rfl | hlater
      · omega
      · have := starts_of_mem hlater
        omega
    · rcases List.mem_cons.mp hcount with rfl | hlater
      · exact absurd hlarge hfirst
      · obtain ⟨i, hle, hlt, hgap⟩ := @ih (written + first) hlater
        refine ⟨i, by omega, by omega, fun start hstart => ?_⟩
        rcases List.mem_cons.mp hstart with rfl | hstart
        · omega
        · exact hgap start hstart

theorem chunk_ne_nil (h : file.chunk bytes written ≠ []) : 0 < file.maximumWriteSize := by
  unfold chunk at h
  rw [← List.length_pos_iff, List.length_take] at h
  omega

theorem chunk_of_pos (hleft : written < bytes.length) (hpos : 0 < file.maximumWriteSize) :
    file.chunk bytes written ≠ [] := by
  unfold chunk
  rw [← List.length_pos_iff, List.length_take, List.length_drop]
  omega

theorem writeAt_ok {buf : Octets} (h : (file.writeAt wire n offset buf).result = .ok count)
    (hcount : 0 < count) :
    buf ≠ [] ∧ file.writeData = true ∧ wire.Acknowledges n count := by
  unfold writeAt at h
  split at h
  · cases h
  rename_i hremaining
  unfold writeBlock at h
  split at h
  · cases h
    exact absurd hcount (Nat.lt_irrefl 0)
  rename_i hbuf
  split at h
  · cases h
  rename_i hpermitted
  split at h
  · cases h
  rename_i fileId hfileId
  exact ⟨hbuf, by simpa using hpermitted, hremaining, ⟨fileId, hfileId⟩, h⟩

theorem writeAt_of_acknowledges {buf : Octets} (offset : ℕ) (hbuf : buf ≠ [])
    (hpermitted : file.writeData = true) (hack : wire.Acknowledges n count) :
    ∃ fileId, file.writeAt wire n offset buf =
      ⟨[⟨offset, fileId, buf.length % 2 ^ 32, buf⟩], .ok count⟩ := by
  obtain ⟨hremaining, ⟨fileId, hfileId⟩, hcount⟩ := hack
  refine ⟨fileId, ?_⟩
  unfold writeAt writeBlock
  simp [hremaining, hbuf, hpermitted, hfileId, hcount]

/-- A write succeeds when the acknowledged counts add up. -/
theorem writeAllLoop_ok (hwritten : written ≤ bytes.length)
    (h : (file.writeAllLoop wire offset bytes n written).result = .ok ()) :
    ∃ counts, wire.Counts offset n written counts ∧ written + counts.sum = bytes.length ∧
      (counts ≠ [] → file.writeData = true ∧ 0 < file.maximumWriteSize) := by
  fun_induction File.writeAllLoop file wire offset bytes n written with
  | case1 | case2 | case3 | case4 => cases h
  | case5 n written hleft position hposition write count hwrite hcount hfits ih =>
    obtain ⟨hoffset, rfl⟩ := Machine.checkedAdd_eq_some.mp hposition
    obtain ⟨counts, hcounts, hsum, -⟩ := ih (by omega) h
    obtain ⟨hbuf, hpermitted, hack⟩ := writeAt_ok hwrite (Nat.pos_of_ne_zero hcount)
    refine ⟨count :: counts, FileWire.counts_cons.mpr
      ⟨⟨Nat.pos_of_ne_zero hcount, hack, hoffset⟩, hcounts⟩, ?_, fun _ => ⟨hpermitted,
        chunk_ne_nil hbuf⟩⟩
    rw [List.sum_cons]
    omega
  | case6 n written hdone =>
    refine ⟨[], fun i count hcount => ?_, ?_, fun h => absurd rfl h⟩
    · cases hcount
    · rw [List.sum_nil]
      omega

theorem writeAllLoop_requests (hpermitted : file.writeData = true)
    (hpos : 0 < file.maximumWriteSize) (hcounts : wire.Counts offset n written counts)
    (hsum : written + counts.sum = bytes.length) :
    (file.writeAllLoop wire offset bytes n written).result = .ok () ∧
      (file.writeAllLoop wire offset bytes n written).requests.map
          (fun request => (request.offset, request.data)) =
        (starts written counts).map fun start => (offset + start, file.chunk bytes start) := by
  induction counts generalizing n written with
  | nil =>
    have hdone : ¬ written < bytes.length := by
      rw [List.sum_nil] at hsum
      omega
    unfold writeAllLoop
    simp [hdone, starts]
  | cons count counts ih =>
    obtain ⟨⟨hcount, hack, hoffset⟩, hcounts⟩ := FileWire.counts_cons.mp hcounts
    rw [List.sum_cons] at hsum
    obtain ⟨hresult, hrequests⟩ := ih hcounts (by omega)
    have hleft : written < bytes.length := by omega
    have hposition : Machine.checkedAdd 64 offset written = some (offset + written) :=
      Machine.checkedAdd_eq_some.mpr ⟨hoffset, rfl⟩
    obtain ⟨fileId, hwrite⟩ := writeAt_of_acknowledges (offset + written)
      (chunk_of_pos hleft hpos) hpermitted hack
    have hfits : ¬ bytes.length - written < count := by omega
    unfold writeAllLoop
    simp only [hleft, hposition, hwrite, hfits, Nat.pos_iff_ne_zero.mp hcount, Performed.after]
    exact ⟨hresult, by simp [starts, hrequests]⟩

/-! ## The three operations -/

def Submitted (requests : List WriteRequest) (offset : ℕ) (bytes : Octets) : Prop :=
  ∀ i byte, bytes[i]? = some byte →
    ∃ request ∈ requests, ∃ j, request.offset + j = offset + i ∧ request.data[j]? = some byte

def Overacknowledged (file : File) (wire : FileWire) (offset : ℕ) (bytes : Octets) : Prop :=
  file.writeData = true ∧ 0 < file.maximumWriteSize ∧
    ∃ counts, wire.Counts offset 0 0 counts ∧ counts.sum = bytes.length ∧
      ∃ count ∈ counts, file.maximumWriteSize < count

theorem getElem?_chunk {start i : ℕ} (hle : start ≤ i) (hlt : i < start + file.maximumWriteSize) :
    (file.chunk bytes start)[i - start]? = bytes[i]? := by
  unfold chunk
  rw [List.getElem?_take_of_lt (by omega), List.getElem?_drop]
  congr 1
  omega

theorem writeAllAt_submits (hnot : ¬ Overacknowledged file wire offset bytes)
    (h : (file.writeAllAt wire offset bytes).result = .ok ()) :
    Submitted (file.writeAllAt wire offset bytes).requests offset bytes := by
  intro i byte hbyte
  obtain ⟨counts, hcounts, hsum, hpermitted⟩ := writeAllLoop_ok (Nat.zero_le _) h
  rw [Nat.zero_add] at hsum
  have hi : i < bytes.length := (List.getElem?_eq_some_iff.mp hbyte).1
  have hne : counts ≠ [] := by
    rintro rfl
    rw [List.sum_nil] at hsum
    omega
  obtain ⟨hpermitted, hpos⟩ := hpermitted hne
  have hsmall : ∀ count ∈ counts, count ≤ file.maximumWriteSize := by
    intro count hcount
    apply Nat.le_of_not_lt
    intro hlarge
    exact hnot ⟨hpermitted, hpos, counts, hcounts, hsum, count, hcount, hlarge⟩
  obtain ⟨start, hstart, hle, hlt⟩ := starts_cover hsmall (Nat.zero_le i) (by omega)
  have hrequests := (writeAllLoop_requests hpermitted hpos hcounts (by omega : 0 + counts.sum =
    bytes.length)).2
  have hmem : (offset + start, file.chunk bytes start) ∈
      (file.writeAllAt wire offset bytes).requests.map fun request =>
        (request.offset, request.data) := by
    unfold writeAllAt
    rw [hrequests]
    exact List.mem_map_of_mem hstart
  obtain ⟨request, hrequest, hfields⟩ := List.mem_map.mp hmem
  obtain ⟨hoffset, hdata⟩ := Prod.mk.inj hfields
  refine ⟨request, hrequest, i - start, by omega, ?_⟩
  rw [hdata, getElem?_chunk hle hlt, hbyte]

theorem writeAllAt_leaves_out (hacks : Overacknowledged file wire offset bytes) :
    (file.writeAllAt wire offset bytes).result = .ok () ∧
      ¬ Submitted (file.writeAllAt wire offset bytes).requests offset bytes := by
  obtain ⟨hpermitted, hpos, counts, hcounts, hsum, count, hcount, hlarge⟩ := hacks
  obtain ⟨hresult, hrequests⟩ := writeAllLoop_requests hpermitted hpos hcounts
    (by omega : 0 + counts.sum = bytes.length)
  refine ⟨hresult, fun hsubmitted => ?_⟩
  obtain ⟨i, -, hlt, hgap⟩ := @starts_gap 0 counts _ _ hcount hlarge
  have hi : i < bytes.length := by omega
  obtain ⟨request, hrequest, j, hoffset, hdata⟩ :=
    hsubmitted i bytes[i] (List.getElem?_eq_getElem hi)
  have hmem : (request.offset, request.data) ∈
      (starts 0 counts).map fun start => (offset + start, file.chunk bytes start) := by
    rw [← hrequests]
    exact List.mem_map_of_mem hrequest
  obtain ⟨start, hstart, hfields⟩ := List.mem_map.mp hmem
  obtain ⟨hstarts, hchunk⟩ := Prod.mk.inj hfields
  have hj : j < file.maximumWriteSize := by
    have hlength := (List.getElem?_eq_some_iff.mp hdata).1
    rw [← hchunk] at hlength
    unfold chunk at hlength
    rw [List.length_take] at hlength
    omega
  exact hgap start hstart (by omega)

theorem writeAllLoop_requests_length (file : File) (wire : FileWire) (offset : ℕ) (bytes : Octets)
    (n written : ℕ) :
    (file.writeAllLoop wire offset bytes n written).requests.length ≤ bytes.length - written := by
  have hone : ∀ n offset buf, (file.writeAt wire n offset buf).requests.length ≤ 1 := by
    intro n offset buf
    unfold writeAt writeBlock
    (repeat' split) <;> simp
  fun_induction File.writeAllLoop file wire offset bytes n written with
  | case1 | case6 => exact Nat.zero_le _
  | case2 n written _ position _ write | case3 n written _ position _ write
  | case4 n written _ position _ write =>
    have := hone n position (file.chunk bytes written)
    simp only [write]
    omega
  | case5 n written _ position _ write count _ _ _ ih =>
    have := hone n position (file.chunk bytes written)
    simp only [Performed.after, List.length_append, write] at ih ⊢
    omega

def Overlong (file : File) (wire : FileWire) (offset : ℕ) (buffer : Octets) : Prop :=
  wire.remaining 0 = .ok () ∧ buffer.length < 2 ^ 32 ∧ file.readData = true ∧
    0 < min buffer.length file.maximumReadSize ∧
    ∃ fileId reply data, wire.fileId 0 = .ok fileId ∧
      wire.read 0 ⟨file.readFlags false, min buffer.length file.maximumReadSize, offset,
        fileId, 1⟩ =
        .ok reply ∧
      reply.data = .ok data ∧ buffer.length < data.length

theorem readAtInto_panicked_iff {buffer : Octets} :
    file.readAtInto wire offset buffer = .panicked ↔ Overlong file wire offset buffer := by
  constructor
  · intro h
    unfold readAtInto at h
    split at h
    · cases h
    rename_i hremaining
    split at h
    · cases h
    rename_i hsize
    split at h
    · cases h
    rename_i data hread
    split at h
    · rename_i hlong
      rcases readBlockBytes_eq_ok.mp hread with ⟨-, rfl⟩ | ⟨hpos, hpermitted, fileId, reply, hrest⟩
      · exact absurd hlong (Nat.not_lt_zero _)
      · exact ⟨hremaining, Nat.lt_of_not_le hsize, hpermitted, hpos, fileId, reply, data, hrest.1,
          hrest.2.1, hrest.2.2, hlong⟩
    · cases h
  · rintro ⟨hremaining, hsize, hpermitted, hpos, fileId, reply, data, hfileId, hreply, hdata, hlong⟩
    have hread := readBlockBytes_eq_ok.mpr
      (.inr ⟨hpos, hpermitted, fileId, reply, hfileId, hreply, hdata⟩)
    simp only [readAtInto, hremaining, Nat.not_le.mpr hsize, hread, hlong, if_true, if_false]

theorem readAtInto_count_le {buffer after : Octets}
    (h : file.readAtInto wire offset buffer = .returned (.ok count) after) :
    count ≤ buffer.length := by
  unfold readAtInto at h
  split at h
  · cases h
  split at h
  · cases h
  split at h
  · cases h
  split at h
  · cases h
  rename_i hfits
  cases h
  exact Nat.le_of_not_lt hfits

/-- This fails exactly for a server that acknowledges more than a WRITE holds and still adds up to
the buffer, or that answers a READ with more than the buffer holds. -/
theorem positioned_io_iff (file : File) (wire : FileWire) (content : Octets) (offset length : ℕ)
    (bytes buffer : Octets) (hserves : wire.Serves content) :
    ((∀ data, (file.readExactAt wire offset length).result = .ok data →
        data = (content.drop offset).take length ∧ data.length = length) ∧
      ((file.writeAllAt wire offset bytes).result = .ok () →
        Submitted (file.writeAllAt wire offset bytes).requests offset bytes) ∧
      (file.readAtInto wire offset buffer ≠ .panicked ∧
        ∀ count after, file.readAtInto wire offset buffer = .returned (.ok count) after →
          count ≤ buffer.length) ∧
      (file.readExactAt wire offset length).requests.length ≤ length ∧
      (file.writeAllAt wire offset bytes).requests.length ≤ bytes.length) ↔
    ¬ Overacknowledged file wire offset bytes ∧ ¬ Overlong file wire offset buffer := by
  constructor
  · rintro ⟨-, hwrite, ⟨hpanic, -⟩, -, -⟩
    refine ⟨fun hacks => ?_, fun hlong => hpanic (readAtInto_panicked_iff.mpr hlong)⟩
    obtain ⟨hresult, hmissing⟩ := writeAllAt_leaves_out hacks
    exact hmissing (hwrite hresult)
  · rintro ⟨hacks, hlong⟩
    exact ⟨fun data h => readExactAt_reads hserves h, fun h => writeAllAt_submits hacks h,
      ⟨fun h => hlong (readAtInto_panicked_iff.mp h), fun count after h => readAtInto_count_le h⟩,
      readExactAt_requests_length, writeAllLoop_requests_length file wire offset bytes 0 0⟩

def sample : File := ⟨true, true, 4, 4, false, .smb0311⟩

/-- A file of eight bytes behind answers of four, and a server that takes `count` for every WRITE.
-/
def acknowledging (count : ℕ) : FileWire where
  remaining _ := .ok ()
  fileId _ := .ok 7
  read _ request :=
    match request.offset with
    | 0 => .ok ⟨0, .ok ⟨80, 4, by decide, by decide⟩, List.replicate 80 0 ++ [1, 2, 3, 4]⟩
    | 4 => .ok ⟨0, .ok ⟨80, 4, by decide, by decide⟩, List.replicate 80 0 ++ [5, 6, 7, 8]⟩
    | _ => .ok ⟨Status.endOfFile.code, .error "Error", []⟩
  write _ := .ok ⟨.ok count⟩

theorem acknowledging_serves (count : ℕ) :
    (acknowledging count).Serves [1, 2, 3, 4, 5, 6, 7, 8] := by
  rintro n ⟨flags, length, offset, fileId, minimumCount⟩ reply data hreply hdata
  simp only [acknowledging] at hreply
  split at hreply
  · cases hreply
    cases (show Except.ok [1, 2, 3, 4] = (.ok data : Except Error Octets) from hdata)
    exact ⟨[5, 6, 7, 8], rfl⟩
  · cases hreply
    cases (show Except.ok [5, 6, 7, 8] = (.ok data : Except Error Octets) from hdata)
    exact List.prefix_rfl
  · cases hreply
    cases (show Except.ok [] = (.ok data : Except Error Octets) from hdata)
    exact List.nil_prefix

theorem positioned_io_whole_chunk :
    (sample.readExactAt (acknowledging 4) 0 8).requests.length = 2 ∧
      (∃ data, (sample.readExactAt (acknowledging 4) 0 8).result = .ok data ∧
        data = [1, 2, 3, 4, 5, 6, 7, 8]) ∧
      (sample.writeAllAt (acknowledging 4) 0 [1, 2, 3, 4, 5, 6, 7, 8]).result = .ok () ∧
      Submitted (sample.writeAllAt (acknowledging 4) 0 [1, 2, 3, 4, 5, 6, 7, 8]).requests 0
        [1, 2, 3, 4, 5, 6, 7, 8] ∧
      sample.readAtInto (acknowledging 4) 0 [0, 0, 0, 0] ≠ .panicked := by
  have hread : (sample.readExactAt (acknowledging 4) 0 8).result =
      .ok [1, 2, 3, 4, 5, 6, 7, 8] := by
    decide +kernel
  have hwrite :
      (sample.writeAllAt (acknowledging 4) 0 [1, 2, 3, 4, 5, 6, 7, 8]).result = .ok () := by
    decide +kernel
  have hacks : ¬ Overacknowledged sample (acknowledging 4) 0 [1, 2, 3, 4, 5, 6, 7, 8] := by
    rintro ⟨-, -, counts, hcounts, -, count, hcount, hlarge⟩
    obtain ⟨i, hi⟩ := List.mem_iff_getElem?.mp hcount
    cases (show Except.ok 4 = (.ok count : Except Error ℕ) from (hcounts i count hi).2.1.count)
    exact Nat.lt_irrefl 4 hlarge
  have hshort : ¬ Overlong sample (acknowledging 4) 0 [0, 0, 0, 0] := by
    rintro ⟨-, -, -, -, fileId, reply, data, -, hreply, hdata, hlong⟩
    cases hreply
    cases (show Except.ok [1, 2, 3, 4] = (.ok data : Except Error Octets) from hdata)
    exact Nat.lt_irrefl 4 hlong
  obtain ⟨hexact, hsubmitted, ⟨hpanicked, -⟩, -⟩ :=
    (positioned_io_iff sample (acknowledging 4) [1, 2, 3, 4, 5, 6, 7, 8] 0 8
      [1, 2, 3, 4, 5, 6, 7, 8] [0, 0, 0, 0] (acknowledging_serves 4)).mpr ⟨hacks, hshort⟩
  exact ⟨by decide +kernel, ⟨_, hread, (hexact _ hread).1⟩, hwrite, hsubmitted hwrite, hpanicked⟩

/-- Four bytes are written, six are acknowledged, and the last two are never submitted. -/
theorem writeAllAt_loses_bytes :
    (sample.writeAllAt (acknowledging 6) 0 [1, 2, 3, 4, 5, 6]).result = .ok () ∧
      ¬ Submitted (sample.writeAllAt (acknowledging 6) 0 [1, 2, 3, 4, 5, 6]).requests 0
        [1, 2, 3, 4, 5, 6] := by
  refine ⟨by decide +kernel, fun hsubmitted => ?_⟩
  have hrequests : (sample.writeAllAt (acknowledging 6) 0 [1, 2, 3, 4, 5, 6]).requests =
      [⟨0, 7, 4, [1, 2, 3, 4]⟩] := by
    decide +kernel
  rw [hrequests] at hsubmitted
  obtain ⟨request, hrequest, j, hoffset, hdata⟩ := hsubmitted 4 5 rfl
  cases List.mem_singleton.mp hrequest
  rw [Nat.zero_add] at hoffset
  cases hoffset
  cases hdata

end File

end Resource
