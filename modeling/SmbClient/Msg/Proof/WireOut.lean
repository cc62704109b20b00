import SmbClient.Error
import SmbClient.Lib.Chain
import SmbClient.Msg.WireOut

/-!
# What the wire builder builds

`Framed`: the buffer is the concatenation of its members, the records of a chain, and the ranges are
theirs.
-/

namespace Msg

open PlainRequest Octets Header Chain

def nextCommandOf (bytes : Octets) : ℕ := bytes.field 20 4

/-! ## Headers -/

namespace Header

variable (h : Header)

def lead : Octets :=
  magic ++ encode 2 structSize ++ encode 2 h.creditCharge ++
    encode 4 h.status.toNat ++ encode 2 h.command.code ++
    encode 2 h.creditRequest ++ encode 4 h.flags.toBits

def ids : Octets :=
  encode 8 h.messageId ++
    (if h.flags.asyncCommand then (h.asyncId.map (encode 8)).getD []
     else encode 4 0 ++ encode 4 (h.treeId.getD 0)) ++
    encode 8 h.sessionId

theorem write_eq :
    h.write = h.lead ++ (encode 4 h.nextCommand ++ (h.ids ++ encode 16 h.signature)) := by
  simp only [write, lead, ids, List.append_assoc]

theorem length_lead : h.lead.length = 20 := by
  simp [lead, magic]

theorem length_write : h.write.length = 40 + h.ids.length := by
  rw [write_eq]
  simp only [List.length_append, length_lead, length_encode]
  omega

theorem length_ids : 16 ≤ h.ids.length := by
  unfold ids
  simp only [List.length_append, length_encode]
  omega

theorem nextCommandOf_write (rest : Octets) :
    nextCommandOf (h.write ++ rest) = h.nextCommand % 2 ^ 32 := by
  rw [nextCommandOf, write_eq, List.append_assoc, List.append_assoc, ← h.length_lead, field_encode]
  norm_num

theorem tryWrite_eq_ok {h : Header} {out : Octets} :
    h.tryWrite = .ok out ↔ h.treeId.isSome ≠ h.flags.asyncCommand ∧ h.write = out := by
  unfold tryWrite
  split <;> simp_all

end Header

/-! ## Members -/

namespace PlainRequest

variable (r : PlainRequest)

def Writable : Prop :=
  r.header.flags.serverToRedir = false ∧ r.header.treeId.isSome ≠ r.header.flags.asyncCommand

instance (r : PlainRequest) : Decidable r.Writable := inferInstanceAs (Decidable (_ ∧ _))

def bytes : Octets := r.header.write ++ r.body

def size : ℕ := r.bytes.length

def padded : ℕ := (r.size + 7) / 8 * 8

def member (isLast : Bool) : Octets :=
  if isLast then (r.withNextCommand 0).bytes
  else (r.withNextCommand r.padded).bytes ++ List.replicate (r.padded - r.size) 0

variable {r : PlainRequest}

@[simp] theorem writable_withNextCommand (n : ℕ) : (r.withNextCommand n).Writable ↔ r.Writable :=
  Iff.rfl

theorem length_header_withNextCommand (n : ℕ) :
    (r.withNextCommand n).header.write.length = r.header.write.length := by
  rw [length_write, length_write]
  rfl

@[simp] theorem size_withNextCommand (n : ℕ) : (r.withNextCommand n).size = r.size := by
  rw [size, size, bytes, bytes, List.length_append, List.length_append,
    length_header_withNextCommand]
  rfl

theorem write_eq_ok {out : Octets} : r.write = .ok out ↔ r.Writable ∧ r.bytes = out := by
  unfold write Writable tryWrite bytes
  cases r.header.flags.serverToRedir
  · by_cases h : r.header.treeId.isSome = r.header.flags.asyncCommand <;>
      simp [h, Except.map]
  · simp

theorem size_le_padded : r.size ≤ r.padded := by
  unfold padded
  omega

theorem le_size : 56 ≤ r.size := by
  have hids := r.header.length_ids
  rw [size, bytes, List.length_append, length_write]
  omega

theorem length_member_false : (r.member false).length = r.padded := by
  have hsize := r.size_le_padded
  have hbytes : (r.withNextCommand r.padded).bytes.length = r.size := size_withNextCommand r.padded
  rw [member, if_neg Bool.false_ne_true, List.length_append, List.length_replicate]
  omega

theorem length_member_true : (r.member true).length = r.size := size_withNextCommand 0

theorem nextCommandOf_next (rest : Octets) (h : r.padded < 2 ^ 32) :
    nextCommandOf (r.member false ++ rest) = (r.member false).length := by
  rw [length_member_false, member, if_neg Bool.false_ne_true, bytes, List.append_assoc,
    List.append_assoc, nextCommandOf_write]
  exact Nat.mod_eq_of_lt h

theorem nextCommandOf_last (rest : Octets) : nextCommandOf (r.member true ++ rest) = 0 := by
  rw [member, if_pos rfl, bytes, List.append_assoc, nextCommandOf_write]
  rfl

end PlainRequest

/-! ## Encoding -/

namespace WireBuilder

variable {metadata out : Octets} {r r' : PlainRequest}
variable {requests : List PlainRequest}

theorem append_eq_ok {written : Octets} :
    append metadata written = .ok out ↔
      metadata.length + written.length < 2 ^ 64 ∧ metadata ++ written = out := by
  unfold append
  split <;> simp_all

theorem encodeMember_last : encodeMember metadata r true = .ok (out, r') ↔
    r.Writable ∧ metadata.length + r.size < 2 ^ 64 ∧ metadata ++ r.member true = out ∧
      r.withNextCommand 0 = r' := by
  simp only [encodeMember, Except.bind_eq_ok, write_eq_ok, append_eq_ok, if_true,
    pure, Except.pure, Except.ok.injEq, Prod.mk.injEq]
  have hsize : (r.withNextCommand 0).bytes.length = r.size := size_withNextCommand 0
  constructor
  · rintro ⟨_, ⟨hwritable, rfl⟩, _, ⟨hroom, rfl⟩, rfl, rfl⟩
    exact ⟨hwritable, hsize ▸ hroom, rfl, rfl⟩
  · rintro ⟨hwritable, hroom, rfl, rfl⟩
    exact ⟨_, ⟨hwritable, rfl⟩, _, ⟨hsize.symm ▸ hroom, rfl⟩, rfl, rfl⟩

theorem patchHeader_eq_ok {header : Header} {after : Octets} {n : ℕ}
    (hheader : header = (r.withNextCommand n).header) (hwritable : r.Writable) :
    patchHeader (metadata ++ ((r.withNextCommand 0).bytes ++ after)) metadata.length
    header = .ok out ↔
      metadata.length + structSize < 2 ^ 64 ∧ structSize ≤ r.size + after.length ∧
        metadata ++ ((r.withNextCommand n).bytes ++ after) = out := by
  have hsize : (r.withNextCommand 0).bytes.length = r.size := size_withNextCommand 0
  have hsplice : (metadata ++ ((r.withNextCommand 0).bytes ++ after)).splice metadata.length
      (r.withNextCommand n).header.write = metadata ++ ((r.withNextCommand n).bytes ++ after) := by
    rw [bytes, List.append_assoc, splice_middle, bytes, List.append_assoc]
    · rfl
    · rw [length_header_withNextCommand, length_header_withNextCommand]
  have htry : (r.withNextCommand n).header.tryWrite = .ok (r.withNextCommand n).header.write :=
    tryWrite_eq_ok.mpr ⟨hwritable.2, rfl⟩
  subst hheader
  unfold patchHeader
  split
  · rename_i hnone
    have := Machine.checkedAdd_eq_none.mp hnone
    simp only [reduceCtorEq, false_iff]
    omega
  · rename_i stop hstop
    obtain ⟨hfits, rfl⟩ := Machine.checkedAdd_eq_some.mp hstop
    rw [htry, List.length_append, List.length_append, Except.map, hsplice]
    split
    · simp only [reduceCtorEq, false_iff]
      omega
    · simp only [Except.ok.injEq]
      constructor
      · intro hout
        exact ⟨hfits, by omega, hout⟩
      · exact fun h => h.2.2

theorem encodeMember_next (haligned : metadata.length % 8 = 0) :
    encodeMember metadata r false = .ok (out, r') ↔
      r.Writable ∧ metadata.length + r.size + 7 < 2 ^ 64 ∧ structSize ≤ r.padded ∧
        r.padded < 2 ^ 32 ∧ metadata ++ r.member false = out ∧ r.withNextCommand r.padded = r' := by
  have hsize : (r.withNextCommand 0).bytes.length = r.size := size_withNextCommand 0
  have hpadded : r.padded = (r.size + 7) / 8 * 8 := rfl
  simp only [encodeMember, Except.bind_eq_ok, write_eq_ok, append_eq_ok,
    writable_withNextCommand, Bool.false_eq_true, if_false]
  constructor
  · rintro ⟨_, ⟨hwritable, rfl⟩, _, ⟨-, rfl⟩, h⟩
    split at h
    · cases h
    rename_i aligned halign
    obtain ⟨value, hvalue, rfl⟩ := Option.map_eq_some_iff.mp halign
    obtain ⟨hroom, rfl⟩ := Machine.checkedAdd_eq_some.mp hvalue
    rw [List.length_append, hsize] at hroom h
    have hend : (metadata.length + r.size + 7) / 8 * 8 = metadata.length + r.padded := by omega
    have hpad : metadata.length + r.padded - (metadata.length + r.size) = r.padded - r.size := by
      omega
    rw [hend, hpad, Nat.add_sub_cancel_left, List.append_assoc] at h
    split at h
    · cases h
    obtain ⟨written, hwritten, hresult⟩ := Except.bind_eq_ok.mp h
    obtain ⟨-, hlong, rfl⟩ := (patchHeader_eq_ok (n := r.padded) rfl hwritable).mp hwritten
    cases hresult
    rw [List.length_replicate] at hlong
    exact ⟨hwritable, hroom, by omega, by omega, rfl, rfl⟩
  · rintro ⟨hwritable, hroom, hlong, hfits, rfl, rfl⟩
    have hend : (metadata.length + r.size + 7) / 8 * 8 = metadata.length + r.padded := by omega
    have hpad : metadata.length + r.padded - (metadata.length + r.size) = r.padded - r.size := by
      omega
    have halign : alignedEnd (metadata ++ (r.withNextCommand 0).bytes).length =
        some (metadata.length + r.padded) := by
      rw [alignedEnd, List.length_append, hsize,
        Machine.checkedAdd_eq_some.mpr ⟨hroom, rfl⟩, Option.map_some, hend]
    refine ⟨_, ⟨hwritable, rfl⟩, _, ⟨by rw [hsize]; omega, rfl⟩, ?_⟩
    rw [halign]
    simp only [List.length_append, hsize, hpad, Nat.add_sub_cancel_left, List.append_assoc]
    rw [if_neg (by omega)]
    refine Except.bind_eq_ok.mpr ⟨_, (patchHeader_eq_ok (n := r.padded) rfl hwritable).mpr
      ⟨?_, ?_, rfl⟩, rfl⟩
    · omega
    · rw [List.length_replicate]
      omega

def members : List PlainRequest → List Octets
  | [] => []
  | r :: rest => r.member rest.isEmpty :: members rest

def numbered : List PlainRequest → List PlainRequest
  | [] => []
  | r :: rest => r.withNextCommand (if rest.isEmpty then 0 else r.padded) :: numbered rest

def Fits (start : ℕ) : List PlainRequest → Prop
  | [] => True
  | [r] => r.Writable ∧ start + r.size < 2 ^ 64
  | r :: next :: rest => r.Writable ∧ start + r.size + 7 < 2 ^ 64 ∧
      (structSize ≤ r.padded ∧ r.padded < 2 ^ 32) ∧ Fits (start + r.padded) (next :: rest)

/-- Members are encoded one behind the other, each at its range. -/
theorem encodeAll_eq_ok {written : List PlainRequest} (metadata : Octets) {whole : Octets}
    {ranges : List ByteRange} (haligned : metadata.length % 8 = 0) :
    encodeAll metadata requests = .ok (whole, ranges, written) ↔
      Fits metadata.length requests ∧ metadata ++ (members requests).flatten = whole ∧
        Chain.ranges metadata.length (members requests) = ranges ∧ numbered requests = written := by
  induction requests generalizing metadata ranges written with
  | nil => simp [encodeAll, Fits, members, Chain.ranges, numbered]
  | cons r rest ih =>
    simp only [encodeAll, Except.bind_eq_ok, Prod.exists, pure, Except.pure, Except.ok.injEq,
      Prod.mk.injEq]
    cases rest with
    | nil =>
      simp only [List.isEmpty_nil, encodeMember_last, encodeAll, Except.ok.injEq, Prod.mk.injEq,
        Fits, members, Chain.ranges, numbered, if_true, List.flatten_singleton]
      have hlen : (metadata ++ r.member true).length = metadata.length + (r.member true).length :=
        List.length_append
      constructor
      · rintro ⟨_, _, ⟨hwritable, hroom, rfl, rfl⟩, _, _, _, ⟨rfl, rfl, rfl⟩, rfl, rfl, rfl⟩
        exact ⟨⟨hwritable, hroom⟩, rfl, by rw [hlen], rfl⟩
      · rintro ⟨⟨hwritable, hroom⟩, rfl, rfl, rfl⟩
        exact ⟨_, _, ⟨hwritable, hroom, rfl, rfl⟩, _, _, _, ⟨rfl, rfl, rfl⟩, rfl, by rw [hlen], rfl⟩
    | cons next rest =>
      have hpadded : r.padded = (r.size + 7) / 8 * 8 := rfl
      have hlen : (metadata ++ r.member false).length = metadata.length + r.padded := by
        rw [List.length_append, r.length_member_false]
      have hmember := r.length_member_false
      simp only [List.isEmpty_cons, encodeMember_next haligned]
      rw [Fits, members, Chain.ranges, numbered, List.isEmpty_cons, hmember, ← hlen]
      constructor
      · rintro ⟨_, _, ⟨hwritable, hroom, hlong, hfits, rfl, rfl⟩, _, _, _, hnext, rfl, rfl, rfl⟩
        obtain ⟨hall, rfl, rfl, rfl⟩ := (ih (metadata ++ r.member false) (by omega)).mp hnext
        exact ⟨⟨hwritable, hroom, ⟨hlong, hfits⟩, hall⟩, (List.append_assoc _ _ _).symm, rfl, rfl⟩
      · rintro ⟨⟨hwritable, hroom, ⟨hlong, hfits⟩, hall⟩, rfl, rfl, rfl⟩
        have hnext := (ih (metadata ++ r.member false) (by omega)).mpr
          ⟨hall, List.append_assoc _ _ _, rfl, rfl⟩
        exact ⟨_, _, ⟨hwritable, hroom, hlong, hfits, rfl, rfl⟩, _, _, _, hnext, rfl, rfl, rfl⟩

theorem fits_iff {start : ℕ} (h : requests ≠ []) :
    Fits start requests ↔ (∀ r ∈ requests, r.Writable) ∧
      (∀ r ∈ requests.dropLast, structSize ≤ r.padded ∧ r.padded < 2 ^ 32) ∧
      start + (members requests).flatten.length < 2 ^ 64 := by
  induction requests generalizing start with
  | nil => exact absurd rfl h
  | cons r rest ih =>
    cases rest with
    | nil => simp [Fits, members, r.length_member_true]
    | cons next rest =>
      have hlast : 56 ≤ (members (next :: rest)).flatten.length := by
        have hle := size_le_padded (r := next)
        have hsize := le_size (r := next)
        rw [members, List.flatten_cons, List.length_append]
        cases rest.isEmpty
        · rw [next.length_member_false]
          omega
        · rw [next.length_member_true]
          omega
      have htotal : (members (r :: next :: rest)).flatten.length =
          r.padded + (members (next :: rest)).flatten.length := by
        rw [members, List.flatten_cons, List.length_append, List.isEmpty_cons,
          r.length_member_false]
      rw [Fits, ih (List.cons_ne_nil next rest), List.dropLast_cons_cons,
        List.forall_mem_cons (a := r), List.forall_mem_cons (a := r)]
      have hpadded : r.padded = (r.size + 7) / 8 * 8 := rfl
      constructor
      · rintro ⟨hwritable, -, hsized, hall, hlong, hfits⟩
        exact ⟨⟨hwritable, hall⟩, ⟨hsized, hlong⟩, by omega⟩
      · rintro ⟨⟨hwritable, hall⟩, ⟨hsized, hlong⟩, hfits⟩
        exact ⟨hwritable, by omega, hsized, hall, hlong, by omega⟩

theorem linked_members (h : requests ≠ [])
    (hsized : ∀ r ∈ requests.dropLast, structSize ≤ r.padded ∧ r.padded < 2 ^ 32) :
    Chain.Linked nextCommandOf 8 (members requests) := by
  induction requests with
  | nil => exact absurd rfl h
  | cons r rest ih =>
    cases rest with
    | nil =>
      refine .last ?_
      rw [List.isEmpty_nil, ← List.append_nil (r.member true)]
      exact nextCommandOf_last []
    | cons next rest =>
      rw [List.dropLast_cons_cons, List.forall_mem_cons] at hsized
      obtain ⟨⟨hlong, hfits⟩, hrest⟩ := hsized
      rw [members, List.isEmpty_cons]
      refine .next (nextCommandOf_next _ hfits) ?_ ?_
        (ih (List.cons_ne_nil next rest) hrest)
      · rw [r.length_member_false]
        exact Nat.lt_of_lt_of_le (by decide) hlong
      · rw [r.length_member_false]
        exact Nat.mul_mod_left _ _

theorem length_members : (members requests).length = requests.length := by
  induction requests with
  | nil => rfl
  | cons r rest ih => rw [members, List.length_cons, List.length_cons, ih]

theorem length_numbered : (numbered requests).length = requests.length := by
  induction requests with
  | nil => rfl
  | cons r rest ih => rw [numbered, List.length_cons, List.length_cons, ih]

theorem le_length_members : ∀ part ∈ members requests, 56 ≤ part.length := by
  induction requests with
  | nil => simp [members]
  | cons r rest ih =>
    have hle := r.size_le_padded
    have hsize := r.le_size
    refine List.forall_mem_cons.mpr ⟨?_, ih⟩
    cases rest.isEmpty
    · rw [r.length_member_false]
      omega
    · rw [r.length_member_true]
      omega

theorem le_length_dropLast (hsized : ∀ r ∈ requests.dropLast, structSize ≤ r.padded) :
    ∀ part ∈ (members requests).dropLast, structSize ≤ part.length := by
  induction requests with
  | nil => simp [members]
  | cons r rest ih =>
    cases rest with
    | nil => simp [members]
    | cons next rest =>
      rw [List.dropLast_cons_cons, List.forall_mem_cons] at hsized
      rw [members, members, List.dropLast_cons_cons, List.forall_mem_cons, List.isEmpty_cons,
        r.length_member_false]
      exact ⟨hsized.1, ih hsized.2⟩

structure Encodable (requests : List PlainRequest) (segmentLimit : ℕ) : Prop where
  nonempty : requests ≠ []
  limit : segmentLimit ≠ 0
  writable : ∀ r ∈ requests, r.Writable
  sized : ∀ r ∈ requests.dropLast, structSize ≤ r.padded ∧ r.padded < 2 ^ 32
  fits : (members requests).flatten.length < 2 ^ 64

def encoded (requests : List PlainRequest) (segmentLimit : ℕ) : WireBuilder :=
  { metadata := (members requests).flatten
    payloads := []
    memberRanges := if 1 < requests.length then ranges 0 (members requests) else []
    segmentLimit
    state := .encoded
    patchedMembers := 0 }

/-- **When requests are encoded, and into which builder.** -/
theorem encode_eq_ok {written : List PlainRequest} {segmentLimit : ℕ}
    {builder : WireBuilder} : encode requests segmentLimit = .ok (builder, written) ↔
      Encodable requests segmentLimit ∧ encoded requests segmentLimit = builder ∧
        numbered requests = written := by
  unfold encode
  by_cases hempty : requests = []
  · subst hempty
    simp only [List.isEmpty_nil, if_true, reduceCtorEq, false_iff]
    exact fun h => h.1.nonempty rfl
  by_cases hlimit : segmentLimit = 0
  · simp only [List.isEmpty_iff, hempty, hlimit, if_true, if_false, reduceCtorEq, false_iff]
    exact fun h => h.1.limit rfl
  simp only [List.isEmpty_iff, hempty, hlimit, if_false, Except.bind_eq_ok, Prod.exists]
  simp only [encodeAll_eq_ok [] rfl, fits_iff hempty, pure, Except.pure,
    Except.ok.injEq, Prod.mk.injEq, List.length_nil, Nat.zero_add]
  constructor
  · rintro ⟨_, _, _, ⟨⟨hwritable, hsized, hfits⟩, rfl, rfl, rfl⟩, rfl, rfl⟩
    exact ⟨⟨hempty, hlimit, hwritable, hsized, hfits⟩, rfl, rfl⟩
  · rintro ⟨h, rfl, rfl⟩
    exact ⟨_, _, _, ⟨⟨h.writable, h.sized, h.fits⟩, rfl, rfl, rfl⟩, rfl, rfl⟩

end WireBuilder

/-! ## Buffers of linked members -/

def memberSpans (metadata : Octets) (memberRanges : List ByteRange) : List ByteRange :=
  if memberRanges.isEmpty then [⟨0, metadata.length⟩] else memberRanges

structure Framed (metadata : Octets) (memberRanges : List ByteRange) (parts : List Octets) :
    Prop where
  metadata_eq : metadata = parts.flatten
  ranges_eq : memberRanges = if 1 < parts.length then ranges 0 parts else []
  linked : Chain.Linked nextCommandOf 8 parts
  -- The distance is within each member, and the signature is within each member but the last.
  reaches : ∀ part ∈ parts, 24 ≤ part.length
  long : ∀ part ∈ parts.dropLast, structSize ≤ part.length

namespace Framed

variable {metadata : Octets} {memberRanges : List ByteRange} {parts : List Octets}

section

variable (h : Framed metadata memberRanges parts)
include h

theorem memberSpans_eq : memberSpans metadata memberRanges = ranges 0 parts := by
  have hne := h.linked.ne_nil
  rw [memberSpans, h.ranges_eq, h.metadata_eq]
  cases parts with
  | nil => exact absurd rfl hne
  | cons part rest =>
    cases rest with
    | nil => simp [ranges]
    | cons next rest =>
      have hseveral : 1 < (part :: next :: rest).length := by simp
      rw [if_pos hseveral, ranges, List.isEmpty_cons, if_neg Bool.false_ne_true]

theorem count : max memberRanges.length 1 = parts.length := by
  have hpos := List.length_pos_iff.mpr h.linked.ne_nil
  rw [h.ranges_eq]
  split
  · rw [length_ranges]
    omega
  · rw [List.length_nil]
    omega

theorem long_of_room {i n : ℕ} {range : ByteRange}
    {part : Octets} (hn : n ≤ structSize) (hrange : (ranges 0 parts)[i]? = some range)
    (hpart : parts[i]? = some part) (hroom : range.start + n ≤ metadata.length) :
    n ≤ part.length := by
  obtain ⟨hi, hget⟩ := List.getElem?_eq_some_iff.mp hpart
  by_cases hlast : i + 1 < parts.length
  · have hmem : part ∈ parts.dropLast := by
      rw [← hget, ← List.getElem_dropLast (by rw [List.length_dropLast]; omega)]
      exact List.getElem_mem _
    exact Nat.le_trans hn (h.long part hmem)
  · obtain ⟨hstart, -⟩ := ranges_getElem? hrange
    have hall : parts = parts.take i ++ [part] := by
      have htake := List.take_append_getElem (l := parts) (i := i) hi
      have hwhole : parts.take (i + 1) = parts := List.take_of_length_le (by omega)
      rw [hget, hwhole] at htake
      exact htake.symm
    have htotal : metadata.length = (parts.take i).flatten.length + part.length := by
      rw [h.metadata_eq]
      conv_lhs => rw [hall]
      rw [List.flatten_append, List.length_append, List.flatten_singleton]
    omega

theorem splice {i : ℕ} {range : ByteRange} {part new : Octets} (hnew : new.length = 16)
    (hrange : (ranges 0 parts)[i]? = some range) (hpart : parts[i]? = some part)
    (hlong : structSize ≤ part.length) :
    Framed (metadata.splice (range.start + 48) new) memberRanges
      (parts.set i (part.splice 48 new)) := by
  have hroom : 48 + new.length ≤ part.length := by
    rw [hnew]
    exact hlong
  have hlen : (part.splice 48 new).length = part.length := length_splice hroom
  have hlens : (parts.set i (part.splice 48 new)).map List.length = parts.map List.length := by
    rw [List.map_set, hlen]
    obtain ⟨hi, hget⟩ := List.getElem?_eq_some_iff.mp hpart
    rw [← hget, ← List.getElem_map List.length (h := by rwa [List.length_map]),
      List.set_getElem_self]
  have hmem : ∀ {p : Octets} {l : List Octets}, p ∈ l.set i (part.splice 48 new) →
      p = part.splice 48 new ∨ p ∈ l := fun hp => (List.mem_or_eq_of_mem_set hp).symm
  have hfield : ∀ {p after : Octets}, 24 ≤ p.length →
      nextCommandOf (p ++ after) = nextCommandOf p :=
    fun hp => field_append_left hp
  refine ⟨?_, ?_, ?_, ?_, ?_⟩
  · have hsplice := splice_ranges [] hrange hpart hroom
    rw [← h.metadata_eq] at hsplice
    exact hsplice
  · rw [h.ranges_eq, List.length_set, ranges_congr hlens]
  · refine h.linked.set (fun p hp after other => ?_) hpart hlen fun after => ?_
    · rw [hfield (h.reaches p hp), hfield (h.reaches p hp)]
    · have hbefore : nextCommandOf (part.splice 48 new) = nextCommandOf part :=
        field_splice_before (by decide) (by omega)
      rw [hfield (by omega), hfield (by omega), hbefore]
  · intro p hp
    rcases hmem hp with rfl | hp
    · rw [hlen]
      exact Nat.le_trans (by decide) hlong
    · exact h.reaches p hp
  · intro p hp
    rw [List.dropLast_eq_take, List.length_set, List.take_set] at hp
    rcases hmem hp with rfl | hp
    · rw [hlen]
      exact hlong
    · rw [← List.dropLast_eq_take] at hp
      exact h.long p hp

end

end Framed

theorem WireMessage.memberRange_eq (message : WireMessage) (i : ℕ) :
    message.memberRange i = (memberSpans message.metadata message.memberRanges)[i]? := by
  unfold memberRange memberSpans
  split
  · cases i <;> simp
  · rfl

/-! ## The steps of a builder -/

namespace WireBuilder

variable {builder next : WireBuilder} {parts : List Octets}
variable {requests : List PlainRequest} {segmentLimit member : ℕ} {message : WireMessage}

theorem requireState_bind {α : Type} {expected : BuildState} {f : Unit → Except SmbMsgError α}
    {a : α} : (builder.requireState expected >>= f) = .ok a ↔
      builder.state = expected ∧ f () = .ok a := by
  unfold requireState
  split <;> simp_all [bind, Except.bind]

theorem framed_encoded (h : Encodable requests segmentLimit) :
    Framed (encoded requests segmentLimit).metadata (encoded requests segmentLimit).memberRanges
      (members requests) :=
  { metadata_eq := rfl
    ranges_eq := by rw [length_members]; rfl
    linked := linked_members h.nonempty h.sized
    reaches := fun part hpart => Nat.le_trans (by decide) (le_length_members part hpart)
    long := le_length_dropLast fun r hr => (h.sized r hr).1 }

theorem finalizeOffsets_eq_ok : builder.finalizeOffsets = .ok next ↔
    builder.state = .encoded ∧ { builder with state := .offsetsFinalized } = next := by
  rw [finalizeOffsets, requireState_bind]
  simp only [pure, Except.pure, Except.ok.injEq]

theorem builderMemberRange_eq_ok {i : ℕ} {range : ByteRange} :
    builder.builderMemberRange i = .ok range ↔
      (memberSpans builder.metadata builder.memberRanges)[i]? = some range := by
  unfold builderMemberRange memberSpans
  split
  · cases i <;> simp
  · split <;> simp_all

/-- Members are patched in order, each in its own header and nowhere else. -/
theorem patchSignature_eq_ok {signature : ℕ}
    (h : builder.patchSignature member signature = .ok next) :
    builder.state = .offsetsFinalized ∧ member = builder.patchedMembers ∧ ∃ range : ByteRange,
      builder.builderMemberRange member = .ok range ∧
      range.start + structSize ≤ builder.metadata.length ∧
      next = { builder with
        metadata := builder.metadata.splice (range.start + 48) (Octets.encode 16 signature)
        patchedMembers := builder.patchedMembers + 1 } := by
  obtain ⟨hstate, h⟩ := requireState_bind.mp h
  split at h
  · cases h
  rename_i hmember
  obtain ⟨range, hrange, h⟩ := Except.bind_eq_ok.mp h
  split at h
  · cases h
  rename_i start hstart
  obtain ⟨-, rfl⟩ := Machine.checkedAdd_eq_some.mp hstart
  split at h
  · cases h
  rename_i hroom
  cases h
  exact ⟨hstate, not_not.mp hmember, range, hrange, Nat.not_lt.mp hroom, rfl⟩

/-- A signature changes one member and no frame. -/
theorem patchSignature_framed {signature : ℕ}
    (hframed : Framed builder.metadata builder.memberRanges parts)
    (h : builder.patchSignature member signature = .ok next) :
    ∃ part, parts[member]? = some part ∧ Framed next.metadata next.memberRanges
        (parts.set member (part.splice 48 (Octets.encode 16 signature))) := by
  obtain ⟨-, -, range, hrange, hroom, rfl⟩ := patchSignature_eq_ok h
  rw [builderMemberRange_eq_ok, hframed.memberSpans_eq] at hrange
  obtain ⟨-, part, hpart⟩ := ranges_getElem? hrange
  exact ⟨part, hpart, hframed.splice (length_encode 16 signature) hrange hpart
    (hframed.long_of_room (Nat.le_refl _) hrange hpart hroom)⟩

theorem finishSigned_eq_ok : builder.finishSigned = .ok next ↔
    builder.state = .offsetsFinalized ∧ builder.patchedMembers = builder.memberCount ∧
      { builder with state := .protected' } = next := by
  rw [finishSigned, requireState_bind]
  split <;> simp_all [pure, Except.pure]

theorem finishUnsigned_eq_ok : builder.finishUnsigned = .ok next ↔
    builder.state = .offsetsFinalized ∧ builder.patchedMembers = 0 ∧
      { builder with state := .protected' } = next := by
  rw [finishUnsigned, requireState_bind]
  split <;> simp_all [pure, Except.pure]

theorem seal_eq_ok (hmetadata : builder.metadata.length < 2 ^ 64) :
    builder.sealMessage = .ok message ↔
      builder.state = .protected' ∧
      builder.metadata.length + builder.payloads.flatten.length < 2 ^ 64 ∧
      ⟨builder.metadata, builder.payloads, builder.memberRanges,
        builder.metadata.length + builder.payloads.flatten.length⟩ = message := by
  have htotal := fun n => Machine.foldlM_checkedAdd builder.payloads (n := n) hmetadata
  rw [sealMessage, requireState_bind, totalLen]
  split
  · rename_i hnone
    simp only [hnone, reduceCtorEq, false_iff, not_and] at htotal
    simp only [reduceCtorEq, and_false, false_iff, not_and]
    exact fun _ hfits _ => htotal _ hfits rfl
  · rename_i n hn
    obtain ⟨hfits, rfl⟩ := (htotal n).mp hn
    simp only [hfits, true_and, pure, Except.pure, Except.ok.injEq]

theorem segments_of_seal (h : builder.sealMessage = .ok message) :
    message.segments = builder.metadata :: builder.payloads := by
  obtain ⟨-, h⟩ := requireState_bind.mp h
  split at h
  · cases h
  · cases h
    rfl

/-! ## Whole builds -/

def patchSignatures (builder : WireBuilder) : ℕ → List ℕ → Except SmbMsgError WireBuilder
  | _, [] => .ok builder
  | member, signature :: rest => do
    patchSignatures (← builder.patchSignature member signature) (member + 1) rest

/-- The builder is protected with the signatures of all members, or without signatures. -/
def protect (builder : WireBuilder) : Option (List ℕ) → Except SmbMsgError WireBuilder
  | none => builder.finishUnsigned
  | some signatures => do finishSigned (← builder.patchSignatures 0 signatures)

def build (requests : List PlainRequest) (segmentLimit : ℕ) (signatures : Option (List ℕ)) :
    Except SmbMsgError WireMessage := do
  let (builder, _) ← encode requests segmentLimit
  let builder ← builder.finalizeOffsets
  sealMessage (← builder.protect signatures)

theorem patchSignatures_framed {signatures : List ℕ}
    (hframed : Framed builder.metadata builder.memberRanges parts)
    (h : builder.patchSignatures member signatures = .ok next) :
    (∃ patched, Framed next.metadata next.memberRanges patched ∧ patched.length = parts.length) ∧
      next.metadata.length = builder.metadata.length := by
  induction signatures generalizing builder member parts with
  | nil =>
    cases h
    exact ⟨⟨parts, hframed, rfl⟩, rfl⟩
  | cons signature rest ih =>
    obtain ⟨patched, hpatched, hrest⟩ := Except.bind_eq_ok.mp h
    obtain ⟨part, -, hnext⟩ := patchSignature_framed hframed hpatched
    obtain ⟨hresult, hlen⟩ := ih hnext hrest
    obtain ⟨-, -, range, -, hroom, rfl⟩ := patchSignature_eq_ok hpatched
    rw [List.length_set] at hresult
    refine ⟨hresult, hlen.trans (length_splice ?_)⟩
    exact hroom

theorem protect_framed (builder : WireBuilder) {next : WireBuilder} {signatures : Option (List ℕ)}
    (hframed : Framed builder.metadata builder.memberRanges parts)
    (h : builder.protect signatures = .ok next) :
    (∃ patched, Framed next.metadata next.memberRanges patched ∧ patched.length = parts.length) ∧
      next.metadata.length = builder.metadata.length := by
  cases signatures with
  | none =>
    obtain ⟨-, -, rfl⟩ := finishUnsigned_eq_ok.mp h
    exact ⟨⟨parts, hframed, rfl⟩, rfl⟩
  | some signatures =>
    obtain ⟨patched, hpatched, hfinish⟩ := Except.bind_eq_ok.mp h
    have hresult := patchSignatures_framed hframed hpatched
    obtain ⟨-, -, rfl⟩ := finishSigned_eq_ok.mp hfinish
    exact hresult

/-- **A built message is framed**: one part for each request. -/
theorem build_framed {signatures : Option (List ℕ)}
    (h : build requests segmentLimit signatures = .ok message) :
    ∃ parts, Framed message.metadata message.memberRanges parts ∧
    parts.length = requests.length := by
  obtain ⟨⟨builder, written⟩, hencode, h⟩ := Except.bind_eq_ok.mp h
  obtain ⟨hencodable, rfl, -⟩ := encode_eq_ok.mp hencode
  obtain ⟨finalized, hfinal, h⟩ := Except.bind_eq_ok.mp h
  obtain ⟨-, rfl⟩ := finalizeOffsets_eq_ok.mp hfinal
  obtain ⟨shielded, hprotect, h⟩ := Except.bind_eq_ok.mp h
  obtain ⟨⟨parts, hparts, hcount⟩, hlen⟩ := protect_framed
    { encoded requests segmentLimit with state := .offsetsFinalized } (framed_encoded hencodable)
    hprotect
  obtain ⟨-, -, rfl⟩ := (seal_eq_ok (hlen ▸ hencodable.fits)).mp h
  exact ⟨parts, hparts, hcount.trans length_members⟩

def unsigned (requests : List PlainRequest) : WireMessage :=
  { metadata := (members requests).flatten
    payloads := []
    memberRanges := if 1 < requests.length then ranges 0 (members requests) else []
    totalLen := (members requests).flatten.length }

theorem build_unsigned (h : Encodable requests segmentLimit) :
    build requests segmentLimit none = .ok (unsigned requests) := by
  refine Except.bind_eq_ok.mpr ⟨_, encode_eq_ok.mpr ⟨h, rfl, rfl⟩, Except.bind_eq_ok.mpr
    ⟨_, finalizeOffsets_eq_ok.mpr ⟨rfl, rfl⟩, Except.bind_eq_ok.mpr
      ⟨_, finishUnsigned_eq_ok.mpr ⟨rfl, rfl, rfl⟩, ?_⟩⟩⟩
  exact (seal_eq_ok h.fits).mpr ⟨rfl, h.fits, rfl⟩

theorem build_unsigned_iff :
    (∃ message, build requests segmentLimit none = .ok message) ↔
      Encodable requests segmentLimit := by
  constructor
  · rintro ⟨message, h⟩
    obtain ⟨⟨builder, written⟩, hencode, -⟩ := Except.bind_eq_ok.mp h
    exact (encode_eq_ok.mp hencode).1
  · intro h
    exact ⟨_, build_unsigned h⟩

end WireBuilder

end Msg
