import SmbClient.Msg.Response

/-!
# How the encoding of an error response is read

The body of an error response is read back as it when no layout of the command reads it before:
`readOwn_eq_none_iff` says for which commands that is.
-/

namespace Msg

open Octets ResponseContent ErrorResponseContext

/-! ## Reading back what was written -/

theorem le_alignBefore (position : ℕ) : position ≤ alignBefore position := Nat.le_add_right _ _

theorem ErrorId.code_lt (id : ErrorId) : id.code < 256 ^ 4 := by cases id <;> decide

namespace ErrorResponseContext

variable (position : ℕ)

variable (context : ErrorResponseContext)

def endOf : ℕ :=
  alignBefore position + 8 + context.errorData.length

def write : Octets :=
  List.replicate (alignBefore position - position) 0 ++
    (encode 4 context.errorData.length ++ (encode 4 context.errorId.code ++ context.errorData))

theorem writeAll_cons (rest : List ErrorResponseContext) : writeAll position (context :: rest) =
      context.write position ++ writeAll (context.endOf position) rest := by
  simp [writeAll, write, endOf]

theorem length_write : position + (context.write position).length = context.endOf position := by
  have hle := le_alignBefore position
  simp only [write, endOf, List.length_append, List.length_replicate, length_encode]
  omega

theorem readAll_writeAll (contexts : List ErrorResponseContext) (before : Octets)
    (hfits : (writeAll before.length contexts).length < 2 ^ 32) :
    readAll (before ++ writeAll before.length contexts) contexts.length before.length =
      some contexts := by
  induction contexts generalizing before with
  | nil => rfl
  | cons context rest ih =>
    set position := before.length with hposition
    have hlength := context.length_write position
    rw [writeAll_cons, List.length_append] at hfits
    have hle := le_alignBefore position
    have hdata : context.errorData.length < 256 ^ 4 := by
      unfold endOf at hlength
      omega
    -- What stands before each of the three fields of the context.
    set pad : Octets := List.replicate (alignBefore position - position) 0 with hpad
    have hstart : (before ++ pad).length = alignBefore position := by
      rw [List.length_append, List.length_replicate]
      omega
    have hid : (before ++ pad ++ encode 4 context.errorData.length).length =
        alignBefore position + 4 := by
      rw [List.length_append, hstart, length_encode]
    have hbody : (before ++ pad ++ encode 4 context.errorData.length ++
        encode 4 context.errorId.code).length = alignBefore position + 8 := by
      rw [List.length_append, hid, length_encode]
    have hrest := ih (before ++ context.write position) (by
      rw [List.length_append, hlength]
      omega)
    rw [List.length_append, hlength] at hrest
    rw [writeAll_cons, List.length_cons, readAll]
    have hlen := @field?_encode context.errorData.length _ 4 (before ++ pad)
      (encode 4 context.errorId.code ++
        (context.errorData ++ writeAll (context.endOf position) rest)) hstart hdata
    have hcode := @field?_encode context.errorId.code _ 4
      (before ++ pad ++ encode 4 context.errorData.length)
      (context.errorData ++ writeAll (context.endOf position) rest) hid context.errorId.code_lt
    have hslice := @slice?_append _ _ _ context.errorData
      (writeAll (context.endOf position) rest) hbody rfl
    simp only [write, ← hpad, List.append_assoc] at hlen hcode hslice hrest ⊢
    rw [hlen]
    simp only [Option.bind_eq_bind, Option.bind_some, hcode, ErrorId.ofCode_code, hslice]
    unfold endOf at hrest ⊢
    rw [hrest]
    rfl

end ErrorResponseContext

/-! ## The fields of an encoded error response -/

structure ErrorResponse.Encodes (e : ErrorResponse) (raw : Octets) (byteCount : ℕ) : Prop where
  contexts : (writeAll dataOffset e.errorData).length = byteCount
  fits : byteCount < 2 ^ 32
  length : raw.length = dataOffset + byteCount
  size : raw.field? 64 2 = some 9
  count : raw.field? 66 1 = some e.errorData.length
  reserved : raw.field? 67 1 = some 0
  bytes : raw.field? 68 4 = some byteCount
  data : raw.drop dataOffset = writeAll dataOffset e.errorData

namespace ErrorResponse

variable {e : ErrorResponse} {raw : Octets} {byteCount : ℕ}

/-- What is written for an error is an encoding of it. -/
theorem write_encodes (hlong : Header.structSize ≤ raw.length)
    (h : e.write = some (raw.drop Header.structSize)) : ∃ byteCount, e.Encodes raw byteCount := by
  unfold write at h
  dsimp only at h
  split at h
  case isFalse => cases h
  rename_i hfits
  set data := writeAll dataOffset e.errorData
  have hbody := (Option.some.inj h).symm
  have hraw : raw = raw.take 64 ++ raw.drop Header.structSize := (List.take_append_drop 64 raw).symm
  have hhead : (raw.take 64).length = 64 := by
    rw [List.length_take]
    exact Nat.min_eq_left hlong
  rw [hbody] at hraw
  refine ⟨data.length, rfl, hfits.2, ?_, ?_, ?_, ?_, ?_, ?_⟩
  all_goals rw [hraw]
  · simp [hhead, dataOffset]
    omega
  · exact field?_encode hhead (by decide)
  · rw [← List.append_assoc]
    exact field?_encode (by simp [hhead]) (by simpa using hfits.1)
  · rw [← List.append_assoc, ← List.append_assoc]
    exact field?_encode (by simp [hhead]) (by decide)
  · rw [← List.append_assoc, ← List.append_assoc, ← List.append_assoc]
    exact field?_encode (by simp [hhead]) (by simpa using hfits.2)
  · rw [← List.append_assoc, ← List.append_assoc, ← List.append_assoc, ← List.append_assoc,
      List.drop_left']
    simp [hhead, dataOffset]

section

variable (h : e.Encodes raw byteCount)
include h

/-- **An error response is read back from the body it is written to.** -/
theorem Encodes.read : ErrorResponse.read raw = some e := by
  have hhead : (raw.take dataOffset).length = dataOffset := by
    rw [List.length_take, h.length]
    omega
  have hwhole : raw.take (dataOffset + byteCount) = raw := List.take_of_length_le h.length.le
  have hsplit : raw = raw.take dataOffset ++ writeAll dataOffset e.errorData := by
    rw [← h.data, List.take_append_drop]
  have hcontexts := readAll_writeAll e.errorData (raw.take dataOffset)
    (by rw [hhead, h.contexts]; exact h.fits)
  rw [hhead, ← hsplit] at hcontexts
  simp only [ErrorResponse.read, h.size, h.count, h.reserved, h.bytes, hwhole, hcontexts,
    Option.bind_eq_bind, Option.bind_some, guard_true, Option.pure_def]

/-! ## The layouts of the same structure size -/

theorem Encodes.reads (offset width : ℕ) (hin : offset + width ≤ dataOffset) :
    raw.field? offset width = some (raw.field offset width) :=
  field?_of_le (by rw [h.length]; omega)

theorem Encodes.offset : raw.field 66 2 = e.errorData.length := by
  have hcount := (field?_eq_some.mp h.count).2
  have hreserved := (field?_eq_some.mp h.reserved).2
  have hroom : 66 + 1 ≤ raw.length := by rw [h.length, dataOffset]; omega
  rw [field_add raw 66 1 1 hroom, hcount, hreserved, Nat.mul_zero, Nat.add_zero]

theorem Encodes.sessionSetup : (SessionSetupResponse.read raw).isSome := by
  have hbytes := (field?_eq_some.mp h.bytes).2
  rw [field_add raw 68 2 2 (by rw [h.length, dataOffset]; omega),
    show 68 + 2 = 70 from rfl] at hbytes
  have hroom : 72 + raw.field 70 2 ≤ raw.length := by
    rw [h.length, dataOffset]
    omega
  simp only [SessionSetupResponse.read, h.size, h.reads 66 2 (by decide),
    h.reads 68 2 (by decide),
    h.reads 70 2 (by decide), slice?_of_le hroom, Option.bind_eq_bind,
    Option.bind_some, guard_true, Option.pure_def, Option.isSome_some]

theorem Encodes.outputBuffer : (OutputBuffer.read raw).isSome := by
  simp only [OutputBuffer.read, h.size, h.reads 66 2 (by decide),
    h.bytes, Option.bind_eq_bind, Option.bind_some, guard_true, Option.pure_def,
    Option.isSome_some]

theorem Encodes.changeNotify : ChangeNotifyResponse.read raw =
      if e.errorData = [] then some []
      else ChainedItemList.readFrom 4 FileNotifyInformation.read
        (raw.take (e.errorData.length + byteCount)) e.errorData.length := by
  have hnone : byteCount = 0 ↔ e.errorData = [] := by
    rw [← h.contexts]
    constructor
    · intro hzero
      cases hdata : e.errorData with
      | nil => rfl
      | cons context rest =>
        rw [hdata] at hzero
        simp [writeAll] at hzero
    · intro hempty
      rw [hempty]
      rfl
  simp only [ChangeNotifyResponse.read, h.size, h.reads 66 2 (by decide),
    h.bytes, h.offset, Option.bind_eq_bind, Option.bind_some, guard_true, ChainedItemList.read,
    Nat.left_eq_add, hnone, Option.pure_def]

theorem Encodes.notification : ServerToClientNotification.read raw = none := by
  have hlength := h.length
  by_cases hempty : byteCount = 0
  · have hend : raw.field? 72 4 = none := if_neg (by rw [hlength, dataOffset]; omega)
    simp only [ServerToClientNotification.read, hend, Option.bind_eq_bind,
      Option.bind_none, Option.bind_fun_none]
  · simp [ServerToClientNotification.read, h.bytes, hempty]

end

end ErrorResponse

/-! ## Which layout wins -/

/-- No layout of the command reads the encoding of `e` that is the body of `raw`. -/
def ErrorResponse.Told (e : ErrorResponse) (command : Command) (raw : Octets) : Prop :=
  command ≠ .sessionSetup ∧ command ≠ .queryDirectory ∧ command ≠ .queryInfo ∧
    (command = .changeNotify → e.errorData ≠ [] ∧
      ChainedItemList.readFrom 4 FileNotifyInformation.read
        (raw.take (e.errorData.length + (raw.length - dataOffset))) e.errorData.length = none)

variable {e : ErrorResponse} {raw : Octets} {byteCount : ℕ}

section
variable (h : e.Encodes raw byteCount) (fields : Command → ℕ → Octets → Bool) (command : Command)
include h

theorem ErrorResponse.Encodes.readsOther (hsize : 9 ∉ command.structureSizes) :
    command.readsOther fields raw = false := by
  unfold Command.readsOther
  rw [List.any_eq_false]
  intro size hmem
  have hne : size ≠ 9 := fun heq => hsize (heq ▸ hmem)
  simp [h.size, hne.symm]

/-- An error is told exactly if no layout of the command reads it. -/
theorem ErrorResponse.Encodes.readOwn_eq_none_iff :
    readOwn fields command raw = none ↔ e.Told command raw := by
  have hbytes : raw.length - dataOffset = byteCount := by
    rw [h.length]
    omega
  have hsetup := Option.ne_none_iff_isSome.mpr h.sessionSetup
  have hbuffer := Option.ne_none_iff_isSome.mpr h.outputBuffer
  unfold Told
  cases command with
  | sessionSetup =>
    simp [readOwn, hsetup]
  | queryDirectory | queryInfo =>
    simp [readOwn, hbuffer]
  | changeNotify =>
    simp only [readOwn, h.changeNotify]
    split <;> simp_all
  | serverToClientNotification => simp [readOwn, h.notification]
  | _ =>
    simp only [readOwn, ne_eq, reduceCtorEq, not_false_eq_true, false_imp_iff,
      and_self, iff_true, ite_eq_right_iff, imp_false, Bool.not_eq_true]
    exact h.readsOther fields _ (by decide)

theorem ErrorResponse.Encodes.content_eq_error_iff :
    ResponseContent.read fields command raw = some .error ↔ e.Told command raw := by
  rw [← h.readOwn_eq_none_iff fields]
  unfold ResponseContent.read
  cases hown : readOwn fields command raw with
  | none => simp [h.read]
  | some content =>
    simp only [reduceCtorEq, iff_false, Option.some.injEq]
    rintro rfl
    cases command <;>
      simp [readOwn] at hown

end

end Msg
