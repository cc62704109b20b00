import SmbClient.Lib.VecCursor

/-!
# The cursor of the metadata arena (`smb-msg/wire_out.rs`)
-/

namespace Msg

open VecCursor

structure MetadataCursor where
  arena : Octets
  base : ℕ
  position : ℕ
deriving DecidableEq

namespace MetadataCursor

def atEnd (arena : Octets) : MetadataCursor := ⟨arena, arena.length, 0⟩

def usizeMax : ℕ := 2 ^ 64 - 1

variable (c : MetadataCursor)

def write (buffer : Octets) : MetadataCursor × Answer :=
  let start := c.base + c.position
  let stop := start + buffer.length
  if usizeMax < start then (c, .failed)
  else if usizeMax < stop then (c, .failed)
  -- The arena is not that long, so that it is grown, and `resize` panics.
  else if isizeMax < stop then (c, .panicked)
  else
    let arena := c.arena ++ List.replicate (stop - c.arena.length) 0
    ({ c with arena := arena.splice start buffer, position := c.position + buffer.length },
      .done buffer.length)

/-- The end of `seek`, with the position it asks for. -/
def seekTo (next : ℤ) : MetadataCursor × Answer :=
  if next < 0 ∨ next > usizeMax then (c, .failed)
  else ({ c with position := next.toNat }, .done next.toNat)

def seek : SeekFrom → MetadataCursor × Answer
  | .start offset => c.seekTo offset.toNat
  | .current offset => c.seekTo (c.position + offset)
  | .ending offset => c.seekTo ((c.arena.length - c.base : ℕ) + offset)

def step : Call → MetadataCursor × Answer
  | .write buffer => c.write buffer
  | .seek target => c.seek target

/-! ## The cursor of the member alone -/

variable (before : Octets)

/-- A cursor over the bytes behind `before`. -/
def within (c : VecCursor) : MetadataCursor := ⟨before ++ c.bytes, before.length, c.position⟩

/-- No write ends where no arena can. -/
def Fits (c : VecCursor) : Call → Prop
  | .write buffer => before.length + c.position + buffer.length ≤ isizeMax
  | .seek _ => True

variable {before} {c : VecCursor}

theorem write_within {buffer : Octets} (h : Fits before c (.write buffer)) :
    (within before c).write buffer = (c.write buffer).map (within before) id := by
  have fits : before.length + c.position + buffer.length ≤ isizeMax := h
  have small : isizeMax < usizeMax := by decide
  have arena : (before ++ c.bytes ++ List.replicate
      (before.length + c.position + buffer.length - (before ++ c.bytes).length) 0).splice
        (before.length + c.position) buffer = before ++ c.bytes.overwrite c.position buffer := by
    rw [← Octets.overwrite_eq, Octets.overwrite_append]
  rw [VecCursor.write, if_neg (by omega)]
  refine (if_neg ?_).trans ((if_neg ?_).trans ((if_neg ?_).trans ?_))
  · change ¬usizeMax < before.length + c.position
    omega
  · change ¬usizeMax < before.length + c.position + buffer.length
    omega
  · change ¬isizeMax < before.length + c.position + buffer.length
    omega
  · exact congrArg (fun arena => (MetadataCursor.mk arena _ _, _)) arena

theorem seekTo_within (base : ℕ) (offset : ℤ) :
    (within before c).seekTo (base + offset) = (c.seekBy base offset).map (within before) id := by
  unfold seekTo VecCursor.seekBy usizeMax
  split_ifs
  all_goals first | rfl | omega

theorem seek_within (target : SeekFrom) :
    (within before c).seek target = (c.seek target).map (within before) id := by
  cases target with
  | start offset =>
    have := offset.toNat_lt
    exact if_neg (by unfold usizeMax; omega)
  | current offset => exact seekTo_within c.position offset
  | ending offset =>
    rw [seek, within, List.length_append, Nat.add_sub_cancel_left]
    exact seekTo_within c.bytes.length offset

theorem step_within (c : VecCursor) (call : Call) (h : Fits before c call) :
    (within before c).step call = (c.step call).map (within before) id := by
  cases call with
  | write buffer => exact write_within h
  | seek target => exact seek_within target

/-- What stands before the base, and that something does. -/
def Based (before : Octets) (c : MetadataCursor) : Prop :=
  c.base = before.length ∧ before <+: c.arena

theorem step_based (c : MetadataCursor) (call : Call) (h : Based before c) :
    Based before (c.step call).1 := by
  obtain ⟨base, after, arena⟩ := h
  cases call with
  | write buffer =>
    unfold step write
    dsimp only
    split_ifs
    · exact ⟨base, after, arena⟩
    · exact ⟨base, after, arena⟩
    · exact ⟨base, after, arena⟩
    · refine ⟨base, ?_⟩
      rw [← arena, base, List.append_assoc, Octets.splice_append_right]
      exact List.prefix_append _ _
  | seek target =>
    have kept (next : ℤ) : Based before (c.seekTo next).1 := by
      unfold seekTo
      split_ifs <;> exact ⟨base, after, arena⟩
    cases target <;> exact kept _

/-- A write that ends where no arena can leaves the cursor as it is. -/
theorem write_behind (c : MetadataCursor) {buffer : Octets}
    (far : isizeMax < c.base + c.position + buffer.length) :
    c.write buffer =
      (c, if usizeMax < c.base + c.position + buffer.length then .failed else .panicked) := by
  unfold write
  dsimp only
  split_ifs
  all_goals first | rfl | omega

/-- **A member's cursor is one over the member alone**: as long as no write ends behind `isize::MAX`
of the arena it gives the same answers and leaves the same bytes. In any case what stands before the
member is kept, and a write that ends behind is refused or panics and changes nothing. -/
theorem member_cursor_refines (before : Octets) (c : VecCursor) (calls : List Call) :
    Based before (trace step (within before c) calls).1 ∧
    (Meets (fun c call => (c.step call).1) (Fits before) c calls →
      trace step (within before c) calls = (trace VecCursor.step c calls).map (within before) id) ∧
    ∀ reached buffer, reached = (trace step (within before c) calls).1 →
      isizeMax < reached.base + reached.position + buffer.length →
      reached.step (.write buffer) = (reached,
        if usizeMax < reached.base + reached.position + buffer.length then .failed else
          .panicked) :=
  ⟨trace_invariant step_based ⟨rfl, List.prefix_append _ _⟩, Meets.trace_map step_within,
    fun reached _ _ far => reached.write_behind far⟩

/-- Far behind the end the arena's cursor fails, where that of a `Vec` panics. -/
theorem far_write_refused :
    trace step (atEnd []) [.seek (.start (.ofNat usizeMax)), .write [0]] =
      (⟨[], 0, usizeMax⟩, [.done usizeMax, .failed]) ∧
    trace VecCursor.step ⟨[], 0⟩ [.seek (.start (.ofNat usizeMax)), .write [0]] =
      (⟨[], usizeMax⟩, [.done usizeMax, .panicked]) := by
  decide +kernel

end MetadataCursor

end Msg
