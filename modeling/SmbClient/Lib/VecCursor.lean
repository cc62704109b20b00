import SmbClient.Lib.Run
import SmbClient.Lib.Octets

/-!
# Writable byte cursors

`VecCursor` is `std::io::Cursor<Vec<u8>>` where a `usize` has 64 bits: a write behind the end fills
the gap with zeros, and one that ends where no `Vec` can panics.
-/

namespace Octets

def overwrite (bs : Octets) (start : ℕ) (new : Octets) : Octets :=
  (bs ++ List.replicate (start - bs.length) 0).splice start new

/-- It is enough to grow to the end of what is written. -/
theorem overwrite_eq (bs : Octets) (start : ℕ) (new : Octets) :
    bs.overwrite start new =
      (bs ++ List.replicate (start + new.length - bs.length) 0).splice start new := by
  have front (n : ℕ) (h : start - bs.length ≤ n) : (bs ++ List.replicate n (0 : UInt8)).take start =
      bs.take start ++ List.replicate (start - bs.length) 0 := by
    rw [List.take_append, List.take_replicate, Nat.min_eq_left h]
  have back (n : ℕ) (h : n ≤ start + new.length - bs.length) :
      (bs ++ List.replicate n (0 : UInt8)).drop (start + new.length) = bs.drop
      (start + new.length) := by
    rw [List.drop_append, List.drop_replicate, Nat.sub_eq_zero_of_le h, List.replicate_zero,
      List.append_nil]
  unfold overwrite splice
  rw [front _ le_rfl, front _ (by omega), back _ (by omega), back _ le_rfl]

theorem overwrite_append (as bs : Octets) (start : ℕ) (new : Octets) :
    (as ++ bs).overwrite (as.length + start) new = as ++ bs.overwrite start new := by
  rw [overwrite, List.length_append, Nat.add_sub_add_left, List.append_assoc, splice_append_right]
  rfl

end Octets

/-- `std::io::SeekFrom`. -/
inductive SeekFrom where
  | start (offset : UInt64)
  | current (offset : ℤ)
  | ending (offset : ℤ)

structure VecCursor where
  bytes : Octets
  position : ℕ
deriving DecidableEq

namespace VecCursor

inductive Call where
  | write (buffer : Octets)
  | seek (target : SeekFrom)

inductive Answer where
  | done (n : ℕ)
  | failed
  | panicked
deriving DecidableEq

def isizeMax : ℕ := 2 ^ 63 - 1

variable (c : VecCursor)

def put (buffer : Octets) : VecCursor :=
  ⟨c.bytes.overwrite c.position buffer, c.position + buffer.length⟩

def write (buffer : Octets) : VecCursor × Answer :=
  if isizeMax < c.position + buffer.length then (c, .panicked)
  else (c.put buffer, .done buffer.length)

def seekBy (base : ℕ) (offset : ℤ) : VecCursor × Answer :=
  if 0 ≤ base + offset ∧ base + offset < 2 ^ 64 then
    ({ c with position := (base + offset).toNat }, .done (base + offset).toNat)
  else (c, .failed)

def seek : SeekFrom → VecCursor × Answer
  | .start offset => ({ c with position := offset.toNat }, .done offset.toNat)
  | .current offset => c.seekBy c.position offset
  | .ending offset => c.seekBy c.bytes.length offset

def step : Call → VecCursor × Answer
  | .write buffer => c.write buffer
  | .seek target => c.seek target

end VecCursor
