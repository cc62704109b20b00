import Mathlib.Data.List.Basic
import Mathlib.Algebra.GroupWithZero.Nat
import Mathlib.Tactic.Ring

/-!
# Byte strings

`field` reads the little-endian number at an offset, `encode` writes one, `splice` replaces bytes at
an offset. `field?` and `slice?` fail when the string ends before they do.
-/

abbrev Octets : Type := List UInt8

structure ByteRange where
  start : ℕ
  stop : ℕ

def ByteRange.get (range : ByteRange) (bytes : Octets) : Option Octets :=
  if range.start ≤ range.stop ∧ range.stop ≤ bytes.length then
    some ((bytes.take range.stop).drop range.start)
  else none

namespace Octets

/-- The little-endian number a byte string spells. -/
def decode : Octets → ℕ
  | [] => 0
  | b :: bs => b.toNat + 256 * decode bs

def encode : ℕ → ℕ → Octets
  | 0, _ => []
  | width + 1, n => UInt8.ofNat n :: encode width (n / 256)

variable (bs : Octets)

def field (offset width : ℕ) : ℕ := decode ((bs.drop offset).take width)

def splice (offset : ℕ) (new : Octets) : Octets :=
  bs.take offset ++ new ++ bs.drop (offset + new.length)

def field? (offset width : ℕ) : Option ℕ :=
  if offset + width ≤ bs.length then some (bs.field offset width) else none

def slice? (offset width : ℕ) : Option Octets :=
  if offset + width ≤ bs.length then some ((bs.drop offset).take width) else none

variable {bs : Octets} {n offset width : ℕ}

/-! ## Numbers -/

@[simp] theorem length_encode (width n : ℕ) : (encode width n).length = width := by
  induction width generalizing n with
  | zero => rfl
  | succ width ih => rw [encode, List.length_cons, ih]

theorem decode_encode_mod (width n : ℕ) : decode (encode width n) = n % 256 ^ width := by
  induction width generalizing n with
  | zero => rw [encode, decode, pow_zero, Nat.mod_one]
  | succ width ih =>
    rw [encode, decode, ih, UInt8.toNat_ofNat', Nat.pow_succ' (n := width), Nat.mod_mul]

theorem decode_encode (h : n < 256 ^ width) : decode (encode width n) = n := by
  rw [decode_encode_mod, Nat.mod_eq_of_lt h]

theorem encode_zero (width : ℕ) : encode width 0 = List.replicate width 0 := by
  induction width with
  | zero => rfl
  | succ width ih => rw [encode, ih]; rfl

theorem encode_mod (width n : ℕ) : encode width (n % 256 ^ width) = encode width n := by
  induction width generalizing n with
  | zero => rfl
  | succ width ih =>
    have hlow : n % 256 ^ (width + 1) % 256 = n % 256 := by
      rw [Nat.pow_succ', Nat.mod_mul_right_mod]
    have hhigh : n % 256 ^ (width + 1) / 256 = n / 256 % 256 ^ width := by
      rw [Nat.pow_succ', Nat.mod_mul_right_div_self]
    rw [encode, hhigh, ih]
    congr 1
    exact UInt8.toNat_inj.mp (by rw [UInt8.toNat_ofNat']; exact hlow)

theorem decode_append (as bs : Octets) :
    decode (as ++ bs) = decode as + 256 ^ as.length * decode bs := by
  induction as with
  | nil => simp [decode]
  | cons a as ih =>
    rw [List.cons_append, decode, decode, ih, List.length_cons]
    ring

theorem field_add (bs : Octets) (offset low high : ℕ) (h : offset + low ≤ bs.length) :
    bs.field offset (low + high) = bs.field offset low + 256 ^ low * bs.field
    (offset + low) high := by
  have hsplit : (bs.drop offset).take (low + high) =
      (bs.drop offset).take low ++ (bs.drop (offset + low)).take high := by
    rw [List.take_add, List.drop_drop]
  have hlow : ((bs.drop offset).take low).length = low := by
    rw [List.length_take, List.length_drop]
    omega
  rw [field, hsplit, decode_append, hlow]
  rfl

/-! ## Reads of a cursor -/

theorem field?_eq_some {value : ℕ} :
    bs.field? offset width = some value ↔
      offset + width ≤ bs.length ∧ bs.field offset width = value := by
  unfold field?
  split <;> simp_all

theorem field?_of_le (h : offset + width ≤ bs.length) :
    bs.field? offset width = some (bs.field offset width) := if_pos h

theorem slice?_of_le (h : offset + width ≤ bs.length) :
    bs.slice? offset width = some ((bs.drop offset).take width) := if_pos h

theorem field?_encode {before after : Octets} (hat : before.length = offset) (h : n < 256 ^ width) :
    (before ++ (encode width n ++ after)).field? offset width = some n := by
  have hlen : (encode width n).length = width := length_encode width n
  rw [field?_of_le (by simp [hat]), field, ← hat, List.drop_left]
  nth_rewrite 1 [← hlen]
  rw [List.take_left, decode_encode h]

theorem slice?_append {before data after : Octets} (hat : before.length = offset)
    (hlen : data.length = width) :
    (before ++ (data ++ after)).slice? offset width = some data := by
  rw [slice?_of_le (by simp [hat, hlen]), ← hat, ← hlen, List.drop_left, List.take_left]

/-! ## Numbers of a longer string -/

theorem field_append_left {as : Octets} (h : offset + width ≤ as.length) :
    (as ++ bs).field offset width = as.field offset width := by
  rw [field, field, List.drop_append_of_le_length (by omega),
    List.take_append_of_le_length (by rw [List.length_drop]; omega)]

theorem field_append_right (as bs : Octets) (offset width : ℕ) :
    (as ++ bs).field (as.length + offset) width = bs.field offset width := by
  rw [field, field, ← List.drop_drop, List.drop_left]

theorem field_encode (as : Octets) (n : ℕ) :
    (as ++ (encode width n ++ bs)).field as.length width = n % 256 ^ width := by
  have hlen : (encode width n).length = width := length_encode width n
  have hfirst := field_append_right as (encode width n ++ bs) 0 width
  rw [Nat.add_zero] at hfirst
  rw [hfirst, field_append_left (by omega), field, List.drop_zero]
  nth_rewrite 1 [← hlen]
  rw [List.take_length, decode_encode_mod]

theorem field_of_eq {whole as after : Octets} {n : ℕ} (h : whole = as ++ (encode width n ++ after))
    (hlen : as.length = offset) : whole.field offset width = n % 256 ^ width := by
  rw [h, ← hlen, field_encode]

/-! ## Replaced bytes -/

section splice

variable {as new : Octets}

theorem length_splice (h : offset + new.length ≤ bs.length) :
    (bs.splice offset new).length = bs.length := by
  unfold splice
  rw [List.length_append, List.length_append, List.length_take, List.length_drop]
  omega

theorem take_splice (h : offset ≤ bs.length) :
    (bs.splice offset new).take (offset + new.length) = bs.take offset ++ new := by
  have hfront : (bs.take offset ++ new).length = offset + new.length := by
    rw [List.length_append, List.length_take, Nat.min_eq_left h]
  rw [splice, ← hfront, List.take_left]

theorem take_splice_before (h : n ≤ offset) (hlong : n ≤ bs.length) :
    (bs.splice offset new).take n = bs.take n := by
  rw [splice, List.append_assoc, List.take_append_of_le_length, List.take_take, Nat.min_eq_left h]
  rw [List.length_take]
  omega

theorem splice_append_left (h : offset + new.length ≤ as.length) :
    (as ++ bs).splice offset new = as.splice offset new ++ bs := by
  unfold splice
  rw [List.take_append_of_le_length (by omega), List.drop_append_of_le_length h,
    List.append_assoc, List.append_assoc, List.append_assoc]

theorem splice_append_right (as bs : Octets) (offset : ℕ) (new : Octets) :
    (as ++ bs).splice (as.length + offset) new = as ++ bs.splice offset new := by
  unfold splice
  rw [List.take_length_add_append, Nat.add_assoc, List.drop_length_add_append]
  simp only [List.append_assoc]

theorem splice_middle (as bs : Octets) {old new : Octets} (h : new.length = old.length) :
    (as ++ (old ++ bs)).splice as.length new = as ++ (new ++ bs) := by
  have hright := splice_append_right as (old ++ bs) 0 new
  rw [Nat.add_zero] at hright
  rw [hright, splice_append_left (by omega)]
  unfold splice
  rw [Nat.zero_add, h, List.drop_length, List.take_zero, List.nil_append, List.append_nil]

theorem splice_splice {old : Octets} (h : new.length = old.length)
    (hroom : offset + old.length ≤ bs.length) :
    (bs.splice offset old).splice offset new = bs.splice offset new := by
  have hfront : (bs.take offset).length = offset := by
    rw [List.length_take]
    omega
  have hold : bs.splice offset old = bs.take offset ++ (old ++ bs.drop (offset + old.length)) :=
    List.append_assoc _ _ _
  have hmiddle := splice_middle (bs.take offset) (bs.drop (offset + old.length)) h
  rw [hfront] at hmiddle
  rw [hold, hmiddle, splice, h, List.append_assoc]

theorem field_splice_before {start : ℕ} (h : offset + width ≤ start) (hstart : start ≤ bs.length) :
    (bs.splice start new).field offset width = bs.field offset width := by
  have hfront : (bs.take start).length = start := by
    rw [List.length_take]
    omega
  unfold splice
  rw [List.append_assoc, field_append_left (by omega)]
  conv_rhs => rw [← List.take_append_drop start bs]
  rw [field_append_left (by omega)]

end splice


theorem splice_take_append_drop {new : Octets} (h : offset + new.length ≤ n) :
    splice (bs.take n) offset new ++ bs.drop n = splice bs offset new := by
  unfold splice
  have hdrop : (bs.take n).drop (offset + new.length) ++ bs.drop n = bs.drop
      (offset + new.length) := by
    conv_rhs => rw [← List.take_append_drop n bs]
    rw [List.drop_append, List.length_take]
    by_cases hn : n ≤ bs.length
    · rw [Nat.min_eq_left hn, Nat.sub_eq_zero_of_le h, List.drop_zero]
    · have hlong : bs.length ≤ n := Nat.le_of_not_le hn
      rw [List.drop_eq_nil_of_le hlong, List.drop_nil]
  rw [List.take_take, Nat.min_eq_left (Nat.le_of_add_right_le h), List.append_assoc, hdrop]

end Octets

/-! ## Reading that may fail -/

namespace Except

variable {ε α β : Type} {x : Except ε α} {f : α → Except ε β}

theorem bind_eq_ok {b : β} : (x >>= f) = .ok b ↔ ∃ a, x = .ok a ∧ f a = .ok b := by
  cases x <;> simp [bind, Except.bind]

theorem bind_eq_error {e : ε} :
    (x >>= f) = .error e ↔ x = .error e ∨ ∃ a, x = .ok a ∧ f a = .error e := by
  cases x <;> simp [bind, Except.bind]

end Except
