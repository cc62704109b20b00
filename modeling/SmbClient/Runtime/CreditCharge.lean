import Mathlib.Order.Bounds.Basic
import SmbClient.Runtime.Operation

/-!
# Credit charges (`plain.rs`, `runtime/operation.rs`)

The sizes of an IOCTL are added in `u32`: a build with overflow checks panics, another one wraps.
Its buffer is counted with the room for the output, which is not sent.
-/

namespace Runtime

open Msg

/-- The content of a request, by the fields a charge depends on. -/
inductive RequestContent where
  | read (length : UInt32)
  | write (length : UInt32)
  | queryDirectory (outputBufferLength : UInt32)
  | ioctl (bufferLen : ℕ) (maxInputResponse maxOutputResponse : UInt32)
  | other (command : Command) (free : TypedOperation.sized command = false)

namespace RequestContent

def command : RequestContent → Command
  | .read _ => .read
  | .write _ => .write
  | .queryDirectory _ => .queryDirectory
  | .ioctl .. => .ioctl
  | .other command _ => command

variable (checks : Bool)

/-- `a + b`; `none` is the panic of a build with overflow checks. -/
def add (a b : UInt32) : Option UInt32 :=
  if checks ∧ 2 ^ 32 ≤ a.toNat + b.toNat then none else some (a + b)

/-- `IoctlReqData::get_size`: `data.len() as u32`. -/
def getSize (bufferLen : ℕ) : UInt32 := .ofNat bufferLen

def reqPayloadSize : RequestContent → Option UInt32
  | .write length => some length
  | .ioctl bufferLen _ maxOutputResponse => add checks (getSize bufferLen) maxOutputResponse
  | _ => some 0

def expectedRespSize : RequestContent → Option UInt32
  | .read length => some length
  | .queryDirectory outputBufferLength => some outputBufferLength
  | .ioctl _ maxInputResponse maxOutputResponse => add checks maxInputResponse maxOutputResponse
  | _ => some 0

/-- `TypedOperation::credit_charge` of an operation with this content. -/
def creditCharge (content : RequestContent) (largeMtu : Bool) :
    Option (Except OperationContractError UInt16) := do
  let reqPayloadSize ← content.reqPayloadSize checks
  let expectedRespSize ← content.expectedRespSize checks
  some ((TypedOperation.anyStatus
    ⟨content.command, none, reqPayloadSize, expectedRespSize, false⟩).creditCharge largeMtu)

/-! ## What is charged for -/

/-- The larger of the payload and the expected response (MS-SMB2 3.3.5.12 to 3.3.5.18); the output
count of an IOCTL request is zero. -/
def size : RequestContent → ℕ
  | .read length | .write length | .queryDirectory length => length.toNat
  | .ioctl bufferLen input output => max (bufferLen + 0) (input.toNat + output.toNat)
  | .other .. => 0

def units (size : ℕ) : ℕ := 1 + (size - 1) / 65536

theorem units_least (size : ℕ) : IsLeast {n | 1 ≤ n ∧ size ≤ n * 65536} (units size) := by
  refine ⟨⟨Nat.le_add_right 1 _, ?_⟩, fun n ⟨positive, enough⟩ => ?_⟩ <;> unfold units <;> omega

/-- What is answered when `n` units are needed. -/
def demand (command : Command) (n : ℕ) : Except OperationContractError UInt16 :=
  if n ≤ 65535 then .ok (.ofNat n) else .error (.creditChargeOverflow command)

/-- `size` is covered by whatever number of units covers `total`. -/
def CoveredWith (size total : ℕ) : Prop :=
  ∀ n, 1 ≤ n → n ≤ 65535 → total ≤ n * 65536 → size ≤ n * 65536

/-- When the charge of an IOCTL is right, by its fields. A size that no number of units covers must
be refused, which wrapped sums may miss; else counting the output as sent must not take another
unit, or, if that sum wraps, the buffer must not need more than what comes back. -/
def Plain (checks : Bool) : RequestContent → Prop
  | .ioctl bufferLen input output =>
    let back := input.toNat + output.toNat
    let counted := bufferLen % 2 ^ 32 + output.toNat
    (checks = true → counted < 2 ^ 32 ∧ back < 2 ^ 32) ∧
      if 2 ^ 32 ≤ bufferLen ∨ 2 ^ 32 ≤ back then
        65535 * 65536 < counted % 2 ^ 32 ∨ 65535 * 65536 < back % 2 ^ 32
      else if counted < 2 ^ 32 then CoveredWith counted (max bufferLen back)
      else CoveredWith bufferLen back
  | _ => True

/-! ## Comparing charges -/

theorem units_le {size n : ℕ} (positive : 1 ≤ n) : units size ≤ n ↔ size ≤ n * 65536 := by
  unfold units
  omega

theorem demand_units_eq {command : Command} {a b : ℕ} :
    demand command (units a) = demand command (units b) ↔ CoveredWith a b ∧ CoveredWith b a := by
  have small {n : ℕ} (h : n ≤ 65535) : (UInt16.ofNat n).toNat = n :=
    Nat.mod_eq_of_lt (Nat.lt_succ_of_le h)
  have positive (size : ℕ) : 1 ≤ units size := Nat.le_add_right 1 _
  refine ⟨fun same => ?_, fun ⟨ab, ba⟩ => ?_⟩
  · -- Equal answers are equal numbers of units, or refusals on both sides.
    have cases : units a = units b ∨ 65535 < units a ∧ 65535 < units b := by
      unfold demand at same
      split_ifs at same
      · have := congrArg UInt16.toNat (Except.ok.inj same)
        rw [small ‹_›, small ‹_›] at this
        exact .inl this
      · exact .inr ⟨by omega, by omega⟩
    refine ⟨fun n hn fits cover => ?_, fun n hn fits cover => ?_⟩ <;>
      rw [← units_le hn] at cover ⊢ <;> omega
  · have ha := ba (units a) (positive a)
    have hb := ab (units b) (positive b)
    rw [← units_le (positive a), ← units_le (positive a)] at ha
    rw [← units_le (positive b), ← units_le (positive b)] at hb
    unfold demand
    by_cases hone : units a ≤ 65535
    · have := ha hone le_rfl
      rw [Nat.le_antisymm (hb (this.trans hone) le_rfl) this]
    · have : ¬ units b ≤ 65535 := fun h => hone ((hb h le_rfl).trans h)
      rw [if_neg hone, if_neg this]

theorem creditCharge_eq {content : RequestContent} {checks : Bool} {payload expected : UInt32}
    (hpayload : content.reqPayloadSize checks = some payload)
    (hexpected : content.expectedRespSize checks = some expected) :
    content.creditCharge checks true =
      some (demand content.command (units (max payload.toNat expected.toNat))) := by
  rw [creditCharge, hpayload, hexpected]
  cases content with
  | other command free =>
    cases hpayload
    cases hexpected
    simp [TypedOperation.creditCharge, TypedOperation.anyStatus, ResponsePolicy.any,
      RequestContent.command, free, units, demand]
  | _ => rfl

theorem add_eq_some {checks : Bool} {a b c : UInt32} : add checks a b = some c ↔
    (checks = true → a.toNat + b.toNat < 2 ^ 32) ∧ c.toNat = (a.toNat + b.toNat) % 2 ^ 32 := by
  have same : a + b = c ↔ c.toNat = (a.toNat + b.toNat) % 2 ^ 32 := by
    rw [← UInt32.toNat_add, eq_comm, UInt32.toNat_inj]
  unfold add
  rw [← same]
  split <;> simp_all

/-- What the wrapped sums cover is what has to be covered. -/
theorem covered_iff {len input output : ℕ} (hi : input < 2 ^ 32) (ho : output < 2 ^ 32) :
    CoveredWith (max ((len % 2 ^ 32 + output) % 2 ^ 32) ((input + output) % 2 ^ 32))
        (max len (input + output)) ∧
      CoveredWith (max len (input + output))
        (max ((len % 2 ^ 32 + output) % 2 ^ 32) ((input + output) % 2 ^ 32)) ↔
    if 2 ^ 32 ≤ len ∨ 2 ^ 32 ≤ input + output then
      65535 * 65536 < (len % 2 ^ 32 + output) % 2 ^ 32 ∨ 65535 * 65536 < (input + output) % 2 ^ 32
    else if len % 2 ^ 32 + output < 2 ^ 32 then
      CoveredWith (len % 2 ^ 32 + output) (max len (input + output))
    else CoveredWith len (input + output) := by
  split_ifs with large fits
  · -- Nothing covers that much.
    refine ⟨fun ⟨_, h⟩ => ?_, fun h => ⟨fun n _ hn cover => ?_, fun n _ hn cover => ?_⟩⟩
    · have := h 65535 (by omega) le_rfl
      omega
    all_goals omega
  · rw [Nat.mod_eq_of_lt fits, Nat.mod_eq_of_lt (show input + output < 2 ^ 32 by omega)]
    refine ⟨fun ⟨h, _⟩ n hn hle cover => ?_, fun h =>
      ⟨fun n hn hle cover => ?_, fun n _ _ cover => ?_⟩⟩
    · have := h n hn hle cover
      omega
    · have := h n hn hle cover
      omega
    · omega
  · rw [Nat.mod_eq_of_lt (show input + output < 2 ^ 32 by omega)]
    refine ⟨fun ⟨_, h⟩ n hn hle cover => ?_, fun h =>
      ⟨fun n _ _ cover => ?_, fun n hn hle cover => ?_⟩⟩
    · have := h n hn hle (by omega)
      omega
    · omega
    · have := h n hn hle (by omega)
      omega

theorem ioctl_charge_iff (checks : Bool) (len : ℕ) (input output : UInt32) :
    creditCharge checks (.ioctl len input output) true =
        some (demand .ioctl (units (size (.ioctl len input output)))) ↔
      Plain checks (.ioctl len input output) := by
  have hlen : (getSize len).toNat = len % 2 ^ 32 := UInt32.toNat_ofNat
  have covered := @covered_iff len _ _ input.toNat_lt output.toNat_lt
  unfold Plain
  by_cases fits : checks = true →
      len % 2 ^ 32 + output.toNat < 2 ^ 32 ∧ input.toNat + output.toNat < 2 ^ 32
  · have hpayload : reqPayloadSize checks (.ioctl len input output) = some (getSize len + output) :=
      add_eq_some.2 ⟨fun h => hlen ▸ (fits h).1, UInt32.toNat_add ..⟩
    have hexpected : expectedRespSize checks (.ioctl len input output) = some (input + output) :=
      add_eq_some.2 ⟨fun h => (fits h).2, UInt32.toNat_add ..⟩
    rw [creditCharge_eq hpayload hexpected, Option.some_inj, UInt32.toNat_add,
      UInt32.toNat_add, hlen]
    exact (demand_units_eq.trans covered).trans (and_iff_right fits).symm
  · -- A build with checks panics in one of the sums.
    refine iff_of_false (fun charged => fits fun on => ?_) fun h => fits h.1
    rw [creditCharge, Option.bind_eq_bind, Option.bind_eq_some_iff] at charged
    obtain ⟨payload, hpayload, charged⟩ := charged
    obtain ⟨expected, hexpected, -⟩ := Option.bind_eq_some_iff.1 charged
    exact ⟨hlen ▸ (add_eq_some.1 hpayload).1 on, (add_eq_some.1 hexpected).1 on⟩

/-- **The charge is the least number of 64 KiB units that covers both sizes**, or the overflow error
if that does not fit, exactly for the requests that are plain. -/
theorem charge_least (content : RequestContent) (checks : Bool) :
    (∃ n, IsLeast {n | 1 ≤ n ∧ content.size ≤ n * 65536} n ∧ content.creditCharge checks true =
      some (if n ≤ 65535 then .ok (.ofNat n) else .error (.creditChargeOverflow content.command))) ↔
    content.Plain checks := by
  have least : (∃ n, IsLeast {n | 1 ≤ n ∧ content.size ≤ n * 65536} n ∧
      content.creditCharge checks true = some (demand content.command n)) ↔
      content.creditCharge checks true = some (demand content.command (units content.size)) := by
    refine ⟨fun ⟨n, hn, charged⟩ => ?_, fun charged => ⟨_, units_least content.size, charged⟩⟩
    rw [charged, hn.unique (units_least content.size)]
  refine least.trans ?_
  cases content with
  | ioctl len input output => exact ioctl_charge_iff checks len input output
  | _ => exact iff_of_true ((creditCharge_eq rfl rfl).trans (by simp [size])) trivial

/-- The sums panic or wrap, and the room for the output is charged for as if it were sent. -/
theorem ioctl_overcharged :
    creditCharge true (.ioctl 1 0 0xFFFFFFFF) true = none ∧
    creditCharge false (.ioctl 1 1 0xFFFFFFFF) true = some (.ok 1) ∧
    size (.ioctl 1 1 0xFFFFFFFF) = 2 ^ 32 ∧
    (∀ checks, creditCharge checks (.ioctl 40000 0 40000) true = some (.ok 2)) ∧
    size (.ioctl 40000 0 40000) = 40000 :=
  ⟨rfl, rfl, rfl, by decide, rfl⟩

end RequestContent

end Runtime
