import Mathlib.Algebra.GroupWithZero.Nat

/-!
# Fixed-width unsigned arithmetic on `ℕ`

`checkedAdd` reports overflow, `saturatingAdd` stops at the largest value; saturating subtraction is
the subtraction of `ℕ`.
-/

namespace Machine

def maxValue (w : ℕ) : ℕ := 2 ^ w - 1

def checkedAdd (w a b : ℕ) : Option ℕ := if a + b < 2 ^ w then some (a + b) else none

/-- Addition that stops at `maxValue w`. -/
def saturatingAdd (w a b : ℕ) : ℕ := min (a + b) (maxValue w)

variable {w a b c : ℕ}

theorem checkedAdd_eq_some : checkedAdd w a b = some c ↔ a + b < 2 ^ w ∧ c = a + b := by
  unfold checkedAdd
  split
  · rename_i h
    simp [h, eq_comm]
  · rename_i h
    simp [h]

/-- Adding lengths up in checked steps fails exactly if the sum does not fit. -/
theorem foldlM_checkedAdd {α : Type*} (segments : List (List α)) {start n : ℕ}
    (hstart : start < 2 ^ w) :
    segments.foldlM (fun total segment => checkedAdd w total segment.length) start = some n ↔
      start + segments.flatten.length < 2 ^ w ∧ start + segments.flatten.length = n := by
  induction segments generalizing start with
  | nil =>
    rw [List.foldlM_nil, List.flatten_nil, List.length_nil, Nat.add_zero]
    exact ⟨fun h => ⟨hstart, Option.some.inj h⟩, fun h => congrArg some h.2⟩
  | cons segment rest ih =>
    rw [List.foldlM_cons, List.flatten_cons, List.length_append, Option.bind_eq_bind,
      Option.bind_eq_some_iff, ← Nat.add_assoc]
    constructor
    · rintro ⟨total, htotal, hrest⟩
      obtain ⟨hfits, rfl⟩ := checkedAdd_eq_some.mp htotal
      exact (ih hfits).mp hrest
    · intro h
      have hfits : start + segment.length < 2 ^ w := by omega
      exact ⟨_, checkedAdd_eq_some.mpr ⟨hfits, rfl⟩, (ih hfits).mpr h⟩

theorem checkedAdd_eq_none : checkedAdd w a b = none ↔ 2 ^ w ≤ a + b := by
  unfold checkedAdd
  split
  · rename_i h
    simp [h]
  · rename_i h
    simpa using h

theorem saturatingAdd_of_le (h : a + b ≤ maxValue w) : saturatingAdd w a b = a + b :=
  Nat.min_eq_left h

end Machine
