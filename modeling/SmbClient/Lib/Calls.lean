import Mathlib.Data.List.Basic

/-!
# Calls in progress

The entry of a call is the point it has reached. The lemmas say what an entry of the list was
before.
-/

namespace Calls

variable {α : Type} {l : List α} {x w : α} {i j : ℕ}

theorem getElem?_concat_cases (h : (l ++ [x])[i]? = some w) :
    l[i]? = some w ∨ i = l.length ∧ w = x := by
  rcases Nat.lt_trichotomy i l.length with hi | hi | hi
  · rw [List.getElem?_append_left hi] at h
    exact .inl h
  · subst hi
    rw [List.getElem?_concat_length] at h
    exact .inr ⟨rfl, (Option.some.inj h).symm⟩
  · rw [List.getElem?_eq_none (by simp; omega)] at h
    cases h

theorem getElem?_append_cases {r : List α} (h : (l ++ r)[i]? = some w) :
    l[i]? = some w ∨ l.length ≤ i ∧ w ∈ r := by
  rcases Nat.lt_or_ge i l.length with hi | hi
  · rw [List.getElem?_append_left hi] at h
    exact .inl h
  · rw [List.getElem?_append_right hi] at h
    exact .inr ⟨hi, List.mem_of_getElem? h⟩

/-- After a change at `i` an entry is the new one, or another one that was there. -/
theorem getElem?_set_cases (h : (l.set i x)[j]? = some w) :
    j = i ∧ w = x ∨ j ≠ i ∧ l[j]? = some w := by
  rw [List.getElem?_set] at h
  by_cases hj : i = j
  · rw [if_pos hj] at h
    split at h
    · exact .inl ⟨hj.symm, (Option.some.inj h).symm⟩
    · cases h
  · rw [if_neg hj] at h
    exact .inr ⟨Ne.symm hj, h⟩

theorem getElem?_concat_of (x : α) (h : l[i]? = some w) : (l ++ [x])[i]? = some w := by
  rw [List.getElem?_append_left (List.getElem?_eq_some_iff.mp h).1]
  exact h

end Calls
