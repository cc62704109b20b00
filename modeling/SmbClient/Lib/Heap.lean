import Mathlib.Data.List.Sort

/-!
# Min-heaps

The sorted list of the contents determines every observation, so it is the representation; the
sortedness proof is a field.
-/

/-- A min-heap: its contents in increasing order. -/
structure MinHeap (α : Type) [LinearOrder α] where
  entries : List α
  sorted : entries.Pairwise (· ≤ ·)

namespace MinHeap

variable {α : Type} [LinearOrder α]

def empty : MinHeap α := ⟨[], .nil⟩

variable (h : MinHeap α)

def peek : Option α := h.entries.head?

def pop : MinHeap α := ⟨h.entries.tail, h.sorted.tail⟩

def push (a : α) : MinHeap α :=
  ⟨h.entries.orderedInsert (· ≤ ·) a, h.sorted.orderedInsert a h.entries⟩

instance : Membership α (MinHeap α) := ⟨fun h a => a ∈ h.entries⟩

variable {h : MinHeap α} {a b : α}

theorem mem_def : a ∈ h ↔ a ∈ h.entries := Iff.rfl

@[simp] theorem mem_push : b ∈ h.push a ↔ b = a ∨ b ∈ h := by
  simp [mem_def, push, List.mem_orderedInsert]

/-- The head is an entry, and none is smaller. -/
theorem peek_spec (hp : h.peek = some a) : a ∈ h ∧ ∀ b ∈ h, a ≤ b := by
  obtain ⟨l, hl⟩ := h
  cases l with
  | nil => simp [peek] at hp
  | cons x l =>
    simp only [peek, List.head?_cons, Option.some.injEq] at hp
    subst hp
    refine ⟨List.mem_cons_self, fun b hb => ?_⟩
    rcases List.mem_cons.mp hb with rfl | hb
    · exact le_refl _
    · exact (List.pairwise_cons.mp hl).1 b hb

theorem peek_none (hp : h.peek = none) : b ∉ h := by
  obtain ⟨l, hl⟩ := h
  cases l with
  | nil => simp [mem_def]
  | cons x l => simp [peek] at hp

theorem mem_or_mem_pop (hp : h.peek = some a) : b ∈ h ↔ b = a ∨ b ∈ h.pop := by
  obtain ⟨l, hl⟩ := h
  cases l with
  | nil => simp [peek] at hp
  | cons x l =>
    simp only [peek, List.head?_cons, Option.some.injEq] at hp
    subst hp
    simp [mem_def, pop]

end MinHeap
