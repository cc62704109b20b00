import Mathlib.Algebra.GroupWithZero.Nat
import Mathlib.Data.List.AList
import Mathlib.Algebra.BigOperators.Group.List.Basic

/-!
# Finite tables

A hash map is an `AList`. `total f t` sums `f` over the values of `t`; `Inverts t f` says that `t`
is the index of a partial function `f`.
-/

abbrev Table (K V : Type) : Type := AList (fun _ : K => V)

namespace Table

variable {K V : Type}

def values (t : Table K V) : List V := t.entries.map (·.2)

/-- The sum of `f` over the values of a table. -/
def total (f : V → ℕ) (t : Table K V) : ℕ := (t.values.map f).sum

theorem total_ite (p : V → Bool) (f : V → ℕ) (t : Table K V) :
    total (fun v => if p v then f v else 0) t = ((t.values.filter p).map f).sum := by
  unfold total
  induction t.values with
  | nil => rfl
  | cons v vs ih =>
    rw [List.map_cons, List.sum_cons, ih, List.filter_cons]
    split
    · rw [List.map_cons, List.sum_cons]
    · exact Nat.zero_add _

def map (f : V → V) (t : Table K V) : Table K V where
  entries := t.entries.map fun e => ⟨e.1, f e.2⟩
  nodupKeys := by
    have h : (t.entries.map fun e => (⟨e.1, f e.2⟩ : Sigma fun _ : K => V)).keys =
      t.entries.keys := by
      simp [List.keys, Function.comp_def]
    rw [List.NodupKeys, h]
    exact t.nodupKeys

variable [DecidableEq K]

theorem lookup_map (f : V → V) (t : Table K V) (k : K) :
    (t.map f).lookup k = (t.lookup k).map f := by
  show (t.entries.map fun e => (⟨e.1, f e.2⟩ : Sigma fun _ : K => V)).dlookup k =
    (t.entries.dlookup k).map f
  induction t.entries with
  | nil => rfl
  | cons e es ih =>
    obtain ⟨j, v⟩ := e
    by_cases h : j = k
    · subst h
      simp
    · rw [List.map_cons, List.dlookup_cons_ne _ _ (Ne.symm h), List.dlookup_cons_ne _ _
        (Ne.symm h), ih]

theorem lookup_insert_eq (t : Table K V) (k j : K) (v : V) :
    (t.insert k v).lookup j = if j = k then some v else t.lookup j := by
  split
  · rename_i h
    subst h
    exact AList.lookup_insert t
  · rename_i h
    exact AList.lookup_insert_ne h

theorem lookup_erase_eq (t : Table K V) (k j : K) :
    (t.erase k).lookup j = if j = k then none else t.lookup j := by
  split
  · rename_i h
    subst h
    exact AList.lookup_erase j t
  · rename_i h
    exact AList.lookup_erase_ne h

variable {t : Table K V}

theorem mem_values {v : V} : v ∈ t.values ↔ ∃ k, t.lookup k = some v := by
  simp only [values, List.mem_map]
  constructor
  · rintro ⟨⟨k, v'⟩, h, rfl⟩
    exact ⟨k, List.mem_dlookup t.nodupKeys h⟩
  · rintro ⟨k, h⟩
    exact ⟨⟨k, v⟩, List.of_mem_dlookup h, rfl⟩

theorem values_erase {k : K} {v : V} (h : t.lookup k = some v) :
    t.values.Perm (v :: values (t.erase k)) := by
  have hk : k ∈ t.entries.keys :=
    List.dlookup_isSome.mp (by rw [show t.entries.dlookup k = _ from h]; rfl)
  obtain ⟨v', l₁, l₂, -, hl, he⟩ := List.exists_of_kerase hk
  have hv : v' = v := by
    have := List.mem_dlookup t.nodupKeys (b := v') (a := k) (by rw [hl]; simp)
    rw [show t.entries.dlookup k = some v from h] at this
    simpa using this.symm
  subst hv
  have he' : (t.erase k).entries = l₁ ++ l₂ := he
  unfold values
  rw [he', hl, List.map_append, List.map_append]
  exact List.perm_middle

theorem total_erase (f : V → ℕ) {t : Table K V} {k : K} {v : V} (h : t.lookup k = some v) :
    total f t = f v + total f (t.erase k) :=
  ((values_erase h).map f).sum_eq

theorem erase_of_lookup_none {k : K} (h : t.lookup k = none) : t.erase k = t := by
  apply AList.ext
  exact List.kerase_of_notMem_keys (List.dlookup_eq_none.mp h)

theorem values_insert_new {k : K} (v : V) (h : t.lookup k = none) :
    values (t.insert k v) = v :: t.values := by
  unfold values
  rw [AList.entries_insert, List.kerase_of_notMem_keys (List.dlookup_eq_none.mp h)]
  rfl

section

variable (f : V → ℕ)
include f

theorem total_insert (t : Table K V) (k : K) (v : V) :
    total f (t.insert k v) = f v + total f (t.erase k) := by
  unfold total values
  rfl

theorem total_insert_new {t : Table K V} {k : K} (v : V) (h : t.lookup k = none) :
    total f (t.insert k v) = f v + total f t := by
  rw [total_insert, erase_of_lookup_none h]

theorem total_insert_over {t : Table K V} {k : K} {v : V} (w : V)
    (h : t.lookup k = some v) : total f (t.insert k w) + f v = total f t + f w := by
  rw [total_insert, total_erase f h]
  omega

theorem le_total {t : Table K V} {k : K} {v : V} (h : t.lookup k = some v) : f v ≤ total f t := by
  rw [total_erase f h]
  omega

theorem total_eq_zero {t : Table K V} (h : ∀ k v, t.lookup k = some v → f v = 0) :
    total f t = 0 := by
  apply List.sum_eq_zero
  intro n hn
  obtain ⟨v, hv, rfl⟩ := List.mem_map.mp hn
  obtain ⟨k, hk⟩ := mem_values.mp hv
  exact h k v hk

end

/-! ## Indexes -/

variable {t : Table K V} {f : V → Option K} {k : K} {v : V}

def Inverts (t : Table K V) (f : V → Option K) : Prop := ∀ k v, t.lookup k = some v ↔ f v = some k

theorem Inverts.injective (h : Inverts t f) {v' : V} (hv : f v = some k) (hv' : f v' = some k) :
    v = v' :=
  Option.some.inj (((h k v).mpr hv).symm.trans ((h k v').mpr hv'))

variable [DecidableEq V]

/-- An entry for a free key keeps the index the inverse of `f`, updated at its value. -/
theorem Inverts.insert (h : Inverts t f) (hfree : ∀ v', t.lookup k = some v' → v' = v)
    (hsame : ∀ k', f v = some k' → k' = k) :
    Inverts (t.insert k v) (Function.update f v (some k)) := by
  intro k' v'
  by_cases hk : k' = k
  · subst hk
    by_cases hv : v' = v
    · simp [hv]
    · have hother : f v' ≠ some k' := fun hf => hv (hfree v' ((h k' v').mpr hf))
      simp [hv, Ne.symm hv, hother]
  · by_cases hv : v' = v
    · subst hv
      have hother : t.lookup k' ≠ some v' := fun ht => hk (hsame k' ((h k' v').mp ht))
      simp [hk, Ne.symm hk, hother]
    · simpa [hk, hv] using h k' v'

theorem Inverts.erase (h : Inverts t f) (hv : f v = some k) :
    Inverts (t.erase k) (Function.update f v none) := by
  intro k' v'
  by_cases hk : k' = k
  · subst hk
    by_cases hv' : v' = v
    · simp [hv']
    · have hother : f v' ≠ some k' := fun hf => hv' (h.injective hf hv)
      simp [hv', hother]
  · by_cases hv' : v' = v
    · subst hv'
      have hother : t.lookup k' ≠ some v' := by
        intro ht
        rw [h k' v', hv] at ht
        exact hk (Option.some.inj ht).symm
      simp [hk, hother]
    · simpa [hk, hv'] using h k' v'

end Table
