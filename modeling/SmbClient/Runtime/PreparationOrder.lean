import Mathlib.Data.Finset.Basic
import SmbClient.Lib.Run
import SmbClient.Lib.Table

/-!
# Completion in reservation order (`runtime/preparation_order.rs`)

Jobs are reserved in order and complete in any order; `complete` hands out the completed ones at the
head of the order.
-/

namespace Runtime

structure OrderedCompletionQueue (K V : Type) where
  order : List K
  reserved : Finset K
  completed : Table K V
  -- Not in the source: an `assert!` has failed.
  assertFailed : Bool

namespace OrderedCompletionQueue

variable {K V : Type} [DecidableEq K]

def empty : OrderedCompletionQueue K V :=
  { order := [], reserved := ∅, completed := ∅, assertFailed := false }

variable (q : OrderedCompletionQueue K V)

def isEmpty : Bool := q.order.isEmpty

def reserve (key : K) : OrderedCompletionQueue K V :=
  { q with
    order := q.order ++ [key]
    reserved := insert key q.reserved
    assertFailed := q.assertFailed || decide (key ∈ q.reserved) }

/-- The loop of `complete` over the order: its head is released as long as it has completed. -/
def release : List K → OrderedCompletionQueue K V → List V × OrderedCompletionQueue K V
  | [], q => ([], { q with order := [] })
  | key :: order, q =>
    match q.completed.lookup key with
    | none => ([], { q with order := key :: order })
    | some value =>
      let (ready, q) := release order
        { q with completed := q.completed.erase key, reserved := q.reserved.erase key }
      (value :: ready, q)

def complete (key : K) (value : V) : List V × OrderedCompletionQueue K V :=
  release q.order { q with
    completed := q.completed.insert key value
    assertFailed := q.assertFailed || decide (key ∉ q.reserved) ||
      (q.completed.lookup key).isSome }

/-! ## What is handed out -/

def Keyed (keyOf : V → K) (q : OrderedCompletionQueue K V) : Prop :=
  ∀ key value, q.completed.lookup key = some value → keyOf value = key

variable {keyOf : V → K}

theorem release_order (order : List K) {q : OrderedCompletionQueue K V} (h : q.Keyed keyOf) :
    order = (release order q).1.map keyOf ++ (release order q).2.order ∧
      (release order q).2.Keyed keyOf := by
  induction order generalizing q with
  | nil => exact ⟨rfl, h⟩
  | cons key order ih =>
    cases hv : q.completed.lookup key with
    | none =>
      simp only [release, hv]
      exact ⟨rfl, h⟩
    | some value =>
      have herased : (OrderedCompletionQueue.mk q.order (q.reserved.erase key)
          (q.completed.erase key) q.assertFailed).Keyed keyOf := by
        intro k v hk
        by_cases he : k = key
        · rw [he, AList.lookup_erase] at hk
          cases hk
        · exact h k v (by rwa [AList.lookup_erase_ne he] at hk)
      simp only [release, hv, List.map_cons, List.cons_append]
      rw [h key value hv, ← (ih herased).1]
      exact ⟨rfl, (ih herased).2⟩

/-- What is released is the beginning of the order. -/
theorem complete_order {q : OrderedCompletionQueue K V} (h : q.Keyed keyOf) {key : K} (value : V)
    (hv : keyOf value = key) :
    q.order = (q.complete key value).1.map keyOf ++ (q.complete key value).2.order ∧
      (q.complete key value).2.Keyed keyOf := by
  refine release_order q.order fun k v hk => ?_
  by_cases he : k = key
  · subst he
    rw [AList.lookup_insert, Option.some.injEq] at hk
    exact hk ▸ hv
  · rw [AList.lookup_insert_ne he] at hk
    exact h k v hk

theorem release_values (order : List K) (q : OrderedCompletionQueue K V) :
    ((release order q).1 ++ (release order q).2.completed.values).Perm q.completed.values := by
  induction order generalizing q with
  | nil => exact .refl _
  | cons key order ih =>
    cases hv : q.completed.lookup key with
    | none => simp [release, hv]
    | some value =>
      simp only [release, hv]
      exact ((ih _).cons value).trans (Table.values_erase hv).symm

/-- No value is lost and none is doubled. -/
theorem complete_values {q : OrderedCompletionQueue K V} {key : K} (value : V)
    (h : q.completed.lookup key = none) :
    ((q.complete key value).1 ++ (q.complete key value).2.completed.values).Perm
      (value :: q.completed.values) := by
  have hreleased := release_values q.order { q with
    completed := q.completed.insert key value
    assertFailed := q.assertFailed || decide (key ∉ q.reserved) ||
      (q.completed.lookup key).isSome }
  rwa [Table.values_insert_new value h] at hreleased

/-! ## Every sequence of calls -/

inductive Call (K V : Type) where
  | reserve (key : K)
  | complete (key : K) (value : V)

def call : Call K V → OrderedCompletionQueue K V × List V
  | .reserve key => (q.reserve key, [])
  | .complete key value => (q.complete key value).swap

abbrev Ledger (K V : Type) := List (K × Option V)

namespace Ledger

def released (l : Ledger K V) : List V := (l.takeWhile (·.2.isSome)).filterMap (·.2)

def outstanding (l : Ledger K V) : Ledger K V := l.dropWhile (·.2.isSome)

def fill (key : K) (value : V) (l : Ledger K V) : Ledger K V :=
  l.map fun job => if job.1 = key ∧ job.2.isNone then (key, some value) else job

def record (l : Ledger K V) : Call K V → Ledger K V
  | .reserve key => l ++ [(key, none)]
  | .complete key value => l.fill key value

def Admits (l : Ledger K V) : Call K V → Prop
  | .reserve key => key ∉ l.outstanding.map (·.1)
  | .complete key _ => (key, none) ∈ l

variable {l : Ledger K V} {key : K} {value : V}

omit [DecidableEq K] in
theorem outstanding_concat : outstanding (l ++ [(key, none)]) = l.outstanding ++ [(key, none)] := by
  induction l with
  | nil => rfl
  | cons job l ih => cases hjob : job.2 <;> simp_all [outstanding]

omit [DecidableEq K] in
theorem released_concat : released (l ++ [(key, (none : Option V))]) = l.released := by
  induction l with
  | nil => rfl
  | cons job l ih => cases hjob : job.2 <;> simp_all [released]

theorem fill_released :
    (l.fill key value).released = l.released ++ (l.outstanding.fill key value).released ∧
    (l.fill key value).outstanding = (l.outstanding.fill key value).outstanding := by
  induction l with
  | nil => exact ⟨rfl, rfl⟩
  | cons job l ih => cases hjob : job.2 <;> simp_all [released, outstanding, fill]

omit [DecidableEq K] in
theorem mem_outstanding (h : (key, none) ∈ l) : (key, none) ∈ l.outstanding := by
  induction l with
  | nil => cases h
  | cons job l ih => cases hjob : job.2 <;> simp_all [outstanding, Prod.ext_iff]

theorem keys_fill : (l.fill key value).map (·.1) = l.map (·.1) := by
  rw [fill, List.map_map]
  exact List.map_congr_left fun job _ => by dsimp only [Function.comp]; split <;> simp_all

theorem mem_fill {k : K} {v : V} : (k, some v) ∈ l.fill key value ↔
    (k = key ∧ v = value ∧ (key, none) ∈ l) ∨ (k, some v) ∈ l := by
  constructor
  · intro h
    obtain ⟨⟨k', o⟩, hmem, hjob⟩ := List.mem_map.mp h
    split at hjob
    · rename_i hkey
      simp_all
    · exact .inr (hjob ▸ hmem)
  · rintro (⟨rfl, rfl, hmem⟩ | hmem)
    · exact List.mem_map.mpr ⟨_, hmem, by simp⟩
    · exact List.mem_map.mpr ⟨_, hmem, by simp⟩

end Ledger

structure Files (rest : Ledger K V) (q : OrderedCompletionQueue K V) : Prop where
  nodup : (rest.map (·.1)).Nodup
  reserved : ∀ key, key ∈ q.reserved ↔ key ∈ rest.map (·.1)
  completed : ∀ key value, q.completed.lookup key = some value ↔ (key, some value) ∈ rest
  sound : q.assertFailed = false

theorem release_spec (rest : Ledger K V) {q : OrderedCompletionQueue K V} (h : q.Files rest) :
    (release (rest.map (·.1)) q).1 = rest.released ∧
      (release (rest.map (·.1)) q).2.Files rest.outstanding ∧
      (release (rest.map (·.1)) q).2.order = rest.outstanding.map (·.1) := by
  induction rest generalizing q with
  | nil => exact ⟨rfl, ⟨h.nodup, h.reserved, h.completed, h.sound⟩, rfl⟩
  | cons job rest ih =>
    obtain ⟨key, value⟩ := job
    obtain ⟨hfresh, hnodup⟩ := List.nodup_cons.mp h.nodup
    have hother : ∀ v, (key, some v) ∉ rest := fun v hv => hfresh (List.mem_map.mpr ⟨_, hv, rfl⟩)
    cases value with
    | none =>
      have hnone : q.completed.lookup key = none :=
        Option.eq_none_iff_forall_ne_some.mpr fun v hv => by
          simpa [hother] using (h.completed key v).mp hv
      simp only [List.map_cons, release, hnone]
      exact ⟨rfl, ⟨h.nodup, h.reserved, h.completed, h.sound⟩, rfl⟩
    | some value =>
      have hvalue : q.completed.lookup key = some value := (h.completed key value).mpr (by simp)
      have herased : Files rest { q with
          completed := q.completed.erase key, reserved := q.reserved.erase key } := by
        refine ⟨hnodup, fun k => ?_, fun k v => ?_, h.sound⟩
        · have hk := h.reserved k
          by_cases he : k = key <;> simp_all
        · by_cases he : k = key
          · subst he
            simp [hother]
          · simpa [he] using h.completed k v
      obtain ⟨hready, hfiles, horder⟩ := ih herased
      simp only [List.map_cons, release, hvalue]
      exact ⟨by simpa [Ledger.released] using hready, hfiles, horder⟩

theorem reserve_files {l : Ledger K V} {q : OrderedCompletionQueue K V} (h : q.Files l.outstanding)
    {key : K} (hfresh : key ∉ l.outstanding.map (·.1)) :
    (q.reserve key).Files (l.outstanding ++ [(key, none)]) := by
  refine ⟨?_, fun k => ?_, fun k v => ?_, ?_⟩
  · simpa [List.nodup_append, h.nodup] using fun k v hk he => hfresh (List.mem_map.mpr ⟨_, hk, he⟩)
  · simp [reserve, h.reserved, or_comm]
  · simp [reserve, h.completed]
  · simpa [reserve, h.reserved, h.sound] using hfresh

theorem complete_files {rest : Ledger K V} {q : OrderedCompletionQueue K V}
    (h : q.Files rest) {key : K} (hmem : (key, none) ∈ rest) (value : V) :
    Files (rest.fill key value) { q with
      completed := q.completed.insert key value
      assertFailed := q.assertFailed || decide (key ∉ q.reserved) ||
        (q.completed.lookup key).isSome } := by
  have hnone : ∀ v, (key, some v) ∉ rest := fun v hv => by
    simpa using List.inj_on_of_nodup_map h.nodup hmem hv rfl
  have hlookup : q.completed.lookup key = none :=
    Option.eq_none_iff_forall_ne_some.mpr fun v hv => hnone v ((h.completed key v).mp hv)
  refine ⟨by rw [Ledger.keys_fill]; exact h.nodup,
    fun k => by rw [Ledger.keys_fill]; exact h.reserved k, fun k v => ?_, ?_⟩
  · rw [Ledger.mem_fill]
    by_cases he : k = key
    · subst he
      simp [hmem, hnone, eq_comm]
    · simp [he, h.completed]
  · have hreserved : key ∈ q.reserved := (h.reserved key).mpr (List.mem_map.mpr ⟨_, hmem, rfl⟩)
    simp [h.sound, hreserved, hlookup]

/-- What has been returned are the values of the longest prefix of the reservations whose keys have
all completed. -/
theorem completions_released_in_order (calls : List (Call K V))
    (h : Meets Ledger.record Ledger.Admits [] calls) :
    (Run.along call empty calls).outputs = (calls.foldl Ledger.record []).released ∧
    (Run.along call empty calls).state.assertFailed = false ∧
    ((Run.along call empty calls).state.isEmpty = true ↔
      (calls.foldl Ledger.record []).outstanding = []) := by
  have key : (Run.along call empty calls).outputs = (calls.foldl Ledger.record []).released ∧
      (Run.along call empty calls).state.Files (calls.foldl Ledger.record []).outstanding ∧
      (Run.along call empty calls).state.order =
        (calls.foldl Ledger.record []).outstanding.map (·.1) := by
    induction calls using List.reverseRecOn with
    | nil => exact ⟨rfl, ⟨List.nodup_nil, by simp [Run.along, Run.start, empty, Ledger.outstanding],
        by simp [Run.along, Run.start, empty, Ledger.outstanding], rfl⟩, rfl⟩
    | append_singleton calls c ih =>
      obtain ⟨hbefore, hadmits, -⟩ := Meets.append.mp h
      obtain ⟨houtputs, hfiles, horder⟩ := ih hbefore
      rw [Run.along_concat, List.foldl_append]
      cases c with
      | reserve key =>
        simp only [List.foldl_cons, List.foldl_nil, Ledger.record, Run.outputs_next,
          Run.state_next, call, Ledger.outstanding_concat, Ledger.released_concat, List.append_nil]
        exact ⟨houtputs, reserve_files hfiles hadmits, by simp [reserve, horder]⟩
      | complete key value =>
        have hspec := release_spec _ (complete_files hfiles (Ledger.mem_outstanding hadmits) value)
        rw [Ledger.keys_fill, ← horder] at hspec
        obtain ⟨hready, hkept, hleft⟩ := hspec
        simp only [List.foldl_cons, List.foldl_nil, Ledger.record, Run.outputs_next,
          Run.state_next, call, complete, Prod.fst_swap, Prod.snd_swap]
        rw [Ledger.fill_released.1, Ledger.fill_released.2]
        exact ⟨by rw [houtputs, hready], hkept, hleft⟩
  obtain ⟨houtputs, hfiles, horder⟩ := key
  exact ⟨houtputs, hfiles.sound, by simp [isEmpty, horder]⟩

theorem second_first_released_in_order :
    (Run.along call empty [.reserve 10, .reserve 20, .complete 20 "second", .complete 10 "first",
      .reserve 10]).outputs = ["first", "second"] := by
  have h := completions_released_in_order
    (K := ℕ) [.reserve 10, .reserve 20, .complete 20 "second", .complete 10 "first", .reserve 10]
    (by simp [Meets, Ledger.record, Ledger.Admits, Ledger.outstanding, Ledger.fill])
  exact h.1.trans (by decide)

end OrderedCompletionQueue

end Runtime
