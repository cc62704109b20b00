import Mathlib.Data.List.Induction

/-!
# Runs of a deterministic machine

A run is the left fold of a step function over a list of inputs. `Meets` says that every step starts
in a state that meets a condition, and `Meets.invariant` is the induction of every invariant.
`Run.next` keeps the history of inputs and outputs beside the state.
-/

variable {σ ι ω : Type}

inductive Leads (next : σ → σ → Prop) (P : σ → Prop) : σ → Prop where
  | here {s : σ} : P s → Leads next P s
  | next {s s' : σ} : next s s' → Leads next P s' → Leads next P s

/-- A state leads to `P` if it has it, or if one of its successors leads there. -/
theorem leads_iff {next : σ → σ → Prop} {P : σ → Prop} {s : σ} :
    Leads next P s ↔ P s ∨ ∃ s', next s s' ∧ Leads next P s' := by
  constructor
  · rintro (h | ⟨hnext, h⟩)
    · exact .inl h
    · exact .inr ⟨_, hnext, h⟩
  · rintro (h | ⟨s', hnext, h⟩)
    · exact .here h
    · exact .next hnext h

theorem Leads.mono {next : σ → σ → Prop} {P Q : σ → Prop} {s : σ} (h : Leads next P s)
    (himp : ∀ s, P s → Q s) : Leads next Q s := by
  induction h with
  | here hs => exact .here (himp _ hs)
  | next hnext _ ih => exact .next hnext ih

theorem Leads.exists {next : σ → σ → Prop} {P : σ → Prop} {s : σ} (h : Leads next P s) :
    ∃ s', P s' := by
  induction h with
  | here hs => exact ⟨_, hs⟩
  | next _ _ ih => exact ih

def Meets (step : σ → ι → σ) (C : σ → ι → Prop) : σ → List ι → Prop
  | _, [] => True
  | s, i :: is => C s i ∧ Meets step C (step s i) is

namespace Meets

variable {step : σ → ι → σ} {C : σ → ι → Prop}

instance decidable [∀ s i, Decidable (C s i)] :
    ∀ (s : σ) (is : List ι), Decidable (Meets step C s is)
  | _, [] => .isTrue trivial
  | s, i :: is =>
    haveI := decidable (step s i) is
    inferInstanceAs (Decidable (C s i ∧ Meets step C (step s i) is))

theorem append {is js : List ι} : ∀ {s : σ},
    Meets step C s (is ++ js) ↔ Meets step C s is ∧ Meets step C (is.foldl step s) js := by
  induction is with
  | nil => simp [Meets]
  | cons i is ih => simp [Meets, ih, and_assoc]

theorem imp {C' : σ → ι → Prop} {is : List ι} : ∀ {s : σ}, Meets step C s is →
    (∀ before i, before ++ [i] <+: is → C (before.foldl step s) i → C' (before.foldl step s) i) →
    Meets step C' s is := by
  induction is with
  | nil => intro s _ _; trivial
  | cons i is ih =>
    intro s h himp
    exact ⟨himp [] i ⟨is, rfl⟩ h.1, ih h.2 fun before j hprefix =>
      himp (i :: before) j (List.cons_prefix_cons.mpr ⟨rfl, hprefix⟩)⟩

/-- **The run rule under a condition**: what each step that meets `C` keeps, a run keeps. -/
theorem invariant {P : σ → Prop} (hstep : ∀ s i, P s → C s i → P (step s i)) {is : List ι} :
    ∀ {s : σ}, Meets step C s is → P s → P (is.foldl step s) := by
  induction is with
  | nil => intro s _ h; exact h
  | cons i is ih => intro s hm h; exact ih hm.2 (hstep s i h hm.1)

end Meets

/-- **The run rule**: what every step keeps, a run keeps. -/
theorem List.foldl_invariant {step : σ → ι → σ} {P : σ → Prop}
    (hstep : ∀ s i, P s → P (step s i)) (is : List ι) : ∀ {s : σ}, P s → P (is.foldl step s) := by
  induction is with
  | nil => intro s h; exact h
  | cons i is ih => intro s h; exact ih (hstep s i h)

/-- The state behind a list of inputs, and the answer to each of them. -/
def trace (step : σ → ι → σ × ω) : σ → List ι → σ × List ω
  | s, [] => (s, [])
  | s, i :: is =>
    let rest := trace step (step s i).1 is
    (rest.1, (step s i).2 :: rest.2)

/-- Of two machines, one runs inside the other as long as its steps meet the condition. -/
theorem Meets.trace_map {τ : Type} {step : σ → ι → σ × ω} {step' : τ → ι → τ × ω} {f : σ → τ}
    {C : σ → ι → Prop} (hstep : ∀ s i, C s i → step' (f s) i = (step s i).map f id) {is : List ι} :
    ∀ {s : σ}, Meets (fun s i => (step s i).1) C s is →
      trace step' (f s) is = (trace step s is).map f id := by
  induction is with
  | nil => intro s _; rfl
  | cons i is ih =>
    intro s h
    have inside := ih h.2
    simp only [trace, hstep s i h.1, Prod.map_fst, Prod.map_snd, inside]
    rfl

theorem trace_invariant {step : σ → ι → σ × ω} {P : σ → Prop}
    (hstep : ∀ s i, P s → P (step s i).1) {is : List ι} :
    ∀ {s : σ}, P s → P (trace step s is).1 := by
  induction is with
  | nil => intro s h; exact h
  | cons i is ih => intro s h; exact ih (hstep s i h)

structure Run (σ ι ω : Type) where
  history : List (ι × List ω)
  state : σ

namespace Run

variable (step : σ → ι → σ × List ω)

def start (s : σ) : Run σ ι ω := ⟨[], s⟩

variable (r : Run σ ι ω)

def next (i : ι) : Run σ ι ω :=
  ⟨r.history ++ [(i, (step r.state i).2)], (step r.state i).1⟩

def along (s : σ) (is : List ι) : Run σ ι ω := is.foldl (next step) (start s)

def outputs : List ω := r.history.flatMap (·.2)

variable {step}

@[simp] theorem outputs_next (i : ι) :
    (next step r i).outputs = r.outputs ++ (step r.state i).2 := by
  simp [outputs, next]

@[simp] theorem state_next (i : ι) : (next step r i).state = (step r.state i).1 := rfl

@[simp] theorem history_next (i : ι) :
    (next step r i).history = r.history ++ [(i, (step r.state i).2)] := rfl

theorem along_concat (s : σ) (is : List ι) (i : ι) :
    along step s (is ++ [i]) = next step (along step s is) i := by
  simp [along]

theorem along_append (s : σ) (is js : List ι) :
    along step s (is ++ js) = js.foldl (next step) (along step s is) := by
  simp [along]

theorem mem_outputs {s : σ} {o : ω} {is : List ι} (h : o ∈ (along step s is).outputs) :
    ∃ before i after, is = before ++ i :: after ∧ o ∈ (step (along step s before).state i).2 := by
  induction is using List.reverseRecOn with
  | nil => cases h
  | append_singleton is i ih =>
    rw [along_concat, outputs_next, List.mem_append] at h
    rcases h with h | h
    · obtain ⟨before, j, after, rfl, hj⟩ := ih h
      exact ⟨before, j, after ++ [i], by simp, hj⟩
    · exact ⟨is, i, [], rfl, h⟩

theorem meets {C : σ → ι → Prop} {P : Run σ ι ω → Prop} {s : σ} (hstart : P (start s))
    (hstep : ∀ r i, C r.state i → P r → P (next step r i)) {is : List ι}
    (h : Meets (fun s i => (step s i).1) C s is) : P (along step s is) := by
  have key : ∀ (is : List ι) (r : Run σ ι ω), Meets (fun s i => (step s i).1) C r.state is → P r →
      P (is.foldl (next step) r) := by
    intro is
    induction is with
    | nil => intro r _ hr; exact hr
    | cons i is ih => intro r hm hr; exact ih (next step r i) hm.2 (hstep r i hm.1 hr)
  exact key is (start s) h hstart

end Run
