import SmbClient.Domain.Proof.Locks
import SmbClient.Lib.Run
import Mathlib.Logic.Relation

/-!
# One replacement of a lost session

Callers that saw the same generation lost queue at the mutex. All but the first tell from the id
they brought that it is gone, which is sound while ids are fresh (`FreshId`).
-/

namespace Domain

open Stage

namespace Connection

variable (s : Connection)

/-- The generation `p` of the context was replaced by `q`. -/
def Replaces (context p q : ℕ) : Prop :=
  ∃ r ∈ s.replaced, r.context = context ∧ r.previous = p ∧ r.state = q

def Follows (context : ℕ) : ℕ → ℕ → Prop := Relation.ReflTransGen (s.Replaces context)

/-- Callers that saw the same generation make at most one replacement between them, and who has
returned `Ok` finds it or a later one. -/
structure Sole (s : Connection) : Prop where
  once : ∀ r ∈ s.replaced, ∀ r' ∈ s.replaced, ∀ call call', s.calls[r.call]? = some call →
    s.calls[r'.call]? = some call' → call.observed = call'.observed → r = r'
  seen : ∀ call ∈ s.calls, call.stage.succeeded = true →
    ∃ p q, s.generationOf call.context = some p ∧ s.Replaces call.context call.observed q ∧
    s.Follows call.context q p

/-- No session of the connection has had the id that a setup is given. -/
def FreshId (m : Move) : Prop := ∀ p ∈ s.states, m.startedId ≠ some p.sessionId

instance (s : Connection) (m : Move) : Decidable (FreshId s m) := by
  unfold FreshId
  infer_instance

/-! ## The invariant -/

def Distinct : Prop :=
  ∀ p q id, s.sessionId p = some id → s.sessionId q = some id → p = q

structure Entry (s : Connection) (r : Replacement) : Prop where
  before : r.previous < r.state
  tagged : s.tag r.previous = some r.context
  reached : ∀ p, s.generationOf r.context = some p → r.state ≤ p
  caller : ∃ call, s.calls[r.call]? = some call ∧ call.context = r.context ∧
    call.observed = r.previous

structure Tracks (s : Connection) (call : Call) : Prop where
  observed : s.sessionId call.observed = some call.expectedSessionId
  follows : ∀ p, s.generationOf call.context = some p → s.Follows call.context call.observed p
  attempt : ∀ a, call.stage.attempt? = some a → a.previous = call.observed
  returned : call.stage.succeeded = true → ∀ p, s.generationOf call.context = some p →
    call.observed < p

structure Tracked (s : Connection) : Prop where
  placed : Placed s
  distinct : Distinct s
  calls : ∀ call ∈ s.calls, Tracks s call
  entries : ∀ r ∈ s.replaced, Entry s r
  once : ∀ r ∈ s.replaced, ∀ r' ∈ s.replaced, r.previous = r'.previous → r = r'

section
variable {maxAttempts maxWaitingOperations : ℕ} {m : Move} {s s' : Connection}
variable {context : ℕ} {call : Call}

/-- Fresh session identifiers keep the states apart. -/
theorem Distinct.step (distinct : Distinct s) (fresh : FreshId s m) (grown : Grown m s s') :
    Distinct s' := by
  have unused {p id : ℕ} (h : s.sessionId p = some id) : m.startedId ≠ some id := by
    obtain ⟨x, found, rfl⟩ := sessionId_eq_some.1 h
    exact fresh x (List.mem_of_getElem? found)
  intro p q id hp hq
  rcases grown.new p id hp with hp | ⟨rfl, started⟩ <;> rcases grown.new q id hq with hq |
    ⟨rfl, started'⟩
  · exact distinct p q id hp hq
  · exact absurd started' (unused hp)
  · exact absurd started (unused hq)
  · rfl

theorem Kind.grown (kind : Kind m s s') : Grown m s s' := by
  cases kind with
  | passage _ _ passes => exact passes.grown
  | called _ _ _ _ _ states => exact .of_eq states
  | login _ _ _ _ _ _ grown _ => exact grown
  | loggedIn _ _ _ _ _ _ _ _ grown _ _ => exact grown
  | rest _ _ _ _ states => exact .of_eq states

theorem Follows.mono {p q : ℕ} (sub : ∀ r ∈ s.replaced, r ∈ s'.replaced)
    (h : s.Follows context p q) : s'.Follows context p q :=
  Relation.ReflTransGen.mono (fun _ _ h => h.imp fun r h => ⟨sub r h.1, h.2⟩) _ _ h

theorem Tracked.le_of_follows (tracked : Tracked s) {p q : ℕ} (h : s.Follows context p q) :
    p ≤ q := by
  induction h with
  | refl => exact le_rfl
  | tail _ last ih =>
    obtain ⟨r, made, -, rfl, rfl⟩ := last
    exact ih.trans (tracked.entries r made).before.le

def Onward (s s' : Connection) (context : ℕ) : Prop :=
  ∀ p, s'.generationOf context = some p →
    ∃ p', s.generationOf context = some p' ∧ p' ≤ p ∧ s'.Follows context p' p

theorem Onward.of_eq (same : s'.generationOf context = s.generationOf context) :
    Onward s s' context :=
  fun p h => ⟨p, same ▸ h, le_rfl, .refl⟩

theorem Tracks.keep (tracks : Tracks s call) (grown : Grown m s s')
    (onward : Onward s s' call.context) (replaced : ∀ r ∈ s.replaced, r ∈ s'.replaced) :
    Tracks s' call where
  observed := grown.id _ _ tracks.observed
  follows p h := by
    obtain ⟨p', before, -, after⟩ := onward p h
    exact ((tracks.follows p' before).mono replaced).trans after
  attempt := tracks.attempt
  returned succeeded p h := by
    obtain ⟨p', before, le, -⟩ := onward p h
    exact (tracks.returned succeeded p' before).trans_le le

theorem Entry.keep {r : Replacement} (entry : Entry s r) (tag : s'.tag r.previous = some r.context)
    (onward : Onward s s' r.context)
    (calls : ∀ (j : ℕ) c, s.calls[j]? = some c → ∃ c', s'.calls[j]? = some c' ∧
      c'.context = c.context ∧ c'.observed = c.observed) : Entry s' r where
  before := entry.before
  tagged := tag
  reached p h := by
    obtain ⟨p', before, le, -⟩ := onward p h
    exact (entry.reached p' before).trans le
  caller := by
    obtain ⟨call, found, context, observed⟩ := entry.caller
    obtain ⟨call', found', context', observed'⟩ := calls _ _ found
    exact ⟨call', found', context'.trans context, observed'.trans observed⟩

/-! ## Steps of a call -/

section passage
variable {i : ℕ} {call : Call} {stage : Stage} {f : SessionContext → SessionContext}
  {new : List Replacement}

theorem Passage.onward (passage : Passage s s' i call stage f new) (placed : Placed s)
    (found : s.calls[i]? = some call) (contexts : s'.contexts = s.contexts.modify call.context f)
    (replaced : s'.replaced = s.replaced ++ new) (k : ℕ) : Onward s s' k := by
  rcases passage.generation contexts k with same |
    ⟨rfl, a, state, attempt, candidate, -, rfl, moved⟩
  · exact .of_eq same
  intro p h
  have held := placed.held i call a found attempt
  have previous := held.generation
  rw [stored?_of_candidate candidate] at previous
  rw [moved, previous] at h
  obtain rfl := Option.some.inj h
  exact ⟨a.previous, previous, (held.target state (.inl candidate)).1.le,
    .single ⟨⟨i, call.context, a.previous, state⟩, by rw [replaced]; simp, rfl, rfl, rfl⟩⟩

theorem Passage.tracks (passage : Passage s s' i call stage f new) (tracked : Tracked s)
    (found : s.calls[i]? = some call) (contexts : s'.contexts = s.contexts.modify call.context f)
    (replaced : s'.replaced = s.replaced ++ new) (grown : Grown m s s') :
    Tracks s' { call with stage } := by
  have tracks := tracked.calls call (List.mem_of_getElem? found)
  have kept : Tracks s' call := tracks.keep grown
    (passage.onward tracked.placed found contexts replaced _) (by rw [replaced]; simp +contextual)
  -- Only the attempt and the success depend on the stage.
  have build (attempt : ∀ a, stage.attempt? = some a → a.previous = call.observed)
      (returned : stage.succeeded = true → ∀ p, s.generationOf call.context = some p →
        call.observed < p) : Tracks s' { call with stage } := by
    refine ⟨kept.observed, kept.follows, attempt, fun succeeded p h => ?_⟩
    obtain ⟨p', before, le, -⟩ := passage.onward tracked.placed found contexts replaced _ p h
    exact (returned succeeded p' before).trans_le le
  cases passage with
  | turn attempt _ _ _ succeeded _ =>
    exact build (fun a h => tracks.attempt a (attempt ▸ h)) (by simp [succeeded])
  | @record result returned =>
    refine build (by simp [attempt?]) fun h => tracks.returned ?_
    rw [returned]
    cases result <;> exact h
  | abandon => exact build (by simp [attempt?]) (by simp [succeeded])
  | @pass id generation known current differs _ =>
    refine build (by simp [attempt?]) fun _ p h => ?_
    obtain rfl := Option.mem_unique known h
    refine lt_of_le_of_ne (tracked.le_of_follows (tracks.follows _ known)) fun same => differs ?_
    exact Option.some.inj (current.symm.trans (same ▸ tracks.observed))
  | @start a _ stage _ =>
    refine build (fun a' h => ?_) (by simp [succeeded])
    obtain rfl := Option.some.inj h
    exact tracks.attempt _ (by rw [stage]; rfl)
  | @take a stage _ _ _ current _ attempt _ _ =>
    refine build (fun a' h => ?_) fun succeeded => ?_
    · obtain rfl := Option.mem_unique attempt h
      exact tracked.distinct _ _ _ current tracks.observed
    · cases stage <;> simp [Stage.attempt?, Stage.succeeded] at attempt succeeded
  | @clear stage _ attempt failed =>
    refine build (by simp [attempt]) fun succeeded => ?_
    cases stage <;> simp [Stage.hasFailed, Stage.succeeded] at failed succeeded
    · rename_i result
      cases result <;> simp at failed succeeded
  | store _ attempt _ =>
    refine build (fun a' h => ?_) (by simp [Stage.succeeded])
    obtain rfl := Option.some.inj h
    exact tracks.attempt _ attempt
  | unflag attempt _ =>
    refine build (fun a' h => ?_) (by simp [succeeded])
    obtain rfl := Option.some.inj h
    exact tracks.attempt _ attempt
  | @release a state stage sharing ends =>
    refine build (fun _ h => by rcases ends with rfl | rfl <;> cases h) fun _ p h => ?_
    have hit : call.stage.attempt? = some a := by rw [sharing]; rfl
    have held := tracked.placed.held i call a found hit
    have generation := held.generation
    obtain rfl := Option.mem_unique generation h
    exact tracks.attempt a hit ▸ (held.target _ (.inr (by rw [sharing]; rfl))).1

theorem Tracked.new_entry {a : Attempt} {state : ℕ} (tracked : Tracked s)
    (found : s.calls[i]? = some call) (attempt : call.stage.attempt? = some a)
    (candidate : call.stage.candidate? = some state) (tags : SameTags s s')
    (calls : s'.calls = s.calls.set i { call with stage })
    (moved : ∀ p, s'.generationOf call.context = some p → p = state) :
    Entry s' ⟨i, call.context, a.previous, state⟩ := by
  have held := tracked.placed.held i call a found attempt
  have generation := held.generation
  rw [stored?_of_candidate candidate] at generation
  refine ⟨(held.target _ (.inl candidate)).1, tags.keep (tracked.placed.generation _ _ generation),
    fun p h => (moved p h).ge, { call with stage }, ?_, rfl, ?_⟩
  · rw [calls, List.getElem?_set_self (List.getElem?_eq_some_iff.1 found).1]
  · exact ((tracked.calls call (List.mem_of_getElem? found)).attempt a attempt).symm

theorem Tracked.not_replaced {a : Attempt} {state : ℕ} (tracked : Tracked s)
    (found : s.calls[i]? = some call) (attempt : call.stage.attempt? = some a)
    (candidate : call.stage.candidate? = some state) {r : Replacement} (made : r ∈ s.replaced) :
    r.previous ≠ a.previous := by
  intro same
  have generation := (tracked.placed.held i call a found attempt).generation
  rw [stored?_of_candidate candidate] at generation
  have entry := tracked.entries r made
  have context : r.context = call.context := Option.some.inj
    (entry.tagged.symm.trans (same ▸ tracked.placed.generation _ _ generation))
  have reached := entry.reached _ (context ▸ generation)
  have before := entry.before
  simp only [Option.getD_none] at reached
  omega

end passage

theorem Tracked.passage {i : ℕ} {stage : Stage} {f : SessionContext → SessionContext}
    {new : List Replacement} (tracked : Tracked s) (placed : Placed s') (distinct : Distinct s')
    (found : s.calls[i]? = some call) (passage : Passage s s' i call stage f new)
    (passes : Passes m s s' i call stage f new) : Tracked s' := by
  obtain ⟨calls, contexts, replaced, -, grown, tags⟩ := passes
  have onward := passage.onward tracked.placed found contexts replaced
  have kept {r : Replacement} (made : r ∈ s.replaced) : Entry s' r := by
    refine (tracked.entries r made).keep (tags.keep (tracked.entries r made).tagged) (onward _)
      fun j c at_j => ?_
    by_cases same : i = j
    · subst same
      obtain rfl := Option.mem_unique found at_j
      exact ⟨{ call with stage }, by rw [calls, List.getElem?_set_self
        (List.getElem?_eq_some_iff.1 found).1], rfl, rfl⟩
    · exact ⟨c, by rw [calls, List.getElem?_set_ne same]; exact at_j, rfl, rfl⟩
  -- A new entry is the one of a store.
  have stored {r : Replacement} (made : r ∈ new) : Entry s' r ∧
      (∀ r' ∈ s.replaced, r'.previous ≠ r.previous) ∧ ∀ r' ∈ new, r' = r := by
    cases passage with
    | store _ attempt candidate =>
      obtain rfl := List.mem_singleton.1 made
      refine ⟨tracked.new_entry found attempt candidate tags calls fun p h => ?_,
        fun r' => tracked.not_replaced found attempt candidate, by simp⟩
      rw [generationOf_modify contexts, Option.map_eq_some_iff] at h
      obtain ⟨_, -, moved⟩ := h
      simpa [SessionContext.moved] using moved.symm
    | _ => cases made
  refine ⟨placed, distinct, fun c made => ?_, fun r made => ?_, fun r made r' made' same => ?_⟩
  · rcases List.mem_or_eq_of_mem_set (calls ▸ made) with old | rfl
    · exact (tracked.calls c old).keep grown (onward _) (by rw [replaced]; simp +contextual)
    · exact passage.tracks tracked found contexts replaced grown
  · rcases List.mem_append.1 (replaced ▸ made) with old | made
    · exact kept old
    · exact (stored made).1
  · rcases List.mem_append.1 (replaced ▸ made) with old | made <;>
      rcases List.mem_append.1 (replaced ▸ made') with old' | made'
    · exact tracked.once r old r' old' same
    · exact absurd same ((stored made').2.1 r old)
    · exact absurd same.symm ((stored made).2.1 r' old')
    · exact ((stored made').2.2 r made)

/-! ## Steps -/

theorem Tracked.still (tracked : Tracked s) (placed : Placed s') (distinct : Distinct s')
    (calls : s'.calls = s.calls) (replaced : s'.replaced = s.replaced) (grown : Grown m s s')
    (generation : ∀ k < s.contexts.length, s'.generationOf k = s.generationOf k)
    (tags : ∀ {p k}, s.tag p = some k → s'.tag p = some k) : Tracked s' := by
  refine ⟨placed, distinct, fun c made => ?_, fun r made => ?_, ?_⟩
  · rw [calls] at made
    exact (tracked.calls c made).keep grown (.of_eq (generation _ (tracked.placed.called c made)))
      (by rw [replaced]; exact fun _ h => h)
  · rw [replaced] at made
    have entry := tracked.entries r made
    obtain ⟨call, found, context, -⟩ := entry.caller
    have bound := tracked.placed.called call (List.mem_of_getElem? found)
    exact entry.keep (tags entry.tagged) (.of_eq (generation _ (context ▸ bound)))
      fun j c h => ⟨c, calls ▸ h, rfl, rfl⟩
  · rw [replaced]
    exact tracked.once

theorem Made.tracks (made : Made s call) (distinct : Distinct s) : Tracks s call := by
  obtain ⟨c, known, current⟩ := contextId_eq_some.1 made.current
  refine ⟨made.observed, fun p h => ?_, fun a h => ?_, fun h => ?_⟩
  · obtain ⟨c', known', rfl⟩ := generationOf_eq_some.1 h
    obtain rfl := Option.mem_unique known known'
    exact distinct _ _ _ made.observed current ▸ .refl
  all_goals
    rcases made.stage with stage | stage <;> simp [stage, attempt?, succeeded] at h

/-- **Every step keeps the replacements tracked.** -/
theorem Tracked.step (tracked : Tracked s) (fresh : FreshId s m) (kind : Kind m s s') :
    Tracked s' := by
  have placed := tracked.placed.step kind
  have distinct := tracked.distinct.step fresh kind.grown
  have tags {p k : ℕ} : s.tag p = some k → s'.tag p = some k := tracked.placed.keep_tag kind
  cases kind with
  | passage found passage passes => exact tracked.passage placed distinct found passage passes
  | @called new made calls contexts replaced _ states =>
    have grown : Grown m s s' := .of_eq states
    have onward (k : ℕ) : Onward s s' k := .of_eq ((SameContexts.of_eq contexts).generation k)
    have sub : ∀ r ∈ s.replaced, r ∈ s'.replaced := by rw [replaced]; exact fun _ h => h
    refine ⟨placed, distinct, fun c h => ?_, fun r h => ?_, by rw [replaced]; exact tracked.once⟩
    · rcases List.mem_append.1 (calls ▸ h) with old | h
      · exact (tracked.calls c old).keep grown (onward _) sub
      · exact ((made c h).tracks tracked.distinct).keep grown (onward _) sub
    · rw [replaced] at h
      have entry := tracked.entries r h
      refine entry.keep (tags entry.tagged) (onward _) fun j c at_j => ?_
      refine ⟨c, ?_, rfl, rfl⟩
      rwa [calls, List.getElem?_append_left (List.getElem?_eq_some_iff.1 at_j).1]
  | login _ _ _ calls contexts replaced grown _ =>
    exact tracked.still placed distinct calls replaced grown (fun k _ => contexts.generation k) tags
  | loggedIn _ _ _ contexts _ _ calls replaced grown _ _ =>
    refine tracked.still placed distinct calls replaced grown (fun k h => ?_) tags
    simp [generationOf, contexts, List.getElem?_append_left h]
  | rest calls contexts replaced _ states =>
    exact tracked.still placed distinct calls replaced (m := m) (.of_eq states)
      (fun k _ => contexts.generation k) tags

theorem tracked_new : Tracked .new := by
  refine ⟨placed_new, ?_, ?_, ?_, ?_⟩ <;> simp [new, Distinct, sessionId]

theorem Tracked.sole (tracked : Tracked s) : Sole s := by
  refine ⟨fun r made r' made' call call' found found' same => ?_, fun call made succeeded => ?_⟩
  · obtain ⟨_, hit, -, observed⟩ := (tracked.entries r made).caller
    obtain ⟨_, at', -, observed'⟩ := (tracked.entries r' made').caller
    obtain rfl := Option.mem_unique found hit
    obtain rfl := Option.mem_unique found' at'
    exact tracked.once r made r' made' (observed.symm.trans (same.trans observed'))
  · have tracks := tracked.calls call made
    obtain ⟨c, known⟩ : ∃ c, s.contexts[call.context]? = some c :=
      ⟨_, List.getElem?_eq_getElem (tracked.placed.called call made)⟩
    have generation : s.generationOf call.context = some c.generation :=
      generationOf_eq_some.2 ⟨c, known, rfl⟩
    rcases Relation.ReflTransGen.cases_head (tracks.follows _ generation) with same |
      ⟨q, first, rest⟩
    · exact absurd same (tracks.returned succeeded _ generation).ne
    · exact ⟨c.generation, q, generation, first, rest⟩

/-- A call that replaces a session holds the lock of its context, so no two of them work on one. -/
theorem attempts_hold_locks (maxAttempts maxWaitingOperations : ℕ) (moves : List Move) :
    Placed (run maxAttempts maxWaitingOperations moves) :=
  List.foldl_invariant (P := Placed) (fun s m placed => placed.step (step_effect s m).kind) moves
    placed_new

/-- If every setup is given an id that no session has had, a lost generation is replaced once. -/
theorem replaced_once (maxAttempts maxWaitingOperations : ℕ) (moves : List Move)
    (fresh : Meets (step maxAttempts maxWaitingOperations) FreshId .new moves) :
    Sole (run maxAttempts maxWaitingOperations moves) :=
  (fresh.invariant (P := Tracked) (fun s m tracked h => tracked.step h (step_effect s m).kind)
    tracked_new).sole

def goOn : Input := ⟨true, .completed⟩

def oneSession : List Move :=
  [.authenticate true, .login 0 ⟨true, .started 7⟩] ++ List.replicate 4 (.login 0 goOn)

def twoWaiters : List Move :=
  oneSession ++ [.lose, .reconnect, .waitForReauthentication 0, .waitForReauthentication 0,
    .advance 0 goOn, .advance 1 goOn]

def bothRecover (id : ℕ) : List Move :=
  twoWaiters ++ [.advance 0 goOn, .advance 0 goOn, .advance 0 ⟨true, .started id⟩] ++
    List.replicate 6 (.advance 0 goOn) ++
    [.advance 1 goOn, .advance 1 goOn, .advance 1 goOn, .advance 1 ⟨true, .started 8⟩] ++
    List.replicate 7 (.advance 1 goOn)

theorem new_id_replaced_once :
    Meets (step 1 2) FreshId .new (bothRecover 9) ∧ Sole (run 1 2 (bothRecover 9)) :=
  ⟨by decide +kernel, replaced_once 1 2 _ (by decide +kernel)⟩

/-- The replacement is given the id 7 again, and each of two calls replaces what it finds. -/
theorem same_id_replaced_twice : ¬ Sole (run 1 2 (bothRecover 7)) := by
  intro sole
  have first : ((run 1 2 (bothRecover 7)).calls[0]?).map (·.observed) = some 0 := by decide +kernel
  have second : ((run 1 2 (bothRecover 7)).calls[1]?).map (·.observed) = some 0 := by decide +kernel
  obtain ⟨call, found, observed⟩ := Option.map_eq_some_iff.1 first
  obtain ⟨call', found', observed'⟩ := Option.map_eq_some_iff.1 second
  have same := sole.once ⟨0, 0, 0, 1⟩ (by decide +kernel) ⟨1, 0, 1, 2⟩
    (by decide +kernel) call call' found found' (observed.trans observed'.symm)
  cases same

end

end Connection

end Domain
