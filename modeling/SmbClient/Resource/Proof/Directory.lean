import SmbClient.Lib.Calls
import SmbClient.Lib.Run
import SmbClient.Resource.Directory

/-!
# Directory queries: demand, order and the query lock

`Query.Effect` is everything one access can do. `Wakeful`: the loop is woken when there is demand;
`Ordered`: items are delivered in the order of the pages; `Spent`: a query that is over submits no
more.
-/

namespace Resource

open Calls FetchPoint StreamPoint

namespace Query

variable {α : Type} {q q' : Query α} {move : QueryMove α}

/-! ## One access -/

inductive Effect (q : Query α) : QueryMove α → Query α → Prop
  | idle (move : QueryMove α) : Effect q move q
  | refused (move : QueryMove α) (error : Error) (point : q.fetch = .asking) :
      Effect q move (q.take (.error error))
  | submitted (point : q.fetch = .asking) :
      Effect q .submit { q with
        fetch := .asked
        submitted := q.submitted + 1
        late := if q.cancelled then q.late + 1 else q.late }
  | answered (reply : QueryReply α) (page : Except Error (List α)) (point : q.fetch = .asked) :
      Effect q (.answer reply) { q.take page with answered := q.answered + 1 }
  | cut (item : Except Error α) (rest : List (Except Error α))
      (point : q.fetch = .sending item rest) (unheard : q.stream.receiving = false) :
      Effect q .push { q with fetch := .ended }
  | pushed (item : Except Error α) (rest : List (Except Error α))
      (point : q.fetch = .sending item rest) (listens : q.stream.receiving = true) :
      Effect q .push { q with channel := q.channel ++ [item], fetch := .next rest }
  | stopped (point : q.fetch = .waiting ∨ q.fetch = .woken) (flag : q.cancelled = true) :
      Effect q .poll { q with fetch := .ended }
  | listened (point : q.fetch = .waiting) (flag : q.cancelled = false) :
      Effect q .poll { q with fetch := .listening }
  | heard (point : q.fetch = .listening) (listed : q.registered = true) (told : q.notified = true) :
      Effect q .poll { q with registered := false, notified := false, fetch := .woken }
  | stayed (point : q.fetch = .listening) (listed : q.registered = true)
      (untold : q.notified = false) : Effect q .poll { q with fetch := .parked }
  | granted (point : q.fetch = .listening) (unlisted : q.registered = false)
      (stored : q.permit = true) : Effect q .poll { q with permit := false, fetch := .woken }
  | parked (point : q.fetch = .listening) (unlisted : q.registered = false)
      (spent : q.permit = false) : Effect q .poll { q with registered := true, fetch := .parked }
  | rewound (point : q.fetch = .parked) : Effect q .poll { q with fetch := .waiting }
  | resumed (point : q.fetch = .woken) (flag : q.cancelled = false) :
      Effect q .poll { q with fetch := .asking }
  | locked (point : q.stream = .locking) : Effect q .locked { q with stream := .idle }
  | abandoned (point : q.stream = .locking) :
      Effect q .abandon { q with stream := .abandoned, channel := [] }
  | received (item : Except Error α) (channel : List (Except Error α)) (point : q.stream = .idle)
      (first : q.channel = item :: channel) :
      Effect q .recv { q with channel, stream := .received item }
  | exhausted (point : q.stream = .idle) (empty : q.channel = []) (ended : q.fetch = .ended) :
      Effect q .recv { q with exhausted := true }
  | emptied (item : Except Error α) (point : q.stream = .received item) (empty : q.channel = []) :
      Effect q .look { q with stream := .signalling item }
  | returned (item : Except Error α) (point : q.stream = .received item) (more : q.channel ≠ []) :
      Effect q .look { q with stream := .idle, delivered := q.delivered ++ [item] }
  | signalled (item : Except Error α) (point : q.stream = .signalling item) :
      Effect q .signal { q.notifyOne with stream := .idle, delivered := q.delivered ++ [item] }
  | cancelled (point : q.stream = .idle) :
      Effect q .cancel { q with stream := .cancelled, cancelled := true }
  | notified (point : q.stream = .cancelled) :
      Effect q .notify { q.notifyOne with stream := .notified }
  | closed (point : q.stream = .notified) :
      Effect q .close { q with stream := .closed, channel := [] }
  | released (point : q.stream = .closed) : Effect q .release { q with stream := .gone }

theorem waitForDemand_effect (q : Query α) : Effect q .poll q.waitForDemand := by
  unfold waitForDemand
  split
  · rename_i point
    split
    · rename_i flag
      exact .stopped (.inl point) flag
    · rename_i flag
      exact .listened point (eq_false_of_ne_true flag)
  · rename_i point
    unfold pollNotified
    split
    · rename_i listed
      split
      · rename_i told
        exact .heard point listed told
      · rename_i untold
        exact .stayed point listed (eq_false_of_ne_true untold)
    · rename_i unlisted
      split
      · rename_i stored
        exact .granted point (eq_false_of_ne_true unlisted) stored
      · rename_i empty
        exact .parked point (eq_false_of_ne_true unlisted) (eq_false_of_ne_true empty)
  · rename_i point
    exact .rewound point
  · rename_i point
    split
    · rename_i flag
      exact .stopped (.inr point) flag
    · rename_i flag
      exact .resumed point (eq_false_of_ne_true flag)
  · exact .idle _

theorem recv_effect (point : q.stream = .idle) : Effect q .recv q.recv := by
  unfold recv
  split
  · rename_i item channel first
    exact .received item channel point first
  · rename_i empty ended
    exact .exhausted point empty ended
  · exact .idle _

/-- **Every step of a query is one of its effects.** -/
theorem step_effect (q : Query α) (move : QueryMove α) : Effect q move (q.step move) := by
  cases move with
  | submit =>
    simp only [step]
    split
    · rename_i error point _
      exact .refused _ error point
    · rename_i point _
      exact .submitted point
    · exact .idle _
  | fail error =>
    simp only [step]
    split
    · rename_i point
      exact .refused _ error point
    · exact .idle _
  | answer reply =>
    simp only [step]
    split
    · rename_i point
      exact .answered reply _ point
    · exact .idle _
  | push =>
    simp only [step]
    split
    · rename_i item rest point
      unfold push
      split
      · rename_i unheard
        exact .cut item rest point unheard
      · rename_i listens
        split
        · exact .pushed item rest point (eq_true_of_ne_false listens)
        · exact .idle _
    · exact .idle _
  | poll => exact q.waitForDemand_effect
  | recv =>
    simp only [step]
    split
    · rename_i point
      exact recv_effect point
    · exact .idle _
  | look =>
    simp only [step]
    split
    · rename_i item point
      split
      · rename_i empty
        exact .emptied item point (List.isEmpty_iff.mp empty)
      · rename_i more
        exact .returned item point fun empty => more (List.isEmpty_iff.mpr empty)
    · exact .idle _
  | locked | abandon | signal | cancel | notify | close | release =>
    simp only [step]
    split
    · rename_i point
      first
        | exact .locked point
        | exact .abandoned point
        | exact .signalled _ point
        | exact .cancelled point
        | exact .notified point
        | exact .closed point
        | exact .released point
    · exact .idle _

/-! ## Demand -/

def demanded (q : Query α) : Bool := q.permit || q.notified

def dropping : StreamPoint α → Bool
  | .cancelled | .notified | .closed | .gone => true
  | _ => false

def resting : StreamPoint α → Bool
  | .idle | .locking => true
  | _ => false

def unpolled : StreamPoint α → Bool
  | .locking | .abandoned => true
  | _ => false

structure Wakeful (q : Query α) : Prop where
  flag : q.cancelled = dropping q.stream
  demand : q.fetch.awaiting = true → resting q.stream = true → q.channel ≠ [] ∨ q.demanded = true
  listed : q.fetch = .parked → q.registered = true
  told : q.notified = true → q.registered = true
  stored : q.registered = true → q.notified = false → q.permit = false
  silent : unpolled q.stream = true → q.demanded = false ∧ q.fetch ≠ .woken

variable (options : QueryOptions)

theorem wakeful_new : Wakeful (new options : Query α) := by
  constructor <;> simp [new, dropping, awaiting, demanded]

theorem afterPage_cases (page : Except Error (List α)) :
    afterPage page = .ended ∨ ∃ item rest, afterPage page = .sending item rest := by
  unfold afterPage
  split
  · exact .inl rfl
  · exact .inr ⟨_, _, rfl⟩

theorem Wakeful.take (h : Wakeful q) (page : Except Error (List α)) : Wakeful (q.take page) := by
  obtain ⟨flag, -, -, told, stored, silent⟩ := h
  rcases afterPage_cases page with hpage | ⟨item, rest, hpage⟩
  · constructor <;> simp_all [Query.take, awaiting, demanded]
  · constructor <;> simp_all [Query.take, awaiting, demanded]

/-- No wake-up is lost. -/
theorem Effect.wakeful (e : Effect q move q') (h : Wakeful q) : Wakeful q' := by
  cases e with
  | idle => exact h
  | refused _ error => exact h.take (.error error)
  | answered reply page =>
    have htaken := h.take page
    exact ⟨htaken.flag, htaken.demand, htaken.listed, htaken.told, htaken.stored, htaken.silent⟩
  | pushed item rest =>
    obtain ⟨flag, demand, listed, told, stored, silent⟩ := h
    cases rest <;> constructor <;> simp_all [next, awaiting, demanded]
  | signalled | notified =>
    obtain ⟨flag, demand, listed, told, stored, silent⟩ := h
    simp only [notifyOne]
    split <;> constructor <;> simp_all [dropping, resting, unpolled, demanded]
  | _ =>
    obtain ⟨flag, demand, listed, told, stored, silent⟩ := h
    constructor <;> simp_all [dropping, resting, unpolled, awaiting, demanded]

theorem Wakeful.wakes (h : Wakeful q) (hpoint : q.fetch = .parked) (hdemand : q.demanded = true)
    (hlive : q.cancelled = false) : (q.run [.poll, .poll, .poll, .poll]).fetch = .asking := by
  have hlisted := h.listed hpoint
  have htold : q.notified = true := by
    cases hn : q.notified
    · rw [demanded, hn, h.stored hlisted hn] at hdemand
      exact hdemand
    · rfl
  simp [run, step, waitForDemand, pollNotified, hpoint, hlive, hlisted, htold]

/-! ## Order -/

def items (q : Query α) : List (Except Error α) := q.pages.flatMap pageItems

structure Ordered (q : Query α) : Prop where
  order : q.stream.receiving = true →
    q.delivered ++ q.stream.hand ++ q.channel ++ q.fetch.pending = q.items
  begun : q.delivered <+: q.items
  done : q.exhausted = true →
    q.fetch = .ended ∧ q.channel = [] ∧ q.stream.hand = [] ∧ q.delivered = q.items

theorem ordered_new : Ordered (new options : Query α) := by
  constructor <;> simp [new, hand, pending, items]

theorem pending_afterPage (page : Except Error (List α)) :
    (afterPage page).pending = pageItems page := by
  unfold afterPage
  split
  · rename_i h
    rw [h]
    rfl
  · rename_i h
    rw [h]
    rfl

theorem Ordered.take (h : Ordered q) (hpending : q.fetch.pending = []) (hnew : q.fetch ≠ .ended)
    (page : Except Error (List α)) : Ordered (q.take page) := by
  have hitems : (q.take page).items = q.items ++ pageItems page := by
    simp [items, Query.take]
  refine ⟨fun hlistens => ?_, ?_, fun hdone => absurd (h.done hdone).1 hnew⟩
  · have horder := h.order hlistens
    rw [hpending, List.append_nil] at horder
    rw [hitems, ← horder]
    show _ ++ (afterPage page).pending = _
    rw [pending_afterPage]
    rfl
  · rw [hitems]
    exact h.begun.trans (List.prefix_append _ _)

theorem Ordered.deliver (h : Ordered q) {item : Except Error α} (hhand : q.stream.hand = [item])
    (hlistens : q.stream.receiving = true) {t : Query α} (hstream : t.stream = .idle)
    (hdelivered : t.delivered = q.delivered ++ [item]) (hchannel : t.channel = q.channel)
    (hfetch : t.fetch = q.fetch) (hpages : t.pages = q.pages)
    (hexhausted : t.exhausted = q.exhausted) :
    Ordered t := by
  have hitems : t.items = q.items := by rw [items, items, hpages]
  have horder := h.order hlistens
  rw [hhand] at horder
  refine ⟨fun _ => ?_, ?_, fun hdone => ?_⟩
  · rw [hstream, hdelivered, hchannel, hfetch, hitems, ← horder]
    simp [hand]
  · rw [hitems, hdelivered, ← horder, List.append_assoc _ q.channel]
    exact List.prefix_append _ _
  · rw [hexhausted] at hdone
    have := (h.done hdone).2.2.1
    rw [hhand] at this
    cases this

/-- Items keep the order of the pages. -/
theorem Effect.ordered (e : Effect q move q') (h : Ordered q) : Ordered q' := by
  cases e with
  | idle => exact h
  | refused _ error point => exact h.take (by rw [point]; rfl) (by simp [point]) (.error error)
  | answered reply page point =>
    have htaken := h.take (by rw [point]; rfl) (by simp [point]) page
    exact ⟨htaken.order, htaken.begun, htaken.done⟩
  | pushed item rest point listens =>
    obtain ⟨order, begun, done⟩ := h
    cases rest <;> constructor <;>
      simp_all [next, pending, items]
  | returned item point =>
    exact h.deliver (by rw [point]; rfl) (by rw [point]; rfl) rfl rfl rfl rfl rfl rfl
  | signalled item point =>
    have hsame : q.notifyOne.channel = q.channel ∧ q.notifyOne.fetch = q.fetch ∧
        q.notifyOne.pages = q.pages ∧ q.notifyOne.exhausted = q.exhausted := by
      unfold notifyOne
      split <;> exact ⟨rfl, rfl, rfl, rfl⟩
    exact h.deliver (by rw [point]; rfl) (by rw [point]; rfl) rfl rfl hsame.1 hsame.2.1 hsame.2.2.1
      hsame.2.2.2
  | notified =>
    obtain ⟨order, begun, done⟩ := h
    simp only [notifyOne]
    split <;> constructor <;> simp_all [hand, receiving, items]
  | stopped point =>
    obtain ⟨order, begun, done⟩ := h
    rcases point with point | point <;> constructor <;> simp_all [pending, items]
  | _ =>
    obtain ⟨order, begun, done⟩ := h
    constructor <;> simp_all [hand, receiving, pending, items]

/-! ## After the drop -/

def Prompt (q : Query α) : QueryMove α → Prop
  | .cancel => q.stream = .idle → q.fetch ≠ .asking
  | _ => True

def outstanding : FetchPoint α → ℕ
  | .asked => 1
  | _ => 0

structure Quiet (q : Query α) : Prop where
  late : q.late = 0
  still : q.cancelled = true → q.fetch ≠ .asking
  count : q.submitted = q.answered + outstanding q.fetch

theorem quiet_new : Quiet (new options : Query α) := by
  constructor <;> simp [new, outstanding]

theorem Quiet.take (h : Quiet q) (page : Except Error (List α)) {answered : ℕ}
    (hanswered : answered = q.answered + outstanding q.fetch) :
    Quiet { q.take page with answered } := by
  obtain ⟨late, still, count⟩ := h
  rcases afterPage_cases page with hpage | ⟨item, rest, hpage⟩ <;> constructor <;>
    simp_all [Query.take, outstanding]

theorem Effect.quiet (e : Effect q move q') (h : Quiet q) (hprompt : Prompt q move) : Quiet q' := by
  cases e with
  | idle => exact h
  | refused _ error point => exact h.take (.error error) (by rw [point]; rfl)
  | answered reply page point => exact h.take page (by rw [point]; rfl)
  | pushed item rest =>
    obtain ⟨late, still, count⟩ := h
    cases rest <;> constructor <;> simp_all [next, outstanding]
  | signalled | notified =>
    obtain ⟨late, still, count⟩ := h
    simp only [notifyOne]
    split <;> constructor <;> simp_all
  | stopped point =>
    obtain ⟨late, still, count⟩ := h
    rcases point with point | point <;> constructor <;> simp_all [outstanding]
  | _ =>
    obtain ⟨late, still, count⟩ := h
    constructor <;> simp_all [Prompt, outstanding]

/-- In runs without a drop before a submission: a parked loop finds an item or the demand, items are
delivered in order, each once, and nothing is submitted after the drop. -/
theorem fetch_fair (moves : List (QueryMove α)) (hprompt : Meets step Prompt (new options) moves) :
    let q := (new options : Query α).run moves
    (q.fetch = .parked → q.stream = .idle →
      (q.channel ≠ [] ∨ q.demanded = true) ∧
      (q.channel = [] → (q.run [.poll, .poll, .poll, .poll]).fetch = .asking)) ∧
    (q.delivered <+: q.items ∧
      (q.stream.alive = true →
        q.delivered ++ q.stream.hand ++ q.channel ++ q.fetch.pending = q.items) ∧
      (q.exhausted = true → q.delivered = q.items)) ∧
    q.submitted ≤ q.answered + 1 ∧ q.late = 0 := by
  intro q
  have hrun : Wakeful q ∧ Ordered q ∧ Quiet q :=
    hprompt.invariant (P := fun q => Wakeful q ∧ Ordered q ∧ Quiet q)
      (fun q move h hp =>
        have e := q.step_effect move
        ⟨e.wakeful h.1, e.ordered h.2.1, e.quiet h.2.2 hp⟩)
      ⟨wakeful_new options, ordered_new options, quiet_new options⟩
  obtain ⟨hwakeful, hordered, hquiet⟩ := hrun
  refine ⟨fun hparked hidle => ?_, ⟨hordered.begun, fun halive => ?_, fun hdone => ?_⟩, ?_,
    hquiet.late⟩
  · have hdemand := hwakeful.demand (by rw [hparked]; rfl) (by rw [hidle]; rfl)
    refine ⟨hdemand, fun hempty => hwakeful.wakes hparked (hdemand.resolve_left (· hempty)) ?_⟩
    rw [hwakeful.flag, hidle]
    rfl
  · refine hordered.order ?_
    revert halive
    cases q.stream <;> simp [alive, receiving]
  · exact (hordered.done hdone).2.2.2
  · have hcount := hquiet.count
    have hone : outstanding q.fetch ≤ 1 := by
      cases q.fetch <;> simp [outstanding]
    omega

def listable : QueryOptions := ⟨true, 65536, 65536⟩

def twoPages : List (QueryMove ℕ) :=
  [.submit, .locked, .answer (.ok (.success, .ok [1, 2])), .push, .recv, .look, .signal,
    .push, .poll, .poll, .poll, .submit, .recv, .look, .signal, .answer
    (.ok (.noMoreFiles, .ok [])), .recv, .cancel, .notify, .close, .release]

theorem twoPages_fair : ((new listable).run twoPages).exhausted = true ∧
    ((new listable).run twoPages).delivered = ((new listable).run twoPages).items ∧
    ((new listable).run twoPages).late = 0 := by
  have hprompt : Meets step Prompt (new listable) twoPages := by
    simp [Meets, Prompt, twoPages, step, new, take, listable, QueryOptions.refusal, afterPage,
      pageItems, sendQueryResult, push, receiving, capacity, next, recv, notifyOne,
      waitForDemand, pollNotified]
  have hdone : ((new listable).run twoPages).exhausted = true := rfl
  obtain ⟨-, ⟨-, -, hall⟩, -, hlate⟩ := fetch_fair listable twoPages hprompt
  exact ⟨hdone, hall hdone, hlate⟩

/-- A stream is dropped before its loop has run: the loop submits its request all the same. -/
theorem requested_after_drop :
    let q := (new listable : Query ℕ).run [.locked, .cancel, .notify, .close, .release]
    q.stream.alive = false ∧ q.submitted = 0 ∧ (q.step .submit).submitted = 1 ∧
      (q.step .submit).late = 1 :=
  ⟨rfl, rfl, rfl, rfl⟩

/-! ## Queries that are over -/

def ended : StreamPoint α → Bool
  | .gone | .abandoned => true
  | _ => false

structure Spent (q : Query α) : Prop where
  ended : ended q.stream = true
  still : q.fetch ≠ .asking
  answered : q.fetch ≠ .asked

theorem Spent.holdsLock (h : Spent q) : q.stream.holdsLock = false := by
  have hended := h.ended
  revert hended
  cases q.stream <;> simp [Query.ended, StreamPoint.holdsLock]

theorem Effect.spent (e : Effect q move q') (hw : Wakeful q) (h : Spent q) : Spent q' := by
  obtain ⟨hended, hstill, hanswered⟩ := h
  cases e with
  | idle => exact ⟨hended, hstill, hanswered⟩
  | refused _ error point => exact absurd point hstill
  | submitted point => exact absurd point hstill
  | answered reply page point => exact absurd point hanswered
  | pushed item rest => cases rest <;> constructor <;> simp_all [next]
  | resumed point flag =>
    have hflag := hw.flag
    have hsilent := hw.silent
    revert hended
    cases hstream : q.stream <;> simp_all [Query.ended, dropping, unpolled]
  | signalled item point => simp [point, Query.ended] at hended
  | notified point => simp [point, Query.ended] at hended
  | _ => constructor <;> simp_all [Query.ended]

end Query

/-! ## The query lock -/

namespace Directory

open Query

variable {α : Type} {s : Directory α}

/-! ## Undisturbed scans -/

/-- A query is made only when every earlier query is over. -/
def Serial (s : Directory α) : DirectoryMove α → Prop
  | .query _ => ∀ q ∈ s.queries, Spent q
  | .of _ _ => True

structure Serialized (s : Directory α) : Prop where
  wakeful : ∀ q ∈ s.queries, Wakeful q
  spent : ∀ (i : ℕ) (q : Query α), s.queries[i]? = some q → i + 1 < s.queries.length → Spent q
  alone : ∀ request ∈ s.requests, request.live = []

theorem Serialized.live (h : Serialized s) {i : ℕ} (hlast : s.queries.length = i + 1) :
    s.live i = [] := by
  rw [Directory.live, List.filter_eq_nil_iff]
  intro j hj
  have hlength := List.mem_range.mp hj
  by_cases hji : j = i
  · simp [hji]
  · have hspent := h.spent j s.queries[j] (List.getElem?_eq_getElem hlength) (by omega)
    simp [List.getElem?_eq_getElem hlength, hspent.holdsLock]

/-- All queries but the last stay spent. -/
theorem step_serialized (h : Serialized s) {move : DirectoryMove α} (hserial : Serial s move) :
    Serialized (s.step move) := by
  cases move with
  | query options =>
    refine ⟨fun q hq => ?_, fun i q hq hlast => ?_, h.alone⟩
    · rcases List.mem_append.mp hq with hq | hq
      · exact h.wakeful q hq
      · rw [List.mem_singleton.mp hq]
        exact wakeful_new options
    · have hlength : i + 1 < (s.queries ++ [Query.new options]).length := hlast
      rw [List.length_append, List.length_singleton] at hlength
      rcases getElem?_concat_cases hq with hq | ⟨rfl, -⟩
      · exact hserial q (List.mem_of_getElem? hq)
      · omega
  | of i move =>
    simp only [step]
    split
    · exact h
    rename_i q hi
    split
    · exact h
    have he := q.step_effect move
    have hw := h.wakeful q (List.mem_of_getElem? hi)
    refine ⟨fun q' hq' => ?_, fun j q' hq' hlast => ?_, fun request hrequest => ?_⟩
    · rcases List.mem_or_eq_of_mem_set hq' with hq' | rfl
      · exact h.wakeful q' hq'
      · exact he.wakeful hw
    · rw [List.length_set] at hlast
      rcases getElem?_set_cases hq' with ⟨rfl, rfl⟩ | ⟨-, hq'⟩
      · exact he.spent hw (h.spent j q hi hlast)
      · exact h.spent j q' hq' hlast
    · rcases List.mem_append.mp hrequest with hrequest | hrequest
      · exact h.alone request hrequest
      · unfold issued at hrequest
        split at hrequest
        · split at hrequest
          · rename_i point _
            rw [List.mem_singleton.mp hrequest]
            have hlength := (List.getElem?_eq_some_iff.mp hi).1
            have hlast : ¬ i + 1 < s.queries.length := fun hearlier =>
              (h.spent i q hi hearlier).still point
            exact h.live (by omega)
          · cases hrequest
        · cases hrequest

/-- If a query is made only when the earlier ones are over, no request is submitted while another
stream has the lock. -/
theorem scan_undisturbed (moves : List (DirectoryMove α)) (hserial : Meets step Serial new moves) :
    (∀ request ∈ (new.run moves).requests, request.live = []) ∧
    ∀ (i j : ℕ) (q q' : Query α), (new.run moves).queries[i]? = some q →
      (new.run moves).queries[j]? = some q' → q.stream.holdsLock = true → j ≠ i →
      q'.fetch ≠ .asked := by
  have hrun : Serialized (new.run moves : Directory α) :=
    hserial.invariant (P := Serialized) (fun s move h hs => step_serialized h hs)
      ⟨by simp [new], by simp [new], by simp [new]⟩
  refine ⟨hrun.alone, fun i j q q' hi hj hholds hne => ?_⟩
  have hlength := (List.getElem?_eq_some_iff.mp hj).1
  have hbound := (List.getElem?_eq_some_iff.mp hi).1
  have hlast : ¬ i + 1 < (new.run moves : Directory α).queries.length := by
    intro hearlier
    rw [(hrun.spent i q hi hearlier).holdsLock] at hholds
    cases hholds
  exact (hrun.spent j q' hj (by omega)).answered

def oneAfterTheOther : List (DirectoryMove ℕ) :=
  [.query listable, .of 0 .locked, .of 0 .submit, .of 0 .cancel, .of 0 .notify, .of 0 .close,
    .of 0 .release, .of 0 (.answer (.error (.cancelled "runtime operation"))), .query listable,
    .of 1 .submit]

theorem oneAfterTheOther_undisturbed : (new.run oneAfterTheOther).requests.length = 2 ∧
    ∀ request ∈ (new.run oneAfterTheOther).requests, request.live = [] := by
  refine ⟨rfl, (scan_undisturbed oneAfterTheOther ?_).1⟩
  refine ⟨by simp [new, Serial], trivial, trivial, trivial, trivial, trivial, trivial, trivial, ?_,
    trivial, trivial⟩
  intro q hq
  obtain rfl := List.mem_singleton.mp hq
  refine ⟨rfl, ?_, ?_⟩ <;>
    simp [Query.step, Query.new, listable, QueryOptions.refusal, notifyOne, take, sendQueryResult,
      afterPage, pageItems]

/-- The second query waits for the lock, but its loop submits a request that restarts the scan. -/
theorem scan_restarted :
    let s : Directory ℕ := new.run [.query listable, .of 0 .locked, .of 0 .submit, .query listable]
    (s.queries.map (·.stream.alive) = [true, false]) ∧ s.owner = some 0 ∧
      (s.step (.of 1 .submit)).requests = [⟨0, true, []⟩, ⟨1, true, [0]⟩] :=
  ⟨rfl, rfl, rfl⟩

end Directory

end Resource
