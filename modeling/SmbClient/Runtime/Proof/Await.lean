import SmbClient.Runtime.Proof.ServedSteps

/-!
# The result of a detached operation

The result of a detached operation waits for the first `AwaitOperation` (`Parcels`), unless a late
final response drops the entry, or a hint reports it once more.
-/

namespace Runtime

open Msg PreparedOperation

namespace RequestAuthority

variable {a b : RequestAuthority} {key : RequestKey} {seen : CommandResponse → Prop}
  {flights flights' : List (RequestKey × Bool)}

structure Parcels (seen : CommandResponse → Prop) (flights : List (RequestKey × Bool))
    (a : RequestAuthority) : Prop where
  distinct : (flights.map Prod.fst).Nodup
  known : ∀ k ∈ flights.map Prod.fst, a.state.isKnown k = true
  kept : ∀ k, (k, true) ∈ flights → (a.slot k).Parcel seen k
  acked : ∀ k ∈ a.acknowledged, a.state.isKnown k = true ∧ k ∉ flights.map Prod.fst ∧
    (a.slot k).Parcel seen k

namespace Parcels

theorem perm (h : Parcels seen flights a) (hp : flights.Perm flights') :
    Parcels seen flights' a where
  distinct := (hp.map Prod.fst).nodup_iff.mp h.distinct
  known k hk := h.known k ((hp.map Prod.fst).mem_iff.mpr hk)
  kept k hk := h.kept k (hp.mem_iff.mpr hk)
  acked k hk := by
    obtain ⟨hknown, happart, hparcel⟩ := h.acked k hk
    exact ⟨hknown, fun hk' => happart ((hp.map Prod.fst).mem_iff.mpr hk'), hparcel⟩

theorem serves {acks : List RequestKey} (h : Parcels seen flights a) (ha : a.Proper seen)
    (hb : Serves seen True (fun _ => False) acks a b)
    (hacks : ∀ k ∈ acks, b.state.isKnown k = true ∧ k ∉ flights.map Prod.fst ∧
      (b.slot k).Parcel seen k) :
    Parcels seen flights b where
  distinct := h.distinct
  known k hk := hb.log.known ha.sound (h.known k hk)
  kept k hk := (hb.changes k).parcel (h.kept k hk)
  acked k hk := by
    rw [hb.acked] at hk
    rcases List.mem_append.mp hk with hk | hk
    · obtain ⟨hknown, hapart, hparcel⟩ := h.acked k hk
      exact ⟨hb.log.known ha.sound hknown, hapart, (hb.changes k).parcel hparcel⟩
    · exact hacks k hk

theorem quiet (h : Parcels seen flights a) (ha : a.Proper seen)
    (hb : Serves seen True (fun _ => False) [] a b) : Parcels seen flights b :=
  h.serves ha hb fun _ hk => nomatch hk

theorem takeoff {detached : Bool} (h : Parcels seen flights b) (hnew : key ∉ flights.map Prod.fst)
    (hknown : b.state.isKnown key = true) (hunacked : key ∉ b.acknowledged)
    (hparcel : detached = true → (b.slot key).Parcel seen key) :
    Parcels seen ((key, detached) :: flights) b where
  distinct := List.nodup_cons.mpr ⟨hnew, h.distinct⟩
  known k hk := by
    rcases List.mem_cons.mp hk with rfl | hk
    · exact hknown
    · exact h.known k hk
  kept k hk := by
    rcases List.mem_cons.mp hk with he | hk
    · cases he
      exact hparcel rfl
    · exact h.kept k hk
  acked k hk := by
    obtain ⟨hk', hapart, hp⟩ := h.acked k hk
    refine ⟨hk', fun hmem => ?_, hp⟩
    rcases List.mem_cons.mp hmem with rfl | hmem
    · exact hunacked hk
    · exact hapart hmem

theorem landed {detached : Bool} (h : Parcels seen ((key, detached) :: flights) a)
    (ha : a.Proper seen) (hb : (∀ strict, Serves seen strict (· = key) [] a b) ∨
      Serves seen True (fun _ => False) (if detached then [key] else []) a b) :
    Parcels seen flights b := by
  obtain ⟨hnew, hdistinct⟩ := List.nodup_cons.mp h.distinct
  have hrest : Parcels seen flights a :=
    ⟨hdistinct, fun k hk => h.known k (List.mem_cons_of_mem _ hk),
      fun k hk => h.kept k (List.mem_cons_of_mem _ hk), fun k hk =>
        ⟨(h.acked k hk).1, fun hmem => (h.acked k hk).2.1 (List.mem_cons_of_mem _ hmem),
          (h.acked k hk).2.2⟩⟩
  rcases hb with hdropped | hacked
  · have hserves := hdropped True
    have others : ∀ k, k ≠ key → (a.slot k).Parcel seen k → (b.slot k).Parcel seen k :=
      fun k hk hp =>
      ((hserves.changes k).mono id (fun he => hk he) fun _ => id).parcel hp
    refine ⟨hdistinct, fun k hk => hserves.log.known ha.sound (hrest.known k hk), fun k hk => ?_,
      fun k hk => ?_⟩
    · refine others k ?_ (hrest.kept k hk)
      rintro rfl
      exact hnew (List.mem_map.mpr ⟨_, hk, rfl⟩)
    · rw [hserves.acked, List.append_nil] at hk
      obtain ⟨hknown, hapart, hp⟩ := h.acked k hk
      refine ⟨hserves.log.known ha.sound hknown, fun hmem => hapart (List.mem_cons_of_mem _ hmem),
        others k ?_ hp⟩
      rintro rfl
      exact hapart List.mem_cons_self
  · refine hrest.serves ha hacked fun k hk => ?_
    split at hk
    · rename_i hdetached
      obtain rfl := List.mem_singleton.mp hk
      subst hdetached
      exact ⟨hacked.log.known ha.sound (h.known k List.mem_cons_self), hnew,
        (hacked.changes k).parcel (h.kept k List.mem_cons_self)⟩
    · cases hk

end Parcels

section
variable {deadline : Option MonotonicTime} {terminal : Option Waiter}

theorem Enrolled.parcel (h : Enrolled seen deadline none key a b) : (b.slot key).Parcel seen key :=
  h.changes.parcel (.registered key)

theorem Enrolled.absent (h : Enrolled seen deadline terminal key a b)
    (hp : Parcels seen flights a) : key ∉ flights.map Prod.fst := by
  intro hmem
  have hfresh := h.fresh
  rw [hp.known key hmem] at hfresh
  cases hfresh

end

end RequestAuthority

theorem Submission.terminal_detached {submission : Submission} (h : submission.detached = true) :
    submission.terminal = none := if_pos h

def Preparation.flight (job : Preparation) : RequestKey × Bool :=
  (job.key, job.acknowledge.detached)

def PreparedOperation.flight (prepared : PreparedOperation) : RequestKey × Bool :=
  (prepared.key, prepared.acknowledge.detached)

namespace OwnerTask

open RequestAuthority

variable {s s' : OwnerTask} {seen : CommandResponse → Prop} {others : List (RequestKey × Bool)}

def flights (s : OwnerTask) : List (RequestKey × Bool) :=
  s.preparations.map Preparation.flight ++ s.preparationOrder.completed.values.map flight

theorem SamePreparations.flights (h : SamePreparations s s') : s'.flights = s.flights := by
  rw [OwnerTask.flights, OwnerTask.flights, h.1, h.2]

theorem Submitted.parcels {command : OperationAdmission}
    (h : Submitted seen True (fun _ => False) command s s') (ha : s.authority.Proper seen)
    (hp : Parcels seen s.flights s.authority) : Parcels seen s'.flights s'.authority := by
  cases h with
  | refused error same serves told answered =>
    rw [same.flights]
    exact hp.quiet ha serves
  | parked charge needs lacks state =>
    subst state
    exact hp
  | queued key same serves enrolled =>
    rw [same.flights]
    refine hp.serves ha serves fun k hk => ?_
    split at hk
    · rename_i hdetached
      obtain rfl := List.mem_singleton.mp hk
      rw [Submission.terminal_detached hdetached] at enrolled
      exact ⟨enrolled.known, enrolled.absent hp, enrolled.parcel⟩
    · cases hk
  | preparing key retainRaw serves enrolled order preparations =>
    have hunacked : key ∉ s'.authority.acknowledged := by
      rw [serves.acked, List.append_nil]
      intro hk
      have hfresh := enrolled.fresh
      rw [(hp.acked key hk).1] at hfresh
      cases hfresh
    have htook : Parcels seen ((key, command.submission.detached) :: s.flights) s'.authority :=
      (hp.quiet ha serves).takeoff (enrolled.absent hp) enrolled.known hunacked
        fun hdetached => by
          rw [Submission.terminal_detached hdetached] at enrolled
          exact enrolled.parcel
    refine htook.perm ?_
    rw [OwnerTask.flights, OwnerTask.flights, order, preparations, List.map_append,
      List.append_assoc]
    exact List.perm_middle.symm

theorem SubmittedCompound.parcels {command : CompoundAdmission}
    (h : SubmittedCompound seen True (fun _ => False) command s s') (ha : s.authority.Proper seen)
    (hp : Parcels seen s.flights s.authority) : Parcels seen s'.flights s'.authority := by
  cases h with
  | refused error same serves answered =>
    rw [same.flights]
    exact hp.quiet ha serves
  | parked required needs lacks state =>
    subst state
    exact hp
  | queued keys same serves answered enrolled =>
    rw [same.flights]
    exact hp.serves ha serves fun k hk => ⟨(enrolled k hk).known, (enrolled k hk).absent hp,
      (enrolled k hk).parcel⟩

theorem Finished.parcels {ready : List PreparedOperation} {a b : RequestAuthority}
    (h : Finished seen ready a b) (ha : a.Proper seen)
    (hp : Parcels seen (ready.map flight ++ others) a) : Parcels seen others b := by
  induction h with
  | nil => exact hp
  | dropped serves _ ih => exact ih (serves True).proper (hp.landed ha (.inl serves))
  | acknowledged serves _ ih => exact ih serves.proper (hp.landed ha (.inr serves))

/-- **One step** keeps the results, if it is timely. -/
theorem Turned.parcels (h : Turned seen True s s') (ha : s.authority.Proper seen)
    (hkeyed : s.preparationOrder.Keyed key)
    (hp : Parcels seen s.flights s.authority) : Parcels seen s'.flights s'.authority := by
  cases h with
  | quiet quiet =>
    rw [quiet.same.flights]
    exact hp.quiet ha quiet.serves
  | operation command submitted =>
    exact Submitted.parcels (s := { s with waitingOperation := none }) submitted ha hp
  | compound command submitted =>
    exact SubmittedCompound.parcels (s := { s with waitingCompound := none }) submitted ha hp
  | released job result preparations order finished =>
    refine finished.parcels ha (hp.perm ?_)
    -- The job cannot have completed before: its key is in flight once.
    have hnew : s.preparationOrder.completed.lookup job.key = none := by
      cases hlookup : s.preparationOrder.completed.lookup job.key with
      | none => rfl
      | some prepared =>
        have hdistinct := hp.distinct
        rw [OwnerTask.flights, List.map_append] at hdistinct
        refine (List.disjoint_of_nodup_append hdistinct (List.mem_map.mpr ⟨job.flight, ?_, rfl⟩)
          (List.mem_map.mpr ⟨prepared.flight, ?_, hkeyed _ _ hlookup⟩)).elim
        · exact List.mem_map_of_mem (preparations.mem_iff.mpr List.mem_cons_self)
        · exact List.mem_map_of_mem (Table.mem_values.mpr ⟨_, hlookup⟩)
    have hvalues := (OrderedCompletionQueue.complete_values
      ⟨job.key, result, job.retainRaw, job.acknowledge⟩ hnew).map flight
    rw [List.map_append, ← order] at hvalues
    have hjobs : s.flights.Perm (s'.preparations.map Preparation.flight ++
        (job.flight :: s.preparationOrder.completed.values.map flight)) :=
      ((preparations.map Preparation.flight).append_right _).trans List.perm_middle.symm
    exact (hjobs.trans (hvalues.symm.append_left _)).trans (List.perm_append_comm_assoc _ _ _)

theorem start_parcels (config : RuntimeConfig) :
    Parcels seen (start config).flights (start config).authority :=
  ⟨List.nodup_nil, (fun _ h => nomatch h), (fun _ h => nomatch h), fun _ h => nomatch h⟩

theorem run_parcels {config : RuntimeConfig} {inputs : List OwnerInput}
    (hreads : Meets step (Reads seen True) (start config) inputs)
    (hexited : (run config inputs).exited = false) :
    Parcels seen (run config inputs).flights (run config inputs).authority := by
  have hinvariant : let s := run config inputs
      s.Kept ∧ (s.exited = false → s.authority.Proper seen ∧
        Parcels seen s.flights s.authority) := by
    refine Meets.invariant (P := fun s : OwnerTask => s.Kept ∧
      (s.exited = false → s.authority.Proper seen ∧ Parcels seen s.flights s.authority))
      (fun s input h ht => ⟨step_kept h.1 input, fun hout => ?_⟩) hreads
      ⟨start_kept config, fun _ => ⟨start_proper config, start_parcels config⟩⟩
    obtain ⟨hproper, hparcels⟩ := h.2 (exited_of_step hout)
    have hturned := step_turned hproper hout ht
    obtain ⟨acks, hserves⟩ := hturned.serves hproper
    exact ⟨hserves.proper, hturned.parcels hproper h.1.keyed hparcels⟩
  exact (hinvariant.2 hexited).2

instance (a : RequestAuthority) (message : CommandResponse) : Decidable (a.Timely message) := by
  unfold RequestAuthority.Timely
  infer_instance

instance (s : OwnerTask) (input : OwnerInput) : Decidable (s.Timely input) := by
  unfold Timely
  infer_instance

/-- A message that a step of the run has decoded and routed. -/
def Routed (config : RuntimeConfig) (inputs : List OwnerInput) (message : CommandResponse) : Prop :=
  ∃ before input, before ++ [input] <+: inputs ∧
    ∃ visit ∈ (run config before).routed input, visit.message = message

/-- Once a detached request has an outcome, the first `AwaitOperation` for its key has been sent the
result, once, and every later one a refusal. -/
theorem awaited_once_when_timely (config : RuntimeConfig) (inputs : List OwnerInput)
    (htimely : Meets step Timely (start config) inputs)
    (hexited : (run config inputs).exited = false) :
    let a := (run config inputs).authority
    ∀ key ∈ a.acknowledged,
      (∀ o, a.state.terminalOutcome key = some o → 0 < a.awaits.count key →
        ∃ answer, o.Reports (Routed config inputs) key answer ∧
        a.answers (.awaiting key 0) = [answer]) ∧
      (a.state.terminalOutcome key = none ∨ a.awaits.count key = 0 →
        a.answers (.awaiting key 0) = []) ∧
      ∀ i, 0 < i → i < a.awaits.count key →
        ∃ answer, a.answers (.awaiting key i) = [answer] ∧ Slot.Refusal key answer := by
  intro a key hkey
  have hreads : Meets step (Reads (Routed config inputs) True) (start config) inputs :=
    htimely.imp fun before input hprefix ht visit hv =>
      ⟨⟨before, input, hprefix, visit, hv, rfl⟩, fun _ => ht visit hv⟩
  obtain ⟨-, -, hparcel⟩ := (run_parcels hreads hexited).acked key hkey
  refine ⟨fun o ho hawaits => ?_, fun hearly => ?_, fun i hi hlt => (hparcel.refused i hi).1 hlt⟩
  · cases hparcel.kept with
    | waiting st outcome => exact nomatch ho.symm.trans outcome
    | stored st o' answer outcome reports seat terminal buffered awaits =>
      exact absurd hawaits (Nat.not_lt.mpr (Nat.le_of_eq awaits))
    | fetched o' answer outcome reports awaits heard =>
      obtain rfl : o' = o := Option.mem_unique outcome ho
      exact ⟨answer, reports, heard⟩
  · cases hparcel.kept with
    | waiting st outcome seat terminal buffered draining callerCompleted heard => exact heard
    | stored st o' answer outcome reports seat terminal buffered awaits heard => exact heard
    | fetched o' answer outcome reports awaits heard =>
      rcases hearly with hopen | hnone
      · exact nomatch hopen.symm.trans outcome
      · exact absurd awaits (Nat.not_lt.mpr (Nat.le_of_eq hnone))

def answeredThenAwaited : List Turn :=
  [{ operations := [(submitEcho true none 0, .inline (some echoFrame))]
     final := .polledWrite 1 (some .sent) false false },
   { final := .awaited (.received 1) },
   { enqueues := 1, final := .awaited (.decoded 0 (some [(echoed 0, false)]) false) },
   { controls := [.awaitOperation (smallKey 0)], final := .awaited (.received 1) }]

theorem awaited_once_when_timely_echo :
    ∃ answer, TerminalOutcome.response.Reports (Routed (smallConfig 1)
        (answeredThenAwaited.flatMap Turn.inputs)) (smallKey 0) answer ∧
      (run (smallConfig 1) (answeredThenAwaited.flatMap Turn.inputs)).authority.answers
        (.awaiting (smallKey 0) 0) = [answer] :=
  (awaited_once_when_timely (smallConfig 1) (answeredThenAwaited.flatMap Turn.inputs) (by decide)
    (by decide) (smallKey 0) (by decide)).1 .response (by decide) (by decide)

def cancelledThenAwaited : List Turn :=
  [{ operations := [(submitEcho true none 0, .inline (some echoFrame))]
     final := .polledWrite 1 (some .sent) false false },
   { controls := [.cancel (smallKey 0) 0], final := .awaited (.received 1) },
   { enqueues := 1, final := .awaited (.decoded 0 (some [(echoed 0, false)]) false) },
   { controls := [.awaitOperation (smallKey 0)], final := .awaited (.received 1) }]

/-- The late response to a cancelled request drops the entry, and the only `AwaitOperation` is
refused.
-/
theorem result_lost_to_late_response :
    let s := run (smallConfig 1) (cancelledThenAwaited.flatMap Turn.inputs)
    s.exited = false ∧ s.authority.fatal = none ∧ smallKey 0 ∈ s.authority.acknowledged ∧
    s.authority.state.terminalOutcome (smallKey 0) = some .outcomeUnknown ∧
    s.authority.awaits.count (smallKey 0) = 1 ∧
    s.authority.answers (.awaiting (smallKey 0) 0) = [.error (.unknownRequest (smallKey 0))] := by
  decide

end OwnerTask

end Runtime
