import Mathlib.Logic.Relation
import SmbClient.Lib.Run
import SmbClient.Runtime.ObjectState

/-!
# The object registry over whole runs

`Linked`: a record's parent token is the current token of the parent, and what is below a record
that is over is over. `Aged`: what is over stays over. Every operation keeps both (`perform_grows`).
-/

namespace Runtime

namespace ObjectRegistry

variable {g g' g'' : ObjectRegistry} {token : ObjectToken} {r : ObjectRecord}
variable {id : ℕ} {phase : ObjectPhase}

section

variable (g)

def ChildOf (id parent : ℕ) : Prop :=
  ∃ r p, g.records.lookup id = some r ∧ r.parent = some p ∧ p.id = parent

def Descendant : ℕ → ℕ → Prop := Relation.TransGen g.ChildOf

def IsOver (id : ℕ) : Prop :=
  ∃ r, g.records.lookup id = some r ∧ r.phase.over = true

end

structure Linked (g : ObjectRegistry) : Prop where
  own : ∀ id r, g.records.lookup id = some r → r.token.generation = g.generation
  current : ∀ id r p, g.records.lookup id = some r → r.parent = some p →
    ∃ q, g.records.lookup p.id = some q ∧ q.token = p
  cascade : ∀ id r p q, g.records.lookup id = some r → r.parent = some p →
    g.records.lookup p.id = some q → q.phase.over = true → r.phase.over = true

structure Aged (g g' : ObjectRegistry) : Prop where
  generation : g'.generation = g.generation
  records : ∀ id r, g.records.lookup id = some r → ∃ r', g'.records.lookup id = some r' ∧
    r.token.epoch ≤ r'.token.epoch ∧ (r.phase.over = true → r'.phase.over = true)

structure Grows (g g' : ObjectRegistry) : Prop where
  aged : Aged g g'
  linked : g.Linked → g'.Linked

def Superseded (g : ObjectRegistry) (token : ObjectToken) : Prop :=
  token.generation = g.generation ∧
  ∃ r, g.records.lookup token.id = some r ∧ token.epoch < r.token.epoch

theorem Aged.refl : Aged g g := ⟨rfl, fun _ r h => ⟨r, h, le_rfl, id⟩⟩

theorem Aged.trans (h : Aged g g') (h' : Aged g' g'') : Aged g g'' := by
  refine ⟨h'.generation.trans h.generation, fun id r hr => ?_⟩
  obtain ⟨r', hr', hepoch, hover⟩ := h.records id r hr
  obtain ⟨r'', hr'', hepoch', hover'⟩ := h'.records id r' hr'
  exact ⟨r'', hr'', hepoch.trans hepoch', fun h => hover' (hover h)⟩

theorem Grows.refl : Grows g g := ⟨.refl, id⟩

theorem Grows.trans (h : Grows g g') (h' : Grows g' g'') : Grows g g'' :=
  ⟨h.aged.trans h'.aged, fun hg => h'.linked (h.linked hg)⟩

theorem Aged.isOver (h : Aged g g') : g.IsOver id → g'.IsOver id := by
  rintro ⟨r, hr, hover⟩
  obtain ⟨r', hr', -, hover'⟩ := h.records id r hr
  exact ⟨r', hr', hover' hover⟩

theorem Superseded.aged (hs : g.Superseded token) (h : Aged g g') : g'.Superseded token := by
  obtain ⟨hgeneration, r, hr, hlt⟩ := hs
  obtain ⟨r', hr', hle, -⟩ := h.records _ r hr
  exact ⟨hgeneration.trans h.generation.symm, r', hr', by omega⟩

theorem Superseded.stale (h : g.Superseded token) : g.record token = .error .stale := by
  obtain ⟨hgeneration, r, hr, hlt⟩ := h
  have hne : r.token ≠ token := by
    rintro rfl
    omega
  unfold record
  rw [if_neg (not_not.mpr hgeneration), hr]
  exact if_pos hne

theorem validateActive_error {error : ObjectError} (h : g.record token = .error error) :
    g.validateActive token = .error error := by
  unfold validateActive
  split
  · rename_i e he
    rw [h] at he
    cases he
    rfl
  · rename_i r hr
    rw [h] at hr
    cases hr

theorem record_of_validateActive (h : g.validateActive token = .ok ()) :
    ∃ r, g.record token = .ok r ∧ r.phase = .active := by
  unfold validateActive at h
  split at h
  · cases h
  rename_i r hr
  split at h
  · cases h
  · rename_i hphase
    exact ⟨r, hr, not_not.mp hphase⟩

/-! ## Changing records -/

section MapRecords

variable {f : ObjectRecord → ObjectRecord}
  {hf : ∀ r, (f r).token.id = r.token.id ∧
    ∀ p, (f r).parent = some p → ∃ q, r.parent = some q ∧ q.id = p.id}

theorem lookup_mapRecords (id : ℕ) :
    (g.mapRecords f hf).records.lookup id = (g.records.lookup id).map f :=
  Table.lookup_map _ _ _

theorem lookup_of_mapRecords {id : ℕ} {r' : ObjectRecord}
    (h : (g.mapRecords f hf).records.lookup id = some r') :
    ∃ r, g.records.lookup id = some r ∧ f r = r' := by
  rw [lookup_mapRecords] at h
  exact Option.map_eq_some_iff.mp h

theorem mapRecords_grows (htoken : ∀ r, (f r).token = r.token)
    (hparent : ∀ r, (f r).parent = r.parent)
    (hover : ∀ id r, g.records.lookup id = some r → r.phase.over = true → (f r).phase.over = true)
    (hcascade : ∀ id r p q, g.records.lookup id = some r → r.parent = some p →
      g.records.lookup p.id = some q → q.token = p → q.phase.over = false →
      (f q).phase.over = true → (f r).phase.over = true) : Grows g (g.mapRecords f hf) where
  aged := by
    refine ⟨rfl, fun id r hr =>
      ⟨f r, ?_, (congrArg ObjectToken.epoch (htoken r)).ge, hover id r hr⟩⟩
    rw [lookup_mapRecords, hr]
    rfl
  linked h := by
    refine ⟨fun id r' hr' => ?_, fun id r' p hr' hp => ?_, fun id r' p q' hr' hp hq' hq => ?_⟩
    · obtain ⟨r, hr, rfl⟩ := lookup_of_mapRecords hr'
      rw [htoken]
      exact h.own id r hr
    · obtain ⟨r, hr, rfl⟩ := lookup_of_mapRecords hr'
      rw [hparent] at hp
      obtain ⟨q, hq, ht⟩ := h.current id r p hr hp
      exact ⟨f q, by rw [lookup_mapRecords, hq]; rfl, (htoken q).trans ht⟩
    · obtain ⟨r, hr, rfl⟩ := lookup_of_mapRecords hr'
      obtain ⟨q, hq₀, rfl⟩ := lookup_of_mapRecords hq'
      rw [hparent] at hp
      obtain ⟨q₁, hq₁, ht⟩ := h.current id r p hr hp
      obtain rfl : q = q₁ := Option.mem_unique hq₀ hq₁
      cases hbefore : q.phase.over with
      | true => exact hover id r hr (h.cascade id r p q hr hp hq₀ hbefore)
      | false => exact hcascade id r p q hr hp hq₀ ht hbefore hq

end MapRecords

theorem lookup_token (h : g.records.lookup id = some r) : g.records.lookup r.token.id = some r := by
  rw [(g.sound id r h).1]
  exact h

/-! ### Revocation -/

theorem revoke_grows (test : ObjectRecord → Bool)
    (htest : ∀ id r p q, g.records.lookup id = some r → r.parent = some p →
      g.records.lookup p.id = some q → test q = true → test r = true) :
    Grows g (g.revoke test).1 := by
  dsimp only [revoke]
  refine mapRecords_grows (fun r => ?_) (fun r => ?_) (fun id r hr hover => ?_)
    fun id r p q hr hp hq ht hbefore hafter => ?_
  · split
    · rfl
    · rfl
  · split
    · rfl
    · rfl
  · split
    · rfl
    · exact hover
  · split at hafter
    · rename_i hq'
      rw [Bool.and_eq_true] at hq'
      have hr' := htest id r p q hr hp hq hq'.1
      cases hover : r.phase.over with
      | true => simp [hover]
      | false => rw [hr']; rfl
    · rw [hbefore] at hafter
      cases hafter

theorem isDescendant_step {p : ObjectToken} (hr : g.records.lookup id = some r)
    (hp : r.parent = some p) (ancestor : ObjectToken) :
    g.isDescendant id ancestor = (decide (p = ancestor) || g.isDescendant p.id ancestor) := by
  rw [isDescendant]
  split
  · rename_i h
    rw [h] at hr
    cases hr
  · rename_i r' hr'
    obtain rfl : r' = r := Option.mem_unique hr' hr
    split
    · rename_i h
      rw [h] at hp
      cases hp
    · rename_i p' hp'
      obtain rfl : p' = p := Option.mem_unique hp' hp
      rfl

theorem revokeDescendants_grows (ancestor : ObjectToken) :
    Grows g (g.revokeDescendants ancestor).1 := by
  apply revoke_grows
  intro id r p q hr hp hq hbelow
  rw [isDescendant_step (lookup_token hr) hp, Bool.or_eq_true]
  rw [(g.sound _ q hq).1] at hbelow
  exact .inr hbelow

/-- Children of the ancestor are over; what is not below it is as it was. -/
theorem revokeDescendants_lookup (ancestor : ObjectToken) {r' : ObjectRecord}
    (h : (g.revokeDescendants ancestor).1.records.lookup id = some r') :
    ∃ r, g.records.lookup id = some r ∧ r'.token = r.token ∧ r'.parent = r.parent ∧
      (r.parent = some ancestor → r'.phase.over = true) ∧
      (g.isDescendant id ancestor = false → r' = r) := by
  dsimp only [revokeDescendants, revoke] at h
  obtain ⟨r, hr, rfl⟩ := lookup_of_mapRecords h
  have hid : r.token.id = id := (g.sound id r hr).1
  refine ⟨r, hr, ?_, ?_, fun hp => ?_, fun hd => ?_⟩
  · split
    · rfl
    · rfl
  · split
    · rfl
    · rfl
  · have hbelow : g.isDescendant r.token.id ancestor = true := by
      rw [isDescendant_step (lookup_token hr) hp]
      simp
    cases hover : r.phase.over with
    | true => simp [hover]
    | false => simp [hbelow, ObjectPhase.over]
  · simp [hid, hd]

theorem isDescendant_lt {ancestor : ObjectToken} : ∀ {id : ℕ},
    g.isDescendant id ancestor = true → ancestor.id < id := by
  intro id
  induction id using Nat.strong_induction_on with
  | _ id ih =>
    intro h
    rw [isDescendant] at h
    split at h
    · cases h
    rename_i r hr
    split at h
    · cases h
    rename_i p hp
    have hlt : p.id < id := (g.sound id r hr).2.1 p hp
    rw [Bool.or_eq_true, decide_eq_true_eq] at h
    rcases h with rfl | h
    · exact hlt
    · exact (ih p.id hlt h).trans hlt

theorem revokeDescendants_record (h : g.record token = .ok r) :
    (g.revokeDescendants token).1.record token = .ok r := by
  obtain ⟨hr, ht⟩ := g.lookup_of_record h
  have hself : g.isDescendant token.id token = false := by
    cases hd : g.isDescendant token.id token with
    | false => rfl
    | true => exact absurd (isDescendant_lt hd) (lt_irrefl _)
  have hlookup : (g.revokeDescendants token).1.records.lookup token.id = some r := by
    obtain ⟨r', hr', -, -⟩ := (revokeDescendants_grows (g := g) token).aged.records _ r hr
    obtain ⟨r₀, hr₀, -, -, -, hsame⟩ := revokeDescendants_lookup token hr'
    obtain rfl : r₀ = r := Option.mem_unique hr₀ hr
    rw [hr', hsame hself]
  have hgeneration : (g.revokeDescendants token).1.generation = g.generation :=
    (revokeDescendants_grows token).aged.generation
  unfold record at h ⊢
  rw [hgeneration, hlookup]
  rw [hr] at h
  exact h

/-! ### Phases -/

theorem setPhase_token (phase : ObjectPhase) (r : ObjectRecord) :
    (if r.token = token then { r with phase } else r).token = r.token := by
  split
  · rfl
  · rfl

theorem setPhase_parent (phase : ObjectPhase) (r : ObjectRecord) :
    (if r.token = token then { r with phase } else r).parent = r.parent := by
  split
  · rfl
  · rfl

theorem setPhase_grows (h : g.record token = .ok r)
    (hbefore : r.phase.over = false) (hphase : phase.over = false) :
    Grows g (g.setPhase token phase) := by
  apply mapRecords_grows (setPhase_token phase) (setPhase_parent phase)
  · intro id r' hr' hover
    split
    · rename_i ht
      have hfiled := lookup_token hr'
      rw [ht, (g.lookup_of_record h).1] at hfiled
      obtain rfl := Option.some.inj hfiled
      rw [hbefore] at hover
      cases hover
    · exact hover
  · intro id r' p q hr' hp hq ht hq₀ hq'
    split at hq'
    · rw [hphase] at hq'
      cases hq'
    · rw [hq₀] at hq'
      cases hq'

theorem setPhase_over (hphase : phase.over = true)
    (hchildren : ∀ id r, g.records.lookup id = some r → r.parent = some token →
      r.phase.over = true) : Grows g (g.setPhase token phase) := by
  apply mapRecords_grows (setPhase_token phase) (setPhase_parent phase)
  · intro id r' hr' hover
    split
    · exact hphase
    · exact hover
  · intro id r' p q hr' hp hq ht hq₀ hq'
    split at hq'
    · rename_i htoken
      have hover := hchildren id r' hr' (by rw [hp, ← ht, htoken])
      split
      · exact hphase
      · exact hover
    · rw [hq₀] at hq'
      cases hq'

theorem revoked_over (token : ObjectToken) (hphase : phase.over = true) :
    Grows g ((g.revokeDescendants token).1.setPhase token phase) := by
  refine (revokeDescendants_grows token).trans (setPhase_over hphase fun id r' hr' hp => ?_)
  obtain ⟨r, -, -, hparent, hover, -⟩ := revokeDescendants_lookup token hr'
  exact hover (hparent.symm.trans hp)

/-! ## Creating and replacing -/

theorem createChild_grows {parent : ObjectToken} {kind : ObjectKind}
    {made : ObjectRegistry × ObjectToken} (h : g.createChild parent kind = .ok made) :
    Grows g made.1 := by
  unfold createChild at h
  split at h
  · cases h
  rename_i r hr
  split at h
  · cases h
  split at h
  · cases h
  rename_i hactive
  split at h
  · cases h
  rename_i id hid
  cases h
  have hfiled := (g.lookup_of_record hr).1
  have htoken := (g.lookup_of_record hr).2
  have hbelow : parent.id ≠ id := ((g.sound _ _ hfiled).2.2 id hid).ne
  -- The id is new, so nothing that is filed changes.
  have hold : ∀ id' r', g.records.lookup id' = some r' → id' ≠ id := fun id' r' h' =>
    ((g.sound _ _ h').2.2 id hid).ne
  refine ⟨⟨rfl, fun id' r' h' => ⟨r', ?_, le_rfl, fun h => h⟩⟩, fun hg => ⟨fun id' r' h' => ?_,
    fun id' r' p h' hp => ?_, fun id' r' p q h' hp hq hover => ?_⟩⟩
  · rw [Table.lookup_insert_eq, if_neg (hold id' r' h')]
    exact h'
  · rw [Table.lookup_insert_eq] at h'
    split at h'
    · cases h'
      rfl
    · exact hg.own id' r' h'
  · rw [Table.lookup_insert_eq] at h'
    split at h'
    · cases h'
      cases hp
      refine ⟨r, ?_, htoken⟩
      rw [Table.lookup_insert_eq, if_neg hbelow]
      exact hfiled
    · obtain ⟨q, hq, ht⟩ := hg.current id' r' p h' hp
      refine ⟨q, ?_, ht⟩
      rw [Table.lookup_insert_eq, if_neg (hold _ _ hq)]
      exact hq
  · rw [Table.lookup_insert_eq] at h' hq
    split at h'
    · -- The parent is active, and it is not the child itself.
      cases h'
      cases hp
      rw [if_neg hbelow, hfiled] at hq
      cases hq
      rw [not_not.mp hactive] at hover
      cases hover
    · obtain ⟨q', hq', -⟩ := hg.current id' r' p h' hp
      rw [if_neg (hold _ _ hq'), hq'] at hq
      cases hq
      exact hg.cascade id' r' p q h' hp hq' hover

def renewedToken (token : ObjectToken) : ObjectToken := { token with epoch := token.epoch + 1 }

def renewed (token : ObjectToken) (r : ObjectRecord) : ObjectRecord :=
  if r.token = token then { r with token := renewedToken token, phase := .active }
  else if r.parent = some token then { r with parent := some (renewedToken token) }
  else r

theorem renewed_same (h : r.token = token) :
    (renewed token r).token = renewedToken token ∧ (renewed token r).phase = .active := by
  unfold renewed
  rw [if_pos h]
  exact ⟨rfl, rfl⟩

theorem renewed_other (h : r.token ≠ token) :
    (renewed token r).token = r.token ∧ (renewed token r).phase = r.phase := by
  unfold renewed
  rw [if_neg h]
  split
  · exact ⟨rfl, rfl⟩
  · exact ⟨rfl, rfl⟩

theorem renewed_parent (h : g.records.lookup id = some r) :
    (renewed token r).parent = if r.parent = some token then some (renewedToken token) else
    r.parent := by
  unfold renewed
  split
  · rename_i ht
    have hne : r.parent ≠ some token := by
      intro hp
      have hlt : token.id < id := (g.sound id r h).2.1 token hp
      rw [← (g.sound id r h).1, ht] at hlt
      exact lt_irrefl _ hlt
    rw [if_neg hne]
  · split
    · rfl
    · rfl

section
variable {published : ObjectRegistry × ObjectEffect}
    (h : g.publishReplacement token = .ok published)
include h

/-- A recovering object gets the next epoch, and its children name it. -/
theorem publishReplacement_spec :
    ∃ r, g.record token = .ok r ∧ r.phase = .recovering ∧
      published.2 = .replacementPublished token (renewedToken token) ∧
      published.1.generation = g.generation ∧
      ∀ id, published.1.records.lookup id = (g.records.lookup id).map (renewed token) := by
  unfold publishReplacement at h
  split at h
  · cases h
  rename_i r hr
  split at h
  · cases h
  rename_i hphase
  split at h
  · cases h
  rename_i epoch hepoch
  obtain rfl := (Machine.checkedAdd_eq_some.mp hepoch).2
  cases h
  exact ⟨r, hr, not_not.mp hphase, rfl, rfl, fun id => Table.lookup_map _ _ id⟩

theorem publishReplacement_superseded : published.1.Superseded token := by
  obtain ⟨r, hr, -, -, hgeneration, hlookup⟩ := publishReplacement_spec h
  obtain ⟨hfiled, htoken⟩ := g.lookup_of_record hr
  refine ⟨?_, renewed token r, by rw [hlookup, hfiled]; rfl, ?_⟩
  · rw [hgeneration]
    unfold record at hr
    split at hr
    · cases hr
    · rename_i hsame
      exact not_not.mp hsame
  · rw [(renewed_same htoken).1]
    exact Nat.lt_succ_self _

theorem publishReplacement_grows : Grows g published.1 := by
  obtain ⟨r₀, hr₀, hphase, -, hgeneration, hlookup⟩ := publishReplacement_spec h
  obtain ⟨hfiled, htoken⟩ := g.lookup_of_record hr₀
  have hafter : ∀ {id r'}, published.1.records.lookup id = some r' →
      ∃ r, g.records.lookup id = some r ∧ renewed token r = r' := by
    intro id r' hr'
    rw [hlookup] at hr'
    exact Option.map_eq_some_iff.mp hr'
  -- The replaced record is the one that is recovering.
  have hsame : ∀ {id r}, g.records.lookup id = some r → r.token = token → r.phase.over = false := by
    intro id r hr ht
    have hr' := lookup_token hr
    rw [ht, hfiled] at hr'
    cases hr'
    rw [hphase]
    rfl
  have hover : ∀ {id r}, g.records.lookup id = some r →
      (r.phase.over = true ↔ (renewed token r).phase.over = true) := by
    intro id r hr
    by_cases ht : r.token = token
    · rw [(renewed_same ht).2, hsame hr ht]
      simp [ObjectPhase.over]
    · rw [(renewed_other ht).2]
  refine ⟨⟨hgeneration, fun id r hr =>
    ⟨renewed token r, by rw [hlookup, hr]; rfl, ?_, (hover hr).mp⟩⟩, fun hg =>
      ⟨fun id r' hr' => ?_, fun id r' p hr' hp => ?_, fun id r' p q' hr' hp hq' h' => ?_⟩⟩
  · by_cases ht : r.token = token
    · rw [(renewed_same ht).1, ht]
      exact Nat.le_succ _
    · rw [(renewed_other ht).1]
  · obtain ⟨r, hr, rfl⟩ := hafter hr'
    rw [hgeneration]
    by_cases ht : r.token = token
    · rw [(renewed_same ht).1]
      exact (congrArg ObjectToken.generation ht).symm.trans (hg.own id r hr)
    · rw [(renewed_other ht).1]
      exact hg.own id r hr
  · obtain ⟨r, hr, rfl⟩ := hafter hr'
    rw [renewed_parent hr] at hp
    split at hp
    · cases hp
      refine ⟨renewed token r₀, ?_, (renewed_same htoken).1⟩
      rw [hlookup, show (renewedToken token).id = token.id from rfl, hfiled]
      rfl
    · rename_i hne
      obtain ⟨q, hq, ht⟩ := hg.current id r p hr hp
      refine ⟨renewed token q, by rw [hlookup, hq]; rfl, ?_⟩
      rw [(renewed_other fun h => hne (by rw [hp, ← ht, h])).1, ht]
  · obtain ⟨r, hr, rfl⟩ := hafter hr'
    obtain ⟨q, hq, rfl⟩ := hafter hq'
    apply (hover hr).mp
    rw [renewed_parent hr] at hp
    split at hp
    · rename_i hparent
      cases hp
      exact hg.cascade id r token q hr hparent hq ((hover hq).mpr h')
    · exact hg.cascade id r p q hr hp hq ((hover hq).mpr h')

end

/-! ## Every operation -/

variable (generation : GenerationId)

theorem new_linked : (new generation).Linked := by
  have hroot : ∀ id r, (new generation).records.lookup id = some r →
      r = ⟨⟨generation, 0, 0⟩, .connection, none, .active⟩ := by
    intro id r h
    unfold new at h
    rw [Table.lookup_insert_eq] at h
    split at h
    · cases h
      rfl
    · cases h
  refine ⟨fun id r hr => ?_, fun id r p hr hp => ?_, fun id r p q hr hp _ _ => ?_⟩
  · rw [hroot id r hr]
    rfl
  · rw [hroot id r hr] at hp
    cases hp
  · rw [hroot id r hr] at hp
    cases hp

theorem publishReplacementRevokingDescendants_grows (token : ObjectToken) :
    Grows g (g.publishReplacementRevokingDescendants token).1 := by
  unfold publishReplacementRevokingDescendants
  split
  · exact .refl
  split
  · exact .refl
  have hrevoked := revokeDescendants_grows (g := g) token
  dsimp only
  split
  · exact hrevoked
  · rename_i hpublished
    exact hrevoked.trans (publishReplacement_grows hpublished)

/-- **Every operation keeps the registry linked.** -/
theorem perform_grows (operation : ObjectOperation) : Grows g (g.perform operation).1 := by
  cases operation with
  | createChild parent kind =>
    dsimp only [perform]
    split
    · exact .refl
    · rename_i hmade
      exact createChild_grows hmade
  | beginRecovery token =>
    dsimp only [perform]
    split
    · exact .refl
    rename_i hbegun
    unfold beginRecovery at hbegun
    split at hbegun
    · cases hbegun
    rename_i hvalid
    cases hbegun
    obtain ⟨r, hr, hactive⟩ := record_of_validateActive hvalid
    exact setPhase_grows hr (by rw [hactive]; rfl) rfl
  | publishReplacement token =>
    dsimp only [perform]
    split
    · exact .refl
    · rename_i hpublished
      exact publishReplacement_grows hpublished
  | publishReplacementRevokingDescendants token =>
    have h := publishReplacementRevokingDescendants_grows (g := g) token
    dsimp only [perform]
    split
    · rename_i he
      rw [he] at h
      exact h
    · rename_i he
      rw [he] at h
      exact h
  | failRecovery token =>
    dsimp only [perform]
    split
    · exact .refl
    rename_i hfailed
    unfold failRecovery at hfailed
    split at hfailed
    · cases hfailed
    split at hfailed
    · cases hfailed
    · cases hfailed
      exact revoked_over token rfl
  | beginClose token =>
    dsimp only [perform]
    split
    · exact .refl
    rename_i hclosing
    unfold beginClose at hclosing
    split at hclosing
    · cases hclosing
    rename_i r hr
    split at hclosing
    · rename_i hphase
      cases hclosing
      exact setPhase_grows hr (by rw [hphase]; rfl) rfl
    · rename_i hphase
      cases hclosing
      exact setPhase_grows hr (by rw [hphase]; rfl) rfl
    all_goals
      cases hclosing
      exact .refl
  | completeClose token =>
    dsimp only [perform]
    split
    · exact .refl
    rename_i hclosed
    unfold completeClose at hclosed
    split at hclosed
    · cases hclosed
    · cases hclosed
      exact revoked_over token rfl
  | loseGeneration => exact revoke_grows _ fun _ _ _ _ _ _ _ _ => rfl

theorem not_mem_revoke (test : ObjectRecord → Bool) (previous replacement : ObjectToken) :
    .replacementPublished previous replacement ∉ (g.revoke test).2 := by
  intro h
  obtain ⟨r, -, hr⟩ := List.mem_map.mp h
  cases hr

theorem not_mem_sortEffects {effects : List ObjectEffect} {effect : ObjectEffect}
    (h : effect ∉ effects) : effect ∉ sortEffects effects := fun hmem =>
  h (List.mem_mergeSort.mp hmem)

theorem perform_superseded {operation : ObjectOperation} {previous replacement : ObjectToken}
    (h : .replacementPublished previous replacement ∈ (g.perform operation).2) :
    (g.perform operation).1.Superseded previous := by
  have published : ∀ {g : ObjectRegistry} {token result},
      g.publishReplacement token = .ok result →
      .replacementPublished previous replacement = result.2 → result.1.Superseded previous := by
    intro g token result hresult he
    obtain ⟨-, -, -, heffect, -⟩ := publishReplacement_spec hresult
    rw [heffect] at he
    cases he
    exact publishReplacement_superseded hresult
  cases operation with
  | createChild parent kind =>
    dsimp only [perform] at h
    split at h
    · cases h
    · cases h
  | beginRecovery token =>
    dsimp only [perform] at h
    split at h
    · cases h
    · cases h
  | publishReplacement token =>
    dsimp only [perform] at h ⊢
    split at h
    · cases h
    · rename_i hresult
      exact published hresult (List.mem_singleton.mp h)
  | publishReplacementRevokingDescendants token =>
    dsimp only [perform] at h ⊢
    split at h
    · cases h
    rename_i g' effect revoked he
    unfold publishReplacementRevokingDescendants at he
    split at he
    · cases he
    split at he
    · cases he
    dsimp only at he
    split at he
    · cases he
    rename_i hresult
    cases he
    rcases List.mem_cons.mp h with h | h
    · exact published hresult h
    · exact absurd h (not_mem_sortEffects (not_mem_revoke _ _ _))
  | failRecovery token =>
    dsimp only [perform] at h
    split at h
    · cases h
    rename_i hfailed
    unfold failRecovery at hfailed
    split at hfailed
    · cases hfailed
    split at hfailed
    · cases hfailed
    cases hfailed
    rcases List.mem_append.mp h with h | h
    · exact absurd h (not_mem_revoke _ _ _)
    · cases List.mem_singleton.mp h
  | beginClose token =>
    dsimp only [perform] at h
    split at h
    · cases h
    · cases h
  | completeClose token =>
    dsimp only [perform] at h
    split at h
    · cases h
    rename_i hclosed
    unfold completeClose at hclosed
    split at hclosed
    · cases hclosed
    · cases hclosed
      exact absurd h (not_mem_sortEffects (not_mem_revoke _ _ _))
  | loseGeneration => exact absurd h (not_mem_sortEffects (not_mem_revoke _ _ _))

/-! ## Every run -/

theorem run_append (before after : List ObjectOperation) : run generation (before ++ after) =
      after.foldl (fun g operation => (g.perform operation).1) (run generation before) :=
  List.foldl_append

variable (operations : List ObjectOperation)

theorem foldl_grows : Grows g (operations.foldl (fun g operation => (g.perform operation).1) g) :=
  List.foldl_invariant (P := fun g' => Grows g g')
    (fun _ operation h => h.trans (perform_grows operation)) operations .refl

/-- **Every run keeps the registry linked.** -/
theorem run_linked : (run generation operations).Linked :=
  (foldl_grows operations).linked (new_linked generation)

/-- Below an object that is over all are. -/
theorem Linked.descendant_over (h : g.Linked) {ancestor : ℕ} (hd : g.Descendant id ancestor)
    (hover : g.IsOver ancestor) : g.IsOver id := by
  have child : ∀ {id parent}, g.ChildOf id parent → g.IsOver parent → g.IsOver id := by
    rintro id parent ⟨r, p, hr, hp, rfl⟩ ⟨q, hq, hover⟩
    exact ⟨r, hr, h.cascade id r p q hr hp hq hover⟩
  -- Along the parent links, from the ancestor down.
  induction hd using Relation.TransGen.head_induction_on with
  | single hc => exact child hc hover
  | head hc _ ih => exact child hc ih

theorem record_unique {token token' : ObjectToken} {r r' : ObjectRecord}
    (hid : token.id = token'.id) (h : g.record token = .ok r) (h' : g.record token' = .ok r') :
    token = token' := by
  obtain ⟨hr, ht⟩ := g.lookup_of_record h
  obtain ⟨hr', ht'⟩ := g.lookup_of_record h'
  rw [hid, hr'] at hr
  cases hr
  rw [← ht, ← ht']

/-- Over every sequence of operations a parent is current, what is below an object that is over is
over and stays so, and a token that was replaced is stale. -/
theorem objects_stay_linked (before : List ObjectOperation) :
    (∀ id r p, (run generation before).records.lookup id = some r → r.parent = some p →
      p.id < r.token.id ∧
      ∃ q, (run generation before).records.lookup p.id = some q ∧ q.token = p) ∧
    (∀ id ancestor, (run generation before).Descendant id ancestor →
      (run generation before).IsOver ancestor → (run generation before).IsOver id) ∧
    (∀ after id, (run generation before).IsOver id → (run generation (before ++ after)).IsOver id) ∧
    (∀ operation after previous replacement,
      .replacementPublished previous replacement ∈ ((run generation before).perform operation).2 →
      (run generation (before ++ operation :: after)).record previous = .error .stale ∧
      (run generation (before ++ operation :: after)).validateActive previous = .error .stale) ∧
    (∀ token token' r r', token.id = token'.id → (run generation before).record token = .ok r →
      (run generation before).record token' = .ok r' → token = token') ∧
    (∀ token token', token.id = token'.id → (run generation before).validateActive token = .ok () →
      (run generation before).validateActive token' = .ok () → token = token') := by
  have hlinked := run_linked generation before
  refine ⟨fun id r p hr hp => ⟨?_, hlinked.current id r p hr hp⟩,
    fun id ancestor => hlinked.descendant_over, fun after id hover => ?_,
    fun operation after previous replacement hpublished => ?_,
    fun token token' r r' => record_unique, fun token token' hid h h' => ?_⟩
  · have hfiled := (run generation before).sound id r hr
    rw [hfiled.1]
    exact hfiled.2.1 p hp
  · rw [run_append]
    exact (foldl_grows after).aged.isOver hover
  · have hsuperseded : (run generation (before ++ operation :: after)).Superseded previous := by
      rw [run_append, List.foldl_cons]
      exact (perform_superseded hpublished).aged (foldl_grows after).aged
    exact ⟨hsuperseded.stale, validateActive_error hsuperseded.stale⟩
  · obtain ⟨r, hr, -⟩ := record_of_validateActive h
    obtain ⟨r', hr', -⟩ := record_of_validateActive h'
    exact record_unique hid hr hr'

def sessionRecovering : List ObjectOperation :=
  [.createChild ⟨⟨1⟩, 0, 0⟩ .session, .createChild ⟨⟨1⟩, 1, 0⟩ .share, .beginRecovery ⟨⟨1⟩, 1, 0⟩]

theorem objects_stay_linked_session :
    (run ⟨1⟩ (sessionRecovering ++ [.publishReplacement ⟨⟨1⟩, 1, 0⟩,
      .completeClose ⟨⟨1⟩, 1, 1⟩])).record ⟨⟨1⟩, 1, 0⟩ = .error .stale ∧
    (run ⟨1⟩ (sessionRecovering ++ [.publishReplacement ⟨⟨1⟩, 1, 0⟩,
      .completeClose ⟨⟨1⟩, 1, 1⟩])).IsOver 2 := by
  have hreplaced := (objects_stay_linked ⟨1⟩ sessionRecovering).2.2.2.1
    (.publishReplacement ⟨⟨1⟩, 1, 0⟩) [.completeClose ⟨⟨1⟩, 1, 1⟩] ⟨⟨1⟩, 1, 0⟩ ⟨⟨1⟩, 1, 1⟩
    (by decide +kernel)
  refine ⟨hreplaced.1, (objects_stay_linked ⟨1⟩ _).2.1 2 1 (.single ?_) ?_⟩
  · exact ⟨⟨⟨⟨1⟩, 2, 0⟩, .share, some ⟨⟨1⟩, 1, 1⟩, .revoked⟩, ⟨⟨1⟩, 1, 1⟩, by decide +kernel, rfl,
      rfl⟩
  · exact ⟨⟨⟨⟨1⟩, 1, 1⟩, .session, some ⟨⟨1⟩, 0, 0⟩, .closed⟩, by decide +kernel, rfl⟩

end ObjectRegistry

end Runtime
