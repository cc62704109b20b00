import SmbClient.Runtime.Proof.Objects

/-!
# Phases of an object through its recovery

`Stands phase token`: the record of the token is in the phase, or revoked.
-/

namespace Runtime

namespace ObjectRegistry

variable {g g' : ObjectRegistry} {t t' : ObjectToken} {phase : ObjectPhase}

def Stands (g : ObjectRegistry) (phase : ObjectPhase) (t : ObjectToken) : Prop :=
  ∃ r, g.records.lookup t.id = some r ∧ (r.token = t ∧ r.phase = phase ∨ r.phase = .revoked)

def Revoked (g : ObjectRegistry) (t : ObjectToken) : Prop :=
  ∃ r, g.records.lookup t.id = some r ∧ r.phase = .revoked

theorem Revoked.stands (h : g.Revoked t) : g.Stands phase t :=
  h.imp fun _ h => ⟨h.1, .inr h.2⟩

theorem Stands.of_same {r : ObjectRecord → ObjectRecord}
    (lookup : g'.records.lookup t.id = (g.records.lookup t.id).map r)
    (keeps : ∀ x, (r x).token = x.token ∧ (r x).phase = x.phase ∨ (r x).phase = .revoked)
    (h : g.Stands phase t) : g'.Stands phase t := by
  obtain ⟨x, found, h⟩ := h
  refine ⟨r x, by rw [lookup, found]; rfl, ?_⟩
  rcases keeps x with ⟨token, same⟩ | revoked
  · rw [token, same]
    exact h
  · exact .inr revoked

theorem Stands.revoke (test : ObjectRecord → Bool) (h : g.Stands phase t) :
    (g.revoke test).1.Stands phase t := by
  refine h.of_same (Table.lookup_map _ _ _) fun x => ?_
  split_ifs
  · exact .inr rfl
  · exact .inl ⟨rfl, rfl⟩

theorem Stands.setPhase {phase' : ObjectPhase} (other : t'.id ≠ t.id) (h : g.Stands phase t) :
    (g.setPhase t' phase').Stands phase t := by
  obtain ⟨x, found, h⟩ := h
  have ne : x.token ≠ t' := fun same => other (by rw [← same]; exact (g.sound _ _ found).1)
  refine ⟨x, ?_, h⟩
  rw [ObjectRegistry.setPhase, lookup_mapRecords, found, Option.map_some, if_neg ne]

theorem Stands.lose (h : g.Stands phase t) : g.loseGeneration.1.Stands phase t := h.revoke _

theorem over_of_lose {id : ℕ} {r : ObjectRecord}
    (h : g.loseGeneration.1.records.lookup id = some r) : r.phase.over = true := by
  have lookup : g.loseGeneration.1.records.lookup id = (g.records.lookup id).map fun r =>
      if true && !r.phase.over then { r with phase := .revoked } else r := Table.lookup_map _ _ _
  rw [lookup] at h
  obtain ⟨x, -, rfl⟩ := Option.map_eq_some_iff.1 h
  cases ended : x.phase.over
  · rfl
  · simp [ended]

theorem Stands.revoked_of_over (ended : ∀ id r, g.records.lookup id = some r → r.phase.over = true)
    (alive : phase.over = false) (h : g.Stands phase t) : g.Revoked t := by
  obtain ⟨r, found, ⟨-, same⟩ | revoked⟩ := h
  · have := ended _ _ found
    simp [same, alive] at this
  · exact ⟨r, found, revoked⟩

/-! ## Recovery -/

theorem beginRecovery_spec (h : g.beginRecovery t' = .ok g') :
    (∀ {phase t}, t'.id ≠ t.id → g.Stands phase t → g'.Stands phase t) ∧
      g'.Stands .recovering t' := by
  unfold beginRecovery at h
  split at h
  · cases h
  rename_i active
  obtain rfl := Except.ok.inj h
  obtain ⟨r, record, -⟩ := record_of_validateActive active
  obtain ⟨found, token⟩ := g.lookup_of_record record
  refine ⟨fun other h => h.setPhase other, { r with phase := .recovering }, ?_, .inl ⟨token, rfl⟩⟩
  rw [ObjectRegistry.setPhase, lookup_mapRecords, found, Option.map_some, if_pos token]

theorem Stands.record (own : t.generation = g.generation) (h : g.Stands phase t) :
    (∃ r, g.record t = .ok r ∧ r.phase = phase) ∨ g.Revoked t := by
  obtain ⟨r, found, ⟨token, same⟩ | revoked⟩ := h
  · refine .inl ⟨r, ?_, same⟩
    simp [ObjectRegistry.record, own, found, token]
  · exact .inr ⟨r, found, revoked⟩

/-- The object is revoked, and other objects keep their phases. -/
theorem failRecovery_spec {made : ObjectRegistry × List ObjectEffect}
    (h : g.failRecovery t' = .ok made) :
    (∀ {phase t}, g.Stands phase t → made.1.Stands phase t) ∧ made.1.Revoked t' := by
  unfold failRecovery at h
  split at h
  · cases h
  rename_i r record
  split at h
  · cases h
  have made_eq : made.1 = (g.revokeDescendants t').1.setPhase t' .revoked := by
    rw [← Except.ok.inj h]
    rfl
  rw [made_eq]
  obtain ⟨found, token⟩ := g.lookup_of_record record
  refine ⟨fun {phase t} h => ?_, ?_⟩
  · refine (h.revoke fun r => g.isDescendant r.token.id t').of_same (Table.lookup_map _ _ _)
      fun x => ?_
    split_ifs
    · exact .inr rfl
    · exact .inl ⟨rfl, rfl⟩
  · obtain ⟨x, found', -⟩ := (revokeDescendants_grows t').aged.records _ _ found
    obtain ⟨y, found'', same, -⟩ := revokeDescendants_lookup t' found'
    obtain rfl := Option.mem_unique found'' found
    refine ⟨{ x with phase := .revoked }, ?_, rfl⟩
    rw [ObjectRegistry.setPhase, lookup_mapRecords, found', Option.map_some, if_pos
      (same.trans token)]

theorem revoked_of_failRecovery_error {error : ObjectError} (own : t'.generation = g.generation)
    (standing : g.Stands .recovering t') (h : g.failRecovery t' = .error error) : g.Revoked t' := by
  rcases standing.record own with ⟨r, record, phase⟩ | revoked
  · simp [failRecovery, record, phase] at h
  · exact revoked

/-- The replacement is active, and other objects keep their phases. -/
theorem publish_spec {effect : ObjectEffect} {revoked : List ObjectEffect}
    (h : g.publishReplacementRevokingDescendants t' = (g', .ok (effect, revoked))) :
    effect = .replacementPublished t' (renewedToken t') ∧ g'.Stands .active (renewedToken t') ∧
      ∀ {phase t}, t'.id ≠ t.id → g.Stands phase t → g'.Stands phase t := by
  unfold publishReplacementRevokingDescendants at h
  split at h
  · cases h
  split at h
  · cases h
  dsimp only at h
  split at h
  · cases h
  rename_i published
  obtain ⟨r, record, -, effect, -, lookup⟩ := publishReplacement_spec published
  obtain ⟨found, token⟩ := lookup_of_record _ record
  simp only [Prod.mk.injEq, Except.ok.injEq] at h
  obtain ⟨rfl, rfl, -⟩ := h
  refine ⟨effect, ⟨renewed t' r, ?_, .inl (renewed_same token)⟩, fun {phase t} other h => ?_⟩
  · rw [lookup]
    exact congrArg (Option.map (renewed t')) found
  · obtain ⟨x, found, h⟩ := h.revoke fun r => g.isDescendant r.token.id t'
    have ne : x.token ≠ t' :=
      fun same => other (by rw [← same]; exact (ObjectRegistry.sound _ _ _ found).1)
    refine ⟨renewed t' x, ?_, ?_⟩
    · rw [lookup]
      exact congrArg (Option.map (renewed t')) found
    · rw [(renewed_other ne).1, (renewed_other ne).2]
      exact h

theorem publish_error_spec {error : ObjectError}
    (h : g.publishReplacementRevokingDescendants t' = (g', .error error)) :
    (∀ {phase t}, g.Stands phase t → g'.Stands phase t) ∧
      (t'.generation = g.generation → (Machine.checkedAdd 64 t'.epoch 1).isSome →
        g.Stands .recovering t' → g'.Revoked t') := by
  unfold publishReplacementRevokingDescendants at h
  split at h
  · rename_i failed
    obtain ⟨rfl, -⟩ := Prod.mk.inj h
    refine ⟨fun h => h, fun own _ standing => (standing.record own).resolve_left ?_⟩
    rintro ⟨r, record, -⟩
    simp [record] at failed
  rename_i r record
  split at h
  · rename_i failed
    obtain ⟨rfl, -⟩ := Prod.mk.inj h
    refine ⟨fun h => h, fun own _ standing => (standing.record own).resolve_left ?_⟩
    rintro ⟨r', record', phase⟩
    obtain rfl := Except.ok.inj (record.symm.trans record')
    exact failed phase
  dsimp only at h
  split at h
  · rename_i phase _ error' failed
    obtain ⟨rfl, -⟩ := Prod.mk.inj h
    refine ⟨fun h => h.revoke _, fun own next standing => absurd failed ?_⟩
    obtain ⟨epoch, next⟩ := Option.isSome_iff_exists.1 next
    simp [publishReplacement, revokeDescendants_record record, not_not.1 phase, next]
  · cases h

/-! ## Creation -/

theorem createChild_inv {parent : ObjectToken} {kind : ObjectKind}
    (h : g.createChild parent kind = .ok (g', t')) :
    t' = ⟨g.generation, t'.id, 0⟩ ∧ g.records.lookup t'.id = none ∧
      g'.records = g.records.insert t'.id ⟨t', kind, some parent, .active⟩ := by
  unfold createChild at h
  split at h
  · cases h
  split at h
  · cases h
  split at h
  · cases h
  split at h
  · cases h
  rename_i id next
  cases h
  refine ⟨rfl, ?_, rfl⟩
  rcases found : g.records.lookup id with _ | r
  · rfl
  · exact absurd ((g.sound _ _ found).2.2 id next) (lt_irrefl _)

theorem createChild_spec {parent : ObjectToken} {kind : ObjectKind}
    (h : g.createChild parent kind = .ok (g', t')) :
    (∀ {phase t}, g.Stands phase t → g'.Stands phase t) ∧ g'.Stands .active t' ∧
      t'.generation = g.generation ∧ g.records.lookup t'.id = none := by
  obtain ⟨token, unused, records⟩ := createChild_inv h
  refine ⟨fun {phase t} h => ?_, ⟨_, by rw [records, Table.lookup_insert_eq, if_pos rfl],
    .inl ⟨rfl, rfl⟩⟩, congrArg ObjectToken.generation token, unused⟩
  obtain ⟨r, found, h⟩ := h
  refine ⟨r, ?_, h⟩
  rw [records, Table.lookup_insert_eq, if_neg]
  · exact found
  · rintro same
    rw [same, unused] at found
    cases found

end ObjectRegistry

end Runtime
