import SmbClient.Error

/-!
# Directory watches (`domain/mod.rs`)

The server reports a rename as two events. `pair_directory_event` keeps the old name in one slot
until the new name comes, whatever comes between them, and a second old name takes the place of the
first.
-/

namespace Domain

inductive RuntimeDirectoryEventKind where
  | added | removed | modified | renamedOld | renamedNew | streamAdded | streamRemoved
  | streamModified
  | identifierUnavailable | identifierCollision

structure RuntimeDirectoryEvent where
  kind : RuntimeDirectoryEventKind
  path : String

inductive DirectoryEvent where
  | added (path : String)
  | removed (path : String)
  | modified (path : String)
  | renamed (old new : String)
  | streamAdded (path : String)
  | streamRemoved (path : String)
  | streamModified (path : String)
  | identifierUnavailable (path : String)
  | identifierCollision (path : String)

def noOldName : Error := .invalidMessage "rename new-name event has no old-name pair"

def noNewName (old : String) : Error :=
  .invalidMessage ("rename event for " ++ old ++ " has no new-name pair")

/-- An event that is not half of a rename. -/
def plainEvent (event : RuntimeDirectoryEvent) : Option DirectoryEvent :=
  match event.kind with
  | .added => some (.added event.path)
  | .removed => some (.removed event.path)
  | .modified => some (.modified event.path)
  | .streamAdded => some (.streamAdded event.path)
  | .streamRemoved => some (.streamRemoved event.path)
  | .streamModified => some (.streamModified event.path)
  | .identifierUnavailable => some (.identifierUnavailable event.path)
  | .identifierCollision => some (.identifierCollision event.path)
  | .renamedOld | .renamedNew => none

/-- The slot for the old name after the event, and what the event comes to. -/
def pairDirectoryEvent (renameFrom : Option String) (event : RuntimeDirectoryEvent) :
    Option String × Except Error (Option DirectoryEvent) :=
  match event.kind, renameFrom with
  | .renamedOld, _ => (some event.path, .ok none)
  | .renamedNew, some old => (none, .ok (some (.renamed old event.path)))
  | .renamedNew, none => (none, .error noOldName)
  | _, renameFrom => (renameFrom, .ok (plainEvent event))

/-- The items of the stream, for the items of the raw one. -/
def watch : Option String → List (Except Error RuntimeDirectoryEvent) →
    List (Except Error DirectoryEvent)
  | none, [] => []
  | some old, [] => [.error (noNewName old)]
  | _, .error error :: _ => [.error error]
  | renameFrom, .ok event :: raw =>
    match pairDirectoryEvent renameFrom event with
    | (renameFrom, .ok (some value)) => .ok value :: watch renameFrom raw
    | (renameFrom, .ok none) => watch renameFrom raw
    | (_, .error error) => [.error error]

/-- What may be yielded once the old name `first` was not followed by a new name: the events that
are no halves of renames, and at last the error that names it, or the one that ends the raw stream.
-/
inductive Overdue (first : String) :
    List (Except Error RuntimeDirectoryEvent) → List (Except Error DirectoryEvent) → Prop
  | named (raw) : Overdue first raw [.error (noNewName first)]
  | broken (error raw) : Overdue first (.error error :: raw) [.error error]
  | half {event raw items} (half : plainEvent event = none) (later : Overdue first raw items) :
      Overdue first (.ok event :: raw) items
  | plain {event value raw items} (plain : plainEvent event = some value)
      (later : Overdue first raw items) : Overdue first (.ok event :: raw) (.ok value :: items)

/-- What a watch owes its caller: every event in its order, an old name and the new name behind it
as one rename, and one without the other as an error. -/
inductive Accounts :
    List (Except Error RuntimeDirectoryEvent) → List (Except Error DirectoryEvent) → Prop
  | done : Accounts [] []
  | broken (error raw) : Accounts (.error error :: raw) [.error error]
  | plain {event value raw items} (plain : plainEvent event = some value)
      (later : Accounts raw items) : Accounts (.ok event :: raw) (.ok value :: items)
  | renamed {raw items} (old new) (later : Accounts raw items) :
      Accounts (.ok ⟨.renamedOld, old⟩ :: .ok ⟨.renamedNew, new⟩ :: raw)
        (.ok (.renamed old new) :: items)
  | newAlone (new raw) : Accounts (.ok ⟨.renamedNew, new⟩ :: raw) [.error noOldName]
  | oldAlone {old raw items} (alone : ∀ new rest, raw ≠ .ok ⟨.renamedNew, new⟩ :: rest)
      (overdue : Overdue old raw items) : Accounts (.ok ⟨.renamedOld, old⟩ :: raw) items

/-- No new name comes any more, and unless the raw stream breaks, the last old name is `first`. -/
def Surfaces (first : String) : String → List (Except Error RuntimeDirectoryEvent) → Prop
  | slot, [] => slot = first
  | _, .error _ :: _ => True
  | slot, .ok event :: raw =>
    match event.kind with
    | .renamedOld => Surfaces first event.path raw
    | .renamedNew => False
    | _ => Surfaces first slot raw

/-- Up to an error, old names are followed by new names, but for one that surfaces. -/
def Paired : List (Except Error RuntimeDirectoryEvent) → Prop
  | .ok ⟨.renamedOld, _⟩ :: .ok ⟨.renamedNew, _⟩ :: raw => Paired raw
  | .ok ⟨.renamedOld, old⟩ :: raw => Surfaces old old raw
  | [] | .error _ :: _ | .ok ⟨.renamedNew, _⟩ :: _ => True
  | .ok _ :: raw => Paired raw

theorem watch_plain {event : RuntimeDirectoryEvent} {value : DirectoryEvent}
    (plain : plainEvent event = some value) (slot : Option String)
    (raw : List (Except Error RuntimeDirectoryEvent)) :
    watch slot (.ok event :: raw) = .ok value :: watch slot raw := by
  obtain ⟨kind, path⟩ := event
  cases kind <;> cases plain <;> cases slot <;> rfl

theorem noNewName_inj {a b : String} (h : noNewName a = noNewName b) : a = b := by
  simpa [noNewName] using h

namespace Overdue

variable {first : String} {event : RuntimeDirectoryEvent} {value : DirectoryEvent}
  {raw : List (Except Error RuntimeDirectoryEvent)} {items : List (Except Error DirectoryEvent)}

theorem half_iff (half : plainEvent event = none) :
    Overdue first (.ok event :: raw) items ↔ Overdue first raw items := by
  refine ⟨fun h => ?_, .half half⟩
  cases h with
  | named => exact .named raw
  | half _ later => exact later
  | plain plain _ => simp [half] at plain

theorem plain_iff (plain : plainEvent event = some value) :
    Overdue first (.ok event :: raw) (.ok value :: items) ↔ Overdue first raw items := by
  refine ⟨fun h => ?_, .plain plain⟩
  cases h with
  | half half _ => simp [half] at plain
  | plain _ later => exact later

theorem not_renamed {old new : String} : ¬ Overdue first raw (.ok (.renamed old new) :: items) := by
  intro h
  generalize items' : (.ok (.renamed old new) :: items : List (Except Error DirectoryEvent)) =
    all at h
  induction h with
  | named | broken => cases items'
  | half _ _ ih => exact ih items'
  | @plain event _ _ _ plain _ =>
    obtain ⟨kind, path⟩ := event
    cases items'
    cases kind <;> cases plain

theorem watch_iff (slot : String) :
    Overdue first raw (watch (some slot) raw) ↔ Surfaces first slot raw := by
  induction raw generalizing slot with
  | nil =>
    refine ⟨fun h => ?_, fun same => ?_⟩
    · rw [watch] at h
      generalize named : noNewName slot = error at h
      cases h
      exact noNewName_inj named
    · cases (same : slot = first)
      exact .named []
  | cons item raw ih =>
    rcases item with error | ⟨kind, path⟩
    · exact iff_of_true (.broken error raw) trivial
    cases kind with
    | renamedOld => exact (half_iff rfl).trans (ih path)
    | renamedNew => exact iff_of_false (fun h => not_renamed ((half_iff rfl).1 h)) id
    | _ => exact (plain_iff rfl).trans (ih slot)

end Overdue

theorem accounts_iff_paired (raw : List (Except Error RuntimeDirectoryEvent)) :
    Accounts raw (watch none raw) ↔ Paired raw := by
  fun_induction Paired raw with
  | case1 old new raw ih =>
    refine ⟨fun h => ih.1 ?_, fun h => .renamed old new (ih.2 h)⟩
    change Accounts _ (.ok (.renamed old new) :: watch none raw) at h
    cases h with
    | plain plain _ => cases plain
    | renamed _ _ later => exact later
    | oldAlone alone _ => exact absurd rfl (alone new raw)
  | case2 old raw unpaired =>
    have alone : ∀ new rest, raw ≠ .ok ⟨.renamedNew, new⟩ :: rest := by
      rintro new rest rfl
      exact unpaired new rest rfl
    refine ⟨fun h => (Overdue.watch_iff old).1 ?_, fun h =>
      .oldAlone alone ((Overdue.watch_iff old).2 h)⟩
    change Accounts _ (watch (some old) raw) at h
    generalize watch (some old) raw = items at h
    cases h with
    | plain plain _ => cases plain
    | renamed _ new _ => exact absurd rfl (alone new _)
    | oldAlone _ overdue => exact overdue
  | case3 => exact iff_of_true .done trivial
  | case4 error raw => exact iff_of_true (.broken error raw) trivial
  | case5 new raw => exact iff_of_true (.newAlone new raw) trivial
  | case6 event raw _ notOld notNew ih =>
    obtain ⟨value, plain⟩ : ∃ value, plainEvent event = some value := by
      obtain ⟨kind, path⟩ := event
      cases kind with
      | renamedOld => exact absurd rfl (notOld path)
      | renamedNew => exact absurd rfl (notNew path)
      | _ => exact ⟨_, rfl⟩
    rw [watch_plain plain]
    refine ⟨fun h => ih.1 ?_, fun h => .plain plain (ih.2 h)⟩
    generalize watch none raw = items at h
    cases h with
    | plain _ later => exact later
    | renamed | oldAlone => cases plain

theorem error_last {renameFrom : Option String} {raw : List (Except Error RuntimeDirectoryEvent)}
    {before after : List (Except Error DirectoryEvent)} {error : Error}
    (h : watch renameFrom raw = before ++ .error error :: after) : after = [] := by
  fun_induction watch renameFrom raw generalizing before with
  | case1 => simp at h
  | case2 | case3 | case6 =>
    cases before <;> simp_all
  | case4 _ _ _ _ _ _ ih =>
    cases before with
    | nil => cases h
    | cons _ before => exact ih (List.cons.inj h).2
  | case5 _ _ _ _ _ ih => exact ih h

end Domain
