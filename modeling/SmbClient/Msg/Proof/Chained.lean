import Mathlib.Data.List.Chain
import SmbClient.Msg.Response

/-!
# Chained lists read back (`smb-fscc/chained_list.rs`)

An entry is read back from where it was written if the distance fits its field. Whatever the bytes
are, entries are `offsetPad` bytes apart or more.
-/

namespace Msg.ChainedItemList

variable {T : Type} (offsetPad : ℕ)

/-- The distances fit their fields. -/
def Short (item : ℕ → T → Octets) : ℕ → List T → Prop
  | position, value :: next :: rest => distance offsetPad item position value < 2 ^ 32 ∧
      Short item (position + distance offsetPad item position value) (next :: rest)
  | _, _ => True

def produced (item : Octets → ℕ → Option T) (stream : Octets) (position : ℕ) : List (ℕ × T) :=
  if position % offsetPad ≠ 0 then []
  else if _hroom : position + 4 ≤ stream.length then
    let next := stream.field position 4
    match item stream (position + 4) with
    | none => []
    | some value => (position, value) ::
        if _hlast : next = 0 then [] else produced item stream (position + next)
  else []
termination_by stream.length - position
decreasing_by omega

/-- An element that is written behind an aligned entry's distance is read back from there. -/
def RoundTrips (writeItem : ℕ → T → Octets) (readItem : Octets → ℕ → Option (T × ℕ)) : Prop :=
  ∀ (before after : Octets) (position : ℕ) (value : T), position % offsetPad = 0 →
    before.length = position + 4 →
      readItem (before ++ (writeItem (position + 4) value ++ after)) (position + 4) =
        some (value, position + 4 + (writeItem (position + 4) value).length)

variable {offsetPad}

theorem add_paddingNeeded_mod (hpad : 0 < offsetPad) (position : ℕ) :
    (position + paddingNeeded offsetPad position) % offsetPad = 0 := by
  have hlt := Nat.mod_lt position hpad
  unfold paddingNeeded
  by_cases hzero : position % offsetPad = 0
  · simp [hzero]
  rw [Nat.mod_eq_of_lt (show offsetPad - position % offsetPad < offsetPad by omega)]
  have hsplit := Nat.div_add_mod position offsetPad
  have hsum : position + (offsetPad - position % offsetPad) =
      offsetPad * (position / offsetPad) + offsetPad := by omega
  rw [hsum, Nat.mul_add_mod, Nat.mod_self]

section
variable {writeItem : ℕ → T → Octets} {readItem : Octets → ℕ → Option (T × ℕ)}

/-- The reader at an entry that was written. -/
theorem readFrom_entry (hcodec : RoundTrips offsetPad writeItem readItem)
    {stream before rest : Octets} {next : ℕ} {value : T} (haligned : before.length % offsetPad = 0)
    (hstream : stream = before ++ (Octets.encode 4 next ++
      (writeItem (before.length + 4) value ++ rest))) :
    readFrom offsetPad readItem stream before.length =
      let read := (value, before.length + 4 + (writeItem (before.length + 4) value).length)
      if next % 2 ^ 32 = 0 then some [read]
      else (readFrom offsetPad readItem stream (before.length + next % 2 ^ 32)).map
        (read :: ·) := by
  have hitem := hcodec (before ++ Octets.encode 4 next) rest before.length value haligned (by simp)
  have hfield : stream.field before.length 4 = next % 2 ^ 32 := Octets.field_of_eq hstream rfl
  rw [List.append_assoc, ← hstream] at hitem
  have hroom : before.length + 4 ≤ stream.length := by simp [hstream]
  rw [readFrom, if_neg (by simp [haligned])]
  simp only [hfield, hitem]
  split <;> rfl

theorem readFrom_write (hpad : 0 < offsetPad) (hcodec : RoundTrips offsetPad writeItem readItem)
    (after : Octets) {values : List T} (hne : values ≠ []) {before : Octets}
    (haligned : before.length % offsetPad = 0)
    (hshort : Short offsetPad writeItem before.length values) :
    ∃ reads, readFrom offsetPad readItem
        (before ++ (write offsetPad writeItem before.length values ++ after)) before.length =
          some reads ∧ reads.map (·.1) = values ∧
      reads.getLast?.map (·.2) =
        some (before.length + (write offsetPad writeItem before.length values).length) := by
  induction values generalizing before with
  | nil => exact absurd rfl hne
  | cons value values ih =>
    obtain _ | ⟨next, rest⟩ := values
    · rw [readFrom_entry hcodec haligned (by rw [write, List.append_assoc])]
      exact ⟨_, rfl, rfl, by simp [write]; omega⟩
    · obtain ⟨hdistance, hshort⟩ := hshort
      let bytes := writeItem (before.length + 4) value
      let zeros := List.replicate (paddingNeeded offsetPad (before.length + (4 + bytes.length)))
        (0 : UInt8)
      let entry := Octets.encode 4 (distance offsetPad writeItem before.length value) ++
        (bytes ++ zeros)
      have hentry : (before ++ entry).length =
          before.length + distance offsetPad writeItem before.length value := by
        simp [entry, bytes, zeros, distance]
        omega
      have hnext : (before ++ entry).length % offsetPad = 0 := by
        rw [hentry, distance, ← Nat.add_assoc]
        exact add_paddingNeeded_mod hpad _
      obtain ⟨reads, hreads, hvalues, hlast⟩ := ih (by simp) hnext (hentry ▸ hshort)
      have hpos : distance offsetPad writeItem before.length value ≠ 0 := by
        rw [distance]
        omega
      have hwrite :
          before ++ (write offsetPad writeItem before.length (value :: next :: rest) ++ after) =
          before ++ entry ++ (write offsetPad writeItem (before ++ entry).length (next :: rest) ++
            after) := by
        rw [write, hentry]
        simp [entry, bytes, zeros]
      rw [readFrom_entry hcodec haligned (by rw [write, List.append_assoc, List.append_assoc]),
        Nat.mod_eq_of_lt hdistance, if_neg hpos, ← hentry, hwrite, hreads]
      refine ⟨_, rfl, by simp [hvalues], ?_⟩
      obtain ⟨last, hmem, hend⟩ := Option.map_eq_some_iff.1 hlast
      have hlength := congrArg List.length hwrite
      simp only [List.length_append] at hlength hend
      simp [List.getLast?_cons, hmem]
      omega

end

/-! ## Any bytes -/

section
variable {item : Octets → ℕ → Option T} {stream : Octets} {position : ℕ}

theorem readFrom_produced {values : List T}
    (h : readFrom offsetPad item stream position = some values) :
    values = (produced offsetPad item stream position).map (·.2) := by
  induction hn : stream.length - position using Nat.strong_induction_on generalizing position
    values with
  | _ n ih =>
    rw [readFrom] at h
    rw [produced]
    split at h
    · cases h
    next haligned =>
    rw [if_neg haligned]
    split at h
    next hroom =>
      rw [dif_pos hroom]
      cases hitem : item stream (position + 4) with
      | none => simp [hitem] at h
      | some value =>
        simp only [hitem] at h ⊢
        split at h
        next hlast =>
          obtain rfl := Option.some.inj h
          rw [dif_pos hlast]
          rfl
        next hlast =>
          obtain ⟨rest, hrest, rfl⟩ := Option.map_eq_some_iff.1 h
          rw [dif_neg hlast, List.map_cons, ih _ (by omega) hrest rfl]
    · cases h

theorem aligned_of_produced (h : produced offsetPad item stream position ≠ []) :
    position % offsetPad = 0 ∧ position + 4 ≤ stream.length := by
  rw [produced] at h
  split at h
  · exact absurd rfl h
  next haligned =>
    split at h
    next hroom => exact ⟨not_not.1 haligned, hroom⟩
    next => exact absurd rfl h

theorem produced_spec :
    (produced offsetPad item stream position).IsChain
        (fun a b => 0 < stream.field a.1 4 ∧ b.1 = a.1 + stream.field a.1 4) ∧
      (∀ entry ∈ (produced offsetPad item stream position).head?, entry.1 = position) ∧
      (produced offsetPad item stream position).length * offsetPad ≤
        stream.length - position + offsetPad := by
  fun_induction produced offsetPad item stream position with
  | case1 => simp
  | case2 => simp
  | case3 position haligned hroom next value hitem ih =>
    by_cases hlast : next = 0
    · simp [hlast]
    obtain ⟨hchain, hhead, hlength⟩ := ih hlast
    rw [dif_neg hlast]
    refine ⟨hchain.cons fun entry hentry => ?_, by simp, ?_⟩
    · exact ⟨Nat.pos_of_ne_zero hlast, hhead entry hentry⟩
    · rw [List.length_cons, Nat.succ_mul]
      by_cases hnil : produced offsetPad item stream (position + next) = []
      · simp [hnil]
      obtain ⟨hnext, hinside⟩ := aligned_of_produced hnil
      have hstep : offsetPad ≤ next := by
        refine Nat.le_of_dvd (Nat.pos_of_ne_zero hlast) ?_
        exact (Nat.dvd_add_right (Nat.dvd_of_mod_eq_zero (not_not.1 haligned))).1
          (Nat.dvd_of_mod_eq_zero hnext)
      omega
  | case4 => simp

end

/-- A list is read back if its distances fit their fields and nothing follows an empty one. Whatever
the bytes are, the reader visits no more entries than there is room for. -/
theorem list_read_back (hpad : 0 < offsetPad) :
    (∀ (writeItem : ℕ → T → Octets) (readItem : Octets → ℕ → Option (T × ℕ)),
      RoundTrips offsetPad writeItem readItem → ∀ (values : List T) (before after : Octets),
        before.length % offsetPad = 0 → Short offsetPad writeItem before.length values →
        (values = [] → after = []) →
        let written := write offsetPad writeItem before.length values
        let stream := before ++ (written ++ after)
        ∃ reads, read offsetPad readItem stream before.length stream.length = some reads ∧
          reads.map (·.1) = values ∧
          (reads.getLast?.map (·.2)).getD before.length = before.length + written.length) ∧
      ∀ (item : Octets → ℕ → Option T) (stream : Octets) (position : ℕ),
        let entries := produced offsetPad item stream position
        (∀ values, readFrom offsetPad item stream position = some values →
          values = entries.map (·.2)) ∧
        entries.length ≤ stream.length / offsetPad + 1 ∧
        entries.IsChain fun a b => 0 < stream.field a.1 4 ∧ b.1 = a.1 + stream.field a.1 4 := by
  constructor
  · intro writeItem readItem hcodec values before after haligned hshort hafter written stream
    by_cases hempty : values = []
    · obtain rfl := hafter hempty
      subst hempty
      exact ⟨[], by simp [read, stream, written, write], rfl, by simp [written, write]⟩
    · obtain ⟨reads, hreads, hvalues, hlast⟩ :=
        readFrom_write hpad hcodec after hempty haligned hshort
      have hne : before.length ≠ stream.length := by
        obtain ⟨value, values, rfl⟩ := List.exists_cons_of_ne_nil hempty
        cases values <;> simp [stream, written, write]
      exact ⟨reads, (if_neg hne).trans hreads, hvalues, by rw [hlast]; rfl⟩
  · intro item stream position entries
    obtain ⟨hchain, -, hlength⟩ : _ ∧ _ ∧ entries.length * offsetPad ≤ _ := produced_spec
    refine ⟨fun values => readFrom_produced, ?_, hchain⟩
    have hbound : entries.length - 1 ≤ stream.length / offsetPad := by
      rw [Nat.le_div_iff_mul_le hpad, Nat.sub_mul]
      omega
    omega

def writeZeros (size : ℕ) (_ : ℕ) (_ : Unit) : Octets := List.replicate size 0

def readZeros (size : ℕ) (stream : Octets) (position : ℕ) : Option (Unit × ℕ) :=
  (stream.slice? position size).map fun _ => ((), position + size)

theorem zeros_roundTrip (size : ℕ) : RoundTrips 4 (writeZeros size) (readZeros size) := by
  intro before after position _ _ hlength
  rw [readZeros, Octets.slice?_append hlength (by simp [writeZeros])]
  simp [writeZeros]

theorem two_zeros_read_back : RoundTrips 4 (writeZeros 1) (readZeros 1) ∧
    ∃ reads, read 4 (readZeros 1) (write 4 (writeZeros 1) 0 [(), ()]) 0 13 = some reads ∧
      reads.map (·.1) = [(), ()] ∧ (reads.getLast?.map (·.2)).getD 0 = 13 :=
  ⟨zeros_roundTrip 1, (list_read_back (by decide)).1 _ _ (zeros_roundTrip 1) [(), ()] [] []
    rfl ⟨by decide, trivial⟩ (by simp)⟩

/-- The first of two entries has 2 ^ 32 bytes and says that it is the last one. -/
theorem long_entry_ends : ∃ size, RoundTrips 4 (writeZeros size) (readZeros size) ∧
    read 4 (readZeros size) (write 4 (writeZeros size) 0 [(), ()]) 0
      (write 4 (writeZeros size) 0 [(), ()]).length = some [((), 4 + size)] := by
  obtain ⟨size, hsize⟩ : ∃ size, 4 + size = 2 ^ 32 := ⟨2 ^ 32 - 4, by decide⟩
  refine ⟨size, zeros_roundTrip size, ?_⟩
  have hdistance : distance 4 (writeZeros size) 0 () = 2 ^ 32 := by
    simp [distance, writeZeros, hsize, paddingNeeded]
  have hread : readFrom 4 (readZeros size) (write 4 (writeZeros size) 0 [(), ()])
      ([] : Octets).length = _ :=
    readFrom_entry (zeros_roundTrip size) rfl rfl
  rw [List.length_nil, hdistance] at hread
  rw [read, if_neg (by simp [write]; omega), hread]
  simp [writeZeros]

end Msg.ChainedItemList
