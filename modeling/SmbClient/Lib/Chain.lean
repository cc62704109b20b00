import SmbClient.Lib.Octets

/-!
# Chains of records in a byte string

A record says how far behind its own start the next one starts, and the last says 0. `Linked` parts
are the records of a chain, `Visits` are the positions that the distances lead to, and `ranges` is
where each part is.
-/

namespace Chain

variable (link : Octets → ℕ)
variable {parts : List Octets} {i : ℕ} {range : ByteRange}

inductive Linked (align : ℕ) : List Octets → Prop where
  | last {part : Octets} : link part = 0 → Linked align [part]
  | next {part : Octets} {rest : List Octets} : link (part ++ rest.flatten) = part.length →
      0 < part.length → part.length % align = 0 → Linked align rest → Linked align (part :: rest)

inductive Visits (bytes : Octets) : ℕ → List ℕ → Prop where
  | last {start : ℕ} : link (bytes.drop start) = 0 → Visits bytes start [start]
  | next {start : ℕ} {rest : List ℕ} : 0 < link (bytes.drop start) →
      Visits bytes (start + link (bytes.drop start)) rest → Visits bytes start (start :: rest)

def ranges : ℕ → List Octets → List ByteRange
  | _, [] => []
  | start, part :: rest => ⟨start, start + part.length⟩ :: ranges (start + part.length) rest

variable {link} {align : ℕ}

@[simp] theorem length_ranges (start : ℕ) (parts : List Octets) :
    (ranges start parts).length = parts.length := by
  induction parts generalizing start with
  | nil => rfl
  | cons part rest ih => rw [ranges, List.length_cons, List.length_cons, ih]

section

variable (h : Linked link align parts)
include h

theorem Linked.ne_nil : parts ≠ [] := by
  cases h <;> exact List.cons_ne_nil _ _

/-- A reader of the links comes to every part and to no other place. -/
theorem Linked.visits (before : Octets) : Visits link (before ++ parts.flatten) before.length
      ((ranges before.length parts).map ByteRange.start) := by
  induction h generalizing before with
  | @last part hzero =>
    refine .last ?_
    rw [List.drop_left, List.flatten_singleton]
    exact hzero
  | @next part rest hlink hpos _ _ ih =>
    have hdistance : link ((before ++ (part :: rest).flatten).drop before.length) =
        part.length := by
      rw [List.drop_left, List.flatten_cons]
      exact hlink
    have hrest := ih (before ++ part)
    rw [List.append_assoc, ← List.flatten_cons, List.length_append] at hrest
    refine .next (by rw [hdistance]; exact hpos) ?_
    rw [hdistance]
    exact hrest

theorem Linked.aligned {start : ℕ}
    (hstart : start % align = 0) : ∀ range ∈ ranges start parts, range.start % align = 0 := by
  induction h generalizing start with
  | last =>
    intro range hmem
    rw [ranges, ranges, List.mem_singleton] at hmem
    rw [hmem]
    exact hstart
  | next _ _ hlen _ ih =>
    intro range hmem
    rw [ranges, List.mem_cons] at hmem
    rcases hmem with rfl | hmem
    · exact hstart
    · refine ih ?_ range hmem
      rw [Nat.add_mod, hstart, hlen, Nat.add_zero, Nat.zero_mod]

/-- A part may be replaced by one of its length with the same link. -/
theorem Linked.set {part new : Octets}
    (hlocal : ∀ p ∈ parts, ∀ after other, link (p ++ after) = link (p ++ other))
    (hpart : parts[i]? = some part) (hlen : new.length = part.length)
    (hlink : ∀ after, link (new ++ after) = link (part ++ after)) :
    Linked link align (parts.set i new) := by
  induction h generalizing i with
  | @last first hzero =>
    cases i with
    | zero =>
      rw [List.getElem?_cons_zero, Option.some.injEq] at hpart
      subst hpart
      refine .last ?_
      rw [← List.append_nil new, hlink [], List.append_nil]
      exact hzero
    | succ i => simp at hpart
  | @next first rest hdistance hpos haligned hrest ih =>
    cases i with
    | zero =>
      rw [List.getElem?_cons_zero, Option.some.injEq] at hpart
      subst hpart
      refine .next ?_ ?_ ?_ hrest
      · rw [hlink, hlen]
        exact hdistance
      · rw [hlen]
        exact hpos
      · rw [hlen]
        exact haligned
    | succ i =>
      refine .next ?_ hpos haligned (ih (fun p hp => hlocal p (List.mem_cons_of_mem _ hp)) hpart)
      rw [← hdistance]
      exact hlocal first List.mem_cons_self _ _

end

/-! ## Ranges -/

theorem get_ranges (before : Octets) (h : (ranges before.length parts)[i]? = some range) :
    range.get (before ++ parts.flatten) = parts[i]? := by
  induction parts generalizing before i with
  | nil => simp [ranges] at h
  | cons part rest ih =>
    rw [ranges] at h
    cases i with
    | zero =>
      rw [List.getElem?_cons_zero, Option.some.injEq] at h
      subst h
      have hlen : before.length + part.length ≤ (before ++ (part :: rest).flatten).length := by
        simp
      rw [ByteRange.get, if_pos ⟨Nat.le_add_right _ _, hlen⟩, List.getElem?_cons_zero,
        List.flatten_cons, List.take_length_add_append, List.take_left, List.drop_left]
    | succ i =>
      rw [List.getElem?_cons_succ, ← List.length_append] at h
      rw [List.getElem?_cons_succ, List.flatten_cons, ← List.append_assoc]
      exact ih _ h

theorem ranges_getElem? {start : ℕ} (h : (ranges start parts)[i]? = some range) :
    range.start = start + (parts.take i).flatten.length ∧ ∃ part, parts[i]? = some part := by
  induction parts generalizing start i with
  | nil => simp [ranges] at h
  | cons part rest ih =>
    rw [ranges] at h
    cases i with
    | zero =>
      rw [List.getElem?_cons_zero, Option.some.injEq] at h
      subst h
      exact ⟨by simp, part, rfl⟩
    | succ i =>
      obtain ⟨hstart, hpart⟩ := ih h
      refine ⟨?_, hpart⟩
      rw [List.take_succ_cons, List.flatten_cons, List.length_append]
      omega

theorem splice_ranges (before : Octets) {new part : Octets} {offset : ℕ}
    (h : (ranges before.length parts)[i]? = some range)
    (hpart : parts[i]? = some part) (hroom : offset + new.length ≤ part.length) :
    (before ++ parts.flatten).splice (range.start + offset) new =
      before ++ (parts.set i (part.splice offset new)).flatten := by
  induction parts generalizing before i with
  | nil => simp at hpart
  | cons first rest ih =>
    rw [ranges] at h
    cases i with
    | zero =>
      rw [List.getElem?_cons_zero, Option.some.injEq] at h hpart
      subst h hpart
      rw [List.flatten_cons, Octets.splice_append_right, Octets.splice_append_left hroom,
        List.set_cons_zero, List.flatten_cons]
    | succ i =>
      rw [← List.length_append] at h
      rw [List.flatten_cons, ← List.append_assoc, ih _ h hpart, List.set_cons_succ,
        List.flatten_cons, List.append_assoc]

theorem ranges_congr {a b : List Octets} (h : a.map List.length = b.map List.length) (start : ℕ) :
    ranges start a = ranges start b := by
  induction a generalizing b start with
  | nil =>
    cases b with
    | nil => rfl
    | cons => simp at h
  | cons part rest ih =>
    cases b with
    | nil => simp at h
    | cons other others =>
      rw [List.map_cons, List.map_cons, List.cons.injEq] at h
      rw [ranges, ranges, h.1, ih h.2]

end Chain
