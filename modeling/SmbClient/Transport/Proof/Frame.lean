import SmbClient.Transport.Frame

/-!
# What is sent in a frame is what is received

`rest` is what a cursor has not sent yet; slices, `remaining` and `try_advance` are read off it.
-/

namespace Transport

open SmbTcpMessageHeader SendCursor

namespace SendCursor

variable {slots : ℕ}

/-! ## The rest of a cursor -/

def Within (pos : ℕ) : List Octets → Prop
  | [] => pos = 0
  | segment :: _ => pos ≤ segment.length

structure Valid (c : SendCursor) : Prop where
  header : c.headerPos ≤ c.header.length
  segment : Within c.segmentPos (c.frame.segments.drop c.segmentIndex)

def rest (c : SendCursor) : Octets :=
  c.header.drop c.headerPos ++ (c.frame.segments.drop c.segmentIndex).flatten.drop c.segmentPos

variable {c : SendCursor}

theorem drop_zipIdx {α : Type} (l : List α) (n k : ℕ) :
    (l.zipIdx k).drop n = (l.drop n).zipIdx (k + n) := by
  induction l generalizing n k with
  | nil => simp
  | cons a l ih =>
    cases n with
    | zero => rfl
    | succ n =>
      rw [List.zipIdx_cons, List.drop_succ_cons, List.drop_succ_cons, ih, Nat.add_assoc,
        Nat.add_comm 1 n]

theorem starts_eq (c : SendCursor) : c.starts = match c.frame.segments.drop c.segmentIndex with
    | [] => []
    | segment :: segments => (segment, c.segmentPos) :: segments.map (·, 0) := by
  unfold starts
  rw [drop_zipIdx]
  cases c.frame.segments.drop c.segmentIndex with
  | nil => rfl
  | cons segment segments =>
    have hothers : ∀ x ∈ segments.zipIdx (c.segmentIndex + 1),
        (x.1, if x.2 = c.segmentIndex then c.segmentPos else 0) = (x.1, 0) := by
      intro x hx
      have hindex := List.le_snd_of_mem_zipIdx hx
      rw [if_neg (by omega)]
    dsimp only
    rw [List.zipIdx_cons, List.map_cons, Nat.zero_add, List.map_congr_left hothers]
    simp only [if_true, List.cons.injEq, true_and]
    conv_rhs => rw [← List.zipIdx_map_fst (c.segmentIndex + 1) segments, List.map_map]
    rfl

theorem flatten_starts (h : c.Valid) :
    (c.starts.map fun start => start.1.drop start.2).flatten =
      (c.frame.segments.drop c.segmentIndex).flatten.drop c.segmentPos := by
  have hwithin := h.segment
  rw [starts_eq]
  cases hsegments : c.frame.segments.drop c.segmentIndex with
  | nil => simp
  | cons segment segments =>
    rw [hsegments] at hwithin
    have hpos : c.segmentPos ≤ segment.length := hwithin
    rw [List.map_cons, List.flatten_cons, List.flatten_cons, List.drop_append_of_le_length hpos]
    simp [Function.comp_def]

theorem flatten_tails (starts : List (Octets × ℕ)) :
    (starts.filterMap tail?).flatten = (starts.map fun start => start.1.drop start.2).flatten := by
  induction starts with
  | nil => rfl
  | cons start starts ih =>
    rw [List.map_cons, List.flatten_cons, ← ih]
    by_cases hstart : start.2 < start.1.length
    · rw [List.filterMap_cons_some
        (show tail? start = some (start.1.drop start.2) from if_pos hstart), List.flatten_cons]
    · rw [List.filterMap_cons_none (show tail? start = none from if_neg hstart),
        List.drop_eq_nil_of_le (Nat.le_of_not_lt hstart), List.nil_append]

theorem remaining_eq (h : c.Valid) : c.remaining = c.rest.length := by
  rw [remaining, rest, List.length_append, List.length_drop, ← flatten_starts h,
    List.length_flatten, List.map_map]
  congr 2
  exact List.map_congr_left fun start _ => (List.length_drop ..).symm

/-! ## Slices -/

def slices (c : SendCursor) : List Octets :=
  (if c.headerPos < c.header.length then [c.header.drop c.headerPos] else []) ++
    c.starts.filterMap tail?

theorem flatten_slices (h : c.Valid) : c.slices.flatten = c.rest := by
  rw [slices, List.flatten_append, flatten_tails, flatten_starts h, rest]
  split
  · simp
  rename_i hdone
  rw [List.drop_eq_nil_of_le (Nat.le_of_not_lt hdone)]
  rfl

theorem slices_ne_nil {slice : Octets} (h : slice ∈ c.slices) : slice ≠ [] := by
  rcases List.mem_append.mp h with h | h
  · split at h
    · rename_i hpos
      rw [List.mem_singleton.mp h, ne_eq, List.drop_eq_nil_iff]
      omega
    · cases h
  · obtain ⟨start, -, hstart⟩ := List.mem_filterMap.mp h
    unfold tail? at hstart
    split at hstart
    · rw [← Option.some.inj hstart, ne_eq, List.drop_eq_nil_iff]
      omega
    · cases hstart

theorem chunksVectored_prefix (h : c.Valid) (slots : ℕ) :
    (c.chunksVectored slots).flatten <+: c.rest := by
  rw [← flatten_slices h]
  conv_rhs => rw [← List.take_append_drop slots c.slices, List.flatten_append]
  exact List.prefix_append _ _

theorem chunksVectored_pos (h : c.Valid) (hslots : 0 < slots) (hrest : c.rest ≠ []) :
    0 < (c.chunksVectored slots).flatten.length := by
  rw [← flatten_slices h] at hrest
  change 0 < (c.slices.take slots).flatten.length
  cases hslices : c.slices with
  | nil => simp [hslices] at hrest
  | cons slice others =>
    have hslice : slice ≠ [] := slices_ne_nil (by rw [hslices]; exact List.mem_cons_self)
    obtain ⟨n, rfl⟩ : ∃ n, slots = n + 1 := ⟨slots - 1, by omega⟩
    rw [List.take_succ_cons, List.flatten_cons, List.length_append]
    have := List.length_pos_iff.mpr hslice
    omega

theorem chunk_eq (c : SendCursor) : c.chunk = c.slices.head?.getD [] := by
  unfold chunk slices
  split
  · rfl
  · rw [List.nil_append, List.head?_filterMap]

/-! ## Advancing -/

theorem advanceSegments_spec (segments : List Octets) (index pos count : ℕ)
    (hpos : Within pos segments) (hcount : pos + count ≤ segments.flatten.length) :
    ∃ done pos', advanceSegments segments index pos count = some (index + done, pos') ∧
      Within pos' (segments.drop done) ∧
      (segments.drop done).flatten.drop pos' = segments.flatten.drop (pos + count) := by
  induction segments generalizing index pos count with
  | nil =>
    obtain rfl : pos = 0 := hpos
    obtain rfl : count = 0 := by simpa using hcount
    exact ⟨0, 0, rfl, rfl, rfl⟩
  | cons segment segments ih =>
    have hwithin : pos ≤ segment.length := hpos
    cases count with
    | zero => exact ⟨0, pos, rfl, hwithin, rfl⟩
    | succ count =>
      rw [advanceSegments, if_neg (Nat.not_lt.mpr hwithin)]
      dsimp only
      split
      · rename_i hend
        rw [List.flatten_cons, List.length_append] at hcount
        obtain ⟨done, pos', hadvance, hpos', hrest⟩ := ih (index + 1) 0
          (count + 1 - min (count + 1) (segment.length - pos))
          (by cases segments <;> simp [Within]) (by omega)
        refine ⟨done + 1, pos', ?_, hpos', ?_⟩
        · rw [hadvance, Nat.add_assoc, Nat.add_comm 1 done]
        · have hused : segment.drop (pos + (count + 1)) = [] := List.drop_eq_nil_of_le (by omega)
          rw [List.drop_succ_cons, hrest, List.flatten_cons, List.drop_append, hused,
            List.nil_append]
          congr 1
          omega
      · rename_i hopen
        have hall : min (count + 1) (segment.length - pos) = count + 1 := by omega
        exact ⟨0, pos + min (count + 1) (segment.length - pos), rfl,
          show _ ≤ _ by omega, by rw [hall]; rfl⟩

/-- Advancing drops what was taken, and nothing else. -/
theorem tryAdvance_spec (h : c.Valid) {count : ℕ} (hcount : count ≤ c.rest.length) :
    ∃ c', c.tryAdvance count = some (.ok c') ∧ c'.Valid ∧ c'.rest = c.rest.drop count := by
  have hheader := h.header
  have hlength : c.rest.length = (c.header.length - c.headerPos) +
      ((c.frame.segments.drop c.segmentIndex).flatten.length - c.segmentPos) := by
    rw [rest, List.length_append, List.length_drop, List.length_drop]
  have hpos : c.segmentPos ≤ (c.frame.segments.drop c.segmentIndex).flatten.length := by
    have hwithin := h.segment
    cases hsegments : c.frame.segments.drop c.segmentIndex with
    | nil => rw [hsegments] at hwithin; exact Nat.le_of_eq hwithin
    | cons segment segments =>
      rw [hsegments] at hwithin
      rw [List.flatten_cons, List.length_append]
      exact Nat.le_add_right_of_le hwithin
  obtain ⟨done, pos', hadvance, hwithin, hrest⟩ := advanceSegments_spec
    (c.frame.segments.drop c.segmentIndex) c.segmentIndex c.segmentPos
    (count - min count (c.header.length - c.headerPos)) h.segment (by omega)
  rw [List.drop_drop] at hwithin hrest
  refine ⟨{ c with
    headerPos := c.headerPos + min count (c.header.length - c.headerPos)
    segmentIndex := c.segmentIndex + done
    segmentPos := pos' }, ?_, ⟨?_, hwithin⟩, ?_⟩
  · unfold tryAdvance
    rw [if_neg (by rw [remaining_eq h]; omega)]
    dsimp only
    rw [hadvance]
  · show c.headerPos + min count (c.header.length - c.headerPos) ≤ c.header.length
    omega
  · show c.header.drop (c.headerPos + min count (c.header.length - c.headerPos)) ++
      (c.frame.segments.drop (c.segmentIndex + done)).flatten.drop pos' = _
    rw [hrest, rest, List.drop_append, List.drop_drop, List.drop_drop, List.length_drop]
    by_cases hle : count ≤ c.header.length - c.headerPos
    · rw [Nat.min_eq_left hle, Nat.sub_self, Nat.sub_eq_zero_of_le hle]
    have hused : c.header.drop (c.headerPos + (c.header.length - c.headerPos)) = [] :=
      List.drop_eq_nil_of_le (by omega)
    have hover : c.header.drop (c.headerPos + count) = [] := List.drop_eq_nil_of_le (by omega)
    rw [Nat.min_eq_right (by omega), hused, hover]

/-! ## The loop -/

theorem sendLoop_zero (h : c.remaining = 0) (writes : List Write) :
    c.sendLoop slots writes = ([], .sent) := by
  cases writes with
  | nil => rw [sendLoop, if_pos h]
  | cons write writes => cases write <;> rw [sendLoop, if_pos h]

theorem sendLoop_takes (h : c.Valid) {limit : ℕ} (hrest : c.rest ≠ [])
    (hwritten : 0 < min limit (c.chunksVectored slots).flatten.length) (writes : List Write) :
    ∃ (c' : SendCursor) (written : ℕ), 0 < written ∧ written ≤ c.rest.length ∧ c'.Valid ∧
    c'.rest = c.rest.drop written ∧
      c.sendLoop slots (.takes limit :: writes) =
        (c.rest.take written ++ (c'.sendLoop slots writes).1, (c'.sendLoop slots writes).2) := by
  obtain ⟨more, hmore⟩ := c.chunksVectored_prefix h slots
  have hlength := congrArg List.length hmore
  rw [List.length_append] at hlength
  have hle : min limit (c.chunksVectored slots).flatten.length ≤ c.rest.length := by omega
  obtain ⟨c', hadvance, hvalid, hafter⟩ := tryAdvance_spec h hle
  refine ⟨c', _, hwritten, hle, hvalid, hafter, ?_⟩
  have hremaining : c.remaining ≠ 0 := by
    rw [remaining_eq h]
    exact Nat.ne_of_gt (List.length_pos_iff.mpr hrest)
  rw [sendLoop, if_neg hremaining]
  rw [if_neg (Nat.ne_of_gt hwritten), hadvance]
  dsimp only
  congr 2
  conv_rhs => rw [← hmore]
  exact (List.take_append_of_le_length (Nat.min_le_right _ _)).symm

/-- **The loop never panics**, and is done only when all is taken. -/
theorem sendLoop_sent (h : c.Valid) (slots : ℕ) (writes : List Write) :
    (c.sendLoop slots writes).2 ≠ .panicked ∧
      ((c.sendLoop slots writes).2 = .sent → (c.sendLoop slots writes).1 = c.rest) := by
  induction writes generalizing c with
  | nil =>
    rw [sendLoop]
    constructor
    · split <;> simp
    · split
      · rename_i hzero
        rw [remaining_eq h] at hzero
        exact fun _ => (List.eq_nil_of_length_eq_zero hzero).symm
      · intro hwaiting
        cases hwaiting
  | cons write writes ih =>
    by_cases hrest : c.rest = []
    · rw [sendLoop_zero (by rw [remaining_eq h, hrest]; rfl), hrest]
      simp
    have hremaining : c.remaining ≠ 0 := by
      rw [remaining_eq h]
      exact Nat.ne_of_gt (List.length_pos_iff.mpr hrest)
    cases write with
    | fails =>
      rw [sendLoop, if_neg hremaining]
      simp
    | takes limit =>
      by_cases hwritten : min limit (c.chunksVectored slots).flatten.length = 0
      · rw [sendLoop, if_neg hremaining]
        dsimp only
        rw [if_pos hwritten]
        simp
      · obtain ⟨c', written, -, -, hvalid, hafter, hstep⟩ :=
          sendLoop_takes h hrest (Nat.pos_of_ne_zero hwritten) writes
        obtain ⟨hfine, hall⟩ := ih hvalid
        rw [hstep]
        refine ⟨hfine, fun hsent => ?_⟩
        rw [hall hsent, hafter, List.take_append_drop]

theorem sendLoop_completes (h : c.Valid) (hslots : 0 < slots) (writes : List Write)
    (hwrites : ∀ write ∈ writes, ∃ limit, 0 < limit ∧ write = .takes limit)
    (henough : c.rest.length ≤ writes.length) : (c.sendLoop slots writes).2 = .sent := by
  induction writes generalizing c with
  | nil =>
    rw [sendLoop_zero]
    rw [remaining_eq h]
    exact Nat.le_zero.mp henough
  | cons write writes ih =>
    by_cases hrest : c.rest = []
    · rw [sendLoop_zero]
      rw [remaining_eq h, hrest]
      rfl
    obtain ⟨limit, hlimit, rfl⟩ := hwrites write List.mem_cons_self
    have hgiven := chunksVectored_pos h hslots hrest
    obtain ⟨c', written, hpos, hle, hvalid, hafter, hstep⟩ :=
      sendLoop_takes h hrest (Nat.lt_min.mpr ⟨hlimit, hgiven⟩) writes
    rw [hstep]
    refine ih hvalid (fun w hw => hwrites w (List.mem_cons_of_mem _ hw)) ?_
    rw [hafter, List.length_drop]
    rw [List.length_cons] at henough
    omega

end SendCursor

/-! ## Building frames and cursors -/

theorem SendFrame.fromSegments_ok {segments : List Octets} {maximumSegments : ℕ} {frame : SendFrame}
    (h : SendFrame.fromSegments segments maximumSegments = .ok frame) :
    frame.segments = segments := by
  unfold fromSegments at h
  split at h
  · cases h
  split at h
  · cases h
  split at h
  · cases h
  split at h
  · cases h
  split at h
  · cases h
  · obtain rfl := Except.ok.inj h
    rfl

theorem SendFrame.length_flatten (frame : SendFrame) :
    frame.segments.flatten.length = frame.totalLen := by
  rw [List.length_flatten, frame.total]

theorem SendCursor.new_spec (frame : SendFrame) : ∃ cursor, new frame = .ok cursor ∧
    cursor.Valid ∧
    cursor.rest = write frame.totalLen ++ frame.segments.flatten := by
  refine ⟨_, if_neg (Nat.not_lt.mpr frame.bounded), ⟨Nat.zero_le _, ?_⟩, rfl⟩
  show Within 0 frame.segments
  cases frame.segments with
  | nil => rfl
  | cons segment segments => exact Nat.zero_le _

/-- Whatever the socket takes at a time, `send` does not panic and succeeds only with the whole
frame. -/
theorem send_sent (connected : Bool) (data : SendFrame) (writes : List Write) :
    (send connected data writes).2 ≠ .panicked ∧ ((send connected data writes).2 = .sent →
      (send connected data writes).1 = write data.totalLen ++ data.segments.flatten) := by
  obtain ⟨cursor, hnew, hvalid, hrest⟩ := new_spec data
  unfold send
  rw [hnew]
  split
  · exact ⟨nofun, nofun⟩
  dsimp only
  split
  · rw [← hrest]
    exact sendLoop_sent hvalid 64 writes
  · exact ⟨nofun, nofun⟩

namespace SendCursor

variable {c : SendCursor}

/-! ## A cursor that is advanced again and again -/

/-- The cursor after a call of `try_advance`, which changes nothing when it fails. -/
def advanced (c : SendCursor) (count : ℕ) : SendCursor :=
  match c.tryAdvance count with
  | some (.ok next) => next
  | _ => c

theorem tryAdvance_over (h : c.Valid) {count : ℕ} (beyond : c.rest.length < count) :
    c.tryAdvance count = some (.error (.cursorAdvanceOutOfBounds count c.rest.length)) := by
  unfold tryAdvance
  rw [remaining_eq h, if_pos beyond]

theorem advanced_spec (h : c.Valid) (count : ℕ) : (c.advanced count).Valid ∧
    (c.advanced count).rest = if count ≤ c.rest.length then c.rest.drop count else c.rest := by
  unfold advanced
  split_ifs with fits
  · obtain ⟨next, advance, valid, rest⟩ := tryAdvance_spec h fits
    rw [advance]
    exact ⟨valid, rest⟩
  · rw [tryAdvance_over h (Nat.lt_of_not_le fits)]
    exact ⟨h, rfl⟩

theorem foldl_advanced (h : c.Valid) (amounts : List ℕ) : (amounts.foldl advanced c).Valid ∧
    (amounts.foldl advanced c).rest = amounts.foldl (fun bytes count =>
      if count ≤ bytes.length then bytes.drop count else bytes) c.rest := by
  induction amounts generalizing c with
  | nil => exact ⟨h, rfl⟩
  | cons count amounts ih =>
    obtain ⟨valid, rest⟩ := advanced_spec h count
    rw [List.foldl_cons, List.foldl_cons, ← rest]
    exact ih valid

theorem chunk_prefix (h : c.Valid) : c.chunk <+: c.rest ∧ (c.rest ≠ [] → c.chunk ≠ []) := by
  rw [chunk_eq, ← flatten_slices h]
  cases slices : c.slices with
  | nil => simp
  | cons slice others =>
    exact ⟨List.prefix_append _ _, fun _ =>
      slices_ne_nil (by rw [slices]; exact List.mem_cons_self)⟩

/-- Whatever the amounts, the cursor describes what they leave of the header and the segments. -/
theorem cursor_describes_rest (frame : SendFrame) (amounts : List ℕ) :
    ∃ start, new frame = .ok start ∧
    let c := amounts.foldl advanced start
    let left := amounts.foldl
      (fun bytes count => if count ≤ bytes.length then bytes.drop count else bytes)
      (write frame.totalLen ++ frame.segments.flatten)
    c.remaining = left.length ∧ c.chunk <+: left ∧ (left ≠ [] → c.chunk ≠ []) ∧
    (∀ slots, (c.chunksVectored slots).length ≤ slots ∧ (c.chunksVectored slots).flatten <+: left ∧
      ((c.chunksVectored slots).length < slots → (c.chunksVectored slots).flatten = left)) ∧
    ∀ count, (count ≤ left.length → ∃ next, c.tryAdvance count = some (.ok next)) ∧
      (left.length < count →
        c.tryAdvance count = some (.error (.cursorAdvanceOutOfBounds count left.length)) ∧
        c.advanced count = c) := by
  obtain ⟨start, placed, valid, rest⟩ := new_spec frame
  refine ⟨start, placed, ?_⟩
  obtain ⟨valid, left⟩ := foldl_advanced valid amounts
  rw [rest] at left
  rw [← left]
  generalize amounts.foldl advanced start = c at valid
  obtain ⟨first, full⟩ := chunk_prefix valid
  refine ⟨remaining_eq valid, first, full, fun slots => ?_, fun count =>
    ⟨fun fits => ?_, fun beyond => ?_⟩⟩
  · refine ⟨List.length_take_le _ _, chunksVectored_prefix valid slots, fun short => ?_⟩
    change (c.slices.take slots).length < slots at short
    change (c.slices.take slots).flatten = c.rest
    rw [List.length_take] at short
    rw [List.take_of_length_le (by omega), flatten_slices valid]
  · obtain ⟨next, advance, -⟩ := tryAdvance_spec valid fits
    exact ⟨next, advance⟩
  · have refused := tryAdvance_over valid beyond
    exact ⟨refused, by rw [advanced, refused]⟩

end SendCursor

/-! ## Receiving -/

theorem writeU24_eq (n : ℕ) : writeU24 n = (Octets.encode 3 n).reverse := rfl

theorem readU24_writeU24 (n : ℕ) : readU24 (writeU24 n) = n % 2 ^ 24 := by
  have hlength : (writeU24 n).length = 3 := rfl
  rw [readU24, List.take_of_length_le hlength.le, writeU24_eq, List.reverse_reverse,
    Octets.decode_encode_mod, show 256 ^ 3 = 2 ^ 24 from rfl]

theorem header_read_write (n : ℕ) : read (write n) = .ok (n % 2 ^ 24) := by
  rw [← readU24_writeU24]
  rfl

theorem receiveWithLimit_write {n maximum : ℕ} {stream : Octets} (hlimit : n % 2 ^ 24 ≤ maximum)
    (hlong : n % 2 ^ 24 ≤ stream.length) :
    receiveWithLimit maximum (write n ++ stream) =
      .ok (stream.take (n % 2 ^ 24), stream.drop (n % 2 ^ 24)) := by
  have hheader : receiveExact (write n ++ stream) size = .ok (write n, stream) := rfl
  have hdata : receiveExact stream (n % 2 ^ 24) =
      .ok (stream.take (n % 2 ^ 24), stream.drop (n % 2 ^ 24)) := if_neg (Nat.not_lt.mpr hlong)
  have hframe : TransportFrame.fromBytes (stream.take (n % 2 ^ 24)) maximum =
      .ok (stream.take (n % 2 ^ 24)) := by
    refine if_neg (Nat.not_lt.mpr ?_)
    rw [List.length_take]
    omega
  unfold receiveWithLimit
  simp only [hheader, header_read_write, Nat.not_lt.mpr hlimit, hdata, hframe, if_false, bind,
    Except.bind, pure, Except.pure]

/-- However the socket takes the bytes, a frame is received as its payload exactly when its length
fits the 24 bits of the header. -/
theorem frame_received_iff (segments : List Octets) (maximumSegments : ℕ) (frame : SendFrame)
    (cursor : SendCursor) (framed : SendFrame.fromSegments segments maximumSegments = .ok frame)
    (placed : new frame = .ok cursor) (slots : ℕ) (hslots : 0 < slots) :
    (∀ writes : List Write, (∀ write ∈ writes, ∃ limit, 0 < limit ∧ write = .takes limit) →
      size + segments.flatten.length ≤ writes.length →
      (cursor.sendLoop slots writes).2 = .sent) ∧
    ∀ (writes : List Write) (following : Octets) (maximum : ℕ),
      (cursor.sendLoop slots writes).2 = .sent → segments.flatten.length ≤ maximum →
      (receiveWithLimit maximum ((cursor.sendLoop slots writes).1 ++ following) =
          .ok (segments.flatten, following) ↔
        segments.flatten.length < 2 ^ 24) := by
  obtain rfl := SendFrame.fromSegments_ok framed
  obtain ⟨_, hnew, hvalid, hrest⟩ := new_spec frame
  obtain rfl := Except.ok.inj (placed.symm.trans hnew)
  have hlength := frame.length_flatten
  constructor
  · intro writes hwrites henough
    refine sendLoop_completes hvalid hslots writes hwrites ?_
    rw [hrest, List.length_append]
    exact henough
  · intro writes following maximum sent limit
    rw [(sendLoop_sent hvalid slots writes).2 sent, hrest, List.append_assoc, ← hlength]
    have hmod := Nat.mod_le frame.segments.flatten.length (2 ^ 24)
    rw [receiveWithLimit_write (hmod.trans limit) (by rw [List.length_append]; omega)]
    constructor
    · intro h
      have hpayload := congrArg List.length (Prod.mk.inj (Except.ok.inj h)).1
      rw [List.length_take, Nat.min_eq_left (by omega)] at hpayload
      rw [← hpayload]
      exact Nat.mod_lt _ (by decide)
    · intro h
      rw [Nat.mod_eq_of_lt h, List.take_left, List.drop_left]

def smallFrame : SendFrame := ⟨[[1, 2], [3]], 3, rfl, by decide, by decide⟩

def smallCursor : SendCursor := ⟨[0, 0, 0, 3], 0, smallFrame, 0, 0⟩

theorem smallFrame_received :
    receiveWithLimit 16 ((smallCursor.sendLoop 64 [.takes 5, .takes 5]).1 ++ [9]) =
      .ok ([1, 2, 3], [9]) :=
  ((frame_received_iff [[1, 2], [3]] 2 smallFrame smallCursor rfl rfl 64 (by decide)).2
    [.takes 5, .takes 5] [9] 16 (by decide) (by decide)).mpr (by decide)

theorem SendFrame.fromSegments_singleton (payload : Octets) (hpos : 0 < payload.length)
    (hmax : payload.length ≤ Machine.maxValue 32) :
    ∃ frame, SendFrame.fromSegments [payload] 1 = .ok frame := by
  have hwide : Machine.maxValue 32 < 2 ^ 64 := by decide
  have hsum : Machine.checkedAdd 64 0 payload.length = some payload.length :=
    Machine.checkedAdd_eq_some.mpr ⟨by omega, (Nat.zero_add _).symm⟩
  have htotal : totalLength [payload] = some payload.length := by
    rw [totalLength, List.foldlM_cons, hsum]
    rfl
  unfold fromSegments
  rw [if_neg (by simp), if_neg (by simp)]
  split
  · rename_i h
    rw [htotal] at h
    cases h
  · rename_i totalLen h
    rw [htotal] at h
    obtain rfl := Option.some.inj h
    rw [dif_neg (Nat.ne_of_gt hpos), dif_neg (Nat.not_lt.mpr hmax)]
    exact ⟨_, rfl⟩

/-- A payload of 2 ^ 24 bytes is sent, but its header announces no bytes at all. -/
theorem long_frame_misread : ∃ (payload : Octets) (frame : SendFrame) (cursor : SendCursor),
    payload.length = 2 ^ 24 ∧ SendFrame.fromSegments [payload] 1 = .ok frame ∧
    new frame = .ok cursor ∧
    ∀ writes following, (cursor.sendLoop 64 writes).2 = .sent →
      receiveWithLimit (2 ^ 24) ((cursor.sendLoop 64 writes).1 ++ following) =
        .ok ([], payload ++ following) := by
  obtain ⟨payload, hpayload⟩ : ∃ payload : Octets, payload.length = 2 ^ 24 :=
    ⟨List.replicate (2 ^ 24) 0, List.length_replicate⟩
  have hmax : 2 ^ 24 ≤ Machine.maxValue 32 := by decide
  obtain ⟨frame, hframe⟩ := SendFrame.fromSegments_singleton payload (by omega) (by omega)
  obtain ⟨cursor, hcursor, hvalid, hrest⟩ := new_spec frame
  refine ⟨payload, frame, cursor, hpayload, hframe, hcursor, fun writes following hsent => ?_⟩
  have hsegments : frame.segments.flatten = payload := by
    rw [SendFrame.fromSegments_ok hframe, List.flatten_singleton]
  have hzero : frame.totalLen % 2 ^ 24 = 0 := by
    rw [← frame.length_flatten, hsegments, hpayload, Nat.mod_self]
  rw [(sendLoop_sent hvalid 64 writes).2 hsent, hrest, hsegments, List.append_assoc,
    receiveWithLimit_write (by omega) (by omega), hzero]
  rfl

end Transport
