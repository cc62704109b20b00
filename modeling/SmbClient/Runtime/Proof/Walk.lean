import SmbClient.Msg.Proof.WireOut
import SmbClient.Msg.Underflow
import SmbClient.Session.Proof.Opened

/-!
# The chain a frame is walked along

On the records of a chain the walk takes them one after the other (`walk_linked`), on any bytes each
message takes some (`Walked.consumes`); it panics exactly where the reader of a response does.
-/

namespace Wire

open Msg Session Response

namespace WirePipeline

variable {env : Env} {w w' : WirePipeline} {form : MessageForm} {current : PlainResponse}
  {remaining : Octets}

/-! ## The distance in a header -/

theorem nextCommand_of_read {raw : Octets} {header : Header} (h : Header.read raw = some header) :
    header.nextCommand = nextCommandOf raw := by
  have hlen := Header.length_of_read h
  have hfield : Octets.field (raw.take Header.structSize) 20 4 = raw.field 20 4 := by
    conv_rhs => rw [← List.take_append_drop Header.structSize raw]
    refine (Octets.field_append_left ?_).symm
    rw [List.length_take, Nat.min_eq_left hlen]
    decide
  unfold Header.read at h
  rw [if_neg (Nat.not_lt.mpr hlen)] at h
  unfold Header.parse at h
  split at h
  · cases h
  split at h
  · cases h
  split at h
  · cases h
  · cases h
    exact hfield

theorem nextCommand_of_plain (h : read env remaining = some (.plain current)) :
    current.header.nextCommand = nextCommandOf remaining :=
  nextCommand_of_read (read_plain h)

theorem memberSlice_pos (hread : read env remaining = some (.plain current))
    (hfits : current.header.nextCommand ≤ remaining.length) :
    0 < (memberSlice current.header remaining).length := by
  have hlen := Header.length_of_read (read_plain hread)
  unfold memberSlice
  split
  · rw [List.length_take]
    omega
  · exact Nat.lt_of_lt_of_le (by decide) hlen

/-! ## Chains of responses -/

inductive Reads (env : Env) : List Octets → List PlainResponse → Prop where
  | nil : Reads env [] []
  | cons {part : Octets} {rest : List Octets} {message : PlainResponse}
      {messages : List PlainResponse} :
      read env (part ++ rest.flatten) = some (.plain message) →
      Reads env rest messages → Reads env (part :: rest) (message :: messages)

def admitAll (env : Env) (w : WirePipeline) (form : MessageForm) :
    List (PlainResponse × Octets) → WirePipeline × Except Error (List CommandResponse)
  | [] => (w, .ok [])
  | (message, slice) :: rest =>
    match w.admitMember env form message slice with
    | (w, .error error) => (w, .error error)
    | (w, .ok response) =>
      let (w, result) := admitAll env w form rest
      (w, result.map (response :: ·))

/-- **A linked chain is walked member by member.** -/
theorem walk_linked {parts : List Octets} {messages : List PlainResponse}
    (hlinked : Chain.Linked nextCommandOf 8 parts)
    (hreads : Reads env parts (current :: messages)) (form : MessageForm) (w : WirePipeline) :
    w.walk env form current parts.flatten =
      w.admitAll env form ((current :: messages).zip parts) := by
  induction hlinked generalizing current messages w with
  | @last part hzero =>
    cases hreads with
    | cons hread hrest =>
      cases hrest
      have hnext := nextCommand_of_plain hread
      rw [List.flatten_nil, List.append_nil, hzero] at hnext
      have hslice : memberSlice current.header part = part := by
        rw [memberSlice, hnext, if_neg (Nat.lt_irrefl 0)]
      rw [List.flatten_singleton, walk, hnext, hslice, if_neg (Nat.not_lt_zero _),
        List.zip_cons_cons, List.zip_nil_left, admitAll]
      rcases w.admitMember env form current part with ⟨w₁, error | response⟩ <;> rfl
  | @next part rest hlink hpos _ hrest ih =>
    cases hreads with
    | cons hread hreads =>
      have hnext := nextCommand_of_plain hread
      rw [hlink] at hnext
      have hslice : memberSlice current.header (part ++ rest.flatten) = part := by
        rw [memberSlice, hnext, if_pos hpos, List.take_left]
      cases hreads with
      | nil => exact absurd rfl hrest.ne_nil
      | @cons second later message messages hread' hreads =>
        have hwalk := fun w => ih (.cons hread' hreads) w
        rw [List.flatten_cons, walk, hnext, hslice, if_neg (by simp), List.zip_cons_cons, admitAll]
        rcases w.admitMember env form current part with ⟨w₁, error | response⟩
        · rfl
        dsimp only
        rw [if_neg (Nat.ne_of_gt hpos), List.drop_left, List.flatten_cons, hread']
        dsimp only
        rw [← List.flatten_cons, hwalk]
        rcases w₁.admitAll env form ((message :: messages).zip (second :: later))
          with ⟨w₂, error | responses⟩ <;> rfl

/-! ## What the walk takes -/

/-- The responses cut the bytes up, and none is empty. -/
theorem Walked.consumes {responses : List CommandResponse}
    (h : Walked env form w current remaining w' responses)
    (hread : read env remaining = some (.plain current)) :
    (responses.map CommandResponse.raw).flatten = remaining ∧
      ∀ response ∈ responses, 0 < response.raw.length := by
  induction h with
  | @last _ _ current remaining _ last member =>
    have hslice : memberSlice current.header remaining = remaining := by
      rw [memberSlice, last, if_neg (Nat.lt_irrefl 0)]
    have hpos := memberSlice_pos hread (last ▸ Nat.zero_le _)
    have hraw := (admitMember_ok member).2.2.1
    rw [hslice] at hraw hpos
    simp [hraw, hpos]
  | @next _ _ _ current _ remaining _ _ more fits member read _ ih =>
    have hslice : memberSlice current.header remaining =
        remaining.take current.header.nextCommand := if_pos (Nat.pos_of_ne_zero more)
    have hraw := (admitMember_ok member).2.2.1
    obtain ⟨hshare, hall⟩ := ih read
    refine ⟨?_, List.forall_mem_cons.mpr ⟨hraw ▸ memberSlice_pos hread fits, hall⟩⟩
    rw [List.map_cons, List.flatten_cons, hshare, hraw, hslice, List.take_append_drop]

/-! ## Panics -/

def Behind (member : PlainResponse × Octets) (rest : Octets) : Prop :=
  0 < member.1.header.nextCommand ∧ member.1.header.nextCommand ≤ member.2.length ∧
    rest = member.2.drop member.1.header.nextCommand

def Onward (env : Env) (member next : PlainResponse × Octets) : Prop :=
  Behind member next.2 ∧ read env next.2 = some (.plain next.1)

def Before (P : Octets → Prop) (member : PlainResponse × Octets) : Prop :=
  ∃ rest, Behind member rest ∧ P rest

theorem Before.mono {P Q : Octets → Prop} (himp : ∀ rest, P rest → Q rest)
    (member : PlainResponse × Octets) (h : Before P member) : Before Q member := by
  obtain ⟨rest, hbehind, hrest⟩ := h
  exact ⟨rest, hbehind, himp rest hrest⟩

variable {panics : Octets → Bool}

/-- Where the reader does not panic the two walks agree. -/
theorem walk_of_walkChecked {result : WirePipeline × Except Error (List CommandResponse)}
    (h : walkChecked env panics w form current remaining = some result) :
    w.walk env form current remaining = result := by
  induction hlen : remaining.length using Nat.strong_induction_on generalizing w current
    remaining result with
  | h n ih =>
    rw [walkChecked] at h
    rw [walk]
    dsimp only at h ⊢
    split at h
    · rw [if_pos (by assumption)]
      exact Option.some.inj h
    rename_i hfits
    rw [if_neg hfits]
    split at h
    · exact Option.some.inj h
    split at h
    · rw [if_pos (by assumption)]
      exact Option.some.inj h
    rename_i hnext
    rw [if_neg hnext]
    split at h
    · cases h
    split at h
    · exact Option.some.inj h
    · obtain ⟨rest, hrest, rfl⟩ := Option.map_eq_some_iff.mp h
      rw [ih _ (by rw [List.length_drop]; omega) hrest rfl]
      obtain ⟨w', result⟩ := rest
      cases result <;> rfl
    · exact Option.some.inj h

theorem walkChecked_leads (h : walkChecked env panics w form current remaining = none) :
    Leads (Onward env) (Before fun rest => panics rest = true) (current, remaining) := by
  induction hn : remaining.length using Nat.strong_induction_on
    generalizing w current remaining with
  | _ n ih =>
    rw [walkChecked] at h
    split at h
    · cases h
    rename_i hfits
    split at h
    · cases h
    split at h
    · cases h
    rename_i hmore
    have hbehind : Behind (current, remaining) (remaining.drop current.header.nextCommand) :=
      ⟨Nat.pos_of_ne_zero hmore, Nat.not_lt.mp hfits, rfl⟩
    split at h
    · rename_i hpanics
      exact .here ⟨_, hbehind, hpanics⟩
    split at h
    · cases h
    · rename_i next hnext
      have hshorter : (remaining.drop current.header.nextCommand).length < n := by
        rw [List.length_drop]
        omega
      exact leads_iff.mpr (.inr ⟨(next, _), ⟨hbehind, hnext⟩,
        ih _ hshorter (Option.map_eq_none_iff.mp h) rfl⟩)
    · cases h

theorem walkChecked_none (hw : w.Unfinished) (hform : form.encrypted = true)
    (member : PlainResponse × Octets)
    (h : Leads (Onward env) (Before fun rest => panics rest = true) member) :
    walkChecked env panics w form member.1 member.2 = none := by
  have hadmit : ∀ {w : WirePipeline} (member : PlainResponse × Octets), w.Unfinished →
      ∃ w₁ response, w₁.Unfinished ∧ w.admitMember env form member.1
        (memberSlice member.1.header member.2) = (w₁, .ok response) := by
    intro w member hw
    obtain ⟨w₁, response, hmember⟩ := admitMember_encrypted hw hform env member.1
      (memberSlice member.1.header member.2)
    have hw₁ := (unfinished_sturdy env).admitMember hw form member.1
      (memberSlice member.1.header member.2)
    rw [hmember] at hw₁
    exact ⟨w₁, response, hw₁, hmember⟩
  induction h generalizing w with
  | @here member hpanics =>
    obtain ⟨rest, ⟨hpos, hfits, rfl⟩, hpanics⟩ := hpanics
    obtain ⟨w₁, response, -, hmember⟩ := hadmit member hw
    rw [walkChecked, if_neg (Nat.not_lt.mpr hfits), hmember]
    dsimp only
    rw [if_neg (Nat.ne_of_gt hpos), if_pos hpanics]
  | @next member next honward hleads ih =>
    obtain ⟨⟨hpos, hfits, hrest⟩, hread⟩ := honward
    obtain ⟨w₁, response, hw₁, hmember⟩ := hadmit member hw
    rw [walkChecked, if_neg (Nat.not_lt.mpr hfits), hmember]
    dsimp only
    rw [if_neg (Nat.ne_of_gt hpos), ← hrest, hread]
    dsimp only
    rw [ih hw₁]
    split <;> rfl

theorem unfinished_default : WirePipeline.default.Unfinished := by
  intro hash h
  cases h

theorem walkChecked_isSome_iff {checks : Bool} {readers : ContextReaders} :
    (∀ w form, (walkChecked env (Response.panics checks readers) w form current remaining).isSome) ↔
      checks = false ∨
        ¬ Leads (Onward env) (Before (Response.Underflows readers)) (current, remaining) := by
  constructor
  · intro h
    cases checks with
    | false => exact .inl rfl
    | true =>
      refine .inr fun hleads => ?_
      have hnone := walkChecked_none unfinished_default
        (rfl : ({ MessageForm.default with encrypted := true } : MessageForm).encrypted = true) _
        (hleads.mono (Before.mono fun rest hrest => panics_iff.mpr ⟨rfl, hrest⟩))
      have hsome := h .default { MessageForm.default with encrypted := true }
      rw [hnone] at hsome
      cases hsome
  · intro h w form
    rw [Option.isSome_iff_ne_none]
    intro hnone
    have hleads := walkChecked_leads hnone
    obtain ⟨_, _, -, hpanics⟩ := hleads.exists
    have hchecks := (panics_iff.mp hpanics).1
    rcases h with hoff | hcalm
    · rw [hoff] at hchecks
      cases hchecks
    · exact hcalm (hleads.mono (Before.mono fun rest hrest => (panics_iff.mp hrest).2))

/-! ## Both sides of a chain -/

/-- **Chains.** Encoded requests are a chain, a chain of responses is walked member by member, and
the walk panics on no pipeline exactly when no bytes it reaches underflow. -/
theorem compound_chain (env : Env) (readers : ContextReaders) (checks : Bool) :
    (∀ requests segmentLimit,
      (∃ message, WireBuilder.build requests segmentLimit none = .ok message) ↔
        WireBuilder.Encodable requests segmentLimit) ∧
    (∀ requests segmentLimit signatures message,
      WireBuilder.build requests segmentLimit signatures = .ok message →
      ∃ parts, parts.length = requests.length ∧ message.metadata = parts.flatten ∧
        (∀ i, message.memberRange i = (Chain.ranges 0 parts)[i]?) ∧
        Chain.Linked nextCommandOf 8 parts ∧
        Chain.Visits nextCommandOf message.metadata 0
          ((Chain.ranges 0 parts).map ByteRange.start) ∧
        ∀ range ∈ Chain.ranges 0 parts, range.start % 8 = 0) ∧
    (∀ (w : WirePipeline) form parts current messages, Chain.Linked nextCommandOf 8 parts →
      Reads env parts (current :: messages) →
      w.walk env form current parts.flatten =
        w.admitAll env form ((current :: messages).zip parts)) ∧
    (∀ (w w' : WirePipeline) form current remaining responses,
      read env remaining = some (.plain current) →
      w.walk env form current remaining = (w', .ok responses) →
      (responses.map CommandResponse.raw).flatten = remaining ∧
        ∀ response ∈ responses, 0 < response.raw.length) ∧
    (∀ (w : WirePipeline) form current remaining result,
      walkChecked env (Response.panics checks readers) w form current remaining = some result →
      w.walk env form current remaining = result) ∧
    ∀ current remaining,
      (∀ w form,
        (walkChecked env (Response.panics checks readers) w form current remaining).isSome) ↔
      checks = false ∨
        ¬ Leads (Onward env) (Before (Response.Underflows readers)) (current, remaining) := by
  refine ⟨fun _ _ => WireBuilder.build_unsigned_iff, ?_, ?_, ?_, ?_, fun _ _ =>
    walkChecked_isSome_iff⟩
  · intro requests segmentLimit signatures message hbuild
    obtain ⟨parts, hframed, hcount⟩ := WireBuilder.build_framed hbuild
    have hvisits := hframed.linked.visits []
    rw [List.nil_append, List.length_nil, ← hframed.metadata_eq] at hvisits
    refine ⟨parts, hcount, hframed.metadata_eq, fun i => ?_, hframed.linked, hvisits,
      hframed.linked.aligned (Nat.zero_mod 8)⟩
    rw [WireMessage.memberRange_eq, hframed.memberSpans_eq]
  · intro w form parts current messages hlinked hreads
    exact walk_linked hlinked hreads form w
  · intro w w' form current remaining responses hread hwalk
    exact (walked hwalk).consumes hread
  · intro w form current remaining result
    exact walk_of_walkChecked

/-! ### Two echoes -/

def echoOf (next : ℕ) : PlainRequest :=
  ⟨{ responseHeader .echo 5 0 false with flags := HeaderFlags.new, nextCommand := next }, echoBody⟩

theorem encodable_echoes : WireBuilder.Encodable [echoOf 9, echoOf 9] 1 where
  nonempty := by decide
  limit := by decide
  writable := by decide
  sized := by decide
  fits := by decide +kernel

/-- The member is padded to 72 bytes. -/
def firstEcho : Octets :=
  { responseHeader .echo 5 0 false with nextCommand := 72 }.write ++ (echoBody ++ [0, 0, 0, 0])

def lastEcho : Octets := (responseHeader .echo 5 0 false).write ++ echoBody

def echoMessage (next : ℕ) : PlainResponse :=
  ⟨{ responseHeader .echo 5 0 false with nextCommand := next }, .other⟩

theorem linked_echoes : Chain.Linked nextCommandOf 8 [firstEcho, lastEcho] :=
  .next (by decide) (by decide) (by decide) (.last (by decide))

theorem reads_echoes : Reads sampleEnv [firstEcho, lastEcho] [echoMessage 72, echoMessage 0] :=
  .cons (by decide +kernel) (.cons (by decide +kernel) .nil)

theorem calm_echoes :
    ¬ Leads (Onward sampleEnv) (Before (Response.Underflows sampleReaders))
      (echoMessage 0, lastEcho) := by
  intro h
  rcases leads_iff.mp h with ⟨_, ⟨hpos, -⟩, -⟩ | ⟨_, ⟨⟨hpos, -⟩, -⟩, -⟩ <;> exact absurd hpos
    (by decide)

theorem walk_lastEcho : WirePipeline.default.walk sampleEnv .default (echoMessage 0) lastEcho =
    (.default, .ok [⟨echoMessage 0, lastEcho, .default⟩]) := by
  have hadmit : WirePipeline.default.admitMember sampleEnv .default (echoMessage 0) lastEcho =
      (.default, .ok ⟨echoMessage 0, lastEcho, .default⟩) := rfl
  have hslice : memberSlice (echoMessage 0).header lastEcho = lastEcho := rfl
  rw [walk, hslice]
  rfl

theorem compound_chain_echoes :
    (∃ message, WireBuilder.build [echoOf 9, echoOf 9] 1 none = .ok message ∧
      ∃ parts : List Octets, parts.length = 2 ∧
        Chain.Visits nextCommandOf message.metadata 0
          ((Chain.ranges 0 parts).map ByteRange.start)) ∧
    (∀ (w : WirePipeline) (form : MessageForm),
      w.walk sampleEnv form (echoMessage 72) [firstEcho, lastEcho].flatten =
        w.admitAll sampleEnv form [(echoMessage 72, firstEcho), (echoMessage 0, lastEcho)]) ∧
    0 < lastEcho.length ∧
    ∀ w form, (walkChecked sampleEnv (Response.panics true sampleReaders) w form
      (echoMessage 0) lastEcho).isSome := by
  obtain ⟨hbuilds, hchains, hwalks, hconsumes, -, hpanics⟩ :=
    compound_chain sampleEnv sampleReaders true
  obtain ⟨message, hbuild⟩ := (hbuilds _ _).mpr encodable_echoes
  obtain ⟨parts, hcount, -, -, -, hvisits, -⟩ := hchains _ _ _ _ hbuild
  exact ⟨⟨message, hbuild, parts, hcount, hvisits⟩,
    fun w form => hwalks w form _ _ _ linked_echoes reads_echoes,
    (hconsumes _ _ _ _ _ _ (by decide +kernel) walk_lastEcho).2 _ List.mem_cons_self,
    (hpanics _ _).mpr (.inr calm_echoes)⟩

/-! ### A chain that makes the reader panic -/

def shortTransform : Octets :=
  compressedMagic ++ [64, 0, 0, 0] ++ [5, 0, 1, 0, 0, 0, 0, 0] ++ [0, 0, 0, 0]

theorem underflows_shortTransform : Response.Underflows sampleReaders shortTransform := by
  have hunread : CompressedUnchainedMessage.read shortTransform = .error .refused := by
    decide +kernel
  refine .inr ⟨by decide +kernel, fun message => by rw [hunread]; simp, by decide, .here ?_⟩
  exact ⟨by decide, by decide, .lz4, by decide, rfl⟩

/-- Behind an echo stands a transform whose item is too short for what its reader subtracts. -/
theorem walk_panics :
    read sampleEnv (firstEcho ++ shortTransform) = some (.plain (echoMessage 72)) ∧
    walkChecked sampleEnv (Response.panics true sampleReaders) .default .default (echoMessage 72)
      (firstEcho ++ shortTransform) = none := by
  have hslice : memberSlice (echoMessage 72).header (firstEcho ++ shortTransform) = firstEcho := by
    decide +kernel
  have hadmit : WirePipeline.default.admitMember sampleEnv .default (echoMessage 72) firstEcho =
      (.default, .ok ⟨echoMessage 72, firstEcho, .default⟩) := rfl
  have hrest : (firstEcho ++ shortTransform).drop 72 = shortTransform := by decide +kernel
  refine ⟨by decide +kernel, ?_⟩
  rw [walkChecked, hslice, hadmit, if_neg (by decide)]
  dsimp only
  rw [if_neg (by decide)]
  exact if_pos (hrest ▸ panics_iff.mpr ⟨rfl, underflows_shortTransform⟩)

end WirePipeline

end Wire
