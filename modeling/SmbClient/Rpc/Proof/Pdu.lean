import SmbClient.Rpc.Pdu

/-!
# Reading back a packet

A packet is read back exactly where the reader and the writer agree (`Legible`): the lists are short
enough for their counts, the port of an acknowledgement ends at a multiple of four, and nothing
follows a stub. That a legible content is read back follows the reader (`Reads`). That no other one
is follows from what the reader can return at all (`Gives`): no list longer than its count, and no
acknowledgement that ends before the padding of its port.
-/

namespace Rpc

open Codec Octets

variable {p : ℕ} {rest : Octets}

theorem DceRpcSyntaxId.reads (x : DceRpcSyntaxId) : Reads DceRpcSyntaxId.read p x.write x rest :=
  .bind (.word _) (.map (.word _))

theorem DcRpcCoPktBindAckResult.reads (x : DcRpcCoPktBindAckResult) :
    Reads DcRpcCoPktBindAckResult.read p x.write x rest := by
  refine .bind (.variant ?_ ?_) (.bind (.variant ?_ ?_) (.map x.syntaxId.reads))
  · cases x.result <;> decide
  · cases x.result <;> rfl
  · cases x.reason <;> decide
  · cases x.reason <;> rfl

/-! ## Contents -/

def DcRpcCoPktBindContextElement.Legible (element : DcRpcCoPktBindContextElement) : Prop :=
  element.transferSyntaxes.length < 256

theorem DcRpcCoPktBindContextElement.reads {element : DcRpcCoPktBindContextElement}
    (h : element.Legible) : Reads DcRpcCoPktBindContextElement.read p element.write
    element rest := by
  refine .bind (.word _) (.bind (.word (⟨_, h⟩ : Word 1)) (.bind (.word (0 : Word 1)) ?_))
  exact .bind element.abstractSyntax.reads (.map (.many_map fun x _ _ => x.reads))

variable (trailing : Octets)

def DcRpcCoPktRequestContent.Legible : DcRpcCoPktRequestContent → Prop
  | .request _ => trailing = []
  | .bind b => b.contextElements.length < 256 ∧ ∀ element ∈ b.contextElements, element.Legible

def DcRpcCoPktResponseContent.Legible : DcRpcCoPktResponseContent → Prop
  | .response _ => trailing = []
  | .fault _ => True
  | .bindAck b => b.portSpec.length < 2 ^ 16 ∧ (26 + b.portSpec.length) % 4 = 0 ∧
      b.results.length < 256
  | .bindNak b => b.protocols.length < 256

theorem DceRpcSyntaxId.gives : Gives DceRpcSyntaxId.read fun p _ q => q = p + 20 :=
  (Gives.word 16).bind fun _ => (Gives.word 4).map fun _ _ _ h p hp => by omega

theorem DcRpcCoPktBindContextElement.gives :
    Gives DcRpcCoPktBindContextElement.read fun _ element _ => element.Legible :=
  .skip fun _ => .skip fun count => .skip fun _ => .skip fun _ =>
    (DceRpcSyntaxId.gives.many count).map fun _ _ _ h => h.1.trans_lt count.isLt

theorem DcRpcCoPktBindAckResult.gives : Gives DcRpcCoPktBindAckResult.read fun p _ q =>
    q = p + 24 :=
  (Gives.variant _ _ _).bind fun _ => (Gives.variant _ _ _).bind fun _ =>
    DceRpcSyntaxId.gives.map fun _ _ _ h p hp p' hp' => by omega

theorem bind_gives : Gives (requests.read 11) fun _ content _ => content.Legible trailing := by
  refine .skip fun _ => .skip fun _ => .skip fun _ => .skip fun count => .skip fun _ =>
    .skip fun _ => ?_
  refine Gives.map (Gives.all DcRpcCoPktBindContextElement.gives count) fun _ _ _ h => ?_
  exact ⟨h.1.trans_lt count.isLt, h.2⟩

theorem bindNak_gives : Gives (responses.read 13) fun _ content _ => content.Legible trailing := by
  have version : Gives (do return (← word 1, ← word 1)) fun _ _ _ => True := fun _ _ _ _ => trivial
  refine .skip fun _ => .skip fun count => (version.all count).map fun _ _ _ h => ?_
  exact h.1.trans_lt count.isLt

/-- The padding behind the port is part of what is read, and of nothing that is written. -/
theorem bindAck_gives : Gives (responses.read 12) fun p content q => ∃ b, content = .bindAck b ∧
    b.portSpec.length < 2 ^ 16 ∧ b.results.length < 256 ∧
      q = p + 10 + b.portSpec.length + padding 4 (p + 10 + b.portSpec.length) + 4 +
        b.results.length * 24 := by
  refine (Gives.word 2).bind fun _ => (Gives.word 2).bind fun _ => (Gives.word 4).bind fun _ =>
    (Gives.word 2).bind fun size => (Gives.require _).bind fun _ =>
      (Gives.take size).bind fun port =>
      (Gives.align 4).bind fun _ => (Gives.word 1).bind fun count => (Gives.word 1).bind fun _ =>
        (Gives.word 2).bind fun _ => (DcRpcCoPktBindAckResult.gives.many count).map ?_
  rintro _ results stop ⟨length, h⟩ _ rfl _ rfl _ rfl _ rfl _ ⟨long, rfl⟩ _ rfl _ rfl _
    rfl _ rfl _ rfl
  refine ⟨_, rfl, long.trans_lt size.isLt, length.trans_lt count.isLt, ?_⟩
  rw [h, length, long]

theorem requests_reads_iff {content : DcRpcCoPktRequestContent} :
    Reads (requests.read (requests.getType content)) 16 (requests.write content) content
    (rest.take 16) ↔
      content.Legible rest := by
  cases content with
  | request r =>
    refine (Reads.bind_iff (.word _)).trans <| (Reads.bind_iff (.word _)).trans <|
      (Reads.bind_iff (.word _)).trans <| Reads.untilEof_iff.trans ?_
    simp [DcRpcCoPktRequestContent.Legible]
  | bind b =>
    refine ⟨bind_gives rest _ _ _, fun h => ?_⟩
    refine .bind (.word _) (.bind (.word _) (.bind (.word _) (.bind (.word (⟨_, h.1⟩ : Word 1))
      (.bind (.word (0 : Word 1)) (.bind (.word (0 : Word 2)) (.map (.many ?_)))))))
    rw [List.forall₂_map_right_iff, List.forall₂_same]
    exact fun element inside _ _ => DcRpcCoPktBindContextElement.reads (h.2 element inside)

theorem bindAck_reads {b : DcRpcCoPktBindAck}
    (h : DcRpcCoPktResponseContent.Legible trailing (.bindAck b)) :
    Reads (responses.read 12) 16 (responses.write (.bindAck b)) (.bindAck b) rest := by
  obtain ⟨short, aligned, few⟩ := h
  have nonempty : decide ((⟨b.portSpec.length, short⟩ : Word 2) ≠ 0) = true := by
    rw [decide_eq_true_eq, ne_eq, Fin.ext_iff]
    show b.portSpec.length ≠ 0
    omega
  refine .bind (.word _) (.bind (.word _) (.bind (.word _) (.bind (.word (⟨_, short⟩ : Word 2))
    (.require nonempty (.bind (.take rfl) (.aligned ?_ ?_))))))
  · simp only [length_encode]
    omega
  · exact .bind (.word (⟨_, few⟩ : Word 1)) (.bind (.word (0 : Word 1)) (.bind (.word (0 : Word 2))
      (.map (.many_map fun x _ _ => DcRpcCoPktBindAckResult.reads x))))

theorem responses_reads_iff {content : DcRpcCoPktResponseContent} :
    Reads (responses.read (responses.getType content)) 16 (responses.write content) content
      (rest.take 16) ↔ content.Legible rest := by
  cases content with
  | response r =>
    refine (Reads.bind_iff (.word (0 : Word 4))).trans <| (Reads.bind_iff (.word _)).trans <|
      (Reads.bind_iff (.word _)).trans <| (Reads.bind_iff (.word (0 : Word 1))).trans <|
        Reads.untilEof_iff.trans ?_
    simp [DcRpcCoPktResponseContent.Legible]
  | fault f =>
    refine iff_of_true ?_ trivial
    exact .bind (.word _) (.bind (.word _) (.bind (.word _) (.bind (.word _) (.bind (.word _)
      (.map (.word _))))))
  | bindAck b =>
    refine ⟨fun h => ?_, bindAck_reads rest⟩
    obtain ⟨_, ⟨⟩, short, few, stop⟩ := bindAck_gives _ _ _ h
    refine ⟨short, ?_, few⟩
    -- The writer has no padding, so the two can only stop together where the reader needs none.
    have length : (responses.write (.bindAck b)).length =
        10 + b.portSpec.length + 4 + b.results.length * 24 := by
      simp [responses, DcRpcCoPktBindAckResult.write, DceRpcSyntaxId.write, List.length_flatten,
        Function.comp_def]
      omega
    simp only [length, padding] at stop
    omega
  | bindNak b =>
    refine ⟨bindNak_gives rest _ _ _, fun h => ?_⟩
    refine .bind (.variant ?_ ?_)
      (.bind (.word (⟨_, h⟩ : Word 1)) (.map (.many_map fun v _ _ => ?_)))
    · cases b.reason <;> decide
    · cases b.reason <;> rfl
    · exact .bind (.word _) (.map (.word _))

/-! ## Packets -/

/-- The bytes are read as the packet up to what follows them, and state their length. -/
def ReadsBack {C : Type} (direction : Direction C) (packet : Packet C) (bytes trailing : Octets) :
    Prop :=
  Packet.read direction ⟨0, bytes ++ trailing⟩ = .ok (packet, ⟨bytes.length, trailing⟩) ∧
    bytes.field 8 2 = bytes.length

theorem Packet.readsBack_iff {C : Type} {direction : Direction C} {packet : Packet C}
    {bytes trailing : Octets} (written : packet.write direction = some bytes)
    (type : direction.getType packet.content < 256) :
    ReadsBack direction packet bytes trailing ↔ packet.objectUuid = false ∧
      Reads (direction.read (direction.getType packet.content)) 16 (direction.write packet.content)
        packet.content (trailing.take 16) := by
  unfold Packet.write at written
  dsimp only at written
  split at written
  case isFalse => cases written
  case isTrue short =>
  have all := (Option.some.inj written).symm
  have field : bytes.field 8 2 = bytes.length := by
    have split : bytes = (encode 1 5 ++ encode 1 0 ++ encode 1 (direction.getType packet.content) ++
        encode 1 packet.pfcFlags ++ encode 4 packet.packedDrep) ++
        (encode 2 (commonSizeBytes + (direction.write packet.content).length) ++ (encode 2 0 ++
          (encode 4 packet.callId ++ direction.write packet.content))) := by simp [all]
    rw [(field_of_eq split (by simp)).trans (Nat.mod_eq_of_lt short), split]
    simp [commonSizeBytes]
    omega
  have header : Reads (Packet.read direction) 0 bytes packet trailing ↔ packet.objectUuid = false ∧
      Reads (limited (commonSizeBytes + (direction.write packet.content).length)
        (direction.read (direction.getType packet.content))) 16 (direction.write packet.content)
        packet.content trailing := by
    rw [all]
    refine (Reads.bind_iff (.word (5 : Word 1))).trans
      <| (Reads.bind_iff (.word (0 : Word 1))).trans <| Reads.require_iff.trans
      <| (and_iff_right rfl).trans <| (Reads.bind_iff (.word (⟨_, type⟩ : Word 1))).trans
      <| (Reads.bind_iff (.word _)).trans <| Reads.require_iff.trans <| and_congr
      (by simp [objectUuid]) ?_
    refine (Reads.bind_iff (.word _)).trans <| (Reads.bind_iff (.word (⟨_, short⟩ : Word 2))).trans
      <| (Reads.bind_iff (.word (0 : Word 2))).trans <| Reads.require_iff.trans <|
      (and_iff_right rfl).trans <| (Reads.bind_iff (.word _)).trans <|
      Reads.map_iff fun _ _ h => (Packet.mk.inj h).2.2.2
  rw [Reads.limited_iff (by simp)] at header
  simpa [ReadsBack, field, Reads, commonSizeBytes] using header

/-- **Round trip.** What a packet was written to is read back, whatever follows, exactly if it has
no object and its content is legible there. -/
theorem packets_read_back :
    (∀ (packet : DceRpcCoRequestPkt) (bytes : Octets), packet.write requests = some bytes →
      (ReadsBack requests packet bytes trailing ↔
        packet.objectUuid = false ∧ packet.content.Legible trailing)) ∧
    ∀ (packet : DceRpcCoResponsePkt) (bytes : Octets), packet.write responses = some bytes →
      (ReadsBack responses packet bytes trailing ↔
        packet.objectUuid = false ∧ packet.content.Legible trailing) := by
  constructor
  · intro packet bytes written
    rw [Packet.readsBack_iff written (by cases packet.content <;> simp [requests]),
      requests_reads_iff]
  · intro packet bytes written
    rw [Packet.readsBack_iff written (by cases packet.content <;> simp [responses]),
      responses_reads_iff]

theorem fault_read_back : ∃ packet bytes, Packet.write responses packet = some bytes ∧
    ReadsBack responses packet bytes [7] :=
  ⟨⟨3, 16, 2, .fault ⟨0, 0, 0, 0, 5, 0⟩⟩, _, rfl, ((packets_read_back [7]).2 _ _ rfl).2
    ⟨rfl, trivial⟩⟩

/-- The byte behind a response becomes part of its stub, and an acknowledgement whose port has three
bytes is refused. -/
theorem trailing_byte_read :
    (∃ bytes, Packet.write responses ⟨3, 16, 2, .response ⟨0, 0, [1]⟩⟩ = some bytes ∧
      Packet.read responses ⟨0, bytes ++ [7]⟩ =
        .ok (⟨3, 16, 2, .response ⟨0, 0, [1, 7]⟩⟩, ⟨bytes.length + 1, []⟩)) ∧
    ∃ bytes, Packet.write responses ⟨3, 16, 2, .bindAck ⟨0, 0, 0, [65, 66, 0], []⟩⟩ = some bytes ∧
      Packet.read responses ⟨0, bytes⟩ = .error .refused :=
  ⟨⟨_, rfl, rfl⟩, _, rfl, rfl⟩

end Rpc
