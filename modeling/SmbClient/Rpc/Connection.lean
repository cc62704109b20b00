import SmbClient.Error
import SmbClient.Rpc.Pdu

/-!
# RPC over a pipe (`domain/rpc.rs`)

A pipe is bound once, with a write and a read. A call then sends its request and gets its reply in
one exchange (`Pipe::transact`), whose answer is an input here: an error, or whatever bytes the
server sends. A call looks at the context of a response, not at its call identifier. Every request
has an identifier of its own (`Line.fresh_step`), so a response that was meant for another call
could be told apart, and is not.
-/

namespace Rpc

open Codec

inductive SmbRpcError where
  | sendReceiveError (why : String)
  | failedToParseRpcResponse
  | remoteFault (status : Word 4)
deriving DecidableEq

/-- An error of the crate, which may be one of RPC. -/
inductive BindError where
  | error (error : Error)
  | rpcError (error : SmbRpcError)
deriving DecidableEq

def BindError.invalidMessage (why : String) : BindError := .error (.invalidMessage why)

def ndr64SyntaxId : DceRpcSyntaxId :=
  ⟨⟨0x36cc9cefdbb519834937beba71710533, by decide⟩, ⟨1, by decide⟩⟩

def bindTimeNegotiation : DceRpcSyntaxId := ⟨⟨0x3454098126cb71c2c, by decide⟩, ⟨2, by decide⟩⟩

/-- The text of its GUID starts with `6cb71c2c-9812-4540-`, which is the first half of its bytes. -/
def DceRpcSyntaxId.isBindTimeNegotiation (syntaxId : DceRpcSyntaxId) : Bool :=
  syntaxId.uuid.val % 2 ^ 64 = 0x454098126cb71c2c

structure RpcPipeConnection where
  nextCallId : Word 4
  contextId : Word 2
  serverMaxXmitFrag : Word 2
deriving DecidableEq

namespace RpcPipeConnection

def packedDrep : Word 4 := ⟨0x10, by decide⟩
def startCallId : Word 4 := ⟨2, by decide⟩
def defaultFragmentLimit : Word 2 := ⟨4280, by decide⟩
def singleFragment : Word 1 := ⟨3, by decide⟩

def validateEnvelope (reply : DceRpcCoResponsePkt) : Except String Unit :=
  if reply.packedDrep ≠ packedDrep then
    .error ("unsupported RPC packed DREP " ++ toString reply.packedDrep)
  else if !reply.firstFrag || !reply.lastFrag then .error "fragmented RPC responses are not supported"
  else .ok ()

/-! ## Binding -/

def makeBindContexts (syntaxId : DceRpcSyntaxId) (transferSyntaxes : List DceRpcSyntaxId) :
    List DcRpcCoPktBindContextElement :=
  transferSyntaxes.mapIdx fun index transfer => ⟨.ofNat 2 index, syntaxId, [transfer]⟩

def acceptedContext (bindAck : DcRpcCoPktBindAck) (transferSyntaxes : List DceRpcSyntaxId) :
    Except BindError (Word 2) := do
  if bindAck.results.length ≠ transferSyntaxes.length then
    throw (.invalidMessage ("RPC BindAck returned " ++ toString bindAck.results.length ++
      " results for " ++ toString transferSyntaxes.length ++ " transfer syntaxes"))
  let selected ← (bindAck.results.zip transferSyntaxes).zipIdx.foldlM
    (fun selected ((result, transfer), index) =>
      if transfer.isBindTimeNegotiation then pure selected
      else if result.result ≠ .acceptance ∨ result.syntaxId ≠ transfer then
        throw (.invalidMessage "RPC transfer syntax was not accepted exactly")
      else pure (some (.ofNat 2 index))) none
  match selected with
  | some index => return index
  | none => throw (.invalidMessage "RPC BindAck accepted no context")

/-- What the pipe answers: how much was written, what was read, and how closing it ended. -/
structure BindAnswers where
  written : Except Error ℕ
  reply : Except Error Octets
  closed : Except Error Unit

def rpcWriteRead (callId : Word 4) (content : DcRpcCoPktRequestContent) (answers : BindAnswers) :
    Except BindError DceRpcCoResponsePkt := do
  let some request := (⟨singleFragment, packedDrep, callId, content⟩ : DceRpcCoRequestPkt).write
    requests
    | throw (.error .binrw)
  let written ← answers.written.mapError .error
  if written ≠ request.length then
    throw (.invalidMessage "RPC bind request was only partially written")
  let reply ← answers.reply.mapError .error
  let (reply, _) ← (Packet.read responses ⟨0, reply⟩).mapError fun _ => .error .binrw
  (validateEnvelope reply).mapError .invalidMessage
  return reply

def bind (syntaxId : DceRpcSyntaxId) (answers : BindAnswers) :
    Except BindError RpcPipeConnection := do
  let transferSyntaxes := [ndr64SyntaxId, bindTimeNegotiation]
  let reply ← rpcWriteRead startCallId (.bind ⟨defaultFragmentLimit, defaultFragmentLimit, 0,
    makeBindContexts syntaxId transferSyntaxes⟩) answers
  match reply.content with
  | .bindAck bindAck =>
    let contextId ← acceptedContext bindAck transferSyntaxes
    return ⟨⟨startCallId.val + 1, by decide⟩, contextId, bindAck.maxXmitFrag⟩
  | .fault fault =>
    answers.closed.mapError .error
    throw (.rpcError (.remoteFault fault.status))
  | _ => throw (.invalidMessage "expected RPC BindAck")

/-! ## Calls -/

def request (c : RpcPipeConnection) (opnum : Word 2) (stubInput : Octets) : DceRpcCoRequestPkt :=
  ⟨singleFragment, packedDrep, c.nextCallId, .request ⟨0, c.contextId, opnum, stubInput⟩⟩

def receive (c : RpcPipeConnection) (reply : Octets) : Except SmbRpcError Octets :=
  match Packet.read responses ⟨0, reply⟩ with
  | .error _ => .error .failedToParseRpcResponse
  | .ok (reply, _) =>
    match validateEnvelope reply, reply.content with
    | .error why, _ => .error (.sendReceiveError why)
    | .ok _, .response response =>
      if response.contextId ≠ c.contextId then
        .error (.sendReceiveError ("RPC response context " ++ toString response.contextId ++
          " did not match " ++ toString c.contextId))
      else .ok response.stubData
    | .ok _, .fault fault => .error (.remoteFault fault.status)
    | .ok _, _ => .error (.sendReceiveError "expected RPC Response")

/-- The bytes are a response in the context of the connection. -/
def Accepts (c : RpcPipeConnection) (reply : Octets) (packet : DceRpcCoResponsePkt)
    (response : DcRpcCoPktResponse) : Prop :=
  (∃ cursor, Packet.read responses ⟨0, reply⟩ = .ok (packet, cursor)) ∧
    validateEnvelope packet = .ok () ∧ packet.content = .response response ∧
    response.contextId = c.contextId

theorem receive_eq_ok {c : RpcPipeConnection} {reply stub : Octets} : c.receive reply = .ok stub ↔
    ∃ packet response, c.Accepts reply packet response ∧ response.stubData = stub := by
  constructor
  · intro h
    unfold receive at h
    split at h
    · cases h
    rename_i packet cursor read
    split at h
    · cases h
    · rename_i response envelope content
      split at h
      · cases h
      · rename_i context
        exact ⟨packet, response, ⟨⟨cursor, read⟩, envelope, content, not_not.1 context⟩,
          Except.ok.inj h⟩
    · cases h
    · cases h
  · rintro ⟨packet, response, ⟨⟨cursor, read⟩, envelope, content, context⟩, rfl⟩
    simp [receive, read, envelope, content, context]

end RpcPipeConnection

/-- A connection and the identifiers of the requests that were sent over its pipe. -/
structure Line where
  connection : RpcPipeConnection
  sent : List (Word 4)

/-- A call and how its exchange ends: with bytes of the server, or with an error (a timeout, a
cancellation, a lost connection). -/
structure Call where
  opnum : Word 2
  stubInput : Octets
  reply : Except String Octets

namespace Line

open RpcPipeConnection

def bound (c : RpcPipeConnection) : Line := ⟨c, [startCallId]⟩

def sendReceiveRaw (s : Line) (call : Call) : Line × Except SmbRpcError Octets :=
  let request := s.connection.request call.opnum call.stubInput
  match request.write requests with
  | none => (s, .error (.sendReceiveError "the request is too long"))
  | some _ =>
    if h : s.connection.nextCallId.val + 1 < 256 ^ 4 then
      (⟨{ s.connection with nextCallId := ⟨s.connection.nextCallId.val + 1, h⟩ }, s.sent ++
        [request.callId]⟩, call.reply.mapError .sendReceiveError >>= s.connection.receive)
    else (s, .error (.sendReceiveError "RPC call identifier exhausted"))

def run (s : Line) (calls : List Call) : Line :=
  calls.foldl (fun s call => (s.sendReceiveRaw call).1) s

def Sends (s : Line) (call : Call) : Prop :=
  ((s.connection.request call.opnum call.stubInput).write requests).isSome ∧
    s.connection.nextCallId.val + 1 < 256 ^ 4

/-- The stub is that of a response to the request. -/
def Correlated (s : Line) (call : Call) (stub : Octets) : Prop :=
  ∃ reply packet response, call.reply = .ok reply ∧ s.connection.Accepts reply packet response ∧
    response.stubData = stub ∧
    packet.callId = (s.connection.request call.opnum call.stubInput).callId

/-- A response that arrives for the call answers a request of this pipe, and none before this one.
-/
def InTime (s : Line) (call : Call) : Prop :=
  s.Sends call → ∀ reply packet response, call.reply = .ok reply →
    s.connection.Accepts reply packet response →
      packet.callId ∈ s.sent ++ [s.connection.nextCallId] ∧ packet.callId ∉ s.sent

variable {s : Line} {call : Call}

theorem sendReceiveRaw_eq_ok {stub : Octets} : (s.sendReceiveRaw call).2 = .ok stub ↔
    s.Sends call ∧ ∃ reply, call.reply = .ok reply ∧ s.connection.receive reply = .ok stub := by
  unfold sendReceiveRaw Sends
  dsimp only
  split
  · simp [*]
  split
  · rename_i room
    cases call.reply <;> simp [*, -Nat.reducePow, Except.mapError, Bind.bind, Except.bind]
  · rename_i full
    exact iff_of_false nofun fun h => full h.1.2

/-- Every request before had a smaller identifier, whatever became of it. -/
def Fresh (s : Line) : Prop := ∀ id ∈ s.sent, id.val < s.connection.nextCallId.val

/-- A call takes an identifier that no earlier request has. -/
theorem fresh_step (fresh : s.Fresh) : (s.sendReceiveRaw call).1.Fresh := by
  unfold sendReceiveRaw
  dsimp only
  split
  · exact fresh
  split
  · intro id inside
    rcases List.mem_append.1 inside with before | here
    · exact Nat.lt_succ_of_lt (fresh id before)
    · rw [List.mem_singleton.1 here]
      exact Nat.lt_succ_self _
  · exact fresh

theorem fresh_run {calls : List Call} : ∀ {s : Line}, s.Fresh → (s.run calls).Fresh := by
  induction calls with
  | nil => exact id
  | cons call calls ih => exact fun fresh => ih (fresh_step fresh)

theorem fresh_bound {syntaxId : DceRpcSyntaxId} {answers : BindAnswers} {c : RpcPipeConnection}
    (h : bind syntaxId answers = .ok c) : (bound c).Fresh := by
  have next : c.nextCallId.val = startCallId.val + 1 := by
    unfold RpcPipeConnection.bind at h
    simp only [Bind.bind, Except.bind] at h
    split at h
    · cases h
    split at h
    · split at h <;> cases h
      rfl
    · split at h <;> cases h
    · cases h
  simp [Fresh, bound, next]

def reply (callId : Word 4) (content : DcRpcCoPktResponseContent) : Octets :=
  (Packet.write responses ⟨singleFragment, packedDrep, callId, content⟩).getD []

def sampleBind : BindAnswers :=
  ⟨.ok 116,
    .ok (reply startCallId
      (.bindAck ⟨defaultFragmentLimit, defaultFragmentLimit, .ofNat 4 1, [65, 0],
        [⟨.acceptance, .notSpecified, ndr64SyntaxId⟩,
      ⟨.negotiateAck, .notSpecified, ⟨.ofNat 16 0, .ofNat 4 0⟩⟩]⟩)), .ok ()⟩

def sampleCall (reply : Except String Octets) : Call := ⟨.ofNat 2 0, [], reply⟩

theorem bind_sample : bind ndr64SyntaxId sampleBind = .ok ⟨3, 0, 4280⟩ := by decide +kernel

theorem read_reply : Packet.read responses ⟨0, reply 3 (.response ⟨0, 0, [1]⟩)⟩ =
    .ok (⟨3, 16, 3, .response ⟨0, 0, [1]⟩⟩, ⟨25, []⟩) := by decide +kernel

end Line

end Rpc
