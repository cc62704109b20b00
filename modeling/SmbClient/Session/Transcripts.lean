import SmbClient.Session.Setup

/-!
# The transcripts of several setups

A generation has one hash, which every session setup request the owner prepares and every
intermediate response it decodes advances. `Session::reauthenticate` resets it once before its
attempts; the first setup does not. `Transcripts` is the pipeline with the setups that use it.
-/

namespace Session

open Msg Wire WirePipeline

def setupRequest (info : ConnectionInfo) (buffer : Octets) (sessionId : ℕ) (stamp : Stamp) :
    CommandRequest :=
  let request := SessionSetup.prepareOutgoing info (SessionSetup.makeRequest info .new buffer)
  stamp.apply { request with header := { request.header with sessionId } }

structure Transcripts where
  wire : WirePipeline
  -- The setup a message id was given to.
  owner : Table ℕ ℕ
  ended : List ℕ
  -- No frame was refused.
  alive : Bool
  -- Not in the source: what was exchanged, in order, by which setup, the setups that have begun,
  -- and the one that has used the hash since it was reset.
  log : List (ℕ × Octets)
  begun : List ℕ
  current : Option ℕ

inductive TranscriptMove where
  | prepare (setup : ℕ) (buffer : Octets) (sessionId : ℕ) (stamp : Stamp) (cancelled : Bool)
      (random : Octets)
  | decode (frame : Octets)
  | derive (setup : ℕ)
  | reset
  | finish (setup : ℕ)
  | elsewhere (event : WireEvent)

def sparesHash : WireEvent → Bool
  | .infoCreated _ | .entryCreated _ _ | .infoChanged _ _ | .channelInstalled _ _
  | .sessionStarted _ | .sessionEnded _ => true
  | .outgoing msg _ _ =>
    match msg.security with
    | some (.snapshotKdfSign _) => false
    | _ => !participatesInPreauthOutgoing msg.header
  | .negotiated _ | .resetPreauthToNegotiate | .incoming _ => false

namespace Transcripts

def start (wire : WirePipeline) : Transcripts :=
  { wire, owner := ∅, ended := [], alive := true, log := [], begun := [], current := none }

variable (env : Env) (info : ConnectionInfo)

variable (x : Transcripts)

/-- The owner prepares a request of a setup. A setup whose request it refuses is over. -/
def prepare (setup : ℕ) (request : CommandRequest) (cancelled : Bool)
    (random : Octets) : Transcripts :=
  let messageId := request.header.messageId
  if ¬ x.alive ∨ setup ∈ x.ended ∨ (x.owner.lookup messageId).isSome then x
  else
    let x := { x with
      owner := x.owner.insert messageId setup
      begun := setup :: x.begun
      current := some setup }
    match x.wire.transformOutgoing env request cancelled random with
    | (wire, .ok _) => { x with wire, log := x.log ++ [(setup, request.plain)] }
    | (wire, .error _) => { x with wire, ended := setup :: x.ended }

def intermediate (r : CommandResponse) : Option (ℕ × Octets) :=
  if r.message.header.command = .sessionSetup ∧
      r.message.header.status = Status.moreProcessingRequired.code then
    (x.owner.lookup r.message.header.messageId).map (·, r.raw)
  else none

/-- The owner decodes a frame. A frame it refuses ends the generation. -/
def decode (frame : Octets) : Transcripts :=
  if ¬ x.alive then x
  else match x.wire.transformIncomingAll env frame with
  | (wire, .ok responses) =>
    { x with wire, log := x.log ++ responses.filterMap x.intermediate }
  | (wire, .error _) => { x with wire, alive := false }

def step :
    TranscriptMove → Transcripts × List (ℕ × Except Error (Option Octets))
  | .prepare setup buffer sessionId stamp cancelled random =>
    (x.prepare env setup (setupRequest info buffer sessionId stamp) cancelled random, [])
  | .decode frame => (x.decode env frame, [])
  | .derive setup =>
    (x, if x.alive ∧ setup ∈ x.begun ∧ setup ∉ x.ended then
        [(setup, x.wire.snapshotPreauthFinalized)]
      else [])
  | .reset =>
    (if x.alive then
        { x with wire := x.wire.orElse x.wire.resetPreauthToNegotiate, current := none }
      else x, [])
  | .finish setup => ({ x with ended := setup :: x.ended }, [])
  | .elsewhere event =>
    (if sparesHash event then { x with wire := (x.wire.react env event).1 } else x, [])

def own (setup : ℕ) : List Octets :=
  (x.log.filter fun message => message.1 = setup).map (·.2)

def extend (base : Octets) (messages : List Octets) : Octets :=
  messages.foldl (fun hash data => env.sha512 (hash ++ data)) base

end Transcripts

end Session
