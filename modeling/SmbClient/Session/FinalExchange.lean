import SmbClient.Runtime.OwnerTask
import SmbClient.Session.Setup

/-!
# The final exchange of a session setup

`send_final_setup_request` hands the final request to the owner and then makes the channel step by
step, while the owner goes on: it decodes the answer whether or not the channel is installed. `step`
is one move of the setup task, the pipeline or the owner.
-/

namespace Wire

def CommandResponse.forOwner (r : CommandResponse) : Runtime.CommandResponse where
  messageId := r.message.header.messageId
  status := r.message.header.status
  command := r.message.header.command
  asyncId := r.message.header.asyncId
  creditRequest := .ofNat r.message.header.creditRequest
  isError := decide (r.message.content = .error)
  unauthenticatedRecoveryHint := r.form.unauthenticatedRecoveryHint

end Wire

namespace Session

open Msg Wire Runtime

inductive Stage where
  | ready
  | dispatched
  | sessionSnapshot (hash : Except Error (Option Octets))
  | keysExchanged
  | channelSnapshot (hash : Except Error (Option Octets))
  | installed
  | failed (error : Error)

structure FinalExchange (G : Type) where
  wire : WirePipeline
  authority : RequestAuthority
  -- The session objects of the setup are those of the pipeline; its own field is not used.
  setup : SessionSetup G
  stage : Stage
  -- The messages this setup has exchanged since the negotiation. Not in the source.
  exchanged : List Octets

inductive FinalMove where
  | task
  | decode (frame : Octets) (emitEvents laneFull : Bool)
  | elsewhere (event : WirePipeline.WireEvent)
  | owner (authority : RequestAuthority)

namespace FinalExchange

variable {G : Type} (env : Env) (info : ConnectionInfo) (gss : Gss G) (buffer : Octets)
  (stamp : Stamp)

variable (x : FinalExchange G)

def fail (error : Error) : FinalExchange G := { x with stage := .failed error }

def compute (computation : SetupM G Unit) (next : Stage) : FinalExchange G :=
  match computation { x.setup with store := x.wire.store } with
  | .ok () s => { x with setup := s, wire := { x.wire with store := s.store }, stage := next }
  | .error error s => { x with setup := s, wire := { x.wire with store := s.store } }.fail error

/-- The bytes of a request that take part in the hash: a binding's are signed by then. -/
def hashedRequest (w : WirePipeline) (msg : Wire.CommandRequest) : Except Error Octets :=
  match msg.security with
  | some (.snapshotKdfSign key) =>
    (w.deriveSetupPhaseSigner env key).map fun signer => (msg.signedWith env signer).headD []
  | _ => .ok msg.plain

def dispatch : FinalExchange G :=
  match x.setup.result with
  | none => x.fail (.invalidState "Session state must be set before the final request")
  | some entry =>
    let sessionId := ((x.wire.store.entries[entry]?).map SessionAndChannel.sessionId).getD 0
    match x.setup.finalRequest info gss buffer sessionId with
    | .error error => x.fail error
    | .ok request =>
      let request := stamp.apply request
      match x.wire.transformOutgoing env request false [] with
      | (wire, .error error) => { x with wire }.fail error
      | (wire, .ok _) =>
        let message := (hashedRequest env x.wire request).toOption
        { x with wire, stage := .dispatched, exchanged := x.exchanged ++ message.toList }

/-- A binding has its session keys already. -/
def task : FinalExchange G :=
  match x.stage with
  | .ready => x.dispatch env info gss buffer stamp
  | .dispatched =>
    match x.setup.kind with
    | .new => { x with stage := .sessionSnapshot x.wire.snapshotPreauthFinalized }
    | .bind => { x with stage := .keysExchanged }
  | .sessionSnapshot hash =>
    x.compute (SessionSetup.onSessionKeyExchanged env info gss hash) .keysExchanged
  | .keysExchanged => { x with stage := .channelSnapshot x.wire.snapshotPreauthFinalized }
  | .channelSnapshot hash => x.compute (SessionSetup.installChannel env info gss hash) .installed
  | .installed | .failed _ => x

def decode (frame : Octets) (emitEvents laneFull : Bool) : FinalExchange G :=
  let (wire, result) := x.wire.transformIncomingAll env frame
  { x with
    wire
    authority := x.authority.finishPreparedInbound emitEvents laneFull
      ⟨0, frame.length, result.toOption.map (·.map fun r => (r.forOwner, laneFull))⟩ }

def step : FinalMove → FinalExchange G
  | .task => x.task env info gss buffer stamp
  | .decode frame emitEvents laneFull => x.decode env frame emitEvents laneFull
  | .elsewhere event => { x with wire := (x.wire.react env event).1 }
  | .owner authority => { x with authority }

end FinalExchange

end Session
