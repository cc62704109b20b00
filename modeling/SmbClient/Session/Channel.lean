import SmbClient.Runtime.Wire

/-!
# Channels (`session/channel.rs`, `connection.rs`)

A channel context seals the protection of every request, and decides from what the pipeline recorded
whether the session takes a response.
-/

namespace Session

open Msg Wire

structure ResponseOptions where
  status : List Status
  cmd : Option Command
  msgId : ℕ

namespace ConnectionCore

def statusAccepted (options : ResponseOptions) (response : CommandResponse) : Bool :=
  options.status.any fun status => decide (response.message.header.status = status.code)

def refuseStatus (response : CommandResponse) : Error :=
  match response.message.content with
  | .error => .receivedErrorMessage response.message.header.status
  | _ => .unexpectedMessageStatus response.message.header.status

def validateIncoming (response : CommandResponse) (options : ResponseOptions) :
    Except Error CommandResponse :=
  if options.cmd.any fun cmd => decide (response.message.header.command ≠ cmd) then
    .error (.unexpectedMessageCommand response.message.header.command)
  else if ¬ response.message.header.flags.serverToRedir then
    .error (.invalidMessage "Expected server-to-redir message")
  else if ¬ statusAccepted options response then .error (refuseStatus response)
  else .ok response

variable (answer : Except Error CommandResponse)

def receive (options : ResponseOptions) : Except Error CommandResponse :=
  if options.msgId = Machine.maxValue 64 then
    .error (.invalidArgument "Message ID -1 is not valid for receive()")
  else match answer with
  | .error error => .error error
  | .ok response => validateIncoming response options

def executeForWithReplay (options : ResponseOptions) : Except Error CommandResponse :=
  match answer with
  | .error error => .error error
  | .ok response =>
    if ¬ statusAccepted options response then .error (refuseStatus response)
    else if ¬ response.message.header.flags.serverToRedir then
      .error (.invalidMessage "Expected server-to-redir message")
    else .ok response

end ConnectionCore

structure ChannelContext where
  sessionId : ℕ
  channelId : ℕ
  sessionState : EntryRef

structure SessionView where
  session : SessionInfo
  connInfo : Option ConnectionInfo

namespace ChannelContext

variable (view : SessionView)

variable (command : Command)

def requiresSigning : Except Error Bool :=
  match view.connInfo with
  | none => .error (.invalidState "Connection not negotiated")
  | some info =>
    if info.negotiation.signingRequired then .ok true
    else if ¬ view.session.isReady then .ok false
    else do
      let guest ← view.session.isGuestOrAnonymous
      return !guest && decide (info.negotiation.dialectRev = .smb0311) &&
        decide (command = .treeConnect)

def encryptionRequired : Except Error Bool :=
  if view.session.isReady then view.session.shouldEncrypt else .ok false

def unsignedAllowed : Except Error Bool :=
  match view.session.allowUnsigned with
  | .error error => .error error
  | .ok false => .ok false
  | .ok true => (requiresSigning view command).map (! ·)

def protection : Except Error Protection :=
  if view.session.isInvalid then .error (.invalidState "Session is invalid")
  else if ¬ (view.session.isReady ∨ view.session.isSettingUp) then .ok .none
  else do
    let encrypt ← encryptionRequired view
    if encrypt then return .encrypt
    else
      let unsigned ← unsignedAllowed view command
      return if unsigned then .none else .signWithChannel

variable (c : ChannelContext)

def prepare (view : SessionView) (msg : CommandRequest) :
    Except Error CommandRequest := do
  let security ← match msg.security with
    | some security => pure security
    | none => protection view msg.header.command
  let signed := match security with
    | .signWithChannel | .snapshotKdfSign _ => true
    | .none | .encrypt => msg.header.flags.signed
  return { msg with
    security := some security
    header := { msg.header with
      flags := { msg.header.flags with signed }
      sessionId := c.sessionId } }

def verifyIncoming (view : SessionView) (incoming : CommandResponse) : Except Error Unit :=
  let header := incoming.message.header
  match Status.tryFrom header.status with
  | none => .error .smbMessage
  | some status =>
    if status = .userSessionDeleted ∨ status = .networkSessionExpired then
      .error .sessionInvalidated
    else do
      let encryptionRequired ← encryptionRequired view
      let unsignedAllowed ← unsignedAllowed view header.command
      if header.sessionId = 0 then
        .error (.invalidMessage "No session ID in message that got to session!")
      else if header.sessionId ≠ c.sessionId then
        .error (.invalidMessage "Message not for this session!")
      else if ¬ incoming.form.encrypted ∧ encryptionRequired then
        .error (.invalidMessage
          "Message not encrypted, but encryption is required for the session!")
      else if ¬ incoming.form.signedOrEncrypted ∧ ¬ unsignedAllowed then
        .error (.invalidMessage
          "Message not signed or encrypted, but signing is required for the session!")
      else .ok ()

/-- The session is looked at when the request is prepared and twice when its answer is there. -/
def executeForWithReplay (atPrepare atAnswer atReturn : SessionView)
    (msg : CommandRequest) (answer : Except Error CommandResponse) (options : ResponseOptions) :
    Except Error CommandResponse := do
  let _ ← c.prepare atPrepare msg
  let response ← ConnectionCore.executeForWithReplay answer options
  match c.verifyIncoming atAnswer response with
  | .error .sessionInvalidated => .error .sessionInvalidated
  | _ =>
    c.verifyIncoming atReturn response
    return response

/-- `recvo_internal`. The assertion that the session is being set up ends the task. -/
def recvoInternal (view : SessionView) (answer : Except Error CommandResponse)
    (options : ResponseOptions) (skipSecurityValidation : Bool) : Except Error CommandResponse := do
  let incoming ← ConnectionCore.receive answer options
  if ¬ skipSecurityValidation then
    c.verifyIncoming view incoming
    return incoming
  else if ¬ view.session.isInitial then
    .error (.invalidState ("Incorrect internal state: security checks are never skipped, " ++
      "unless the session is still being set up!"))
  else return incoming

end ChannelContext

end Session
