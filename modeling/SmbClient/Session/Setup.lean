import SmbClient.Session.Channel

/-!
# Session setup (`session/setup.rs`, `session/gss.rs`)

The setup is one task among others: what it asks of the owner of the connection is answered by a
`Round`. The session objects it makes are shared with the wire pipeline.
-/

namespace Session

open Msg Wire

structure Gss (G : Type) where
  isAuthenticated : G → Except Error Bool
  sessionKey : G → Except Error Key
  next : G → Octets → Except Error (G × Octets)

inductive SetupKind where
  | new
  | bind
deriving DecidableEq

structure Round where
  -- The message id of the request, once it is sent.
  submission : Except Error ℕ
  started : Except Error Unit
  -- Two snapshots of the hash: one for the keys of the session, one for the key of the channel.
  sessionSnapshot : Except Error (Option Octets)
  channelSnapshot : Except Error (Option Octets)
  answer : Except Error CommandResponse

/-- What the runtime adds to a request: its message id and credits. -/
structure Stamp where
  messageId : ℕ
  creditCharge : ℕ
  creditRequest : ℕ

def Stamp.apply (stamp : Stamp) (msg : CommandRequest) : CommandRequest :=
  { msg with header := { msg.header with
      messageId := stamp.messageId
      creditCharge := stamp.creditCharge
      creditRequest := stamp.creditRequest } }

structure SessionSetup (G : Type) where
  lastSetupResponse : Option SessionSetupResponse
  flags : Option SessionFlags
  context : Option ChannelContext
  result : Option EntryRef
  authenticator : G
  newChannelId : ℕ
  kind : SetupKind
  -- The session objects of the connection.
  store : SessionStore
  -- The last response the loop took. Not in the source.
  consumed : Option CommandResponse

/-- A computation of the setup task. What it did before an error stays. -/
abbrev SetupM (G : Type) : Type → Type := EStateM Error (SessionSetup G)

namespace SessionSetup

variable {G : Type} (env : Env) (info : ConnectionInfo) (gss : Gss G)

def fresh (authenticator : G) (newChannelId : ℕ) (kind : SetupKind) (store : SessionStore) :
    SessionSetup G :=
  { lastSetupResponse := none, flags := none, context := none, result := none
    authenticator, newChannelId, kind, store, consumed := none }

def lift {α : Type} : Except Error α → SetupM G α
  | .ok a => pure a
  | .error error => throw error

/-! ## Requests -/

def makeRequest (kind : SetupKind) (buffer : Octets) : CommandRequest where
  header :=
    { creditCharge := 0, status := Status.success.code, command := .sessionSetup
      creditRequest := 0, flags := .new, nextCommand := 0, messageId := Machine.maxValue 64
      treeId := some 0, asyncId := none, sessionId := 0, signature := 0 }
  body := SessionSetupRequest.write
    { binding := decide (kind = .bind)
      signingRequired := info.config.signingPolicy.requires info.negotiation.signingRequired
      dfs := info.negotiation.dfs
      buffer }
  additionalData := none
  security := some .none

def prepareOutgoing (msg : CommandRequest) : CommandRequest :=
  let priorityMask := if info.negotiation.dialectRev = .smb0311 then 1 else 0
  { msg with header := { msg.header with flags := { msg.header.flags with priorityMask } } }

/-- The session of an entry. Entries and sessions are never removed. -/
def session (entry : EntryRef) : SetupM G SessionInfo := do
  match (← get).store.info entry with
  | some session => return session
  | none => throw (.invalidState "Session state is missing.")

def entryOr (why : String) : SetupM G EntryRef := do
  match (← get).result with
  | some entry => return entry
  | none => throw (.invalidState why)

def sessionKey : SetupM G Key := do lift (gss.sessionKey (← get).authenticator)

def isAuthenticated : SetupM G Bool := do lift (gss.isAuthenticated (← get).authenticator)

/-! ## The session -/

/-- `init_session`. A binding is given its session when it is made. -/
def initSession (sessionId : ℕ) : SetupM G InfoRef := do
  let s ← get
  match s.kind with
  | .new =>
    let (store, session) := s.store.addInfo (.new sessionId)
    set { s with store }
    return session
  | .bind => throw (.invalidState
      "(Primary) Session should be provided in construction, rather than during setup!")

/-- `set_session`: an entry for a session, whose id is `sessionId`, is made and registered. -/
def setSession (started : Except Error Unit) (sessionId : ℕ) (session : InfoRef) :
    SetupM G Unit := do
  let s ← get
  let (store, entry) := s.store.addEntry sessionId session
  set { s with store, context := some ⟨sessionId, Machine.maxValue 32, entry⟩ }
  lift started
  modify ({ · with result := some entry })

def onSessionKeyExchanged (snapshot : Except Error (Option Octets)) : SetupM G Unit := do
  if (← get).kind = .new then
    let sessionKey ← sessionKey gss
    let preauthHash ← lift snapshot
    let entry ← entryOr "Session state must be set before keys exchange"
    let session ← session entry
    let session ← lift (session.setup env sessionKey preauthHash info)
    modify fun s => { s with store := s.store.setInfo entry session }
  else return ()

/-- The second half of `make_channel`: the channel is made and installed. -/
def installChannel (snapshot : Except Error (Option Octets)) : SetupM G Unit := do
  let preauthSnapshot ← lift snapshot
  let sessionKey ← sessionKey gss
  let channel ← lift (ChannelInfo.new env (← get).newChannelId sessionKey preauthSnapshot info)
  let entry ← entryOr "Session setup result is missing."
  modify fun s => { s with store := s.store.setChannel entry channel }

variable (round : Round)

def makeChannel : SetupM G Unit := do
  onSessionKeyExchanged env info gss round.sessionSnapshot
  installChannel env info gss round.channelSnapshot

def onSetupSuccess : SetupM G Unit := do
  let s ← get
  if s.kind = .new then
    let flags ← match s.flags with
      | some flags => pure flags
      | none => throw (.invalidState "flags must be set before on_setup_success")
    let entry ← entryOr "Session state must be set on success path"
    let session ← session entry
    let session ← lift (session.ready flags info)
    modify fun s => { s with store := s.store.setInfo entry session }
  else return ()

variable (s : SessionSetup G)

/-- `error_cleanup`; an error of the owner when it ends the session is only logged. -/
def errorCleanup : SessionSetup G :=
  match s.result, s.kind with
  | some entry, .new =>
    match s.store.info entry with
    | some session => { s with store := s.store.setInfo entry session.invalidate }
    | none => s
  | _, _ => s

/-! ## One round -/

variable (buffer : Octets)

def finalRequest (sessionId : ℕ) :
    Except Error CommandRequest := do
  let request := prepareOutgoing info (makeRequest info s.kind buffer)
  let request := { request with header := { request.header with sessionId } }
  match s.kind with
  | .new => return { request with security := some .none }
  | .bind =>
    let key ← gss.sessionKey s.authenticator
    let flags := { request.header.flags with signed := true }
    return { request with
      security := some (.snapshotKdfSign key)
      header := { request.header with flags } }

/-- `send_final_setup_request`: once the request is on its way, the channel is made. -/
def sendFinalSetupRequest : SetupM G ℕ := do
  let entry ← entryOr "Session state must be set before the final request"
  let sessionId := (((← get).store.entries[entry]?).map SessionAndChannel.sessionId).getD 0
  let _ ← lift ((← get).finalRequest info gss buffer sessionId)
  let messageId ← lift round.submission
  makeChannel env info gss round
  return messageId

def sendSetupRequest (isFinalRequest : Bool) : SetupM G ℕ :=
  if isFinalRequest then sendFinalSetupRequest env info gss round buffer
  else lift round.submission

def containsText (text part : String) : Bool := decide (1 < (text.splitOn part).length)

/-- Errors of the channel and of the runtime that mean something else during setup. -/
def setupError (isAuthDone : Bool) : Error → Error
  | .operationTimeout => .setup .timeout
  | .invalidMessage why =>
    if isAuthDone && containsText why "not signed or encrypted" &&
        containsText why "signing is required" then .setup .unsignedFinalResponse
    else .invalidMessage why
  | other => other

/-- The assertion that a setup without a context skips the check ends the task. -/
def receiveWith (answer : Except Error CommandResponse)
    (options : ResponseOptions) : Except Error CommandResponse :=
  let channelSetUp := (s.result.bind s.store.channel).isSome
  let skipSecurityValidation := decide (s.kind = .new) && !channelSetUp
  match s.context with
  | some context =>
    match s.store.info context.sessionState with
    | some session =>
      context.recvoInternal ⟨session, some info⟩ answer options skipSecurityValidation
    | none => .error (.invalidState "Session state is missing.")
  | none =>
    if skipSecurityValidation then ConnectionCore.receive answer options
    else .error (.invalidState "assertion failed: skip_security_validation")

def receiveSetupResponse (forMsgId : ℕ) (isFinalRequest : Bool) :
    SetupM G CommandResponse := do
  let isAuthDone ← isAuthenticated gss
  let expected := if isFinalRequest then Status.success else Status.moreProcessingRequired
  match (← get).receiveWith info round.answer ⟨[expected], none, forMsgId⟩ with
  | .ok response => return response
  | .error error => throw (setupError isAuthDone error)

/-- The first response of a new session names the session. -/
def ensureSession (sessionId : ℕ) : SetupM G Unit := do
  if (← get).result.isNone then
    let session ← initSession sessionId
    setSession round.started sessionId session
  else return ()

/-- The final response must be signed or encrypted, unless the session is a guest's. -/
def consume (response : CommandResponse) (content : SessionSetupResponse) (isFinalRequest : Bool) :
    SetupM G Unit := do
  if isFinalRequest ∧ ¬ content.sessionFlags.isGuestOrNullSession ∧
      ¬ response.form.signedOrEncrypted then
    throw (.setup .unsignedFinalResponse)
  else modify ({ · with
    flags := some content.sessionFlags
    lastSetupResponse := some content
    consumed := some response })

def toSessionsetup : ResponseContent → Except Error SessionSetupResponse
  | .sessionSetup response => .ok response
  | _ => .error .smbMessage

def exchange (isFinalRequest : Bool) : SetupM G Unit := do
  let messageId ← sendSetupRequest env info gss round buffer isFinalRequest
  let response ← receiveSetupResponse info gss round messageId isFinalRequest
  let content ← lift (toSessionsetup response.message.content)
  ensureSession round response.message.header.sessionId
  consume response content isFinalRequest

/-- The mechanism is given the token of the last response, or an empty one. -/
def nextToken : SetupM G Octets := do
  let s ← get
  let (authenticator, buffer) ← lift (gss.next s.authenticator
    ((s.lastSetupResponse.map SessionSetupResponse.buffer).getD []))
  set { s with authenticator }
  return buffer

/-- Whether the next request is final: the mechanism has authenticated, or has a key already. -/
def isFinal (isAuthDone : Bool) : Bool :=
  isAuthDone || (gss.sessionKey s.authenticator).toBool

/-- The condition of the loop and its body; whether the loop is left. -/
def turn : SetupM G Bool := do
  if ← isAuthenticated gss then return true
  else
    let buffer ← nextToken gss
    let isAuthDone ← isAuthenticated gss
    if isAuthDone && buffer.isEmpty then return true
    else
      let isFinalRequest := (← get).isFinal gss isAuthDone
      exchange env info gss round buffer isFinalRequest
      return isFinalRequest

/-! ## The loop -/

def turns : List Round → SetupM G (Option Round)
  | [] => return none
  | round :: rounds => do
    if ← turn env info gss round then return some round else turns rounds

def requireFlags : SetupM G Unit := do
  match (← get).flags with
  | some _ => return ()
  | none => throw (.invalidState "Failed to complete authentication properly.")

/-- A session that left the loop without a channel gets one. -/
def ensureChannel : SetupM G Unit := do
  let s ← get
  if s.result.any fun entry => (s.store.channel entry).isNone then makeChannel env info gss round
  else return ()

def finish : SetupM G Unit := do
  requireFlags
  ensureChannel env info gss round
  onSetupSuccess info

def setupLoop (rounds : List Round) : SetupM G (Option Unit) := do
  match ← turns env info gss rounds with
  | none => return none
  | some round =>
    finish env info gss round
    return some ()

/-- `setup`: what it returned, if it returned, and the setup as it left it. -/
def setup (rounds : List Round) : SessionSetup G × Option (Except Error EntryRef) :=
  match setupLoop env info gss rounds s with
  | .ok none s => (s, none)
  | .ok (some ()) s =>
    match s.result with
    | some entry => (s, some (.ok entry))
    | none => (s, some (.error (.invalidState "Session setup result is missing.")))
  | .error error s => (s.errorCleanup, some (.error error))

end SessionSetup

end Session
