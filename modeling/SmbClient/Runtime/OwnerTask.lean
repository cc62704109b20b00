import SmbClient.Runtime.Engine

/-!
# The owner's loop (`runtime/engine.rs`, third part)

`step` performs one input, `Turn.inputs` lists those of one turn of the loop in the order of the
source, and `OwnerTask.run` is the run of a new owner.
-/

namespace Runtime

open Msg

/-! ## Reports of the pumps -/

inductive IoEvent where
  | writeCancelled (key : RequestKey)
  | writeProgress (key : RequestKey) (bytes : ℕ)
  | writeComplete (key : RequestKey)
  | failed (error : TransportError)

namespace RequestAuthority

variable (a : RequestAuthority)

variable (key : RequestKey)

def membersOf : List RequestKey :=
  (a.frameMembers.lookup key).getD [key]

def progress (members : List RequestKey) (event : RequestProgress) : RequestAuthority :=
  members.foldl (fun a member => (a.feed (.request member event)).1) a

/-- A cancellation that waited for the write pump. -/
def settleDeferred : RequestAuthority :=
  match a.deferredCancellations.lookup key with
  | none => a
  | some now =>
    { a with deferredCancellations := a.deferredCancellations.erase key }.settle (.cancel key now)

/-- The frame led by `key` was withdrawn before its first byte. -/
def writeCancelled : RequestAuthority :=
  let now := (a.deferredCancellations.lookup key).getD 0
  let members := a.membersOf key
  let a := { a with
    deferredCancellations := a.deferredCancellations.erase key
    frameMembers := a.frameMembers.erase key }
  let a := members.foldl (fun a member => a.settle (.cancel member now)) a
  { a with frameCancellations := a.frameCancellations.erase key }

def writeProgress (bytes : ℕ) : RequestAuthority :=
  (a.progress (a.membersOf key) (.writeProgress bytes)).settleDeferred key

def writeComplete : RequestAuthority :=
  let members := a.membersOf key
  let a := { a with frameMembers := a.frameMembers.erase key }
  let a := (a.progress members .writeComplete).settleDeferred key
  { a with frameCancellations := a.frameCancellations.erase key }

def processIo (emitEvents laneFull : Bool) (event : IoEvent) : RequestAuthority :=
  let emit (a : RequestAuthority) : RequestAuthority :=
    if emitEvents ∧ laneFull then a.failFirst .eventBackpressure else a
  match event with
  | .writeCancelled key => a.writeCancelled key
  | .writeProgress key bytes => emit (a.writeProgress key bytes)
  | .writeComplete key => emit (a.writeComplete key)
  | .failed error => emit (a.fail (.ofTransport error))

def report (emitEvents laneFull : Bool) (key : RequestKey) (unreported : ℕ) : RequestAuthority :=
  if 0 < unreported then a.processIo emitEvents laneFull (.writeProgress key unreported) else a

def finishPreparedInbound (emitEvents laneFull : Bool)
    (inbound : PreparedInbound) : RequestAuthority :=
  let a := match inbound.result with
    | some messages => messages.foldl (fun a message => a.routeMessage message.1 message.2) a
    | none => a.fail (.wire "decode-incoming")
  if emitEvents ∧ laneFull then a.failFirst .eventBackpressure else a

/-! ## Control commands -/

def replyAccepted (accepted : Bool) (stage : String) : RequestAuthority :=
  a.deliver (.replied (if accepted then .ok .done else .error (.wire stage)))

def onObjects {α : Type} (a : RequestAuthority) (result : Except ObjectError α)
    (objects : α → ObjectRegistry) (reply : α → ControlReply) : RequestAuthority :=
  match result with
  | .error error => a.deliver (.replied (.error (.object error)))
  | .ok value => { a with objects := objects value }.deliver (.replied (.ok (reply value)))

def replacementToken : ObjectEffect → Except RuntimeError ControlReply
  | .replacementPublished _ replacement => .ok (.object replacement)
  | .revoked _ => .error (.object .stale)

end RequestAuthority

namespace OwnerTask

variable (s : OwnerTask)

def cancel (key : RequestKey) (now : MonotonicTime) : OwnerTask :=
  let removed := s.sendQueue.find? fun command => command.key = key
  let a := s.authority.cancelSome (removed.map WriteCommand.cancelBeforeWrite)
  let a := a.cancelSome (a.frameCancellations.lookup key)
  let committed : Bool := (a.state.request key).any RequestRecord.wireCommitted
  let s := { s with sendQueue := s.sendQueue.eraseP fun command => command.key = key }
  if removed.isSome ∨ committed ∨ a.frameCancellations.lookup key = none then
    { s with authority := a.settle (.cancel key now) }
  else
    let deferred := match a.deferredCancellations.lookup key with
      | some _ => a.deferredCancellations
      | none => a.deferredCancellations.insert key now
    { s with authority := { a with deferredCancellations := deferred } }

def handleControl : ControlCommand → OwnerTask
  | .createObject parent kind => s.onAuthority fun a =>
    a.onObjects (a.objects.createChild parent kind) (·.1) fun made => .object made.2
  | .loseObjectGeneration => s.onAuthority fun a =>
    let (objects, revoked) := a.objects.loseGeneration
    { a with objects }.deliver (.replied (.ok (.revoked revoked.length)))
  | .beginObjectRecovery object => s.onAuthority fun a =>
    a.onObjects (a.objects.beginRecovery object) id fun _ => .done
  | .publishObjectReplacement object => s.onAuthority fun a =>
    let (objects, published) := a.objects.publishReplacementRevokingDescendants object
    { a with objects }.deliver (.replied (match published with
      | .error error => .error (.object error)
      | .ok (effect, _) => RequestAuthority.replacementToken effect))
  | .failObjectRecovery object => s.onAuthority fun a =>
    a.onObjects (a.objects.failRecovery object) (·.1) fun _ => .done
  | .installNotifications => s.onAuthority fun a => { a with notifications := true }
  | .preauthSnapshot accepted => s.onAuthority (·.replyAccepted accepted "preauth-snapshot")
  | .resetPreauthToNegotiate accepted => s.onAuthority (·.replyAccepted accepted "preauth-reset")
  | .awaitOperation key => s.onAuthority (·.awaitOperation key)
  | .negotiated largeMtu accepted => s.onAuthority fun a =>
    { a with
      largeMtu
      state := a.state.setTargetCredits (if largeMtu then a.targetCredits else 1)
      }.replyAccepted accepted "negotiated-policy"
  | .sessionStarted accepted => s.onAuthority (·.replyAccepted accepted "session-started-policy")
  | .sessionEnded accepted => s.onAuthority (·.replyAccepted accepted "session-ended-policy")
  | .cancel key now => s.cancel key now
  | .close deadline =>
    let s := if s.closeRequest.isNone then { s with closeRequest := some deadline }
      else s.onAuthority (·.deliver (.replied (.error .closed)))
    s.publishShutdownReason

/-! ## The write pump -/

def dispatchNext : OwnerTask :=
  match s.activeWrite, s.sendQueue with
  | some _, _ | none, [] => s
  | none, command :: queue =>
    if s.write then
      let a := s.authority.progress command.members .queued
      { s with
        authority := { a with
          frameMembers := a.frameMembers.insert command.key command.members
          frameCancellations := a.frameCancellations.insert command.key command.cancelBeforeWrite }
        sendQueue := queue
        write := false
        activeWrite := some ⟨command, 0, 0, false⟩ }
    else { s with panicked := true }

inductive SendCompletion where
  | sent
  | failed (error : TransportError)
  | panicked
deriving DecidableEq

def stopsWrite (active : ActiveWrite) : Bool :=
  decide (active.command.cancelBeforeWrite ∈ s.authority.cancelled ∧ active.progressed = 0)

/-- The transport takes bytes of the active frame, or says that it has taken all of them. -/
def hand (active : ActiveWrite) (bytes : ℕ) (completion : Option SendCompletion) : OwnerTask :=
  { s with handed :=
      if 0 < bytes ∨ completion = some .sent then active.command.members ++ s.handed
      else s.handed }

/-- The end of a send, after its last progress has been reported. -/
def finishSend (key : RequestKey) (laneFull : Bool) : SendCompletion → OwnerTask
  | .sent => { s with write := true }.onAuthority
    (·.processIo s.config.emitEvents laneFull (.writeComplete key))
  | .failed error => { s with write := true }.onAuthority
    (·.processIo s.config.emitEvents laneFull (.failed error))
  | .panicked => s.onAuthority (·.fail (.transport "pump-panicked"))

/-- One poll of the active write and the report that follows it. -/
def polledWrite (bytes : ℕ) (completion : Option SendCompletion)
    (progressLaneFull laneFull : Bool) : OwnerTask :=
  match s.activeWrite with
  | none => s
  | some active =>
    let key := active.command.key
    let emit := s.config.emitEvents
    if s.stopsWrite active then
      { s with activeWrite := none, write := true }.onAuthority
        (·.processIo emit laneFull (.writeCancelled key))
    else
      let s := s.hand active bytes completion
      let progressed := active.progressed + bytes
      let report (a : RequestAuthority) : RequestAuthority :=
        a.report emit progressLaneFull key (progressed - active.reported)
      match completion with
      | some completion =>
        let s := { s with activeWrite := none }.onAuthority report
        (s.finishSend key laneFull completion).publishIfFatal
      | none =>
        if active.uninterruptible then
          { s with activeWrite := some { active with progressed } }
        else
          let uninterruptible :=
            decide (active.command.cancelBeforeWrite ∈ s.authority.cancelled)
          let active := { active with progressed, reported := progressed, uninterruptible }
          ({ s with activeWrite := some active }.onAuthority report).publishIfFatal

/-! ## The timer -/

def deadlineExpired (now : MonotonicTime) : OwnerTask :=
  let s := s.onAuthority (·.settle (.advanceTime now))
  if s.authority.state.unhealthy then
    (s.onAuthority (·.fail (.transport "generation-unhealthy"))).publishShutdownReason
  else s

/-! ## Teardown -/

structure Lanes where
  admissions : List AdmissionCommand
  compounds : List CompoundAdmission
  operations : List OperationAdmission

end OwnerTask

namespace RequestAuthority

variable (a : RequestAuthority)

variable (error : RuntimeError)

/-- Commands that were never taken, or parked, are told why the generation ends. -/
def failWaiting (lanes : OwnerTask.Lanes)
    (waitingOperation : Option OperationAdmission) (waitingCompound : Option CompoundAdmission) :
    RequestAuthority :=
  let failOperation (a : RequestAuthority) (command : OperationAdmission) : RequestAuthority :=
    a.refuse command.submission error
  let failCompound (a : RequestAuthority) (command : CompoundAdmission) : RequestAuthority :=
    a.deliver (.acknowledgedCompound command.number (.error error))
  let a := lanes.admissions.foldl (fun a command => a.refuseRaw command error) a
  let a := lanes.compounds.foldl failCompound a
  let a := lanes.operations.foldl failOperation a
  let a := waitingOperation.toList.foldl failOperation a
  waitingCompound.toList.foldl failCompound a

/-- Preparations, parked commands and frames are told to stop; `queued` are the tokens of the queued
frames. -/
def cancelAll (lanes : OwnerTask.Lanes)
    (waitingOperation : Option OperationAdmission) (waitingCompound : Option CompoundAdmission)
    (queued : List CancellationToken) : RequestAuthority :=
  let a := { a with
    preparationCancellations := ∅
    cancelled := a.preparationCancellations.values ++ a.cancelled }
  let a := a.failWaiting error lanes waitingOperation waitingCompound
  { a with
    cancelled := queued ++ a.frameCancellations.values ++ a.cancelled
    objects := a.objects.loseGeneration.1 }

/-- Who still waits for a result is told why the generation ends. -/
def drainTerminals : RequestAuthority :=
  let failEntry (a : RequestAuthority) (entry : OperationPending) : RequestAuthority :=
    match entry.terminal with
    | some waiter => a.deliver (.completed waiter (.error error))
    | none => a
  let numbers := a.terminals.values
  let entries := a.operationPending.values
  let a := { a with terminals := ∅, operationPending := ∅ }
  let a := numbers.foldl (fun a number => a.deliver (.completedRaw number (.error error))) a
  entries.foldl failEntry a

end RequestAuthority

namespace OwnerTask

def networkFailure : RuntimeError → Option NetworkFailure
  | .network failure => some failure
  | _ => none

variable (s : OwnerTask)

def teardown (lanes : Lanes) : OwnerTask :=
  let s := s.publishShutdownReason
  let error := s.shutdownReason.getD .closed
  let a := s.authority.cancelAll error lanes s.waitingOperation s.waitingCompound
    (s.sendQueue.map WriteCommand.cancelBeforeWrite)
  let a := a.settle (.disconnect (networkFailure error))
  { s with
    authority := a.drainTerminals error
    sendQueue := []
    waitingOperation := none
    waitingCompound := none
    exited := true }

/-- The active write is polled to its end after the loop; nothing is reported any more. -/
def finishActiveWrite (bytes : ℕ) (completion : Option SendCompletion) : OwnerTask :=
  match s.activeWrite with
  | none => s
  | some active =>
    if s.stopsWrite active then { s with activeWrite := none }
    else
      let s := s.hand active bytes completion
      if completion.isSome then { s with activeWrite := none }
      else { s with activeWrite := some { active with progressed := active.progressed + bytes } }

/-! ## The loop -/

/-- Work that is taken when it is ready: at the top of a turn, or as the event it waits for. -/
inductive Work where
  | received (bytes : ℕ)
  | readFailed (error : TransportError) (laneFull : Bool)
  | readPanicked
  | prepared (key : RequestKey) (result : Option SendFrame)
  | decoded (sequence : ℕ) (result : Option (List (CommandResponse × Bool))) (laneFull : Bool)
  | control (command : ControlCommand)
  | admission (command : AdmissionCommand)
  | operation (command : OperationAdmission) (wire : OutgoingTransform)
  | compound (command : CompoundAdmission) (wire : Option SendFrame)

/-- The arms of the wait that publish the shutdown reason when they have failed. -/
def Work.publishes : Work → Bool
  | .received _ | .readFailed .. | .readPanicked | .decoded .. => true
  | .prepared .. | .control _ | .admission _ | .operation .. | .compound .. => false

/-- A request has been sealed: it and those after it leave in the order they were admitted. -/
def prepared (key : RequestKey) (result : Option SendFrame) : OwnerTask :=
  match s.preparations.find? fun job => job.key = key with
  | none => s
  | some job =>
    let (ready, order) := s.preparationOrder.complete key
      ⟨job.key, result, job.retainRaw, job.acknowledge⟩
    ready.foldl finishPreparedOperation
      { s with
        preparations := s.preparations.eraseP fun job => job.key = key
        preparationOrder := order }

/-- A frame has been decoded; a frame that was not to be decoded has no messages. -/
def decoded (sequence : ℕ) (result : Option (List (CommandResponse × Bool)))
    (laneFull : Bool) : OwnerTask :=
  match s.inboundPreparations.find? fun job => job.sequence = sequence with
  | none => s
  | some job =>
    let (ready, order) := s.inboundOrder.complete sequence
      ⟨job.sequence, job.bytes, if job.decode then result else some []⟩
    let s := { s with
      inboundPreparations := s.inboundPreparations.eraseP fun job => job.sequence = sequence
      inboundOrder := order }
    s.onAuthority fun a =>
      ready.foldl (fun a inbound => a.finishPreparedInbound s.config.emitEvents laneFull inbound) a

def enqueueInbound : OwnerTask :=
  match s.receivedFrames with
  | [] => s
  | bytes :: frames =>
    if s.inboundPreparations.length < max s.config.preparationParallelism 1 then
      let s := { s with receivedFrames := frames }
      match Machine.checkedAdd 64 s.nextInboundSequence 1 with
      | none =>
        (s.onAuthority (·.fail (.wire "inbound-sequence-exhausted"))).publishShutdownReason
      | some next =>
        let decode := s.config.decodeUnsolicited || !s.authority.operationPending.entries.isEmpty
        { s with
          nextInboundSequence := next
          inboundOrder := s.inboundOrder.reserve s.nextInboundSequence
          inboundPreparations := s.inboundPreparations ++ [⟨s.nextInboundSequence, bytes, decode⟩] }
    else s

def work : Work → OwnerTask
  | .received bytes =>
    if s.receivedFrames.length < max s.config.ioCapacity 1 then
      { s with receivedFrames := s.receivedFrames ++ [bytes] }
    else s
  | .readFailed error laneFull =>
    s.onAuthority (·.processIo s.config.emitEvents laneFull (.failed error))
  | .readPanicked => s.onAuthority (·.fail (.transport "pump-panicked"))
  | .prepared key result => s.prepared key result
  | .decoded sequence result laneFull => s.decoded sequence result laneFull
  | .control command => s.handleControl command
  | .admission command => s.processAdmission command
  | .operation command wire =>
    if s.waitingOperation = none ∧ s.waitingCompound = none then
      s.processOperationAdmission command wire
    else s
  | .compound command wire =>
    if s.waitingOperation = none ∧ s.waitingCompound = none ∧ s.preparationOrder.isEmpty then
      s.processCompoundAdmission command wire
    else s

def retryOperation (wire : OutgoingTransform) : OwnerTask :=
  match s.waitingOperation with
  | none => s
  | some command => { s with waitingOperation := none }.processOperationAdmission command wire

def retryCompound (wire : Option SendFrame) : OwnerTask :=
  match s.waitingCompound with
  | none => s
  | some command =>
    if s.preparationOrder.isEmpty then
      { s with waitingCompound := none }.processCompoundAdmission command wire
    else s

inductive OwnerInput where
  | work (work : Work)
  | enqueueInbound
  | retryOperation (wire : OutgoingTransform)
  | retryCompound (wire : Option SendFrame)
  | dispatchNext
  | awaited (work : Work)
  | polledWrite (bytes : ℕ) (completion : Option SendCompletion) (progressLaneFull laneFull : Bool)
  | deadline (now : MonotonicTime)
  | leave (lanes : Lanes)
  | finishWrite (bytes : ℕ) (completion : Option SendCompletion)

/-- An owner that has left its loop only finishes its last write. -/
def step (input : OwnerInput) : OwnerTask :=
  if s.panicked then s
  else if s.exited then
    match input with
    | .finishWrite bytes completion => s.finishActiveWrite bytes completion
    | _ => s
  else match input with
  | .work work => s.work work
  | .enqueueInbound => s.enqueueInbound
  | .retryOperation wire => s.retryOperation wire
  | .retryCompound wire => s.retryCompound wire
  | .dispatchNext => s.dispatchNext
  | .awaited work =>
    if s.leaving then s
    else if work.publishes then (s.work work).publishIfFatal else s.work work
  | .polledWrite bytes completion progressLaneFull laneFull =>
    if s.leaving then s else s.polledWrite bytes completion progressLaneFull laneFull
  | .deadline now => if s.leaving then s else s.deadlineExpired now
  | .leave lanes => s.teardown lanes
  | .finishWrite .. => s

def run (config : RuntimeConfig) (inputs : List OwnerInput) : OwnerTask :=
  inputs.foldl step (start config)

structure Turn where
  reads : List Work := []
  enqueues : ℕ := 0
  prepared : Option (RequestKey × Option SendFrame) := none
  decoded : Option (ℕ × List (CommandResponse × Bool)) := none
  operationWire : OutgoingTransform := .inline none
  compoundWire : Option SendFrame := none
  controls : List ControlCommand := []
  admission : Option AdmissionCommand := none
  operations : List (OperationAdmission × OutgoingTransform) := []
  compound : Option (CompoundAdmission × Option SendFrame) := none
  final : OwnerInput

def Turn.top (t : Turn) : List OwnerInput :=
  t.reads.map .work ++ List.replicate t.enqueues .enqueueInbound ++
  t.prepared.toList.map (fun p => .work (.prepared p.1 p.2)) ++
  t.decoded.toList.map (fun d => .work (.decoded d.1 (some d.2) false)) ++
  [.retryOperation t.operationWire, .retryCompound t.compoundWire] ++
  t.controls.map (fun command => .work (.control command)) ++
  t.admission.toList.map (fun command => .work (.admission command)) ++
  t.operations.map (fun o => .work (.operation o.1 o.2)) ++
  t.compound.toList.map (fun c => .work (.compound c.1 c.2)) ++
  [.dispatchNext]

def Turn.inputs (t : Turn) : List OwnerInput := t.top ++ [t.final]

/-- The top of the loop, then the exit if the owner is leaving, and else the wait. -/
def pass (t : Turn) (lanes : Lanes) : OwnerTask :=
  let s := t.top.foldl step s
  s.step (if s.leaving then .leave lanes else t.final)

end OwnerTask

end Runtime
