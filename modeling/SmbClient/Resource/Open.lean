import SmbClient.Runtime.ObjectState
import SmbClient.Resource.Close

/-!
# Opening a resource (`resource.rs`, `runtime/port.rs`, `runtime/metadata.rs`)

`Resource::create` sends a CREATE and turns the answer into a resource. The open operations differ
in what they ask for, accept, and do before they hand the resource out or close it. What one call
meets is an `OpenWire`.
-/

namespace Resource

open Msg Runtime

abbrev FileId : Type := ℕ

/-! ## CREATE -/

inductive ShareType where
  | disk
  | pipe
  | print
deriving DecidableEq

inductive CreateDisposition where
  | superseded
  | openExisting
  | create
  | openIf
  | overwrite
  | overwriteIf
deriving DecidableEq

inductive OplockLevel where
  | none
  | levelTwo
  | exclusive
  | batch
  | lease
deriving DecidableEq

structure FileAccessMask where
  genericRead : Bool := false
  genericWrite : Bool := false
  delete : Bool := false
  fileReadAttributes : Bool := false
  fileWriteAttributes : Bool := false
  readControl : Bool := false
  writeDacl : Bool := false
deriving DecidableEq

structure CreateOptions where
  directoryFile : Bool := false
  openReparsePoint : Bool := false
deriving DecidableEq

structure DurableOpenRequest where
  timeout : ℕ
  createGuid : ℕ
  persistent : Bool

structure DurableOpenGrant where
  timeout : ℕ
  persistent : Bool
  createGuid : ℕ

structure FileCreateArgs where
  disposition : CreateDisposition := .openExisting
  -- `attributes.directory()`.
  directory : Bool := false
  options : CreateOptions := {}
  desiredAccess : FileAccessMask := {}
  -- The key of a requested lease.
  leaseRequest : Option ℕ := none
  durableRequest : Option DurableOpenRequest := none
  timewarp : Option ℕ := none

namespace FileCreateArgs

def makeOpenExisting (access : FileAccessMask) : FileCreateArgs :=
  { disposition := .openExisting, desiredAccess := access }

def makeCreateNew (directory : Bool) (options : CreateOptions) : FileCreateArgs :=
  { disposition := .create, directory, options
    desiredAccess := { genericRead := true, genericWrite := true, delete := true } }

def makeOverwrite (directory : Bool) (options : CreateOptions) : FileCreateArgs :=
  { disposition := .overwriteIf, directory, options
    desiredAccess := { genericRead := true, genericWrite := true, delete := true } }

def makePipe : FileCreateArgs :=
  { disposition := .openExisting, desiredAccess := { genericRead := true, genericWrite := true } }

def withDurable (args : FileCreateArgs) (request : DurableOpenRequest) : FileCreateArgs :=
  { args with durableRequest := some request }

def withTimewarp (args : FileCreateArgs) (timestamp : ℕ) : FileCreateArgs :=
  { args with timewarp := some timestamp }

end FileCreateArgs

inductive CreateContextRequest where
  | queryMaximalAccess
  | queryOnDiskId
  | timewarp (timestamp : ℕ)
  | lease (key : ℕ)
  | durableHandleV2 (timeout : ℕ) (persistent : Bool) (createGuid : ℕ)
deriving DecidableEq

structure CreateRequest where
  dfsOperation : Bool
  requestedOplockLevel : OplockLevel
  desiredAccess : FileAccessMask
  directory : Bool
  -- Read, write and delete are shared.
  shareAccess : Bool
  disposition : CreateDisposition
  options : CreateOptions
  name : String
  contexts : List CreateContextRequest
deriving DecidableEq

inductive CreateContextResponse where
  -- The status of the query, and the mask.
  | mxac (queryStatus : Status) (maximalAccess : ℕ)
  | qfid (fileId volumeId : ℕ)
  | dh2q (timeout : ℕ) (persistent : Bool)
  | other

structure CreateResponse where
  oplockLevel : OplockLevel
  reparsePoint : Bool
  creationTime : ℕ
  lastAccessTime : ℕ
  lastWriteTime : ℕ
  changeTime : ℕ
  endofFile : ℕ
  directory : Bool
  fileId : FileId
  createContexts : List CreateContextResponse

namespace CreateResponse

variable (response : CreateResponse)

def maximalAccess : Option ℕ :=
  (response.createContexts.findSome? fun
    | .mxac status mask => some (status, mask)
    | _ => none).bind fun (status, mask) => if status = .success then some mask else none

def firstDh2q : Option (ℕ × Bool) :=
  response.createContexts.findSome? fun
    | .dh2q timeout persistent => some (timeout, persistent)
    | _ => none

def firstQfid : Option (ℕ × ℕ) :=
  response.createContexts.findSome? fun
    | .qfid fileId volumeId => some (fileId, volumeId)
    | _ => none

end CreateResponse

/-! ## Resources -/

structure OpenedFacts where
  created : ℕ
  accessed : ℕ
  written : ℕ
  changed : ℕ
  endOfFile : ℕ
  directory : Bool
  reparsePoint : Bool
  onDiskId : Option (ℕ × ℕ)

structure ResourceGeneration where
  fileId : FileId
  object : ObjectToken
  share : ObjectToken

structure ResourceHandle where
  name : String
  generation : ResourceGeneration
  access : ℕ
  durableGranted : Option DurableOpenGrant
  -- The level of the slot that is registered for breaks.
  oplockSlot : Option OplockLevel
  opened : OpenedFacts

structure Opened where
  kind : ResourceKind
  handle : ResourceHandle

structure TreeInfo where
  shareType : ShareType
  dfs : Bool
  encryptData : Bool
  continuousAvailability : Bool

structure ShareView where
  info : Except Error TreeInfo
  treeId : ℕ
  smb3 : Bool
  persistentHandles : Bool

structure CreateReply where
  asyncCommand : Bool
  treeId : Option ℕ
  encrypted : Bool
  -- The response, or the name of the other content it has.
  content : Except String CreateResponse

abbrev SecurityDescriptor : Type := ℕ

structure OpenWire where
  -- `current_share_object()`, before the CREATE and after it.
  before : Except Error ObjectToken
  after : Except Error ObjectToken
  answer : CreateRequest → Except Error CreateReply
  -- `create_resource_object_for`.
  object : Except Error ObjectToken
  -- The reparse attribute in the answer of `query_info::<FileBasicInformation>`.
  basic : Except Error Bool
  querySecurity : Except Error SecurityDescriptor
  setSecurity : Except Error Unit
  -- The result of closing the handle.
  close : Except Error Unit

variable (share : ShareView) (wire : OpenWire)

def validateDurableRequest (request : DurableOpenRequest)
    (smb3 persistentHandles continuousAvailability : Bool) : Except Error Unit :=
  if ¬ smb3 then .error (.unsupportedOperation "Durable-v2 opens require an SMB3 dialect")
  else if request.persistent ∧ (¬ persistentHandles ∨ ¬ continuousAvailability) then
    .error (.unsupportedOperation
      "Persistent opens require negotiated persistent handles and a continuously available share")
  else .ok ()

def requestedOplockLevel (args : FileCreateArgs) : OplockLevel :=
  if args.leaseRequest.isSome then .lease
  else if args.durableRequest.isSome then .batch
  else .none

def createRequest (info : TreeInfo) (name : String) (args : FileCreateArgs) :
    Except Error CreateRequest :=
  if info.shareType = .print ∧ args.disposition ≠ .create then
    .error (.invalidArgument "Printer can only accept CreateDisposition::Create.")
  else if name.startsWith "\\" then
    .error (.invalidArgument "Resource name cannot start with a backslash.")
  else
    let valid := match args.durableRequest with
      | some request => validateDurableRequest request share.smb3 share.persistentHandles
          info.continuousAvailability
      | none => .ok ()
    valid.map fun _ =>
      { dfsOperation := info.dfs
        requestedOplockLevel := requestedOplockLevel args
        desiredAccess := args.desiredAccess
        directory := args.directory
        shareAccess := decide (info.shareType = .disk)
        disposition := args.disposition
        options := args.options
        name
        contexts := [.queryMaximalAccess, .queryOnDiskId] ++ (args.timewarp.map .timewarp).toList ++
          (args.leaseRequest.map .lease).toList ++
          (args.durableRequest.map fun r =>
            .durableHandleV2 r.timeout r.persistent r.createGuid).toList }

def checkTree (info : TreeInfo) (reply : CreateReply) : Except Error Unit :=
  if ¬ reply.asyncCommand ∧ reply.treeId.getD 0 ≠ share.treeId then
    .error (.invalidMessage "Received message for different tree, or tree disconnecting.")
  else if ¬ reply.encrypted ∧ info.encryptData then
    .error (.invalidMessage "Received unencrypted message on encrypted share")
  else .ok ()

def validateCreateParentEpoch (captured current : ObjectToken) : Except Error Unit :=
  if captured = current then .ok () else .error .staleObject

def durableGrant (args : FileCreateArgs) (response : CreateResponse) :
    Except Error (Option DurableOpenGrant) :=
  match args.durableRequest with
  | none => .ok none
  | some request =>
    match response.firstDh2q with
    | none => .error (.unsupportedOperation "Server did not grant the requested durable-v2 open")
    | some (timeout, persistent) =>
      if request.persistent ∧ ¬ persistent then
        .error (.unsupportedOperation "Server did not grant the requested persistent open")
      else .ok (some ⟨timeout, persistent, request.createGuid⟩)

/-- The kind of resource an answer opens. A printer has none. -/
def kindOf (info : TreeInfo) (response : CreateResponse) : Except Error ResourceKind :=
  if response.directory then .ok .directory
  else
    match info.shareType with
    | .disk => .ok .file
    | .pipe => .ok .pipe
    | .print => .error (.unsupportedOperation "Printer resources are not yet implemented")

def handleOf (name : String) (captured : ObjectToken) (response : CreateResponse)
    (durableGranted : Option DurableOpenGrant) (object : ObjectToken) : ResourceHandle where
  name
  generation := ⟨response.fileId, object, captured⟩
  access := response.maximalAccess.getD (2 ^ 32 - 1)
  durableGranted
  oplockSlot := match response.oplockLevel with
    | .levelTwo | .exclusive | .batch => some response.oplockLevel
    | .none | .lease => none
  opened :=
    { created := response.creationTime
      accessed := response.lastAccessTime
      written := response.lastWriteTime
      changed := response.changeTime
      endOfFile := response.endofFile
      directory := response.directory
      reparsePoint := response.reparsePoint
      onDiskId := response.firstQfid }

/-- Each check that fails leaves the opened file id behind. -/
def acceptCreate (info : TreeInfo) (name : String) (args : FileCreateArgs) (captured : ObjectToken)
    (reply : CreateReply) : Except Error Opened := do
  checkTree share info reply
  validateCreateParentEpoch captured (← wire.after)
  let response ← reply.content.mapError fun _ => .smbMessage
  let durableGranted ← durableGrant args response
  let object ← wire.object
  let kind ← kindOf info response
  return ⟨kind, handleOf name captured response durableGranted object⟩

def create (name : String) (args : FileCreateArgs) : Except Error Opened := do
  let info ← share.info
  let request ← createRequest share info name args
  let captured ← wire.before
  let reply ← wire.answer request
  acceptCreate share wire info name args captured reply

/-! ## The open operations of a share -/

structure Ran (α : Type) where
  result : Except Error α
  closes : List FileId

inductive OpenMode where
  | createNew
  | openExisting
  | overwrite

structure FileAccess where
  write : Bool
  delete : Bool
  writeAttributes : Bool

structure DirectoryAccess where
  delete : Bool
  writeAttributes : Bool

def fileCreateArgs : OpenMode → FileAccess → FileCreateArgs
  | .createNew, _ => .makeCreateNew false {}
  | .overwrite, _ => .makeOverwrite false {}
  | .openExisting, access =>
    .makeOpenExisting { genericRead := true, genericWrite := access.write, delete := access.delete
                        fileWriteAttributes := access.writeAttributes }

def directoryCreateArgs (create : Bool) (access : DirectoryAccess) : FileCreateArgs :=
  if create then .makeCreateNew true { directoryFile := true }
  else
    { FileCreateArgs.makeOpenExisting { genericRead := true, delete := access.delete
                                        fileWriteAttributes := access.writeAttributes } with
      options := { directoryFile := true } }

variable (path : String)

def openAny (args : FileCreateArgs) : Ran Opened := ⟨create share wire path args, []⟩

/-- An open that accepts one kind of resource: another one is dropped. -/
def openKind (kind : ResourceKind) (why : String) (path : String) (args : FileCreateArgs) :
    Ran Opened :=
  ⟨create share wire path args >>= fun resource =>
    if resource.kind = kind then .ok resource else .error (.invalidState why), []⟩

def openResource : Ran Opened :=
  openAny share wire path (.makeOpenExisting { genericRead := true })

def openSecurityResource (readControl writeDacl : Bool) : Ran Opened :=
  openAny share wire path (.makeOpenExisting { readControl, writeDacl })

def metadataArgs (writeAttributes : Bool) : FileCreateArgs :=
  { FileCreateArgs.makeOpenExisting
      { fileReadAttributes := true, fileWriteAttributes := writeAttributes } with
    options := { openReparsePoint := true } }

def rejectReparse : Except Error Unit :=
  wire.basic >>= fun reparsePoint =>
    if reparsePoint then
      .error (.unsupportedOperation "metadata open does not support reparse points")
    else .ok ()

def openMetadataResource (writeAttributes : Bool) : Ran Opened :=
  match create share wire path (metadataArgs writeAttributes) with
  | .error error => ⟨.error error, []⟩
  | .ok resource =>
    match rejectReparse wire with
    | .error error => ⟨.error error, [resource.handle.generation.fileId]⟩
    | .ok _ => ⟨.ok resource, []⟩

def fileArgs (mode : OpenMode) (access : FileAccess) (persistentTimeoutMillis : Option ℕ)
    (guid : ℕ) :
    FileCreateArgs :=
  match persistentTimeoutMillis with
  | some timeout => (fileCreateArgs mode access).withDurable ⟨timeout, guid, true⟩
  | none => fileCreateArgs mode access

def openFile (mode : OpenMode) (access : FileAccess)
    (persistentTimeoutMillis : Option ℕ) (guid : ℕ) : Ran Opened :=
  openKind share wire .file "server returned a non-file resource" path
    (fileArgs mode access persistentTimeoutMillis guid)

def openFileAtVersion (timestamp : ℕ) : Ran Opened :=
  openKind share wire .file "server returned a non-file Previous Version" path
    ((FileCreateArgs.makeOpenExisting { genericRead := true }).withTimewarp timestamp)

def openDirectory (create : Bool) (access : DirectoryAccess) : Ran Opened :=
  openKind share wire .directory "server returned a non-directory resource" path
    (directoryCreateArgs create access)

def openPipe (name : String) : Ran Opened :=
  openKind share wire .pipe "server returned a non-pipe resource" name .makePipe

/-- The resource of a `SecurityResourceGuard` is used and then closed, by the cleanup task. -/
def guarded {α : Type} (opened : Ran Opened) (use : Except Error α) : Ran α :=
  match opened.result with
  | .error error => ⟨.error error, opened.closes⟩
  | .ok resource =>
    ⟨use >>= fun value => wire.close.map fun _ => value,
      opened.closes ++ [resource.handle.generation.fileId]⟩

def queryPathSecurity : Ran SecurityDescriptor :=
  guarded wire (openSecurityResource share wire path true false) wire.querySecurity

def setPathSecurity (dacl : Bool) : Ran Unit :=
  guarded wire (openSecurityResource share wire path false dacl) wire.setSecurity

/-! ## Any of them -/

inductive OpenCall where
  | openResource (path : String)
  | openMetadataResource (path : String) (writeAttributes : Bool)
  | openSecurityResource (path : String) (readControl writeDacl : Bool)
  | openFile (path : String) (mode : OpenMode) (access : FileAccess)
      (persistentTimeoutMillis : Option ℕ) (guid : ℕ)
  | openFileAtVersion (path : String) (timestamp : ℕ)
  | openDirectory (path : String) (create : Bool) (access : DirectoryAccess)
  | openPipe (name : String)
  | queryPathSecurity (path : String)
  | setPathSecurity (path : String) (dacl : Bool)

structure Custody where
  owned : Option FileId
  closes : List FileId
deriving DecidableEq

def Ran.handsOut (ran : Ran Opened) : Custody :=
  ⟨ran.result.toOption.map (·.handle.generation.fileId), ran.closes⟩

def Ran.keepsNone {α : Type} (ran : Ran α) : Custody := ⟨none, ran.closes⟩

namespace OpenCall

def perform : OpenCall → Custody
  | .openResource path => (Resource.openResource share wire path).handsOut
  | .openMetadataResource path writeAttributes =>
    (Resource.openMetadataResource share wire path writeAttributes).handsOut
  | .openSecurityResource path readControl writeDacl =>
    (Resource.openSecurityResource share wire path readControl writeDacl).handsOut
  | .openFile path mode access persistentTimeoutMillis guid =>
    (Resource.openFile share wire path mode access persistentTimeoutMillis guid).handsOut
  | .openFileAtVersion path timestamp =>
    (Resource.openFileAtVersion share wire path timestamp).handsOut
  | .openDirectory path create access =>
    (Resource.openDirectory share wire path create access).handsOut
  | .openPipe name => (Resource.openPipe share wire name).handsOut
  | .queryPathSecurity path => (Resource.queryPathSecurity share wire path).keepsNone
  | .setPathSecurity path dacl => (Resource.setPathSecurity share wire path dacl).keepsNone

def target : OpenCall → String × FileCreateArgs
  | .openResource path => (path, .makeOpenExisting { genericRead := true })
  | .openMetadataResource path writeAttributes => (path, metadataArgs writeAttributes)
  | .openSecurityResource path readControl writeDacl =>
    (path, .makeOpenExisting { readControl, writeDacl })
  | .openFile path mode access persistentTimeoutMillis guid =>
    (path, fileArgs mode access persistentTimeoutMillis guid)
  | .openFileAtVersion path timestamp =>
    (path, (FileCreateArgs.makeOpenExisting { genericRead := true }).withTimewarp timestamp)
  | .openDirectory path create access => (path, directoryCreateArgs create access)
  | .openPipe name => (name, .makePipe)
  | .queryPathSecurity path => (path, .makeOpenExisting { readControl := true, writeDacl := false })
  | .setPathSecurity path dacl =>
    (path, .makeOpenExisting { readControl := false, writeDacl := dacl })

def accepts : OpenCall → Option ResourceKind
  | .openFile .. | .openFileAtVersion .. => some .file
  | .openDirectory .. => some .directory
  | .openPipe .. => some .pipe
  | _ => none

end OpenCall

end Resource
