import SmbClient.Lib.Octets
import SmbClient.Resource.Open

/-!
# What becomes of an opened file id

`create_eq_ok` says for which answers a file id becomes a resource, `perform_of_ok` what each
operation does with it.
-/

namespace Resource

open Runtime

def IsKind (info : TreeInfo) (response : CreateResponse) : ResourceKind → Prop
  | .directory => response.directory = true
  | .file => response.directory = false ∧ info.shareType = .disk
  | .pipe => response.directory = false ∧ info.shareType = .pipe

def Grants (args : FileCreateArgs) (response : CreateResponse) : Prop :=
  ∀ request, args.durableRequest = some request →
    ∃ timeout persistent, response.firstDh2q = some (timeout, persistent) ∧
      (request.persistent = true → persistent = true)

def OnTree (share : ShareView) (info : TreeInfo) (reply : CreateReply) : Prop :=
  (reply.asyncCommand = true ∨ reply.treeId.getD 0 = share.treeId) ∧
    (reply.encrypted = true ∨ info.encryptData = false)

variable {share : ShareView} {wire : OpenWire} {info : TreeInfo} {name : String}
  {args : FileCreateArgs} {request : CreateRequest} {captured : ObjectToken} {reply : CreateReply}
  {response : CreateResponse}

theorem checkTree_eq_ok : checkTree share info reply = .ok () ↔ OnTree share info reply := by
  unfold checkTree OnTree
  cases reply.asyncCommand <;> cases reply.encrypted <;> cases info.encryptData <;>
    by_cases h : reply.treeId.getD 0 = share.treeId <;> simp [h]

theorem durableGrant_eq_ok : (∃ grant, durableGrant args response = .ok grant) ↔
    Grants args response := by
  unfold durableGrant Grants
  cases hdurable : args.durableRequest with
  | none => simp
  | some durable =>
    cases hgrant : response.firstDh2q with
    | none => simp
    | some granted =>
      obtain ⟨timeout, persistent⟩ := granted
      cases hasked : durable.persistent <;> cases persistent <;> simp [hasked]

theorem kindOf_eq_ok {kind : ResourceKind} :
    kindOf info response = .ok kind ↔ IsKind info response kind := by
  unfold kindOf
  cases hdirectory : response.directory <;> cases htype : info.shareType <;> cases kind <;>
    simp [IsKind, hdirectory, htype]

structure Admits (share : ShareView) (wire : OpenWire) (info : TreeInfo) (args : FileCreateArgs)
    (reply : CreateReply) (response : CreateResponse) (kind : ResourceKind) : Prop where
  onTree : OnTree share info reply
  grants : Grants args response
  registered : ∃ object, wire.object = .ok object
  kind : IsKind info response kind

structure Answered (share : ShareView) (wire : OpenWire) (name : String) (args : FileCreateArgs)
    (info : TreeInfo) (captured : ObjectToken) (reply : CreateReply) (response : CreateResponse) :
    Prop where
  connected : share.info = .ok info
  before : wire.before = .ok captured
  after : wire.after = .ok captured
  answer : ∃ request, createRequest share info name args = .ok request ∧
    wire.answer request = .ok reply
  content : reply.content = .ok response

section
variable (h : Answered share wire name args info captured reply response)
include h

theorem Answered.create : create share wire name args = do
    checkTree share info reply
    let durableGranted ← durableGrant args response
    let object ← wire.object
    let kind ← kindOf info response
    return ⟨kind, handleOf name captured response durableGranted object⟩ := by
  obtain ⟨request, hrequest, hanswer⟩ := h.answer
  have hepoch : validateCreateParentEpoch captured captured = .ok () := if_pos rfl
  simp only [Resource.create, acceptCreate, h.connected, hrequest, h.before, hanswer,
    h.after, h.content, hepoch, bind, Except.bind, Except.mapError]

theorem Answered.of_create {opened : Opened}
    (hopened : Resource.create share wire name args = .ok opened) :
    Admits share wire info args reply response opened.kind ∧
      opened.handle.generation.fileId = response.fileId := by
  rw [h.create] at hopened
  obtain ⟨_, htree, hopened⟩ := Except.bind_eq_ok.mp hopened
  obtain ⟨grant, hgrant, hopened⟩ := Except.bind_eq_ok.mp hopened
  obtain ⟨object, hobject, hopened⟩ := Except.bind_eq_ok.mp hopened
  obtain ⟨kind, hkind, hopened⟩ := Except.bind_eq_ok.mp hopened
  cases hopened
  exact ⟨⟨checkTree_eq_ok.mp htree, durableGrant_eq_ok.mp ⟨grant, hgrant⟩, ⟨object, hobject⟩,
    kindOf_eq_ok.mp hkind⟩, rfl⟩

theorem Answered.create_of_admits {kind : ResourceKind}
    (hadmits : Admits share wire info args reply response kind) :
    ∃ opened, Resource.create share wire name args = .ok opened ∧ opened.kind = kind ∧
      opened.handle.generation.fileId = response.fileId := by
  obtain ⟨htree, hgrants, ⟨object, hobject⟩, hkind⟩ := hadmits
  obtain ⟨grant, hgrant⟩ := durableGrant_eq_ok.mpr hgrants
  rw [h.create, checkTree_eq_ok.mpr htree, hobject, hgrant, kindOf_eq_ok.mpr hkind]
  exact ⟨_, rfl, rfl, rfl⟩

end

/-! ## The operations -/

/-- The file id is in one place: with the caller, or in one CLOSE. -/
def Custody.Accounts (custody : Custody) (fileId : FileId) : Prop :=
  custody = ⟨some fileId, []⟩ ∨ custody = ⟨none, [fileId]⟩

variable (fileId : FileId)

theorem Custody.accounts_owned : Accounts ⟨some fileId, []⟩ fileId := .inl rfl

theorem Custody.accounts_closed : Accounts ⟨none, [fileId]⟩ fileId := .inr rfl

theorem Custody.not_accounts_none : ¬ Accounts ⟨none, []⟩ fileId := by
  rintro (h | h) <;> cases h

section
variable {path : String} {opened : Opened} (h : create share wire path args = .ok opened)
include h

theorem openAny_handsOut :
    (openAny share wire path args).handsOut = ⟨some opened.handle.generation.fileId, []⟩ := by
  simp [openAny, Ran.handsOut, h, Except.toOption]

theorem openKind_accounts (kind : ResourceKind) (why : String) :
    (openKind share wire kind why path args).handsOut.Accounts opened.handle.generation.fileId ↔
      kind = opened.kind := by
  by_cases hkind : opened.kind = kind
  · have : (openKind share wire kind why path args).handsOut =
        ⟨some opened.handle.generation.fileId, []⟩ := by
      simp [openKind, Ran.handsOut, h, bind, Except.bind, hkind, Except.toOption]
    rw [this]
    simp [Custody.accounts_owned, hkind]
  · have : (openKind share wire kind why path args).handsOut = ⟨none, []⟩ := by
      simp [openKind, Ran.handsOut, h, bind, Except.bind, hkind, Except.toOption]
    rw [this]
    simp [Custody.not_accounts_none, Ne.symm hkind]

theorem guarded_keepsNone {α : Type} (use : Except Error α) :
    (guarded wire (openAny share wire path args) use).keepsNone =
      ⟨none, [opened.handle.generation.fileId]⟩ := by
  simp [guarded, openAny, Ran.keepsNone, h]

end

theorem openMetadataResource_accounts {path : String} {opened : Opened} {writeAttributes : Bool}
    (h : create share wire path (metadataArgs writeAttributes) = .ok opened) :
    (openMetadataResource share wire path writeAttributes).handsOut.Accounts
      opened.handle.generation.fileId := by
  cases hreparse : rejectReparse wire with
  | error error =>
    have : (openMetadataResource share wire path writeAttributes).handsOut =
        ⟨none, [opened.handle.generation.fileId]⟩ := by
      simp [openMetadataResource, Ran.handsOut, h, hreparse, Except.toOption]
    rw [this]
    exact Custody.accounts_closed _
  | ok _ =>
    have : (openMetadataResource share wire path writeAttributes).handsOut =
        ⟨some opened.handle.generation.fileId, []⟩ := by
      simp [openMetadataResource, Ran.handsOut, h, hreparse, Except.toOption]
    rw [this]
    exact Custody.accounts_owned _

namespace OpenCall

theorem perform_of_error (call : OpenCall) {error : Error}
    (h : create share wire call.target.1 call.target.2 = .error error) :
    call.perform share wire = ⟨none, []⟩ := by
  cases call <;>
    simp only [target] at h <;>
    simp [perform, Resource.openResource, Resource.openMetadataResource,
      Resource.openSecurityResource, Resource.openFile, Resource.openFileAtVersion,
      Resource.openDirectory, Resource.openPipe, Resource.queryPathSecurity,
      Resource.setPathSecurity, openAny, openKind, guarded, Ran.handsOut, Ran.keepsNone, h, bind,
      Except.bind, Except.toOption]

/-- An opened handle is accounted for exactly if the call accepts its kind. -/
theorem perform_of_ok (call : OpenCall) {opened : Opened}
    (h : create share wire call.target.1 call.target.2 = .ok opened) :
    (call.perform share wire).Accounts opened.handle.generation.fileId ↔
      ∀ kind, call.accepts = some kind → kind = opened.kind := by
  cases call with
  | openResource | openSecurityResource =>
    simp only [accepts, reduceCtorEq, false_implies, implies_true, iff_true]
    exact .inl (openAny_handsOut h)
  | openMetadataResource =>
    simp only [accepts, reduceCtorEq, false_implies, implies_true, iff_true]
    exact openMetadataResource_accounts h
  | queryPathSecurity | setPathSecurity =>
    simp only [accepts, reduceCtorEq, false_implies, implies_true, iff_true]
    exact .inr (guarded_keepsNone h _)
  | openFile | openFileAtVersion | openDirectory | openPipe =>
    simp only [accepts, Option.some.injEq, forall_eq']
    exact openKind_accounts h _ _

/-- While session and tree stay current, a file id is handed to the caller or closed once, exactly
when the answer was accepted and the kind is one the call takes; otherwise it is dropped without a
CLOSE. -/
theorem opened_accounted_iff (share : ShareView) (wire : OpenWire) (call : OpenCall)
    (info : TreeInfo) (captured : ObjectToken) (reply : CreateReply) (response : CreateResponse)
    (h : Answered share wire call.target.1 call.target.2 info captured reply response) :
    (call.perform share wire).Accounts response.fileId ↔
      OnTree share info reply ∧ Grants call.target.2 response ∧
        (∃ object, wire.object = .ok object) ∧
        ∃ kind, IsKind info response kind ∧
          ∀ expected, call.accepts = some expected → expected = kind := by
  constructor
  · intro haccounts
    cases hresult : create share wire call.target.1 call.target.2 with
    | error error =>
      rw [call.perform_of_error hresult] at haccounts
      exact absurd haccounts (Custody.not_accounts_none _)
    | ok opened =>
      obtain ⟨⟨htree, hgrants, hobject, hkind⟩, hfile⟩ := h.of_create hresult
      rw [← hfile] at haccounts
      exact ⟨htree, hgrants, hobject, opened.kind, hkind, (call.perform_of_ok hresult).mp haccounts⟩
  · rintro ⟨htree, hgrants, hobject, kind, hkind, haccepts⟩
    obtain ⟨opened, hopened, rfl, hfile⟩ := h.create_of_admits ⟨htree, hgrants, hobject, hkind⟩
    rw [← hfile]
    exact (call.perform_of_ok hopened).mpr haccepts

def diskShare : ShareView := ⟨.ok ⟨.disk, false, false, false⟩, 5, true, false⟩

def answering (directory : Bool) : OpenWire where
  before := .ok ⟨⟨1⟩, 3, 0⟩
  after := .ok ⟨⟨1⟩, 3, 0⟩
  answer _ := .ok ⟨false, some 5, false, .ok ⟨.none, false, 0, 0, 0, 0, 0, directory, 9, []⟩⟩
  object := .ok ⟨⟨1⟩, 4, 0⟩
  basic := .ok false
  querySecurity := .ok 0
  setSecurity := .ok ()
  close := .ok ()

theorem opened_accounted_file :
    ((openFile "a" .openExisting ⟨false, false, false⟩ none 0).perform diskShare
      (answering false)).Accounts 9 := by
  have hrequest : createRequest diskShare ⟨.disk, false, false, false⟩ "a"
      (fileArgs .openExisting ⟨false, false, false⟩ none 0) =
      .ok ⟨false, .none, { genericRead := true }, false, true, .openExisting, {}, "a",
        [.queryMaximalAccess, .queryOnDiskId]⟩ := by
    decide +kernel
  refine (opened_accounted_iff diskShare (answering false)
    (.openFile "a" .openExisting ⟨false, false, false⟩ none 0) ⟨.disk, false, false, false⟩ ⟨⟨1⟩, 3, 0⟩
    ⟨false, some 5, false, .ok ⟨.none, false, 0, 0, 0, 0, 0, false, 9, []⟩⟩
    ⟨.none, false, 0, 0, 0, 0, 0, false, 9, []⟩ ⟨rfl, rfl, rfl, ⟨_, hrequest, rfl⟩, rfl⟩).mpr
    ⟨⟨.inr rfl, .inr rfl⟩, fun request h => ?_, ⟨_, rfl⟩, .file, ⟨rfl, rfl⟩, fun expected h => ?_⟩
  · cases h
  · cases h
    rfl

/-- `open_file` on a directory: the call fails, and the directory stays open on the server. -/
theorem openFile_of_directory_leaks :
    (openFile "a" .openExisting ⟨false, false, false⟩ none 0).perform diskShare (answering true) =
      ⟨none, []⟩ := by
  decide +kernel

end OpenCall

end Resource
