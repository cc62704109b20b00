import SmbClient.Connection.Negotiate
import SmbClient.Session.Proof.Incoming

/-!
# What is negotiated was offered

The cipher and the compression capabilities are not compared with the offer; all else is.
-/

namespace Session

open NegotiateContext NegotiateRequest
open Msg (CompressionAlgorithm)

/-! ## Offers and answers -/

namespace NegotiateRequest

variable (request : NegotiateRequest)

def contexts : List NegotiateContext := request.negotiateContextList.getD []

def offeredHashes : List HashAlgorithm := (hashes request.contexts).flatten

def offeredCiphers : List EncryptionCipher := (ciphers request.contexts).flatten

def offeredSignings : List SigningAlgorithmId := (signings request.contexts).flatten

def offeredCompressions : List CompressionAlgorithm :=
  (compressions request.contexts).flatMap (·.compressionAlgorithms)

def offeredFlags : UInt32 := ((compressions request.contexts).head?.map (·.flags)).getD 0

end NegotiateRequest

def NegotiateResponse.contexts (response : NegotiateResponse) : List NegotiateContext :=
  response.negotiateContextList.getD []

/-- Everything that was selected is within the offer. -/
structure Offered (request : NegotiateRequest) (response : NegotiateResponse)
    (negotiated : Negotiated) : Prop where
  dialect : negotiated.dialectRev ∈ request.dialects
  hash : negotiated.dialectRev = .smb0311 →
    ∃ hash, (hashes response.contexts).flatten = [hash] ∧ hash ∈ request.offeredHashes
  signing : ∀ algo, negotiated.selection.signingAlgo = some algo →
    (signings response.contexts).flatten = [algo] ∧ algo ∈ request.offeredSignings
  cipher : ∀ cipher, negotiated.selection.encryptionCipher = some cipher →
    (ciphers response.contexts).flatten = [cipher] ∧ cipher ∈ request.offeredCiphers
  compression : ∀ capabilities, negotiated.selection.compression = some capabilities →
    (∀ algorithm ∈ capabilities.compressionAlgorithms, algorithm ∈ request.offeredCompressions) ∧
      ~~~ request.offeredFlags &&& capabilities.flags = 0
  caps : ~~~ negotiated.dialectRev.negotiateCapsMask.toBits &&& negotiated.caps = 0

/-! ## The offer -/

section
variable {features : BuildFeatures} {config : NegotiationConfig} {clientGuid : ℕ} {salt : Octets}

theorem mem_dialects {dialect : Dialect} :
    dialect ∈ config.dialects ↔
      config.lowest.code ≤ dialect.code ∧ dialect.code ≤ config.highest.code := by
  simp [NegotiationConfig.dialects, Dialect.mem_all]

variable (h : Dialect.smb0311 ∈ config.dialects)
include h

theorem contexts_offered : (negotiateRequest features config clientGuid salt).contexts =
    appendOptionalNegotiateContexts [.preauthIntegrityCapabilities [.sha512] salt,
        .netnameNegotiateContextId (config.clientName.getD "smb-client")]
      (config.encryptionAlgos features) features.compressionAlgos features.signingAlgos := by
  simp [contexts, negotiateRequest, makeSmb2NegRequest, h]

theorem hashes_offered :
    (negotiateRequest features config clientGuid salt).offeredHashes = [.sha512] := by
  unfold offeredHashes
  rw [contexts_offered h]
  unfold appendOptionalNegotiateContexts
  (repeat' split) <;> rfl

theorem ciphers_offered :
    (negotiateRequest features config clientGuid salt).offeredCiphers = config.encryptionAlgos
    features := by
  unfold offeredCiphers
  rw [contexts_offered h]
  unfold appendOptionalNegotiateContexts
  (repeat' split) <;> simp_all [ciphers]

theorem signings_offered :
    (negotiateRequest features config clientGuid salt).offeredSignings = features.signingAlgos := by
  unfold offeredSignings
  rw [contexts_offered h]
  unfold appendOptionalNegotiateContexts
  (repeat' split) <;> simp_all [signings]

theorem compressions_offered :
    (negotiateRequest features config clientGuid salt).offeredCompressions =
    features.compressionAlgos := by
  unfold offeredCompressions
  rw [contexts_offered h]
  unfold appendOptionalNegotiateContexts
  (repeat' split) <;> simp_all [compressions]

theorem flags_offered : (negotiateRequest features config clientGuid salt).offeredFlags =
    if features.compressionAlgos = [] then 0 else CompressionCapabilities.chained := by
  unfold offeredFlags
  rw [contexts_offered h]
  unfold appendOptionalNegotiateContexts
  (repeat' split) <;> simp_all [compressions]

end

/-! ## The answer -/

section
variable {features : BuildFeatures} {config : NegotiationConfig} {mode : EncryptionMode}
  {contexts : List NegotiateContext} {selection : Selection} {response : NegotiateResponse}
  {negotiated : Negotiated}

theorem selectSigning_ok {algorithms : Option (List SigningAlgorithmId)}
    {selected : Option SigningAlgorithmId} (h : selectSigning features algorithms = .ok selected) :
    ∀ algo, selected = some algo → algorithms = some [algo] ∧ algo ∈ features.signingAlgos := by
  rintro algo rfl
  unfold selectSigning at h
  split at h
  · cases h
  · split at h
    · rename_i hmem
      cases h
      exact ⟨rfl, hmem⟩
    · cases h
  · cases h

theorem checkHash_ok {algorithms : List HashAlgorithm} (h : checkHash algorithms = .ok ()) :
    ∃ hash, algorithms = [hash] := by
  unfold checkHash at h
  split at h
  · exact ⟨_, rfl⟩
  · cases h

theorem selectCipher_ok {first selected : Option EncryptionCipher}
    (h : selectCipher features mode first = .ok selected) :
    selected = first ∧ ∀ cipher, first = some cipher → cipher ∈ features.encryptingAlgos := by
  unfold selectCipher at h
  split at h
  · split at h
    · rename_i hmem
      cases h
      exact ⟨rfl, fun cipher hcipher => by cases hcipher; exact hmem⟩
    · cases h
  · split at h
    · cases h
    · cases h
      exact ⟨rfl, fun cipher hcipher => by cases hcipher⟩

theorem eq_singleton_of_head? {α : Type} {l : List α} {a : α} (hlength : l.length ≤ 1)
    (hhead : l.head? = some a) : l = [a] := by
  cases l with
  | nil => cases hhead
  | cons b rest =>
    cases hhead
    have hrest : rest.length = 0 := by
      rw [List.length_cons] at hlength
      omega
    rw [List.length_eq_zero_iff.mp hrest]

theorem eq_of_flatten_eq_singleton {α : Type} {l : List (List α)} {a b : α}
    (hfirst : l.head?.bind List.head? = some a) (hflatten : l.flatten = [b]) : a = b := by
  obtain ⟨x, hx, ha⟩ := Option.bind_eq_some_iff.mp hfirst
  obtain ⟨xs, rfl⟩ := List.head?_eq_some_iff.mp hx
  obtain ⟨rest, rfl⟩ := List.head?_eq_some_iff.mp ha
  exact (List.cons.inj hflatten).1

/-- What is selected: the one hash, and algorithms the build has. -/
theorem processSmb311_ok (h : processSmb311 features mode contexts = .ok selection) :
    (∃ hash, hashes contexts = [[hash]]) ∧
      (∀ algo, selection.signingAlgo = some algo →
        signings contexts = [[algo]] ∧ algo ∈ features.signingAlgos) ∧
      selection.encryptionCipher = (ciphers contexts).head?.bind List.head? ∧
      (∀ cipher, selection.encryptionCipher = some cipher → cipher ∈ features.encryptingAlgos) ∧
      selection.compression = (compressions contexts).head? := by
  unfold processSmb311 at h
  split at h
  · rename_i hashAlgorithms hhashes
    split at h
    · cases h
    rename_i hsingle
    obtain ⟨signingAlgo, hsigning, h⟩ := Except.bind_eq_ok.mp h
    obtain ⟨_, hhash, h⟩ := Except.bind_eq_ok.mp h
    obtain ⟨cipher, hcipher, h⟩ := Except.bind_eq_ok.mp h
    cases h
    obtain ⟨hash, rfl⟩ := checkHash_ok hhash
    obtain ⟨rfl, hoffered⟩ := selectCipher_ok hcipher
    refine ⟨⟨hash, hhashes⟩, fun algo halgo => ?_, rfl, hoffered, rfl⟩
    obtain ⟨hhead, hmem⟩ := selectSigning_ok hsigning algo halgo
    exact ⟨eq_singleton_of_head? (Nat.le_of_not_lt hsingle) hhead, hmem⟩
  · cases h

theorem processNegotiateRequest_ok {dialect : Dialect}
    (h : processNegotiateRequest features mode dialect response = .ok selection) :
    dialect = .smb0311 ∧ processSmb311 features mode response.contexts = .ok selection ∨
      dialect ≠ .smb0311 ∧ selection = ⟨none, none, none⟩ := by
  unfold processNegotiateRequest at h
  split at h
  · cases h
  · rename_i hcontexts
    refine .inl ⟨rfl, ?_⟩
    rw [NegotiateResponse.contexts, hcontexts]
    exact h
  · cases h
  all_goals
    refine .inr ⟨by simp, ?_⟩
    first
      | (split at h <;> cases h; rfl)
      | (cases h; rfl)

/-- A response is accepted with an offered dialect and the capabilities of its mask. -/
theorem acceptResponse_ok (h : acceptResponse features config response = .ok negotiated) :
    response.dialectRevision = .revision negotiated.dialectRev ∧
    negotiated.dialectRev ∈ config.dialects ∧
      processNegotiateRequest features config.encryptionMode negotiated.dialectRev response =
        .ok negotiated.selection ∧
      ~~~ negotiated.dialectRev.negotiateCapsMask.toBits &&& negotiated.caps = 0 := by
  obtain ⟨dialect, hdialect, h⟩ := Except.bind_eq_ok.mp h
  split at h
  · cases h
  obtain ⟨selection, hselection, h⟩ := Except.bind_eq_ok.mp h
  split at h
  · cases h
  rename_i hcaps
  have hmem : dialect ∈ config.dialects := mem_dialects.mpr (by omega)
  cases h
  refine ⟨?_, hmem, hselection, by simpa using hcaps⟩
  unfold NegotiateDialect.tryInto at hdialect
  split at hdialect
  · rename_i hrevision
    cases hdialect
    exact hrevision
  · cases hdialect

structure Selects (features : BuildFeatures) (config : NegotiationConfig)
    (response : NegotiateResponse) : Prop where
  cipher : (ciphers response.contexts).head?.bind List.head? = none ∨
    config.encryptionMode ≠ .disabled ∧ ∃ cipher, (ciphers response.contexts).flatten = [cipher]
  compression : ∀ capabilities, (compressions response.contexts).head? = some capabilities →
    (∀ algorithm ∈ capabilities.compressionAlgorithms, algorithm ∈ features.compressionAlgos) ∧
      ~~~ (if features.compressionAlgos = [] then 0 else CompressionCapabilities.chained) &&&
        capabilities.flags = 0

variable {clientGuid : ℕ} {salt : Octets}

section

variable (h : acceptResponse features config response = .ok negotiated)
include h

theorem offered_of_selects
    (hselects : response.dialectRevision = .revision .smb0311 → Selects features config response) :
    Offered (negotiateRequest features config clientGuid salt) response negotiated := by
  obtain ⟨hrevision, hmem, hprocess, hcaps⟩ := acceptResponse_ok h
  rcases processNegotiateRequest_ok hprocess with ⟨hdialect, h311⟩ | ⟨hdialect, hnone⟩
  · obtain ⟨⟨hash, hhash⟩, hsigning, hcipher, hbuilt, hcompression⟩ := processSmb311_ok h311
    rw [hdialect] at hrevision hmem
    have hselected := hselects hrevision
    refine ⟨hdialect ▸ hmem, fun _ => ⟨hash, ?_, ?_⟩, fun algo halgo => ?_, fun cipher hc => ?_,
      fun capabilities hc => ?_, hcaps⟩
    · rw [hhash]
      rfl
    · rw [hashes_offered hmem]
      exact List.mem_singleton_self _
    · obtain ⟨hone, hoffered⟩ := hsigning algo halgo
      rw [signings_offered hmem, hone]
      exact ⟨rfl, hoffered⟩
    · have hfirst := hc
      rw [hcipher] at hfirst
      rcases hselected.cipher with hempty | ⟨hmode, single, hsingle⟩
      · rw [hempty] at hfirst
        cases hfirst
      · cases eq_of_flatten_eq_singleton hfirst hsingle
        rw [ciphers_offered hmem, NegotiationConfig.encryptionAlgos, if_neg hmode]
        exact ⟨hsingle, hbuilt cipher hc⟩
    · rw [compressions_offered hmem, flags_offered hmem]
      exact hselected.compression capabilities (hcompression ▸ hc)
  · refine ⟨hmem, fun h => absurd h hdialect, ?_, ?_, ?_, hcaps⟩
    all_goals
      rw [hnone]
      intro _ hsome
      cases hsome

theorem selects_of_offered
    (hoffered : Offered (negotiateRequest features config clientGuid salt) response negotiated)
    (h311 : response.dialectRevision = .revision .smb0311) : Selects features config response := by
  obtain ⟨hrevision, hmem, hprocess, -⟩ := acceptResponse_ok h
  have hdialect : negotiated.dialectRev = .smb0311 := by
    rw [h311] at hrevision
    exact (NegotiateDialect.revision.inj hrevision).symm
  rw [hdialect] at hmem
  rcases processNegotiateRequest_ok hprocess with ⟨-, hsmb311⟩ | ⟨hother, -⟩
  · obtain ⟨-, -, hcipher, -, hcompression⟩ := processSmb311_ok hsmb311
    constructor
    · cases hfirst : (ciphers response.contexts).head?.bind List.head? with
      | none => exact .inl rfl
      | some cipher =>
        obtain ⟨hsingle, hmember⟩ := hoffered.cipher cipher (hcipher.trans hfirst)
        refine .inr ⟨fun hdisabled => ?_, cipher, hsingle⟩
        rw [ciphers_offered hmem, NegotiationConfig.encryptionAlgos, if_pos hdisabled] at hmember
        cases hmember
    · intro capabilities hhead
      have hwithin := hoffered.compression capabilities (hcompression.trans hhead)
      rwa [compressions_offered hmem, flags_offered hmem] at hwithin
  · exact absurd hdialect hother

end

/-- **What is negotiated was offered**, exactly when the contexts of an SMB 3.1.1 response keep to
it.
-/
theorem negotiated_offered_iff (env : Env) (features : BuildFeatures) (config : NegotiationConfig)
    (clientGuid : ℕ) (salt : Octets) (exchange : NegotiateRequest → Except Error NegotiateExchange)
    (exchanged : NegotiateExchange) (response : NegotiateResponse) (negotiated : Negotiated)
    (info : ConnectionInfo)
    (hexchange : exchange (negotiateRequest features config clientGuid salt) = .ok exchanged)
    (hresponse : exchanged.content = .ok response)
    (h : negotiateSmb2 features config env clientGuid salt exchange = .ok (negotiated, info)) :
    Offered (negotiateRequest features config clientGuid salt) response negotiated ↔
      (response.dialectRevision = .revision .smb0311 → Selects features config response) := by
  have haccept : acceptResponse features config response = .ok negotiated := by
    unfold negotiateSmb2 at h
    split at h
    · cases h
    rw [hexchange] at h
    obtain ⟨_, hexchanged, h⟩ := Except.bind_eq_ok.mp h
    cases hexchanged
    obtain ⟨_, hcontent, h⟩ := Except.bind_eq_ok.mp h
    rw [hresponse] at hcontent
    cases hcontent
    obtain ⟨accepted, haccept, h⟩ := Except.bind_eq_ok.mp h
    cases h
    exact haccept
  exact ⟨selects_of_offered haccept, offered_of_selects haccept⟩

end

def plainBuild : BuildFeatures := ⟨[.aesCmac], [.aes128Gcm], [.none]⟩

def plainConfig : NegotiationConfig where
  signingPolicy := .whenRequired
  allowUnsignedGuestAccess := false
  encryptionMode := .disabled
  compressionEnabled := false
  minDialect := none
  maxDialect := none
  clientName := none
  multichannel := false
  disableNotifications := true

variable (contexts : List NegotiateContext)

def answer311 : NegotiateResponse :=
  ⟨false, .revision .smb0311, 0, 0, 65536, 65536, 65536, [],
    some (.preauthIntegrityCapabilities [.sha512] [] :: contexts)⟩

def answering311 (_ : NegotiateRequest) : Except Error NegotiateExchange :=
  .ok ⟨[], [], .ok (answer311 contexts)⟩

/-- One choice for everything that can be selected. -/
def oneEach : List NegotiateContext :=
  [.signingCapabilities [.aesCmac], .encryptionCapabilities [.aes128Gcm],
    .compressionCapabilities ⟨1, [.none]⟩]

theorem negotiated_offered_hash :
    Offered (negotiateRequest plainBuild { plainConfig with encryptionMode := .allowed } 0 [])
      (answer311 oneEach) ⟨0, false, 0, 65536, 65536, 65536, [],
        ⟨some .aesCmac, some .aes128Gcm, some ⟨1, [.none]⟩⟩, .smb0311⟩ := by
  have hnegotiated : ∃ info, negotiateSmb2 plainBuild
      { plainConfig with encryptionMode := .allowed } sampleEnv 0 [] (answering311 oneEach) =
      .ok (⟨0, false, 0, 65536, 65536, 65536, [],
        ⟨some .aesCmac, some .aes128Gcm, some ⟨1, [.none]⟩⟩, .smb0311⟩, info) := ⟨_, rfl⟩
  obtain ⟨info, h⟩ := hnegotiated
  refine (negotiated_offered_iff sampleEnv plainBuild _ 0 [] (answering311 oneEach)
    ⟨[], [], .ok (answer311 oneEach)⟩ (answer311 oneEach) _ info rfl rfl h).mpr fun _ =>
    ⟨.inr ?_, ?_⟩
  · exact ⟨by decide, .aes128Gcm, rfl⟩
  · rintro capabilities ⟨⟩
    decide

/-- A cipher is selected although encryption is disabled and no cipher was offered. -/
theorem cipher_selected_without_offer :
    (negotiateRequest plainBuild plainConfig 0 []).offeredCiphers = [] ∧
      (negotiateSmb2 plainBuild plainConfig sampleEnv 0 []
        (answering311 [.encryptionCapabilities [.aes128Gcm]])).map
        (·.1.selection.encryptionCipher) = .ok (some .aes128Gcm) := by
  decide +kernel

end Session
