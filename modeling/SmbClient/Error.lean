import SmbClient.Msg.Header

/-!
# Errors (`error.rs`, `runtime/wire.rs`)

Texts are the source's own where a later step looks at them or a caller sees them.
-/

inductive TransformPhase where
  | encodeDecode
  | signVerify
  | compressDecompress
  | encryptDecrypt
deriving DecidableEq

structure TransformError where
  outgoing : Bool
  phase : TransformPhase
  sessionId : Option ℕ
  why : String
  msgId : Option ℕ
deriving DecidableEq

inductive SetupError where
  | unsignedFinalResponse
  | timeout
deriving DecidableEq

/-- The kinds of `std::io::ErrorKind` that the crates tell apart. -/
inductive IoErrorKind where
  | timedOut
  | brokenPipe
  | connectionReset
  | connectionAborted
  | unexpectedEof
  | notConnected
  | connectionRefused
  | writeZero
  | other
deriving DecidableEq

inductive NetworkFailure where
  | connectionLost
  | timedOut
  | sessionInvalidated
deriving DecidableEq

inductive Error where
  | invalidState (why : String)
  | invalidMessage (why : String)
  | invalidArgument (why : String)
  | transformFailed (error : TransformError)
  | signatureVerificationFailed
  | sessionInvalidated
  | cancelled (what : String)
  | operationTimeout
  | unexpectedMessageStatus (status : UInt32)
  | unexpectedMessageCommand (command : Msg.Command)
  | receivedErrorMessage (status : UInt32)
  | setup (error : SetupError)
  -- The reader refused the bytes, or the content is of another command.
  | binrw
  | smbMessage
  | crypto
  | compression
  | io (kind : IoErrorKind)
  -- An integer did not fit its type.
  | parsing
  | missingPermissions (what : String)
  | unsupportedOperation (why : String)
  | backpressure (what : String)
  | staleObject
  | connectionStopped
  | sessionRecoveryQueueFull
  | sessionRecoveryWaitTimedOut
  | shareRecoveryQueueFull
  | shareRecoveryWaitTimedOut
  | resourceRecoveryWaitTimedOut
  | joinError
  | invalidConfiguration (why : String)
  | negotiation (why : String)
  | outcomeUnknown
  | networkOutcomeUnknown (failure : NetworkFailure)
  | transferFailed (offset transferred : ℕ) (source : Error)
deriving DecidableEq

def Error.isOutcomeUnknown : Error → Bool
  | .outcomeUnknown | .networkOutcomeUnknown _ => true
  | .transferFailed _ _ source => source.isOutcomeUnknown
  | _ => false
