import Mathlib.Algebra.GroupWithZero.Nat
import Mathlib.Data.List.Basic

/-!
# Commands and status codes (`smb-msg/header.rs`)
-/

namespace Msg

inductive Command where
  | negotiate
  | sessionSetup
  | logoff
  | treeConnect
  | treeDisconnect
  | create
  | close
  | flush
  | read
  | write
  | lock
  | ioctl
  | cancel
  | echo
  | queryDirectory
  | changeNotify
  | queryInfo
  | setInfo
  | oplockBreak
  | serverToClientNotification
deriving DecidableEq

inductive Status where
  | success
  | pending
  | notifyCleanup
  | notifyEnumDir
  | invalidSmb
  | smbBadTid
  | smbBadCommand
  | smbBadUid
  | smbUseStandard
  | bufferOverflow
  | noMoreFiles
  | stoppedOnSymlink
  | notImplemented
  | invalidInfoClass
  | infoLengthMismatch
  | invalidParameter
  | noSuchDevice
  | invalidDeviceRequest0
  | endOfFile
  | moreProcessingRequired
  | accessDenied
  | bufferTooSmall
  | objectNameInvalid
  | objectNameNotFound
  | objectNameCollision
  | sharingViolation
  | deletePending
  | objectPathNotFound
  | noEasOnFile
  | wrongPassword
  | logonFailure
  | notMapped
  | diskFull
  | badImpersonationLevel
  | ioTimeout
  | fileIsADirectory
  | notSupported
  | networkNameDeleted
  | badNetworkName
  | requestNotAccepted
  | directoryNotEmpty
  | cancelled
  | fileClosed
  | userSessionDeleted
  | serverUnavailable
  | userAccountLockedOut
  | pathNotCovered
  | networkSessionExpired
  | smbTooManyUids
  | deviceFeatureNotSupported
deriving DecidableEq

namespace Status

def code : Status → UInt32
  | .success => 0x00000000
  | .pending => 0x00000103
  | .notifyCleanup => 0x0000010B
  | .notifyEnumDir => 0x0000010C
  | .invalidSmb => 0x00010002
  | .smbBadTid => 0x00050002
  | .smbBadCommand => 0x00160002
  | .smbBadUid => 0x005B0002
  | .smbUseStandard => 0x00FB0002
  | .bufferOverflow => 0x80000005
  | .noMoreFiles => 0x80000006
  | .stoppedOnSymlink => 0x8000002D
  | .notImplemented => 0xC0000002
  | .invalidInfoClass => 0xC0000003
  | .infoLengthMismatch => 0xC0000004
  | .invalidParameter => 0xC000000D
  | .noSuchDevice => 0xC000000E
  | .invalidDeviceRequest0 => 0xC0000010
  | .endOfFile => 0xC0000011
  | .moreProcessingRequired => 0xC0000016
  | .accessDenied => 0xC0000022
  | .bufferTooSmall => 0xC0000023
  | .objectNameInvalid => 0xC0000033
  | .objectNameNotFound => 0xC0000034
  | .objectNameCollision => 0xC0000035
  | .sharingViolation => 0xC0000043
  | .deletePending => 0xC0000056
  | .objectPathNotFound => 0xC000003A
  | .noEasOnFile => 0xC0000044
  | .wrongPassword => 0xC000006A
  | .logonFailure => 0xC000006D
  | .notMapped => 0xC0000073
  | .diskFull => 0xC000007F
  | .badImpersonationLevel => 0xC00000A5
  | .ioTimeout => 0xC00000B5
  | .fileIsADirectory => 0xC00000BA
  | .notSupported => 0xC00000BB
  | .networkNameDeleted => 0xC00000C9
  | .badNetworkName => 0xC00000CC
  | .requestNotAccepted => 0xC00000D0
  | .directoryNotEmpty => 0xC0000101
  | .cancelled => 0xC0000120
  | .fileClosed => 0xC0000128
  | .userSessionDeleted => 0xC0000203
  | .serverUnavailable => 0xC0000466
  | .userAccountLockedOut => 0xC0000234
  | .pathNotCovered => 0xC0000257
  | .networkSessionExpired => 0xC000035C
  | .smbTooManyUids => 0xC000205A
  | .deviceFeatureNotSupported => 0xC0000463

def all : List Status :=
  [.success, .pending, .notifyCleanup, .notifyEnumDir, .invalidSmb, .smbBadTid, .smbBadCommand,
   .smbBadUid, .smbUseStandard, .bufferOverflow, .noMoreFiles, .stoppedOnSymlink, .notImplemented,
   .invalidInfoClass, .infoLengthMismatch, .invalidParameter, .noSuchDevice,
   .invalidDeviceRequest0, .endOfFile, .moreProcessingRequired, .accessDenied, .bufferTooSmall,
   .objectNameInvalid, .objectNameNotFound, .objectNameCollision, .sharingViolation,
   .deletePending, .objectPathNotFound, .noEasOnFile, .wrongPassword, .logonFailure, .notMapped,
   .diskFull, .badImpersonationLevel, .ioTimeout, .fileIsADirectory, .notSupported,
   .networkNameDeleted, .badNetworkName, .requestNotAccepted, .directoryNotEmpty, .cancelled,
   .fileClosed, .userSessionDeleted, .serverUnavailable, .userAccountLockedOut, .pathNotCovered,
   .networkSessionExpired, .smbTooManyUids, .deviceFeatureNotSupported]

/-- `TryFrom<u32>`: the status of a raw code, if the crate has a name for it. -/
def tryFrom (value : UInt32) : Option Status := all.find? (·.code = value)

theorem mem_all (s : Status) : s ∈ all := by cases s <;> decide

theorem code_injective : Function.Injective code := by
  intro a b h
  have key : ∀ a ∈ all, ∀ b ∈ all, a.code = b.code → a = b := by decide
  exact key a (mem_all a) b (mem_all b) h

theorem tryFrom_eq_some {value : UInt32} {s : Status} :
    tryFrom value = some s ↔ s.code = value := by
  constructor
  · intro h
    simpa using List.find?_some h
  · rintro rfl
    cases found : tryFrom s.code with
    | none => exact absurd (List.find?_eq_none.mp found s (mem_all s)) (by simp)
    | some other =>
      have same : other.code = s.code := by simpa using List.find?_some found
      rw [code_injective same]

end Status

end Msg
