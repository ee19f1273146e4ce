import Mathlib.Tactic.Common

/-!
# Errors across the ABI

`io::Error` of the standard library, and the results that carry one from the
host to a guest: `CallResult` of `telekio-abi/src/abi/mod.rs` and `IoError` of
`telekio-abi/src/io.rs`. Decoding a result returns or unwinds.
-/

namespace Telekio.Readiness

/-- `std::io::ErrorKind`. -/
inductive ErrorKind where
  | notFound | permissionDenied | connectionRefused | connectionReset
  | hostUnreachable | networkUnreachable | connectionAborted | notConnected
  | addrInUse | addrNotAvailable | networkDown | brokenPipe | alreadyExists
  | wouldBlock | notADirectory | isADirectory | directoryNotEmpty
  | readOnlyFilesystem | filesystemLoop | staleNetworkFileHandle
  | invalidInput | invalidData | timedOut | writeZero | storageFull
  | notSeekable | quotaExceeded | fileTooLarge | resourceBusy
  | executableFileBusy | deadlock | crossesDevices | tooManyLinks
  | invalidFilename | argumentListTooLong | interrupted | unsupported
  | unexpectedEof | outOfMemory | inProgress | other | uncategorized
deriving DecidableEq, Repr

/-- `std::io::Error`: a code of the operating system, or a kind with a
message. -/
inductive Error where
  | os (code : Int32)
  | custom (kind : ErrorKind) (message : String)
deriving DecidableEq, Repr

/-- What the standard library knows about the codes of a platform, and what
it prints for an error with `{:?}`. -/
structure Platform where
  decodeErrorKind : Int32 → ErrorKind
  errorString : Int32 → String
  debug : Error → String

namespace Error

def other (message : String) : Error :=
  .custom .other message

variable (platform : Platform) (error : Error)

def kind : ErrorKind :=
  match error with
  | .os code => platform.decodeErrorKind code
  | .custom kind _ => kind

def rawOsError : Option Int32 :=
  match error with
  | .os code => some code
  | .custom _ _ => none

def toString : String :=
  match error with
  | .os code => platform.errorString code
  | .custom _ message => message

/-- The guest has an error of the same `ErrorKind` and raw OS code. -/
def SameAs (delivered : Error) : Prop :=
  delivered.kind platform = error.kind platform ∧
    delivered.rawOsError = error.rawOsError

instance (delivered : Error) :
    Decidable (error.SameAs platform delivered) :=
  inferInstanceAs (Decidable (_ ∧ _))

end Error

/-- A call returns or unwinds. -/
inductive Ended (α : Type) where
  | returned (value : α)
  | unwound (payload : String)
deriving DecidableEq, Repr

inductive Status where
  | ok
  | panicked
  | hostPanicked
  | error
deriving DecidableEq, Repr

structure CallResult where
  status : Status
  payload : String
deriving DecidableEq, Repr

namespace CallResult

def ok : CallResult :=
  ⟨.ok, ""⟩

def error (message : String) : CallResult :=
  ⟨.error, message⟩

/-- `host_panic`. -/
def hostPanic (payload : String) : CallResult :=
  ⟨.hostPanicked, payload⟩

variable (result : CallResult)

def intoIoResult : Ended (Except Error Unit) :=
  match result.status with
  | .ok => .returned (.ok ())
  | .error => .returned (.error (Error.other result.payload))
  | .panicked => .unwound result.payload
  | .hostPanicked => .unwound result.payload

/-- `expect` panics on an error. -/
def resume (platform : Platform) (context : String) : Ended Unit :=
  match result.intoIoResult with
  | .returned (.ok ()) => .returned ()
  | .returned (.error error) =>
      .unwound (context ++ ": " ++ platform.debug error)
  | .unwound payload => .unwound payload

end CallResult

/-- The kinds that `io_error_kinds!` lists. -/
def listedKinds : List ErrorKind :=
  [.notFound, .permissionDenied, .connectionRefused, .connectionReset,
    .hostUnreachable, .networkUnreachable, .connectionAborted,
    .notConnected, .addrInUse, .addrNotAvailable, .networkDown,
    .brokenPipe, .alreadyExists, .wouldBlock, .notADirectory,
    .isADirectory, .directoryNotEmpty, .readOnlyFilesystem,
    .staleNetworkFileHandle, .invalidInput, .invalidData, .timedOut,
    .writeZero, .storageFull, .notSeekable, .quotaExceeded, .fileTooLarge,
    .resourceBusy, .executableFileBusy, .deadlock, .crossesDevices,
    .tooManyLinks, .invalidFilename, .argumentListTooLong, .interrupted,
    .unsupported, .unexpectedEof, .outOfMemory]

/-- `IoErrorKind`: a listed kind or `Other`. -/
structure IoErrorKind where
  kind : ErrorKind
  listed : kind ∈ .other :: listedKinds
deriving DecidableEq, Repr

namespace IoErrorKind

def other : IoErrorKind :=
  ⟨.other, List.mem_cons_self⟩

def ofErrorKind (kind : ErrorKind) : IoErrorKind :=
  if listed : kind ∈ listedKinds then
    ⟨kind, List.mem_cons_of_mem _ listed⟩
  else
    other

theorem kind_ofErrorKind (kind : ErrorKind) :
    (ofErrorKind kind).kind =
      if kind ∈ listedKinds then kind else .other := by
  unfold ofErrorKind
  split <;> rfl

/-- The kinds that survive the conversion are those of `IoErrorKind`. -/
theorem kind_ofErrorKind_eq_iff (kind : ErrorKind) :
    (ofErrorKind kind).kind = kind ↔ kind ∈ .other :: listedKinds := by
  rw [kind_ofErrorKind, List.mem_cons]
  by_cases listed : kind ∈ listedKinds
  · simp [listed]
  · simp [listed, eq_comm]

end IoErrorKind

structure IoError where
  kind : IoErrorKind
  raw : Int32
  hasRaw : Bool
deriving DecidableEq, Repr

namespace IoError

def none : IoError where
  kind := .other
  raw := 0
  hasRaw := false

def fromError (platform : Platform) (error : Error) : IoError where
  kind := .ofErrorKind (error.kind platform)
  raw := error.rawOsError.getD 0
  hasRaw := error.rawOsError.isSome

def intoIoResult (error : IoError) (call : CallResult) :
    Ended (Except Error Unit) :=
  if call.status ≠ .error then
    call.intoIoResult
  else if error.hasRaw then
    .returned (.error (.os error.raw))
  else
    .returned (.error (.custom error.kind.kind call.payload))

end IoError

/-- The error decoded from an `IoError` next to a `CallResult`. -/
def Error.decoded : Error → Error
  | .os code => .os code
  | .custom kind message =>
      .custom (IoErrorKind.ofErrorKind kind).kind message

theorem intoIoResult_fromError (platform : Platform) (error : Error) :
    (IoError.fromError platform error).intoIoResult
        (.error (error.toString platform)) =
      .returned (.error (error.decoded)) := by
  cases error <;> rfl

/-- An `IoError` keeps codes and the kinds that the ABI has. -/
def Error.Listed : Error → Prop
  | .os _ => True
  | .custom kind _ => kind ∈ .other :: listedKinds

instance : DecidablePred Error.Listed
  | .os _ => inferInstanceAs (Decidable True)
  | .custom kind _ =>
      inferInstanceAs (Decidable (kind ∈ .other :: listedKinds))

theorem sameAs_decoded_iff (platform : Platform) (error : Error) :
    error.SameAs platform (error.decoded) ↔ error.Listed := by
  cases error with
  | os code => exact iff_of_true ⟨rfl, rfl⟩ trivial
  | custom kind message =>
      rw [Error.SameAs, and_iff_left (by rfl)]
      exact IoErrorKind.kind_ofErrorKind_eq_iff kind

/-- A `CallResult` alone keeps a kind of `Other` without a code. -/
def Error.Plain (error : Error) (platform : Platform) : Prop :=
  error.kind platform = .other ∧ error.rawOsError = none

theorem sameAs_other_iff (platform : Platform) (error : Error)
    (message : String) :
    error.SameAs platform (.other message) ↔ error.Plain platform :=
  and_congr eq_comm eq_comm

end Telekio.Readiness
