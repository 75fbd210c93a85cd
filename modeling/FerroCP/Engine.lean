import FerroCP.Exception

/-!
# `ferrocp::Engine` and its copy operation

`ferrocp.hpp:226-320`: the `Engine` class, with the types its `copy` takes and returns,
`CopyMode` (`78-82`), `CopyStats` (`112-132`) and `CopyRequest` (`158-170`), and the error mapping
`throw_exception_for_error_code` (`308-319`).

An `Engine` object's only member is `handle_` (`ferrocp.hpp:306`). The methods are modelled on
the member data; the address comparison `this != &other` of the move assignment belongs to the
heap of objects in `FerroCP.Ownership`, where objects have addresses. What `ferrocp_copy` returns
and stores into `result` is an argument, `CopyOutcome`, so the statements below hold for every
outcome of the native call. Each method comes with the run lemma later proofs use instead of
unfolding it.
-/

namespace FerroCP

/-! ## Construction, destruction and moves -/

/-- `ferrocp::Engine` (`ferrocp.hpp:232`), holding its `handle_`. -/
structure Engine where
  handle : EngineHandle
  deriving DecidableEq, Repr

namespace Engine

/-- `Engine()` (`ferrocp.hpp:234-238`): `handle_` is what `ferrocp_engine_create` returned,
    and a `0` makes the constructor throw. -/
def new (created : EngineHandle) : Cpp Engine := do
  emit (.call (.engineCreate created))
  if created = 0 then
    throw (.ferrocp (Exception.new "Failed to create FerroCP engine" ferrocpErrorGeneric))
  return ⟨created⟩

/-- `~Engine()` (`ferrocp.hpp:240-244`). -/
def destroy (self : Engine) : Cpp Unit :=
  if self.handle ≠ 0 then emit (.call (.engineDestroy self.handle)) else pure ()

/-- `Engine(Engine&& other)` (`ferrocp.hpp:250-252`): the new object, and `other` after it. -/
def moveFrom (other : Engine) : Engine × Engine :=
  (⟨other.handle⟩, ⟨0⟩)

/-- The body of `operator=(Engine&& other)` under `this != &other` (`ferrocp.hpp:256-260`):
    `this` and `other` after the assignment. -/
def moveAssign (self other : Engine) : Cpp (Engine × Engine) := do
  if self.handle ≠ 0 then
    emit (.call (.engineDestroy self.handle))
  return (⟨other.handle⟩, ⟨0⟩)

/-- The effect of destroying `handle_` if it is not `0`, shared by `~Engine` and `operator=`. -/
def release (handle : EngineHandle) : List Effect :=
  if handle ≠ 0 then [.call (.engineDestroy handle)] else []

section Run

variable (t : List Effect)

theorem new_run (created : EngineHandle) :
    new created t =
      if created = 0 then
        .error (.ferrocp (Exception.new "Failed to create FerroCP engine" ferrocpErrorGeneric))
          (t ++ [.call (.engineCreate created)])
      else .ok ⟨created⟩ (t ++ [.call (.engineCreate created)]) := by
  by_cases zero : created = 0 <;> simp [new, zero]

theorem destroy_run (self : Engine) : self.destroy t = .ok () (t ++ release self.handle) := by
  by_cases zero : self.handle = 0 <;> simp [destroy, release, zero]

theorem moveAssign_run (self other : Engine) :
    self.moveAssign other t = .ok (⟨other.handle⟩, ⟨0⟩) (t ++ release self.handle) := by
  by_cases zero : self.handle = 0 <;> simp [moveAssign, release, zero]

end Run

end Engine

/-! ## The copy request -/

/-- `ferrocp::CopyMode` (`ferrocp.hpp:78-82`): an `enum class` whose underlying type is `int`, so
    a `CopyRequest` may hold any `int` as its mode, one of the three enumerators or not. -/
structure CopyMode where
  value : CInt
  deriving DecidableEq, Repr

namespace CopyMode

/-- `Copy = FERROCP_MODE_COPY` (`ferrocp.h:31`). -/
def copy : CopyMode := ⟨⟨0, by decide⟩⟩

/-- `Move = FERROCP_MODE_MOVE` (`ferrocp.h:32`). -/
def move : CopyMode := ⟨⟨1, by decide⟩⟩

/-- `Sync = FERROCP_MODE_SYNC` (`ferrocp.h:33`). -/
def sync : CopyMode := ⟨⟨2, by decide⟩⟩

end CopyMode

/-- `ferrocp::CopyRequest` (`ferrocp.hpp:158-166`). -/
structure CopyRequest where
  source : String
  destination : String
  mode : CopyMode
  compress : Bool
  preserveMetadata : Bool
  verifyCopy : Bool
  threads : UInt32
  bufferSize : UInt64
  deriving DecidableEq, Repr

/-- `CopyRequest(src, dst)` (`ferrocp.hpp:168-169`), with the default member initialisers. -/
def CopyRequest.new (src dst : String) : CopyRequest :=
  ⟨src, dst, .copy, false, true, false, 0, 0⟩

/-- `b ? 1 : 0`. -/
def flag (b : Bool) : Int := if b then 1 else 0

/-- The aggregate `c_request` built by `Engine::copy` (`ferrocp.hpp:269-278`): the two paths by
    `c_str()`, recorded as the strings (the native side reads them up to their first NUL,
    `FerrocpCopyRequest.received`), the mode by `static_cast<int>`, and each flag as `1` or `0`. -/
def CopyRequest.toC (r : CopyRequest) : FerrocpCopyRequest :=
  ⟨r.source, r.destination, r.mode.value, flag r.compress, flag r.preserveMetadata,
    flag r.verifyCopy, r.threads, r.bufferSize⟩

@[simp] theorem flag_bne_zero (b : Bool) : (flag b != 0) = b := by
  cases b <;> decide

/-- `ferrocp::CopyStats` (`ferrocp.hpp:112-120`); `duration` is the count of its
    `std::chrono::milliseconds`, whose representation is a signed 64-bit integer. -/
structure CopyStats where
  filesCopied : UInt64
  directoriesCreated : UInt64
  bytesCopied : UInt64
  filesSkipped : UInt64
  errors : UInt64
  duration : Int
  transferRateMbps : Float
  efficiencyPercent : Float
  deriving Repr

/-- `CopyStats{}`: every member at its default initialiser. -/
def CopyStats.empty : CopyStats := ⟨0, 0, 0, 0, 0, 0, 0.0, 0.0⟩

/-- The conversion of a `uint64_t` to the signed 64-bit representation of a duration: values
    from `2^63` on wrap around by `2^64`. -/
def toInt64 (n : UInt64) : Int :=
  if n.toNat < 9223372036854775808 then n.toNat else n.toNat - 18446744073709551616

/-- `CopyStats(const ferrocp_stats_t&)` (`ferrocp.hpp:123-131`). -/
def CopyStats.ofC (c : FerrocpStats) : CopyStats :=
  ⟨c.filesCopied, c.directoriesCreated, c.bytesCopied, c.filesSkipped, c.errors,
    toInt64 c.durationMs, c.transferRateMbps, c.efficiencyPercent⟩

/-- `throw_exception_for_error_code` (`ferrocp.hpp:308-319`): the exception its `switch` throws. -/
def throwExceptionForErrorCode (errorCode : Int) (message : String) : Exception :=
  if errorCode = ferrocpErrorFileNotFound then fileNotFoundException message
  else if errorCode = ferrocpErrorPermissionDenied then permissionDeniedException message
  else if errorCode = ferrocpErrorInsufficientSpace then insufficientSpaceException message
  else Exception.new message errorCode

/-- The `switch` and the three subclass constructors agree: the thrown code is the code
    switched on, and `what()` ends with the message. -/
theorem throwExceptionForErrorCode_errorCode (errorCode : Int) (message : String) :
    (throwExceptionForErrorCode errorCode message).errorCode = errorCode := by
  unfold throwExceptionForErrorCode
  split_ifs <;> simp_all [fileNotFoundException, permissionDeniedException,
    insufficientSpaceException, Exception.new]

theorem throwExceptionForErrorCode_what (errorCode : Int) (message : String) :
    ∃ lead, (throwExceptionForErrorCode errorCode message).what = lead ++ message := by
  unfold throwExceptionForErrorCode
  split_ifs
  · exact ⟨_, Exception.derived_what ..⟩
  · exact ⟨_, Exception.derived_what ..⟩
  · exact ⟨_, Exception.derived_what ..⟩
  · exact ⟨"", (String.empty_append message).symm⟩

theorem throwExceptionForErrorCode_dynamicClass (errorCode : Int) (message : String) :
    ((throwExceptionForErrorCode errorCode message).dynamicClass = .fileNotFoundException ↔
        errorCode = ferrocpErrorFileNotFound) ∧
      ((throwExceptionForErrorCode errorCode message).dynamicClass = .permissionDeniedException ↔
        errorCode = ferrocpErrorPermissionDenied) ∧
      ((throwExceptionForErrorCode errorCode message).dynamicClass = .insufficientSpaceException ↔
        errorCode = ferrocpErrorInsufficientSpace) := by
  unfold throwExceptionForErrorCode
  split_ifs <;> simp_all [fileNotFoundException, permissionDeniedException,
    insufficientSpaceException, Exception.new, ferrocpErrorFileNotFound,
    ferrocpErrorPermissionDenied, ferrocpErrorInsufficientSpace]

/-! ## `Engine::copy` -/

/-- What `ferrocp_copy` does for the wrapper: the code it returns and the `result` it fills. -/
structure CopyOutcome where
  errorCode : Int
  result : FerrocpResult
  deriving DecidableEq, Repr

/-- `Engine::copy` (`ferrocp.hpp:268-291`). -/
def Engine.copy (self : Engine) (request : CopyRequest) (outcome : CopyOutcome) :
    Cpp CopyStats := do
  let cRequest := request.toC
  emit (.call (.copy self.handle cRequest))
  if outcome.errorCode ≠ 0 then
    emit (.read .result)
    let message := outcome.result.errorMessage.getD "Unknown error"
    emit (.call .freeResult)
    throw (.ferrocp (throwExceptionForErrorCode outcome.errorCode message))
  emit (.call .freeResult)
  return CopyStats.empty

/-- `Engine::copy_with_progress` (`ferrocp.hpp:296-303`): the callbacks are not used yet, and the
    call is `copy(request)`. -/
def Engine.copyWithProgress (self : Engine) (request : CopyRequest) (outcome : CopyOutcome) :
    Cpp CopyStats :=
  self.copy request outcome

theorem Engine.copy_run (self : Engine) (request : CopyRequest) (outcome : CopyOutcome)
    (t : List Effect) :
    self.copy request outcome t =
      if outcome.errorCode ≠ 0 then
        .error (.ferrocp (throwExceptionForErrorCode outcome.errorCode
            (outcome.result.errorMessage.getD "Unknown error")))
          (t ++ [.call (.copy self.handle request.toC), .read .result, .call .freeResult])
      else
        .ok CopyStats.empty (t ++ [.call (.copy self.handle request.toC), .call .freeResult]) := by
  by_cases ok : outcome.errorCode = 0 <;> simp [Engine.copy, ok]

/-- `Engine::copy` returns exactly when `ferrocp_copy` returns `0`; otherwise the exception it
    throws carries the code, ends with the native message (or `"Unknown error"`), and has the
    subclass of that code. `ferrocp_free_result` is called once, after the message is read. -/
theorem copy_error_propagation (self : Engine) (request : CopyRequest) (code : Int)
    (message : Option String) :
    let run := self.copy request ⟨code, ⟨message⟩⟩ []
    (escaped run = none ↔ code = 0) ∧
    (code ≠ 0 → ∃ ex, escaped run = some (.ferrocp ex) ∧ ex.errorCode = code ∧
      (∃ lead, ex.what = lead ++ message.getD "Unknown error") ∧
      (ex.dynamicClass = .fileNotFoundException ↔ code = ferrocpErrorFileNotFound) ∧
      (ex.dynamicClass = .permissionDeniedException ↔ code = ferrocpErrorPermissionDenied) ∧
      (ex.dynamicClass = .insufficientSpaceException ↔ code = ferrocpErrorInsufficientSpace)) ∧
    (effects run).count (.call .freeResult) = 1 ∧
    (code ≠ 0 → ∃ pre post, effects run = pre ++ .call .freeResult :: post ∧ .read .result ∈ pre) := by
  intro run
  by_cases ok : code = 0
  · simp [run, Engine.copy_run, ok]
  · refine ⟨by simp [run, Engine.copy_run, ok], fun _ => ?_, by simp [run, Engine.copy_run, ok],
      fun _ => ?_⟩
    · exact ⟨_, by simp [run, Engine.copy_run, ok], throwExceptionForErrorCode_errorCode ..,
        throwExceptionForErrorCode_what .., throwExceptionForErrorCode_dynamicClass ..⟩
    · exact ⟨[.call (.copy self.handle request.toC), .read .result], [],
        by simp [run, Engine.copy_run, ok], by simp⟩

end FerroCP
