import Mathlib.Data.List.Basic

/-!
# The C interface

The declarations of `include/ferrocp.h` that the C++ wrapper `include/ferrocp.hpp` uses: the
error codes it compares against, the FFI structures it fills or reads, and the calls it makes
into the native library. The native library is not part of the repository; what a native call
returns enters the model as an argument of the wrapper function that makes it, and what the
wrapper does to the native side is recorded as a trace of `Effect`s.

A string argument, and a `const char*` member of a request, is recorded as the `std::string`
whose `c_str()` the wrapper passes. The native side reads that buffer as a C string, up to its
first NUL: `cStr` is what it gets, and it is the whole string only when no NUL is embedded.
-/

namespace FerroCP

/-- `ferrocp_engine_handle_t` (`ferrocp.h:79`): an opaque 64-bit identifier, `0` meaning
    no engine. -/
abbrev EngineHandle := UInt64

/-- `INT_MIN` of the targets' 32-bit `int`. -/
def intMin : Int := -2147483648

/-- `INT_MAX` of the targets' 32-bit `int`. -/
def intMax : Int := 2147483647

/-- A value of C's `int`. -/
abbrev CInt := {v : Int // intMin ≤ v ∧ v ≤ intMax}

/-- `FERROCP_ERROR_GENERIC` (`ferrocp.h:52`). -/
def ferrocpErrorGeneric : Int := 1

/-- `FERROCP_ERROR_FILE_NOT_FOUND` (`ferrocp.h:53`). -/
def ferrocpErrorFileNotFound : Int := 2

/-- `FERROCP_ERROR_PERMISSION_DENIED` (`ferrocp.h:54`). -/
def ferrocpErrorPermissionDenied : Int := 3

/-- `FERROCP_ERROR_INSUFFICIENT_SPACE` (`ferrocp.h:55`). -/
def ferrocpErrorInsufficientSpace : Int := 4

/-- `ferrocp_result_t` (`ferrocp.h:84-88`) as `ferrocp_copy` leaves it: the wrapper reads only
    `error_message`, a C string or null. -/
structure FerrocpResult where
  errorMessage : Option String
  deriving DecidableEq, Repr

/-- `ferrocp_device_info_t` (`ferrocp.h:107-114`); the two strings may be null. -/
structure FerrocpDeviceInfo where
  deviceType : Option String
  filesystem : Option String
  totalSpace : UInt64
  availableSpace : UInt64
  readSpeedMbps : Float
  writeSpeedMbps : Float
  deriving Repr

/-- `ferrocp_copy_request_t` (`ferrocp.h:119-128`). -/
structure FerrocpCopyRequest where
  source : String
  destination : String
  mode : CInt
  compress : Int
  preserveMetadata : Int
  verifyCopy : Int
  threads : UInt32
  bufferSize : UInt64
  deriving DecidableEq, Repr

/-- `ferrocp_stats_t` (`ferrocp.h:93-102`). -/
structure FerrocpStats where
  filesCopied : UInt64
  directoriesCreated : UInt64
  bytesCopied : UInt64
  filesSkipped : UInt64
  errors : UInt64
  durationMs : UInt64
  transferRateMbps : Float
  efficiencyPercent : Float
  deriving Repr

/-- The calls the wrapper makes into the native library, with the arguments it passes;
    `engineCreate` records the handle `ferrocp_engine_create` returned. -/
inductive NativeCall
  | init (returned : Int)
  | cleanup
  | version
  | engineCreate (returned : EngineHandle)
  | engineDestroy (handle : EngineHandle)
  | copy (handle : EngineHandle) (request : FerrocpCopyRequest)
  | freeResult
  | getDeviceInfo (path : String)
  | freeDeviceInfo
  | pathExists (path : String)
  | isDirectory (path : String)
  | isFile (path : String)
  | getFileSize (path : String)
  | joinPaths (path1 path2 : String)
  | normalizePath (path : String)
  | freeString
  deriving DecidableEq, Repr

/-- Memory the native library hands to the wrapper and the wrapper must release: the filled
    `ferrocp_result_t`, the filled `ferrocp_device_info_t`, and a returned `char*`. -/
inductive NativeObject
  | result
  | deviceInfo
  | string
  deriving DecidableEq, Repr

/-- What the wrapper does to the native side: a call, or a read of native memory. -/
inductive Effect
  | call (c : NativeCall)
  | read (o : NativeObject)
  deriving DecidableEq, Repr

/-- `P` holds of each effect in `effects` and the effects before it. -/
def Always (P : List Effect → Effect → Prop) (effects : List Effect) : Prop :=
  ∀ pre e post, effects = pre ++ e :: post → P pre e

section Always

variable {t : List Effect}

theorem always_nil (P : List Effect → Effect → Prop) : Always P [] := by
  intro pre e post split
  simp at split

/-- A position in `t ++ [e]` is `e` itself, or a position in `t` with `e` after it. -/
theorem eq_or_mem_of_append_singleton {pre post : List Effect} {x e : Effect}
    (split : pre ++ x :: post = t ++ [e]) :
    (pre = t ∧ x = e) ∨ ∃ post', t = pre ++ x :: post' := by
  rcases List.eq_nil_or_concat post with rfl | ⟨post', last, rfl⟩
  · obtain ⟨same, single⟩ := List.append_inj' split rfl
    exact .inl ⟨same, by simpa using single⟩
  · have shifted : (pre ++ x :: post') ++ [last] = t ++ [e] := by simpa using split
    exact .inr ⟨post', (List.append_inj' shifted rfl).1.symm⟩

theorem always_append_singleton {P : List Effect → Effect → Prop} (e : Effect) :
    Always P (t ++ [e]) ↔ Always P t ∧ P t e := by
  constructor
  · intro all
    exact ⟨fun pre x post split => all pre x (post ++ [e]) (by simp [split]),
      all t e [] rfl⟩
  · rintro ⟨all, last⟩ pre x post split
    rcases eq_or_mem_of_append_singleton split.symm with ⟨rfl, rfl⟩ | ⟨post', earlier⟩
    · exact last
    · exact all pre x post' earlier

/-- `P` holds along `t ++ u` when it holds along `t`, and along `u` with `t` in front of each
    prefix. -/
theorem always_append {P : List Effect → Effect → Prop} (u : List Effect) :
    Always P (t ++ u) ↔ Always P t ∧ Always (fun pre e => P (t ++ pre) e) u := by
  induction u using List.reverseRecOn with
  | nil => simp [always_nil]
  | append_singleton u e ih =>
    rw [← List.append_assoc, always_append_singleton, ih, always_append_singleton, and_assoc]

/-- An allowed effect, followed by effects that every trace allows, keeps `Always P`. -/
theorem always_append_cons {P : List Effect → Effect → Prop} {e : Effect} {u : List Effect}
    (all : Always P t) (first : P t e) (later : ∀ pre, ∀ x ∈ u, P pre x) :
    Always P (t ++ e :: u) := by
  induction u using List.reverseRecOn with
  | nil => exact (always_append_singleton e).2 ⟨all, first⟩
  | append_singleton u x ih =>
    rw [← List.cons_append, ← List.append_assoc, always_append_singleton]
    exact ⟨ih fun pre y mem => later pre y (List.mem_append_left _ mem), later _ x (by simp)⟩

end Always

end FerroCP
