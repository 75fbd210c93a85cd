import FerroCP.Native

/-!
# Exceptions and the execution of wrapper code

The exception classes of `ferrocp.hpp:33-69`, the standard exceptions `std::stoi` throws, and
`Cpp`, the monad wrapper functions are written in: a trace of `Effect`s that is kept when an
exception escapes, as the native side has seen those effects either way.
-/

namespace FerroCP

/-- The dynamic type of a thrown `ferrocp::Exception` (`ferrocp.hpp:33-69`). -/
inductive ExceptionClass
  | exception
  | fileNotFoundException
  | permissionDeniedException
  | insufficientSpaceException
  deriving DecidableEq, Repr

/-- A `ferrocp::Exception` object: its dynamic type, `what()` and `error_code()`. -/
structure Exception where
  dynamicClass : ExceptionClass
  what : String
  errorCode : Int
  deriving DecidableEq, Repr

/-- `Exception(message, error_code)` (`ferrocp.hpp:35-36`); callers that rely on the default
    argument pass `ferrocpErrorGeneric`. -/
def Exception.new (message : String) (errorCode : Int) : Exception :=
  ⟨.exception, message, errorCode⟩

/-- The three subclasses of `ferrocp.hpp:47-69` differ only in their class, the text put before
    the argument, and the code passed to `Exception`. -/
def Exception.derived (cls : ExceptionClass) (lead : String) (code : Int) (message : String) :
    Exception :=
  ⟨cls, lead ++ message, code⟩

/-- `FileNotFoundException(path)` (`ferrocp.hpp:47-51`). -/
def fileNotFoundException (path : String) : Exception :=
  Exception.derived .fileNotFoundException "File not found: " ferrocpErrorFileNotFound path

/-- `PermissionDeniedException(message)` (`ferrocp.hpp:56-60`). -/
def permissionDeniedException (message : String) : Exception :=
  Exception.derived .permissionDeniedException "Permission denied: "
    ferrocpErrorPermissionDenied message

/-- `InsufficientSpaceException(message)` (`ferrocp.hpp:65-69`). -/
def insufficientSpaceException (message : String) : Exception :=
  Exception.derived .insufficientSpaceException "Insufficient space: "
    ferrocpErrorInsufficientSpace message

/-- What can escape a wrapper function: a `ferrocp::Exception`, or the `std::invalid_argument`
    and `std::out_of_range` that `std::stoi` throws. -/
inductive Thrown
  | ferrocp (e : Exception)
  | invalidArgument
  | outOfRange
  deriving DecidableEq, Repr

/-- Wrapper code: effects on the native side in order, kept when an exception escapes. -/
abbrev Cpp := EStateM Thrown (List Effect)

/-- Record one effect. -/
def emit (e : Effect) : Cpp Unit := fun t => .ok () (t ++ [e])

/-- The effects a wrapper call left, whether it returned or threw. -/
def effects {α : Type} : EStateM.Result Thrown (List Effect) α → List Effect
  | .ok _ t => t
  | .error _ t => t

/-- The exception that escaped a wrapper call, if one did. -/
def escaped {α : Type} : EStateM.Result Thrown (List Effect) α → Option Thrown
  | .ok _ _ => none
  | .error e _ => some e

section Run

variable {α β : Type} (t : List Effect)

@[simp] theorem emit_bind (e : Effect) (f : Unit → Cpp α) : (emit e >>= f) t = f () (t ++ [e]) :=
  rfl

@[simp] theorem emit_map (e : Effect) (f : Unit → α) :
    (f <$> emit e) t = .ok (f ()) (t ++ [e]) := rfl

@[simp] theorem emit_apply (e : Effect) : emit e t = .ok () (t ++ [e]) := rfl

@[simp] theorem pure_apply (a : α) : (pure a : Cpp α) t = .ok a t := rfl

@[simp] theorem pure_bind_apply (a : α) (f : α → Cpp β) : (pure a >>= f) t = f a t := rfl

@[simp] theorem throw_apply (x : Thrown) : (throw x : Cpp α) t = .error x t := rfl

@[simp] theorem throw_bind_apply (x : Thrown) (f : α → Cpp β) :
    (throw x >>= f) t = .error x t := rfl

@[simp] theorem throw_map_apply (x : Thrown) (f : α → β) :
    (f <$> (throw x : Cpp α)) t = .error x t := rfl

@[simp] theorem liftExcept_ok_bind (a : α) (f : α → Cpp β) :
    (liftExcept (.ok a : Except Thrown α) >>= f) t = f a t := rfl

@[simp] theorem liftExcept_error_bind (x : Thrown) (f : α → Cpp β) :
    (liftExcept (.error x : Except Thrown α) >>= f) t = .error x t := rfl

@[simp] theorem effects_ok (a : α) : effects (.ok a t : EStateM.Result Thrown _ α) = t := rfl

@[simp] theorem effects_error (x : Thrown) : effects (.error x t : EStateM.Result _ _ α) = t := rfl

@[simp] theorem escaped_ok (a : α) : escaped (.ok a t : EStateM.Result Thrown _ α) = none := rfl

@[simp] theorem escaped_error (x : Thrown) :
    escaped (.error x t : EStateM.Result _ _ α) = some x := rfl

end Run

@[simp] theorem Exception.derived_errorCode (cls : ExceptionClass) (lead : String) (code : Int)
    (message : String) : (Exception.derived cls lead code message).errorCode = code := rfl

@[simp] theorem Exception.derived_dynamicClass (cls : ExceptionClass) (lead : String)
    (code : Int) (message : String) :
    (Exception.derived cls lead code message).dynamicClass = cls := rfl

/-- Every subclass keeps its argument at the end of `what()`. -/
theorem Exception.derived_what (cls : ExceptionClass) (lead : String) (code : Int)
    (message : String) : (Exception.derived cls lead code message).what = lead ++ message := rfl

end FerroCP
