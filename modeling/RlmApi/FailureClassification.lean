import RlmApi.ModelRuntime

/-!
# What coroutines raise

An exception is told apart by the method resolution order of its class. The built-in
classes that the worker asks for are constructors, so that another class of the same
name is not one of them.
-/

namespace RlmApi

/-- A class in a method resolution order. -/
inductive PyClass where
  | exception
  | cancelledError
  | keyError
  | permissionError
  | timeoutError
  | typeError
  | valueError
  | other (name : Str)
deriving DecidableEq

/-- `error_type.__name__`. -/
def PyClass.name : PyClass → Str
  | .exception => lit "Exception"
  | .cancelledError => lit "CancelledError"
  | .keyError => lit "KeyError"
  | .permissionError => lit "PermissionError"
  | .timeoutError => lit "TimeoutError"
  | .typeError => lit "TypeError"
  | .valueError => lit "ValueError"
  | .other name => name

/-- A raised exception: a `RemoteRLMError` with its attributes, or another one. -/
inductive Raised where
  | remote (error : RemoteRLMError)
  | plain (mro : List PyClass)

namespace Raised

/-- `type(error).mro()`. -/
def mro : Raised → List PyClass
  | .remote _ => [.other (lit "RemoteRLMError"), .other (lit "RuntimeError"), .exception,
      .other (lit "BaseException"), .other (lit "object")]
  | .plain mro => mro

/-- `isinstance(error, error_type)`. -/
def isInstance (error : Raised) (errorType : PyClass) : Bool := errorType ∈ error.mro

/-- `type(error).__name__`. -/
def typeName (error : Raised) : Str := (error.mro.head?.map PyClass.name).getD []

/-- `asyncio.CancelledError`, which is no `Exception`. -/
def cancelled : Raised :=
  .plain [.cancelledError, .other (lit "BaseException"), .other (lit "object")]

/-- An exception of a built-in class with its base classes up to `Exception`. -/
def builtin (classes : List PyClass) : Raised :=
  .plain (classes ++ [.exception, .other (lit "BaseException"), .other (lit "object")])

end Raised

/-- The exception that an error of the modelled code is. -/
def PyError.raised : PyError → Raised
  | .valueError _ => .builtin [.valueError]
  | .keyError _ => .builtin [.keyError, .other (lit "LookupError")]
  | .typeError _ => .builtin [.typeError]
  | .invalidArgument => .builtin [.other (lit "DataError"), .other (lit "InterfaceError"),
      .other (lit "InterfaceMessage"), .valueError]
  | .dataError => .builtin [.other (lit "DataError"), .other (lit "PostgresError"),
      .other (lit "PostgresMessage")]
  | .checkViolation _ => .builtin [.other (lit "CheckViolationError"),
      .other (lit "IntegrityConstraintViolationError"), .other (lit "PostgresError"),
      .other (lit "PostgresMessage")]

/-- `NONRETRYABLE_EXCEPTION_NAMES`. -/
def nonretryableExceptionNames : List Str :=
  [lit "authenticationerror", lit "badrequesterror", lit "contextpolicyerror",
    lit "contextwindowexceedederror", lit "contentpolicyviolationerror",
    lit "permissiondeniederror", lit "unprocessableentityerror"]

/-- `is_retryable_failure`; `lower` is `str.lower`. -/
def isRetryableFailure (lower : Str → Str) (error : Raised) : Bool :=
  match error with
  | .remote error => error.retryable
  | .plain mro =>
    if error.isInstance .keyError || error.isInstance .permissionError ||
        error.isInstance .typeError || error.isInstance .valueError then false
    else !mro.any (fun errorType => decide (lower errorType.name ∈ nonretryableExceptionNames))

end RlmApi
