/-! Why an operation fails: the cause, its code for programs and its text for people. -/

namespace TunerControl

/-- The cause of a failed operation. -/
inductive Failure where
  | permissionDenied
  | deviceNotFound (path : String)
  | deviceNotApplicable (path : String)
  | openFailed (path : String)
  | pipeSetupFailed
  | contextUnavailable
  | initFailed (reason : String)
  | operationFailed (reason : String)
  | launchFailed (reason : String)
  | invalidState (reason : String)
  | invalidArgument (reason : String)
  | superseded
  deriving DecidableEq, Repr

namespace Failure

/-- The stable code of a cause. -/
def code : Failure → String
  | permissionDenied => "USB_PERMISSION_DENIED"
  | deviceNotFound _ => "DEVICE_NOT_FOUND"
  | deviceNotApplicable _ => "NOT_APPLICABLE"
  | openFailed _ => "OPEN_FAILED"
  | pipeSetupFailed => "PIPE_ERROR"
  | contextUnavailable => "CONTEXT_ERROR"
  | initFailed _ => "INIT_ERROR"
  | operationFailed _ => "NATIVE_ERROR"
  | launchFailed _ => "DRIVER_ERROR"
  | invalidState _ => "INVALID_STATE"
  | invalidArgument _ => "INVALID_ARGS"
  | superseded => "SUPERSEDED"

/-- The text of a cause. -/
def message : Failure → String
  | permissionDenied => "USB permission denied by user"
  | deviceNotFound path => "USB device not found: " ++ path
  | deviceNotApplicable path => "device is not a supported SDR: " ++ path
  | openFailed path => "failed to open USB device: " ++ path
  | pipeSetupFailed => "failed to create HackRF sample pipe"
  | contextUnavailable => "application context not available"
  | initFailed reason => "native init failed: " ++ reason
  | operationFailed reason => "native operation failed: " ++ reason
  | launchFailed reason => "failed to launch driver: " ++ reason
  | invalidState reason => "invalid state: " ++ reason
  | invalidArgument reason => "invalid argument: " ++ reason
  | superseded => "request superseded by a newer one"

/-- The failure of a named operation that the decoder engine rejected. -/
def rejected (operation : String) : Failure :=
  .operationFailed (operation ++ " rejected by decoder engine")

end Failure

end TunerControl
