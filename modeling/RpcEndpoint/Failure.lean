import RpcEndpoint.Duration
import RpcEndpoint.Message.Envelope

/-!
# Failures

Why a request or a notification failed, why the wire below refused a write, and why a child process
could not be started.
-/

namespace RpcEndpoint

open Json

/-- Why a wire refuses a write. -/
inductive WireFailure where
  | io (reason : String)
  | notStarted
  | closed
deriving Repr, DecidableEq

def WireFailure.message : WireFailure → String
  | .io reason => "I/O error: " ++ reason
  | .notStarted => "transport has not been started"
  | .closed => "transport is closed"

/-- Why a request or a notification failed. -/
inductive Failure where
  /-- The params have no JSON form. -/
  | encoding (fault : Fault)
  /-- The wire refused the message. -/
  | wire (failure : WireFailure)
  /-- The answer did not have the form that the caller expects. -/
  | decoding (reason : String)
  /-- The peer answered with an error. -/
  | server (error : ResponseError)
  /-- The peer is gone. -/
  | unavailable
  | cancelled
  | timedOut (timeout : Duration)
  | closed

def Failure.message : Failure → String
  | .encoding fault => "failed to encode message: " ++ fault.message
  | .wire failure => "transport error: " ++ failure.message
  | .decoding reason => "failed to decode response: " ++ reason
  | .server error =>
    "server returned error: " ++ error.message ++ " (code: " ++ toString error.code.toInt ++ ")"
  | .unavailable => "language server is unavailable"
  | .cancelled => "request was cancelled"
  | .timedOut timeout => "request timed out after " ++ toString timeout.milliseconds ++ "ms"
  | .closed => "connection closed"

/-- Why a child process is not there. -/
inductive ProcessFailure where
  | binaryNotFound (command : String)
  | spawnFailed (reason : String)
  | alreadyStarted
  | terminated
deriving Repr, DecidableEq

def ProcessFailure.message : ProcessFailure → String
  | .binaryNotFound command => "language server binary not found: " ++ command
  | .spawnFailed reason => "failed to spawn language server process: " ++ reason
  | .alreadyStarted => "language server process has already been started"
  | .terminated => "language server process has terminated"

end RpcEndpoint
