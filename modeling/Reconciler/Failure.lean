import Reconciler.Duration
import Reconciler.Text.Quoted

/-!
# Failures

Everything that can go wrong in a controller, by cause.  A failure has one wording,
and it belongs to one class, which decides how the item that met it is treated:
it is tried again, it is settled because its object is gone, or it is given up at
once because its object cannot be identified.
-/

namespace Reconciler

/-- The status object with which the API server refuses a request. -/
structure ApiStatus where
  status : String := ""
  message : String := ""
  reason : String := ""
  code : Nat := 0
deriving DecidableEq, Repr

/-- A status object as it is shown in diagnostics. -/
def ApiStatus.text (status : ApiStatus) : String :=
  "ErrorResponse \x7b status: " ++ Text.quoted status.status ++ ", message: " ++
    Text.quoted status.message ++ ", reason: " ++ Text.quoted status.reason ++ ", code: " ++
    toString status.code ++ " \x7d"

/-- Why a request could not be built. -/
inductive RequestFault
  /-- The object has no name. -/
  | unnamed
  /-- The address holds a character that none may hold. -/
  | invalidCharacter
  /-- The address is too long. -/
  | tooLong
deriving DecidableEq, Repr

/-- The wording of a request that could not be built. -/
def RequestFault.message : RequestFault → String
  | .unnamed => "failed to validate request: A non-empty name is required"
  | .invalidCharacter => "failed to build request: invalid uri character"
  | .tooLong => "failed to build request: uri too long"

/-- Why a request to the API server failed. -/
inductive ApiFailure
  /-- The server refused the request. -/
  | refused (status : ApiStatus)
  /-- The connection failed. -/
  | service (text : String)
  /-- The request could not be built. -/
  | unbuildable (fault : RequestFault)
  /-- The answer could not be read. -/
  | unreadable (text : String)
  /-- A line of the answer did not end. -/
  | unendedLine
deriving DecidableEq, Repr

/-- The wording of a failed request. -/
def ApiFailure.message : ApiFailure → String
  | .refused status =>
      "ApiError: " ++ status.message ++ ": " ++ status.reason ++ " (" ++ status.text ++ ")"
  | .service text => "ServiceError: " ++ text
  | .unbuildable fault => "Failed to build request: " ++ fault.message
  | .unreadable text => "Error deserializing response: " ++ text
  | .unendedLine => "Error finding newline character"

/-- Whether the server says that the object is gone. -/
def ApiFailure.isNotFound : ApiFailure → Bool
  | .refused status => status.code == 404 || status.code == 410
  | _ => false

/-- Why a watch failed. -/
inductive WatchFailure
  | noResourceVersion
  | refused (status : ApiStatus)
  | initialListFailed (failure : ApiFailure)
  | startFailed (failure : ApiFailure)
  | streamFailed (failure : ApiFailure)
deriving DecidableEq, Repr

/-- The wording of a failed watch. -/
def WatchFailure.message : WatchFailure → String
  | .noResourceVersion =>
      "no metadata.resourceVersion in watch result (does resource support watch?)"
  | .refused status =>
      "error returned by apiserver during watch: " ++ status.message ++ ": " ++ status.reason
  | .initialListFailed failure => "failed to perform initial object list: " ++ failure.message
  | .startFailed failure => "failed to start watching object: " ++ failure.message
  | .streamFailed failure => "watch stream failed: " ++ failure.message

/-- How a failed item is treated. -/
inductive Severity
  /-- It is tried again after a delay. -/
  | transient
  /-- Its object is gone, nothing is left to do. -/
  | notFound
  /-- Its object cannot be identified, it is never tried again. -/
  | malformed
deriving DecidableEq, Repr

/-- What went wrong. -/
inductive Failure
  /-- An object or a text has no usable key. -/
  | malformedKey (detail : String)
  /-- The object does no longer exist. -/
  | notFound (what : String)
  /-- A handler panicked. -/
  | panicked (message : String)
  /-- The initial listing was not complete in time. -/
  | syncTimeout (controller : String) (deadline : Duration)
  /-- The controller was stopped before its initial listing was complete. -/
  | stopped (controller : String)
  /-- A request to the API server failed. -/
  | api (failure : ApiFailure)
  /-- A watch failed. -/
  | watch (failure : WatchFailure)
  /-- A text or a value could not be read. -/
  | unreadable (message : String)
  /-- Anything else. -/
  | other (message : String)
deriving DecidableEq, Repr

namespace Failure

/-- The wording of a failure. -/
def message : Failure → String
  | malformedKey detail => "malformed resource key: " ++ detail
  | notFound what => what ++ " not found"
  | panicked message => "sync handler panicked: " ++ message
  | syncTimeout controller deadline =>
      "cache of " ++ controller ++ " controller did not sync within " ++ deadline.text
  | stopped controller => controller ++ " controller stopped before its cache synced"
  | api failure => failure.message
  | watch failure => failure.message
  | unreadable message => message
  | other message => message

/-- The class of a failure. -/
def severity : Failure → Severity
  | malformedKey _ => .malformed
  | notFound _ => .notFound
  | api failure => if failure.isNotFound then .notFound else .transient
  | _ => .transient

end Failure

end Reconciler
