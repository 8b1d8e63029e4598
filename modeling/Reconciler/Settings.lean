import Reconciler.Backoff
import Reconciler.Net.Reader
import Reconciler.Text.Blank
import Reconciler.Text.Numeral

/-!
# Settings

A controller is set up by variables.  A variable that is not set leaves its default
in place; one that cannot be read is an error that names the variable and its
value.  Variables of the environment are trimmed, and an empty one counts as not
set.
-/

namespace Reconciler

/-- The names of all variables. -/
def variableNames : List String := [
  "WATCH_NAMESPACE", "CONTROLLER_WORKERS", "CACHE_SYNC_TIMEOUT_SECS", "RETRY_BASE_DELAY_MS",
  "RETRY_MAX_DELAY_SECS", "RETRY_MAX_ATTEMPTS", "METRICS_LISTEN_ADDR", "METRICS_LISTEN_PORT"]

/-- Why the settings cannot be read. -/
inductive SettingsError
  /-- The value of a variable is no number that it may hold. -/
  | invalidValue (name value : String) (error : Text.NumeralError)
  /-- There would be no worker. -/
  | noWorkers
  /-- Address and port for metrics do not make an endpoint. -/
  | invalidEndpoint (address port : String)
deriving DecidableEq, Repr

namespace SettingsError

/-- The wording of an error, without its cause. -/
def message : SettingsError → String
  | invalidValue name value _ => "invalid value '" ++ value ++ "' for " ++ name
  | noWorkers => "CONTROLLER_WORKERS must be at least 1"
  | invalidEndpoint address port => "invalid metrics listen address " ++ address ++ ":" ++ port

/-- The causes of an error. -/
def causes : SettingsError → List String
  | invalidValue _ _ error => [error.message]
  | noWorkers => []
  | invalidEndpoint _ _ => ["invalid socket address syntax"]

end SettingsError

/-- Where variables are looked up. -/
abbrev Variables :=
  String → Option String

/-- The variables of an environment: trimmed, and set only if something is left. -/
def Variables.ofEnvironment (environment : Variables) : Variables := fun name =>
  ((environment name).map Text.trim).filter fun value => value ≠ ""

/-- The settings of the controllers. -/
structure Settings where
  workers : Nat := 2
  /-- How long the initial listing may take. -/
  syncTimeout : Duration := Duration.ofSeconds 60
  backoff : Backoff := {}
deriving DecidableEq, Repr

/-- The largest number of 64 bits. -/
def longLimit : Nat :=
  Nat.pow 2 64 - 1

/-- The number in a variable. -/
def readVariable (lookUp : Variables) (name : String) (limit default : Nat) :
    Except SettingsError Nat :=
  match lookUp name with
  | none => .ok default
  | some value =>
      match Text.readNat limit value.toList with
      | .ok number => .ok number
      | .error error => .error (.invalidValue name value error)

namespace Settings

/-- Reads the settings; of several errors the first in this order counts. -/
def read (lookUp : Variables) : Except SettingsError Settings := do
  let workers ← readVariable lookUp "CONTROLLER_WORKERS" longLimit 2
  if workers = 0 then throw .noWorkers
  let timeout ← readVariable lookUp "CACHE_SYNC_TIMEOUT_SECS" longLimit 60
  let base ← readVariable lookUp "RETRY_BASE_DELAY_MS" longLimit 5
  let ceiling ← readVariable lookUp "RETRY_MAX_DELAY_SECS" longLimit 1000
  let retries ← readVariable lookUp "RETRY_MAX_ATTEMPTS" countLimit 15
  return {
    workers
    syncTimeout := Duration.ofSeconds timeout
    backoff := {
      base := Duration.ofMillis base
      ceiling := Duration.ofSeconds ceiling
      retries := UInt32.ofNat retries } }

end Settings

/-- The endpoint at which metrics are served. -/
def metricsEndpoint (lookUp : Variables) : Except SettingsError Net.Endpoint :=
  let address := (lookUp "METRICS_LISTEN_ADDR").getD "0.0.0.0"
  let port := (lookUp "METRICS_LISTEN_PORT").getD "9000"
  match Net.Endpoint.parse? (address ++ ":" ++ port) with
  | some endpoint => .ok endpoint
  | none => .error (.invalidEndpoint address port)

/-- The namespace that pods and virtual machines are watched in; missing means all,
and so does a star. -/
def watchNamespace (lookUp : Variables) : Option String :=
  (lookUp "WATCH_NAMESPACE").filter fun ns => ns ≠ "*"

end Reconciler
