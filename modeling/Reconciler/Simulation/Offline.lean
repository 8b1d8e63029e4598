import Reconciler.Http.Response
import Reconciler.Program
import Reconciler.Simulation.Trial

/-!
# The program without a network

A host without a network lets a program listen wherever it likes, except at ports
that are kept for the system, but nothing is ever reached.  So the watches of the
controllers bring nothing, and the program goes on until the host puts an end to it.
-/

namespace Reconciler

namespace Offline

/-- Why a connection cannot be made. -/
def unreachable : String :=
  "Network is unreachable (os error 101)"

/-- The result of a connection to any endpoint. -/
def connect (_ : Net.Endpoint) : Except String Unit :=
  .error unreachable

/-- The first port that is not kept for the system. -/
def firstFreePort : Nat :=
  1024

/-- Takes an endpoint to listen at; port zero stands for any that is free. -/
def bind (endpoint : Net.Endpoint) : Except String Unit :=
  let port := endpoint.port.toNat
  if port ≠ 0 && port < firstFreePort then .error "Permission denied (os error 13)"
  else .ok ()

/-- How long the host lets a program run, in milliseconds. -/
def patience : Nat :=
  20000

/-- A host without a network; the file that should describe a cluster is missing if
there is no cluster. -/
def host (environment : Variables) (described : Bool) : Host :=
  { environment
    cluster :=
      if described then .ok ()
      else .error ⟨"/nonexistent/kubeconfig", "No such file or directory (os error 2)"⟩
    bind }

/-- What a run of the program leaves behind. -/
structure Ending where
  lines : List Line
  /-- The report of what kept the program from starting. -/
  report : List String := []
  /-- The exit code; missing if the host put an end to the program. -/
  code : Option Nat

/-- A service whose watch brings nothing: runs it until it is told to stop at once, or
until the host loses patience. -/
def runUnfed {α : Type} [Resource α] (plan : Plan α (Rehearsal α)) (settings : Settings)
    (stopped : Bool) : List Line :=
  let started := Trial.start plan settings Table.empty false
  let ended := if stopped then started.move .stop else started.sleep patience
  ended.schedule.system.journal.lines ++
    (ended.control.progress.result?.bind Service.resultLine?).toList

/-- The lines of all controllers. -/
def controllerLines (settings : Settings) (stopped : Bool) : List Line :=
  let nodes : Plan Node (Rehearsal Node) :=
    { name := (Program.nodePlan settings).name
      backoff := settings.backoff
      handler := Rehearsal.withAlerts (Program.nodePlan settings).handler }
  runUnfed nodes settings stopped ++
    runUnfed (Program.podPlan settings) settings stopped ++
    runUnfed (Program.machinePlan settings Rehearsal.setPhase) settings stopped

/-- The lines of the reporter. -/
def reporterLines (stopped : Bool) : List Line :=
  let started := Reporter.start fun _ => "0"
  (if stopped then started else started.sleep (fun _ => "0") patience).lines

/-- Runs the program. -/
def run (host : Host) : Ending :=
  match Program.prepare host with
  | (lines, .error fault) => { lines, report := fault.report, code := some 1 }
  | (lines, .ok launch) =>
      let settings := launch.configuration.settings
      match host.bind launch.endpoint with
      | .error reason =>
          { lines := lines ++ [Program.startingLine] ++ controllerLines settings true ++
              reporterLines true ++ [Http.serverFailureLine reason, Program.stoppedLine]
            code := some 0 }
      | .ok () =>
          { lines := lines ++ [Program.startingLine, Http.servingLine launch.endpoint.text] ++
              controllerLines settings false ++ reporterLines false
            code := none }

end Offline

end Reconciler
