import Reconciler.Http.Response
import Reconciler.Json.Printer
import Reconciler.Program
import Reconciler.VirtualMachine.Schema

/-!
# The command line

Without arguments the settings in the environment are checked: what will be watched
and where metrics will be served is printed, or else what keeps the program from
starting.  With the argument `crd` the definition of virtual machines is printed.
-/

namespace Reconciler

/-- The variables of the process. -/
def processVariables : IO Variables := do
  let values ← variableNames.mapM fun name => do
    return (name, ← IO.getEnv name)
  return fun name => (Table.lookup name values).join

/-- Checks the settings in the environment. -/
def checkSettings : IO UInt32 := do
  let host : Host :=
    { environment := ← processVariables, cluster := .ok (), bind := fun _ => .ok () }
  let (lines, result) := Program.prepare host
  for line in lines do
    IO.println line.render
  match result with
  | .error fault =>
      for line in fault.report do
        IO.eprintln line
      return 1
  | .ok launch =>
      for path in [launch.configuration.nodesPath, launch.configuration.podsPath,
          launch.configuration.machinesPath] do
        IO.println path
      IO.println (Http.servingLine launch.endpoint.text).render
      return 0

end Reconciler

/-- The program. -/
def main (arguments : List String) : IO UInt32 := do
  match arguments with
  | [] => Reconciler.checkSettings
  | ["crd"] =>
      IO.println Reconciler.VirtualMachine.definition.render
      return 0
  | _ =>
      IO.eprintln "expected no argument or crd"
      return 2
