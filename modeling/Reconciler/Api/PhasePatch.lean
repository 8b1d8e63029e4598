import Reconciler.Api.Collection
import Reconciler.Api.Exchange
import Reconciler.VirtualMachine.Codec

/-!
# Setting the phase of a virtual machine

The phase is set by a patch of the status of the machine, merged into the status
that is there.  The server replies with the patched machine.  A machine has a
namespace; a key without one is refused before anything is sent.
-/

namespace Reconciler

namespace PhasePatch

/-- The name under which changes are made. -/
def manager : String :=
  "node-controller"

/-- The patch that sets a phase. -/
def body (phase : String) : Json :=
  Json.record [("status", Json.record [("phase", .text phase)])]

/-- The target of the patch for a machine. -/
def target (ns name : String) : String :=
  VirtualMachine.collection.objectPath ns name ++ "/status?&fieldManager=" ++ manager

/-- The request that sets the phase of a machine. -/
def request (key : Key) (phase : String) : Except Failure Api.Request :=
  match key.ns with
  | none => .error (.malformedKey ("virtual machine " ++ key.text ++ " without namespace"))
  | some ns =>
      if key.name = "" then .error (.api (.unbuildable .unnamed))
      else
        Except.mapError .api (Api.Request.to
          { method := "PATCH"
            target := ""
            contentType := some "application/merge-patch+json"
            accept := some "application/json"
            body := some (body phase) }
          (target ns key.name))

/-- The result of the patch, from the reply to its request. -/
def result (reply : Api.Reply) : Except Failure Unit :=
  match reply.read VirtualMachine.read with
  | .ok _ => .ok ()
  | .error failure => .error (.api failure)

end PhasePatch

end Reconciler
