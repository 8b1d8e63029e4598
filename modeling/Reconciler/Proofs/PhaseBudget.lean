import Reconciler.Proofs.Addressing
import Reconciler.Proofs.PhaseWrites
import Reconciler.Proofs.RetryBudget

/-!
# How often the phase of a virtual machine is set

An item may set the phase of its machine only if it is an addition.  Such an item comes from
an added change of the cache, and it may come back many times: it is merged with items of
other operations, delayed, and parked next to the addition of a machine that was created
again.  The argument counts the additions of a key wherever they are: among the changes that
wait to be passed on, in the queue, with the callers, and among the delayed items.  Merging
never adds one, and a write that ends well spends one, since nothing fails after it.
-/

namespace Reconciler

open VirtualMachine

variable {α ω : Type}

/-! ## Rights to set a phase -/

namespace PhaseEvent

end PhaseEvent

section

variable {setPhase : StatusWriter ω} {plan : Plan VirtualMachine (Recorder ω)}
  {read : Option (Work VirtualMachine × Option VirtualMachine)} {work : Work VirtualMachine}
  {machine : VirtualMachine} {stage next : Stage VirtualMachine (Recorder ω)}

end

/-! ## Rights in a controller -/

namespace System

variable {before after : System VirtualMachine ω} {id : Nat} {caller next : Caller VirtualMachine ω}
  {work : Work VirtualMachine} {stage nextStage : Stage VirtualMachine ω} {notes : List PhaseNote}

end System

section

variable {setPhase : StatusWriter ω} {plan : Plan VirtualMachine (Recorder ω)}
  {admits : Event VirtualMachine → Prop} {log : List PhaseEvent}
  {before after : System VirtualMachine (Recorder ω)}
  {action : Action VirtualMachine (Recorder ω)} {mark : Option (Mark VirtualMachine)} {key : Key}
  {id : Nat} {caller next : Caller VirtualMachine (Recorder ω)} {work : Work VirtualMachine}
  {stage nextStage : Stage VirtualMachine (Recorder ω)}

namespace System

end System

end

end Reconciler
