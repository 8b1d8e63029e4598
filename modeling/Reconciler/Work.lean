import Reconciler.Resource

/-!
# Work items

A work item says that an object needs to be reconciled and what kind of
notification asked for it.  While an item waits, later notifications of its key
are merged into it.
-/

namespace Reconciler

/-- The kind of notification behind a work item. -/
inductive Operation
  | add
  | update
  | delete
deriving DecidableEq, Repr

/-- The name of an operation. -/
def Operation.text : Operation → String
  | .add => "add"
  | .update => "update"
  | .delete => "delete"

instance : ToString Operation :=
  ⟨Operation.text⟩

/-- A key that waits to be reconciled. -/
structure Work (α : Type) where
  key : Key
  operation : Operation
  /-- The object before the notification; an addition has none. -/
  prior : Option α
deriving DecidableEq, Repr

/-- The operation of an item after a newer notification: an addition stays one
when an update follows, otherwise the newer operation counts. -/
def Operation.merge : Operation → Operation → Operation
  | .add, .update => .add
  | _, newer => newer

/-- Merges a newer item into a pending one.  The oldest prior object is kept, and
an addition has none. -/
def Work.merge {α : Type} (pending newer : Work α) : Work α :=
  let operation := pending.operation.merge newer.operation
  { key := pending.key
    operation
    prior := if operation = .add then none else pending.prior.or newer.prior }

@[simp]
theorem Work.merge_key {α : Type} (pending newer : Work α) :
    (pending.merge newer).key = pending.key :=
  rfl

@[simp]
theorem Work.merge_operation {α : Type} (pending newer : Work α) :
    (pending.merge newer).operation = pending.operation.merge newer.operation :=
  rfl

end Reconciler
