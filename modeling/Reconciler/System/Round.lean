import Reconciler.System.Basic

/-!
# The round of a caller

A caller comes to the bell, looks into the queue, and sleeps until it is woken if
there is nothing to take.  An item that it takes is reconciled: the cache is read,
the handler is called, its outcome goes to the books, and the key is released.  A
failed item is weighed and either delayed or dropped.
-/

namespace Reconciler

namespace System

variable {α ω : Type}

/-- Puts a caller to a stage of its item. -/
def putStage (system : System α ω) (id : Nat) (caller : Caller α ω) (work : Work α)
    (stage : Stage α ω) : System α ω :=
  system.put id caller (.holding work stage)

/-- A caller comes; a worker says so. -/
def enter (plan : Plan α ω) (system : System α ω) (id : Nat) (role : Role) : System α ω :=
  let said :=
    match role with
    | .worker => system.write .debug
        (plan.name ++ " controller worker " ++ toString id ++ " started")
    | _ => system
  { said with callers := said.callers.insert id { role := role } }

/-- A caller comes with an item that was handed out before. -/
def enterWith (system : System α ω) (id : Nat) (work : Work α) : System α ω :=
  { system with
    callers := system.callers.insert id { role := .single, point := .holding work .handed } }

/-- A worker that has done its item comes for the next one; others leave. -/
def finishRound (system : System α ω) (id : Nat) (caller : Caller α ω) (work : Work α) :
    System α ω :=
  match caller.role with
  | .worker => system.put id caller .arriving
  | _ => system.put id caller (.left (some work))

/-- One step of a handler call.  A call that is over leads to the stage that
`ended` gives for its outcome. -/
def stepCall (system : System α ω) (id : Nat) (caller : Caller α ω) (work : Work α)
    (stage : Call ω → Stage α ω) (ended : Outcome → Stage α ω) : Call ω → System α ω
  | .finish outcome => system.putStage id caller work (ended outcome)
  | .pause millis next =>
      system.putStage id { caller with resumes := system.now + millis } work (stage next)
  | .say line next =>
      { system with journal := system.journal.writeAll [line] }.putStage id caller work (stage next)
  | .act effect next =>
      { system with world := effect system.world }.putStage id caller work
        (stage (next system.world))

/-- The failure of an outcome, if it is one. -/
def failureOf : Outcome → Option Failure
  | .succeeded => none
  | .failed failure => some failure
  | .panicked payload => some (.panicked payload.message)

/-- Takes the outcome of a reconciliation to the books and decides how the item is
settled. -/
def conclude (plan : Plan α ω) (system : System α ω) (id : Nat) (caller : Caller α ω)
    (work : Work α) (outcome : Outcome) : System α ω :=
  let noticed :=
    match outcome with
    | .panicked payload =>
        system.report (plan.name ++ " controller recovered from panic on " ++ work.key.text)
          (.panicked payload.message)
    | _ => system
  let counted :=
    { noticed with journal := noticed.journal.count (.reconciled work.operation) }
  match failureOf outcome with
  | none =>
      (counted.write .debug (plan.name ++ " controller reconciled " ++ work.key.text ++ " (" ++
        work.operation.text ++ ")")).putStage id caller work .forgetting
  | some failure =>
      let failed := { counted with journal := counted.journal.count (.failed work.operation) }
      match failure.severity with
      | .notFound =>
          (counted.write .debug (plan.name ++ " controller: " ++ work.key.text ++
            " does no longer exist: " ++ failure.message)).putStage id caller work .forgetting
      | .malformed =>
          (failed.report (plan.name ++ " controller dropped " ++ work.key.text)
            failure).putStage id caller work .forgetting
      | .transient => failed.putStage id caller work (.yielding failure)

/-- Takes the decision about a failed item to the books. -/
def decide (plan : Plan α ω) (system : System α ω) (id : Nat) (caller : Caller α ω)
    (work : Work α) (failure : Failure) : System α ω :=
  let (verdict, weighed) := system.weigh plan.backoff work.key
  match verdict with
  | .retry delay => weighed.putStage id caller work (.delaying failure delay)
  | .drop attempts =>
      let counted :=
        { weighed with journal := weighed.journal.count (.dropped work.operation) }
      (counted.report (plan.name ++ " controller dropped " ++ work.key.text ++ " after " ++
        toString attempts ++ " attempts") failure).finishRound id caller work

/-- Logs and counts a retry. -/
def note (plan : Plan α ω) (system : System α ω) (id : Nat) (caller : Caller α ω)
    (work : Work α) (failure : Failure) (delay : Duration) : System α ω :=
  let said := system.write .warn (plan.name ++ " controller failed to reconcile " ++
    work.key.text ++ " (retry " ++ toString (system.limiter.failures work.key) ++
    "), retrying in " ++ delay.text ++ ": " ++ failure.message)
  { said with journal := said.journal.count (.requeued work.operation) }.finishRound id caller work

/-- One step of a caller with an item. -/
def advanceStage (plan : Plan α ω) [Resource α] (system : System α ω) (id : Nat)
    (caller : Caller α ω) (work : Work α) : Stage α ω → System α ω
  | .handed => system.putStage id caller work (.looked (system.cache.get? work.key))
  | .looked current =>
      match work.operation, current with
      | .add, some object =>
          system.putStage id caller work (.adopting object (plan.handler.adopt work.key object))
      | operation, current =>
          system.putStage id caller work
            (.syncing (plan.handler.sync work.key operation current work.prior))
  | .adopting object call =>
      system.stepCall id caller work (.adopting object)
        (fun outcome =>
          match outcome with
          | .succeeded => .adopted object
          | outcome => .concluded outcome) call
  | .adopted object =>
      system.putStage id caller work
        (.syncing (plan.handler.sync work.key work.operation (some object) work.prior))
  | .syncing call => system.stepCall id caller work .syncing .concluded call
  | .concluded outcome => system.conclude plan id caller work outcome
  | .forgetting => (system.forget work.key).putStage id caller work .releasing
  | .releasing => (system.release work.key).finishRound id caller work
  | .yielding failure => (system.release work.key).putStage id caller work (.weighing failure)
  | .weighing failure => system.decide plan id caller work failure
  | .delaying failure delay =>
      (system.schedule work delay).putStage id caller work (.noting failure delay)
  | .noting failure delay => system.note plan id caller work failure delay

/-- Looks into the queue.  Whoever takes an item while others are ready rings for
the next caller. -/
def look (plan : Plan α ω) (system : System α ω) (id : Nat) (caller : Caller α ω)
    (held : Bool) : System α ω :=
  if system.queue.closed then
    let gone := { system with bell := system.bell.leave id }
    let said :=
      match caller.role with
      | .worker => gone.write .debug
          (plan.name ++ " controller worker " ++ toString id ++ " stopped")
      | _ => gone
    said.put id caller (.left none)
  else
    match system.queue.take with
    | (none, queue) =>
        { system with queue }.put id caller (if held then .returning else .asleep)
    | (some work, queue) =>
        let bell := if queue.ready.isEmpty then system.bell else system.bell.ring
        { system with queue, bell := bell.leave id }.put id caller
          (match caller.role with
          | .taker => .left (some work)
          | _ => .holding work .handed)

/-- One step of a caller, if it can take one. -/
def advance [Resource α] (plan : Plan α ω) (system : System α ω) (id : Nat) :
    Option (System α ω) :=
  match system.callers.find? id with
  | none => none
  | some caller =>
      if system.now < caller.resumes then none
      else
        match caller.point with
        | .arriving | .returning =>
            some ({ system with bell := system.bell.come id }.put id caller
              (.checking system.bell.answers))
        | .checking held => some (system.look plan id caller held)
        | .asleep =>
            match system.bell.wokenBy? id with
            | none => none
            | some _ =>
                some ({ system with bell := system.bell.notice id }.put id caller .returning)
        | .holding work stage => some (system.advanceStage plan id caller work stage)
        | .left _ => none

/-- A caller that waits gives up. -/
def cancel (system : System α ω) (id : Nat) : Option (System α ω) :=
  match system.callers.find? id with
  | none => none
  | some caller =>
      match caller.point with
      | .asleep => some ({ system with bell := system.bell.leave id }.put id caller (.left none))
      | _ => none

end System

end Reconciler
