import Reconciler.Failure
import Reconciler.Journal
import Reconciler.Work

/-!
# Handlers

A handler holds what is special about a resource kind: how a newly seen object is
adopted and how an object is reconciled.  A call of a handler is a sequence of
atomic effects on its surroundings, log lines and pauses, and ends well, with a
failure or with a panic.  Between two of its steps anything else may happen.
-/

namespace Reconciler

/-- What a panic carries. -/
inductive Payload
  | text (value : String)
  /-- Something that is no text. -/
  | unreadable
deriving DecidableEq, Repr

/-- The message of a panic, as far as it can be known. -/
def Payload.message : Payload → String
  | .text value => value
  | .unreadable => "unknown panic payload"

/-- How a call ended. -/
inductive Outcome
  | succeeded
  | failed (failure : Failure)
  | panicked (payload : Payload)
deriving DecidableEq, Repr

/-- The rest of a call in surroundings of type `ω`. -/
inductive Call (ω : Type)
  /-- The call is over. -/
  | finish (outcome : Outcome)
  /-- Pauses for milliseconds. -/
  | pause (millis : Nat) (next : Call ω)
  /-- Writes a line to the log. -/
  | say (line : Line) (next : Call ω)
  /-- Changes the surroundings in one step; what follows depends on how they were. -/
  | act (effect : ω → ω) (next : ω → Call ω)

namespace Call

variable {ω σ : Type}

/-- The call that ends well at once. -/
def done : Call ω :=
  finish .succeeded

/-- The call that fails at once. -/
def fail (failure : Failure) : Call ω :=
  finish (.failed failure)

/-- Goes on with another call if this one ends well. -/
def andThen : Call ω → Call ω → Call ω
  | finish .succeeded, following => following
  | finish outcome, _ => finish outcome
  | pause millis next, following => pause millis (next.andThen following)
  | say line next, following => say line (next.andThen following)
  | act effect next, following => act effect fun before => (next before).andThen following

/-- Writes lines in order, then goes on. -/
def sayAll (lines : List Line) (next : Call ω) : Call ω :=
  lines.foldr say next

/-- Pauses several times, then goes on. -/
def pauseAll (pauses : List Nat) (next : Call ω) : Call ω :=
  pauses.foldr pause next

/-- A call inside larger surroundings, of which it sees and changes a part. -/
def within (part : σ → ω) (put : ω → σ → σ) : Call ω → Call σ
  | finish outcome => finish outcome
  | pause millis next => pause millis (within part put next)
  | say line next => say line (within part put next)
  | act effect next =>
      act (fun whole => put (effect (part whole)) whole) fun whole =>
        within part put (next (part whole))

/-- Runs a call without interruption; pauses take no time here.  Returns the
surroundings after it, its lines and its outcome. -/
def runAlone : Call ω → ω → ω × List Line × Outcome
  | finish outcome, world => (world, [], outcome)
  | pause _ next, world => next.runAlone world
  | say line next, world =>
      let (after, lines, outcome) := next.runAlone world
      (after, line :: lines, outcome)
  | act effect next, world => (next world).runAlone (effect world)

end Call

/-- What a controller does with the objects of one kind. -/
structure Handler (α ω : Type) where
  /-- Takes on an object that was seen for the first time. -/
  adopt : Key → α → Call ω := fun _ _ => Call.done
  /-- Brings an object into the wanted state.  The object is missing if it does no
  longer exist; the prior one is the object before the notification. -/
  sync : Key → Operation → Option α → Option α → Call ω

end Reconciler
