import Reconciler.Alert
import Reconciler.Simulation.Schedule

/-!
# Rehearsed handlers

A rehearsal runs a controller with handlers whose outcomes are written down
beforehand.  Every call is recorded.  It then plays the next outcome written for its
phase and key, and once none is left it does what the handler does by itself.
-/

namespace Reconciler

/-- The kinds of calls that outcomes are written for. -/
inductive Phase
  | adopt
  | sync
  /-- The status writer sets a phase. -/
  | patch
deriving DecidableEq, Repr

/-- An outcome written down: pauses, and then an end, or what the handler does by
itself if no end is given. -/
structure Play where
  pauses : List Nat := []
  ending : Option Outcome := none
deriving DecidableEq, Repr

/-- The call that a play makes of a call. -/
def Play.call {ω : Type} (play : Play) (byItself : Call ω) : Call ω :=
  Call.pauseAll play.pauses
    (match play.ending with
    | none => byItself
    | some outcome => .finish outcome)

/-- The outcomes still to be played, by phase and textual key. -/
abbrev Script :=
  Table (Phase × String) (List Play)

/-- The next play of a phase for a key. -/
def Script.next (script : Script) (phase : Phase) (key : Key) : Play :=
  match script.find? (phase, key.text) with
  | some (play :: _) => play
  | _ => {}

/-- The script after a play of a phase for a key. -/
def Script.rest (script : Script) (phase : Phase) (key : Key) : Script :=
  match script.find? (phase, key.text) with
  | some (_ :: plays) => script.insert (phase, key.text) plays
  | _ => script

/-- A recorded call of a handler. -/
inductive HandlerCall (α : Type)
  | adopt (key : Key) (current : α)
  | sync (key : Key) (operation : Operation) (current prior : Option α)

/-- The surroundings of a rehearsal. -/
structure Rehearsal (α : Type) where
  script : Script := Table.empty
  /-- The calls made so far. -/
  calls : List (HandlerCall α) := []
  /-- The phases set so far. -/
  patches : List (Key × String) := []
  alerts : AlertStore := {}

namespace Rehearsal

variable {α : Type}

/-- Records a call and takes its play out of the script. -/
def enact (rehearsal : Rehearsal α) (phase : Phase) (key : Key) (call : HandlerCall α) :
    Rehearsal α :=
  { rehearsal with
    script := rehearsal.script.rest phase key
    calls := rehearsal.calls ++ [call] }

/-- A handler that follows the script. -/
def direct (handler : Handler α (Rehearsal α)) : Handler α (Rehearsal α) where
  adopt key object :=
    .act (fun rehearsal => rehearsal.enact .adopt key (.adopt key object)) fun before =>
      (before.script.next .adopt key).call (handler.adopt key object)
  sync key operation current prior :=
    .act (fun rehearsal => rehearsal.enact .sync key (.sync key operation current prior))
      fun before =>
        (before.script.next .sync key).call (handler.sync key operation current prior)

/-- A status writer that follows the script and succeeds by itself. -/
def setPhase (key : Key) (phase : String) : Call (Rehearsal α) :=
  .act (fun rehearsal =>
      { rehearsal with
        script := rehearsal.script.rest .patch key
        patches := rehearsal.patches ++ [(key, phase)] })
    fun before => (before.script.next .patch key).call Call.done

/-- A handler of alerts inside a rehearsal. -/
def withAlerts (handler : Handler α AlertStore) : Handler α (Rehearsal α) where
  adopt key object :=
    (handler.adopt key object).within Rehearsal.alerts
      fun alerts rehearsal => { rehearsal with alerts }
  sync key operation current prior :=
    (handler.sync key operation current prior).within Rehearsal.alerts
      fun alerts rehearsal => { rehearsal with alerts }

/-- The rehearsal with its records taken out. -/
def clearRecords (rehearsal : Rehearsal α) : Rehearsal α :=
  { rehearsal with calls := [], patches := [] }

end Rehearsal

/-- The schedule of a rehearsal with the records of what happened so far taken out. -/
def Schedule.clearRecords {α : Type} (schedule : Schedule α (Rehearsal α)) :
    Schedule α (Rehearsal α) :=
  let system := schedule.system
  { schedule with
    departed := []
    system :=
      { system with
        journal := system.journal.clearLines
        world := system.world.clearRecords } }

end Reconciler
