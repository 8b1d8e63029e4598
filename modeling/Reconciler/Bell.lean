/-!
# Waking waiters

A bell wakes those who wait for something to do.  Ringing it wakes the one who has
waited longest; if nobody waits, the ring is remembered for the next to come.
Closing wakes everybody who waits and is not remembered.  Whoever was woken by a
ring but leaves without having noticed passes the ring on.
-/

namespace Reconciler

/-- How a waiter was woken. -/
inductive Waking
  /-- By a ring meant for one. -/
  | ring
  /-- By closing, together with everybody else. -/
  | closing
deriving DecidableEq, Repr

/-- Who waits, who was woken, and whether a ring is remembered. -/
structure Bell where
  /-- A ring that nobody has answered. -/
  remembered : Bool := false
  /-- Those who wait, the longest first. -/
  waiting : List Nat := []
  /-- Those who were woken and have not noticed yet, in the order of waking. -/
  woken : List (Nat × Waking) := []
deriving DecidableEq, Repr

namespace Bell

/-- Rings for one waiter. -/
def ring (bell : Bell) : Bell :=
  match bell.waiting with
  | [] => { bell with remembered := true }
  | first :: rest => { bell with waiting := rest, woken := bell.woken ++ [(first, .ring)] }

/-- Wakes everybody who waits. -/
def wakeAll (bell : Bell) : Bell :=
  { bell with
    waiting := []
    woken := bell.woken ++ bell.waiting.map fun waiter => (waiter, .closing) }

/-- Whether somebody who comes now need not wait. -/
def answers (bell : Bell) : Bool :=
  bell.remembered

/-- Comes to the bell: takes the remembered ring or begins to wait. -/
def come (bell : Bell) (waiter : Nat) : Bell :=
  if bell.remembered then { bell with remembered := false }
  else { bell with waiting := bell.waiting ++ [waiter] }

/-- How a waiter was woken, if it was. -/
def wokenBy? (bell : Bell) (waiter : Nat) : Option Waking :=
  (bell.woken.find? fun entry => entry.1 == waiter).map Prod.snd

/-- Notices having been woken. -/
def notice (bell : Bell) (waiter : Nat) : Bell :=
  { bell with woken := bell.woken.filter fun entry => entry.1 ≠ waiter }

/-- Leaves without waiting any longer; a ring not noticed yet is passed on. -/
def leave (bell : Bell) (waiter : Nat) : Bell :=
  let gone :=
    { bell with
      waiting := bell.waiting.filter fun other => other ≠ waiter
      woken := bell.woken.filter fun entry => entry.1 ≠ waiter }
  match bell.wokenBy? waiter with
  | some .ring => gone.ring
  | _ => gone

end Bell

end Reconciler
