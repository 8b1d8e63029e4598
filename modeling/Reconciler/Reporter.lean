import Reconciler.Alert
import Reconciler.Cache
import Reconciler.Capacity

/-!
# The reporter

The reporter makes a report at once and then every minute until it is told to stop.
A report sums up the capacity of the cluster, provided that the caches of nodes and
pods are synced, and delivers the pending alerts.
-/

namespace Reconciler

/-- The time between two reports, in milliseconds. -/
def reportInterval : Nat :=
  60000

/-- The lines about the capacity of the cluster, once both caches are synced. -/
def capacityLines (nodes : Cache Node) (pods : Cache Pod) : List Line :=
  if nodes.synced && pods.synced then [⟨.info, (Capacity.of nodes.list pods.list).text⟩]
  else []

/-- What the reporter looks at, and when it reports next. -/
structure Reporter where
  now : Nat := 0
  /-- The time of the next report. -/
  due : Nat := 0
  nodes : Cache Node := {}
  pods : Cache Pod := {}
  alerts : AlertStore := {}
  /-- Whether it was not told to stop. -/
  running : Bool := true
  lines : List Line := []

namespace Reporter

/-- Makes a report. -/
def report (age : Alert → String) (reporter : Reporter) : Reporter :=
  let (alerts, delivered, _) := (AlertStore.deliver age).runAlone reporter.alerts
  { reporter with
    alerts
    lines := reporter.lines ++ capacityLines reporter.nodes reporter.pods ++ delivered }

/-- Makes the report that is due. -/
def tick (age : Alert → String) (reporter : Reporter) : Reporter :=
  { reporter.report age with now := reporter.due, due := reporter.due + reportInterval }

/-- Makes a number of reports, each at its time. -/
def ticks (age : Alert → String) : Nat → Reporter → Reporter
  | 0, reporter => reporter
  | count + 1, reporter => ticks age count (reporter.tick age)

/-- The number of reports that are due up to a time. -/
def dueUntil (reporter : Reporter) (time : Nat) : Nat :=
  if reporter.running && reporter.due ≤ time then (time - reporter.due) / reportInterval + 1 else 0

/-- Lets time pass up to a given time, including the report of that time. -/
def passUntil (age : Alert → String) (reporter : Reporter) (time : Nat) : Reporter :=
  { reporter.ticks age (reporter.dueUntil time) with now := time }

/-- A reporter that starts now. -/
def start (age : Alert → String) : Reporter :=
  passUntil age {} 0

/-- Lets time pass. -/
def sleep (age : Alert → String) (reporter : Reporter) (millis : Nat) : Reporter :=
  reporter.passUntil age (reporter.now + millis)

/-- Tells the reporter to stop. -/
def stop (reporter : Reporter) : Reporter :=
  { reporter with running := false }

/-- The reporter with its lines taken out. -/
def clearLines (reporter : Reporter) : Reporter :=
  { reporter with lines := [] }

end Reporter

end Reconciler
