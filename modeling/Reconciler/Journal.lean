import Reconciler.Failure
import Reconciler.Table
import Reconciler.Work

/-!
# Log and counters

A controller tells what it does in a log and in counters.  Counters are kept per
operation; a counter shows up in the listing once it has been incremented.
-/

namespace Reconciler

/-- How important a log line is. -/
inductive Level
  | error
  | warn
  | info
  | debug
deriving DecidableEq, Repr

/-- The name of a level. -/
def Level.text : Level → String
  | .error => "ERROR"
  | .warn => "WARN"
  | .info => "INFO"
  | .debug => "DEBUG"

/-- The rank of a level, more important ones first. -/
def Level.rank : Level → Nat
  | .error => 0
  | .warn => 1
  | .info => 2
  | .debug => 3

/-- Whether lines of a level are kept in a log that keeps everything up to a threshold;
without a threshold it keeps nothing. -/
def Level.passes (level : Level) : Option Level → Bool
  | none => false
  | some threshold => level.rank ≤ threshold.rank

/-- A line of the log. -/
structure Line where
  level : Level
  text : String
deriving DecidableEq, Repr

/-- A line with its level in front. -/
def Line.render (line : Line) : String :=
  line.level.text ++ " " ++ line.text

/-- What is counted. -/
inductive Counter
  /-- Reconciliations, whatever their outcome. -/
  | reconciled (operation : Operation)
  /-- Reconciliations that failed, other than by the object being gone. -/
  | failed (operation : Operation)
  /-- Items that are tried again. -/
  | requeued (operation : Operation)
  /-- Items dropped after all their retries. -/
  | dropped (operation : Operation)
  /-- Errors reported for good. -/
  | reported
deriving DecidableEq, Repr

/-- The full name of a metric. -/
def metricName (name : String) : String :=
  "node_controller_" ++ name

/-- The short name of the metric behind a counter. -/
def Counter.metric : Counter → String
  | .reconciled _ => "reconcile_count"
  | .failed _ => "reconcile_errors"
  | .requeued _ => "requeue_count"
  | .dropped _ => "drop_count"
  | .reported => "reported_errors"

/-- The operation that a counter is kept for, if any. -/
def Counter.operation? : Counter → Option Operation
  | .reconciled operation => some operation
  | .failed operation => some operation
  | .requeued operation => some operation
  | .dropped operation => some operation
  | .reported => none

/-- The counts of a controller. -/
structure Meter where
  counts : Table Counter Nat := Table.empty
deriving DecidableEq, Repr

namespace Meter

/-- The value of a counter. -/
def count (meter : Meter) (counter : Counter) : Nat :=
  (meter.counts.find? counter).getD 0

/-- Increments a counter. -/
def increment (meter : Meter) (counter : Counter) : Meter :=
  ⟨meter.counts.insert counter (meter.count counter + 1)⟩

/-- Incrementing raises the one counter only. -/
theorem count_increment (meter : Meter) (counter other : Counter) :
    (meter.increment counter).count other =
      if counter = other then meter.count counter + 1 else meter.count other := by
  simp only [count, increment, Table.find?_insert]
  split <;> rfl

/-- The labels of a counter of a controller, as they stand in a listing. -/
def labels (controller : String) (counter : Counter) : String :=
  let operation :=
    match counter.operation? with
    | none => ""
    | some operation => ",operation=" ++ operation.text
  "\x7bcontroller=" ++ controller ++ operation ++ "\x7d"

/-- The lines of one counter.  Every reconciliation is timed, so their count comes
with the sample count of the durations. -/
def linesOf (controller : String) (entry : Counter × Nat) : List String :=
  let labels := labels controller entry.1
  let count := " " ++ toString entry.2
  let total := metricName entry.1.metric ++ "_total" ++ labels ++ count
  match entry.1 with
  | .reconciled _ =>
      [total, metricName "reconcile_duration_ms" ++ "_milliseconds_count" ++ labels ++ count]
  | _ => [total]

/-- The listing of all counters of a controller, in order of the lines. -/
def listing (controller : String) (meter : Meter) : List String :=
  (meter.counts.entries.flatMap (linesOf controller)).mergeSort fun first second =>
    !(second < first)

end Meter

/-- The log and the counters of a controller. -/
structure Journal where
  lines : List Line := []
  meter : Meter := {}
deriving DecidableEq, Repr

namespace Journal

/-- Writes a line. -/
def write (journal : Journal) (level : Level) (text : String) : Journal :=
  { journal with lines := journal.lines ++ [⟨level, text⟩] }

/-- Writes lines in order. -/
def writeAll (journal : Journal) (lines : List Line) : Journal :=
  { journal with lines := journal.lines ++ lines }

/-- Increments a counter. -/
def count (journal : Journal) (counter : Counter) : Journal :=
  { journal with meter := journal.meter.increment counter }

/-- Reports a failure for good: it is logged and counted. -/
def report (journal : Journal) (context : String) (failure : Failure) : Journal :=
  (journal.write .error (context ++ ": " ++ failure.message)).count .reported

/-- The journal with its lines taken out. -/
def clearLines (journal : Journal) : Journal :=
  { journal with lines := [] }

end Journal

end Reconciler
