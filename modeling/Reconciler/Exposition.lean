import Reconciler.Decimal.Positional
import Reconciler.Journal

/-!
# The metrics page

Metrics are shown on a page of text.  Samples of one metric form a family, which has
a name, a help text and a kind.  Families are listed by name, those without samples
are left out; the samples of a family are listed by the values of their labels, and
labels by name.
-/

namespace Reconciler

namespace Exposition

/-- A value of a metric with its labels. -/
structure Sample where
  /-- Names and values of the labels, ordered by name. -/
  labels : List (String × String) := []
  value : Float

/-- How the values of a metric change. -/
inductive Kind
  /-- They only ever grow. -/
  | counter
  /-- They go up and down. -/
  | gauge
deriving DecidableEq, Repr

/-- The name of a kind. -/
def Kind.text : Kind → String
  | .counter => "counter"
  | .gauge => "gauge"

/-- The samples of one metric. -/
structure Family where
  name : String
  help : String
  kind : Kind := .counter
  samples : List Sample := []

/-- A help text on one line. -/
def escapeHelp (help : String) : String :=
  String.ofList (help.toList.flatMap fun char =>
    if char = '\\' then ['\\', '\\'] else if char = '\n' then ['\\', 'n'] else [char])

/-- The value of a label between quotation marks. -/
def escapeValue (value : String) : String :=
  String.ofList (value.toList.flatMap fun char =>
    if char = '\\' then ['\\', '\\']
    else if char = '\n' then ['\\', 'n']
    else if char = '"' then ['\\', '"']
    else [char])

/-- A sample whose labels are ordered by name. -/
def Sample.of (labels : List (String × String)) (value : Float) : Sample :=
  ⟨labels.mergeSort fun first second => !(second.1 < first.1), value⟩

/-- The labels of a sample in braces; nothing if there are none. -/
def Sample.labelText (sample : Sample) : String :=
  if sample.labels.isEmpty then ""
  else
    "\x7b" ++ ",".intercalate (sample.labels.map fun label =>
      label.1 ++ "=\"" ++ escapeValue label.2 ++ "\"") ++ "\x7d"

/-- The line of a sample of a metric. -/
def Sample.line (name : String) (sample : Sample) : String :=
  name ++ sample.labelText ++ " " ++ Decimal.positional sample.value

/-- Whether values come before others or are the same; fewer values come first. -/
def valuesAtMost (first second : List String) : Bool :=
  first.length < second.length || (first.length == second.length && !(second < first))

/-- Whether a sample comes before another or has the same values. -/
def Sample.atMost (first second : Sample) : Bool :=
  valuesAtMost (first.labels.map Prod.snd) (second.labels.map Prod.snd)

/-- The lines of a family. -/
def Family.lines (family : Family) : List String :=
  [ "# HELP " ++ family.name ++ " " ++ escapeHelp family.help,
    "# TYPE " ++ family.name ++ " " ++ family.kind.text ] ++
    (family.samples.mergeSort Sample.atMost).map (Sample.line family.name)

/-- The page that shows some families. -/
def page (families : List Family) : String :=
  let shown := families.filter fun family => !family.samples.isEmpty
  let sorted := shown.mergeSort fun first second => !(second.name < first.name)
  String.join ((sorted.flatMap Family.lines).map fun line => line ++ "\n")

/-- The family of the errors that were reported for good, from the counts of the
controllers.  A controller without reports has no sample. -/
def reportedErrors (counts : List (String × Nat)) : Family :=
  { name := metricName Counter.reported.metric ++ "_total"
    help := "Count of errors reported to the error sink"
    samples := (counts.filter fun count => count.2 ≠ 0).map fun count =>
      Sample.of [("controller", count.1), ("otel_scope_name", "error_sink")]
        (Float.ofNat count.2) }

/-- The family that says what is measured. -/
def targetInfo : Family :=
  { name := "target_info"
    help := "Target metadata"
    kind := .gauge
    samples := [Sample.of [
      ("service_name", "unknown_service"),
      ("telemetry_sdk_language", "rust"),
      ("telemetry_sdk_name", "opentelemetry"),
      ("telemetry_sdk_version", "0.29.0")] 1.0] }

end Exposition

end Reconciler
