/-!
# Durations

A duration is a number of nanoseconds up to a ceiling of `2 ^ 64` seconds less
one nanosecond.  Arithmetic stops at the ceiling instead of wrapping around.
-/

namespace Reconciler

/-- The longest duration, in nanoseconds. -/
def Duration.ceiling : Nat :=
  Nat.pow 2 64 * 1000000000 - 1

/-- A length of time in whole nanoseconds, at most `Duration.ceiling`. -/
@[ext]
structure Duration where
  nanos : Nat
  nanos_le : nanos ≤ Duration.ceiling
deriving DecidableEq, Repr

namespace Duration

/-- The duration of `nanos` nanoseconds, or the longest one if there is none. -/
def clamp (nanos : Nat) : Duration :=
  ⟨min nanos ceiling, Nat.min_le_right nanos ceiling⟩

/-- No time at all. -/
def zero : Duration :=
  clamp 0

instance : Inhabited Duration :=
  ⟨zero⟩

/-- The duration of whole seconds. -/
def ofSeconds (seconds : Nat) : Duration :=
  clamp (seconds * 1000000000)

/-- The duration of whole milliseconds. -/
def ofMillis (millis : Nat) : Duration :=
  clamp (millis * 1000000)

/-- Whole seconds of a duration. -/
def seconds (duration : Duration) : Nat :=
  duration.nanos / 1000000000

/-- A multiple of a duration, cut at the ceiling. -/
def scale (duration : Duration) (factor : Nat) : Duration :=
  clamp (duration.nanos * factor)

@[simp]
theorem scale_nanos (duration : Duration) (factor : Nat) :
    (duration.scale factor).nanos = min (duration.nanos * factor) ceiling :=
  rfl

/-- The shorter of two durations. -/
def shorter (first second : Duration) : Duration :=
  if first.nanos ≤ second.nanos then first else second

@[simp]
theorem shorter_nanos (first second : Duration) :
    (first.shorter second).nanos = min first.nanos second.nanos := by
  unfold shorter
  split <;> omega

/-- The duration in milliseconds, rounded up. -/
def ceilMillis (duration : Duration) : Nat :=
  (duration.nanos + 999999) / 1000000

/-- The fraction digits of `rest` out of `10 ^ places`, without trailing zeros. -/
def fraction (places rest : Nat) : List Char :=
  let digits := (Nat.toDigits 10 rest)
  let padded := List.replicate (places - digits.length) '0' ++ digits
  (padded.reverse.dropWhile (· == '0')).reverse

/-- A count of nanoseconds in a unit of `10 ^ places` nanoseconds. -/
def inUnit (places : Nat) (unit : String) (nanos : Nat) : String :=
  let whole := toString (nanos / Nat.pow 10 places)
  let rest := nanos % Nat.pow 10 places
  if rest = 0 then whole ++ unit
  else whole ++ "." ++ String.ofList (fraction places rest) ++ unit

/-- The exact text of a duration in the largest of the units `s`, `ms`, `µs` and
`ns` with a whole part. -/
def text (duration : Duration) : String :=
  let nanos := duration.nanos
  if 1000000000 ≤ nanos then inUnit 9 "s" nanos
  else if 1000000 ≤ nanos then inUnit 6 "ms" nanos
  else if 1000 ≤ nanos then inUnit 3 "µs" nanos
  else inUnit 0 "ns" nanos

end Duration

end Reconciler
