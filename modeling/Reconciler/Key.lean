import Reconciler.Failure

/-!
# Keys

A key identifies an object of one kind: its name, and its namespace unless the
kind is cluster scoped.  Its textual form is `namespace/name` or just `name`.
Keys are ordered by namespace first, with a missing namespace before any other.
-/

namespace Reconciler

/-- The identity of an object, independent of its kind. -/
@[ext]
structure Key where
  ns : Option String
  name : String
deriving DecidableEq, Repr

namespace Key

/-- The textual form of a key. -/
def text (key : Key) : String :=
  match key.ns with
  | some ns => ns ++ "/" ++ key.name
  | none => key.name

instance : ToString Key :=
  ⟨text⟩

/-- The parts of a text between its slashes. -/
def segments : List Char → List (List Char)
  | [] => [[]]
  | char :: rest =>
      if char = '/' then [] :: segments rest
      else
        match segments rest with
        | [] => [[char]]
        | first :: others => (char :: first) :: others

/-- The failure to read a text that is no key. -/
def unreadable (text : String) : Failure :=
  .malformedKey ("unexpected key format: " ++ Text.quoted text)

/-- Reads the textual form: one or two segments, none of them empty. -/
def parse (text : String) : Except Failure Key :=
  match segments text.toList with
  | [name] =>
      if name = [] then .error (unreadable text) else .ok ⟨none, String.ofList name⟩
  | [ns, name] =>
      if ns = [] || name = [] then .error (unreadable text)
      else .ok ⟨some (String.ofList ns), String.ofList name⟩
  | _ => .error (unreadable text)

/-- Whether a key comes before another. -/
def before (first second : Key) : Bool :=
  match first.ns, second.ns with
  | none, none => first.name < second.name
  | none, some _ => true
  | some _, none => false
  | some ns, some other => ns < other || (ns == other && first.name < second.name)

/-- Whether a key comes before another or is the same. -/
def atMost (first second : Key) : Bool :=
  !second.before first

/-- Keys in order. -/
def sort (keys : List Key) : List Key :=
  keys.mergeSort atMost

/-- A list without the repetition of a neighbour. -/
def dedupAdjacent : List Key → List Key
  | [] => []
  | [key] => [key]
  | first :: second :: rest =>
      if first = second then dedupAdjacent (second :: rest)
      else first :: dedupAdjacent (second :: rest)

theorem segments_ne_nil (chars : List Char) : segments chars ≠ [] := by
  cases chars with
  | nil => simp [segments]
  | cons char rest =>
      unfold segments
      split
      · simp
      · split <;> simp

end Key

end Reconciler
