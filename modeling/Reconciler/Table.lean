/-!
# Finite tables

A table is a finite map kept as a list of entries with the newest value of each
key.  Replacing a value keeps the entry's place, so the order of entries is the
order in which their keys first came in.
-/

namespace Reconciler

universe u v

/-- A finite map from keys to values, listed in the order the keys came in. -/
@[ext]
structure Table (κ : Type u) (ν : Type v) where
  entries : List (κ × ν) := []
deriving DecidableEq, Repr

namespace Table

variable {κ : Type u} {ν : Type v} [DecidableEq κ]

/-- The table without entries. -/
def empty : Table κ ν :=
  ⟨[]⟩

instance : Inhabited (Table κ ν) :=
  ⟨empty⟩

instance : EmptyCollection (Table κ ν) :=
  ⟨empty⟩

/-- The value at a key in a list of entries; the first entry of the key counts. -/
def lookup (key : κ) : List (κ × ν) → Option ν
  | [] => none
  | entry :: entries => if entry.1 = key then some entry.2 else lookup key entries

/-- Puts a value at a key, in the place of the key's first entry or at the end. -/
def place (key : κ) (value : ν) : List (κ × ν) → List (κ × ν)
  | [] => [(key, value)]
  | entry :: entries =>
      if entry.1 = key then (key, value) :: entries else entry :: place key value entries

/-- The value at a key. -/
def find? (table : Table κ ν) (key : κ) : Option ν :=
  lookup key table.entries

/-- Whether a key has a value. -/
def contains (table : Table κ ν) (key : κ) : Bool :=
  (table.find? key).isSome

/-- The table with `value` at `key`. -/
def insert (table : Table κ ν) (key : κ) (value : ν) : Table κ ν :=
  ⟨place key value table.entries⟩

/-- The table without the key. -/
def erase (table : Table κ ν) (key : κ) : Table κ ν :=
  ⟨table.entries.filter fun entry => entry.1 ≠ key⟩

/-- The table of a list of entries; later entries replace earlier ones. -/
def ofList (entries : List (κ × ν)) : Table κ ν :=
  entries.foldl (fun table entry => table.insert entry.1 entry.2) empty

/-- The keys of a table in order. -/
def keys (table : Table κ ν) : List κ :=
  table.entries.map Prod.fst

/-- The values of a table in order. -/
def values (table : Table κ ν) : List ν :=
  table.entries.map Prod.snd

@[simp]
theorem find?_empty (key : κ) : (empty : Table κ ν).find? key = none :=
  rfl

theorem lookup_place (key other : κ) (value : ν) (entries : List (κ × ν)) :
    lookup other (place key value entries) =
      if key = other then some value else lookup other entries := by
  induction entries with
  | nil => simp [place, lookup]
  | cons entry entries ih =>
      by_cases found : entry.1 = key
      · by_cases same : key = other <;> simp [place, lookup, found, same]
      · by_cases same : key = other
        · subst same
          simp [place, lookup, found, ih]
        · simp [place, lookup, found, ih, same]

/-- Inserting changes the value of the one key only. -/
theorem find?_insert (table : Table κ ν) (key other : κ) (value : ν) :
    (table.insert key value).find? other =
      if key = other then some value else table.find? other :=
  lookup_place key other value table.entries

theorem lookup_filter_ne (key other : κ) (entries : List (κ × ν)) :
    lookup other (entries.filter fun entry => entry.1 ≠ key) =
      if key = other then none else lookup other entries := by
  induction entries with
  | nil => simp [lookup]
  | cons entry entries ih =>
      by_cases found : entry.1 = key
      · by_cases same : key = other <;> simp_all [lookup]
      · by_cases same : key = other
        · subst same
          simp_all [lookup]
        · simp_all [lookup]

/-- Erasing removes the value of the one key only. -/
theorem find?_erase (table : Table κ ν) (key other : κ) :
    (table.erase key).find? other = if key = other then none else table.find? other :=
  lookup_filter_ne key other table.entries

end Table

end Reconciler
