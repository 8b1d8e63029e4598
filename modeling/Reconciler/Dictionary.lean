import Reconciler.Table

/-!
# Dictionaries

A dictionary holds values by name and lists them in the order of the names, each
name once.  So the list says everything about a dictionary, and what was put into it
first does not show.
-/

namespace Reconciler

/-- Values by name, listed in the order of the names. -/
@[ext]
structure Dictionary (ν : Type) where
  entries : List (String × ν)
  ordered : entries.Pairwise fun first second => first.1 < second.1
deriving DecidableEq, Repr

namespace Dictionary

variable {ν : Type}

/-- The dictionary without entries. -/
def empty : Dictionary ν :=
  ⟨[], List.Pairwise.nil⟩

instance : Inhabited (Dictionary ν) :=
  ⟨empty⟩

instance : EmptyCollection (Dictionary ν) :=
  ⟨empty⟩

/-- Puts an entry before the first one with a greater name, in the place of one with
the same name. -/
def place (name : String) (value : ν) : List (String × ν) → List (String × ν)
  | [] => [(name, value)]
  | entry :: entries =>
      if entry.1 = name then (name, value) :: entries
      else if name < entry.1 then (name, value) :: entry :: entries
      else entry :: place name value entries

theorem eq_or_mem_of_mem_place {name : String} {value : ν} {entry : String × ν}
    {entries : List (String × ν)} (member : entry ∈ place name value entries) :
    entry = (name, value) ∨ entry ∈ entries := by
  induction entries with
  | nil => exact Or.inl (List.mem_singleton.1 member)
  | cons first entries ih =>
      unfold place at member
      split at member
      · exact (List.mem_cons.1 member).imp_right (List.mem_cons_of_mem first)
      · split at member
        · exact List.mem_cons.1 member
        · rcases List.mem_cons.1 member with same | later
          · exact Or.inr (same ▸ List.mem_cons_self)
          · exact (ih later).imp_right (List.mem_cons_of_mem first)

/-- Placing an entry keeps the order of the names. -/
theorem place_ordered (name : String) (value : ν) {entries : List (String × ν)}
    (ordered : entries.Pairwise fun first second => first.1 < second.1) :
    (place name value entries).Pairwise fun first second => first.1 < second.1 := by
  induction entries with
  | nil => exact List.pairwise_singleton _ _
  | cons first entries ih =>
      obtain ⟨below, rest⟩ := List.pairwise_cons.1 ordered
      unfold place
      split
      · rename_i same
        exact List.pairwise_cons.2 ⟨fun entry member => same ▸ below entry member, rest⟩
      · rename_i differ
        split
        · rename_i before
          refine List.pairwise_cons.2 ⟨fun entry member => ?_, ordered⟩
          rcases List.mem_cons.1 member with same | later
          · exact same ▸ before
          · exact String.lt_trans before (below entry later)
        · rename_i notBefore
          have after : first.1 < name := Std.lt_of_le_of_ne (String.not_lt.1 notBefore) differ
          refine List.pairwise_cons.2 ⟨fun entry member => ?_, ih rest⟩
          rcases eq_or_mem_of_mem_place member with same | earlier
          · exact same ▸ after
          · exact below entry earlier

/-- The dictionary with `value` at `name`. -/
def insert (dictionary : Dictionary ν) (name : String) (value : ν) : Dictionary ν :=
  ⟨place name value dictionary.entries, place_ordered name value dictionary.ordered⟩

/-- The value at a name. -/
def find? (dictionary : Dictionary ν) (name : String) : Option ν :=
  Table.lookup name dictionary.entries

/-- The dictionary of a list of entries; of two with one name the later counts. -/
def ofList (entries : List (String × ν)) : Dictionary ν :=
  entries.foldl (fun dictionary entry => dictionary.insert entry.1 entry.2) empty

/-- A name greater than all others comes last. -/
theorem place_above {name : String} {value : ν} {entries : List (String × ν)}
    (above : ∀ entry ∈ entries, entry.1 < name) :
    place name value entries = entries ++ [(name, value)] := by
  induction entries with
  | nil => rfl
  | cons first entries ih =>
      have before : first.1 < name := above first List.mem_cons_self
      have differ : first.1 ≠ name := fun same => String.lt_irrefl name (same ▸ before)
      have notAfter : ¬ name < first.1 := fun after =>
        String.lt_irrefl name (String.lt_trans after before)
      simp [place, differ, notAfter, ih fun entry member =>
        above entry (List.mem_cons_of_mem first member)]

theorem lookup_place (name other : String) (value : ν) (entries : List (String × ν)) :
    Table.lookup other (place name value entries) =
      if name = other then some value else Table.lookup other entries := by
  induction entries with
  | nil => simp [place, Table.lookup]
  | cons entry entries ih =>
      unfold place
      split
      · rename_i found
        by_cases same : name = other <;> simp [Table.lookup, found, same]
      · rename_i differ
        split
        · by_cases same : name = other <;> simp [Table.lookup, same]
        · by_cases same : name = other
          · subst same
            simp [Table.lookup, differ, ih]
          · simp [Table.lookup, ih, same]

/-- Inserting changes the value at the one name only. -/
theorem find?_insert (dictionary : Dictionary ν) (name other : String) (value : ν) :
    (dictionary.insert name value).find? other =
      if name = other then some value else dictionary.find? other :=
  lookup_place name other value dictionary.entries

end Dictionary

end Reconciler
