import Mathlib.Data.List.Nodup
import Reconciler.Table

/-!
# The entries of a table

A table is read as a map and listed as a list.  This file relates the two: as long as
the keys of a list are distinct, it has an entry exactly if the map has the value at
the key, and the order of the entries does not matter.  Tables that are built by
inserting and erasing have distinct keys.
-/

namespace Reconciler

namespace Table

universe u v

variable {κ : Type u} {ν : Type v} [DecidableEq κ]

/-! ## Distinct keys -/

theorem map_fst_place (key : κ) (value : ν) (entries : List (κ × ν)) :
    (place key value entries).map Prod.fst =
      if key ∈ entries.map Prod.fst then entries.map Prod.fst
      else entries.map Prod.fst ++ [key] := by
  induction entries with
  | nil => simp [place]
  | cons entry entries ih =>
      by_cases same : entry.1 = key
      · simp [place, same]
      · rw [place, if_neg same, List.map_cons, ih]
        by_cases member : key ∈ entries.map Prod.fst
        · rw [if_pos member, if_pos (by simp [member]), List.map_cons]
        · rw [if_neg member, if_neg (by simpa [Ne.symm same] using member)]
          rfl

omit [DecidableEq κ] in
theorem nodup_empty : (empty : Table κ ν).keys.Nodup :=
  List.nodup_nil

theorem nodup_insert {table : Table κ ν} (nodup : table.keys.Nodup) (key : κ) (value : ν) :
    (table.insert key value).keys.Nodup := by
  rw [keys, insert, map_fst_place]
  split
  · exact nodup
  next fresh =>
    rw [List.nodup_append]
    refine ⟨nodup, by simp, ?_⟩
    intro other member last lastMem
    rw [List.mem_singleton.mp lastMem]
    rintro rfl
    exact fresh member

theorem nodup_erase {table : Table κ ν} (nodup : table.keys.Nodup) (key : κ) :
    (table.erase key).keys.Nodup :=
  nodup.sublist (List.filter_sublist.map Prod.fst)

theorem nodup_foldl_insert (entries : List (κ × ν)) {table : Table κ ν}
    (nodup : table.keys.Nodup) :
    (entries.foldl (fun table entry => table.insert entry.1 entry.2) table).keys.Nodup := by
  induction entries generalizing table with
  | nil => exact nodup
  | cons entry entries ih => exact ih (nodup_insert nodup entry.1 entry.2)

theorem nodup_ofList (entries : List (κ × ν)) : (ofList entries).keys.Nodup :=
  nodup_foldl_insert entries nodup_empty

/-! ## Entries and values -/

theorem lookup_eq_none {key : κ} {entries : List (κ × ν)}
    (fresh : key ∉ entries.map Prod.fst) : lookup key entries = none := by
  induction entries with
  | nil => rfl
  | cons entry entries ih =>
      rw [List.map_cons, List.mem_cons, not_or] at fresh
      rw [lookup, if_neg (Ne.symm fresh.1), ih fresh.2]

/-- A list with distinct keys has the entry of a key that a lookup finds. -/
theorem lookup_eq_some_iff {key : κ} {value : ν} {entries : List (κ × ν)}
    (nodup : (entries.map Prod.fst).Nodup) :
    lookup key entries = some value ↔ (key, value) ∈ entries := by
  induction entries with
  | nil => simp [lookup]
  | cons entry entries ih =>
      obtain ⟨other, found⟩ := entry
      rw [List.map_cons, List.nodup_cons] at nodup
      rw [lookup]
      by_cases same : other = key
      · subst same
        have elsewhere : (other, value) ∉ entries := fun member =>
          nodup.1 (List.mem_map.mpr ⟨(other, value), member, rfl⟩)
        simp [elsewhere, eq_comm]
      · simp [same, Ne.symm same, ih nodup.2]

theorem mem_values_of_find? {table : Table κ ν} {key : κ} {value : ν}
    (found : table.find? key = some value) : value ∈ table.values := by
  obtain ⟨entries⟩ := table
  induction entries with
  | nil => cases found
  | cons entry entries ih =>
      change (if entry.1 = key then some entry.2 else lookup key entries) = some value at found
      split at found
      · rw [← Option.some.inj found]
        exact List.mem_cons_self
      · exact List.mem_cons_of_mem _ (ih found)

theorem eq_or_mem_of_mem_values_insert {table : Table κ ν} {key : κ} {value other : ν}
    (member : other ∈ (table.insert key value).values) : other = value ∨ other ∈ table.values := by
  obtain ⟨entries⟩ := table
  change other ∈ (place key value entries).map Prod.snd at member
  change other = value ∨ other ∈ entries.map Prod.snd
  induction entries with
  | nil => exact .inl (List.mem_singleton.mp member)
  | cons entry entries ih =>
      rw [List.map_cons, List.mem_cons]
      rw [place] at member
      split at member
      · rcases List.mem_cons.mp member with new | old
        · exact .inl new
        · exact .inr (.inr old)
      · rcases List.mem_cons.mp member with first | rest
        · exact .inr (.inl first)
        · exact (ih rest).imp_right .inr

/-- A table with distinct keys has the entry of a key with its value. -/
theorem mem_entries_iff {table : Table κ ν} (nodup : table.keys.Nodup) (key : κ) (value : ν) :
    (key, value) ∈ table.entries ↔ table.find? key = some value :=
  (lookup_eq_some_iff nodup).symm

theorem exists_find?_of_mem_values {table : Table κ ν} (nodup : table.keys.Nodup) {value : ν}
    (member : value ∈ table.values) : ∃ key, table.find? key = some value := by
  obtain ⟨⟨key, value⟩, listed, rfl⟩ := List.mem_map.mp member
  exact ⟨key, (mem_entries_iff nodup key value).mp listed⟩

theorem eq_or_mem_of_mem_insert {table : Table κ ν} (nodup : table.keys.Nodup) {key : κ}
    {value : ν} {entry : κ × ν} (member : entry ∈ (table.insert key value).entries) :
    entry = (key, value) ∨ entry ∈ table.entries := by
  obtain ⟨other, found⟩ := entry
  rw [mem_entries_iff (nodup_insert nodup key value), find?_insert] at member
  split at member
  next same => exact .inl (by rw [← same, ← Option.some.inj member])
  next => exact .inr ((mem_entries_iff nodup _ _).mpr member)

theorem find?_foldl_insert {entries : List (κ × ν)} (nodup : (entries.map Prod.fst).Nodup)
    (table : Table κ ν) (key : κ) :
    (entries.foldl (fun table entry => table.insert entry.1 entry.2) table).find? key =
      (lookup key entries).or (table.find? key) := by
  induction entries generalizing table with
  | nil => rfl
  | cons entry entries ih =>
      rw [List.map_cons, List.nodup_cons] at nodup
      rw [List.foldl_cons, ih nodup.2, find?_insert, lookup]
      by_cases same : entry.1 = key
      · rw [if_pos same, if_pos same, lookup_eq_none (same ▸ nodup.1)]
        rfl
      · rw [if_neg same, if_neg same]

/-- The table of a list with distinct keys has its entries. -/
theorem find?_ofList_eq_some_iff {entries : List (κ × ν)} (nodup : (entries.map Prod.fst).Nodup)
    (key : κ) (value : ν) :
    (ofList entries).find? key = some value ↔ (key, value) ∈ entries := by
  rw [ofList, find?_foldl_insert nodup, find?_empty, Option.or_none, lookup_eq_some_iff nodup]

/-! ## Counting values -/

theorem countP_insert_of_none {table : Table κ ν} {key : κ} (absent : table.find? key = none)
    (value : ν) (test : ν → Bool) :
    (table.insert key value).values.countP test =
      table.values.countP test + if test value then 1 else 0 := by
  obtain ⟨entries⟩ := table
  have placed : place key value entries = entries ++ [(key, value)] := by
    induction entries with
    | nil => rfl
    | cons entry entries ih =>
        change (if entry.1 = key then some entry.2 else lookup key entries) = none at absent
        split at absent
        · cases absent
        next apart => rw [place, if_neg apart, ih absent, List.cons_append]
  rw [values, values, insert, placed, List.map_append, List.countP_append]
  simp [List.countP_cons]

/-- A value that replaces another counts in its place. -/
theorem countP_insert_of_some {table : Table κ ν} {key : κ} {old : ν}
    (found : table.find? key = some old) (value : ν) (test : ν → Bool) :
    ((table.insert key value).values.countP test + if test old then 1 else 0) =
      table.values.countP test + if test value then 1 else 0 := by
  obtain ⟨entries⟩ := table
  rw [values, values, insert]
  change lookup key entries = some old at found
  induction entries with
  | nil => cases found
  | cons entry entries ih =>
      rw [lookup] at found
      rw [place]
      by_cases same : entry.1 = key
      · rw [if_pos same, Option.some.injEq] at found
        rw [if_pos same, ← found]
        simp only [List.map_cons, List.countP_cons]
        omega
      · rw [if_neg same] at found
        rw [if_neg same]
        have rest := ih found
        simp only [List.map_cons, List.countP_cons] at rest ⊢
        omega

theorem countP_erase {table : Table κ ν} (nodup : table.keys.Nodup) {key : κ} {old : ν}
    (found : table.find? key = some old) (test : ν → Bool) :
    ((table.erase key).values.countP test + if test old then 1 else 0) =
      table.values.countP test := by
  obtain ⟨entries⟩ := table
  rw [values, values, erase]
  change lookup key entries = some old at found
  change (entries.map Prod.fst).Nodup at nodup
  induction entries with
  | nil => cases found
  | cons entry entries ih =>
      rw [List.map_cons, List.nodup_cons] at nodup
      rw [lookup] at found
      by_cases same : entry.1 = key
      · -- No other entry has this key.
        have others : (entries.filter fun other => other.1 ≠ key) = entries := by
          rw [List.filter_eq_self]
          intro other member
          have apart : other.1 ≠ key := by
            rintro rfl
            exact nodup.1 (same ▸ List.mem_map_of_mem member)
          simp [apart]
        rw [if_pos same, Option.some.injEq] at found
        simp only [List.filter_cons, same, ne_eq, not_true, decide_false, Bool.false_eq_true,
          if_false, others, List.map_cons, List.countP_cons, found]
      · rw [if_neg same] at found
        have rest := ih found nodup.2
        simp only [List.filter_cons, same, ne_eq, not_false_eq_true, decide_true, if_true,
          List.map_cons, List.countP_cons] at rest ⊢
        omega

omit [DecidableEq κ] in
/-- If only one key can have a value that passes a test, at most one value passes it. -/
theorem countP_le_one {table : Table κ ν} (nodup : table.keys.Nodup) (test : ν → Bool)
    (alone : ∀ first ∈ table.entries, ∀ second ∈ table.entries,
      test first.2 = true → test second.2 = true → first.1 = second.1) :
    table.values.countP test ≤ 1 := by
  obtain ⟨entries⟩ := table
  rw [values]
  change (entries.map Prod.fst).Nodup at nodup
  induction entries with
  | nil => exact Nat.zero_le 1
  | cons entry entries ih =>
      rw [List.map_cons, List.nodup_cons] at nodup
      rw [List.map_cons, List.countP_cons]
      by_cases passes : test entry.2 = true
      · have others : (entries.map Prod.snd).countP test = 0 := by
          rw [List.countP_map, List.countP_eq_zero]
          intro other member passesToo
          have same := alone entry List.mem_cons_self other (List.mem_cons_of_mem _ member)
            passes passesToo
          exact nodup.1 (same ▸ List.mem_map_of_mem member)
        have own : (if test entry.2 = true then 1 else 0) = 1 := if_pos passes
        omega
      · rw [if_neg passes]
        refine ih (fun first firstMem second secondMem => ?_) nodup.2
        exact alone first (List.mem_cons_of_mem _ firstMem) second
          (List.mem_cons_of_mem _ secondMem)

end Table

end Reconciler
