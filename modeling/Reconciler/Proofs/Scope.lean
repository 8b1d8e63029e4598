import Reconciler.Cache
import Reconciler.Proofs.Table

/-!
# The cache of a scoped kind

The objects of a kind are either all in a namespace or all outside of any.  Then the
address of an object and its key say the same, and the cache is a map by key: the
object that a lookup gives for a key is the one cached object with this key.  Without a
common scope a lookup may fall back to an object of another key.
-/

namespace Reconciler

variable {α : Type}

/-- Where the objects of a kind live. -/
inductive Scope
  | namespaced
  | cluster
deriving DecidableEq, Repr

/-- Whether a namespace, or its absence, is that of an object in scope. -/
def Scope.Fits : Scope → Option String → Prop
  | .namespaced, some ns => ns ≠ ""
  | .cluster, none => True
  | _, _ => False

theorem Scope.nonEmpty?_of_fits {scope : Scope} {ns : Option String} (fits : scope.Fits ns) :
    nonEmpty? ns = ns := by
  cases scope with
  | namespaced =>
      cases ns with
      | none => rfl
      | some name =>
          have given : name ≠ "" := fits
          simp [nonEmpty?, given]
  | cluster =>
      cases ns with
      | none => rfl
      | some name => exact fits.elim

/-- The object whose key is the given one. -/
def found? [Resource α] (objects : Table Ref α) (key : Key) : Option α :=
  objects.values.find? fun object => Cache.keyOf object = key

theorem key_of_found? [Resource α] {objects : Table Ref α} {key : Key} {object : α}
    (found : found? objects key = some object) : Cache.keyOf object = key := by
  simpa using List.find?_some found

theorem mem_of_found? [Resource α] {objects : Table Ref α} {key : Key} {object : α}
    (found : found? objects key = some object) : object ∈ objects.values :=
  List.mem_of_find?_eq_some found

/-- The cached object whose key is the given one. -/
def Cache.objectAt? [Resource α] (cache : Cache α) (key : Key) : Option α :=
  found? cache.objects key

section

variable [Resource α] {scope : Scope}

/-- Whether an object is in scope. -/
def Scope.Covers (scope : Scope) (object : α) : Prop :=
  scope.Fits (Resource.metadata object).ns

/-- Whether an event is about an object in scope, or about none. -/
def Event.Within (scope : Scope) (event : Event α) : Prop :=
  ∀ object, event.object? = some object → scope.Covers object

theorem Scope.Covers.ref_keyOf {object : α} (covered : scope.Covers object) :
    (Cache.keyOf object).ref = refOf object := by
  have same : nonEmpty? (refOf object).ns = (refOf object).ns := Scope.nonEmpty?_of_fits covered
  rw [Cache.keyOf, Ref.key, Key.ref, same]

theorem Scope.Covers.fits_keyOf {object : α} (covered : scope.Covers object) :
    scope.Fits (Cache.keyOf object).ns := by
  have same : nonEmpty? (refOf object).ns = (refOf object).ns := Scope.nonEmpty?_of_fits covered
  rw [Cache.keyOf, Ref.key, same]
  exact covered

/-- In scope the address and the key of an object say the same. -/
theorem Scope.Covers.refOf_eq_iff {object : α} (covered : scope.Covers object) (key : Key) :
    refOf object = key.ref ↔ Cache.keyOf object = key := by
  rw [← covered.ref_keyOf]
  constructor
  · intro same
    have parts := Ref.mk.inj same
    exact Key.ext parts.1 parts.2
  · rintro rfl
    rfl

end

/-! ## Objects stored under their addresses -/

section

variable [Resource α] {scope : Scope} {objects : Table Ref α}

/-- The objects of a table are in scope, and each is stored under its own address. -/
structure Stored (scope : Scope) (objects : Table Ref α) : Prop where
  nodup : objects.keys.Nodup
  own : ∀ entry ∈ objects.entries, refOf entry.2 = entry.1
  covered : ∀ entry ∈ objects.entries, scope.Covers entry.2

theorem Stored.empty : Stored scope (Table.empty : Table Ref α) where
  nodup := Table.nodup_empty
  own entry member := by simp [Table.empty] at member
  covered entry member := by simp [Table.empty] at member

theorem Stored.insert (stored : Stored scope objects) {object : α}
    (covered : scope.Covers object) : Stored scope (objects.insert (refOf object) object) := by
  have nodup := Table.nodup_insert stored.nodup (refOf object) object
  refine ⟨nodup, ?_, ?_⟩
  · intro entry member
    rcases Table.eq_or_mem_of_mem_insert stored.nodup member with rfl | old
    · rfl
    · exact stored.own entry old
  · intro entry member
    rcases Table.eq_or_mem_of_mem_insert stored.nodup member with rfl | old
    · exact covered
    · exact stored.covered entry old

theorem Stored.erase (stored : Stored scope objects) (ref : Ref) :
    Stored scope (objects.erase ref) where
  nodup := Table.nodup_erase stored.nodup ref
  own entry member := stored.own entry (List.mem_of_mem_filter member)
  covered entry member := stored.covered entry (List.mem_of_mem_filter member)

/-- Looking for a key is looking up its address. -/
theorem Stored.found?_eq (stored : Stored scope objects) (key : Key) :
    found? objects key = objects.find? key.ref := by
  cases searched : found? objects key with
  | none =>
      symm
      rw [Option.eq_none_iff_forall_not_mem]
      intro object found
      have member := (Table.mem_entries_iff stored.nodup _ _).mpr found
      have own : refOf object = key.ref := stored.own _ member
      have different := List.find?_eq_none.mp searched object (List.mem_map_of_mem member)
      rw [(stored.covered _ member).refOf_eq_iff] at own
      simp [own] at different
  | some object =>
      have same := key_of_found? searched
      obtain ⟨entry, member, rfl⟩ := List.mem_map.mp (mem_of_found? searched)
      symm
      rw [← (stored.covered entry member).refOf_eq_iff, stored.own entry member] at same
      rw [← same]
      exact (Table.mem_entries_iff stored.nodup _ _).mp member

theorem Stored.found?_eq_some_iff (stored : Stored scope objects) (key : Key) (object : α) :
    found? objects key = some object ↔ object ∈ objects.values ∧ Cache.keyOf object = key := by
  constructor
  · intro found
    exact ⟨mem_of_found? found, key_of_found? found⟩
  · rintro ⟨member, same⟩
    obtain ⟨entry, entryMem, rfl⟩ := List.mem_map.mp member
    rw [← (stored.covered entry entryMem).refOf_eq_iff, stored.own entry entryMem] at same
    rw [stored.found?_eq, ← same]
    exact (Table.mem_entries_iff stored.nodup _ _).mp entryMem

theorem Stored.nodup_keyOf (stored : Stored scope objects) :
    (objects.values.map Cache.keyOf).Nodup := by
  have addresses : (objects.values.map Cache.keyOf).map Key.ref = objects.keys := by
    rw [Table.values, Table.keys, List.map_map, List.map_map]
    apply List.map_congr_left
    intro entry member
    rw [← stored.own entry member]
    exact (stored.covered entry member).ref_keyOf
  apply List.Nodup.of_map Key.ref
  rw [addresses]
  exact stored.nodup

/-- A lookup in scope does not fall back to another address. -/
theorem Stored.lookup_eq (stored : Stored scope objects) {ref : Ref} (fits : scope.Fits ref.ns) :
    Cache.lookup objects ref = objects.find? ref := by
  obtain ⟨ns, name⟩ := ref
  unfold Cache.lookup
  cases scope with
  | namespaced =>
      have absent : objects.find? ⟨none, name⟩ = none := by
        rw [Option.eq_none_iff_forall_not_mem]
        intro object found
        have member := (Table.mem_entries_iff stored.nodup _ _).mpr found
        have outside : (refOf object).ns = none := by rw [stored.own _ member]
        have inside : (Resource.metadata object).ns ≠ none := by
          intro missing
          have covered := stored.covered _ member
          rw [Scope.Covers, missing] at covered
          exact covered
        exact inside outside
      rw [absent, Option.or_none]
  | cluster =>
      cases ns with
      | none => exact Option.or_self
      | some ns => exact fits.elim

theorem Stored.found?_insert (stored : Stored scope objects) {object : α}
    (covered : scope.Covers object) (key : Key) :
    found? (objects.insert (refOf object) object) key =
      if Cache.keyOf object = key then some object else found? objects key := by
  rw [(stored.insert covered).found?_eq, Table.find?_insert, stored.found?_eq]
  simp only [covered.refOf_eq_iff]

theorem Stored.found?_erase (stored : Stored scope objects) {object : α}
    (covered : scope.Covers object) (key : Key) :
    found? (objects.erase (refOf object)) key =
      if Cache.keyOf object = key then none else found? objects key := by
  rw [(stored.erase _).found?_eq, Table.find?_erase, stored.found?_eq]
  simp only [covered.refOf_eq_iff]

theorem Stored.lookup_refOf (stored : Stored scope objects) {object : α}
    (covered : scope.Covers object) :
    Cache.lookup objects (refOf object) = found? objects (Cache.keyOf object) := by
  have fits : scope.Fits (refOf object).ns := covered
  rw [stored.lookup_eq fits, stored.found?_eq, covered.ref_keyOf]

theorem Stored.fits_of_found? (stored : Stored scope objects) {key : Key} {object : α}
    (found : found? objects key = some object) : scope.Fits key.ns := by
  have same := key_of_found? found
  obtain ⟨entry, member, rfl⟩ := List.mem_map.mp (mem_of_found? found)
  rw [← same]
  exact (stored.covered entry member).fits_keyOf

/-- What a cache gives for a key in scope is the object with this key. -/
theorem Stored.get?_eq {cache : Cache α} (stored : Stored scope cache.objects) {key : Key}
    (fits : scope.Fits key.ns) : cache.get? key = cache.objectAt? key := by
  rw [Cache.get?, stored.lookup_eq fits, Cache.objectAt?, stored.found?_eq]

end

end Reconciler
