import Reconciler.Node
import Reconciler.Proofs.ChangeStream

/-!
# Addresses and keys

A cache keeps its objects by address and is asked for them by key.  An address has the
namespace of the object as it is given, whereas a key drops an empty one, and a lookup
that finds nothing at an address tries the same name without a namespace.

At every address the cache has the object that was brought there last.  A key is
answered with the object at its own address, or else with the one of that name outside
of any namespace.  This is the object of the key exactly if no object with this name
hides behind an empty namespace, or steps in from outside.
-/

namespace Reconciler

theorem nonEmpty?_eq_some_iff {text : Option String} {value : String} :
    nonEmpty? text = some value ↔ text = some value ∧ value ≠ "" := by
  simp [nonEmpty?, Option.filter_eq_some_iff]

theorem nonEmpty?_eq_none_iff {text : Option String} :
    nonEmpty? text = none ↔ text = none ∨ text = some "" := by
  cases text <;> simp [nonEmpty?, Option.filter]

theorem Metadata.key_eq_ok_iff {metadata : Metadata} {key : Key} :
    metadata.key = .ok key ↔ metadata.ref.key = key ∧ key.name ≠ "" := by
  have read : metadata.key = .ok key ↔ metadata.key? = some key := by
    unfold Metadata.key
    cases metadata.key? <;> simp
  rw [read]
  constructor
  · intro named
    obtain ⟨name, given, rfl⟩ := Option.map_eq_some_iff.mp named
    exact ⟨ref_key_eq named, (nonEmpty?_eq_some_iff.mp given).2⟩
  · rintro ⟨rfl, given⟩
    cases name : metadata.name with
    | none => simp [Metadata.ref, Ref.key, name] at given
    | some text =>
        have value : text ≠ "" := by simpa [Metadata.ref, Ref.key, name] using given
        simp [key?, Metadata.ref, Ref.key, name, nonEmpty?_eq_some_iff.mpr ⟨rfl, value⟩]

/-- The addresses of a key are its own and, outside of any namespace, the one with an
empty namespace. -/
theorem Ref.key_eq_iff {ref : Ref} {key : Key} (proper : key.ns ≠ some "") :
    ref.key = key ↔ ref = key.ref ∨ key.ns = none ∧ ref = ⟨some "", key.name⟩ := by
  obtain ⟨ns, name⟩ := ref
  obtain ⟨keyNs, keyName⟩ := key
  rw [Ref.key, Key.ref, Key.mk.injEq, Ref.mk.injEq, Ref.mk.injEq]
  cases keyNs with
  | none =>
      rw [nonEmpty?_eq_none_iff]
      simp only [true_and]
      exact or_and_right
  | some text =>
      have given : text ≠ "" := fun same => proper (congrArg some same)
      simp [nonEmpty?_eq_some_iff, given]

variable {α : Type} [Resource α]

/-- Every object of a table is stored under its own address. -/
structure Addressed (objects : Table Ref α) : Prop where
  nodup : objects.keys.Nodup
  own : ∀ entry ∈ objects.entries, refOf entry.2 = entry.1

namespace Addressed

variable {objects : Table Ref α}

theorem empty : Addressed (Table.empty : Table Ref α) where
  nodup := Table.nodup_empty
  own entry member := by simp [Table.empty] at member

theorem insert (addressed : Addressed objects) (object : α) :
    Addressed (objects.insert (refOf object) object) where
  nodup := Table.nodup_insert addressed.nodup _ _
  own entry member := by
    rcases Table.eq_or_mem_of_mem_insert addressed.nodup member with rfl | old
    · rfl
    · exact addressed.own entry old

theorem erase (addressed : Addressed objects) (ref : Ref) : Addressed (objects.erase ref) where
  nodup := Table.nodup_erase addressed.nodup ref
  own entry member := addressed.own entry (List.mem_of_mem_filter member)

theorem find?_eq_some_iff (addressed : Addressed objects) {ref : Ref} {object : α} :
    objects.find? ref = some object ↔ object ∈ objects.values ∧ refOf object = ref := by
  rw [← Table.mem_entries_iff addressed.nodup, Table.values, List.mem_map]
  constructor
  · intro member
    exact ⟨⟨_, member, rfl⟩, addressed.own _ member⟩
  · rintro ⟨⟨entry, member, rfl⟩, rfl⟩
    rw [addressed.own entry member]
    exact member

theorem nodup_refOf (addressed : Addressed objects) : (objects.values.map refOf).Nodup := by
  have addresses : objects.values.map refOf = objects.keys := by
    rw [Table.values, Table.keys, List.map_map]
    exact List.map_congr_left addressed.own
  rw [addresses]
  exact addressed.nodup

end Addressed

namespace Cache

/-! ## What was brought to an address last -/

/-- The object that the listing being collected has at an address. -/
def listed? (ref : Ref) : List (Delivery α) → Option α
  | [] => none
  | ⟨_, event⟩ :: earlier =>
      match event with
      | .listed object => if refOf object = ref then some object else listed? ref earlier
      | .listingStarted | .listingDone => none
      | .applied _ | .removed _ => listed? ref earlier

/-- The object that was last brought to an address and not removed since, by a single
notification or by a completed listing. -/
def latest? (ref : Ref) : List (Delivery α) → Option α
  | [] => none
  | ⟨_, event⟩ :: earlier =>
      match event with
      | .applied object => if refOf object = ref then some object else latest? ref earlier
      | .removed object => if refOf object = ref then none else latest? ref earlier
      | .listingDone => listed? ref earlier
      | .listingStarted | .listed _ => latest? ref earlier

theorem find?_following (ref : Ref) (deliveries : List (Delivery α)) :
    (following deliveries).objects.find? ref = latest? ref deliveries ∧
      (following deliveries).listing.find? ref = listed? ref deliveries := by
  induction deliveries with
  | nil => exact ⟨rfl, rfl⟩
  | cons delivery earlier ih =>
      obtain ⟨order, event⟩ := delivery
      obtain ⟨objects, listing⟩ := ih
      cases event with
      | listingStarted => exact ⟨objects, rfl⟩
      | listed object =>
          refine ⟨objects, ?_⟩
          rw [listed?, ← listing]
          exact Table.find?_insert ..
      | listingDone => exact ⟨listing, rfl⟩
      | applied object =>
          refine ⟨?_, listing⟩
          rw [latest?, ← objects]
          exact Table.find?_insert ..
      | removed object =>
          refine ⟨?_, listing⟩
          rw [latest?, ← objects]
          exact Table.find?_erase ..

theorem addressed_following (deliveries : List (Delivery α)) :
    Addressed (following deliveries).objects ∧ Addressed (following deliveries).listing := by
  induction deliveries with
  | nil => exact ⟨.empty, .empty⟩
  | cons delivery earlier ih =>
      obtain ⟨order, event⟩ := delivery
      obtain ⟨objects, listing⟩ := ih
      cases event with
      | listingStarted => exact ⟨objects, .empty⟩
      | listed object => exact ⟨objects, listing.insert object⟩
      | listingDone => exact ⟨listing, .empty⟩
      | applied object => exact ⟨objects.insert object, listing⟩
      | removed object => exact ⟨objects.erase _, listing⟩

/-! ## What is found at a key -/

/-- A cache answers a key with its object: a lookup finds exactly what is cached with
this key, and that is at most one object. -/
structure Faithful (cache : Cache α) (key : Key) : Prop where
  found : ∀ object, cache.get? key = some object ↔
    object ∈ cache.list ∧ identify object = .ok key
  single : cache.list.Pairwise fun first second =>
    ¬(identify first = .ok key ∧ identify second = .ok key)

/-- Nothing keeps a cache from answering a key with its object.  Outside of any namespace,
no object with this name has an empty namespace; inside of one, the key has an object,
or there is none outside that would step in. -/
def Unobstructed (objects : Table Ref α) (key : Key) : Prop :=
  match key.ns with
  | none => objects.find? ⟨some "", key.name⟩ = none
  | some _ => (objects.find? key.ref).isSome ∨ objects.find? ⟨none, key.name⟩ = none

instance (objects : Table Ref α) : (key : Key) → Decidable (Unobstructed objects key)
  | ⟨none, name⟩ => inferInstanceAs (Decidable (objects.find? ⟨some "", name⟩ = none))
  | ⟨some ns, name⟩ =>
      inferInstanceAs (Decidable
        ((objects.find? ⟨some ns, name⟩).isSome ∨ objects.find? ⟨none, name⟩ = none))

variable {cache : Cache α} {key : Key}

theorem identify_eq_ok_iff (proper : key.ns ≠ some "") (named : key.name ≠ "") {object : α} :
    identify object = .ok key ↔
      refOf object = key.ref ∨ key.ns = none ∧ refOf object = ⟨some "", key.name⟩ := by
  rw [identify, Metadata.key_eq_ok_iff, and_iff_left named]
  exact Ref.key_eq_iff proper

theorem unobstructed_of_faithful (addressed : Addressed cache.objects) (proper : key.ns ≠ some "")
    (named : key.name ≠ "") (faithful : cache.Faithful key) : Unobstructed cache.objects key := by
  obtain ⟨ns, name⟩ := key
  cases ns with
  | none =>
      rw [Unobstructed, Option.eq_none_iff_forall_ne_some]
      intro object hidden
      obtain ⟨member, address⟩ := addressed.find?_eq_some_iff.mp hidden
      have identified := (identify_eq_ok_iff proper named).mpr (.inr ⟨rfl, address⟩)
      have found := (faithful.found object).mpr ⟨member, identified⟩
      rw [get?, lookup, Key.ref, Option.or_self] at found
      have outside := (addressed.find?_eq_some_iff.mp found).2
      rw [address] at outside
      cases outside
  | some text =>
      rw [Unobstructed, or_iff_not_imp_left, Option.not_isSome_iff_eq_none]
      intro missing
      rw [Option.eq_none_iff_forall_ne_some]
      intro object outside
      have found : cache.get? ⟨some text, name⟩ = some object := by
        rw [get?, lookup, missing]
        exact outside
      have own := (identify_eq_ok_iff proper named).mp ((faithful.found object).mp found).2
      rw [(addressed.find?_eq_some_iff.mp outside).2] at own
      simp [Key.ref] at own

theorem faithful_of_unobstructed (addressed : Addressed cache.objects) (proper : key.ns ≠ some "")
    (named : key.name ≠ "") (clear : Unobstructed cache.objects key) : cache.Faithful key := by
  -- The only address of the key that has an object is its own.
  have own {object : α} (member : object ∈ cache.list) :
      identify object = .ok key ↔ refOf object = key.ref := by
    rw [identify_eq_ok_iff proper named]
    refine or_iff_left ?_
    rintro ⟨outside, hidden⟩
    rw [Unobstructed, outside] at clear
    have found := addressed.find?_eq_some_iff.mpr ⟨member, hidden⟩
    simp [clear] at found
  have answer : cache.get? key = cache.objects.find? key.ref := by
    unfold get? lookup
    cases found : cache.objects.find? key.ref with
    | some object => rfl
    | none =>
        cases ns : key.ns with
        | none =>
            rw [Key.ref, ns] at found
            exact found
        | some text =>
            rw [Unobstructed, ns] at clear
            exact clear.resolve_left (by simp [found])
  constructor
  · intro object
    rw [answer, addressed.find?_eq_some_iff]
    exact and_congr_right fun member => (own member).symm
  · have distinct := addressed.nodup_refOf
    rw [List.Nodup, List.pairwise_map] at distinct
    refine distinct.imp_of_mem ?_
    rintro first second firstMem secondMem apart ⟨firstKey, secondKey⟩
    exact apart (((own firstMem).mp firstKey).trans ((own secondMem).mp secondKey).symm)

theorem get?_following (key : Key) (deliveries : List (Delivery α)) :
    (following deliveries).get? key =
      (latest? key.ref deliveries).or (latest? ⟨none, key.name⟩ deliveries) := by
  rw [← (find?_following key.ref deliveries).1, ← (find?_following _ deliveries).1]
  rfl

/-- An object that was just brought is found at its key unless its namespace is empty. -/
theorem get?_applied (proper : key.ns ≠ some "") (named : key.name ≠ "") {object : α}
    (identified : identify object = .ok key) (order : Enumeration α)
    (deliveries : List (Delivery α)) :
    (following (⟨order, .applied object⟩ :: deliveries)).get? key = some object ↔
      (Resource.metadata object).ns ≠ some "" := by
  rw [get?_following, latest?, latest?]
  rcases (identify_eq_ok_iff proper named).mp identified with own | ⟨outside, hidden⟩
  · have ns : (Resource.metadata object).ns = key.ns := congrArg Ref.ns own
    simp [own, ns, proper]
  · have ns : (Resource.metadata object).ns = some "" := congrArg Ref.ns hidden
    have elsewhere : latest? ⟨none, key.name⟩ deliveries ≠ some object := by
      rw [← (find?_following _ deliveries).1]
      intro found
      have address := ((addressed_following deliveries).1.find?_eq_some_iff.mp found).2
      rw [hidden] at address
      cases address
    simp [hidden, ns, Key.ref, outside, elsewhere]

/-- A key whose object was just removed has none unless another one steps in. -/
theorem get?_removed (proper : key.ns ≠ some "") (named : key.name ≠ "") {object : α}
    (identified : identify object = .ok key) (order : Enumeration α)
    (deliveries : List (Delivery α)) :
    (following (⟨order, .removed object⟩ :: deliveries)).get? key = none ↔
      (Resource.metadata object).ns = none ∨ latest? ⟨none, key.name⟩ deliveries = none := by
  rw [get?_following, latest?, latest?]
  rcases (identify_eq_ok_iff proper named).mp identified with own | ⟨outside, hidden⟩
  · have ns : (Resource.metadata object).ns = key.ns := congrArg Ref.ns own
    cases place : key.ns with
    | none => simp [own, ns, Key.ref, place]
    | some text => simp [own, ns, Key.ref, place]
  · have ns : (Resource.metadata object).ns = some "" := congrArg Ref.ns hidden
    simp [hidden, ns, Key.ref, outside]

/-- What a cache finds, whatever namespaces its objects have: it has the objects that were
last brought to their addresses, and it answers a key with the one at the address of the
key, or else with the one of that name outside of any namespace.  It answers with the
object of the key exactly if nothing obstructs the key.  So an object that was just
brought is found at its key unless its namespace is empty, and one that was just removed
is not found any more unless another one steps in. -/
theorem finds_latest_at_address {metadata : Metadata} {key : Key}
    (yields : metadata.key = .ok key) (deliveries : List (Delivery α)) :
    let cache := following deliveries
    (∀ object, object ∈ cache.list ↔ latest? (refOf object) deliveries = some object) ∧
      cache.get? key = (latest? key.ref deliveries).or (latest? ⟨none, key.name⟩ deliveries) ∧
      (cache.Faithful key ↔ Unobstructed cache.objects key) ∧
      ∀ order object, identify object = .ok key →
        ((following (⟨order, .applied object⟩ :: deliveries)).get? key = some object ↔
            (Resource.metadata object).ns ≠ some "") ∧
          ((following (⟨order, .removed object⟩ :: deliveries)).get? key = none ↔
            (Resource.metadata object).ns = none ∨
              latest? ⟨none, key.name⟩ deliveries = none) := by
  intro cache
  obtain ⟨rfl, named⟩ := Metadata.key_eq_ok_iff.mp yields
  have proper : metadata.ref.key.ns ≠ some "" := fun same => (nonEmpty?_eq_some_iff.mp same).2 rfl
  have addressed := (addressed_following deliveries).1
  refine ⟨?_, get?_following _ deliveries, ?_, ?_⟩
  · intro object
    rw [← (find?_following _ deliveries).1, addressed.find?_eq_some_iff]
    exact (and_iff_left rfl).symm
  · exact ⟨unobstructed_of_faithful addressed proper named,
      faithful_of_unobstructed addressed proper named⟩
  · intro order object identified
    exact ⟨get?_applied proper named identified order deliveries,
      get?_removed proper named identified order deliveries⟩

/-- A node outside of any namespace steps in for one in a namespace that was removed. -/
theorem finds_latest_at_address_stepping_in :
    let node (ns : Option String) : Node := { metadata := { name := some "a", ns } }
    let key : Key := ⟨some "ns", "a"⟩
    let deliveries : List (Delivery Node) :=
      [{ event := .applied (node none) }, { event := .applied (node (some "ns")) }]
    let cache := following ({ event := .removed (node (some "ns")) } :: deliveries)
    (node (some "ns")).metadata.key = .ok key ∧ (following deliveries).Faithful key ∧
      cache.get? key = some (node none) ∧ ¬cache.Faithful key := by
  intro node key deliveries cache
  have yields : (node (some "ns")).metadata.key = .ok key := rfl
  obtain ⟨-, -, clear, -⟩ := finds_latest_at_address yields deliveries
  obtain ⟨-, found, obstructed, -⟩ :=
    finds_latest_at_address yields ({ event := .removed (node (some "ns")) } :: deliveries)
  refine ⟨yields, ?_, ?_, ?_⟩
  · exact clear.mpr (.inl (by decide))
  · rw [found]
    decide
  · rw [obstructed]
    decide

/-- A cached node whose namespace is empty is not found at its key. -/
theorem empty_namespace_hides :
    let node : Node := { metadata := { name := some "a", ns := some "" } }
    let key : Key := ⟨none, "a"⟩
    let cache := following [{ event := .applied node }]
    identify node = .ok key ∧ node ∈ cache.list ∧ cache.get? key = none := by
  decide

end Cache

end Reconciler
