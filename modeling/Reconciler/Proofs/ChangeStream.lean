import Reconciler.Pod
import Reconciler.Proofs.Difference

/-!
# The stream of changes

A cache that follows the events of a watch tells its changes event by event.  At every
event it tells each key at most once, and what it tells is the difference that the event
makes to the cached objects, neither more nor less.  So whoever starts with nothing and
replays what was told so far has the cached objects by key.
-/

namespace Reconciler

variable {α : Type} [Resource α]

/-- An event as it reaches a cache, with the order in which the cache enumerates its
objects meanwhile. -/
structure Delivery (α : Type) where
  order : Enumeration α := {}
  event : Event α

/-- The object that a change leaves its key with. -/
def Change.leaves? : Change α → Option α
  | .added new | .updated _ new => some new
  | .deleted _ => none

/-- Brings objects by key up to date with a change. -/
def Change.replay (objects : Table Key α) (told : Key × Change α) : Table Key α :=
  match told.2.leaves? with
  | some object => objects.insert told.1 object
  | none => objects.erase told.1

/-- The objects by key that changes tell of. -/
def Change.replayAll (changes : List (Key × Change α)) : Table Key α :=
  changes.foldl replay Table.empty

namespace Cache

/-- The cache after deliveries, the newest first. -/
def following : List (Delivery α) → Cache α
  | [] => {}
  | delivery :: earlier => ((following earlier).apply delivery.order delivery.event).1

/-- The changes that a delivery yields after earlier ones. -/
def changesOf (earlier : List (Delivery α)) (delivery : Delivery α) : List (Key × Change α) :=
  ((following earlier).apply delivery.order delivery.event).2

/-- All changes that deliveries yielded, in the order in which they were told. -/
def told : List (Delivery α) → List (Key × Change α)
  | [] => []
  | delivery :: earlier => told earlier ++ changesOf earlier delivery

end Cache

/-! ## Replaying -/

omit [Resource α] in
theorem Change.find?_replay (objects : Table Key α) (told : Key × Change α) (key : Key) :
    (replay objects told).find? key =
      if told.1 = key then told.2.leaves? else objects.find? key := by
  unfold replay
  cases told.2.leaves? with
  | some object => exact Table.find?_insert ..
  | none => exact Table.find?_erase ..

omit [Resource α] in
/-- Replaying changes of distinct keys leaves every key with what its change says. -/
theorem Change.find?_foldl_replay {changes : List (Key × Change α)}
    (nodup : (changes.map Prod.fst).Nodup) (objects : Table Key α) (key : Key) :
    (changes.foldl replay objects).find? key =
      match Table.lookup key changes with
      | some change => change.leaves?
      | none => objects.find? key := by
  induction changes generalizing objects with
  | nil => rfl
  | cons first changes ih =>
      rw [List.map_cons, List.nodup_cons] at nodup
      rw [List.foldl_cons, ih nodup.2, find?_replay, Table.lookup]
      by_cases same : first.1 = key
      · rw [if_pos same, if_pos same, Table.lookup_eq_none (same ▸ nodup.1)]
      · rw [if_neg same, if_neg same]

variable {event : Event α} {key : Key}

theorem Change.Tells.leaves?_eq {before after : Option α} {change : Change α}
    (tells : Tells event key before after change) : change.leaves? = after := by
  cases tells with
  | added _ found | updated _ _ found => exact found.symm
  | deleted _ gone | missed _ _ _ gone => exact gone.symm

theorem Change.tells_added_iff {before after : Option α} {new : α} :
    Tells event key before after (.added new) ↔ before = none ∧ after = some new := by
  constructor
  · rintro ⟨⟩
    exact ⟨‹_›, ‹_›⟩
  · rintro ⟨absent, found⟩
    exact .added absent found

theorem Change.tells_updated_iff {before after : Option α} {old new : α} :
    Tells event key before after (.updated old new) ↔
      event.Brings key ∧ before = some old ∧ after = some new := by
  constructor
  · rintro ⟨⟩
    exact ⟨‹_›, ‹_›, ‹_›⟩
  · rintro ⟨brings, was, found⟩
    exact .updated brings was found

namespace Cache

variable {scope : Scope} {cache : Cache α} {order : Enumeration α}

/-! ## At most one change of a key -/

theorem keys_relist (objects : List α) (previous : Table Key α) :
    (relist objects previous).1.map Prod.fst = objects.map keyOf := by
  induction objects generalizing previous with
  | nil => rfl
  | cons first objects ih => exact congrArg (keyOf first :: ·) (ih _)

theorem keys_relistChanges (before after : Table Ref α) :
    (relistChanges order before after).map Prod.fst =
      ((order.objects after.entries).map Prod.snd).map keyOf ++
        (order.leftovers (relist ((order.objects after.entries).map Prod.snd)
          (byKey (order.objects before.entries))).2.entries).map Prod.fst := by
  rw [relistChanges, List.map_append, keys_relist]
  congr 1
  exact List.map_map

theorem nodup_relistChanges {before after : Table Ref α}
    (distinct : (after.values.map keyOf).Nodup) (fair : order.Fair) :
    ((relistChanges order before after).map Prod.fst).Nodup := by
  have brought : (((order.objects after.entries).map Prod.snd).map keyOf).Nodup :=
    (((fair.objects_perm after.entries).map Prod.snd).map keyOf).nodup_iff.mpr distinct
  rw [keys_relistChanges, List.nodup_append]
  refine ⟨brought, ?_, ?_⟩
  · rw [((fair.leftovers_perm _).map Prod.fst).nodup_iff]
    exact nodup_relist _ (Table.nodup_ofList _)
  · -- What is left over is not part of the listing.
    rintro key broughtKey _ leftKey rfl
    obtain ⟨entry, member, rfl⟩ := List.mem_map.mp leftKey
    rw [(fair.leftovers_perm _).mem_iff, mem_relist_leftovers_iff] at member
    exact member.2 broughtKey

/-- An event yields at most one change of a key. -/
theorem nodup_apply (proper : cache.Proper scope) (fair : order.Fair) :
    ((cache.apply order event).2.map Prod.fst).Nodup := by
  cases event with
  | listingStarted | listed => exact List.nodup_nil
  | listingDone => exact nodup_relistChanges proper.listing.nodup_keyOf fair
  | applied | removed => exact List.nodup_singleton _

/-! ## Following a watch -/

/-- A key that no change tells of keeps its object. -/
theorem objectAt?_of_untold (proper : cache.Proper scope) (within : event.Within scope)
    (fair : order.Fair) (untold : ∀ change, (key, change) ∉ (cache.apply order event).2) :
    (cache.apply order event).1.objectAt? key = cache.objectAt? key := by
  simp only [mem_apply_iff proper within fair] at untold
  cases was : cache.objectAt? key with
  | none =>
      cases found : (cache.apply order event).1.objectAt? key with
      | none => rfl
      | some new => exact (untold _ (.added was found)).elim
  | some old =>
      cases found : (cache.apply order event).1.objectAt? key with
      | none => exact (untold _ (.deleted was found)).elim
      | some new =>
          have apart : ¬event.Brings key := fun brings => untold _ (.updated brings was found)
          rw [objectAt?_apply proper within] at found
          exact (objectAt?_of_leaves? apart found).symm.trans was

/-- Who has the objects before an event and replays its changes has the objects after it. -/
theorem find?_replay_apply (proper : cache.Proper scope) (within : event.Within scope)
    (fair : order.Fair) {objects : Table Key α}
    (same : ∀ key, objects.find? key = cache.objectAt? key) (key : Key) :
    ((cache.apply order event).2.foldl Change.replay objects).find? key =
      (cache.apply order event).1.objectAt? key := by
  have nodup : ((cache.apply order event).2.map Prod.fst).Nodup := nodup_apply proper fair
  rw [Change.find?_foldl_replay nodup]
  cases told : Table.lookup key (cache.apply order event).2 with
  | some change =>
      have member := (Table.lookup_eq_some_iff nodup).mp told
      exact ((mem_apply_iff proper within fair key change).mp member).leaves?_eq
  | none =>
      have untold (change : Change α) : (key, change) ∉ (cache.apply order event).2 := by
        rw [← Table.lookup_eq_some_iff nodup, told]
        simp
      exact (same key).trans (objectAt?_of_untold proper within fair untold).symm

/-- The deliveries of a watch over objects in scope. -/
def Regular (scope : Scope) (deliveries : List (Delivery α)) : Prop :=
  ∀ delivery ∈ deliveries, delivery.order.Fair ∧ delivery.event.Within scope

theorem Regular.proper {deliveries : List (Delivery α)} (regular : Regular scope deliveries) :
    (following deliveries).Proper scope := by
  induction deliveries with
  | nil => exact .empty
  | cons delivery earlier ih =>
      have proper := ih fun other member => regular other (List.mem_cons_of_mem _ member)
      exact proper.apply (regular delivery List.mem_cons_self).2

/-- Replaying everything told so far gives the cached objects. -/
theorem Regular.find?_replayAll {deliveries : List (Delivery α)}
    (regular : Regular scope deliveries) (key : Key) :
    (Change.replayAll (told deliveries)).find? key = (following deliveries).objectAt? key := by
  induction deliveries generalizing key with
  | nil => rfl
  | cons delivery earlier ih =>
      have before : Regular scope earlier :=
        fun other member => regular other (List.mem_cons_of_mem _ member)
      obtain ⟨fair, within⟩ := regular delivery List.mem_cons_self
      rw [told, Change.replayAll, List.foldl_append]
      exact find?_replay_apply before.proper within fair (ih before) key

/-- The changes of an event are the keyed difference that it makes to the cache: each key
is told at most once, and it is told as added, updated or deleted exactly as its object
came, was brought again or went; besides, a removal that finds nothing is told.  So
replaying the changes of all events so far gives the cached objects by key. -/
theorem changes_are_difference {earlier : List (Delivery α)}
    (regular : Regular scope (⟨order, event⟩ :: earlier)) :
    let before := following earlier
    let after := following (⟨order, event⟩ :: earlier)
    let changes := changesOf earlier ⟨order, event⟩
    (changes.map Prod.fst).Nodup ∧
      (∀ key new, (key, .added new) ∈ changes ↔
        before.objectAt? key = none ∧ after.objectAt? key = some new) ∧
      (∀ key old new, (key, .updated old new) ∈ changes ↔
        event.Brings key ∧ before.objectAt? key = some old ∧ after.objectAt? key = some new) ∧
      (∀ key last, (key, .deleted last) ∈ changes ↔
        (before.objectAt? key = some last ∧ after.objectAt? key = none) ∨
          (event = .removed last ∧ keyOf last = key ∧ before.objectAt? key = none)) ∧
      ∀ key object,
        (Change.replayAll (told (⟨order, event⟩ :: earlier))).find? key = some object ↔
          object ∈ after.list ∧ keyOf object = key := by
  intro before after changes
  have proper : before.Proper scope :=
    Regular.proper fun delivery member => regular delivery (List.mem_cons_of_mem _ member)
  obtain ⟨fair, within⟩ := regular ⟨order, event⟩ List.mem_cons_self
  have tells (key : Key) (change : Change α) : (key, change) ∈ changes ↔
      Change.Tells event key (before.objectAt? key) (after.objectAt? key) change :=
    mem_apply_iff proper within fair key change
  refine ⟨nodup_apply proper fair, ?_, ?_, ?_, ?_⟩
  · intro key new
    rw [tells, Change.tells_added_iff]
  · intro key old new
    rw [tells, Change.tells_updated_iff]
  · intro key last
    rw [tells]
    constructor
    · rintro (_ | _ | ⟨was, gone⟩ | ⟨removed, same, absent, -⟩)
      · exact .inl ⟨was, gone⟩
      · exact .inr ⟨removed, same, absent⟩
    · rintro (⟨was, gone⟩ | ⟨removed, same, absent⟩)
      · exact .deleted was gone
      · refine .missed removed same absent ?_
        have left : after.objectAt? key = before.leaves? key event :=
          objectAt?_apply proper within key
        rw [left, removed, leaves?, if_pos same]
  · intro key object
    rw [regular.find?_replayAll]
    exact regular.proper.objects.found?_eq_some_iff key object

/-- A listing brings one pod again, leaves one out and adds one. -/
theorem changes_are_difference_relisted :
    let pod (name version : String) : Pod :=
      { metadata := { name := some name, ns := some "ns", resourceVersion := some version } }
    let key (name : String) : Key := ⟨some "ns", name⟩
    let earlier : List (Delivery Pod) := [{ event := .listed (pod "c" "1") },
      { event := .listed (pod "a" "2") }, { event := .listingStarted },
      { event := .applied (pod "b" "1") }, { event := .applied (pod "a" "1") }]
    let changes := changesOf earlier { event := .listingDone }
    Regular .namespaced ({ event := .listingDone } :: earlier) ∧
      (key "a", .updated (pod "a" "1") (pod "a" "2")) ∈ changes ∧
      (key "b", .deleted (pod "b" "1")) ∈ changes ∧
      (key "c", .added (pod "c" "1")) ∈ changes ∧
      (Change.replayAll (told ({ event := .listingDone } :: earlier))).find? (key "a") =
        some (pod "a" "2") := by
  intro pod key earlier changes
  have regular : Regular .namespaced ({ event := .listingDone } :: earlier) := by
    simp [earlier, Regular, Enumeration.fair_default, Event.Within, Event.object?, Scope.Covers,
      Scope.Fits, Resource.metadata, pod]
  obtain ⟨-, added, updated, deleted, replayed⟩ := changes_are_difference regular
  refine ⟨regular, ?_, ?_, ?_, ?_⟩
  · exact (updated _ _ _).mpr ⟨trivial, by decide, by decide⟩
  · exact (deleted _ _).mpr (.inl ⟨by decide, by decide⟩)
  · exact (added _ _).mpr ⟨by decide, by decide⟩
  · exact (replayed _ _).mpr ⟨by decide, by decide⟩

end Cache

end Reconciler
