import Reconciler.Pod
import Reconciler.Proofs.ChangeStream
import Reconciler.Proofs.SyncBarrier
import Reconciler.Proofs.WatchResults

/-!
# The order of a listing

When a listing is complete, the cache goes through its objects and then through what is
left over from before, and tells the changes in the order in which it comes across them.
This order is not specified.  It does not matter: the changes are the same in every order,
there is at most one for each key, and adding items of different keys to the queue
commutes but for the places of the keys that become ready.
-/

namespace Reconciler

variable {α ω : Type}

/-! ## Items of different keys -/

namespace Queue

variable {queue : Queue α} {works other : List (Work α)} {key : Key}

theorem find?_addAll_of_not_mem (isOpen : queue.closed = false)
    (absent : key ∉ works.map Work.key) :
    (works.foldl add queue).pending.find? key = queue.pending.find? key := by
  induction works generalizing queue with
  | nil => rfl
  | cons work works ih =>
      rw [List.map_cons, List.mem_cons, not_or] at absent
      rw [List.foldl_cons, ih ((add_closed queue work).trans isOpen) absent.2, find?_add isOpen,
        if_neg (Ne.symm absent.1)]

/-- An item that is added together with items of other keys joins what was pending for its
key before. -/
theorem find?_addAll_of_mem (isOpen : queue.closed = false)
    (distinct : (works.map Work.key).Nodup) {work : Work α} (member : work ∈ works) :
    (works.foldl add queue).pending.find? work.key =
      some (work.joining (queue.pending.find? work.key)) := by
  induction works generalizing queue with
  | nil => cases member
  | cons first works ih =>
      rw [List.map_cons, List.nodup_cons] at distinct
      have stillOpen : (queue.add first).closed = false := (add_closed queue first).trans isOpen
      rw [List.foldl_cons]
      rcases List.mem_cons.mp member with rfl | later
      · rw [find?_addAll_of_not_mem stillOpen distinct.1, find?_add isOpen, if_pos rfl]
      · have apart : first.key ≠ work.key := by
          intro same
          exact distinct.1 (same ▸ List.mem_map_of_mem later)
        rw [ih stillOpen distinct.2 later, find?_add isOpen, if_neg apart]

theorem announces_eq_true_iff (queue : Queue α) (work : Work α) :
    queue.announces work = true ↔
      queue.closed = false ∧ queue.pending.find? work.key = none ∧ work.key ∉ queue.inFlight := by
  simp [announces, Table.contains, and_assoc]

/-- An item does not change what becomes of items of other keys. -/
theorem announces_add (isOpen : queue.closed = false) {first work : Work α}
    (apart : first.key ≠ work.key) : (queue.add first).announces work = queue.announces work := by
  rw [Bool.eq_iff_iff, announces_eq_true_iff, announces_eq_true_iff, add_closed, add_inFlight,
    find?_add isOpen, if_neg apart]

/-- The keys that become ready are those of the items that find nothing to join. -/
theorem ready_addAll (isOpen : queue.closed = false) (distinct : (works.map Work.key).Nodup) :
    (works.foldl add queue).ready =
      queue.ready ++ (works.filter queue.announces).map Work.key := by
  induction works generalizing queue with
  | nil => exact (List.append_nil _).symm
  | cons first works ih =>
      rw [List.map_cons, List.nodup_cons] at distinct
      have others : works.filter (queue.add first).announces = works.filter queue.announces := by
        apply List.filter_congr
        intro work member
        apply announces_add isOpen
        intro same
        exact distinct.1 (same ▸ List.mem_map_of_mem member)
      have stillOpen : (queue.add first).closed = false := (add_closed queue first).trans isOpen
      rw [List.foldl_cons, ih stillOpen distinct.2, others, ready_add, List.filter_cons]
      simp only [← announces_eq_true_iff]
      split <;> simp

theorem inFlight_addAll (queue : Queue α) (works : List (Work α)) :
    (works.foldl add queue).inFlight = queue.inFlight := by
  induction works generalizing queue with
  | nil => rfl
  | cons first works ih => rw [List.foldl_cons, ih, add_inFlight]

theorem closed_addAll (queue : Queue α) (works : List (Work α)) :
    (works.foldl add queue).closed = queue.closed := by
  induction works generalizing queue with
  | nil => rfl
  | cons work works ih => rw [List.foldl_cons, ih, add_closed]

/-- Items of different keys leave the same pending items in whatever order they are added. -/
theorem find?_addAll_of_perm (isOpen : queue.closed = false) (rearranged : works.Perm other)
    (distinct : (works.map Work.key).Nodup) (key : Key) :
    (works.foldl add queue).pending.find? key = (other.foldl add queue).pending.find? key := by
  have distinctToo : (other.map Work.key).Nodup := (rearranged.map Work.key).nodup_iff.mp distinct
  by_cases told : key ∈ works.map Work.key
  · obtain ⟨work, member, rfl⟩ := List.mem_map.mp told
    rw [find?_addAll_of_mem isOpen distinct member,
      find?_addAll_of_mem isOpen distinctToo (rearranged.mem_iff.mp member)]
  · have untold : key ∉ other.map Work.key := by
      rwa [← (rearranged.map Work.key).mem_iff]
    rw [find?_addAll_of_not_mem isOpen told, find?_addAll_of_not_mem isOpen untold]

end Queue

/-! ## The changes of a listing -/

section

variable [Resource α]

theorem Work.keys_ofChanges (changes : List (Key × Change α)) :
    ((Work.ofChanges changes).map Work.key).Sublist (changes.map Prod.fst) := by
  induction changes with
  | nil => exact .slnil
  | cons entry changes ih =>
      rw [Work.ofChanges, List.filterMap_cons]
      cases item : Work.ofChange? entry.1 entry.2 with
      | none => exact .cons _ ih
      | some work =>
          simp only [List.map_cons, Work.key_of_ofChange? item]
          exact .cons_cons _ ih

namespace Cache

variable {before after : Table Ref α} {one two : Enumeration α}

/-- A completed listing makes the same changes in whatever order the cache goes through its
objects. -/
theorem relistChanges_perm (distinctBefore : (before.values.map keyOf).Nodup)
    (distinctAfter : (after.values.map keyOf).Nodup) (fair : one.Fair) (fairToo : two.Fair) :
    (relistChanges one before after).Perm (relistChanges two before after) := by
  have nodup {order : Enumeration α} (fair : order.Fair) :
      (relistChanges order before after).Nodup :=
    .of_map Prod.fst (nodup_relistChanges distinctAfter fair)
  rw [List.perm_ext_iff_of_nodup (nodup fair) (nodup fairToo)]
  rintro ⟨key, change⟩
  have was := find?_byKey_eq_some_iff distinctBefore (List.Perm.refl before.entries)
  rw [mem_relistChanges_iff distinctBefore distinctAfter fair was,
    mem_relistChanges_iff distinctBefore distinctAfter fairToo was]

end Cache

end

/-! ## Passing the changes on -/

namespace System

variable [Resource α] {plan : Plan α ω} {system : System α ω}

/-- The watching side adds the items of all changes of a listing to the queue, says how many
they were, and marks the cache. -/
theorem exists_passMany_eq (plan : Plan α ω) {changes : List (Key × Change α)} {enqueued : Nat}
    (relay : system.relay = .passing changes enqueued true) :
    ∃ bell, system.passMany plan (changes.length + 1) =
      { system with
        cache := system.cache.markSynced
        queue := (Work.ofChanges changes).foldl Queue.add system.queue
        bell
        relay := .idle
        journal := system.journal.write .debug (plan.name ++
          " controller listing complete, enqueued " ++
          toString (enqueued + (Work.ofChanges changes).length) ++ " items") } := by
  induction changes generalizing system enqueued with
  | nil =>
      refine ⟨system.bell, ?_⟩
      rw [List.length_nil, passMany, passOn, relay]
      rfl
  | cons entry changes ih =>
      have passes : system.passMany plan ((entry :: changes).length + 1) =
          ((system.passOn plan).getD system).passMany plan (changes.length + 1) := rfl
      rw [passes, passOn, relay, Work.ofChanges, List.filterMap_cons]
      cases item : Work.ofChange? entry.1 entry.2 with
      | none =>
          simp only [item, Option.getD_some]
          exact ih rfl
      | some work =>
          simp only [item, Option.getD_some]
          obtain ⟨bell, passed⟩ :=
            @ih { system.submit work with relay := .passing changes (enqueued + 1) true } _ rfl
          refine ⟨bell, passed.trans ?_⟩
          rw [Nat.add_right_comm]
          rfl

/-- The changes that the end of a listing makes. -/
def listed (system : System α ω) (order : Enumeration α) : List (Key × Change α) :=
  Cache.relistChanges order system.cache.objects system.cache.listing

/-- The items that the end of a listing adds to the queue. -/
def relisted (system : System α ω) (order : Enumeration α) : List (Work α) :=
  Work.ofChanges (system.listed order)

theorem exists_settleResult_eq (plan : Plan α ω) (system : System α ω) (order : Enumeration α) :
    ∃ bell, system.settleResult plan (.brought order .listingDone) =
      { system with
        cache :=
          { objects := system.cache.listing, listing := Table.empty, ready := true, synced := true }
        queue := (system.relisted order).foldl Queue.add system.queue
        bell
        relay := .idle
        journal := system.journal.write .debug (plan.name ++
          " controller listing complete, enqueued " ++
          toString (system.relisted order).length ++ " items") } := by
  have relay : (system.receive plan order .listingDone).relay =
      .passing (system.listed order) 0 true := rfl
  obtain ⟨bell, passed⟩ := exists_passMany_eq plan relay
  refine ⟨bell, passed.trans ?_⟩
  rw [Nat.zero_add]
  rfl

/-- Two outcomes that differ in nothing but the order of the keys that became ready. -/
structure SameButReady (before one two : System α ω) : Prop where
  cache : one.cache = two.cache
  pending : ∀ key, one.queue.pending.find? key = two.queue.pending.find? key
  inFlight : one.queue.inFlight = two.queue.inFlight
  closed : one.queue.closed = two.queue.closed
  ready : ∃ fresh rearranged, one.queue.ready = before.queue.ready ++ fresh ∧
    two.queue.ready = before.queue.ready ++ rearranged ∧ fresh.Perm rearranged
  relay : one.relay = two.relay
  journal : one.journal = two.journal

variable {one two : Enumeration α}

theorem relisted_perm (distinct : (system.cache.objects.values.map Cache.keyOf).Nodup)
    (distinctListed : (system.cache.listing.values.map Cache.keyOf).Nodup)
    (fair : one.Fair) (fairToo : two.Fair) :
    (system.relisted one).Perm (system.relisted two) :=
  (Cache.relistChanges_perm distinct distinctListed fair fairToo).filterMap _

theorem nodup_relisted (distinct : (system.cache.listing.values.map Cache.keyOf).Nodup)
    (fair : one.Fair) : ((system.relisted one).map Work.key).Nodup :=
  (Cache.nodup_relistChanges distinct fair).sublist (Work.keys_ofChanges _)

/-- The order of a listing does not matter.  Whatever is ready, parked or in flight in an
open queue, the end of a listing leaves the same cache, which is synced, the same pending
items, the same keys in flight, and adds the same number of items, which it says, in
whatever order the cache goes through its objects and through what is left over.  The keys
that were ready stay ahead, and only those that become ready may come in another order.
No two of the objects that were cached, and no two that were listed, share a key: objects
with names in one scope do not. -/
theorem relisting_order_irrelevant (plan : Plan α ω) (system : System α ω)
    (isOpen : system.queue.closed = false)
    (distinct : (system.cache.objects.values.map Cache.keyOf).Nodup)
    (distinctListed : (system.cache.listing.values.map Cache.keyOf).Nodup)
    {one two : Enumeration α} (fair : one.Fair) (fairToo : two.Fair) :
    let outcome order := system.settleResult plan (.brought order .listingDone)
    system.SameButReady (outcome one) (outcome two) ∧
      (outcome one).cache.synced = true ∧
      (system.relisted one).length = (system.relisted two).length ∧
      (outcome one).journal = system.journal.write .debug (plan.name ++
        " controller listing complete, enqueued " ++
        toString (system.relisted one).length ++ " items") := by
  intro outcome
  obtain ⟨bell, settled⟩ := exists_settleResult_eq plan system one
  obtain ⟨bellToo, settledToo⟩ := exists_settleResult_eq plan system two
  have rearranged := relisted_perm distinct distinctListed fair fairToo
  have keys := nodup_relisted distinctListed fair
  have keysToo := nodup_relisted distinctListed fairToo
  have sameLength := rearranged.length_eq
  refine ⟨?_, ?_, sameLength, ?_⟩
  · simp only [outcome, settled, settledToo]
    constructor
    case cache => rfl
    case pending => exact Queue.find?_addAll_of_perm isOpen rearranged keys
    case inFlight => exact (Queue.inFlight_addAll ..).trans (Queue.inFlight_addAll ..).symm
    case closed => exact (Queue.closed_addAll ..).trans (Queue.closed_addAll ..).symm
    case ready =>
      exact ⟨_, _, Queue.ready_addAll isOpen keys, Queue.ready_addAll isOpen keysToo,
        (rearranged.filter _).map _⟩
    case relay => rfl
    case journal => simp only [sameLength]
  · simp only [outcome, settled]
  · simp only [outcome, settled]

/-- Of four pods, one is gone, two have changed and one is new, and the cache goes through
them forwards or backwards.  One key waits already, and two are in flight, one of them with
an item parked. -/
theorem relisting_order_irrelevant_of_pods :
    let pod (name version : String) : Ref × Pod := (⟨some "ns", name⟩,
      { metadata := { name := some name, ns := some "ns", resourceVersion := some version } })
    let key (name : String) : Key := ⟨some "ns", name⟩
    let plan : Plan Pod Unit := { name := "pod", backoff := {}, handler := Pod.handler }
    let system : System Pod Unit := {
      cache := {
        objects := ⟨[pod "a" "1", pod "b" "2", pod "c" "3", pod "d" "4"]⟩
        listing := ⟨[pod "b" "5", pod "c" "6", pod "d" "4", pod "e" "7"]⟩ }
      queue := {
        ready := [key "z"]
        pending := ⟨[(key "z", ⟨key "z", .add, none⟩), (key "a", ⟨key "a", .add, none⟩)]⟩
        inFlight := [key "a", key "c"] }
      world := () }
    let backwards : Enumeration Pod := { objects := List.reverse, leftovers := List.reverse }
    let outcome order := system.settleResult plan (.brought order .listingDone)
    (outcome {}).queue.ready = [key "z", key "b", key "e"] ∧
      (outcome backwards).queue.ready = [key "z", key "e", key "b"] ∧
      system.SameButReady (outcome {}) (outcome backwards) ∧
      (system.relisted backwards).length = 4 := by
  intro pod key plan system backwards outcome
  have fair : backwards.Fair := ⟨List.reverse_perm, List.reverse_perm⟩
  obtain ⟨same, -, length, -⟩ := relisting_order_irrelevant plan system rfl (by decide) (by decide)
    Enumeration.fair_default fair
  have four : (system.relisted {}).length = 4 := by decide
  exact ⟨by decide, by decide, same, length.symm.trans four⟩

end System

end Reconciler
