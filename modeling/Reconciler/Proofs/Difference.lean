import Reconciler.Proofs.Scope

/-!
# The changes of an event

The changes that an event yields are the difference that it makes to the cached
objects: an object that came is added, one that was there and is brought again is
updated, and one that went is deleted.  A removal that finds nothing to remove is told
as well.  A single notification finds its change by looking up one object, a completed
listing by comparing all objects with those before, and both tell the same.
-/

namespace Reconciler

variable {α : Type} [Resource α] {scope : Scope}

/-- The change of a key whose object is brought, given the object before. -/
def Change.bringing (old : Option α) (new : α) : Change α :=
  match old with
  | some old => .updated old new
  | none => .added new

/-- Whether an event brings the object of a key, or all objects there are. -/
def Event.Brings (key : Key) : Event α → Prop
  | .listingDone => True
  | .applied object => Cache.keyOf object = key
  | _ => False

/-- Whether a change tells what an event did to a key, given the object of the key
before and after the event. -/
inductive Change.Tells (event : Event α) (key : Key) (before after : Option α) : Change α → Prop
  | added {new : α} : before = none → after = some new → Tells event key before after (.added new)
  | updated {old new : α} :
      event.Brings key → before = some old → after = some new →
      Tells event key before after (.updated old new)
  | deleted {last : α} :
      before = some last → after = none → Tells event key before after (.deleted last)
  /-- There was nothing to remove. -/
  | missed {last : α} :
      event = .removed last → Cache.keyOf last = key → before = none → after = none →
      Tells event key before after (.deleted last)

theorem Change.tells_iff_of_brings {event : Event α} {key : Key} (brings : event.Brings key)
    {before after : Option α} {change : Change α} :
    Tells event key before after change ↔
      (∃ new, after = some new ∧ change = .bringing before new) ∨
        ∃ last, before = some last ∧ after = none ∧ change = .deleted last := by
  constructor
  · intro tells
    cases tells with
    | added absent found => exact .inl ⟨_, found, by rw [absent]; rfl⟩
    | updated _ was found => exact .inl ⟨_, found, by rw [was]; rfl⟩
    | deleted was gone => exact .inr ⟨_, was, gone, rfl⟩
    | missed removed =>
        subst removed
        exact brings.elim
  · rintro (⟨new, found, rfl⟩ | ⟨last, was, gone, rfl⟩)
    · cases before with
      | none => exact .added rfl found
      | some old => exact .updated brings rfl found
    · exact .deleted was gone

theorem Change.tells_iff_of_removed {object : α} {key : Key} (same : Cache.keyOf object = key)
    {before : Option α} {change : Change α} :
    Tells (.removed object) key before none change ↔
      change = .deleted (before.getD object) := by
  constructor
  · intro tells
    cases tells with
    | added absent found => simp at found
    | updated brings => exact brings.elim
    | deleted was => rw [was]; rfl
    | missed removed _ absent _ =>
        obtain rfl := Event.removed.inj removed
        rw [absent]
        rfl
  · rintro rfl
    cases before with
    | none => exact .missed rfl same rfl rfl
    | some last => exact .deleted rfl rfl

theorem Change.tells_iff_of_same {event : Event α} {key : Key} (apart : ¬event.Brings key)
    {object : Option α} {change : Change α} :
    Tells event key object object change ↔
      ∃ last, event = .removed last ∧ Cache.keyOf last = key ∧ object = none ∧
        change = .deleted last := by
  constructor
  · intro tells
    cases tells with
    | added absent found => simp [absent] at found
    | updated brings => exact (apart brings).elim
    | deleted was gone => simp [was] at gone
    | missed removed same absent _ => exact ⟨_, removed, same, absent, rfl⟩
  · rintro ⟨last, removed, same, absent, rfl⟩
    exact .missed removed same absent absent

theorem Change.Tells.gone {event : Event α} {key : Key} {before after : Option α} {last : α}
    (tells : Tells event key before after (.deleted last)) : after = none := by
  cases tells with
  | deleted _ gone => exact gone
  | missed _ _ _ gone => exact gone

theorem Change.Tells.found {event : Event α} {key : Key} {before after : Option α} {new : α}
    (tells : Tells event key before after (.added new)) : after = some new := by
  cases tells with
  | added _ found => exact found

theorem Work.key_of_ofChange? {key : Key} {change : Change α} {work : Work α}
    (item : ofChange? key change = some work) : work.key = key := by
  cases change with
  | added new | deleted last =>
      obtain rfl := Option.some.inj item
      rfl
  | updated old new =>
      obtain ⟨-, same⟩ := Option.ite_none_left_eq_some.mp item
      obtain rfl := Option.some.inj same
      rfl

namespace Cache

/-! ## Listings -/

/-- A listing brings each of its objects. -/
theorem mem_relist_iff {objects : List α} (distinct : (objects.map keyOf).Nodup)
    (previous : Table Key α) (key : Key) (change : Change α) :
    (key, change) ∈ (relist objects previous).1 ↔
      ∃ new ∈ objects, keyOf new = key ∧ change = .bringing (previous.find? key) new := by
  induction objects generalizing previous with
  | nil => simp [relist]
  | cons first objects ih =>
      rw [List.map_cons, List.nodup_cons] at distinct
      have head : (relist (first :: objects) previous).1 =
          (keyOf first, .bringing (previous.find? (keyOf first)) first) ::
            (relist objects (previous.erase (keyOf first))).1 := rfl
      have elsewhere {new : α} (member : new ∈ objects) :
          (previous.erase (keyOf first)).find? (keyOf new) = previous.find? (keyOf new) := by
        rw [Table.find?_erase, if_neg]
        intro same
        exact distinct.1 (same ▸ List.mem_map_of_mem member)
      rw [head, List.mem_cons, ih distinct.2]
      constructor
      · rintro (same | ⟨new, member, rfl, rfl⟩)
        · obtain ⟨rfl, rfl⟩ := Prod.mk.inj same
          exact ⟨first, by simp, rfl, rfl⟩
        · exact ⟨new, by simp [member], rfl, by rw [elsewhere member]⟩
      · rintro ⟨new, member, rfl, rfl⟩
        rcases List.mem_cons.mp member with rfl | later
        · exact .inl rfl
        · exact .inr ⟨new, later, rfl, by rw [elsewhere later]⟩

theorem find?_relist (objects : List α) (previous : Table Key α) (key : Key) :
    (relist objects previous).2.find? key =
      if key ∈ objects.map keyOf then none else previous.find? key := by
  induction objects generalizing previous with
  | nil => simp [relist]
  | cons first objects ih =>
      have rest : (relist (first :: objects) previous).2 =
          (relist objects (previous.erase (keyOf first))).2 := rfl
      rw [rest, ih, Table.find?_erase]
      by_cases member : key ∈ objects.map keyOf
      · rw [if_pos member, if_pos (by simp [member])]
      · by_cases same : keyOf first = key
        · rw [if_neg member, if_pos same, if_pos (by simp [same])]
        · rw [if_neg member, if_neg same, if_neg (by simpa [Ne.symm same] using member)]

theorem nodup_relist (objects : List α) {previous : Table Key α} (nodup : previous.keys.Nodup) :
    (relist objects previous).2.keys.Nodup := by
  induction objects generalizing previous with
  | nil => exact nodup
  | cons first objects ih => exact ih (Table.nodup_erase nodup _)

theorem mem_relist_leftovers_iff (objects : List α) (entries : List (Ref × α)) (key : Key)
    (last : α) :
    (key, last) ∈ (relist objects (byKey entries)).2.entries ↔
      (byKey entries).find? key = some last ∧ key ∉ objects.map keyOf := by
  have nodup : (byKey entries).keys.Nodup := Table.nodup_ofList _
  rw [Table.mem_entries_iff (nodup_relist objects nodup), find?_relist]
  by_cases member : key ∈ objects.map keyOf
  · rw [if_pos member]
    simp [member]
  · rw [if_neg member]
    simp [member]

/-- Objects with distinct keys by key, in whatever order they are enumerated. -/
theorem find?_byKey_eq_some_iff {objects : Table Ref α}
    (distinct : (objects.values.map keyOf).Nodup) {entries : List (Ref × α)}
    (rearranged : entries.Perm objects.entries) (key : Key) (object : α) :
    (byKey entries).find? key = some object ↔ object ∈ objects.values ∧ keyOf object = key := by
  have keys : ((entries.map fun entry => (keyOf entry.2, entry.2)).map Prod.fst).Perm
      (objects.values.map keyOf) := by
    rw [List.map_map, Table.values, List.map_map]
    exact rearranged.map _
  rw [byKey, Table.find?_ofList_eq_some_iff (keys.nodup_iff.mpr distinct)]
  simp only [List.mem_map, Prod.mk.injEq, Table.values, rearranged.mem_iff]
  constructor
  · rintro ⟨entry, member, rfl, rfl⟩
    exact ⟨⟨entry, member, rfl⟩, rfl⟩
  · rintro ⟨⟨entry, member, rfl⟩, rfl⟩
    exact ⟨entry, member, rfl, rfl⟩

/-- A completed listing brings its objects and deletes those that are not part of it. -/
theorem mem_relistChanges_iff {before after : Table Ref α}
    (distinctBefore : (before.values.map keyOf).Nodup)
    (distinctAfter : (after.values.map keyOf).Nodup) {order : Enumeration α} (fair : order.Fair)
    {previous : Key → Option α}
    (was : ∀ key object, previous key = some object ↔ object ∈ before.values ∧ keyOf object = key)
    (key : Key) (change : Change α) :
    (key, change) ∈ relistChanges order before after ↔
      (∃ new ∈ after.values, keyOf new = key ∧ change = .bringing (previous key) new) ∨
        ∃ last, previous key = some last ∧ key ∉ after.values.map keyOf ∧
          change = .deleted last := by
  have brought : ((order.objects after.entries).map Prod.snd).Perm after.values :=
    (fair.objects_perm after.entries).map Prod.snd
  have distinct : (((order.objects after.entries).map Prod.snd).map keyOf).Nodup :=
    (brought.map keyOf).nodup_iff.mpr distinctAfter
  have found (key : Key) :
      (byKey (order.objects before.entries)).find? key = previous key := by
    ext object
    rw [find?_byKey_eq_some_iff distinctBefore (fair.objects_perm before.entries), was]
  rw [relistChanges, List.mem_append, mem_relist_iff distinct, List.mem_map]
  apply or_congr
  · simp only [brought.mem_iff, found]
  · constructor
    · rintro ⟨⟨other, last⟩, member, same⟩
      obtain ⟨rfl, rfl⟩ := Prod.mk.inj same
      rw [(fair.leftovers_perm _).mem_iff, mem_relist_leftovers_iff, found,
        (brought.map keyOf).mem_iff] at member
      exact ⟨last, member.1, member.2, rfl⟩
    · rintro ⟨last, held, absent, rfl⟩
      refine ⟨(key, last), ?_, rfl⟩
      rw [(fair.leftovers_perm _).mem_iff, mem_relist_leftovers_iff, found,
        (brought.map keyOf).mem_iff]
      exact ⟨held, absent⟩

/-- In scope, a completed listing brings the objects after it and deletes those that are
gone. -/
theorem mem_relistChanges_iff_found? {before after : Table Ref α}
    (storedBefore : Stored scope before) (storedAfter : Stored scope after)
    {order : Enumeration α} (fair : order.Fair) (key : Key) (change : Change α) :
    (key, change) ∈ relistChanges order before after ↔
      (∃ new, found? after key = some new ∧ change = .bringing (found? before key) new) ∨
        ∃ last, found? before key = some last ∧ found? after key = none ∧
          change = .deleted last := by
  have absent : key ∉ after.values.map keyOf ↔ found? after key = none := by
    rw [Option.eq_none_iff_forall_ne_some, List.mem_map]
    simp only [ne_eq, storedAfter.found?_eq_some_iff, not_exists]
  rw [mem_relistChanges_iff storedBefore.nodup_keyOf storedAfter.nodup_keyOf fair
    storedBefore.found?_eq_some_iff, absent]
  simp only [storedAfter.found?_eq_some_iff, and_assoc]

/-! ## Events -/

/-- The cached objects are in scope, and so are those of the listing being collected. -/
structure Proper (scope : Scope) (cache : Cache α) : Prop where
  objects : Stored scope cache.objects
  listing : Stored scope cache.listing

theorem Proper.empty : ({} : Cache α).Proper scope :=
  ⟨.empty, .empty⟩

variable {cache : Cache α} {event : Event α} {order : Enumeration α}

theorem Proper.apply (proper : cache.Proper scope) (within : event.Within scope) :
    (cache.apply order event).1.Proper scope := by
  cases event with
  | listingStarted => exact ⟨proper.objects, .empty⟩
  | listed object => exact ⟨proper.objects, proper.listing.insert (within object rfl)⟩
  | listingDone => exact ⟨proper.listing, .empty⟩
  | applied object => exact ⟨proper.objects.insert (within object rfl), proper.listing⟩
  | removed object => exact ⟨proper.objects.erase _, proper.listing⟩

/-- What an event leaves as the object of a key. -/
def leaves? (cache : Cache α) (key : Key) : Event α → Option α
  | .listingDone => found? cache.listing key
  | .applied object => if keyOf object = key then some object else cache.objectAt? key
  | .removed object => if keyOf object = key then none else cache.objectAt? key
  | .listingStarted | .listed _ => cache.objectAt? key

/-- An object that an event leaves without bringing it was there before. -/
theorem objectAt?_of_leaves? {key : Key} {object : α} (apart : ¬event.Brings key)
    (left : cache.leaves? key event = some object) : cache.objectAt? key = some object := by
  cases event with
  | listingStarted | listed => exact left
  | listingDone => exact (apart trivial).elim
  | applied other =>
      have different : ¬keyOf other = key := apart
      rwa [leaves?, if_neg different] at left
  | removed other =>
      rw [leaves?] at left
      split at left
      · cases left
      · exact left

theorem objectAt?_apply (proper : cache.Proper scope) (within : event.Within scope) (key : Key) :
    (cache.apply order event).1.objectAt? key = cache.leaves? key event := by
  cases event with
  | applied object => exact proper.objects.found?_insert (within object rfl) key
  | removed object => exact proper.objects.found?_erase (within object rfl) key
  | listingStarted | listed | listingDone => rfl

/-- The changes of an event tell what it did to every key, and nothing else. -/
theorem mem_apply_iff (proper : cache.Proper scope) (within : event.Within scope)
    (fair : order.Fair) (key : Key) (change : Change α) :
    (key, change) ∈ (cache.apply order event).2 ↔
      Change.Tells event key (cache.objectAt? key)
        ((cache.apply order event).1.objectAt? key) change := by
  rw [objectAt?_apply proper within]
  cases event with
  | listingStarted | listed =>
      rw [leaves?, Change.tells_iff_of_same (by simp [Event.Brings])]
      simp [apply]
  | listingDone =>
      have brings : Event.Brings key (.listingDone : Event α) := trivial
      rw [leaves?, Change.tells_iff_of_brings brings]
      exact mem_relistChanges_iff_found? proper.objects proper.listing fair key change
  | applied object =>
      have covered := within object rfl
      have changes : (cache.apply order (.applied object)).2 =
          [(keyOf object, .bringing (cache.objectAt? (keyOf object)) object)] := by
        rw [objectAt?, ← proper.objects.lookup_refOf covered]
        rfl
      rw [changes, List.mem_singleton, Prod.mk.injEq]
      by_cases same : keyOf object = key
      · have brings : Event.Brings key (.applied object) := same
        rw [leaves?, if_pos same, Change.tells_iff_of_brings brings]
        simp [same]
      · have apart : ¬Event.Brings key (.applied object) := same
        rw [leaves?, if_neg same, Change.tells_iff_of_same apart]
        simp [Ne.symm same]
  | removed object =>
      have covered := within object rfl
      have changes : (cache.apply order (.removed object)).2 =
          [(keyOf object, .deleted ((cache.objectAt? (keyOf object)).getD object))] := by
        rw [objectAt?, ← proper.objects.lookup_refOf covered]
        rfl
      rw [changes, List.mem_singleton, Prod.mk.injEq]
      by_cases same : keyOf object = key
      · rw [leaves?, if_pos same, Change.tells_iff_of_removed same]
        simp [same]
      · rw [leaves?, if_neg same, Change.tells_iff_of_same (by simp [Event.Brings])]
        simp [same, Ne.symm same]

theorem fits_of_mem_apply (proper : cache.Proper scope) (within : event.Within scope)
    (fair : order.Fair) {key : Key} {change : Change α}
    (member : (key, change) ∈ (cache.apply order event).2) : scope.Fits key.ns := by
  cases (mem_apply_iff proper within fair key change).mp member with
  | added _ found | updated _ _ found => exact (proper.apply within).objects.fits_of_found? found
  | deleted was => exact proper.objects.fits_of_found? was
  | @missed last removed same =>
      rw [← same]
      exact (within last (by rw [removed]; rfl)).fits_keyOf

/-- An event that changes the version of a key, or whether it has an object, has a change
of the key that asks for work. -/
theorem exists_work_of_apply (proper : cache.Proper scope) (within : event.Within scope)
    (fair : order.Fair) {key : Key}
    (differs : ((cache.apply order event).1.objectAt? key).map versionOf ≠
      (cache.objectAt? key).map versionOf) :
    ∃ change, (key, change) ∈ (cache.apply order event).2 ∧
      (Work.ofChange? key change).isSome = true := by
  simp only [mem_apply_iff proper within fair]
  cases was : cache.objectAt? key with
  | none =>
      cases found : (cache.apply order event).1.objectAt? key with
      | none => simp [was, found] at differs
      | some new => exact ⟨_, .added rfl rfl, rfl⟩
  | some old =>
      cases found : (cache.apply order event).1.objectAt? key with
      | none => exact ⟨_, .deleted rfl rfl, rfl⟩
      | some new =>
          have versions : versionOf old ≠ versionOf new := by
            intro same
            simp [was, found, same] at differs
          -- An event that does not bring the key would have left the object as it was.
          have brings : event.Brings key := by
            by_contra apart
            rw [objectAt?_apply proper within] at found
            rw [objectAt?_of_leaves? apart found] at was
            exact versions (congrArg versionOf (Option.some.inj was).symm)
          exact ⟨_, .updated brings rfl rfl, by simp [Work.ofChange?, versions]⟩

end Cache

end Reconciler
