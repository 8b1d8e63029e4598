import Reconciler.Pod
import Reconciler.Proofs.ChangeStream
import Reconciler.Proofs.PipelineScope

/-!
# What a pending item stands for

The changes of a key that are announced while nobody takes the key up are merged into
one item.  The item deletes if the last of these changes does, it adds if the object
came meanwhile and is still there, and it updates otherwise.  Apart from an addition it
carries the object before the first of the changes, or, if the object came meanwhile,
the object that was removed after it came for the last time.

A merge sees one change at a time, so this needs that the changes of a key follow upon
each other: no update is announced after a removal.  The cache sees to it, since it
tells of every key what became of the object that it had told of before.
-/

namespace Reconciler

variable {α ω : Type}

/-- The object that a change found at its key. -/
def Change.prior? : Change α → Option α
  | .added _ => none
  | .updated old _ => some old
  | .deleted last => some last

def Change.removed? : Change α → Option α
  | .deleted last => some last
  | _ => none

/-! ## Merging -/

/-- An item says what became of an object by changes, the oldest first. -/
structure Summarises (changes : List (Change α)) (work : Work α) : Prop where
  nonempty : changes ≠ []
  delete_iff : work.operation = .delete ↔ ∃ last, changes.getLast? = some (.deleted last)
  add_iff : work.operation = .add ↔
    (∀ last, changes.getLast? ≠ some (.deleted last)) ∧ ∃ new, .added new ∈ changes
  updates : work.operation = .update → ∀ change ∈ changes, ∃ old new, change = .updated old new
  prior_none_iff : work.prior = none ↔ work.operation = .add
  first : (∀ new, .added new ∉ changes) → work.prior = changes.head?.bind Change.prior?
  /-- Since an addition, the first removal counts. -/
  removed : ∀ older new newer, changes = older ++ .added new :: newer →
    (∀ other, .added other ∉ newer) → work.prior = newer.findSome? Change.removed?

namespace Summarises

variable {changes : List (Change α)} {work pending : Work α} {key : Key}

/-- A value of a list with one more at the end is that one, or has its place before it. -/
theorem split_concat {β : Type} {values older newer : List β} {last value : β}
    (split : values ++ [last] = older ++ value :: newer) :
    (newer = [] ∧ value = last) ∨
      ∃ between, newer = between ++ [last] ∧ values = older ++ value :: between := by
  rcases List.eq_nil_or_concat newer with rfl | ⟨between, other, rfl⟩
  · obtain ⟨-, same⟩ := List.append_inj' split rfl
    exact .inl ⟨rfl, (List.cons.inj same).1.symm⟩
  · rw [List.concat_eq_append, ← List.cons_append, ← List.append_assoc] at split
    obtain ⟨before, same⟩ := List.append_inj' split rfl
    obtain rfl := (List.cons.inj same).1
    exact .inr ⟨between, List.concat_eq_append, before⟩

theorem unadded_of_updates (every : ∀ change ∈ changes, ∃ old new, change = .updated old new)
    (new : α) : .added new ∉ changes := by
  intro member
  obtain ⟨_, _, same⟩ := every _ member
  cases same

theorem not_split (unadded : ∀ new, .added new ∉ changes) {older newer : List (Change α)}
    {new : α} (split : changes = older ++ .added new :: newer) : False :=
  unadded new (by simp [split])

theorem ofAdded (changes : List (Change α)) (key : Key) (new : α) :
    Summarises (changes ++ [.added new]) ⟨key, .add, none⟩ where
  nonempty := by simp
  delete_iff := by simp
  add_iff := by simp
  updates same := by cases same
  prior_none_iff := by simp
  first unadded := (unadded new (by simp)).elim
  removed older other newer split unadded := by
    rcases split_concat split with ⟨rfl, -⟩ | ⟨between, rfl, -⟩
    · rfl
    · exact (unadded new (by simp)).elim

theorem ofUpdated (key : Key) (old new : α) :
    Summarises [.updated old new] ⟨key, .update, some old⟩ where
  nonempty := by simp
  delete_iff := by simp
  add_iff := by simp
  updates _ change member := ⟨old, new, List.mem_singleton.mp member⟩
  prior_none_iff := by simp
  first _ := rfl
  removed older other newer split := (not_split (by simp) split).elim

theorem ofDeleted (key : Key) (last : α) :
    Summarises [.deleted last] ⟨key, .delete, some last⟩ where
  nonempty := by simp
  delete_iff := by simp
  add_iff := by simp
  updates same := by cases same
  prior_none_iff := by simp
  first _ := rfl
  removed older other newer split := (not_split (by simp) split).elim

/-- A change that is no addition is the last one since the same addition as before. -/
theorem removed_concat (summary : Summarises changes pending) {change : Change α}
    {older newer : List (Change α)} {new : α}
    (split : changes ++ [change] = older ++ .added new :: newer)
    (unadded : ∀ other, .added other ∉ newer) (joins : ∀ other, change ≠ .added other) :
    newer.findSome? Change.removed? = pending.prior.or change.removed? := by
  rcases split_concat split with ⟨-, same⟩ | ⟨between, rfl, before⟩
  · exact (joins new same.symm).elim
  · have prior : pending.prior = between.findSome? Change.removed? :=
      summary.removed older new between before fun other member =>
        unadded other (List.mem_append_left _ member)
    rw [List.findSome?_append, ← prior, List.findSome?_singleton]

/-- An update leaves an addition an addition. -/
theorem updatedAdd (summary : Summarises changes pending) (adds : pending.operation = .add)
    (key : Key) (old new : α) :
    Summarises (changes ++ [.updated old new]) ⟨key, .add, none⟩ := by
  obtain ⟨-, came, before⟩ := summary.add_iff.mp adds
  have member : .added came ∈ changes ++ [.updated old new] := List.mem_append_left _ before
  refine
    { nonempty := by simp
      delete_iff := by simp
      add_iff := ?_
      updates := by simp
      prior_none_iff := by simp
      first := ?_
      removed := ?_ }
  · simp only [true_iff]
    exact ⟨by simp, came, member⟩
  · intro unadded
    exact (unadded came member).elim
  · intro older other newer split unadded
    rw [summary.removed_concat split unadded (by simp), summary.prior_none_iff.mpr adds]
    rfl

/-- What a summary without an addition says stays so with an update. -/
theorem updatedUpdate (summary : Summarises changes pending)
    (updates : pending.operation = .update) (key : Key) (old new : α) :
    Summarises (changes ++ [.updated old new]) ⟨key, .update, pending.prior⟩ := by
  have every : ∀ change ∈ changes ++ [.updated old new], ∃ old new, change = .updated old new := by
    intro change member
    rcases List.mem_append.mp member with before | last
    · exact summary.updates updates change before
    · exact ⟨old, new, List.mem_singleton.mp last⟩
  have unadded := unadded_of_updates every
  refine
    { nonempty := by simp
      delete_iff := by simp
      add_iff := ?_
      updates := fun _ => every
      prior_none_iff := ?_
      first := ?_
      removed := ?_ }
  · constructor
    · intro same
      cases same
    · rintro ⟨-, other, member⟩
      exact (unadded other member).elim
  · rw [summary.prior_none_iff, updates]
  · intro _
    have before : ∀ other, .added other ∉ changes :=
      fun other member => unadded other (List.mem_append_left _ member)
    rw [List.head?_append_of_ne_nil _ summary.nonempty]
    exact summary.first before
  · intro older other newer split
    exact (not_split unadded split).elim

/-- A removal takes the object with it, unless an older one is known. -/
theorem deleted (summary : Summarises changes pending) (key : Key) (last : α) :
    Summarises (changes ++ [.deleted last]) ⟨key, .delete, pending.prior.or (some last)⟩ where
  nonempty := by simp
  delete_iff := by simp
  add_iff := by simp
  updates same := by cases same
  prior_none_iff := by simp
  first unadded := by
    have before : ∀ other, .added other ∉ changes :=
      fun other member => unadded other (List.mem_append_left _ member)
    have known : pending.prior ≠ none := by
      intro unknown
      obtain ⟨-, other, member⟩ := summary.add_iff.mp (summary.prior_none_iff.mp unknown)
      exact before other member
    rw [List.head?_append_of_ne_nil _ summary.nonempty, ← summary.first before]
    exact Option.or_of_isSome (Option.isSome_iff_ne_none.mpr known)
  removed older other newer split unadded :=
    (summary.removed_concat split unadded (by simp)).symm

variable [Resource α]

theorem ofChange {change : Change α} (item : Work.ofChange? key change = some work) :
    Summarises [change] work := by
  cases change with
  | added new =>
      obtain rfl := Option.some.inj item
      exact ofAdded [] key new
  | updated old new =>
      obtain ⟨-, same⟩ := Option.ite_none_left_eq_some.mp item
      obtain rfl := Option.some.inj same
      exact ofUpdated key old new
  | deleted last =>
      obtain rfl := Option.some.inj item
      exact ofDeleted key last

/-- An item goes on to tell what became of an object when a change joins it that is
possible after the last one. -/
theorem merge (summary : Summarises changes pending) {change : Change α}
    (item : Work.ofChange? key change = some work)
    (follows : ∀ last old new,
      changes.getLast? = some (.deleted last) → change ≠ .updated old new) :
    Summarises (changes ++ [change]) (pending.merge work) := by
  cases change with
  | added new =>
      obtain rfl := Option.some.inj item
      have merged : pending.merge ⟨key, .add, none⟩ = ⟨pending.key, .add, none⟩ := by
        cases operation : pending.operation <;> simp [Work.merge, Operation.merge, operation]
      rw [merged]
      exact ofAdded changes pending.key new
  | updated old new =>
      obtain ⟨-, same⟩ := Option.ite_none_left_eq_some.mp item
      obtain rfl := Option.some.inj same
      cases operation : pending.operation with
      | add =>
          -- An addition carries no object, so what the update found is not kept either.
          have merged : pending.merge ⟨key, .update, some old⟩ = ⟨pending.key, .add, none⟩ := by
            simp [Work.merge, Operation.merge, operation]
          rw [merged]
          exact summary.updatedAdd operation pending.key old new
      | update =>
          have known : pending.prior.isSome := by
            rw [Option.isSome_iff_ne_none, Ne, summary.prior_none_iff, operation]
            simp
          have merged : pending.merge ⟨key, .update, some old⟩ =
              ⟨pending.key, .update, pending.prior⟩ := by
            simp [Work.merge, Operation.merge, operation, Option.or_of_isSome known]
          rw [merged]
          exact summary.updatedUpdate operation pending.key old new
      | delete =>
          -- The removal would be forgotten, but nothing can be updated after it.
          obtain ⟨last, gone⟩ := summary.delete_iff.mp operation
          exact (follows last old new gone rfl).elim
  | deleted last =>
      obtain rfl := Option.some.inj item
      have merged : pending.merge ⟨key, .delete, some last⟩ =
          ⟨pending.key, .delete, pending.prior.or (some last)⟩ := by
        cases operation : pending.operation <;> simp [Work.merge, Operation.merge, operation]
      rw [merged]
      exact summary.deleted pending.key last

end Summarises

/-! ## What a history tells of a key -/

/-- The changes of a key that were announced since it was last handed out, the oldest
first. -/
def changesSince (key : Key) : List (Mark α) → List (Change α)
  | [] => []
  | .announced other change :: history =>
      if other = key then changesSince key history ++ [change] else changesSince key history
  | .handed _ work :: history => if work.key = key then [] else changesSince key history
  | _ :: history => changesSince key history

/-- A failed item of a key came back since the key was last handed out. -/
def ReturnedSince (key : Key) : List (Mark α) → Prop
  | [] => False
  | .returned work :: history => work.key = key ∨ ReturnedSince key history
  | .handed _ work :: history => work.key ≠ key ∧ ReturnedSince key history
  | _ :: history => ReturnedSince key history

instance ReturnedSince.decide (key : Key) :
    (history : List (Mark α)) → Decidable (ReturnedSince key history)
  | [] => inferInstanceAs (Decidable False)
  | .returned work :: history =>
      have := ReturnedSince.decide key history
      inferInstanceAs (Decidable (work.key = key ∨ ReturnedSince key history))
  | .handed _ work :: history =>
      have := ReturnedSince.decide key history
      inferInstanceAs (Decidable (work.key ≠ key ∧ ReturnedSince key history))
  | .refreshed _ :: history | .announced _ _ :: history | .looked _ _ _ :: history
  | .called _ _ :: history => ReturnedSince.decide key history

/-- The change of a key that was last announced. -/
def lastTold? (key : Key) : List (Mark α) → Option (Change α)
  | [] => none
  | .announced other change :: history => if other = key then some change else lastTold? key history
  | _ :: history => lastTold? key history

/-- The cache after the last event. -/
def lastCache : List (Mark α) → Cache α
  | [] => {}
  | .refreshed cache :: _ => cache
  | _ :: history => lastCache history

/-- The cache before the last event. -/
def cacheBefore : List (Mark α) → Cache α
  | [] => {}
  | .refreshed _ :: history => lastCache history
  | _ :: history => cacheBefore history

/-- The failed item that came back with a step. -/
def Mark.returned? : Mark α → Option (Work α)
  | .returned work => some work
  | _ => none

theorem lastTold?_of_changesSince {key : Key} {history : List (Mark α)} {change : Change α}
    (last : (changesSince key history).getLast? = some change) :
    lastTold? key history = some change := by
  induction history with
  | nil => cases last
  | cons mark history ih =>
      cases mark with
      | announced other told =>
          rw [changesSince] at last
          rw [lastTold?]
          split at last
          next same => rwa [if_pos same, ← List.getLast?_concat]
          next apart => rw [if_neg apart, ih last]
      | handed id work =>
          rw [changesSince] at last
          split at last
          · cases last
          · exact ih last
      | _ => exact ih last

/-- Where the first change was announced since a key was last handed out. -/
theorem exists_first_of_changesSince {key : Key} {history : List (Mark α)} {first : Change α}
    (since : (changesSince key history).head? = some first) :
    ∃ newer older, history = newer ++ .announced key first :: older ∧
      changesSince key older = [] ∧ ∀ id work, .handed id work ∈ newer → work.key ≠ key := by
  induction history with
  | nil => cases since
  | cons mark history ih =>
      have further (before : (changesSince key history).head? = some first)
          (apart : ∀ id work, mark = .handed id work → work.key ≠ key) :
          ∃ newer older, mark :: history = newer ++ .announced key first :: older ∧
            changesSince key older = [] ∧ ∀ id work, .handed id work ∈ newer → work.key ≠ key := by
        obtain ⟨newer, older, rfl, idle, unhanded⟩ := ih before
        refine ⟨mark :: newer, older, rfl, idle, ?_⟩
        intro id work member
        rcases List.mem_cons.mp member with same | later
        · exact apart id work same.symm
        · exact unhanded id work later
      cases mark with
      | announced other told =>
          rw [changesSince] at since
          split at since
          next same =>
            by_cases none : changesSince key history = []
            · rw [none] at since
              obtain rfl := Option.some.inj since
              exact ⟨[], history, by rw [same]; rfl, none, by simp⟩
            · rw [List.head?_append_of_ne_nil _ none] at since
              exact further since (by simp)
          next => exact further since (by simp)
      | handed id work =>
          rw [changesSince] at since
          split at since
          · cases since
          next apart =>
            refine further since ?_
            rintro _ _ ⟨⟩
            exact apart
      | _ => exact further since (by simp)

variable [Resource α] {scope : Scope} {history : List (Mark α)}

namespace Pipeline

/-! ## Changes follow upon each other -/

/-- A key has no object, apart from one whose addition is still to be announced. -/
structure Vacant (objects : Table Ref α) (changes : List (Key × Change α)) (key : Key) : Prop where
  unchanged : ∀ old new, (key, .updated old new) ∉ changes
  absent : (∀ change, (key, change) ∉ changes) → found? objects key = none

/-- What a run keeps true about the changes that are still to be announced. -/
structure Traced (history : List (Mark α)) (pipe : Pipeline α) : Prop where
  cached : pipe.cache.objects = (lastCache history).objects
  nodup : (pipe.changes.map Prod.fst).Nodup
  tells : ∀ key change, (key, change) ∈ pipe.changes → ∃ event,
    Change.Tells event key ((cacheBefore history).objectAt? key) (pipe.cache.objectAt? key) change
  vacant : ∀ key last, lastTold? key history = some (.deleted last) →
    Vacant pipe.cache.objects pipe.changes key

/-- A key stays vacant when a change of another key is passed on. -/
theorem Vacant.passed {objects : Table Ref α} {key other : Key} {change : Change α}
    {changes : List (Key × Change α)} (vacant : Vacant objects ((other, change) :: changes) key)
    (apart : other ≠ key) : Vacant objects changes key where
  unchanged old new member := vacant.unchanged old new (List.mem_cons_of_mem _ member)
  absent untold := by
    apply vacant.absent
    intro next member
    rcases List.mem_cons.mp member with same | later
    · exact apart (Prod.mk.inj same).1.symm
    · exact untold next later

theorem Traced.passed {pipe : Pipeline α} {key : Key} {change : Change α}
    {changes : List (Key × Change α)} {newer : List (Mark α)} (traced : pipe.Traced history)
    (told : pipe.changes = (key, change) :: changes)
    (cached : lastCache newer = lastCache history)
    (before : cacheBefore newer = cacheBefore history)
    (elsewhere : ∀ other, other ≠ key → lastTold? other newer = lastTold? other history)
    (vacant : ∀ last, lastTold? key newer = some (.deleted last) →
      Vacant pipe.cache.objects changes key) :
    ({ pipe with changes } : Pipeline α).Traced newer where
  cached := traced.cached.trans (congrArg Cache.objects cached.symm)
  nodup := by
    have nodup := traced.nodup
    rw [told] at nodup
    exact (List.nodup_cons.mp nodup).2
  tells other next member := by
    rw [before]
    exact traced.tells other next (by simp [told, member])
  vacant other last gone := by
    by_cases same : other = key
    · rw [same] at gone ⊢
      exact vacant last gone
    · rw [elsewhere other same] at gone
      have kept := traced.vacant other last gone
      rw [told] at kept
      exact kept.passed (Ne.symm same)

theorem Traced.step {before after : Pipeline α} {mark : Option (Mark α)}
    (inScope : before.InScope scope history) (traced : before.Traced history)
    (step : Step (Event.Within scope) history mark before after) :
    after.Traced (mark.toList ++ history) := by
  cases step with
  | still => exact traced
  | synced | closed | returned | handed | looked | called => exact { traced with }
  | ignored nothing =>
      exact { traced with
        cached := rfl
        tells := fun key change member => by simp [nothing] at member }
  | @received _ order event nothing fair within =>
      have found (key : Key) :
          (lastCache history).objectAt? key = before.cache.objectAt? key :=
        congrArg (found? · key) traced.cached.symm
      have tells (key : Key) (change : Change α)
          (member : (key, change) ∈ (before.cache.apply order event).2) :=
        (Cache.mem_apply_iff inScope.cache within fair key change).mp member
      refine ⟨rfl, Cache.nodup_apply inScope.cache fair, ?_, ?_⟩
      · intro key change member
        refine ⟨event, ?_⟩
        change Change.Tells event key ((lastCache history).objectAt? key) _ change
        rw [found]
        exact tells key change member
      · intro key last gone
        have absent : before.cache.objectAt? key = none :=
          (traced.vacant key last gone).absent (by simp [nothing])
        constructor
        · intro old new member
          have told := tells key _ member
          rw [absent] at told
          cases told with
          | updated _ was => cases was
        · intro untold
          exact (Cache.objectAt?_of_untold inScope.cache within fair untold).trans absent
  | @announced _ key change changes work told item =>
      have passed : Traced (.announced key change :: history) { before with changes } := by
        refine traced.passed told rfl rfl (fun other apart => if_neg (Ne.symm apart)) ?_
        intro last gone
        obtain rfl : change = .deleted last := Option.some.inj ((if_pos rfl).symm.trans gone)
        have nodup := traced.nodup
        rw [told, List.map_cons, List.nodup_cons] at nodup
        constructor
        · intro old new member
          exact nodup.1 (List.mem_map.mpr ⟨_, member, rfl⟩)
        · intro _
          obtain ⟨_, tells⟩ := traced.tells key (.deleted last) (by simp [told])
          exact tells.gone
      exact { passed with }
  | @suppressed _ key change changes told silent =>
      refine traced.passed told rfl rfl (fun _ _ => rfl) ?_
      intro last gone
      -- What is not announced is an update, and a vacant key has none.
      have vacant := traced.vacant key last gone
      rw [told] at vacant
      cases change with
      | added new | deleted last => cases silent
      | updated old new => exact (vacant.unchanged old new (by simp)).elim

theorem traced_of_runs {pipe : Pipeline α} (run : Runs (Event.Within scope) history pipe) :
    pipe.Traced history := by
  induction run with
  | start => exact ⟨rfl, List.nodup_nil, by simp, by simp [lastTold?]⟩
  | step run step ih => exact ih.step (inScope_of_runs run) step

/-! ## Pending items -/

/-- The pending item of a key tells what became of it since it was last handed out. -/
structure Summed (history : List (Mark α)) (pipe : Pipeline α) (key : Key) : Prop where
  idle : pipe.pending key = none → changesSince key history = []
  waits : ∀ work, pipe.pending key = some work → Summarises (changesSince key history) work

/-- Only an announced change says anything new about a key that is not handed out. -/
theorem Summed.announced {pipe : Pipeline α} {key : Key} {change : Change α} {work : Work α}
    (summed : pipe.Summed history key) (isOpen : pipe.closed = false)
    (item : Work.ofChange? key change = some work)
    (follows : ∀ last old new, lastTold? key history = some (.deleted last) →
      change ≠ .updated old new) :
    (pipe.add work).Summed (.announced key change :: history) key := by
  have since : changesSince key (.announced key change :: history) =
      changesSince key history ++ [change] := if_pos rfl
  have pending : (pipe.add work).pending key = some (work.joining (pipe.pending key)) := by
    rw [pending_add isOpen, if_pos (Work.key_of_ofChange? item).symm, Work.key_of_ofChange? item]
  constructor
  · intro none
    rw [pending] at none
    cases none
  · intro found waits
    rw [pending] at waits
    obtain rfl := Option.some.inj waits
    rw [since]
    cases before : pipe.pending key with
    | none =>
        rw [summed.idle before]
        exact .ofChange item
    | some waiting =>
        refine (summed.waits waiting before).merge item ?_
        intro last old new gone
        exact follows last old new (lastTold?_of_changesSince gone)

omit [Resource α] in
theorem Summed.elsewhere {before after : Pipeline α} {key : Key} {newer : List (Mark α)}
    (summed : before.Summed history key) (pending : after.pending key = before.pending key)
    (since : changesSince key newer = changesSince key history) : after.Summed newer key := by
  constructor
  · rw [pending, since]
    exact summed.idle
  · rw [pending, since]
    exact summed.waits

theorem Summed.step {before after : Pipeline α} {mark : Option (Mark α)} {key : Key}
    (traced : before.Traced history)
    (summed : ¬ReturnedSince key history → before.Summed history key)
    (step : Step (Event.Within scope) history mark before after)
    (isOpen : after.closed = false) (unreturned : ¬ReturnedSince key (mark.toList ++ history)) :
    after.Summed (mark.toList ++ history) key := by
  cases step with
  | still | synced | ignored | received | looked | called | suppressed =>
      exact { summed unreturned with }
  | closed => cases isOpen
  | @announced _ other change changes work told item =>
      have wasOpen : before.closed = false := isOpen
      by_cases same : other = key
      · rw [same] at told item ⊢
        have follows (last old new : α) (gone : lastTold? key history = some (.deleted last)) :
            change ≠ .updated old new := by
          rintro rfl
          exact (traced.vacant key last gone).unchanged old new (by simp [told])
        exact { (summed unreturned).announced wasOpen item follows with }
      · have apart : key ≠ work.key := by
          rw [Work.key_of_ofChange? item]
          exact Ne.symm same
        have since : changesSince key (.announced other change :: history) =
            changesSince key history := if_neg same
        exact (summed unreturned).elsewhere ((pending_add wasOpen work key).trans (if_neg apart))
          since
  | @returned _ work =>
      have apart : ¬work.key = key := fun same => unreturned (.inl same)
      have wasOpen : before.closed = false := isOpen
      have pending := (pending_add wasOpen work key).trans (if_neg (Ne.symm apart))
      exact (summed fun since => unreturned (.inr since)).elsewhere pending rfl
  | @handed _ id work =>
      by_cases same : work.key = key
      · have since : changesSince key (.handed id work :: history) = [] := if_pos same
        have taken : Function.update before.pending work.key none key = none := by
          rw [same, Function.update_self]
        exact ⟨fun _ => since, fun item waits => by simp [taken] at waits⟩
      · have since : changesSince key (.handed id work :: history) = changesSince key history :=
          if_neg same
        exact (summed fun since => unreturned ⟨same, since⟩).elsewhere
          (Function.update_of_ne (Ne.symm same) _ _) since

/-- The pending item of every key tells what became of it since it was last handed out,
unless it failed meanwhile. -/
theorem summed_of_runs {pipe : Pipeline α} (run : Runs (Event.Within scope) history pipe)
    (isOpen : pipe.closed = false) {key : Key} (unreturned : ¬ReturnedSince key history) :
    pipe.Summed history key := by
  induction run with
  | start => exact ⟨fun _ => rfl, fun work waits => by cases waits⟩
  | step run step ih =>
      exact Summed.step (traced_of_runs run) (ih (step.wasOpen isOpen)) step isOpen unreturned

theorem Runs.found_of_announced {pipe : Pipeline α} {later older : List (Mark α)} {key : Key}
    {old new : α}
    (run : Runs (Event.Within scope) (later ++ .announced key (.updated old new) :: older) pipe) :
    (cacheBefore older).objectAt? key = some old := by
  obtain ⟨before, after, ran, step⟩ := run.step_of_mark
  cases step with
  | announced told item =>
      obtain ⟨_, tells⟩ := (traced_of_runs ran).tells key (.updated old new) (by simp [told])
      exact (Change.tells_updated_iff.mp tells).2.1

end Pipeline

namespace System

/-- An item that is handed out summarises what was announced of its key since the key was
last handed out, as long as no failed item came back in between.  The object that an
update carries is the one that was cached before the event behind the first change. -/
theorem handed_summarises_changes {plan : Plan α ω} {system : System α ω}
    (later : List (Mark α)) {earlier : List (Mark α)} {id : Nat} {work : Work α}
    (run : Runs plan (Event.Within scope) (later ++ .handed id work :: earlier) system)
    (unreturned : ¬ReturnedSince work.key earlier) :
    Summarises (changesSince work.key earlier) work ∧
      (work.operation = .update → ∃ newer older old new,
        earlier = newer ++ .announced work.key (.updated old new) :: older ∧
          (∀ other item, .handed other item ∈ newer → item.key ≠ work.key) ∧
          changesSince work.key older = [] ∧ work.prior = some old ∧
          (cacheBefore older).objectAt? work.key = some old) := by
  have ran := pipeline_of_runs run
  obtain ⟨before, after, runBefore, step⟩ := ran.step_of_mark
  have summary : Summarises (changesSince work.key earlier) work := by
    cases step with
    | handed isOpen waits free =>
        exact (Pipeline.summed_of_runs runBefore isOpen unreturned).waits work waits
  refine ⟨summary, ?_⟩
  intro updates
  obtain ⟨first, begins⟩ : ∃ first, (changesSince work.key earlier).head? = some first := by
    rw [← Option.isSome_iff_exists, List.isSome_head?]
    exact summary.nonempty
  obtain ⟨old, new, rfl⟩ := summary.updates updates first (List.mem_of_head? begins)
  have unadded := Summarises.unadded_of_updates (summary.updates updates)
  obtain ⟨newer, older, split, idle, unhanded⟩ := exists_first_of_changesSince begins
  refine ⟨newer, older, old, new, split, unhanded, idle, ?_, ?_⟩
  · rw [summary.first unadded, begins]
    rfl
  · rw [split, ← List.cons_append, ← List.append_assoc] at ran
    exact ran.found_of_announced

/-- A pod changes twice while its addition is being reconciled. -/
theorem handed_summarises_changes_in_flight :
    let pod (version : String) : Pod :=
      { metadata := { name := some "a", ns := some "ns", resourceVersion := some version } }
    let key : Key := ⟨some "ns", "a"⟩
    let plan : Plan Pod Unit := { name := "pod", backoff := {}, handler := Pod.handler }
    let changing (version : String) : List (Action Pod Unit) :=
      [.receive {} (.applied (pod version)), .passOn, .passOn]
    let actions := [.enter 0 .worker] ++ changing "1" ++ List.replicate 3 (.advance 0) ++
      changing "2" ++ changing "3" ++ List.replicate 10 (.advance 0)
    let work : Work Pod := ⟨key, .update, some (pod "1")⟩
    ∃ earlier system,
      replay plan [] { world := () } actions = some (.handed 0 work :: earlier, system) ∧
        ¬ReturnedSince key earlier ∧
        changesSince key earlier =
          [.updated (pod "1") (pod "2"), .updated (pod "2") (pod "3")] ∧
        Summarises (changesSince key earlier) work ∧
        ∃ older, changesSince key older = [] ∧
          (cacheBefore older).objectAt? key = some (pod "1") := by
  intro pod key plan changing actions work
  have occur : ∀ action ∈ actions, action.Occurs (Event.Within .namespaced) := by
    simp [actions, changing, Action.Occurs, Enumeration.fair_default, Event.Within, Event.object?,
      Scope.Covers, Scope.Fits, Resource.metadata, pod]
  have shows : (replay plan [] { world := () } actions).map (fun result =>
      (result.1.head?, Decidable.decide (ReturnedSince key result.1.tail),
        changesSince key result.1.tail)) =
      some (some (.handed 0 work), false,
        [.updated (pod "1") (pod "2"), .updated (pod "2") (pod "3")]) := by
    decide
  obtain ⟨⟨history, system⟩, replayed, shown⟩ := Option.map_eq_some_iff.mp shows
  simp only [Prod.mk.injEq, decide_eq_false_iff_not] at shown
  obtain ⟨newest, unreturned, changes⟩ := shown
  obtain ⟨earlier, rfl⟩ := List.head?_eq_some_iff.mp newest
  have run := (Runs.start ()).replay occur replayed
  obtain ⟨summary, before⟩ := handed_summarises_changes [] run unreturned
  obtain ⟨newer, older, old, new, -, -, idle, prior, cached⟩ := before rfl
  obtain rfl := Option.some.inj prior
  exact ⟨earlier, system, replayed, unreturned, changes, summary, older, idle, cached⟩

/-- A pod is added, updated and removed before anybody takes it up.  The item carries the
pod as it was removed, and not what the first change after the addition found. -/
theorem removal_carries_removed :
    let plan : Plan Pod Unit := { name := "pod", backoff := {}, handler := Pod.handler }
    ¬∀ (earlier : List (Mark Pod)) (id : Nat) (work : Work Pod) (system : System Pod Unit),
      Runs plan (Event.Within .namespaced) (.handed id work :: earlier) system →
      earlier.filterMap Mark.returned? = [] → system.queue.closed = false →
      work.operation ≠ .add →
      ∀ older new newer, changesSince work.key earlier = older ++ .added new :: newer →
        (∀ other, .added other ∉ newer) → work.prior = newer.head?.bind Change.prior? := by
  intro plan claimed
  let pod (version : String) : Pod :=
    { metadata := { name := some "a", ns := some "ns", resourceVersion := some version } }
  let key : Key := ⟨some "ns", "a"⟩
  let passing (event : Event Pod) : List (Action Pod Unit) := [.receive {} event, .passOn, .passOn]
  let actions : List (Action Pod Unit) :=
    passing (.applied (pod "1")) ++ passing (.applied (pod "2")) ++
      passing (.removed (pod "3")) ++ [.enter 0 .worker, .advance 0, .advance 0]
  have occur : ∀ action ∈ actions, action.Occurs (Event.Within .namespaced) := by
    simp [actions, passing, Action.Occurs, Enumeration.fair_default, Event.Within, Event.object?,
      Scope.Covers, Scope.Fits, Resource.metadata, pod]
  have shows : (replay plan [] { world := () } actions).map (fun result =>
      (result.1.head?, result.1.tail.filterMap Mark.returned?,
        result.2.queue.closed, changesSince key result.1.tail)) =
      some (some (.handed 0 ⟨key, .delete, some (pod "2")⟩), [], false,
        [.added (pod "1"), .updated (pod "1") (pod "2"), .deleted (pod "2")]) := by
    decide
  obtain ⟨⟨history, system⟩, replayed, shown⟩ := Option.map_eq_some_iff.mp shows
  simp only [Prod.mk.injEq] at shown
  obtain ⟨newest, unreturned, isOpen, changes⟩ := shown
  obtain ⟨earlier, rfl⟩ := List.head?_eq_some_iff.mp newest
  have prior := claimed earlier 0 _ system ((Runs.start ()).replay occur replayed) unreturned isOpen
    (by decide) [] (pod "1") _ changes (by simp)
  exact absurd prior (by decide)

end System

end Reconciler
