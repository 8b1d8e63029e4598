import Reconciler.Failure
import Reconciler.Table
import Reconciler.Work

/-!
# The cache of a resource kind

The cache follows the events of a watch.  A listing is collected aside and takes
the place of the cached objects when it is complete; single notifications change
the cached objects directly.  Every event yields the changes that it made, by key.

The store of cached objects is addressed by raw references.  Looking up a
reference that is not there falls back to the same name without a namespace.
-/

namespace Reconciler

/-- A notification of a watch. -/
inductive Event (α : Type)
  /-- A listing begins. -/
  | listingStarted
  /-- An object of the listing. -/
  | listed (object : α)
  /-- The listing is complete. -/
  | listingDone
  /-- An object was added or changed. -/
  | applied (object : α)
  /-- An object was removed; the last state known to the server comes along. -/
  | removed (object : α)
deriving DecidableEq, Repr

/-- The object that an event is about. -/
def Event.object? {α : Type} : Event α → Option α
  | .listingStarted => none
  | .listed object => some object
  | .listingDone => none
  | .applied object => some object
  | .removed object => some object

/-- What an event did to a key. -/
inductive Change (α : Type)
  | added (new : α)
  | updated (old new : α)
  | deleted (last : α)
deriving DecidableEq, Repr

/-- The local copy of the objects of one kind. -/
structure Cache (α : Type) where
  objects : Table Ref α := Table.empty
  /-- The listing collected so far. -/
  listing : Table Ref α := Table.empty
  /-- Whether a listing was ever completed. -/
  ready : Bool := false
  /-- Whether the changes of a listing were ever passed on completely. -/
  synced : Bool := false
deriving DecidableEq, Repr

/-- The order in which a completed listing enumerates the objects of the store and
the objects that are left over from before.  The order is not specified, so it is
a parameter. -/
structure Enumeration (α : Type) where
  objects : List (Ref × α) → List (Ref × α) := fun entries => entries
  leftovers : List (Key × α) → List (Key × α) := fun entries => entries

/-- An enumeration only ever rearranges. -/
structure Enumeration.Fair {α : Type} (order : Enumeration α) : Prop where
  objects_perm : ∀ entries, (order.objects entries).Perm entries
  leftovers_perm : ∀ entries, (order.leftovers entries).Perm entries

theorem Enumeration.fair_default {α : Type} : ({} : Enumeration α).Fair where
  objects_perm _ := .refl _
  leftovers_perm _ := .refl _

namespace Cache

variable {α : Type}

/-- The object at a reference, or else the one of that name without a namespace. -/
def lookup (objects : Table Ref α) (ref : Ref) : Option α :=
  (objects.find? ref).or (objects.find? ⟨none, ref.name⟩)

/-- The cached object of a key. -/
def get? (cache : Cache α) (key : Key) : Option α :=
  lookup cache.objects key.ref

/-- The cached objects. -/
def list (cache : Cache α) : List α :=
  cache.objects.values

/-- Marks the changes of the listing as passed on. -/
def markSynced (cache : Cache α) : Cache α :=
  { cache with synced := true }

/-- How far a cache has come with its first listing. -/
inductive Progress
  /-- The listing is complete and its changes are passed on. -/
  | synced
  /-- The listing may still be completed. -/
  | pending
  /-- Nobody is left to complete the listing. -/
  | abandoned
deriving DecidableEq, Repr

/-- How far a cache has come; `followed` says whether somebody still feeds it. -/
def progress (cache : Cache α) (followed : Bool) : Progress :=
  if cache.ready && cache.synced then .synced
  else if followed then .pending
  else .abandoned

/-- What becomes of a wait for a cache if nothing else happens until its deadline. -/
def awaitSync (cache : Cache α) (followed : Bool) (controller : String) (deadline : Duration) :
    Except Failure Unit :=
  match cache.progress followed with
  | .synced => .ok ()
  | .pending => .error (.syncTimeout controller deadline)
  | .abandoned => .error (.stopped controller)

variable [Resource α]

/-- The key of a cached object. -/
def keyOf (object : α) : Key :=
  (refOf object).key

/-- The objects of an enumeration by key; of two with one key the later counts. -/
def byKey (entries : List (Ref × α)) : Table Key α :=
  Table.ofList (entries.map fun entry => (keyOf entry.2, entry.2))

/-- Compares the objects of a completed listing with those before: what was there
before is updated, the rest is added.  Returns what is left over as well. -/
def relist : List α → Table Key α → List (Key × Change α) × Table Key α
  | [], previous => ([], previous)
  | new :: objects, previous =>
      let key := keyOf new
      let change :=
        match previous.find? key with
        | some old => Change.updated old new
        | none => Change.added new
      let (changes, leftovers) := relist objects (previous.erase key)
      ((key, change) :: changes, leftovers)

/-- The changes that a completed listing makes: updates and additions first, then
the removal of everything that is not part of it. -/
def relistChanges (order : Enumeration α) (before after : Table Ref α) :
    List (Key × Change α) :=
  let previous := byKey (order.objects before.entries)
  let (changes, leftovers) := relist ((order.objects after.entries).map Prod.snd) previous
  changes ++ (order.leftovers leftovers.entries).map fun entry => (entry.1, .deleted entry.2)

/-- Applies an event about named objects; yields the changes by key. -/
def apply (order : Enumeration α) (cache : Cache α) :
    Event α → Cache α × List (Key × Change α)
  | .listingStarted => ({ cache with listing := Table.empty }, [])
  | .listed object =>
      ({ cache with listing := cache.listing.insert (refOf object) object }, [])
  | .listingDone =>
      ({ cache with objects := cache.listing, listing := Table.empty, ready := true },
        relistChanges order cache.objects cache.listing)
  | .applied object =>
      let ref := refOf object
      let change :=
        match lookup cache.objects ref with
        | some old => Change.updated old object
        | none => Change.added object
      ({ cache with objects := cache.objects.insert ref object }, [(ref.key, change)])
  | .removed object =>
      let ref := refOf object
      ({ cache with objects := cache.objects.erase ref },
        [(ref.key, .deleted ((lookup cache.objects ref).getD object))])

end Cache

/-- The work item of a change.  An update that carries the version of the object
before it is none. -/
def Work.ofChange? {α : Type} [Resource α] (key : Key) : Change α → Option (Work α)
  | .added _ => some ⟨key, .add, none⟩
  | .updated old new =>
      if versionOf old = versionOf new then none else some ⟨key, .update, some old⟩
  | .deleted last => some ⟨key, .delete, some last⟩

end Reconciler
