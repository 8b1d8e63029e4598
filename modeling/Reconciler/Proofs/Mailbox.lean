import Mathlib.Data.Finset.Basic
import Mathlib.Data.List.Nodup
import Reconciler.Queue

/-!
# The queue as a mailbox for every key

A mailbox says what a queue is for and not how it is kept: a line of ready items,
an item parked for some of the keys in flight, and the keys in flight.  Its type
keeps the keys of the line distinct and apart from the keys in flight.

The queue keeps one line of keys and one table of items for ready and parked keys
alike.  This file shows that this is enough: whatever use is made of a queue, as
long as only keys in flight are released, it gives the answers of the mailbox and
represents the state of the mailbox.
-/

namespace Reconciler

/-- An item after it joined the one already pending for its key, if there is one. -/
def Work.joining {α : Type} (work : Work α) (pending : Option (Work α)) : Work α :=
  (pending.map fun item => item.merge work).getD work

@[simp]
theorem Work.joining_none {α : Type} (work : Work α) : work.joining none = work :=
  rfl

@[simp]
theorem Work.joining_some {α : Type} (work item : Work α) :
    work.joining (some item) = item.merge work :=
  rfl

/-- A use that is made of a queue. -/
inductive Use (α : Type)
  | add (work : Work α)
  | take
  | release (key : Key)
  | close
deriving DecidableEq, Repr

namespace Use

variable {α σ : Type}

/-- The state after uses one after another; `use` gives the answer to one use and
the state after it. -/
def after (use : σ → Use α → Option (Work α) × σ) (state : σ) (uses : List (Use α)) : σ :=
  uses.foldl (fun current next => (use current next).2) state

/-- The answers to uses one after another: the item handed out, if the use hands one
out. -/
def answers (use : σ → Use α → Option (Work α) × σ) : σ → List (Use α) → List (Option (Work α))
  | _, [] => []
  | state, next :: uses => (use state next).1 :: answers use (use state next).2 uses

def keysOf (answers : List (Option (Work α))) : List Key :=
  answers.filterMap (Option.map Work.key)

@[simp]
theorem keysOf_nil : keysOf ([] : List (Option (Work α))) = [] :=
  rfl

theorem keysOf_cons (answer : Option (Work α)) (answers : List (Option (Work α))) :
    keysOf (answer :: answers) = (answer.map Work.key).toList ++ keysOf answers := by
  cases answer <;> rfl

end Use

/-- A mailbox for every key.  An item names its key. -/
@[ext]
structure Mailbox (α : Type) where
  /-- The items ready to be handed out, first come first served. -/
  ready : List (Work α) := []
  /-- The items parked for keys in flight. -/
  parked : Key → Option (Work α) := fun _ => none
  /-- The keys handed out and not yet released. -/
  inFlight : Finset Key := ∅
  closed : Bool := false
  ready_nodup : (ready.map Work.key).Nodup := by simp
  ready_apart : ∀ work ∈ ready, work.key ∉ inFlight := by simp
  parked_key : ∀ key work, parked key = some work → work.key = key := by simp
  parked_inFlight : closed = false →
    ∀ key work, parked key = some work → key ∈ inFlight := by simp

theorem map_key_merge {α : Type} (items : List (Work α)) (work : Work α) :
    (items.map fun item => if item.key = work.key then item.merge work else item).map Work.key =
      items.map Work.key := by
  rw [List.map_map]
  apply List.map_congr_left
  intro item _
  simp only [Function.comp_apply]
  split <;> rfl

namespace Mailbox

variable {α : Type}

def readyKeys (box : Mailbox α) : List Key :=
  box.ready.map Work.key

def readyItem? (box : Mailbox α) (key : Key) : Option (Work α) :=
  box.ready.find? fun work => work.key = key

/-- The item of a key, ready or parked. -/
def item? (box : Mailbox α) (key : Key) : Option (Work α) :=
  (box.readyItem? key).or (box.parked key)

theorem readyItem?_eq_none_iff (box : Mailbox α) (key : Key) :
    box.readyItem? key = none ↔ ∀ work ∈ box.ready, work.key ≠ key := by
  simp [readyItem?]

/-- Merges an item into the ready item of its key, which keeps its place. -/
def mergeReady (box : Mailbox α) (work : Work α) : Mailbox α :=
  { box with
    ready := box.ready.map fun item => if item.key = work.key then item.merge work else item
    ready_nodup := by
      rw [map_key_merge]
      exact box.ready_nodup
    ready_apart := by
      intro other member
      obtain ⟨item, itemMem, rfl⟩ := List.mem_map.mp member
      split
      · exact box.ready_apart item itemMem
      · exact box.ready_apart item itemMem }

/-- Parks an item for a key in flight. -/
def park (box : Mailbox α) (work : Work α) (flying : work.key ∈ box.inFlight) : Mailbox α :=
  { box with
    parked := Function.update box.parked work.key (some work)
    parked_key := by
      intro key other found
      by_cases same : key = work.key
      · subst same
        simp at found
        rw [← found]
      · exact box.parked_key key other (by simpa [same] using found)
    parked_inFlight := by
      intro isOpen key other found
      by_cases same : key = work.key
      · rw [same]
        exact flying
      · exact box.parked_inFlight isOpen key other (by simpa [same] using found) }

/-- Puts an item of a new key at the end of the line. -/
def append (box : Mailbox α) (work : Work α) (fresh : box.readyItem? work.key = none)
    (grounded : work.key ∉ box.inFlight) : Mailbox α :=
  { box with
    ready := box.ready ++ [work]
    ready_nodup := by
      have others := (box.readyItem?_eq_none_iff work.key).mp fresh
      rw [List.map_append, List.nodup_append]
      refine ⟨box.ready_nodup, by simp, ?_⟩
      intro key member other otherMem same
      obtain ⟨item, itemMem, rfl⟩ := List.mem_map.mp member
      simp only [List.map_cons, List.map_nil, List.mem_singleton] at otherMem
      exact others item itemMem (same.trans otherMem)
    ready_apart := by
      intro item member
      rcases List.mem_append.mp member with old | new
      · exact box.ready_apart item old
      · rw [List.mem_singleton.mp new]
        exact grounded }

/-- Adds an item: it is merged into the item of its key wherever that is, parked if
the key is only in flight, and put at the end of the line otherwise. -/
def add (box : Mailbox α) (work : Work α) : Mailbox α :=
  if isClosed : box.closed = true then box
  else
    match fresh : box.readyItem? work.key with
    | some _ => box.mergeReady work
    | none =>
        match found : box.parked work.key with
        | some item =>
            box.park (item.merge work) (by
              rw [Work.merge_key, box.parked_key _ _ found]
              exact box.parked_inFlight (by simpa using isClosed) _ _ found)
        | none =>
            if flying : work.key ∈ box.inFlight then box.park work flying
            else box.append work fresh flying

/-- Hands out the first item of the line. -/
def take (box : Mailbox α) : Option (Work α) × Mailbox α :=
  if box.closed then (none, box)
  else
    match line : box.ready with
    | [] => (none, box)
    | work :: rest =>
        (some work,
          { box with
            ready := rest
            inFlight := insert work.key box.inFlight
            ready_nodup := by
              have nodup := box.ready_nodup
              rw [line] at nodup
              exact (List.nodup_cons.mp nodup).2
            ready_apart := by
              intro item member inserted
              have nodup := box.ready_nodup
              rw [line, List.map_cons, List.nodup_cons] at nodup
              rcases Finset.mem_insert.mp inserted with same | flying
              · exact nodup.1 (same ▸ List.mem_map_of_mem member)
              · exact box.ready_apart item (by simp [line, member]) flying
            parked_inFlight := by
              intro isOpen key item found
              exact Finset.mem_insert_of_mem (box.parked_inFlight isOpen key item found) })

/-- Clears the mark of a key in flight for which nothing is parked, or which is
released after closing. -/
def clear (box : Mailbox α) (key : Key)
    (idle : box.closed = false → box.parked key = none) : Mailbox α :=
  { box with
    inFlight := box.inFlight.erase key
    ready_apart := by
      intro item member erased
      exact box.ready_apart item member (Finset.mem_of_mem_erase erased)
    parked_inFlight := by
      intro isOpen other item found
      refine Finset.mem_erase.mpr ⟨?_, box.parked_inFlight isOpen other item found⟩
      rintro rfl
      simp [idle isOpen] at found }

def unpark (box : Mailbox α) (key : Key) : Mailbox α :=
  { box with
    parked := Function.update box.parked key none
    parked_key := by
      intro other item found
      by_cases same : other = key
      · simp [same] at found
      · exact box.parked_key other item (by simpa [same] using found)
    parked_inFlight := by
      intro isOpen other item found
      by_cases same : other = key
      · simp [same] at found
      · exact box.parked_inFlight isOpen other item (by simpa [same] using found) }

/-- Releases a key: the mark is cleared, and a parked item becomes ready at the end
of the line.  After closing only the mark is cleared. -/
def release (box : Mailbox α) (key : Key) : Mailbox α :=
  if isClosed : box.closed = true then box.clear key (by simp [isClosed])
  else
    match found : box.parked key with
    | none => box.clear key fun _ => found
    | some work =>
        ((box.unpark key).clear key (by simp [unpark])).append work
          (by
            rw [readyItem?_eq_none_iff, box.parked_key key work found]
            rintro item member rfl
            exact box.ready_apart item member
              (box.parked_inFlight (by simpa using isClosed) _ work found))
          (by
            rw [box.parked_key key work found]
            exact Finset.notMem_erase key box.inFlight)

def close (box : Mailbox α) : Mailbox α :=
  { box with
    closed := true
    parked_inFlight := by simp }

/-! ## What the operations do to the items -/

theorem key_of_readyItem? {box : Mailbox α} {key : Key} {work : Work α}
    (found : box.readyItem? key = some work) : work.key = key := by
  simpa using List.find?_some found

theorem readyItem?_mergeReady (box : Mailbox α) (work : Work α) (key : Key) :
    (box.mergeReady work).readyItem? key =
      if work.key = key then (box.readyItem? key).map fun item => item.merge work
      else box.readyItem? key := by
  have keptKey : (fun other : Work α => decide (other.key = key)) ∘
      (fun item => if item.key = work.key then item.merge work else item) =
        fun other => decide (other.key = key) := by
    funext item
    simp only [Function.comp_apply]
    split <;> rfl
  have mapped : (box.mergeReady work).readyItem? key =
      (box.readyItem? key).map fun item =>
        if item.key = work.key then item.merge work else item := by
    rw [readyItem?, mergeReady, List.find?_map, keptKey]
    rfl
  rw [mapped]
  cases found : box.readyItem? key with
  | none => simp
  | some item =>
      have itemKey := key_of_readyItem? found
      by_cases same : work.key = key
      · simp [itemKey, same]
      · simp [itemKey, same, Ne.symm same]

theorem readyItem?_append (box : Mailbox α) (work : Work α)
    (fresh : box.readyItem? work.key = none) (grounded : work.key ∉ box.inFlight)
    (key : Key) :
    (box.append work fresh grounded).readyItem? key =
      (box.readyItem? key).or (if work.key = key then some work else none) := by
  simp only [readyItem?, append, List.find?_append, List.find?_singleton, decide_eq_true_eq]

@[simp]
theorem parked_mergeReady (box : Mailbox α) (work : Work α) :
    (box.mergeReady work).parked = box.parked :=
  rfl

@[simp]
theorem parked_append (box : Mailbox α) (work : Work α)
    (fresh : box.readyItem? work.key = none) (grounded : work.key ∉ box.inFlight) :
    (box.append work fresh grounded).parked = box.parked :=
  rfl

@[simp]
theorem readyItem?_park (box : Mailbox α) (work : Work α) (flying : work.key ∈ box.inFlight)
    (key : Key) : (box.park work flying).readyItem? key = box.readyItem? key :=
  rfl

theorem parked_park (box : Mailbox α) (work : Work α) (flying : work.key ∈ box.inFlight)
    (key : Key) :
    (box.park work flying).parked key = if work.key = key then some work else box.parked key := by
  simp [park, Function.update_apply, eq_comm]

theorem readyItem?_of_inFlight (box : Mailbox α) {key : Key} (flying : key ∈ box.inFlight) :
    box.readyItem? key = none := by
  rw [readyItem?_eq_none_iff]
  rintro work member rfl
  exact box.ready_apart work member flying

/-- Adding an item to an open mailbox joins it to the item of its key, if there is
one, and leaves the items of all other keys. -/
theorem item?_add {box : Mailbox α} (isOpen : box.closed = false) (work : Work α) (key : Key) :
    (box.add work).item? key =
      if work.key = key then some (work.joining (box.item? work.key)) else box.item? key := by
  unfold add
  rw [dif_neg (by simp [isOpen])]
  split
  next item ready =>
    by_cases same : work.key = key
    · subst same
      simp [item?, readyItem?_mergeReady, ready]
    · simp [item?, readyItem?_mergeReady, same]
  next fresh =>
    split
    next item parked =>
      have itemKey := box.parked_key _ _ parked
      by_cases same : work.key = key
      · subst same
        simp [item?, parked_park, fresh, parked, itemKey]
      · simp [item?, parked_park, itemKey, same]
    next unparked =>
      split
      next flying =>
        by_cases same : work.key = key
        · subst same
          simp [item?, parked_park, fresh, unparked]
        · simp [item?, parked_park, same]
      next grounded =>
        by_cases same : work.key = key
        · subst same
          simp [item?, readyItem?_append, fresh, unparked]
        · simp [item?, readyItem?_append, same]

/-- The keys that a use makes ready: an item of a key that is neither pending nor in
flight arrives, and so does the item parked for a key that is released. -/
def arriving (box : Mailbox α) : Use α → List Key
  | .add work =>
      if box.closed = false ∧ box.item? work.key = none ∧ work.key ∉ box.inFlight then [work.key]
      else []
  | .take => []
  | .release key =>
      if box.closed = false ∧ (box.parked key).isSome then [key] else []
  | .close => []

/-- The answer of a mailbox to a use and the mailbox after it. -/
def use (box : Mailbox α) : Use α → Option (Work α) × Mailbox α
  | .add work => (none, box.add work)
  | .take => box.take
  | .release key => (none, box.release key)
  | .close => (none, box.close)

/-- Whether a use is in order: only a key in flight may be released. -/
def Permits (box : Mailbox α) : Use α → Prop
  | .release key => key ∈ box.inFlight
  | _ => True

/-- Whether uses one after another are in order. -/
def Orderly (box : Mailbox α) : List (Use α) → Prop
  | [] => True
  | next :: uses => box.Permits next ∧ (box.use next).2.Orderly uses

/-- The keys that uses one after another make ready. -/
def arrivals (box : Mailbox α) : List (Use α) → List Key
  | [] => []
  | next :: uses => box.arriving next ++ (box.use next).2.arrivals uses

instance (box : Mailbox α) (next : Use α) : Decidable (box.Permits next) := by
  unfold Permits
  split <;> infer_instance

instance decidableOrderly (box : Mailbox α) (uses : List (Use α)) :
    Decidable (box.Orderly uses) :=
  match uses with
  | [] => .isTrue trivial
  | next :: uses =>
      @instDecidableAnd _ _ inferInstance (decidableOrderly (box.use next).2 uses)

theorem readyKeys_mergeReady (box : Mailbox α) (work : Work α) :
    (box.mergeReady work).readyKeys = box.readyKeys :=
  map_key_merge box.ready work

theorem readyKeys_append (box : Mailbox α) (work : Work α)
    (fresh : box.readyItem? work.key = none) (grounded : work.key ∉ box.inFlight) :
    (box.append work fresh grounded).readyKeys = box.readyKeys ++ [work.key] := by
  simp [readyKeys, append]

theorem readyKeys_add (box : Mailbox α) (work : Work α) :
    (box.add work).readyKeys = box.readyKeys ++ box.arriving (.add work) := by
  unfold add
  split
  next isClosed => simp [arriving, isClosed]
  next isOpen =>
    split
    next item ready => simp [readyKeys_mergeReady, arriving, item?, ready]
    next fresh =>
      split
      next item parked => simp [arriving, item?, parked, readyKeys, park]
      next unparked =>
        split
        next flying => simp [arriving, flying, readyKeys, park]
        next grounded =>
          simp [readyKeys_append, arriving, isOpen, item?, fresh, unparked, grounded]

@[simp]
theorem inFlight_add (box : Mailbox α) (work : Work α) :
    (box.add work).inFlight = box.inFlight := by
  unfold add
  repeat' split
  all_goals rfl

@[simp]
theorem closed_add (box : Mailbox α) (work : Work α) :
    (box.add work).closed = box.closed := by
  unfold add
  repeat' split
  all_goals rfl

theorem add_of_closed {box : Mailbox α} (isClosed : box.closed = true) (work : Work α) :
    box.add work = box :=
  dif_pos isClosed

theorem item?_release {box : Mailbox α} {key : Key} (flying : key ∈ box.inFlight) (other : Key) :
    (box.release key).item? other = box.item? other := by
  unfold release
  split
  · rfl
  · split
    · rfl
    next work found =>
      have itemKey := box.parked_key key work found
      by_cases same : key = other
      · subst same
        have fresh := box.readyItem?_of_inFlight flying
        have kept : ((box.unpark key).clear key (by simp [unpark])).readyItem? key =
            box.readyItem? key := rfl
        simp [item?, readyItem?_append, kept, fresh, found, itemKey]
      · have kept : ((box.unpark key).clear key (by simp [unpark])).readyItem? other =
            box.readyItem? other := rfl
        have stillParked : ((box.unpark key).clear key (by simp [unpark])).parked other =
            box.parked other := by
          simp [unpark, clear, Ne.symm same]
        simp [item?, readyItem?_append, kept, stillParked, itemKey, same]

theorem readyKeys_release (box : Mailbox α) (key : Key) :
    (box.release key).readyKeys = box.readyKeys ++ box.arriving (.release key) := by
  unfold release
  split
  next isClosed => simp [arriving, isClosed, readyKeys, clear]
  next isOpen =>
    split
    next unparked => simp [arriving, unparked, readyKeys, clear]
    next work found =>
      rw [readyKeys_append, box.parked_key key work found]
      simp [arriving, isOpen, found, readyKeys, clear, unpark]

@[simp]
theorem inFlight_release (box : Mailbox α) (key : Key) :
    (box.release key).inFlight = box.inFlight.erase key := by
  unfold release
  repeat' split
  all_goals rfl

@[simp]
theorem closed_release (box : Mailbox α) (key : Key) :
    (box.release key).closed = box.closed := by
  unfold release
  repeat' split
  all_goals rfl

theorem take_of_closed {box : Mailbox α} (isClosed : box.closed = true) :
    box.take = (none, box) := by
  simp [take, isClosed]

theorem take_of_nil {box : Mailbox α} (line : box.ready = []) : box.take = (none, box) := by
  unfold take
  split
  · rfl
  · split
    · rfl
    next work rest cons => simp [line] at cons

theorem take_of_cons {box : Mailbox α} {work : Work α} {rest : List (Work α)}
    (isOpen : box.closed = false) (line : box.ready = work :: rest) :
    ∃ after : Mailbox α, box.take = (some work, after) ∧ after.ready = rest ∧
      after.parked = box.parked ∧ after.inFlight = insert work.key box.inFlight ∧
      after.closed = false := by
  unfold take
  rw [if_neg (by simp [isOpen])]
  split
  next nil => simp [line] at nil
  next first others cons =>
    obtain ⟨rfl, rfl⟩ := List.cons.inj (line.symm.trans cons)
    exact ⟨_, rfl, rfl, rfl, rfl, isOpen⟩

theorem item?_of_taken {box after : Mailbox α} {work : Work α} {rest : List (Work α)}
    (isOpen : box.closed = false) (line : box.ready = work :: rest) (taken : after.ready = rest)
    (kept : after.parked = box.parked) (key : Key) :
    after.item? key = if work.key = key then none else box.item? key := by
  have before : box.readyItem? key =
      if work.key = key then some work else after.readyItem? key := by
    rw [readyItem?, readyItem?, line, taken, List.find?_cons]
    by_cases same : work.key = key <;> simp [same]
  by_cases same : work.key = key
  · subst same
    -- The key of the head has no other ready item, and nothing is parked for it.
    have gone : after.readyItem? work.key = none := by
      have nodup := box.ready_nodup
      rw [line, List.map_cons, List.nodup_cons] at nodup
      rw [readyItem?_eq_none_iff, taken]
      intro item member sameKey
      exact nodup.1 (sameKey ▸ List.mem_map_of_mem member)
    have unparked : box.parked work.key = none := by
      by_contra parked
      obtain ⟨item, found⟩ := Option.ne_none_iff_exists'.mp parked
      exact box.ready_apart work (by simp [line]) (box.parked_inFlight isOpen _ item found)
    simp [item?, gone, kept, unparked]
  · simp [item?, before, kept, same]

/-- What waits before a use and what it makes ready is what it hands out and what
waits after it, in this order. -/
theorem readyKeys_arriving (box : Mailbox α) (next : Use α) :
    box.readyKeys ++ box.arriving next =
      ((box.use next).1.map Work.key).toList ++ (box.use next).2.readyKeys := by
  cases next with
  | add work => exact (box.readyKeys_add work).symm
  | take =>
      simp only [arriving, use, List.append_nil]
      by_cases isClosed : box.closed = true
      · simp [take_of_closed isClosed]
      cases line : box.ready with
      | nil => simp [take_of_nil line]
      | cons work rest =>
          obtain ⟨after, taken, readyEq, _⟩ := take_of_cons (by simpa using isClosed) line
          simp [taken, readyKeys, line, readyEq]
  | release key => exact (box.readyKeys_release key).symm
  | close => simp [arriving, use, readyKeys, close]

/-- Keys leave the line in the order in which they arrive, each arrival once, and what
has not left yet still waits. -/
theorem readyKeys_arrivals (box : Mailbox α) (uses : List (Use α)) :
    box.readyKeys ++ box.arrivals uses =
      Use.keysOf (Use.answers use box uses) ++ (Use.after use box uses).readyKeys := by
  induction uses generalizing box with
  | nil => simp [arrivals, Use.answers, Use.after]
  | cons next uses ih =>
      have step := box.readyKeys_arriving next
      have rest := ih (box.use next).2
      calc
        box.readyKeys ++ box.arrivals (next :: uses) =
            (box.readyKeys ++ box.arriving next) ++ (box.use next).2.arrivals uses := by
          rw [arrivals, List.append_assoc]
        _ = ((box.use next).1.map Work.key).toList ++
            ((box.use next).2.readyKeys ++ (box.use next).2.arrivals uses) := by
          rw [step, List.append_assoc]
        _ = Use.keysOf (Use.answers use box (next :: uses)) ++
            (Use.after use box (next :: uses)).readyKeys := by
          rw [rest, ← List.append_assoc, Use.answers, Use.keysOf_cons]
          rfl

end Mailbox

end Reconciler
