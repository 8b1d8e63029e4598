import Reconciler.Proofs.Table
import Reconciler.Proofs.Turn

/-!
# What callers show

Much of what is proved about callers looks at them from outside: the key that a caller
keeps, the call that it is in, the item that it is about to take up.  All of these
depend on the item that it holds and its stage only.  So a caller that moves from one
stage to another without changing what is looked at changes nothing, and neither does
one that comes, leaves or waits.  The same goes for the number of callers that show a
value.

Seen from an item, a step changes little.  Whoever holds one after a step has not moved, has
just taken it, or has come to its stage by a step of its own.
-/

namespace Reconciler

variable {α ω β : Type}

namespace Point

/-- What the item of a caller shows. -/
def shows (view : Work α → Stage α ω → Option β) (point : Point α ω) : Option β :=
  point.held?.bind fun held => view held.1 held.2

variable {view : Work α → Stage α ω → Option β} {point : Point α ω} {work : Work α}
  {stage : Stage α ω}

theorem shows_of_held (held : point.held? = some (work, stage)) :
    point.shows view = view work stage := by
  rw [shows, held]
  rfl

theorem shows_of_bare (bare : point.held? = none) : point.shows view = none := by
  rw [shows, bare]
  rfl

end Point

namespace System

/-- What a caller of a table shows. -/
def shown? (view : Work α → Stage α ω → Option β) (callers : Table Nat (Caller α ω))
    (id : Nat) : Option β :=
  (callers.find? id).bind fun caller => caller.point.shows view

variable {view : Work α → Stage α ω → Option β} {callers : Table Nat (Caller α ω)} {id : Nat}
  {caller next : Caller α ω} {work : Work α} {stage nextStage : Stage α ω}

theorem shown?_of_find (found : callers.find? id = some caller) :
    shown? view callers id = caller.point.shows view := by
  rw [shown?, found]
  rfl

theorem shown?_of_held (found : callers.find? id = some caller)
    (held : caller.point.held? = some (work, stage)) :
    shown? view callers id = view work stage :=
  (shown?_of_find found).trans (Point.shows_of_held held)

theorem shown?_of_bare (found : callers.find? id = some caller)
    (bare : caller.point.held? = none) : shown? view callers id = none :=
  (shown?_of_find found).trans (Point.shows_of_bare bare)

/-- Whatever is shown is shown by an item that somebody holds. -/
theorem exists_held_of_shown? {value : β} (shown : shown? view callers id = some value) :
    ∃ caller work stage, callers.find? id = some caller ∧
      caller.point.held? = some (work, stage) ∧ view work stage = some value := by
  obtain ⟨caller, found, shows⟩ := Option.bind_eq_some_iff.mp shown
  obtain ⟨⟨work, stage⟩, held, viewed⟩ := Option.bind_eq_some_iff.mp shows
  exact ⟨caller, work, stage, found, held, viewed⟩

theorem shown?_insert (view : Work α → Stage α ω → Option β)
    (callers : Table Nat (Caller α ω)) (id other : Nat) (caller : Caller α ω) :
    shown? view (callers.insert id caller) other =
      if id = other then caller.point.shows view else shown? view callers other := by
  unfold shown?
  rw [Table.find?_insert]
  split <;> rfl

theorem shown?_enter (absent : callers.find? id = none) (bare : caller.point.held? = none)
    (other : Nat) : shown? view (callers.insert id caller) other = shown? view callers other := by
  rw [shown?_insert]
  split
  next here => rw [Point.shows_of_bare bare, ← here, shown?, absent]; rfl
  · rfl

/-- A caller that moves without showing anything else changes nothing shown. -/
theorem shown?_move (found : callers.find? id = some caller)
    (same : next.point.shows view = caller.point.shows view) (other : Nat) :
    shown? view (callers.insert id next) other = shown? view callers other := by
  rw [shown?_insert]
  split
  next here => rw [← here, same, shown?_of_find found]
  · rfl

theorem shown?_bare (found : callers.find? id = some caller) (bare : caller.point.held? = none)
    (stillBare : next.point.held? = none) (other : Nat) :
    shown? view (callers.insert id next) other = shown? view callers other :=
  shown?_move found ((Point.shows_of_bare stillBare).trans (Point.shows_of_bare bare).symm) other

theorem shown?_stage (found : callers.find? id = some caller)
    (held : caller.point.held? = some (work, stage))
    (stillHeld : next.point.held? = some (work, nextStage))
    (same : view work nextStage = view work stage) (other : Nat) :
    shown? view (callers.insert id next) other = shown? view callers other :=
  shown?_move found
    ((Point.shows_of_held stillHeld).trans (same.trans (Point.shows_of_held held).symm)) other

theorem shown?_rest (found : callers.find? id = some caller)
    (held : caller.point.held? = some (work, stage)) (bare : next.point.held? = none)
    (blank : view work stage = none) (other : Nat) :
    shown? view (callers.insert id next) other = shown? view callers other :=
  shown?_move found
    ((Point.shows_of_bare bare).trans (blank.symm.trans (Point.shows_of_held held).symm)) other

/-! ## How many callers show a value -/

section Counting

variable [DecidableEq β]

/-- The number of callers that show a value. -/
def showing (view : Work α → Stage α ω → Option β) (value : β)
    (callers : Table Nat (Caller α ω)) : Nat :=
  callers.values.countP fun caller => caller.point.shows view = some value

theorem showing_insert (value : β) (found : callers.find? id = some caller)
    (next : Caller α ω) :
    (showing view value (callers.insert id next) +
        if caller.point.shows view = some value then 1 else 0) =
      showing view value callers + if next.point.shows view = some value then 1 else 0 := by
  have counted := Table.countP_insert_of_some found next fun caller =>
    Decidable.decide (caller.point.shows view = some value)
  simp only [decide_eq_true_eq] at counted
  exact counted

theorem showing_move (value : β) (found : callers.find? id = some caller)
    (same : next.point.shows view = caller.point.shows view) :
    showing view value (callers.insert id next) = showing view value callers := by
  have moved : showing view value (callers.insert id next) + _ = _ :=
    showing_insert value found next
  rw [same] at moved
  omega

theorem showing_enter (value : β) (absent : callers.find? id = none)
    (bare : caller.point.held? = none) :
    showing view value (callers.insert id caller) = showing view value callers := by
  have entered := Table.countP_insert_of_none absent caller fun caller =>
    Decidable.decide (caller.point.shows view = some value)
  simp only [Point.shows_of_bare bare, reduceCtorEq, decide_false, Bool.false_eq_true, if_false]
    at entered
  exact entered

theorem showing_pos_iff (value : β) :
    0 < showing view value callers ↔
      ∃ caller ∈ callers.values, caller.point.shows view = some value := by
  rw [showing, List.countP_pos_iff]
  simp only [decide_eq_true_eq]

/-- If only one caller can show a value, at most one does. -/
theorem showing_le_one {value : β} (nodup : callers.keys.Nodup)
    (alone : ∀ id other, shown? view callers id = some value →
      shown? view callers other = some value → id = other) :
    showing view value callers ≤ 1 := by
  refine Table.countP_le_one nodup _ ?_
  intro first firstMem second secondMem shows showsToo
  rw [decide_eq_true_eq] at shows showsToo
  apply alone
  · exact (shown?_of_find ((Table.mem_entries_iff nodup _ _).mp firstMem)).trans shows
  · exact (shown?_of_find ((Table.mem_entries_iff nodup _ _).mp secondMem)).trans showsToo

end Counting

/-- Every caller has an entry of its own. -/
theorem nodup_of_turn [Resource α] {plan : Plan α ω} {before after : System α ω}
    {action : Action α ω} {mark : Option (Mark α)} (nodup : before.callers.keys.Nodup)
    (turn : Turn plan before action mark after) : after.callers.keys.Nodup := by
  cases turn with
  | quiet | ignored | received | announced | suppressed | completed | fired | closed => exact nodup
  | entered | moved | waited | took | carried | looked | called | handled | concluded | forgot
  | released | yielded | granted | dropped | returned | delayed | refused | noted =>
      exact Table.nodup_insert nodup _ _

theorem nodup_of_runs [Resource α] {plan : Plan α ω} {admits : Event α → Prop}
    {history : List (Mark α)} {system : System α ω} (run : Runs plan admits history system) :
    system.callers.keys.Nodup :=
  run.keeps (motive := fun system => system.callers.keys.Nodup) (fun _ => Table.nodup_empty)
    nodup_of_turn

end System

/-! ## Where an item came from -/

/-- The stage that an item comes to by a step of its caller. -/
inductive Stage.Moves (plan : Plan α ω) [Resource α] (cache : Cache α) (work : Work α) :
    Stage α ω → Stage α ω → Prop
  | looked : Moves plan cache work .handed (.looked (cache.get? work.key))
  | called {current : Option α} :
      Moves plan cache work (.looked current) (.opening plan work current)
  | handled {stage next : Stage α ω} : stage.Goes plan work next → Moves plan cache work stage next
  | concluded {outcome : Outcome} :
      Moves plan cache work (.concluded outcome) (.settling outcome)
  | forgot : Moves plan cache work .forgetting .releasing
  | yielded {failure : Failure} : Moves plan cache work (.yielding failure) (.weighing failure)
  | granted {failure : Failure} {delay : Duration} :
      Moves plan cache work (.weighing failure) (.delaying failure delay)
  | given {failure : Failure} {delay : Duration} :
      Moves plan cache work (.delaying failure delay) (.noting failure delay)

namespace System

/-- How a caller came to the stage of the item that it holds after a step. -/
inductive Came [Resource α] (plan : Plan α ω) (before : System α ω) (id : Nat)
    (caller : Caller α ω) (work : Work α) : Action α ω → Stage α ω → Prop
  | stayed {action : Action α ω} {stage : Stage α ω} :
      action ≠ .advance id → before.callers.find? id = some caller →
      Came plan before id caller work action stage
  | taken : Came plan before id caller work (.advance id) .handed
  | moved {former : Caller α ω} {stage next : Stage α ω} :
      before.callers.find? id = some former → former.point.held? = some (work, stage) →
      stage.Moves plan before.cache work next →
      Came plan before id caller work (.advance id) next

variable [Resource α] {plan : Plan α ω} {before after : System α ω} {action : Action α ω}
  {mark : Option (Mark α)} {id : Nat} {caller : Caller α ω} {work : Work α} {stage : Stage α ω}

/-- Whoever holds an item after a step has not moved, has just taken the item, or has come to
its stage with this step. -/
theorem came_of_turn (turn : Turn plan before action mark after)
    (found : after.callers.find? id = some caller)
    (held : caller.point.held? = some (work, stage)) :
    Came plan before id caller work action stage := by
  have own {other : Nat} {next : Caller α ω}
      (finds : (before.callers.insert other next).find? id = some caller) :
      (.advance other : Action α ω) ≠ .advance id ∧ before.callers.find? id = some caller ∨
        other = id ∧ next.point.held? = some (work, stage) := by
    rw [Table.find?_insert] at finds
    split at finds
    next here => exact .inr ⟨here, Option.some.inj finds ▸ held⟩
    next apart => exact .inl ⟨fun same => apart (Action.advance.inj same), finds⟩
  have freed {other : Nat} {next : Caller α ω}
      (finds : (before.callers.insert other next).find? id = some caller)
      (bare : next.point.held? = none) :
      (.advance other : Action α ω) ≠ .advance id ∧ before.callers.find? id = some caller := by
    rcases own finds with stays | ⟨-, holds⟩
    · exact stays
    · rw [bare] at holds
      cases holds
  have moved {other : Nat} {former next : Caller α ω} {item : Work α} {earlier later : Stage α ω}
      (finds : (before.callers.insert other next).find? id = some caller)
      (came : before.callers.find? other = some former)
      (bore : former.point.held? = some (item, earlier))
      (bears : next.point.held? = some (item, later))
      (moves : earlier.Moves plan before.cache item later) :
      Came plan before id caller work (.advance other) stage := by
    rcases own finds with ⟨apart, stays⟩ | ⟨rfl, holds⟩
    · exact .stayed apart stays
    · obtain ⟨rfl, rfl⟩ := Prod.mk.inj (Option.some.inj (bears.symm.trans holds))
      exact .moved came bore moves
  cases turn with
  | quiet _ noAdvance => exact .stayed (noAdvance id) found
  | ignored | received | announced | suppressed | completed | fired | closed =>
      exact .stayed (by simp) found
  | entered => exact .stayed (by simp) (freed found rfl).2
  | moved _ _ bare which =>
      obtain ⟨apart, stays⟩ := freed found bare
      rcases which with rfl | rfl
      · exact .stayed apart stays
      · exact .stayed (by simp) stays
  | waited _ _ bare =>
      obtain ⟨apart, stays⟩ := freed found bare
      exact .stayed apart stays
  | carried =>
      obtain ⟨apart, stays⟩ := freed found rfl
      exact .stayed apart stays
  | took =>
      rcases own found with ⟨apart, stays⟩ | ⟨rfl, holds⟩
      · exact .stayed apart stays
      · obtain ⟨rfl, rfl⟩ := Prod.mk.inj (Option.some.inj holds)
        exact .taken
  | looked came bore => exact moved found came bore rfl .looked
  | called came bore => exact moved found came bore rfl .called
  | handled came bore goes => exact moved found came bore rfl (.handled goes)
  | concluded came bore => exact moved found came bore rfl .concluded
  | forgot came bore => exact moved found came bore rfl .forgot
  | yielded came bore => exact moved found came bore rfl .yielded
  | granted came bore => exact moved found came bore rfl .granted
  | returned came bore | delayed came bore | refused came bore =>
      exact moved found came bore rfl .given
  | released | dropped | noted =>
      obtain ⟨apart, stays⟩ := freed found (Point.held?_rest _ _)
      exact .stayed apart stays

end System

end Reconciler
