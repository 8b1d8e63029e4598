import Reconciler.Proofs.Custody

/-!
# The way of a change to the handler

A change of the cache waits to be passed on, becomes part of the pending item of its
key, is handed out with it, makes the cache be read, and ends in a call of the handler.
This file keeps of a controller only what lies on this way, and says in a few rules
what a step does to it.  Every run of a controller is a run by these rules, with the
same history, and what is proved about changes on their way is proved from them.
-/

namespace Reconciler

variable {α ω : Type}

/-- How far an item that was handed out has come on its way to the handler. -/
inductive Reading (α : Type)
  | awaited
  | found (current : Option α)
deriving DecidableEq, Repr

/-- What lies on the way from the cache to the handler. -/
@[ext]
structure Pipeline (α : Type) where
  cache : Cache α := {}
  changes : List (Key × Change α) := []
  pending : Key → Option (Work α) := fun _ => none
  /-- The item that a caller is about to give to the handler. -/
  opening : Nat → Option (Work α × Reading α) := fun _ => none
  closed : Bool := false

def Relay.changes : Relay α → List (Key × Change α)
  | .idle => []
  | .passing changes _ _ => changes

/-- The item of a holder that is about to give it to the handler. -/
def Stage.opening? (work : Work α) : Stage α ω → Option (Work α × Reading α)
  | .handed => some (work, .awaited)
  | .looked current => some (work, .found current)
  | _ => none

def Stage.item? (work : Work α) (_ : Stage α ω) : Option (Work α) :=
  some work

/-- An item was handed out before. -/
def Mark.Handed (history : List (Mark α)) (work : Work α) : Prop :=
  ∃ id, .handed id work ∈ history

/-- What is left after a value was taken away was there before, elsewhere. -/
theorem apply_of_update_none {κ β : Type} [DecidableEq κ] {values : κ → Option β}
    {place other : κ} {value : β} (found : Function.update values place none other = some value) :
    other ≠ place ∧ values other = some value := by
  rw [Function.update_apply] at found
  split at found
  · cases found
  next elsewhere => exact ⟨elsewhere, found⟩

/-- A place with another value than the one that is replaced keeps its value. -/
theorem update_apply_of_value_ne {κ β : Type} [DecidableEq κ] {values : κ → β}
    {place other : κ} {value : β} (found : values other = value) (different : values place ≠ value)
    (new : β) : Function.update values place new other = value := by
  have apart : other ≠ place := by
    rintro rfl
    exact different found
  exact (Function.update_of_ne apart _ _).trans found

namespace Pipeline

/-- Adds an item to the one pending for its key. -/
def add (pipe : Pipeline α) (work : Work α) : Pipeline α :=
  { pipe with
    pending :=
      if pipe.closed then pipe.pending
      else Function.update pipe.pending work.key (some (work.joining (pipe.pending work.key))) }

theorem add_of_closed {pipe : Pipeline α} (isClosed : pipe.closed = true) (work : Work α) :
    pipe.add work = pipe := by
  rw [add, if_pos isClosed]

theorem pending_add {pipe : Pipeline α} (isOpen : pipe.closed = false) (work : Work α)
    (key : Key) :
    (pipe.add work).pending key =
      if key = work.key then some (work.joining (pipe.pending work.key))
      else pipe.pending key := by
  simp [add, isOpen, Function.update_apply]

theorem pending_add_self {pipe : Pipeline α} (isOpen : pipe.closed = false) (work : Work α) :
    ((pipe.add work).pending work.key).isSome := by
  rw [pending_add isOpen, if_pos rfl]
  rfl

theorem pending_add_isSome {pipe : Pipeline α} {key : Key} (pending : (pipe.pending key).isSome)
    (work : Work α) : ((pipe.add work).pending key).isSome := by
  by_cases isClosed : pipe.closed = true
  · rw [add_of_closed isClosed]
    exact pending
  · rw [pending_add (by simpa using isClosed)]
    split
    · rfl
    · exact pending

theorem pending_of_add {pipe : Pipeline α} {work item : Work α} {key : Key}
    (found : (pipe.add work).pending key = some item) :
    key = work.key ∨ pipe.pending key = some item := by
  by_cases isClosed : pipe.closed = true
  · rw [add_of_closed isClosed] at found
    exact .inr found
  · rw [pending_add (by simpa using isClosed)] at found
    split at found
    next same => exact .inl same
    · exact .inr found

variable [Resource α]

/-- What a step does to what is on the way, given the events that the watch may bring
and the history so far. -/
inductive Step (admits : Event α → Prop) (history : List (Mark α)) :
    Option (Mark α) → Pipeline α → Pipeline α → Prop
  | still (pipe : Pipeline α) : Step admits history none pipe pipe
  | synced (pipe : Pipeline α) (synced : Bool) :
      Step admits history none pipe { pipe with cache := { pipe.cache with synced } }
  | closed (pipe : Pipeline α) : Step admits history none pipe { pipe with closed := true }
  | ignored {pipe : Pipeline α} :
      pipe.changes = [] → Step admits history (some (.refreshed pipe.cache)) pipe pipe
  | received {pipe : Pipeline α} {order : Enumeration α} {event : Event α} :
      pipe.changes = [] → order.Fair → admits event →
      Step admits history (some (.refreshed (pipe.cache.apply order event).1)) pipe
        { pipe with
          cache := (pipe.cache.apply order event).1
          changes := (pipe.cache.apply order event).2 }
  | announced {pipe : Pipeline α} {key : Key} {change : Change α}
      {changes : List (Key × Change α)} {work : Work α} :
      pipe.changes = (key, change) :: changes → Work.ofChange? key change = some work →
      Step admits history (some (.announced key change)) pipe { pipe.add work with changes }
  | suppressed {pipe : Pipeline α} {key : Key} {change : Change α}
      {changes : List (Key × Change α)} :
      pipe.changes = (key, change) :: changes → Work.ofChange? key change = none →
      Step admits history none pipe { pipe with changes }
  | returned {pipe : Pipeline α} {work : Work α} :
      Mark.Handed history work →
      Step admits history (some (.returned work)) pipe (pipe.add work)
  | handed {pipe : Pipeline α} {id : Nat} {work : Work α} :
      pipe.closed = false → pipe.pending work.key = some work → pipe.opening id = none →
      Step admits history (some (.handed id work)) pipe
        { pipe with
          pending := Function.update pipe.pending work.key none
          opening := Function.update pipe.opening id (some (work, .awaited)) }
  | looked {pipe : Pipeline α} {id : Nat} {work : Work α} :
      pipe.opening id = some (work, .awaited) →
      Step admits history (some (.looked id work (pipe.cache.get? work.key))) pipe
        { pipe with
          opening := Function.update pipe.opening id
            (some (work, .found (pipe.cache.get? work.key))) }
  | called {pipe : Pipeline α} {id : Nat} {work : Work α} {current : Option α} :
      pipe.opening id = some (work, .found current) →
      Step admits history (some (.called id work)) pipe
        { pipe with opening := Function.update pipe.opening id none }

theorem Step.congr {admits : Event α → Prop} {history : List (Mark α)} {mark : Option (Mark α)}
    {before after other : Pipeline α} (step : Step admits history mark before after)
    (same : other = after) : Step admits history mark before other :=
  same ▸ step

theorem Step.wasOpen {admits : Event α → Prop} {history : List (Mark α)} {mark : Option (Mark α)}
    {before after : Pipeline α} (step : Step admits history mark before after)
    (isOpen : after.closed = false) : before.closed = false := by
  cases step with
  | closed => cases isOpen
  | _ => exact isOpen

/-- Runs by these rules, with the marks they leave, the newest first. -/
inductive Runs (admits : Event α → Prop) : List (Mark α) → Pipeline α → Prop
  | start : Runs admits [] {}
  | step {history : List (Mark α)} {mark : Option (Mark α)} {before after : Pipeline α} :
      Runs admits history before → Step admits history mark before after →
      Runs admits (mark.toList ++ history) after

/-- What a step that leaves a mark brings about, and every later step keeps, holds after
every run that goes on from this mark. -/
theorem Runs.since {admits : Event α → Prop} {mark : Mark α} {later earlier : List (Mark α)}
    {pipe : Pipeline α} {motive : List (Mark α) → Pipeline α → Prop}
    (begins : ∀ before after, Runs admits earlier before →
      Step admits earlier (some mark) before after → motive [] after)
    (goesOn : ∀ marks newest before after, Runs admits (marks ++ mark :: earlier) before →
      Step admits (marks ++ mark :: earlier) newest before after → motive marks before →
      motive (newest.toList ++ marks) after)
    (run : Runs admits (later ++ mark :: earlier) pipe) : motive later pipe := by
  obtain ⟨history, split⟩ : ∃ history, history = later ++ mark :: earlier := ⟨_, rfl⟩
  rw [← split] at run
  induction run generalizing later with
  | start => simp at split
  | @step history newest before after run step ih =>
      -- A step without a mark leaves the history and with it the place of the mark.
      cases newest with
      | none =>
          obtain rfl : history = later ++ mark :: earlier := split
          exact goesOn later none before after run step (ih rfl)
      | some newest =>
          cases later with
          | nil =>
              obtain ⟨rfl, rfl⟩ := List.cons.inj split
              exact begins before after run step
          | cons first later =>
              obtain ⟨rfl, rfl⟩ := List.cons.inj split
              exact goesOn later (some newest) before after run step (ih rfl)

/-- Every mark of a history was left by a step that goes on with the history before. -/
theorem Runs.step_of_mark {admits : Event α → Prop} {mark : Mark α}
    {later earlier : List (Mark α)} {pipe : Pipeline α}
    (run : Runs admits (later ++ mark :: earlier) pipe) :
    ∃ before after, Runs admits earlier before ∧ Step admits earlier (some mark) before after := by
  refine run.since (motive := fun _ _ => ∃ before after, Runs admits earlier before ∧
    Step admits earlier (some mark) before after) ?_ ?_
  · intro before after run step
    exact ⟨before, after, run, step⟩
  · intro marks newest before after run step left
    exact left

/-- What was read for an item is kept by every step but the call of the handler. -/
theorem Step.opening_kept {admits : Event α → Prop} {history : List (Mark α)}
    {mark : Option (Mark α)} {before after : Pipeline α} {id : Nat} {work : Work α}
    {current : Option α} (step : Step admits history mark before after)
    (uncalled : ∀ other, mark ≠ some (.called id other))
    (read : before.opening id = some (work, .found current)) :
    after.opening id = some (work, .found current) := by
  cases step with
  | still | synced | closed | ignored | received | announced | suppressed | returned => exact read
  | handed isOpen waits free => exact update_apply_of_value_ne read (by simp [free]) _
  | looked awaits => exact update_apply_of_value_ne read (by simp [awaits]) _
  | @called _ other item =>
      have apart : id ≠ other := by
        rintro rfl
        exact uncalled item rfl
      exact (Function.update_of_ne apart _ _).trans read

theorem Step.opening_looked {admits : Event α → Prop} {history : List (Mark α)}
    {before after : Pipeline α} {id : Nat} {work : Work α} {current : Option α}
    (step : Step admits history (some (.looked id work current)) before after) :
    before.opening id = some (work, .awaited) ∧ current = before.cache.get? work.key ∧
      after.opening id = some (work, .found current) := by
  cases step with
  | looked awaits => exact ⟨awaits, rfl, Function.update_self ..⟩

/-- What was read for an item is kept until the handler is called. -/
theorem Runs.opening_of_looked {admits : Event α → Prop} {later earlier : List (Mark α)}
    {id : Nat} {work : Work α} {current : Option α} {pipe : Pipeline α}
    (run : Runs admits (later ++ .looked id work current :: earlier) pipe)
    (uncalled : ∀ other, .called id other ∉ later) :
    pipe.opening id = some (work, .found current) := by
  revert uncalled
  apply run.since (motive := fun marks pipe => (∀ other, .called id other ∉ marks) →
    pipe.opening id = some (work, .found current))
  · intro before after run step _
    exact step.opening_looked.2.2
  · intro marks newest before after run step ih uncalled
    apply step.opening_kept
    · rintro other rfl
      exact uncalled other (by simp)
    · exact ih fun other member => uncalled other (List.mem_append_right _ member)

end Pipeline

/-! ## Every run of a controller is one of these runs -/

theorem Stage.opening?_of_handling {stage : Stage α ω} (handling : stage.Handling)
    (work : Work α) : stage.opening? work = none := by
  cases handling <;> rfl

theorem Stage.opening?_of_handled {next : Stage α ω}
    (goesOn : next.Handling ∨ ∃ outcome, next = .concluded outcome) (work : Work α) :
    next.opening? work = none := by
  rcases goesOn with handling | ⟨outcome, rfl⟩
  · exact opening?_of_handling handling work
  · rfl

@[simp]
theorem Stage.opening?_settling (outcome : Outcome) (work : Work α) :
    (Stage.settling outcome : Stage α ω).opening? work = none := by
  unfold settling
  repeat' split
  all_goals rfl

@[simp]
theorem Stage.opening?_opening (plan : Plan α ω) (work : Work α) (current : Option α) :
    (Stage.opening plan work current).opening? work = none := by
  unfold opening
  split <;> rfl

theorem Stage.eq_of_opening?_awaited {work item : Work α} {stage : Stage α ω}
    (opens : stage.opening? item = some (work, .awaited)) : item = work ∧ stage = .handed := by
  cases stage with
  | handed => exact ⟨(Prod.mk.inj (Option.some.inj opens)).1, rfl⟩
  | _ => cases opens

theorem Stage.eq_of_opening?_found {work item : Work α} {stage : Stage α ω} {current : Option α}
    (opens : stage.opening? item = some (work, .found current)) :
    item = work ∧ stage = .looked current := by
  cases stage with
  | looked other =>
      obtain ⟨rfl, found⟩ := Prod.mk.inj (Option.some.inj opens)
      obtain rfl := Reading.found.inj found
      exact ⟨rfl, rfl⟩
  | _ => cases opens

namespace System

/-- What lies on the way from the cache of a controller to its handler. -/
def pipeline (system : System α ω) : Pipeline α where
  cache := system.cache
  changes := system.relay.changes
  pending := system.queue.pending.find?
  opening := shown? Stage.opening? system.callers
  closed := system.queue.closed

/-- What a run keeps true about items that may come back: they were handed out. -/
structure Provenance (history : List (Mark α)) (system : System α ω) : Prop where
  held : ∀ id work, shown? Stage.item? system.callers id = some work →
    Mark.Handed history work
  delayed : ∀ ticket delayed, system.delayed.find? ticket = some delayed →
    Mark.Handed history delayed.work

variable [Resource α] {plan : Plan α ω} {admits : Event α → Prop} {before after : System α ω}
  {action : Action α ω} {mark : Option (Mark α)} {history : List (Mark α)}

omit [Resource α] in
theorem item_stage {callers : Table Nat (Caller α ω)} {id : Nat} {caller next : Caller α ω}
    {work : Work α} {stage nextStage : Stage α ω} (found : callers.find? id = some caller)
    (held : caller.point.held? = some (work, stage))
    (stillHeld : next.point.held? = some (work, nextStage)) (other : Nat) :
    shown? Stage.item? (callers.insert id next) other = shown? Stage.item? callers other :=
  shown?_stage found held stillHeld rfl other

/-- An item is held as before, or it is handed out in this step. -/
theorem item_of_turn (turn : Turn plan before action mark after) {id : Nat} {work : Work α}
    (held : shown? Stage.item? after.callers id = some work) :
    shown? Stage.item? before.callers id = some work ∨ mark = some (.handed id work) := by
  have keep (same : shown? Stage.item? after.callers id = shown? Stage.item? before.callers id) :
      shown? Stage.item? before.callers id = some work ∨ mark = some (.handed id work) :=
    .inl (same.symm.trans held)
  cases turn with
  | quiet | ignored | received | announced | suppressed | completed | fired | closed =>
      exact .inl held
  | entered absent => exact keep (shown?_enter absent rfl id)
  | moved found bare next | waited found bare next => exact keep (shown?_bare found bare next id)
  | took found bare =>
      rw [shown?_insert] at held
      split at held
      next here =>
        obtain rfl := Option.some.inj held
        rw [here]
        exact .inr rfl
      · exact .inl held
  | carried found =>
      rw [shown?_insert] at held
      split at held
      · cases held
      · exact .inl held
  | looked found holds | called found holds | handled found holds | concluded found holds
  | forgot found holds | yielded found holds | granted found holds | returned found holds
  | delayed found holds | refused found holds =>
      exact keep (item_stage found holds rfl id)
  | released found holds | dropped found holds | noted found holds =>
      rw [shown?_insert, Point.shows_of_bare (Point.held?_rest _ _)] at held
      split at held
      · cases held
      · exact .inl held

theorem delayed_of_turn (turn : Turn plan before action mark after) {ticket : Nat}
    {delayed : Delayed α} (found : after.delayed.find? ticket = some delayed) :
    before.delayed.find? ticket = some delayed ∨
      ∃ id, shown? Stage.item? before.callers id = some delayed.work := by
  cases turn with
  | fired =>
      rw [Table.find?_erase] at found
      split at found
      · cases found
      · exact .inl found
  | @delayed id _ work _ _ finds holds =>
      rw [Table.find?_insert] at found
      split at found
      · rw [← Option.some.inj found]
        exact .inr ⟨id, shown?_of_held finds holds⟩
      · exact .inl found
  | _ => exact .inl found

theorem Provenance.step (provenance : before.Provenance history)
    (turn : Turn plan before action mark after) :
    after.Provenance (mark.toList ++ history) := by
  have older {work : Work α} (handed : Mark.Handed history work) :
      Mark.Handed (mark.toList ++ history) work := by
    obtain ⟨id, member⟩ := handed
    exact ⟨id, List.mem_append_right _ member⟩
  constructor
  · intro id work held
    rcases item_of_turn turn held with before | rfl
    · exact older (provenance.held id work before)
    · exact ⟨id, by simp⟩
  · intro ticket delayed found
    rcases delayed_of_turn turn found with before | ⟨id, held⟩
    · exact older (provenance.delayed ticket delayed before)
    · exact older (provenance.held id delayed.work held)

/-- Every run keeps items that may come back among those handed out. -/
theorem provenance_of_runs (run : Runs plan admits history after) :
    after.Provenance history := by
  induction run with
  | start world =>
      constructor
      · intro id work held
        simp [shown?, Table.find?_empty] at held
      · intro ticket delayed found
        simp [Table.find?_empty] at found
  | step run occurs acted ih => exact ih.step (turn_of_act occurs acted)

omit [Resource α] in
theorem find?_add_eq (queue : Queue α) (work : Work α) :
    (queue.add work).pending.find? =
      if queue.closed then queue.pending.find?
      else Function.update queue.pending.find? work.key
        (some (work.joining (queue.pending.find? work.key))) := by
  by_cases isClosed : queue.closed = true
  · rw [if_pos isClosed, Queue.add_of_closed isClosed]
  · rw [if_neg isClosed]
    funext key
    rw [Queue.find?_add (by simpa using isClosed), Function.update_apply]
    simp only [eq_comm]

omit [Resource α] in
theorem pipeline_add (system : System α ω) (work : Work α) :
    ({ system with queue := system.queue.add work } : System α ω).pipeline =
      system.pipeline.add work := by
  ext1
  · rfl
  · rfl
  · exact find?_add_eq system.queue work
  · rfl
  · exact Queue.add_closed system.queue work

omit [Resource α] in
/-- A caller that moves from an item that is not on its way to one that is not either
leaves everything on the way as it is. -/
theorem opening_stage {callers : Table Nat (Caller α ω)} {id : Nat} {caller next : Caller α ω}
    {work : Work α} {stage nextStage : Stage α ω} (found : callers.find? id = some caller)
    (held : caller.point.held? = some (work, stage))
    (stillHeld : next.point.held? = some (work, nextStage)) (past : stage.opening? work = none)
    (stillPast : nextStage.opening? work = none) :
    shown? Stage.opening? (callers.insert id next) = shown? Stage.opening? callers :=
  funext (shown?_stage found held stillHeld (stillPast.trans past.symm))

omit [Resource α] in
theorem opening_insert {callers : Table Nat (Caller α ω)} {id : Nat} {next : Caller α ω}
    {work : Work α} {stage : Stage α ω} {value : Option (Work α × Reading α)}
    (held : next.point.held? = some (work, stage)) (opens : stage.opening? work = value) :
    shown? Stage.opening? (callers.insert id next) =
      Function.update (shown? Stage.opening? callers) id value := by
  funext other
  rw [shown?_insert, Point.shows_of_held held, Function.update_apply, opens]
  simp only [eq_comm]

/-- A step of a run follows one of the rules. -/
theorem step_of_turn (custody : before.Custody) (provenance : before.Provenance history)
    (occurs : action.Occurs admits) (turn : Turn plan before action mark after) :
    Pipeline.Step admits history mark before.pipeline after.pipeline := by
  have same (opening : shown? Stage.opening? after.callers = shown? Stage.opening? before.callers)
      (rest : after.cache = before.cache ∧ after.relay = before.relay ∧
        after.queue.pending = before.queue.pending ∧ after.queue.closed = before.queue.closed) :
      Pipeline.Step admits history none before.pipeline after.pipeline := by
    obtain ⟨cache, relay, pending, closed⟩ := rest
    refine (Pipeline.Step.still before.pipeline).congr ?_
    simp only [pipeline, opening, cache, relay, pending, closed]
  have nothing (idle : before.relay = .idle) : before.pipeline.changes = [] := by
    rw [pipeline, idle]
    rfl
  cases turn with
  | quiet => exact .still _
  | ignored idle => exact .ignored (nothing idle)
  | received idle named => exact .received (nothing idle) occurs.1 occurs.2
  | @announced key change changes _ _ work _ told item =>
      have next : before.pipeline.changes = (key, change) :: changes := by
        rw [pipeline, told]
        rfl
      have added : Pipeline.Step admits history (some (.announced key change)) before.pipeline
          { before.pipeline.add work with changes } := .announced next item
      rw [← pipeline_add] at added
      exact added
  | @suppressed key change changes _ _ told item =>
      have next : before.pipeline.changes = (key, change) :: changes := by
        rw [pipeline, told]
        rfl
      exact .suppressed next item
  | @completed _ _ synced _ told =>
      have nothing : before.relay.changes = [] := by
        rw [told]
        rfl
      exact (Pipeline.Step.synced before.pipeline synced).congr
        (Pipeline.ext rfl nothing.symm rfl rfl rfl)
  | entered absent => exact same (funext (shown?_enter absent rfl)) ⟨rfl, rfl, rfl, rfl⟩
  | fired found =>
      have added : Pipeline.Step admits history _ before.pipeline _ :=
        .returned (provenance.delayed _ _ found)
      rw [← pipeline_add] at added
      exact added
  | closed => exact .closed _
  | moved found bare next => exact same (funext (shown?_bare found bare next)) ⟨rfl, rfl, rfl, rfl⟩
  | waited found bare next taken =>
      rw [custody.sound.eq_of_take_none taken] at same ⊢
      exact same (funext (shown?_bare found bare next)) ⟨rfl, rfl, rfl, rfl⟩
  | @took id _ work queue _ found bare taken =>
      obtain ⟨isOpen, stillOpen, waits, pending, -, -⟩ := custody.sound.take_some taken
      have free : before.pipeline.opening id = none := shown?_of_bare found bare
      have emptied : queue.pending.find? =
          Function.update before.queue.pending.find? work.key none := by
        funext key
        rw [pending, Function.update_apply]
        simp only [eq_comm]
      exact (Pipeline.Step.handed isOpen waits free).congr
        (Pipeline.ext rfl rfl emptied (opening_insert rfl rfl) (stillOpen.trans isOpen.symm))
  | carried found taker =>
      -- Everybody is a worker, and a worker does not take an item away with it.
      have worker := custody.workers _ _ found
      simp [taker] at worker
  | @looked id _ work found held =>
      have awaits : before.pipeline.opening id = some (work, .awaited) := shown?_of_held found held
      exact (Pipeline.Step.looked awaits).congr
        (Pipeline.ext rfl rfl rfl (opening_insert rfl rfl) rfl)
  | @called id _ work current found held =>
      have read : before.pipeline.opening id = some (work, .found current) :=
        shown?_of_held found held
      exact (Pipeline.Step.called read).congr
        (Pipeline.ext rfl rfl rfl (opening_insert rfl (Stage.opening?_opening _ _ _)) rfl)
  | handled found held goes =>
      exact same (opening_stage found held rfl (Stage.opening?_of_handling goes.handling _)
        (Stage.opening?_of_handled goes.next _)) ⟨rfl, rfl, rfl, rfl⟩
  | concluded found held =>
      exact same (opening_stage found held rfl rfl (Stage.opening?_settling _ _))
        ⟨rfl, rfl, rfl, rfl⟩
  | forgot found held | yielded found held | granted found held | delayed found held
  | refused found held =>
      exact same (opening_stage found held rfl rfl rfl) ⟨rfl, rfl, rfl, rfl⟩
  | released found held | dropped found held | noted found held =>
      exact same (funext (shown?_rest found held (Point.held?_rest _ _) rfl)) ⟨rfl, rfl, rfl, rfl⟩
  | @returned id _ work _ _ _ found held =>
      have added : Pipeline.Step admits history _ before.pipeline _ :=
        .returned (provenance.held id work (shown?_of_held found held))
      rw [← pipeline_add] at added
      exact added.congr (Pipeline.ext rfl rfl rfl (opening_stage found held rfl rfl rfl) rfl)

/-- Every run of a controller is a run by the rules, with the same history. -/
theorem pipeline_of_runs (run : Runs plan admits history after) :
    Pipeline.Runs admits history after.pipeline := by
  induction run with
  | start world => exact .start
  | step run occurs acted ih =>
      exact ih.step (step_of_turn (custody_of_runs run) (provenance_of_runs run) occurs
        (turn_of_act occurs acted))

end System

end Reconciler
