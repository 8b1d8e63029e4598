import Reconciler.Proofs.PipelineScope

/-!
# No update is lost

Whenever the cached version of a key differs from the one that was last read for the
key, somebody still has to look: an item is pending, an item was handed out and the
cache is still to be read for it, or the change is still to be passed on.  So when
nobody has anything left to do, the last look at every key saw what is cached.

An event changes the cached objects at once and passes its changes on one by one, so a
key is attended to from the moment its cached version changes.  From then on each step
hands this over to the next: the announcement to the pending item, the pending item to
its taker, and the taker to the look itself.
-/

namespace Reconciler

variable {α ω : Type}

/-- What was last read from the cache for a key, if anything was. -/
def lastRead (key : Key) : List (Mark α) → Option α
  | [] => none
  | .looked _ work current :: history =>
      if work.key = key then current else lastRead key history
  | _ :: history => lastRead key history

theorem lastRead_of_elsewhere {history : List (Mark α)} {mark : Option (Mark α)} {key : Key}
    (elsewhere : ∀ id work current, mark = some (.looked id work current) → work.key ≠ key) :
    lastRead key (mark.toList ++ history) = lastRead key history := by
  cases mark with
  | none => rfl
  | some mark =>
      cases mark with
      | looked id work current => exact if_neg (elsewhere id work current rfl)
      | _ => rfl

variable [Resource α] {scope : Scope} {history : List (Mark α)}

namespace Pipeline

/-- Somebody still has to look at a key. -/
inductive Attended (pipe : Pipeline α) (key : Key) : Prop
  | pending : (pipe.pending key).isSome → Attended pipe key
  | handed (id : Nat) (work : Work α) :
      pipe.opening id = some (work, .awaited) → work.key = key → Attended pipe key
  | told (change : Change α) :
      (key, change) ∈ pipe.changes → (Work.ofChange? key change).isSome → Attended pipe key

/-- The cached version of a key is the one that was last read, or somebody still has to
look. -/
def Current (history : List (Mark α)) (pipe : Pipeline α) (key : Key) : Prop :=
  (pipe.cache.objectAt? key).map versionOf = (lastRead key history).map versionOf ∨
    pipe.Attended key

/-- A key stays attended to if its pending item, its takers and its changes are kept. -/
theorem Attended.carry {before after : Pipeline α} {key : Key} (attended : before.Attended key)
    (pending : (before.pending key).isSome → (after.pending key).isSome)
    (opening : ∀ id work, work.key = key → before.opening id = some (work, .awaited) →
      after.opening id = some (work, .awaited))
    (changes : ∀ change, (key, change) ∈ before.changes →
      (Work.ofChange? key change).isSome → after.Attended key) :
    after.Attended key := by
  cases attended with
  | pending waits => exact .pending (pending waits)
  | handed id work awaits same => exact .handed id work (opening id work same awaits) same
  | told change member asks => exact changes change member asks

theorem Attended.keep {before after : Pipeline α} {key : Key} (attended : before.Attended key)
    (pending : (before.pending key).isSome → (after.pending key).isSome)
    (opening : ∀ id work, work.key = key → before.opening id = some (work, .awaited) →
      after.opening id = some (work, .awaited))
    (changes : after.changes = before.changes) : after.Attended key := by
  apply attended.carry pending opening
  intro change member asks
  rw [← changes] at member
  exact .told change member asks

/-- A step other than a look at the cache leaves nobody unattended as long as the queue
is open. -/
theorem Attended.step {before after : Pipeline α} {mark : Option (Mark α)} {key : Key}
    (attended : before.Attended key) (step : Step (Event.Within scope) history mark before after)
    (isOpen : after.closed = false)
    (elsewhere : ∀ id work current, mark = some (.looked id work current) → work.key ≠ key) :
    after.Attended key := by
  cases step with
  | still | ignored => exact attended
  | synced => exact attended.keep id (fun _ _ _ awaits => awaits) rfl
  | closed => cases isOpen
  | received nothing =>
      refine attended.carry id (fun _ _ _ awaits => awaits) ?_
      intro change member
      simp [nothing] at member
  | @announced _ other change changes work told item =>
      refine attended.carry (pending_add_isSome · work) (fun _ _ _ awaits => awaits) ?_
      intro next member asks
      rw [told, List.mem_cons, Prod.mk.injEq] at member
      rcases member with ⟨same, -⟩ | later
      · rw [same, ← Work.key_of_ofChange? item]
        have wasOpen : before.closed = false := isOpen
        exact .pending (pending_add_self wasOpen work)
      · exact .told next later asks
  | suppressed told none =>
      refine attended.carry id (fun _ _ _ awaits => awaits) ?_
      intro next member asks
      rw [told, List.mem_cons, Prod.mk.injEq] at member
      rcases member with ⟨rfl, rfl⟩ | later
      · simp [none] at asks
      · exact .told next later asks
  | @returned _ work =>
      exact attended.keep (pending_add_isSome · work) (fun _ _ _ awaits => awaits) rfl
  | @handed _ id work isOpen waits free =>
      by_cases same : work.key = key
      · exact .handed id work (Function.update_self ..) same
      · refine attended.keep ?_ ?_ rfl
        · intro waits
          have kept := Function.update_of_ne (Ne.symm same) none before.pending
          exact (congrArg Option.isSome kept).trans waits
        · intro other item itemKey awaits
          exact update_apply_of_value_ne awaits (by simp [free]) _
  | @looked _ id work awaits =>
      refine attended.keep (fun waits => waits) ?_ rfl
      intro other item itemKey awaitsToo
      refine update_apply_of_value_ne awaitsToo ?_ _
      intro same
      obtain ⟨rfl, -⟩ := Prod.mk.inj (Option.some.inj (awaits.symm.trans same))
      exact elsewhere _ _ _ rfl itemKey
  | called read =>
      refine attended.keep id ?_ rfl
      intro other item itemKey awaits
      exact update_apply_of_value_ne awaits (by simp [read]) _

theorem current_looked {before after : Pipeline α} {id : Nat} {work : Work α}
    {current : Option α} (inScope : before.InScope scope history)
    (step : Step (Event.Within scope) history (some (.looked id work current)) before after) :
    after.Current ((some (.looked id work current)).toList ++ history) work.key := by
  cases step with
  | looked awaits =>
      have fits := inScope.opening _ _ _ awaits
      have read : lastRead work.key (.looked id work (before.cache.get? work.key) :: history) =
          before.cache.get? work.key := if_pos rfl
      left
      rw [Option.toList_some, List.singleton_append, read, inScope.cache.objects.get?_eq fits]

/-- A step keeps every key current as long as the queue is open. -/
theorem current_step {before after : Pipeline α} {mark : Option (Mark α)} {key : Key}
    (inScope : before.InScope scope history)
    (step : Step (Event.Within scope) history mark before after)
    (isOpen : after.closed = false) (current : before.Current history key) :
    after.Current (mark.toList ++ history) key := by
  by_cases here : ∃ id work found, mark = some (.looked id work found) ∧ work.key = key
  · obtain ⟨id, work, found, rfl, rfl⟩ := here
    exact current_looked inScope step
  have elsewhere : ∀ id work found, mark = some (.looked id work found) → work.key ≠ key :=
    fun id work found marked same => here ⟨id, work, found, marked, same⟩
  rcases current with same | attended
  · rw [Current, lastRead_of_elsewhere elsewhere, ← same]
    -- Only an event changes what is cached, and its changes are then to be passed on.
    cases step with
    | @received _ order event nothing fair within =>
        by_cases kept : ((before.cache.apply order event).1.objectAt? key).map versionOf =
            (before.cache.objectAt? key).map versionOf
        · exact .inl kept
        · obtain ⟨change, member, asks⟩ :=
            Cache.exists_work_of_apply inScope.cache within fair kept
          exact .inr (.told change member asks)
    | _ => exact .inl rfl
  · exact .inr (attended.step step isOpen elsewhere)

/-- Every run keeps every key current as long as the queue is open. -/
theorem current_of_runs {pipe : Pipeline α} (run : Runs (Event.Within scope) history pipe)
    (isOpen : pipe.closed = false) (key : Key) : pipe.Current history key := by
  induction run with
  | start => exact .inl rfl
  | step run step ih =>
      exact current_step (inScope_of_runs run) step isOpen (ih (step.wasOpen isOpen))

end Pipeline

namespace System

/-- Somebody still has to look at a key. -/
inductive Unsettled (system : System α ω) (key : Key) : Prop
  /-- An item is pending, and the key is ready or the item is parked. -/
  | pending (work : Work α) :
      system.queue.pending.find? key = some work →
      key ∈ system.queue.ready ∨ key ∈ system.queue.inFlight → Unsettled system key
  /-- An item was handed out, and the cache is still to be read for it. -/
  | handed (id : Nat) (caller : Caller α ω) (work : Work α) :
      system.callers.find? id = some caller → caller.point = .holding work .handed →
      work.key = key → Unsettled system key
  /-- A change is still to be passed on. -/
  | told (change : Change α) :
      (key, change) ∈ system.relay.changes → (Work.ofChange? key change).isSome →
      Unsettled system key

/-- Nobody has anything left to do until the next event. -/
structure Idle (system : System α ω) : Prop where
  relay : system.relay = .idle
  ready : system.queue.ready = []
  callers : ∀ caller ∈ system.callers.values, caller.point.held? = none
  delayed : system.delayed.entries = []

instance [DecidableEq α] (system : System α ω) : Decidable system.Idle :=
  decidable_of_iff
    (system.relay = .idle ∧ system.queue.ready = [] ∧
      (∀ caller ∈ system.callers.values, caller.point.held?.isNone = true) ∧
      system.delayed.entries = [])
    ⟨fun ⟨relay, ready, callers, delayed⟩ =>
        ⟨relay, ready, fun caller member => Option.isNone_iff_eq_none.mp (callers caller member),
          delayed⟩,
      fun idle =>
        ⟨idle.relay, idle.ready,
          fun caller member => Option.isNone_iff_eq_none.mpr (idle.callers caller member),
          idle.delayed⟩⟩

theorem unsettled_of_attended {system : System α ω} (custody : system.Custody)
    (isOpen : system.queue.closed = false) {key : Key} (attended : system.pipeline.Attended key) :
    system.Unsettled key := by
  cases attended with
  | pending waits =>
      obtain ⟨work, found⟩ := Option.isSome_iff_exists.mp waits
      exact .pending work found (custody.sound.placed isOpen found)
  | handed id work awaits same =>
      obtain ⟨caller, item, stage, found, held, opens⟩ := exists_held_of_shown? awaits
      obtain ⟨rfl, rfl⟩ := Stage.eq_of_opening?_awaited opens
      exact .handed id caller item found (Point.eq_holding held) same
  | told change member asks => exact .told change member asks

/-- Somebody who still has to look has something left to do. -/
theorem Idle.not_unsettled {system : System α ω} (idle : system.Idle) (custody : system.Custody)
    (key : Key) : ¬system.Unsettled key := by
  have nobody {id : Nat} {caller : Caller α ω} (found : system.callers.find? id = some caller) :
      caller.point.held? = none :=
    idle.callers caller (Table.mem_values_of_find? found)
  intro unsettled
  cases unsettled with
  | pending work found placed =>
      rcases placed with ready | flying
      · simp [idle.ready] at ready
      · obtain ⟨id, keeps⟩ := (custody.inFlight_iff key).mp flying
        obtain ⟨caller, item, stage, finds, held, -⟩ := exists_held_of_shown? keeps
        simp [nobody finds] at held
  | handed id caller work found holds =>
      have held := nobody found
      rw [holds] at held
      cases held
  | told change member => simp [idle.relay, Relay.changes] at member

/-- No update is lost: in every run with events in scope and an open queue, a key whose
cached version is not the one that was last read is still to be looked at, and when
nobody has anything left to do, every key was last read with its cached version. -/
theorem no_update_lost {plan : Plan α ω} {system : System α ω}
    (run : Runs plan (Event.Within scope) history system) (isOpen : system.queue.closed = false) :
    (∀ key, (system.cache.objectAt? key).map versionOf ≠ (lastRead key history).map versionOf →
        system.Unsettled key) ∧
      (system.Idle → ∀ key,
        (system.cache.objectAt? key).map versionOf = (lastRead key history).map versionOf) := by
  have custody := custody_of_runs run
  have current := Pipeline.current_of_runs (pipeline_of_runs run) isOpen
  have unsettled (key : Key) (stale : (system.cache.objectAt? key).map versionOf ≠
      (lastRead key history).map versionOf) : system.Unsettled key :=
    unsettled_of_attended custody isOpen ((current key).resolve_left stale)
  refine ⟨unsettled, ?_⟩
  intro idle key
  by_contra stale
  exact idle.not_unsettled custody key (unsettled key stale)

/-- A pod that changes while it is adopted is looked at once more. -/
theorem no_update_lost_while_adopting :
    let pod (version : String) : Pod :=
      { metadata := { name := some "a", ns := some "ns", resourceVersion := some version } }
    let key : Key := ⟨some "ns", "a"⟩
    let plan : Plan Pod Unit := { name := "pod", backoff := {}, handler := Pod.handler }
    let actions : List (Action Pod Unit) :=
      [.enter 0 .worker, .receive {} (.applied (pod "1")), .passOn, .passOn] ++
        List.replicate 4 (.advance 0) ++
        [.receive {} (.applied (pod "2")), .passOn, .passOn] ++ List.replicate 18 (.advance 0)
    ∃ history system,
      Runs plan (Event.Within .namespaced) history system ∧
        replay plan [] { world := () } actions = some (history, system) ∧
        system.queue.closed = false ∧ system.Idle ∧
        (lastRead key history).map versionOf = some (some "2") := by
  intro pod key plan actions
  have occur : ∀ action ∈ actions, action.Occurs (Event.Within .namespaced) := by
    simp [actions, Action.Occurs, Enumeration.fair_default, Event.Within, Event.object?,
      Scope.Covers, Scope.Fits, Resource.metadata, pod]
  have shows : (replay plan [] { world := () } actions).map (fun result =>
      (result.2.queue.closed, Decidable.decide result.2.Idle,
        (result.2.cache.objectAt? key).map versionOf)) =
      some (false, true, some (some "2")) := by
    decide
  obtain ⟨⟨history, system⟩, replayed, shown⟩ := Option.map_eq_some_iff.mp shows
  simp only [Prod.mk.injEq, decide_eq_true_eq] at shown
  obtain ⟨isOpen, idle, version⟩ := shown
  have run := (Runs.start ()).replay occur replayed
  exact ⟨history, system, run, replayed, isOpen, idle,
    ((no_update_lost run isOpen).2 idle key).symm.trans version⟩

end System

end Reconciler
