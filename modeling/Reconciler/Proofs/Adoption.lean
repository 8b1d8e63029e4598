import Reconciler.Pod
import Reconciler.Proofs.PipelineScope

/-!
# Adopting objects seen for the first time

An object that is announced as added is to be adopted by the caller that takes up its
key next, as long as the object stays in the cache until then.  Later notifications do
not take this away: an update joins the pending addition, and a removal means that the
object left the cache.  A failed item that comes back may take it away.  It joins the
pending item like a newer notification, so a failed deletion turns the addition into a
deletion, until another addition puts it right.

The history since the announcement tells which of this happened.  It decides exactly
whether the caller adopts the object that it finds in the cache.
-/

namespace Reconciler

variable {α ω : Type}

/-- What became of an announced addition since. -/
inductive Debt
  /-- The item of the key is pending; it may be spoiled, that is, no addition any more. -/
  | waiting (spoiled : Bool)
  /-- The item was handed out to a caller that has not read the cache yet. -/
  | handed (id : Nat) (spoiled : Bool)
  /-- The object left the cache, or was found there. -/
  | ended
deriving DecidableEq, Repr

/-- Whether an item is spoiled after a failed item of this operation came back to it. -/
def Operation.spoils (spoiled : Bool) : Operation → Bool
  | .add => false
  | .update => spoiled
  | .delete => true

variable [Resource α]

namespace Debt

/-- What a mark does to an announced addition of a key. -/
def after (key : Key) : Debt → Mark α → Debt
  | .waiting spoiled, .announced other (.added _) =>
      .waiting (if other = key then false else spoiled)
  | .waiting spoiled, .returned work =>
      .waiting (if work.key = key then work.operation.spoils spoiled else spoiled)
  | .waiting spoiled, .handed id work =>
      if work.key = key then .handed id spoiled else .waiting spoiled
  | .handed id spoiled, .looked other _ _ =>
      if other = id then .ended else .handed id spoiled
  | debt, .refreshed cache => if (cache.objectAt? key).isSome then debt else .ended
  | debt, _ => debt

/-- What became of an addition of a key, given the history since its announcement. -/
def since (key : Key) (marks : List (Mark α)) : Debt :=
  marks.foldr (fun mark debt => debt.after key mark) (.waiting false)

/-- An item is an addition unless it is spoiled. -/
def Fresh (work : Work α) (spoiled : Bool) : Prop :=
  work.operation = .add ↔ spoiled = false

/-- What is on the way is as the history tells. -/
def Holds (key : Key) (pipe : Pipeline α) : Debt → Prop
  | .waiting spoiled =>
      (pipe.cache.objectAt? key).isSome ∧
        (pipe.closed = false → ∃ work, pipe.pending key = some work ∧ Fresh work spoiled)
  | .handed id spoiled =>
      (pipe.cache.objectAt? key).isSome ∧
        ∃ work, pipe.opening id = some (work, .awaited) ∧ work.key = key ∧ Fresh work spoiled
  | .ended => True

/-! ## One step -/

omit [Resource α] in
/-- An item that joins leaves a fresh item fresh unless it spoils it. -/
theorem Fresh.merge {item : Work α} {spoiled : Bool} (fresh : Fresh item spoiled)
    (work : Work α) : Fresh (item.merge work) (work.operation.spoils spoiled) := by
  unfold Fresh at fresh ⊢
  rw [Work.merge_operation]
  cases work.operation with
  | add => cases item.operation <;> simp [Operation.merge, Operation.spoils]
  | update => cases pending : item.operation <;> simp_all [Operation.merge, Operation.spoils]
  | delete => cases item.operation <;> simp [Operation.merge, Operation.spoils]

variable {scope : Scope} {history : List (Mark α)} {key : Key}

def next (key : Key) (debt : Debt) (mark : Option (Mark α)) : Debt :=
  mark.elim debt (debt.after key)

theorem Holds.add {pipe : Pipeline α} {spoiled : Bool}
    (holds : (Debt.waiting spoiled).Holds key pipe) (work : Work α) :
    (Debt.waiting (if work.key = key then work.operation.spoils spoiled else spoiled)).Holds key
      (pipe.add work) := by
  obtain ⟨cached, waits⟩ := holds
  refine ⟨cached, ?_⟩
  intro isOpen
  have wasOpen : pipe.closed = false := isOpen
  obtain ⟨item, found, fresh⟩ := waits wasOpen
  rw [Pipeline.pending_add wasOpen]
  by_cases same : work.key = key
  · rw [if_pos same, if_pos same.symm, same, found]
    exact ⟨_, rfl, fresh.merge work⟩
  · rw [if_neg same, if_neg (Ne.symm same)]
    exact ⟨item, found, fresh⟩

theorem Holds.refreshed {debt : Debt} {pipe after : Pipeline α} (holds : debt.Holds key pipe)
    (pending : after.pending = pipe.pending) (opening : after.opening = pipe.opening)
    (closed : after.closed = pipe.closed) :
    (debt.after key (.refreshed after.cache)).Holds key after := by
  have result : debt.after key (.refreshed after.cache) =
      if (after.cache.objectAt? key).isSome then debt else .ended := by
    cases debt <;> rfl
  rw [result]
  split
  next cached =>
    cases debt with
    | waiting spoiled =>
        refine ⟨cached, ?_⟩
        rw [closed, pending]
        exact holds.2
    | handed id spoiled =>
        refine ⟨cached, ?_⟩
        rw [opening]
        exact holds.2
    | ended => trivial
  · trivial

theorem Holds.step_waiting {before after : Pipeline α} {mark : Option (Mark α)} {spoiled : Bool}
    (inScope : before.InScope scope history)
    (holds : (Debt.waiting spoiled).Holds key before)
    (step : Pipeline.Step (Event.Within scope) history mark before after) :
    ((Debt.waiting spoiled).next key mark).Holds key after := by
  cases step with
  | still => exact holds
  | synced => exact holds
  | closed =>
      refine ⟨holds.1, ?_⟩
      intro isOpen
      cases isOpen
  | ignored => exact holds.refreshed rfl rfl rfl
  | received => exact holds.refreshed rfl rfl rfl
  | @announced _ other change changes work told item =>
      have added := holds.add work
      rw [Work.key_of_ofChange? item] at added
      cases change with
      | added new =>
          obtain rfl := Option.some.inj item
          exact added
      | updated old new =>
          obtain ⟨-, same⟩ := Option.ite_none_left_eq_some.mp item
          obtain rfl := Option.some.inj same
          rw [Operation.spoils, ite_self] at added
          exact added
      | deleted last =>
          -- The object is cached, so a deletion that is still told is of another key.
          have apart : other ≠ key := by
            rintro rfl
            obtain ⟨-, event, was, tells⟩ := inScope.changes other (.deleted last) (by simp [told])
            have cached := holds.1
            rw [tells.gone] at cached
            cases cached
          rw [if_neg apart] at added
          exact added
  | suppressed => exact holds
  | returned => exact holds.add _
  | @handed _ id work isOpen waits free =>
      obtain ⟨cached, pending⟩ := holds
      obtain ⟨item, found, fresh⟩ := pending isOpen
      by_cases same : work.key = key
      · have taken : (Debt.waiting spoiled).next key (some (.handed id work)) =
            .handed id spoiled := if_pos same
        rw [same, found] at waits
        obtain rfl := Option.some.inj waits
        rw [taken]
        exact ⟨cached, item, Function.update_self .., same, fresh⟩
      · have left : (Debt.waiting spoiled).next key (some (.handed id work)) =
            .waiting spoiled := if_neg same
        rw [left]
        exact ⟨cached, fun _ =>
          ⟨item, (Function.update_of_ne (Ne.symm same) _ _).trans found, fresh⟩⟩
  | looked => exact holds
  | called => exact holds

theorem Holds.step_handed {before after : Pipeline α} {mark : Option (Mark α)} {id : Nat}
    {spoiled : Bool} (holds : (Debt.handed id spoiled).Holds key before)
    (step : Pipeline.Step (Event.Within scope) history mark before after) :
    ((Debt.handed id spoiled).next key mark).Holds key after := by
  cases step with
  | still | synced | closed | suppressed => exact holds
  | ignored | received => exact holds.refreshed rfl rfl rfl
  | announced | returned => exact holds
  | handed isOpen waits free =>
      obtain ⟨cached, item, awaits, same, fresh⟩ := holds
      exact ⟨cached, item, update_apply_of_value_ne awaits (by simp [free]) _, same, fresh⟩
  | @looked _ other work awaitsToo =>
      by_cases here : other = id
      · have ends : (Debt.handed id spoiled).next key
            (some (.looked other work (before.cache.get? work.key))) = .ended := if_pos here
        rw [ends]
        trivial
      · have stays : (Debt.handed id spoiled).next key
            (some (.looked other work (before.cache.get? work.key))) = .handed id spoiled :=
          if_neg here
        obtain ⟨cached, item, awaits, same, fresh⟩ := holds
        rw [stays]
        exact ⟨cached, item, (Function.update_of_ne (Ne.symm here) _ _).trans awaits, same, fresh⟩
  | called read =>
      obtain ⟨cached, item, awaits, same, fresh⟩ := holds
      exact ⟨cached, item, update_apply_of_value_ne awaits (by simp [read]) _, same, fresh⟩

/-- A step does to an addition what its mark says. -/
theorem Holds.step {before after : Pipeline α} {mark : Option (Mark α)} {debt : Debt}
    (inScope : before.InScope scope history) (holds : debt.Holds key before)
    (step : Pipeline.Step (Event.Within scope) history mark before after) :
    (debt.next key mark).Holds key after := by
  cases debt with
  | waiting spoiled => exact holds.step_waiting inScope step
  | handed id spoiled => exact holds.step_handed step
  | ended =>
      have ends : Debt.ended.next key mark = .ended := by
        cases mark with
        | none => rfl
        | some mark =>
            cases mark with
            | refreshed cache => exact ite_self Debt.ended
            | _ => rfl
      rw [ends]
      trivial

/-- An announced addition is pending, and its object is cached. -/
theorem holds_announced {before after : Pipeline α} {new : α}
    (inScope : before.InScope scope history)
    (step : Pipeline.Step (Event.Within scope) history (some (.announced key (.added new)))
      before after) : (Debt.waiting false).Holds key after := by
  cases step with
  | announced told item =>
      obtain rfl := Option.some.inj item
      obtain ⟨-, event, was, tells⟩ := inScope.changes key (.added new) (by simp [told])
      refine ⟨Option.isSome_iff_exists.mpr ⟨new, tells.found⟩, ?_⟩
      intro isOpen
      have wasOpen : before.closed = false := isOpen
      refine ⟨_, (Pipeline.pending_add wasOpen _ key).trans (if_pos rfl), ?_⟩
      cases before.pending key with
      | none => simp [Fresh]
      | some item =>
          rw [Fresh, Work.joining_some, Work.merge_operation]
          cases item.operation <;> simp [Operation.merge]

/-! ## Runs -/

/-- The history since the announcement of an addition tells what became of it. -/
theorem holds_of_runs {pipe : Pipeline α} {marks earlier : List (Mark α)} {new : α}
    (run : Pipeline.Runs (Event.Within scope) (marks ++ .announced key (.added new) :: earlier)
      pipe) : (since key marks).Holds key pipe := by
  apply run.since (motive := fun marks pipe => (since key marks).Holds key pipe)
  · intro before after run step
    exact holds_announced (Pipeline.inScope_of_runs run) step
  · intro marks newest before after run step holds
    have next := holds.step (Pipeline.inScope_of_runs run) step
    cases newest with
    | none => exact next
    | some newest => exact next

/-- A caller that read the cache for an addition found the object, and its item is an
addition unless it is spoiled. -/
theorem found_of_runs {pipe : Pipeline α} {later marks earlier : List (Mark α)} {new : α}
    {id : Nat} {work : Work α} {current : Option α} {spoiled : Bool}
    (run : Pipeline.Runs (Event.Within scope)
      (later ++ .looked id work current :: (marks ++ .announced key (.added new) :: earlier)) pipe)
    (owed : since key marks = .handed id spoiled) :
    work.key = key ∧ Fresh work spoiled ∧
      ∃ object, current = some object ∧ Cache.keyOf object = key := by
  obtain ⟨before, after, ran, step⟩ := run.step_of_mark
  have inScope := Pipeline.inScope_of_runs ran
  have holds := holds_of_runs ran
  rw [owed] at holds
  obtain ⟨cached, item, awaits, same, fresh⟩ := holds
  obtain ⟨awaitsToo, read, -⟩ := step.opening_looked
  obtain ⟨rfl, -⟩ := Prod.mk.inj (Option.some.inj (awaits.symm.trans awaitsToo))
  obtain ⟨object, found⟩ := Option.isSome_iff_exists.mp cached
  have fits := inScope.opening _ _ _ awaits
  refine ⟨same, fresh, object, ?_, key_of_found? found⟩
  rw [read, inScope.cache.objects.get?_eq fits, same, found]

omit [Resource α] in
theorem opening_of_fresh {plan : Plan α ω} {work : Work α} {spoiled : Bool}
    (fresh : Fresh work spoiled) (object : α) :
    Stage.opening plan work (some object) =
      if spoiled then .syncing (plan.handler.sync work.key work.operation (some object) work.prior)
      else .adopting object (plan.handler.adopt work.key object) := by
  cases spoiled with
  | false => simp [Stage.opening, fresh.mpr rfl]
  | true =>
      have other : work.operation ≠ .add := fun same => Bool.noConfusion (fresh.mp same)
      cases operation : work.operation with
      | add => exact (other operation).elim
      | update | delete => simp [Stage.opening, operation]

end Debt

def Stage.adopts? (_ : Work α) : Stage α ω → Option α
  | .adopting object _ => some object
  | _ => none

namespace System

/-- Which caller adopts an object that is announced as added: let it stay in the cache
until its key is handed out and the cache is read.  The caller found the object there,
and with its next step it adopts it, unless a failed deletion that came back meanwhile
spoiled the addition.  In that case it reconciles the object without adopting it. -/
theorem adopts_unless_spoiled {plan : Plan α ω} {system : System α ω} {scope : Scope} {key : Key}
    (later : List (Mark α)) {marks earlier : List (Mark α)} {new : α} {id : Nat} {work : Work α}
    {current : Option α} {spoiled : Bool}
    (run : Runs plan (Event.Within scope)
      (later ++ .looked id work current :: (marks ++ .announced key (.added new) :: earlier))
      system)
    (owed : Debt.since key marks = .handed id spoiled)
    (uncalled : ∀ other, .called id other ∉ later) :
    ∃ object caller, current = some object ∧ Cache.keyOf object = key ∧
      system.callers.find? id = some caller ∧
      system.act plan (.advance id) =
        if system.now < caller.resumes then none
        else some (system.putStage id caller work
          (if spoiled then .syncing (plan.handler.sync key work.operation (some object) work.prior)
          else .adopting object (plan.handler.adopt key object))) := by
  have ran := pipeline_of_runs run
  obtain ⟨rfl, fresh, object, rfl, own⟩ := Debt.found_of_runs ran owed
  obtain ⟨caller, item, stage, found, held, opens⟩ :=
    exists_held_of_shown? (ran.opening_of_looked uncalled)
  obtain ⟨rfl, rfl⟩ := Stage.eq_of_opening?_found opens
  refine ⟨object, caller, rfl, own, found, ?_⟩
  rw [act, advance_of_holding found (Point.eq_holding held), advanceStage_looked,
    Debt.opening_of_fresh fresh]

/-- A pod that changes before anybody takes it up is adopted as it is then. -/
theorem adopts_unless_spoiled_changed :
    let pod (version : String) : Pod :=
      { metadata := { name := some "a", ns := some "ns", resourceVersion := some version } }
    let key : Key := ⟨some "ns", "a"⟩
    let plan : Plan Pod Unit := { name := "pod", backoff := {}, handler := Pod.handler }
    let actions : List (Action Pod Unit) :=
      [.receive {} (.applied (pod "1")), .passOn, .passOn,
        .receive {} (.applied (pod "2")), .passOn, .passOn, .enter 0 .worker] ++
        List.replicate 3 (.advance 0)
    ∃ marks earlier system caller,
      replay plan [] { world := () } actions =
          some (.looked 0 ⟨key, .add, none⟩ (some (pod "2")) ::
            (marks ++ .announced key (.added (pod "1")) :: earlier), system) ∧
        Debt.since key marks = .handed 0 false ∧
        (system.act plan (.advance 0)).isSome ∧
        system.act plan (.advance 0) =
          if system.now < caller.resumes then none
          else some (system.putStage 0 caller ⟨key, .add, none⟩
            (.adopting (pod "2") (plan.handler.adopt key (pod "2")))) := by
  intro pod key plan actions
  have occur : ∀ action ∈ actions, action.Occurs (Event.Within .namespaced) := by
    simp [actions, Action.Occurs, Enumeration.fair_default, Event.Within, Event.object?,
      Scope.Covers, Scope.Fits, Resource.metadata, pod]
  have shows : (replay plan [] { world := () } actions).map (fun result =>
      (Decidable.decide (result.1 = .looked 0 ⟨key, .add, none⟩ (some (pod "2")) ::
        ((result.1.drop 1).take 3 ++ .announced key (.added (pod "1")) :: result.1.drop 5)),
        Debt.since key ((result.1.drop 1).take 3),
        (result.2.act plan (.advance 0)).isSome)) = some (true, .handed 0 false, true) := by
    decide
  obtain ⟨⟨history, system⟩, replayed, shown⟩ := Option.map_eq_some_iff.mp shows
  simp only [Prod.mk.injEq, decide_eq_true_eq] at shown
  obtain ⟨split, owed, goesOn⟩ := shown
  have run := (Runs.start ()).replay occur replayed
  rw [split] at run replayed
  obtain ⟨object, caller, found, -, -, step⟩ := adopts_unless_spoiled [] run owed (by simp)
  obtain rfl := Option.some.inj found
  exact ⟨_, _, system, caller, replayed, owed, goesOn, step⟩

/-- A pod is removed, and the reconciliation of its removal fails.  Then it is created
again, and the failed removal comes back before the addition is taken up.  The addition
is announced and the pod stays in the cache, but it is reconciled without being adopted. -/
theorem late_retry_skips_adoption :
    let pod (version : String) : Pod :=
      { metadata := { name := some "a", ns := some "ns", resourceVersion := some version } }
    let key : Key := ⟨some "ns", "a"⟩
    let removal : Work Pod := ⟨key, .delete, some (pod "1")⟩
    let plan : Plan Pod Unit :=
      { name := "pod"
        backoff := {}
        handler := { sync := fun _ operation _ _ =>
          if operation = .delete then .fail (.other "unavailable") else .done } }
    let actions : List (Action Pod Unit) :=
      [.enter 0 .worker, .receive {} (.removed (pod "1")), .passOn, .passOn] ++
        List.replicate 10 (.advance 0) ++
        [.receive {} (.applied (pod "2")), .passOn, .passOn, .elapse 5, .fire 0] ++
        List.replicate 3 (.advance 0)
    ∃ earlier system after,
      replay plan [] { world := () } actions =
          some (.looked 0 removal (some (pod "2")) ::
            ([.handed 0 removal, .returned removal] ++
              .announced key (.added (pod "2")) :: earlier), system) ∧
        Runs plan (Event.Within .namespaced)
          (.looked 0 removal (some (pod "2")) ::
            ([.handed 0 removal, .returned removal] ++
              .announced key (.added (pod "2")) :: earlier)) system ∧
        system.queue.closed = false ∧
        system.act plan (.advance 0) = some after ∧
        after.InCall 0 key ∧ shown? Stage.adopts? after.callers 0 = none := by
  intro pod key removal plan actions
  have occur : ∀ action ∈ actions, action.Occurs (Event.Within .namespaced) := by
    simp [actions, Action.Occurs, Enumeration.fair_default, Event.Within, Event.object?,
      Scope.Covers, Scope.Fits, Resource.metadata, pod]
  have shows : (replay plan [] { world := () } actions).map (fun result =>
      (result.1.take 4, result.2.queue.closed,
        (result.2.act plan (.advance 0)).map fun after =>
          (shown? Stage.calls? after.callers 0, shown? Stage.adopts? after.callers 0))) =
      some ([.looked 0 removal (some (pod "2")), .handed 0 removal, .returned removal,
        .announced key (.added (pod "2"))], false, some (some key, none)) := by
    decide
  obtain ⟨⟨history, system⟩, replayed, shown⟩ := Option.map_eq_some_iff.mp shows
  simp only [Prod.mk.injEq] at shown
  obtain ⟨marks, isOpen, goesOn⟩ := shown
  obtain ⟨after, acted, seen⟩ := Option.map_eq_some_iff.mp goesOn
  obtain ⟨call, adopted⟩ := Prod.mk.inj seen
  have run := (Runs.start ()).replay occur replayed
  rw [← List.take_append_drop 4 history, marks] at run replayed
  exact ⟨history.drop 4, system, after, replayed, run, isOpen, acted, call, adopted⟩

end System

end Reconciler
