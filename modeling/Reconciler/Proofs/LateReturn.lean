import Reconciler.Pod
import Reconciler.Proofs.Pipeline
import Reconciler.Proofs.Scope

/-!
# Failed items that come back late

A failed item comes back to the queue as if it were the newest notification of its key.
If newer notifications are pending by then, the two are merged in the wrong order: what
is pending should have joined the failed item, and instead the failed item joins what is
pending.  Merging is not commutative, so the result may be wrong.  A late removal turns
an addition or an update into a removal, a late update undoes a pending removal, and of
two objects before the item the newer one is kept.

This file says exactly when the order makes no difference.
-/

namespace Reconciler

variable {α ω : Type}

namespace Work

/-- An item carries the object before it unless it is an addition. -/
def Proper (work : Work α) : Prop :=
  work.prior = none ↔ work.operation = .add

/-- Whether a failed item and a pending one may be merged in either order. -/
def Commutes (failed pending : Work α) : Prop :=
  (failed.operation = .add ∧ pending.operation ≠ .delete) ∨
    (pending.operation = .add ∧ failed.operation ≠ .delete) ∨
    (failed.operation = pending.operation ∧ failed.prior = pending.prior)

instance [DecidableEq α] (failed pending : Work α) : Decidable (failed.Commutes pending) := by
  unfold Commutes
  infer_instance

variable {pending newer failed : Work α}

theorem Proper.merge (proper : pending.Proper) (newerProper : newer.Proper) :
    (pending.merge newer).Proper := by
  unfold Proper at proper newerProper ⊢
  simp only [Work.merge]
  by_cases adds : pending.operation.merge newer.operation = .add
  · simp [adds]
  · rw [if_neg adds, Option.or_eq_none_iff, proper, newerProper]
    refine ⟨fun both => ?_, fun merged => (adds merged).elim⟩
    simp [both.1, both.2, Operation.merge] at adds

theorem Proper.joining (proper : newer.Proper) {waiting : Option (Work α)}
    (waitingProper : ∀ item, waiting = some item → item.Proper) :
    (newer.joining waiting).Proper := by
  cases waiting with
  | none => exact proper
  | some item => exact (waitingProper item rfl).merge proper

theorem proper_of_ofChange? [Resource α] {key : Key} {change : Change α}
    (item : ofChange? key change = some newer) : newer.Proper := by
  cases change with
  | added new =>
      obtain rfl := Option.some.inj item
      simp [Proper]
  | updated old new =>
      obtain ⟨-, same⟩ := Option.ite_none_left_eq_some.mp item
      obtain rfl := Option.some.inj same
      simp [Proper]
  | deleted last =>
      obtain rfl := Option.some.inj item
      simp [Proper]

/-- The failed item may join the pending one in place of the other way round exactly if
the two commute. -/
theorem merge_eq_merge_iff (failedProper : failed.Proper) (pendingProper : pending.Proper)
    (same : pending.key = failed.key) :
    pending.merge failed = failed.merge pending ↔ failed.Commutes pending := by
  obtain ⟨key, operation, prior⟩ := failed
  obtain ⟨_, other, before⟩ := pending
  obtain rfl : _ = key := same
  unfold Proper at failedProper pendingProper
  simp only [Commutes, Work.merge, Work.mk.injEq, true_and]
  cases operation <;> cases other <;> cases prior <;> cases before <;>
    simp_all [Operation.merge, eq_comm]

end Work

namespace Pipeline

variable [Resource α] {admits : Event α → Prop} {history : List (Mark α)}

/-- What a run keeps true about the items on their way. -/
structure Carries (history : List (Mark α)) (pipe : Pipeline α) : Prop where
  pending : ∀ key work, pipe.pending key = some work → work.Proper ∧ work.key = key
  handed : ∀ work, Mark.Handed history work → work.Proper

omit [Resource α] in
theorem Carries.add {pipe : Pipeline α} (carries : pipe.Carries history) {work : Work α}
    (proper : work.Proper) : (pipe.add work).Carries history where
  pending key item found := by
    by_cases isClosed : pipe.closed = true
    · rw [add_of_closed isClosed] at found
      exact carries.pending key item found
    · rw [pending_add (by simpa using isClosed)] at found
      split at found
      next same =>
        obtain rfl := Option.some.inj found
        refine ⟨proper.joining fun waiting waits => (carries.pending _ _ waits).1, ?_⟩
        cases waits : pipe.pending work.key with
        | none => exact same.symm
        | some waiting => exact (carries.pending _ _ waits).2.trans same.symm
      · exact carries.pending key item found
  handed := carries.handed

omit [Resource α] in
theorem Carries.recorded {pipe : Pipeline α} (carries : pipe.Carries history) {mark : Mark α}
    (proper : ∀ id work, mark = .handed id work → work.Proper) :
    pipe.Carries (mark :: history) where
  pending := carries.pending
  handed work handed := by
    obtain ⟨id, member⟩ := handed
    rcases List.mem_cons.mp member with newest | older
    · exact proper id work newest.symm
    · exact carries.handed work ⟨id, older⟩

theorem Carries.step {before after : Pipeline α} {mark : Option (Mark α)}
    (carries : before.Carries history) (step : Step admits history mark before after) :
    after.Carries (mark.toList ++ history) := by
  cases step with
  | still | synced | closed | suppressed => exact { carries with }
  | ignored | received | looked | called => exact { carries.recorded (by simp) with }
  | announced told item =>
      have added := carries.add (Work.proper_of_ofChange? item)
      exact { added.recorded (by simp) with }
  | returned handed => exact (carries.add (carries.handed _ handed)).recorded (by simp)
  | @handed _ id work isOpen waits free =>
      have marked : before.Carries (.handed id work :: history) := by
        apply carries.recorded
        intro other item same
        obtain ⟨-, rfl⟩ := Mark.handed.inj same
        exact (carries.pending _ _ waits).1
      exact { marked with
        pending := fun key item found => carries.pending key item (apply_of_update_none found).2 }

theorem carries_of_runs {pipe : Pipeline α} (run : Runs admits history pipe) :
    pipe.Carries history := by
  induction run with
  | start =>
      constructor
      · intro key work found
        cases found
      · rintro work ⟨id, member⟩
        cases member
  | step run step ih => exact ih.step step

/-- An item that comes back joins what is pending for its key. -/
theorem Step.pending_returned {before after : Pipeline α} {failed pending : Work α}
    (step : Step admits history (some (.returned failed)) before after)
    (isOpen : before.closed = false) (waits : before.pending failed.key = some pending) :
    Mark.Handed history failed ∧ after.pending failed.key = some (pending.merge failed) := by
  cases step with
  | returned handed =>
      refine ⟨handed, ?_⟩
      rw [pending_add isOpen, if_pos rfl, waits]
      rfl

end Pipeline

namespace System

variable [Resource α]

/-- What becomes of the pending item of a key when a failed item of the key comes back,
at once or after its delay: the failed item joins it.  If the pending item is the newer
one, it should have joined the failed one, and this comes to the same exactly if the two
commute.  A pending update becomes an addition exactly if an addition had failed. -/
theorem late_return_joins_pending {plan : Plan α ω} {admits : Event α → Prop}
    {history : List (Mark α)} {before after : System α ω} {action : Action α ω}
    {failed pending : Work α} (run : Runs plan admits history before)
    (occurs : action.Occurs admits) (acted : before.act plan action = some after)
    (returns : before.mark? after action = some (.returned failed))
    (isOpen : before.queue.closed = false)
    (waits : before.queue.pending.find? failed.key = some pending) :
    after.queue.pending.find? failed.key = some (pending.merge failed) ∧
      (pending.merge failed = failed.merge pending ↔ failed.Commutes pending) ∧
      (pending.operation = .update →
        ((pending.merge failed).operation = .add ↔ failed.operation = .add)) := by
  have carries := Pipeline.carries_of_runs (pipeline_of_runs run)
  have step := step_of_turn (custody_of_runs run) (provenance_of_runs run) occurs
    (turn_of_act occurs acted)
  rw [returns] at step
  obtain ⟨handed, joined⟩ := step.pending_returned isOpen waits
  obtain ⟨proper, same⟩ := carries.pending _ _ waits
  refine ⟨joined, ?_, ?_⟩
  · exact Work.merge_eq_merge_iff (carries.handed _ handed) proper same
  · intro updates
    rw [Work.merge_operation, updates]
    cases failed.operation <;> simp [Operation.merge]

/-- A pod is created again while the update that failed before it was removed waits for
its retry.  The late update joins the addition, which stays one. -/
theorem late_return_joins_pending_addition :
    let pod (version : String) : Pod :=
      { metadata := { name := some "a", ns := some "ns", resourceVersion := some version } }
    let key : Key := ⟨some "ns", "a"⟩
    let update : Work Pod := ⟨key, .update, some (pod "1")⟩
    let plan : Plan Pod Unit :=
      { name := "pod"
        backoff := {}
        handler := { sync := fun _ operation _ _ =>
          if operation = .update then .fail (.other "unavailable") else .done } }
    let passing (event : Event Pod) : List (Action Pod Unit) :=
      [.receive {} event, .passOn, .passOn]
    let actions : List (Action Pod Unit) :=
      [.enter 0 .worker] ++ passing (.applied (pod "1")) ++ List.replicate 10 (.advance 0) ++
        passing (.applied (pod "2")) ++ List.replicate 11 (.advance 0) ++
        passing (.removed (pod "3")) ++ passing (.applied (pod "4")) ++ [.elapse 5]
    ∃ history before after,
      replay plan [] { world := () } actions = some (history, before) ∧
        before.act plan (.fire 0) = some after ∧
        before.mark? after (.fire 0) = some (.returned update) ∧
        before.queue.pending.find? key = some ⟨key, .add, none⟩ ∧
        after.queue.pending.find? key = some (update.merge ⟨key, .add, none⟩) := by
  intro pod key update plan passing actions
  have occur : ∀ action ∈ actions, action.Occurs fun _ => True := by
    simp [actions, passing, Action.Occurs, Enumeration.fair_default]
  have shows : (replay plan [] { world := () } actions).map (fun result =>
      (result.2.queue.closed, result.2.queue.pending.find? key,
        (result.2.act plan (.fire 0)).map fun after => result.2.mark? after (.fire 0))) =
      some (false, some ⟨key, .add, none⟩, some (some (.returned update))) := by
    decide
  obtain ⟨⟨history, before⟩, replayed, shown⟩ := Option.map_eq_some_iff.mp shows
  simp only [Prod.mk.injEq] at shown
  obtain ⟨isOpen, waits, fires⟩ := shown
  obtain ⟨after, acted, returns⟩ := Option.map_eq_some_iff.mp fires
  have fireOccurs : (Action.fire 0 : Action Pod Unit).Occurs fun _ => True := trivial
  obtain ⟨joined, order, -⟩ := late_return_joins_pending ((Runs.start ()).replay occur replayed)
    fireOccurs acted returns isOpen waits
  refine ⟨history, before, after, replayed, acted, returns, waits, ?_⟩
  rw [joined, order.mpr (by decide)]

/-- An update fails, and the pod is removed before the update comes back.  The late update
undoes the removal, which is the newer notification of the two. -/
theorem late_update_undoes_removal :
    let plan : Plan Pod Unit :=
      { name := "pod"
        backoff := {}
        handler := { sync := fun _ operation _ _ =>
          if operation = .update then .fail (.other "unavailable") else .done } }
    ¬∀ (newer earlier : List (Mark Pod)) (id : Nat) (failed pending : Work Pod)
        (before after : System Pod Unit) (action : Action Pod Unit),
      Runs plan (Event.Within .namespaced) (newer ++ .handed id failed :: earlier) before →
      (∀ work, .returned work ∉ newer) → action.Occurs (Event.Within .namespaced) →
      before.act plan action = some after →
      before.mark? after action = some (.returned failed) → before.queue.closed = false →
      before.queue.pending.find? failed.key = some pending →
      after.queue.pending.find? failed.key = some (failed.merge pending) := by
  intro plan claimed
  let pod (version : String) : Pod :=
    { metadata := { name := some "a", ns := some "ns", resourceVersion := some version } }
  let key : Key := ⟨some "ns", "a"⟩
  let update : Work Pod := ⟨key, .update, some (pod "1")⟩
  let passing (event : Event Pod) : List (Action Pod Unit) := [.receive {} event, .passOn, .passOn]
  let actions : List (Action Pod Unit) :=
    [.enter 0 .worker] ++ passing (.applied (pod "1")) ++ List.replicate 10 (.advance 0) ++
      passing (.applied (pod "2")) ++ List.replicate 11 (.advance 0) ++
      passing (.removed (pod "3")) ++ [.elapse 5]
  have occur : ∀ action ∈ actions, action.Occurs (Event.Within .namespaced) := by
    simp [actions, passing, Action.Occurs, Enumeration.fair_default, Event.Within, Event.object?,
      Scope.Covers, Scope.Fits, Resource.metadata, pod]
  let removal : Work Pod := ⟨key, .delete, some (pod "2")⟩
  let newer : List (Mark Pod) := [.announced key (.deleted (pod "2")), .refreshed {},
    .called 0 update, .looked 0 update (some (pod "2"))]
  have told : (replay plan [] { world := () } actions).map (fun result => result.1.take 5) =
      some (newer ++ [.handed 0 update]) := by
    decide
  have shows : ((replay plan [] { world := () } actions).bind fun result =>
      (result.2.act plan (.fire 0)).map fun after =>
        (result.2.queue.closed, result.2.queue.pending.find? key,
          result.2.mark? after (.fire 0), after.queue.pending.find? key)) =
      some (false, some removal, some (.returned update),
        some ⟨key, .update, some (pod "2")⟩) := by
    decide
  obtain ⟨⟨history, before⟩, replayed, fires⟩ := Option.bind_eq_some_iff.mp shows
  obtain ⟨after, acted, found⟩ := Option.map_eq_some_iff.mp fires
  simp only [Prod.mk.injEq] at found
  obtain ⟨isOpen, waits, returns, left⟩ := found
  have marks : history.take 5 = newer ++ [.handed 0 update] := by
    rw [replayed] at told
    exact Option.some.inj told
  have run := (Runs.start ()).replay occur replayed
  rw [← List.take_append_drop 5 history, marks, List.append_assoc] at run
  have joined := claimed newer (history.drop 5) 0 update removal before after (.fire 0) run
    (by simp [newer]) trivial acted returns isOpen waits
  rw [left] at joined
  exact absurd joined (by decide)

end System

end Reconciler
