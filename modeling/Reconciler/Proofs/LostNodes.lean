import Reconciler.Proofs.AlertBudget
import Reconciler.Proofs.Convergence
import Reconciler.Proofs.PendingAlerts

/-!
# Lost nodes are alerted

A node that was removed stays absent until the cache tells of another change.  Meanwhile
something is always left of it: the removal itself, an item that is still to be read, or a
caller that found the node absent and is due to record the alert.  So when nobody has
anything left to do, the alert was recorded.

The other way round, an alert is recorded only for an item that found its node absent when
the cache was read for it, and only about a node that was deleted before.
-/

namespace Reconciler

variable {key : Key} {notices log : List Notice}

/-- An alert about a key was recorded after its last change. -/
def Answered (key : Key) (log : List Notice) : Prop :=
  ∃ later id work fresh earlier, log = later ++ .recorded id work fresh :: earlier ∧
    work.key = key ∧ lastChange? key later = none

theorem Answered.append (answered : Answered key log) (untold : lastChange? key notices = none) :
    Answered key (notices ++ log) := by
  obtain ⟨later, id, work, fresh, earlier, rfl, own, since⟩ := answered
  refine ⟨notices ++ later, id, work, fresh, earlier, (List.append_assoc _ _ _).symm, own, ?_⟩
  rw [lastChange?_append, untold, since]
  rfl

namespace Trail

/-- Of a key whose last change is a removal something is left, or an alert was recorded. -/
def Pursued (key : Key) (log : List Notice) (trail : Trail) : Prop :=
  trail.closed = false → ∀ last, lastChange? key log = some (.deleted last) →
    trail.absent = true ∧ (Answered key log ∨ 0 < trail.unread + trail.due)

theorem Pursued.step {before after : Trail} (pursued : before.Pursued key log)
    (step : Step key before after notices) : after.Pursued key (notices ++ log) := by
  intro isOpen last changed
  rw [lastChange?_append] at changed
  cases step with
  | moved elsewhere stays due _ _ _ passed =>
      have untold := lastChange?_elsewhere elsewhere
      rw [untold, Option.none_or] at changed
      obtain ⟨wasOpen, kept⟩ := passed isOpen
      obtain ⟨absent, answered | left⟩ := pursued wasOpen last changed
      · exact ⟨stays.trans absent, .inl (answered.append untold)⟩
      · refine ⟨stays.trans absent, .inr ?_⟩
        rcases Nat.eq_zero_or_pos before.unread with none | unread
        · omega
        · have still := kept unread
          omega
  | received _ silent _ others removals due _ gone same closed =>
      cases told : lastChange? key notices with
      | some change =>
          rw [told, Option.some_or] at changed
          obtain rfl := Option.some.inj changed
          have asks := deletions_pos told
          refine ⟨gone last told, .inr ?_⟩
          rw [unread]
          omega
      | none =>
          rw [told, Option.none_or] at changed
          obtain ⟨absent, answered | left⟩ := pursued (closed.symm.trans isOpen) last changed
          · exact ⟨(same told).trans absent, .inl (answered.append told)⟩
          · refine ⟨(same told).trans absent, .inr ?_⟩
            rw [unread] at left ⊢
            omega
  | read own seen stays _ _ _ due closed =>
      obtain ⟨absent, -⟩ := pursued (closed.symm.trans isOpen) last changed
      rw [← seen, absent, if_pos rfl] at due
      exact ⟨stays.trans absent, .inr (by omega)⟩
  | recorded own same =>
      subst same
      obtain ⟨absent, -⟩ := pursued isOpen last changed
      exact ⟨absent, .inl ⟨[], _, _, _, log, rfl, own, rfl⟩⟩

end Trail

namespace System

variable {plan : Plan Node AlertStore} {admits : Event Node → Prop}
  {before after system : System Node AlertStore} {id : Nat} {work : Work Node} {fresh : Bool}

theorem pursued_of_noticed (handler : plan.handler = Node.handler)
    (noticed : Noticed plan (Event.Within .cluster) log system) (key : Key) :
    (system.trail key).Pursued key log := by
  induction noticed with
  | start world =>
      intro _ last changed
      cases changed
  | step noticed occurs acted ih => exact ih.step (trail_step handler noticed occurs acted key)

/-- When nobody has anything left to do, nothing is left of any key. -/
theorem Idle.trail (idle : system.Idle) (custody : system.Custody)
    (isOpen : system.queue.closed = false) (key : Key) :
    (system.trail key).unread + (system.trail key).due = 0 := by
  have silent (errand : Key × Bool) : told errand system.relay = 0 := by
    rw [idle.relay]
    rfl
  have emptied (removal : Bool) : queued (key, removal) system.queue = 0 := by
    refine if_neg fun waits => ?_
    obtain ⟨work, found, -⟩ := Option.map_eq_some_iff.mp waits
    exact idle.not_unsettled custody key
      (.pending work found (custody.sound.placed isOpen found))
  have nobody {β : Type} [DecidableEq β]
      (view : Work Node → Stage Node AlertStore → Option β) (value : β) :
      showing view value system.callers = 0 := by
    refine Nat.eq_zero_of_not_pos fun shown => ?_
    obtain ⟨caller, member, shows⟩ := (showing_pos_iff value).mp shown
    rw [Point.shows_of_bare (idle.callers caller member)] at shows
    cases shows
  simp only [Trail.unread, System.trail, silent, emptied, nobody]

/-! ## What leads to an alert -/

/-- The step behind a notice that an alert was recorded. -/
theorem Noticed.step_of_recorded {later earlier : List Notice}
    (noticed : Noticed plan admits (later ++ .recorded id work fresh :: earlier) system) :
    ∃ before after, Noticed plan admits earlier before ∧
      Noticed plan admits (.recorded id work fresh :: earlier) after ∧
      before.act plan (.advance id) = some after ∧
      .recorded id work fresh ∈ before.notices after (.advance id) := by
  obtain ⟨log, before, action, after, newer, older, earlierNoticed, occurs, acted, seen, rfl⟩ :=
    noticed.step_of_entry
  have member : .recorded id work fresh ∈ before.notices after action := by simp [seen]
  obtain ⟨rfl, only, -⟩ := action_of_recorded member
  obtain rfl : older = [] := by
    rw [only] at seen
    cases newer with
    | nil => exact (List.cons.inj seen).2.symm
    | cons first newer => simp at seen
  refine ⟨before, after, earlierNoticed, ?_, acted, member⟩
  have next := earlierNoticed.step occurs acted
  rwa [only] at next

/-- The step of a caller that records an alert: it found the node absent, and the alert is
pending then. -/
theorem record_of_recorded (handler : plan.handler = Node.handler)
    (noticed : Noticed plan admits log before) (acted : before.act plan (.advance id) = some after)
    (member : .recorded id work fresh ∈ before.notices after (.advance id)) :
    lastRead? id log = some (work, none) ∧
      after.world = before.world.record work.key.name Node.lostDescription ∧
      fresh = !before.world.isPending work.key.name := by
  obtain ⟨-, -, caller, stage, found, held, notice⟩ := action_of_recorded member
  have expected := (watched_of_noticed handler noticed).stages id caller work stage found held
  have advanced : before.advance plan id = some after := acted
  rw [advance_of_holding found (Point.eq_holding held)] at advanced
  obtain ⟨-, same⟩ := Option.ite_none_left_eq_some.mp advanced
  cases expected with
  | lost absent =>
      obtain rfl := Option.some.inj same
      exact ⟨absent, rfl, (Notice.recorded.inj (Option.some.inj notice)).2.2.symm⟩
  | adopting _ plain | syncing plain => cases plain <;> cases notice
  | _ => cases notice

/-- An alert about a node is recorded only after the cache told of its deletion. -/
theorem deleted_of_recorded (handler : plan.handler = Node.handler)
    (noticed : Noticed plan (Event.Within .cluster) (.recorded id work fresh :: log) after) :
    ∃ last, .changed work.key (.deleted last) ∈ log := by
  obtain ⟨answered, deleted, spared, -⟩ := sound_of_noticed handler noticed work.key
  have about : (Notice.recorded id work fresh).key = work.key := rfl
  have recorded : recordings work.key (.recorded id work fresh :: log) =
      recordings work.key log + 1 :=
    tally_cons _ about log
  have deletes : deletions work.key (.recorded id work fresh :: log) = deletions work.key log :=
    tally_cons _ about log
  have some : 0 < deletions work.key log := by omega
  obtain ⟨notice, member, counts⟩ := List.countP_pos_iff.mp some
  obtain ⟨kind, own⟩ := Bool.and_eq_true_iff.mp counts
  cases notice with
  | changed key change =>
      cases change with
      | deleted last =>
          obtain rfl : key = work.key := beq_iff_eq.mp own
          exact ⟨last, member⟩
      | _ => cases kind
  | read | recorded => cases kind

/-- Every lost node is alerted, and no other: in every run with nodes outside of any
namespace, as long as the queue is open, an alert was recorded after the last change of
every node that was deleted last, when nobody has anything left to do.  And whenever an
alert is recorded, the item that leads to it found its node absent, the cache had told of
the deletion of the node before, and an alert about its name is pending afterwards. -/
theorem lost_nodes_are_alerted (handler : plan.handler = Node.handler)
    (noticed : Noticed plan (Event.Within .cluster) log system) :
    (system.queue.closed = false → system.Idle → ∀ key last,
        lastChange? key log = some (.deleted last) →
        ∃ later id work fresh earlier, log = later ++ .recorded id work fresh :: earlier ∧
          work.key = key ∧ lastChange? key later = none) ∧
      ∀ later id work fresh earlier, log = later ++ .recorded id work fresh :: earlier →
        lastRead? id earlier = some (work, none) ∧
          (∃ last, .changed work.key (.deleted last) ∈ earlier) ∧
          ∃ before after, Noticed plan (Event.Within .cluster) earlier before ∧
            before.act plan (.advance id) = some after ∧
            after.world = before.world.record work.key.name Node.lostDescription ∧
            fresh = !before.world.isPending work.key.name ∧
            after.world.isPending work.key.name = true := by
  constructor
  · intro isOpen idle key last changed
    obtain ⟨history, run⟩ := noticed.run
    obtain ⟨-, answered | left⟩ := pursued_of_noticed handler noticed key isOpen last changed
    · exact answered
    · rw [idle.trail (custody_of_runs run) isOpen key] at left
      exact absurd left (Nat.lt_irrefl 0)
  · rintro later id work fresh earlier rfl
    obtain ⟨before, after, earlierNoticed, recorded, acted, member⟩ := noticed.step_of_recorded
    obtain ⟨absent, world, new⟩ := record_of_recorded handler earlierNoticed acted member
    refine ⟨absent, deleted_of_recorded handler recorded, before, after, earlierNoticed, acted,
      world, new, ?_⟩
    rw [world]
    exact AlertStore.isPending_record _ _

/-- A node is removed before the cache is read for its first item.  Both this item and the
removal find it absent. -/
theorem lost_nodes_are_alerted_before_first_look :
    let node (version : String) : Node :=
      { metadata := { name := some "a", resourceVersion := some version } }
    let key : Key := ⟨none, "a"⟩
    let plan : Plan Node AlertStore :=
      { name := "node", backoff := {}, handler := Node.handler }
    let actions : List (Action Node AlertStore) :=
      [.enter 0 .worker, .receive {} (.applied (node "1")), .passOn, .passOn, .advance 0,
        .advance 0, .receive {} (.removed (node "2")), .passOn, .passOn] ++
        List.replicate 18 (.advance 0)
    ∃ log system,
      watch plan [] { world := {} } actions = some (log, system) ∧
        Noticed plan (Event.Within .cluster) log system ∧
        system.queue.closed = false ∧ system.Idle ∧
        lastChange? key log = some (.deleted (node "1")) ∧
        ∃ later id work fresh earlier, log = later ++ .recorded id work fresh :: earlier ∧
          work.key = key ∧ lastChange? key later = none ∧
          lastRead? id earlier = some (work, none) := by
  intro node key plan actions
  have occur : ∀ action ∈ actions, action.Occurs (Event.Within .cluster) := by
    simp [actions, Action.Occurs, Enumeration.fair_default, Event.Within, Event.object?,
      Scope.Covers, Scope.Fits, Resource.metadata, node]
  have shows : (watch plan [] { world := {} } actions).map (fun result =>
      (result.2.queue.closed, Decidable.decide result.2.Idle, lastChange? key result.1)) =
      some (false, true, some (.deleted (node "1"))) := by
    decide
  obtain ⟨⟨log, system⟩, watched, shown⟩ := Option.map_eq_some_iff.mp shows
  simp only [Prod.mk.injEq, decide_eq_true_eq] at shown
  obtain ⟨isOpen, idle, changed⟩ := shown
  have noticed := (Observed.start _).transcript occur watched
  obtain ⟨alerted, leads⟩ := lost_nodes_are_alerted rfl noticed
  obtain ⟨later, id, work, fresh, earlier, split, own, since⟩ := alerted isOpen idle key _ changed
  exact ⟨log, system, watched, noticed, isOpen, idle, changed, later, id, work, fresh, earlier,
    split, own, since, (leads later id work fresh earlier split).1⟩

end System

end Reconciler
