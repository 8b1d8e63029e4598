import Mathlib.Data.Fintype.EquivFin
import Reconciler.Pod
import Reconciler.Proofs.Conduct
import Reconciler.Proofs.FailureCount
import Reconciler.Proofs.Itinerary

/-!
# The retry schedule

An item that nothing disturbs and that nobody keeps waiting keeps to its timetable in every run,
and there is always a way on to its end.  It is attempted as soon as it is added, and after every
failure that may pass as soon as the delay for this failure is over, until it failed once more
often than it is retried.  Afterwards nothing of its key is left.

The way on goes from place to place as well: a delayed item is added when it is due, a ready one
is taken by a caller who is there for it, and whoever has it in its hands comes to the end of it.
Each attempt that begins is one more, so this ends.
-/

namespace Reconciler

variable {α ω : Type}

theorem Table.exists_find?_eq_none {ν : Type} (table : Table Nat ν) :
    ∃ key, table.find? key = none := by
  obtain ⟨key, unused⟩ := Infinite.exists_notMem_finset table.keys.toFinset
  refine ⟨key, lookup_eq_none ?_⟩
  rwa [List.mem_toFinset] at unused

namespace System

variable [Resource α] {plan : Plan α ω} {admits : Event α → Prop} {work : Work α}
  {before after start : System α ω} {since : Nat} {log : List (Sighting α ω)}

/-! ## Runs -/

/-- A controller in which an item keeps to its timetable. -/
structure OnTime (plan : Plan α ω) (work : Work α) (since : Nat) (log : List (Sighting α ω))
    (system : System α ω) : Prop where
  custody : system.Custody
  numbered : system.Numbered
  nodup : system.callers.keys.Nodup
  isOpen : system.queue.closed = false
  stands : ∃ standing, Timetable plan work since log standing ∧ Stands work system standing

theorem OnTime.step {action : Action α ω} (onTime : OnTime plan work since log before)
    (timers : plan.backoff.Exact) (occurs : action.Occurs admits)
    (undisturbed : Undisturbed plan work.key before action)
    (acted : before.act plan action = some after) :
    OnTime plan work since ((before.sighting? plan work.key after action).toList ++ log) after := by
  have turn := turn_of_act occurs acted
  obtain ⟨standing, table, stands⟩ := onTime.stands
  obtain ⟨next, goes, stands⟩ := stands.step onTime.custody onTime.numbered onTime.isOpen timers
    table occurs undisturbed acted
  exact ⟨onTime.custody.step turn, onTime.numbered.step turn, nodup_of_turn onTime.nodup turn,
    (turn.closed_eq undisturbed.running).trans onTime.isOpen, next, table.goes goes, stands⟩

theorem OnTime.run {more : List (Sighting α ω)} (onTime : OnTime plan work since log before)
    (timers : plan.backoff.Exact) (timely : Timely plan admits work.key before more after) :
    OnTime plan work since (more ++ log) after := by
  induction timely with
  | start => exact onTime
  | step _ occurs undisturbed acted ih =>
      rw [List.append_assoc]
      exact ih.step timers occurs undisturbed acted

theorem Timely.trans {key : Key} {more : List (Sighting α ω)}
    (first : Timely plan admits key start log before)
    (second : Timely plan admits key before more after) :
    Timely plan admits key start (more ++ log) after := by
  induction second with
  | start => exact first
  | step _ occurs undisturbed acted ih =>
      rw [List.append_assoc]
      exact ih.step occurs undisturbed acted

/-- An item that is added for a key of which there is none is on time. -/
theorem onTime_submit {history : List (Mark α)} (run : Runs plan admits history before)
    (isOpen : before.queue.closed = false) (spent : before.Spent work.key) :
    OnTime plan work before.now [] (before.submit work) := by
  have custody := custody_of_runs run
  have numbered := numbered_of_runs run
  have nodup := nodup_of_runs run
  have cleared : before.limiter.failures work.key = 0 := by
    by_contra failed
    exact spent.not_answered (answered_of_runs run isOpen (Nat.pos_of_ne_zero failed))
  obtain ⟨pending, bearers, tickets⟩ := docket_eq_empty_iff.mp spent.docket
  have added : (before.queue.add work).pending.find? work.key = some work := by
    rw [Queue.find?_add isOpen, if_pos rfl, pending, Work.joining_none]
  refine ⟨⟨custody.sound.add work, custody.workers, ?_, custody.alone⟩,
    ⟨numbered.nodup, numbered.issued⟩, nodup, (Queue.add_closed ..).trans isOpen,
    .due 0 before.now, .start, .rests ?_⟩
  · intro key
    rw [submit, Queue.add_inFlight]
    exact custody.inFlight_iff key
  · have waits : Rests work (before.submit work) (.due (before.limiter.failures work.key) _) :=
      .waiting (docket_eq_waiting_iff.mpr ⟨added, bearers, tickets⟩)
    rwa [cleared] at waits

/-! ## The way on -/

theorem Timely.one {key : Key} (action : Action α ω) (occurs : action.Occurs admits)
    (undisturbed : Undisturbed plan key before action)
    (acted : before.act plan action = some after) :
    Timely plan admits key before (before.sighting? plan key after action).toList after := by
  have stepped := Timely.start.step occurs undisturbed acted
  rwa [List.append_nil] at stepped

theorem Timely.enter (key : Key) {id : Nat}
    (acted : before.act plan (.enter id .worker) = some after) :
    Timely plan admits key before [] after :=
  .one (.enter id .worker) rfl trivial acted

theorem Timely.fire (key : Key) {ticket : Nat}
    (acted : before.act plan (.fire ticket) = some after) :
    Timely plan admits key before [] after :=
  .one (.fire ticket) trivial trivial acted

theorem Timely.elapse {key : Key} {millis : Nat}
    (punctual : before.Punctual key (before.now + millis)) :
    Timely plan admits key before [] { before with now := before.now + millis } :=
  .one (.elapse millis) trivial punctual rfl

theorem Timely.advance (key : Key) {id : Nat}
    (acted : before.act plan (.advance id) = some after) :
    Timely plan admits key before
      (before.sighting? plan key after (.advance id)).toList after :=
  .one (.advance id) trivial trivial acted

omit [Resource α] in
theorem OnTime.unready (onTime : OnTime plan work since log before)
    (pending : before.queue.pending.find? work.key = none) : work.key ∉ before.queue.ready :=
  fun ready => onTime.custody.sound.pending_of_ready ready pending

/-- A delayed item is added when it is due. -/
theorem OnTime.exists_waiting {standing : Standing α} (onTime : OnTime plan work since log before)
    (timers : plan.backoff.Exact) (rests : Rests work before standing) :
    ∃ more after, Timely plan admits work.key before more after ∧
      (after.docket work.key = {} ∨ after.docket work.key = .waiting work) := by
  cases rests with
  | waiting docket => exact ⟨[], before, .start, .inr docket⟩
  | gone docket => exact ⟨[], before, .start, .inl docket⟩
  | @postponed ticket time docket early =>
      obtain ⟨pending, bearers, tickets⟩ := docket_eq_postponed_iff.mp docket
      have own : System.tickets work.key before.delayed ticket = some ⟨time, work⟩ := by
        rw [tickets, Function.update_self]
      have found := (tickets_eq_some_iff.mp own).1
      obtain ⟨millis, rfl⟩ := Nat.exists_eq_add_of_le early
      have punctual : before.Punctual work.key (before.now + millis) := by
        refine ⟨onTime.unready pending, ?_, ?_⟩
        · intro item member same
          obtain ⟨other, waits⟩ := exists_tickets_of_mem onTime.numbered.nodup member same
          rw [tickets, Function.update_apply] at waits
          split at waits
          · exact (congrArg Delayed.due (Option.some.inj waits)).le
          · cases waits
        · intro caller member bears
          obtain ⟨id, held⟩ := exists_bearers_of_mem onTime.nodup member bears
          cases (congrFun bearers id).symm.trans held
      let waited := { before with now := before.now + millis }
      have waits : Timely plan admits work.key before [] waited := .elapse punctual
      have finds : waited.delayed.find? ticket = some ⟨before.now + millis, work⟩ := found
      obtain ⟨fired, fires⟩ : ∃ fired, waited.act plan (.fire ticket) = some fired := by
        simp only [act, System.fire, finds]
        exact ⟨_, if_pos (Nat.le_refl _)⟩
      have rests : Rests work waited (.due (waited.limiter.failures work.key) _) :=
        .postponed docket (Nat.le_refl _)
      have docket := (rests.fire (onTime.run timers waits).isOpen own fires).1
      exact ⟨_, fired, waits.trans (.fire work.key fires), .inr docket⟩

/-- Whoever goes on leaves a pending item where it is, or takes it. -/
theorem OnTime.waits {id : Nat} (onTime : OnTime plan work since log before)
    (docket : before.docket work.key = .waiting work)
    (acted : before.act plan (.advance id) = some after) :
    after.docket work.key = .waiting work ∨
      ∃ id caller standing, Held work after id caller .handed standing := by
  obtain ⟨-, bearers, tickets⟩ := docket_eq_waiting_iff.mp docket
  obtain ⟨standing, -, stands⟩ := onTime.stands
  have turn := turn_advance acted
  obtain ⟨failures, stays | ⟨taker, caller, item, same, found, pending, taken⟩⟩ :=
    docket_of_turn onTime.custody onTime.numbered onTime.isOpen turn
      (booking?_advance_ne plan before id work.key)
      (fun id _ => congrFun bearers id) (fun ticket _ => congrFun tickets ticket)
  · exact .inl (stays.trans docket)
  · obtain rfl := Action.advance.inj same
    exact .inr ⟨id, _, standing, stands.taken pending taken failures
      (turn.now_eq (.inr ⟨id, rfl⟩)) (resumes_le_of_advance found acted)⟩

theorem exists_looking (plan : Plan α ω) (admits : Event α → Prop) (key : Key)
    (before : System α ω) :
    ∃ more after id caller held, Timely plan admits key before more after ∧
      after.callers.find? id = some caller ∧ caller.resumes = 0 ∧
      caller.point = .checking held ∧ after.queue = before.queue ∧
      after.docket key = before.docket key := by
  -- A new one, since the callers that are there may be busy or asleep.
  obtain ⟨id, absent⟩ := before.callers.exists_find?_eq_none
  have enters : before.act plan (.enter id .worker) = some (before.enter plan id .worker) := by
    simp [act, Table.contains, absent]
  have finds : (before.enter plan id .worker).callers.find? id = some { role := .worker } :=
    (Table.find?_insert ..).trans (if_pos rfl)
  have docket : (before.enter plan id .worker).docket key = before.docket key :=
    docket_eq rfl (bearers_entered absent rfl) rfl
  have queue : (before.enter plan id .worker).queue = before.queue := rfl
  generalize before.enter plan id .worker = entered at enters finds docket queue
  let looking := { entered with bell := entered.bell.come id }.put id { role := .worker }
    (.checking entered.bell.answers)
  have looks : entered.act plan (.advance id) = some looking := by
    simp [act, System.advance, finds, looking]
  have comes : Timely plan admits key before [] entered := .enter key enters
  refine ⟨_, looking, id, _, entered.bell.answers, comes.trans (.advance key looks),
    (Table.find?_insert ..).trans (if_pos rfl), rfl, rfl, queue, ?_⟩
  rw [← docket]
  refine docket_eq rfl (bearers_insert_bare ?_ rfl) rfl
  rw [bearers, finds]
  rfl

omit [Resource α] in
theorem look_queue {id : Nat} {caller : Caller α ω} {held : Bool} {item : Work α} {queue : Queue α}
    (isOpen : before.queue.closed = false) (taken : before.queue.take = (some item, queue)) :
    (before.look plan id caller held).queue = queue := by
  simp [look, isOpen, taken, put]

/-- A ready item is taken by a worker who is there for it. -/
theorem OnTime.exists_taken (onTime : OnTime plan work since log before)
    (timers : plan.backoff.Exact) (docket : before.docket work.key = .waiting work) :
    ∃ more after id caller standing, Timely plan admits work.key before more after ∧
      Held work after id caller .handed standing := by
  -- The induction is on the line of ready keys, in which that of the item moves up.
  induction line : before.queue.ready generalizing before log with
  | nil =>
      have ready := ready_of_waiting onTime.custody onTime.isOpen docket
      rw [line] at ready
      cases ready
  | cons first rest ih =>
      obtain ⟨more, looking, id, caller, held, timely, found, rested, point, queue, same⟩ :=
        exists_looking plan admits work.key before
      have onTime := onTime.run timers timely
      obtain ⟨item, left, taken, moved⟩ :=
        onTime.custody.sound.exists_take onTime.isOpen (queue ▸ line)
      have looks : looking.act plan (.advance id) = some (looking.look plan id caller held) := by
        simp [act, System.advance, found, rested, point]
      have goesOn : Timely plan admits work.key looking _ _ := .advance work.key looks
      rcases onTime.waits (same.trans docket) looks with
        waits | ⟨taker, caller, standing, holds⟩
      · obtain ⟨later, after, id, caller, standing, further, holds⟩ :=
          ih (onTime.run timers goesOn) waits
            ((congrArg Queue.ready (look_queue onTime.isOpen taken)).trans moved)
        exact ⟨_, after, id, caller, standing, timely.trans (goesOn.trans further), holds⟩
      · exact ⟨_, _, taker, caller, standing, timely.trans goesOn, holds⟩

omit [Resource α] in
theorem OnTime.exists_held {id : Nat} {caller : Caller α ω}
    (onTime : OnTime plan work since log before)
    (bears : bearers work.key before.callers id = some caller) :
    ∃ stage standing, Timetable plan work since log standing ∧
      Held work before id caller stage standing := by
  obtain ⟨standing, table, stands⟩ := onTime.stands
  cases stands with
  | rests rests => cases (congrFun rests.unheld id).symm.trans bears
  | @held _ _ stage held =>
      obtain ⟨rfl, rfl⟩ := held.alone bears
      exact ⟨stage, standing, table, held⟩

omit [Resource α] in
/-- Nothing is late before the caller of the item may go on. -/
theorem OnTime.punctual {id : Nat} {caller : Caller α ω} {stage : Stage α ω}
    {standing : Standing α} (onTime : OnTime plan work since log before)
    (held : Held work before id caller stage standing) :
    before.Punctual work.key caller.resumes := by
  obtain ⟨pending, -, tickets⟩ := docket_eq_heldBy_iff.mp held.docket
  refine ⟨onTime.unready pending, ?_, ?_⟩
  · intro item member own
    obtain ⟨ticket, waits⟩ := exists_tickets_of_mem onTime.numbered.nodup member own
    cases (congrFun tickets ticket).symm.trans waits
  · intro bearer member bears
    obtain ⟨other, bearing⟩ := exists_bearers_of_mem onTime.nodup member bears
    obtain ⟨-, rfl⟩ := held.alone bearing
    exact Nat.le_refl _

/-- Whoever has the item in its hands goes on with it, if need be after a while. -/
theorem OnTime.exists_onward {id : Nat} {caller : Caller α ω} {stage : Stage α ω}
    {standing : Standing α} (onTime : OnTime plan work since log before)
    (timers : plan.backoff.Exact) (held : Held work before id caller stage standing) :
    ∃ more after next, Timely plan admits work.key before more after ∧
      Onward plan work stage after next ∧
      (stage = .handed → more.countP Sighting.isAttempt = 1) := by
  -- The caller may go on at once, or after it has waited.
  obtain ⟨waited, waits, own, awake⟩ : ∃ waited,
      Timely plan admits work.key before [] waited ∧
        bearers work.key waited.callers id = some caller ∧ caller.resumes ≤ waited.now := by
    by_cases awake : caller.resumes ≤ before.now
    · exact ⟨before, .start, held.own, awake⟩
    · obtain ⟨millis, later⟩ := Nat.exists_eq_add_of_le (Nat.le_of_not_le awake)
      have punctual := onTime.punctual held
      rw [later] at punctual
      exact ⟨_, .elapse punctual, held.own, later.le⟩
  have onTime := onTime.run timers waits
  obtain ⟨_, standing, table, holds⟩ := onTime.exists_held own
  obtain ⟨-, rfl⟩ := Point.holding.inj (held.point.symm.trans holds.point)
  have moves : waited.act plan (.advance id) =
      some (waited.advanceStage plan id caller work stage) :=
    (advance_of_holding holds.find? holds.point).trans (if_neg (Nat.not_lt.mpr awake))
  obtain ⟨next, -, onward⟩ := holds.advance onTime.isOpen timers table moves
  refine ⟨_, _, next, waits.trans (.advance work.key moves), onward, ?_⟩
  rintro rfl
  rw [holds.sighting?_eq]
  rfl

/-- Whoever has the item in its hands comes to the end of it. -/
theorem OnTime.exists_rests {id : Nat} {caller : Caller α ω} {stage : Stage α ω}
    {standing : Standing α} (onTime : OnTime plan work since log before)
    (timers : plan.backoff.Exact) (held : Held work before id caller stage standing) :
    ∃ more after next, Timely plan admits work.key before more after ∧ Rests work after next := by
  -- Every stage of a caller leads to its end, whatever the handler does.
  induction stage.ends plan work generalizing before log id caller standing with
  | intro stage _ ih =>
      obtain ⟨more, after, next, goesOn, onward, -⟩ := onTime.exists_onward timers held
      cases onward with
      | rests rests => exact ⟨more, after, next, goesOn, rests⟩
      | held holds follows =>
          obtain ⟨later, final, last, further, rests⟩ :=
            ih _ follows (onTime.run timers goesOn) holds
          exact ⟨_, final, last, goesOn.trans further, rests⟩

omit [Resource α] in
theorem OnTime.attempts_le (onTime : OnTime plan work since log before) :
    log.countP Sighting.isAttempt ≤ plan.backoff.retries.toNat + 1 := by
  obtain ⟨standing, table, -⟩ := onTime.stands
  exact table.counts.attempts_le

theorem OnTime.exists_attempt (onTime : OnTime plan work since log before)
    (timers : plan.backoff.Exact) (docket : before.docket work.key = .waiting work) :
    ∃ more after next, Timely plan admits work.key before more after ∧ Rests work after next ∧
      0 < more.countP Sighting.isAttempt := by
  obtain ⟨first, taken, id, caller, standing, takes, held⟩ :
      ∃ first taken id caller standing, Timely plan admits work.key before first taken ∧
        Held work taken id caller .handed standing := onTime.exists_taken timers docket
  have onTime := onTime.run timers takes
  obtain ⟨second, looked, next, looks, onward, counted⟩ := onTime.exists_onward timers held
  have onTime := onTime.run timers looks
  have attempts := counted rfl
  cases onward with
  | rests rests =>
      refine ⟨_, looked, next, takes.trans looks, rests, ?_⟩
      rw [List.countP_append]
      omega
  | held held =>
      obtain ⟨third, after, last, goesOn, rests⟩ := onTime.exists_rests timers held
      refine ⟨_, after, last, takes.trans (looks.trans goesOn), rests, ?_⟩
      rw [List.countP_append, List.countP_append]
      omega

/-- An item that rests comes to its end.  Every attempt on the way is one more, and there are
only so many. -/
theorem OnTime.exists_gone_of_rests {standing : Standing α}
    (onTime : OnTime plan work since log before) (timers : plan.backoff.Exact)
    (rests : Rests work before standing) :
    ∃ more after, Timely plan admits work.key before more after ∧ after.docket work.key = {} := by
  induction left : plan.backoff.retries.toNat + 1 - log.countP Sighting.isAttempt
    using Nat.strong_induction_on generalizing before log standing with
  | _ left ih =>
      obtain ⟨first, ready, waits, docket | docket⟩ := onTime.exists_waiting timers rests
      · exact ⟨first, ready, waits, docket⟩
      have onTime := onTime.run timers waits
      obtain ⟨second, settled, next, goesOn, rests, attempted⟩ :=
        onTime.exists_attempt timers docket
      have onTime := onTime.run timers goesOn
      have bounded := onTime.attempts_le
      simp only [List.countP_append] at bounded
      obtain ⟨third, final, ends, gone⟩ := ih _ (by
        simp only [List.countP_append]
        omega) onTime rests rfl
      exact ⟨_, final, waits.trans (goesOn.trans ends), gone⟩

theorem OnTime.exists_gone (onTime : OnTime plan work since log before)
    (timers : plan.backoff.Exact) :
    ∃ more after, Timely plan admits work.key before more after ∧ after.docket work.key = {} := by
  obtain ⟨standing, -, stands⟩ := onTime.stands
  cases stands with
  | rests rests => exact onTime.exists_gone_of_rests timers rests
  | held held =>
      obtain ⟨first, settled, next, goesOn, rests⟩ := onTime.exists_rests timers held
      obtain ⟨second, final, ends, gone⟩ :=
        (onTime.run timers goesOn).exists_gone_of_rests timers rests
      exact ⟨_, final, goesOn.trans ends, gone⟩

/-! ## The schedule -/

omit [Resource α] in
theorem OnTime.finished (onTime : OnTime plan work since log before)
    (gone : before.docket work.key = {}) :
    Timetable plan work since log .finished ∧ before.Spent work.key ∧
      before.limiter.failures work.key = 0 := by
  obtain ⟨standing, table, stands⟩ := onTime.stands
  obtain ⟨rfl, cleared⟩ := stands.finished_of_gone gone
  exact ⟨table, spent_of_docket onTime.nodup onTime.numbered gone, cleared⟩

/-- An item keeps to its schedule.  It is added for a key of which there is no other item, nothing
disturbs it, and nobody keeps it waiting.  Then what is seen of it is as in its timetable: it is
attempted at once and after every failure that may pass, the next attempt comes exactly when the
delay for the failure is over, each attempt is one for the item as it was added, with what the
cache holds by then, and after a drop or any other outcome there are no more attempts.  So there
are at most as many attempts as retries and one more, and the item is dropped, once, exactly if
all of them failed.  When it is over and nobody has the item in its hands any more, nothing of the
key is left, and no failure is counted for it.  There is always a way on to this end. -/
theorem retries_keep_schedule {history : List (Mark α)} {system : System α ω}
    (run : Runs plan admits history before) (isOpen : before.queue.closed = false)
    (spent : before.Spent work.key) (timers : plan.backoff.Exact)
    (timely : Timely plan admits work.key (before.submit work) log system) :
    ∃ standing, Timetable plan work before.now log standing ∧
      (∀ failures time, standing = .due failures time → system.now ≤ time) ∧
      log.countP Sighting.isAttempt ≤ plan.backoff.retries.toNat + 1 ∧
      (standing = .finished →
        log.countP Sighting.isDrop =
            (if log.countP Sighting.isFailure = plan.backoff.retries.toNat + 1 then 1 else 0) ∧
          ((∀ caller ∈ system.callers.values, caller.bears work.key = false) →
            system.Spent work.key ∧ system.limiter.failures work.key = 0)) ∧
      ∃ more final, Timely plan admits work.key system more final ∧
        Timetable plan work before.now (more ++ log) .finished ∧
        final.Spent work.key ∧ final.limiter.failures work.key = 0 := by
  have onTime : OnTime plan work before.now log system := by
    have kept := (onTime_submit run isOpen spent).run timers timely
    rwa [List.append_nil] at kept
  obtain ⟨more, final, ends, gone⟩ : ∃ more final,
      Timely plan admits work.key system more final ∧ final.docket work.key = {} :=
    onTime.exists_gone timers
  obtain ⟨standing, table, stands⟩ := onTime.stands
  refine ⟨standing, table, ?_, onTime.attempts_le, ?_, more, final, ends,
    (onTime.run timers ends).finished gone⟩
  · rintro failures time rfl
    exact stands.now_le_due
  · rintro rfl
    refine ⟨table.counts.2.2, ?_⟩
    intro bare
    obtain ⟨-, left, cleared⟩ := onTime.finished (stands.gone (bearers_eq_none bare))
    exact ⟨left, cleared⟩

/-- The first attempt for a pod fails.  By the second one, 1.5 ms and thus two milliseconds later,
the pod is in the cache, and the handler panics.  There is no third one. -/
theorem retries_keep_schedule_dropped :
    let pod : Pod := { metadata := { name := some "a", ns := some "ns" } }
    let key : Key := ⟨some "ns", "a"⟩
    let plan : Plan Pod Unit :=
      { name := "pod"
        backoff := { base := Duration.clamp 1500000, retries := 1 }
        handler := { sync := fun _ _ current _ =>
          if current.isNone then .fail (.other "unavailable")
          else .finish (.panicked .unreadable) } }
    let work : Work Pod := ⟨key, .update, some pod⟩
    let actions : List (Action Pod Unit) :=
      List.replicate 10 (.advance 0) ++ [.receive {} (.applied pod), .elapse 2, .fire 0] ++
        List.replicate 8 (.advance 0)
    let attempt : Sighting Pod Unit → Option (Nat × Option Pod)
      | .read time current => some (time, current)
      | _ => none
    let lines : Sighting Pod Unit → Option (List Line)
      | .ruled _ _ lines => some lines
      | _ => none
    ∃ history before log system,
      replay plan [] { world := () } [.enter 0 .worker, .elapse 3] = some (history, before) ∧
        Runs plan (fun _ => True) history before ∧ before.Spent key ∧ plan.backoff.Exact ∧
        trace plan key [] (before.submit work) actions = some (log, system) ∧
        Timely plan (fun _ => True) key (before.submit work) log system ∧
        log.filterMap attempt = [(5, some pod), (3, none)] ∧
        log.filterMap lines = [[⟨.error, "pod controller dropped ns/a after 2 attempts: " ++
          "sync handler panicked: unknown panic payload"⟩], []] ∧
        Timetable plan work 3 log .finished ∧ system.Spent key ∧
        system.limiter.failures key = 0 := by
  intro pod key plan work actions attempt lines
  have timers : plan.backoff.Exact := Backoff.exact_of_ceiling (by decide)
  have comes : ∀ action ∈ ([.enter 0 .worker, .elapse 3] : List (Action Pod Unit)),
      action.Occurs fun _ => True := by
    simp [Action.Occurs]
  have occur : ∀ action ∈ actions, action.Occurs fun _ => True := by
    simp [actions, Action.Occurs, Enumeration.fair_default]
  have shows : ((replay plan [] { world := () } [.enter 0 .worker, .elapse 3]).bind fun result =>
      trace plan key [] (result.2.submit work) actions).map (fun result =>
        (result.1.filterMap attempt, result.1.filterMap lines, result.1.countP Sighting.isDrop,
          Decidable.decide (∀ caller ∈ result.2.callers.values, caller.bears key = false))) =
      some ([(5, some pod), (3, none)],
        [[⟨.error, "pod controller dropped ns/a after 2 attempts: " ++
          "sync handler panicked: unknown panic payload"⟩], []], 1, true) := by
    decide +kernel
  obtain ⟨history, before, replayed, isOpen, spent, begun⟩ : ∃ history before,
      replay plan [] { world := () } [.enter 0 .worker, .elapse 3] = some (history, before) ∧
        before.queue.closed = false ∧ before.Spent key ∧ before.now = 3 :=
    ⟨_, _, rfl, rfl, by decide, rfl⟩
  rw [replayed] at shows
  obtain ⟨⟨log, system⟩, traced, shown⟩ := Option.map_eq_some_iff.mp shows
  simp only [Prod.mk.injEq, decide_eq_true_eq] at shown
  obtain ⟨attempts, written, dropped, bare⟩ := shown
  have run := (Runs.start ()).replay comes replayed
  have timely : Timely plan (fun _ => True) work.key (before.submit work) log system :=
    Timely.start.trace occur traced
  obtain ⟨standing, table, -, -, ending, -⟩ := retries_keep_schedule run isOpen spent timers timely
  have counts := table.counts
  obtain rfl : standing = .finished := by
    cases standing with
    | finished => rfl
    | _ =>
        simp only [Standing.Counts] at counts
        omega
  obtain ⟨left, cleared⟩ := (ending rfl).2 bare
  exact ⟨history, before, log, system, replayed, run, spent, timers, traced, timely, attempts,
    written, begun ▸ table, left, cleared⟩

end System

end Reconciler
