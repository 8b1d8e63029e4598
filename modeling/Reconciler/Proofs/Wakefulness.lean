import Reconciler.Pod
import Reconciler.Proofs.Lobby
import Reconciler.Proofs.QueueRefinement
import Reconciler.Proofs.Turn

/-!
# No wake-up is lost

A controller is seen as a lobby: its bell, where its callers stand, whether a key is
ready, and whether the queue is closed.  Every atomic step of a controller is a step of
its lobby or leaves it alone, so what holds of every lobby holds of every controller,
for any number of callers and in any order of their steps: as long as the queue is open
and a key is ready, nobody sleeps without anybody else being awake; and after closing
and waking all, nobody sleeps.
-/

namespace Reconciler

variable {α ω : Type}

/-- Where a caller stands, as far as the bell is concerned. -/
def Point.place : Point α ω → Place
  | .returning => .returning
  | .checking held => .checking held
  | .asleep => .asleep
  | _ => .away

theorem Caller.isAsleep_iff (caller : Caller α ω) :
    caller.isAsleep = true ↔ caller.point.place = .asleep := by
  unfold Caller.isAsleep
  cases caller.point <;> simp [Point.place]

theorem Queue.ready_add_of_silent {queue : Queue α} {work : Work α}
    (silent : queue.announces work = false) : (queue.add work).ready = queue.ready := by
  have unannounced : ¬(queue.closed = false ∧ queue.pending.find? work.key = none ∧
      work.key ∉ queue.inFlight) := by
    rintro ⟨isOpen, fresh, idle⟩
    simp [announces, isOpen, Table.contains, fresh, idle] at silent
  rw [Queue.ready_add, if_neg unannounced, List.append_nil]

theorem Queue.ready_take_none {queue after : Queue α} (isOpen : queue.closed = false)
    (nothing : queue.take = (none, after)) : after.ready = [] := by
  unfold take at nothing
  rw [if_neg (by simp [isOpen])] at nothing
  cases first : firstReady queue.pending queue.ready with
  | none =>
      simp only [first, Prod.mk.injEq, true_and] at nothing
      rw [← nothing]
  | some found => simp [first] at nothing

namespace System

/-- Where a caller stands; whoever never came is away. -/
def place (system : System α ω) (id : Nat) : Place :=
  match system.callers.find? id with
  | none => .away
  | some caller => caller.point.place

/-- A controller as a lobby. -/
def lobby (system : System α ω) : Lobby where
  bell := system.bell
  place := system.place
  ready := !system.queue.ready.isEmpty
  closed := system.queue.closed

/-- A caller waits to be woken, and nobody has done so. -/
def Sleeps (system : System α ω) (id : Nat) : Prop :=
  system.isAsleep id = true ∧ system.bell.wokenBy? id = none

/-- A caller was woken, or is between coming to the bell and looking into the queue. -/
def IsUp (system : System α ω) (id : Nat) : Prop :=
  system.place id = .returning ∨ (∃ held, system.place id = .checking held) ∨
    system.isAsleep id = true ∧ system.bell.wokenBy? id ≠ none

variable {plan : Plan α ω} {system after : System α ω} {id : Nat} {caller : Caller α ω}

theorem isAsleep_iff : system.isAsleep id = true ↔ system.place id = .asleep := by
  unfold isAsleep place
  cases system.callers.find? id with
  | none => simp
  | some caller => exact caller.isAsleep_iff

theorem place_of_find? (found : system.callers.find? id = some caller) :
    system.place id = caller.point.place := by
  rw [place, found]

theorem lobby_put (system : System α ω) (id : Nat) (caller : Caller α ω) (point : Point α ω) :
    (system.put id caller point).lobby =
      { system.lobby with place := Function.update system.lobby.place id point.place } := by
  have places : (system.put id caller point).place =
      Function.update system.place id point.place := by
    funext other
    rw [place, put, Table.find?_insert]
    by_cases same : id = other
    · subst same
      simp
    · rw [if_neg same, Function.update_of_ne (Ne.symm same), place]
  rw [lobby, places]
  rfl

/-- Whoever is busy elsewhere and stays so is not seen at the bell. -/
theorem lobby_put_away {point : Point α ω} (away : system.place id = .away)
    (stays : point.place = .away) : (system.put id caller point).lobby = system.lobby := by
  rw [lobby_put, stays]
  have same : Function.update system.lobby.place id .away = system.lobby.place := by
    rw [Function.update_eq_self_iff]
    exact away.symm
  rw [same]

/-! ## Steps of the queue -/

/-- The queue changes with a ring, or without a key becoming ready. -/
theorem lobby_rings {queue : Queue α} {rings : Bool}
    (closed : queue.closed = system.queue.closed)
    (silent : rings = false → queue.ready = system.queue.ready) :
    system.lobby.Step ({ system with
      queue, bell := if rings then system.bell.ring else system.bell } : System α ω).lobby := by
  have seen (bell : Bell) : ({ system with queue, bell } : System α ω).lobby =
      { system.lobby with bell, ready := !queue.ready.isEmpty } := by
    rw [lobby, closed]
    rfl
  rw [seen]
  cases rings with
  | true => exact .rang
  | false =>
      rw [silent rfl]
      exact .refl _

theorem lobby_submit (system : System α ω) (work : Work α) :
    system.lobby.Step (system.submit work).lobby :=
  lobby_rings (Queue.add_closed _ _) Queue.ready_add_of_silent

theorem lobby_release (system : System α ω) (key : Key) :
    system.lobby.Step (system.release key).lobby := by
  have closed : (system.queue.release key).closed = system.queue.closed := rfl
  apply lobby_rings closed
  intro silent
  rw [Queue.release, silent, if_neg Bool.false_ne_true]

theorem lobby_schedule (system : System α ω) (work : Work α) (delay : Duration) :
    system.lobby.Step (system.schedule work delay).lobby := by
  unfold schedule
  split
  · exact lobby_submit system work
  · split <;> exact .refl _

theorem lobby_fire {ticket : Nat} (fired : system.fire ticket = some after) :
    system.lobby.Step after.lobby := by
  unfold fire at fired
  split at fired
  · cases fired
  · split at fired
    · rw [← Option.some.inj fired]
      exact lobby_submit { system with delayed := system.delayed.erase ticket } _
    · cases fired

theorem lobby_close (system : System α ω) : system.lobby.Step system.close.lobby :=
  .still id fun _ => rfl

/-! ## Steps of a caller -/

theorem lobby_finishRound (away : system.place id = .away) (work : Work α) :
    (system.finishRound id caller work).lobby = system.lobby := by
  have stays : (caller.rest work).place = .away := by
    unfold Caller.rest
    split <;> rfl
  rw [finishRound_eq]
  exact lobby_put_away away stays

theorem lobby_putStage (away : system.place id = .away) (work : Work α) (stage : Stage α ω) :
    (system.putStage id caller work stage).lobby = system.lobby :=
  lobby_put_away away rfl

theorem lobby_stepCall (away : system.place id = .away) (work : Work α)
    (stage : Call ω → Stage α ω) (ended : Outcome → Stage α ω) (call : Call ω) :
    (system.stepCall id caller work stage ended call).lobby = system.lobby := by
  cases call <;> exact lobby_put_away away rfl

theorem lobby_conclude (away : system.place id = .away) (work : Work α) (outcome : Outcome) :
    (system.conclude plan id caller work outcome).lobby = system.lobby := by
  unfold conclude
  cases failureOf outcome with
  | none => cases outcome <;> exact lobby_put_away away rfl
  | some failure =>
      simp only
      cases failure.severity <;> cases outcome <;> exact lobby_put_away away rfl

theorem lobby_decide (away : system.place id = .away) (work : Work α) (failure : Failure) :
    (system.decide plan id caller work failure).lobby = system.lobby := by
  unfold decide weigh
  cases system.limiter.fail plan.backoff work.key with
  | mk verdict limiter =>
      cases verdict with
      | retry delay => exact lobby_put_away away rfl
      | drop attempts =>
          rw [lobby_finishRound]
          · rfl
          · exact away

variable [Resource α]

theorem lobby_advanceStage (away : system.place id = .away) (work : Work α)
    (stage : Stage α ω) :
    system.lobby.Step (system.advanceStage plan id caller work stage).lobby := by
  cases stage with
  | handed => exact .of_eq (lobby_putStage away _ _)
  | looked current =>
      rw [advanceStage_looked]
      exact .of_eq (lobby_putStage away _ _)
  | adopting object call => exact .of_eq (lobby_stepCall away _ _ _ call)
  | adopted object => exact .of_eq (lobby_putStage away _ _)
  | syncing call => exact .of_eq (lobby_stepCall away _ _ _ call)
  | concluded outcome => exact .of_eq (lobby_conclude away work outcome)
  | forgetting =>
      have stays : (system.forget work.key).place id = .away := away
      exact .of_eq (lobby_putStage stays _ _)
  | releasing =>
      have stays : (system.release work.key).place id = .away := away
      rw [advanceStage, lobby_finishRound stays]
      exact lobby_release system work.key
  | yielding failure =>
      have stays : (system.release work.key).place id = .away := away
      rw [advanceStage, lobby_putStage stays]
      exact lobby_release system work.key
  | weighing failure => exact .of_eq (lobby_decide away work failure)
  | delaying failure delay =>
      have stays : (system.schedule work delay).place id = .away := by
        unfold schedule submit
        split
        · exact away
        · split <;> exact away
      rw [advanceStage, lobby_putStage stays]
      exact lobby_schedule system work delay
  | noting failure delay =>
      unfold advanceStage note
      rw [lobby_finishRound]
      · exact .refl _
      · exact away

omit [Resource α] in
theorem lobby_look {held : Bool} (checks : system.place id = .checking held) :
    system.lobby.Step (system.look plan id caller held).lobby := by
  unfold look
  cases closed : system.queue.closed with
  | true =>
      have gone (said : System α ω) (same : said.lobby = { system.lobby with
          bell := system.bell.leave id }) :
          system.lobby.Step (said.put id caller (.left none)).lobby := by
        rw [lobby_put, same]
        exact .turnedAway checks closed
      rw [if_pos rfl]
      cases caller.role <;> exact gone _ rfl
  | false =>
      rw [if_neg Bool.false_ne_true]
      cases taken : system.queue.take with
      | mk answer queue =>
          have stays := Queue.closed_take taken
          cases answer with
          | none =>
              have nothing := Queue.ready_take_none closed taken
              have seen : ({ system with queue } : System α ω).lobby =
                  { system.lobby with ready := false } := by
                rw [lobby, nothing, stays]
                rfl
              have goes : (if held then Point.returning else .asleep : Point α ω).place =
                  if held then .returning else .asleep := by
                cases held <;> rfl
              simp only
              rw [lobby_put, seen, goes]
              exact .waited checks closed
          | some work =>
              have seen (bell : Bell) : ({ system with queue, bell } : System α ω).lobby =
                  { system.lobby with bell, ready := !queue.ready.isEmpty } := by
                rw [lobby, stays]
                rfl
              have rings : (if queue.ready.isEmpty then system.bell else system.bell.ring) =
                  if !queue.ready.isEmpty then system.lobby.bell.ring else system.lobby.bell := by
                cases queue.ready.isEmpty <;> rfl
              have goes (point : Point α ω) (away : point.place = .away) :
                  system.lobby.Step (({ system with
                    queue
                    bell := (if queue.ready.isEmpty then system.bell else system.bell.ring).leave
                      id } : System α ω).put id caller point).lobby := by
                rw [lobby_put, seen, away, rings]
                exact .took checks closed
              simp only
              cases caller.role <;> exact goes _ rfl

theorem lobby_advance (advanced : system.advance plan id = some after) :
    system.lobby.Step after.lobby := by
  unfold advance at advanced
  cases found : system.callers.find? id with
  | none => simp [found] at advanced
  | some caller =>
      have here : system.lobby.place id = caller.point.place := place_of_find? found
      simp only [found] at advanced
      split at advanced
      · cases advanced
      cases point : caller.point with
      | arriving | returning =>
          simp only [point, Option.some.injEq] at advanced
          rw [← advanced, lobby_put]
          exact .came (by rw [here, point]; simp [Point.place])
      | checking held =>
          simp only [point, Option.some.injEq] at advanced
          rw [← advanced]
          exact lobby_look (here.trans (by rw [point]; rfl))
      | asleep =>
          simp only [point] at advanced
          split at advanced
          · cases advanced
          next woken =>
            rw [← Option.some.inj advanced, lobby_put]
            exact .noticed (by rw [here, point]; rfl) (by simp [lobby, woken])
      | holding work stage =>
          simp only [point, Option.some.injEq] at advanced
          rw [← advanced]
          exact lobby_advanceStage (here.trans (by rw [point]; rfl)) work stage
      | left work => simp [point] at advanced

omit [Resource α] in
theorem lobby_cancel (cancelled : system.cancel id = some after) :
    system.lobby.Step after.lobby := by
  unfold cancel at cancelled
  split at cancelled
  · cases cancelled
  next caller found =>
    split at cancelled
    next point =>
      have asleep : system.lobby.place id = .asleep := by
        exact (place_of_find? found).trans (by rw [point]; rfl)
      rw [← Option.some.inj cancelled, lobby_put]
      exact .cancelled asleep
    · cases cancelled

/-! ## Steps of the watching side -/

theorem lobby_passOn (passed : system.passOn plan = some after) :
    system.lobby.Step after.lobby := by
  unfold passOn at passed
  split at passed
  · cases passed
  · split at passed
    · rw [← Option.some.inj passed]
      exact lobby_submit system _
    · rw [← Option.some.inj passed]
      exact .refl _
  · rw [← Option.some.inj passed]
    exact .refl _
  · rw [← Option.some.inj passed]
    exact .refl _

theorem lobby_receive (order : Enumeration α) (event : Event α) :
    (system.receive plan order event).lobby = system.lobby := by
  unfold receive
  split
  · split <;> rfl
  · rfl

omit [Resource α] in
theorem place_of_new (new : system.callers.contains id = false) : system.place id = .away := by
  have absent : system.callers.find? id = none := by
    simpa [Table.contains] using new
  rw [place, absent]

omit [Resource α] in
theorem lobby_enter (new : system.callers.contains id = false) (role : Role) :
    (system.enter plan id role).lobby = system.lobby := by
  have came (said : System α ω) (away : said.place id = .away) :
      (said.put id { role := role } .arriving).lobby = said.lobby :=
    lobby_put_away away rfl
  cases role <;> exact came _ (place_of_new new)

omit [Resource α] in
theorem lobby_enterWith (new : system.callers.contains id = false) (work : Work α) :
    (system.enterWith id work).lobby = system.lobby := by
  show (system.put id { role := .single } (.holding work .handed)).lobby = system.lobby
  exact lobby_put_away (place_of_new new) rfl

/-! ## Every step, and every run -/

/-- Every atomic step is seen in the lobby as one of its steps. -/
theorem lobby_act {action : Action α ω} (acted : system.act plan action = some after) :
    system.lobby.Step after.lobby := by
  cases action with
  | receive order event =>
      simp only [act] at acted
      split at acted
      · rw [← Option.some.inj acted]
        exact .of_eq (lobby_receive order event)
      · cases acted
  | receiveFailure failure =>
      simp only [act] at acted
      split at acted
      · rw [← Option.some.inj acted]
        exact .refl _
      · cases acted
  | passOn => exact lobby_passOn acted
  | enter id role =>
      simp only [act] at acted
      split at acted
      · cases acted
      next new =>
        rw [← Option.some.inj acted]
        exact .of_eq (lobby_enter (by simpa using new) role)
  | enterWith id work =>
      simp only [act] at acted
      split at acted
      · cases acted
      next new =>
        rw [← Option.some.inj acted]
        exact .of_eq (lobby_enterWith (by simpa using new) work)
  | advance id => exact lobby_advance acted
  | cancel id => exact lobby_cancel acted
  | submit work =>
      obtain rfl := Option.some.inj acted
      exact lobby_submit system work
  | schedule work delay =>
      obtain rfl := Option.some.inj acted
      exact lobby_schedule system work delay
  | release key =>
      obtain rfl := Option.some.inj acted
      exact lobby_release system key
  | fire ticket => exact lobby_fire acted
  | close =>
      obtain rfl := Option.some.inj acted
      exact lobby_close system
  | wakeAll =>
      obtain rfl := Option.some.inj acted
      exact .wokeAll
  | forget | weigh | alter | elapse =>
      obtain rfl := Option.some.inj acted
      exact .refl _

theorem run_cons {action : Action α ω} {actions : List (Action α ω)}
    (ran : System.run plan system (action :: actions) = some after) :
    ∃ next, system.act plan action = some next ∧ System.run plan next actions = some after :=
  Option.bind_eq_some_iff.mp ran

theorem run_append {earlier later : List (Action α ω)}
    (ran : System.run plan system (earlier ++ later) = some after) :
    ∃ between, System.run plan system earlier = some between ∧
      System.run plan between later = some after := by
  rw [System.run, List.foldlM_append] at ran
  exact Option.bind_eq_some_iff.mp ran

/-- A property of lobbies that every step keeps is kept by every run. -/
theorem lobby_run {motive : Lobby → Prop}
    (goesOn : ∀ {before after : Lobby}, motive before → before.Step after → motive after)
    (actions : List (Action α ω)) (begins : motive system.lobby)
    (ran : System.run plan system actions = some after) : motive after.lobby := by
  induction actions generalizing system with
  | nil =>
      obtain rfl := Option.some.inj ran
      exact begins
  | cons action actions ih =>
      obtain ⟨next, acted, rest⟩ := run_cons ran
      exact ih (goesOn begins (lobby_act acted)) rest

/-- What holds in every lobby that a controller can come to. -/
theorem attended_of_run {world : ω} {actions : List (Action α ω)}
    (ran : System.run plan { world } actions = some system) :
    system.lobby.Kept ∧ system.lobby.Attended := by
  refine lobby_run (motive := fun lobby => lobby.Kept ∧ lobby.Attended)
    (fun known step => ⟨known.1.step step, known.2.step known.1 step⟩) actions ?_ ran
  have nobody : ({ world } : System α ω).lobby =
      { bell := {}, place := fun _ => .away, ready := false, closed := false } := rfl
  rw [nobody]
  exact ⟨⟨⟨List.nodup_nil, nofun⟩, fun id => by simp [Bell.known]⟩, fun _ ready => nomatch ready⟩

omit [Resource α] in
theorem waits_of_sleeps (kept : system.lobby.Kept) (sleeps : system.Sleeps id) :
    id ∈ system.lobby.bell.waiting ∧ system.lobby.place id = .asleep := by
  have asleep := isAsleep_iff.mp sleeps.1
  have known := (kept.known id).mpr (.inr asleep)
  have unwoken := Bell.wokenBy?_eq_none_iff.mp sleeps.2
  exact ⟨(Bell.mem_known.mp known).resolve_right unwoken, asleep⟩

/-- No wake-up is lost.  Callers come, look, sleep, notice, give up and reconcile in any
order, while items are added, released, delayed and due, and the queue is closed.  As
long as it is open, whoever sleeps while a key is ready can rely on another caller that
is awake; and once everybody was woken after closing, nobody sleeps any more. -/
theorem no_wakeup_is_lost {world : ω} {actions : List (Action α ω)}
    (ran : System.run plan { world } actions = some system) :
    (system.queue.closed = false → system.queue.ready ≠ [] → ∀ id, system.Sleeps id →
        ∃ other, other ≠ id ∧ system.IsUp other) ∧
      ∀ earlier later closing, actions = earlier ++ .wakeAll :: later →
        System.run plan { world } earlier = some closing → closing.queue.closed = true →
        ∀ id, ¬system.Sleeps id := by
  obtain ⟨kept, attended⟩ := attended_of_run ran
  constructor
  · intro isOpen ready id sleeps
    obtain ⟨waits, asleep⟩ := waits_of_sleeps kept sleeps
    obtain ⟨other, up⟩ := attended isOpen (by simpa [lobby] using ready) ⟨id, waits, asleep⟩
    refine ⟨other, ?_, ?_⟩
    · rintro rfl
      have rung : (other, Waking.ring) ∈ system.lobby.bell.woken := by
        simpa [Lobby.IsUp, asleep] using up
      exact Bell.wokenBy?_eq_none_iff.mp sleeps.2 (List.mem_map_of_mem rung)
    · rcases up with returns | checks | ⟨asleep, rung⟩
      · exact .inl returns
      · exact .inr (.inl checks)
      · have woken : system.bell.wokenBy? other = some .ring := kept.sound.wokenBy?_eq rung
        exact .inr (.inr ⟨isAsleep_iff.mpr asleep, by simp [woken]⟩)
  · rintro earlier later closing rfl closed isClosed id sleeps
    obtain ⟨before, ranEarlier, rest⟩ := run_append ran
    obtain rfl : closing = before := Option.some.inj (closed.symm.trans ranEarlier)
    obtain ⟨woken, acted, rest⟩ := run_cons rest
    obtain rfl : closing.wakeAll = woken := Option.some.inj acted
    have nobody : closing.wakeAll.lobby.Cleared :=
      ⟨isClosed, by simp [lobby, wakeAll, Bell.wakeAll]⟩
    have cleared : system.lobby.Cleared :=
      lobby_run (motive := Lobby.Cleared) Lobby.Cleared.step later nobody rest
    obtain ⟨waits, asleep⟩ := waits_of_sleeps kept sleeps
    exact cleared.2 id waits asleep

/-- Of two callers that sleep the second sleeps on when an item comes, because the first
is woken; and both are woken when the queue is closed. -/
theorem second_sleeper_relies_on_first :
    let plan : Plan Pod Unit :=
      { name := "pod", backoff := {}, handler := { sync := fun _ _ _ _ => .done } }
    let earlier : List (Action Pod Unit) :=
      [.enter 0 .worker, .enter 1 .worker, .advance 0, .advance 0, .advance 1, .advance 1,
        .submit ⟨⟨some "ns", "a"⟩, .update, none⟩]
    (∃ system, run plan { world := () } earlier = some system ∧ system.queue.closed = false ∧
      system.queue.ready ≠ [] ∧ system.Sleeps 1 ∧ ∃ other, other ≠ 1 ∧ system.IsUp other) ∧
    ∃ system, run plan { world := () } (earlier ++ [.close, .wakeAll]) = some system ∧
      system.isAsleep 1 = true ∧ ¬system.Sleeps 1 := by
  intro plan earlier
  have shows : (run plan { world := () } earlier).map (fun system =>
      (system.queue.closed, system.queue.ready.length, system.isAsleep 1,
        system.bell.wokenBy? 1)) = some (false, 1, true, none) := by
    decide
  have closes : (run plan { world := () } (earlier ++ [.close])).map
      (fun system => system.queue.closed) = some true := by
    decide
  have stillAsleep : (run plan { world := () } (earlier ++ [.close, .wakeAll])).map
      (fun system => system.isAsleep 1) = some true := by
    decide
  obtain ⟨system, ran, found⟩ := Option.map_eq_some_iff.mp shows
  obtain ⟨closing, ranClosing, isClosed⟩ := Option.map_eq_some_iff.mp closes
  obtain ⟨woken, ranWoken, asleep⟩ := Option.map_eq_some_iff.mp stillAsleep
  simp only [Prod.mk.injEq] at found
  obtain ⟨isOpen, ready, sleeps, unwoken⟩ := found
  have waits : system.queue.ready ≠ [] := List.ne_nil_of_length_eq_add_one ready
  constructor
  · exact ⟨system, ran, isOpen, waits, ⟨sleeps, unwoken⟩,
      (no_wakeup_is_lost ran).1 isOpen waits 1 ⟨sleeps, unwoken⟩⟩
  · exact ⟨woken, ranWoken, asleep,
      (no_wakeup_is_lost ranWoken).2 (earlier ++ [.close]) [] closing (by simp) ranClosing
        isClosed 1⟩

end System

end Reconciler
