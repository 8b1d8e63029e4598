import Reconciler.Proofs.Pipeline
import Reconciler.Proofs.Table
import Reconciler.Service

/-!
# The conduct of a service

This file says once what each move of a service changes, and what every service keeps
true: workers come only after the cache is synced, the queue is closed exactly if the
service has closed it, and a service that ends well is left by all of its workers.
-/

namespace Reconciler

variable {α ω : Type}

namespace System

variable [Resource α] {plan : Plan α ω} {before after : System α ω} {action : Action α ω}
  {mark : Option (Mark α)}

/-- A caller stays where it is unless the step is its own. -/
theorem Turn.find?_eq (turn : Turn plan before action mark after) {id : Nat}
    (noAdvance : action ≠ .advance id) (noCancel : action ≠ .cancel id)
    (noEntry : ∀ role, action = .enter id role → before.callers.find? id ≠ none) :
    after.callers.find? id = before.callers.find? id := by
  have elsewhere {other : Nat} {next : Caller α ω} (apart : other ≠ id) :
      (before.callers.insert other next).find? id = before.callers.find? id := by
    rw [Table.find?_insert, if_neg apart]
  cases turn with
  | quiet | ignored | received | announced | suppressed | completed | fired | closed => rfl
  | entered absent =>
      apply elsewhere
      rintro rfl
      exact noEntry _ rfl absent
  | moved _ _ _ reason =>
      apply elsewhere
      rintro rfl
      exact reason.elim noAdvance noCancel
  | waited | took | carried | looked | called | handled | concluded | forgot | released
  | yielded | granted | dropped | returned | delayed | refused | noted =>
      exact elsewhere fun same => noAdvance (by rw [same])

theorem Turn.closed_eq (turn : Turn plan before action mark after) (noClose : action ≠ .close) :
    after.queue.closed = before.queue.closed := by
  cases turn with
  | closed => exact (noClose rfl).elim
  | announced | fired | returned => exact Queue.add_closed _ _
  | waited _ _ _ taken | took _ _ taken | carried _ _ taken => exact Queue.closed_take taken
  | quiet | ignored | received | suppressed | completed | entered | moved | looked | called
  | handled | concluded | forgot | released | yielded | granted | dropped | delayed | refused
  | noted => rfl

theorem Turn.synced_eq (turn : Turn plan before action mark after) (noPass : action ≠ .passOn) :
    after.cache.synced = before.cache.synced := by
  cases turn with
  | @received _ event => cases event <;> rfl
  | announced | suppressed | completed => exact (noPass rfl).elim
  | quiet | ignored | fired | closed | entered | moved | waited | took | carried | looked
  | called | handled | concluded | forgot | released | yielded | granted | dropped | returned
  | delayed | refused | noted => rfl

/-- Passing on adds the item of one change, or ends. -/
theorem passOn_cases (passed : before.passOn plan = some after) :
    (∃ key change rest enqueued counted listing,
      before.relay = .passing ((key, change) :: rest) enqueued listing ∧
      after.relay = .passing rest counted listing ∧
      after.queue = (Work.ofChange? key change).toList.foldl Queue.add before.queue ∧
      after.cache = before.cache) ∨
    ∃ enqueued listing, before.relay = .passing [] enqueued listing ∧ after.relay = .idle ∧
      after.queue = before.queue ∧
      after.cache.synced = (before.cache.synced || listing) := by
  unfold passOn at passed
  cases relay : before.relay with
  | idle => simp [relay] at passed
  | passing changes enqueued listing =>
      rw [relay] at passed
      cases changes with
      | cons entry rest =>
          obtain ⟨key, change⟩ := entry
          left
          cases item : Work.ofChange? key change with
          | some work =>
              simp only [item, Option.some.injEq] at passed
              subst passed
              exact ⟨key, change, rest, enqueued, enqueued + 1, listing, rfl, rfl,
                by rw [item]; rfl, rfl⟩
          | none =>
              simp only [item, Option.some.injEq] at passed
              subst passed
              exact ⟨key, change, rest, enqueued, enqueued, listing, rfl, rfl,
                by rw [item]; rfl, rfl⟩
      | nil =>
          right
          cases listing with
          | true =>
              obtain rfl := Option.some.inj passed
              exact ⟨enqueued, true, rfl, rfl, rfl, by simp [Cache.markSynced]⟩
          | false =>
              obtain rfl := Option.some.inj passed
              exact ⟨enqueued, false, rfl, rfl, rfl, by simp⟩

theorem synced_passOn (synced : before.cache.synced = true)
    (passed : before.passOn plan = some after) : after.cache.synced = true := by
  rcases passOn_cases passed with ⟨_, _, _, _, _, _, _, _, _, cache⟩ | ⟨_, _, _, _, _, marked⟩
  · rw [cache, synced]
  · rw [marked, synced, Bool.true_or]

/-- Whoever has left does nothing more. -/
theorem advance_of_left {id : Nat}
    (left : ∀ caller, before.callers.find? id = some caller → caller.hasLeft = true) :
    before.advance plan id = none := by
  unfold advance
  cases found : before.callers.find? id with
  | none => rfl
  | some caller =>
      have gone := left caller found
      unfold Caller.hasLeft at gone
      cases point : caller.point with
      | left work => simp only [point, ite_self]
      | _ => simp [point] at gone

end System

namespace Service

/-! ## How far a service has come -/

/-- The result of a service, once it is known. -/
def Progress.outcome? : Progress → Option (Except Failure Unit)
  | .parting result | .ended result => some result
  | _ => none

/-- Whether a service has sent for its workers. -/
def Progress.hasOpened : Progress → Bool
  | .waiting | .parting (.error _) | .ended (.error _) => false
  | _ => true

/-- Whether a service has closed its queue. -/
def Progress.hasClosed : Progress → Bool
  | .waking | .leaving | .parting (.ok _) | .ended (.ok _) => true
  | _ => false

theorem Progress.not_hasClosed_of_unopened {progress : Progress}
    (unopened : progress.hasOpened = false) : progress.hasClosed = false := by
  cases progress with
  | waiting => rfl
  | parting result | ended result => cases result <;> first | rfl | cases unopened
  | _ => cases unopened

theorem Progress.unopened_of_error {progress : Progress} {failure : Failure}
    (failed : progress.outcome? = some (.error failure)) : progress.hasOpened = false := by
  cases progress with
  | parting result | ended result =>
      obtain rfl := Option.some.inj failed
      rfl
  | _ => cases failed

theorem Progress.hasClosed_of_ok {progress : Progress}
    (ok : progress.outcome? = some (.ok ())) : progress.hasClosed = true := by
  cases progress with
  | parting result | ended result =>
      obtain rfl := Option.some.inj ok
      rfl
  | _ => cases ok

variable [Resource α] {plan : Plan α ω} {service after : Service α ω} {move : Move α ω}

/-! ## What a move changes -/

/-- What a move changes; what it writes is left open. -/
inductive Turn (plan : Plan α ω) (service : Service α ω) : Move α ω → Service α ω → Prop
  | acted {action system} :
      permits service.control action = true →
      service.system.act plan action = some system →
      Turn plan service (.act action) { service with system }
  /-- The watch was left, or the service was told to stop. -/
  | told {move journal following stopping} :
      (∀ action, move ≠ .act action) →
      Turn plan service move
        { system := { service.system with journal }
          control := { service.control with following, stopping } }
  | opened {journal} :
      service.control.progress = .waiting → service.system.cache.synced = true →
      Turn plan service (.notice .synced)
        { system := { service.system with journal }
          control := { service.control with
            progress := .serving
            absent := List.range service.control.workers } }
  | failed {cue failure} :
      service.control.progress = .waiting →
      failure = .syncTimeout plan.name service.control.settings.syncTimeout ∨
        failure = .stopped plan.name →
      Turn plan service (.notice cue) (service.become (.parting (.error failure)))
  | came {id absent} :
      service.control.absent = id :: absent →
      Turn plan service .callWorker
        { system := service.system.enter plan id .worker
          control := { service.control with absent } }
  | stopped {journal} :
      service.control.progress = .serving → service.control.stopping = true →
      Turn plan service .proceed
        { system := { service.system with journal }
          control := { service.control with progress := .closing } }
  | closed :
      service.control.progress = .closing →
      Turn plan service .proceed
        { system := service.system.close
          control := { service.control with progress := .waking } }
  | woke :
      service.control.progress = .waking →
      Turn plan service .proceed
        { system := service.system.wakeAll
          control := { service.control with progress := .leaving } }
  | emptied {journal} :
      service.control.progress = .leaving → service.control.absent = [] →
      service.system.isDeserted = true →
      Turn plan service .proceed
        { system := { service.system with journal }
          control := { service.control with progress := .parting (.ok ()) } }
  | ended {result} :
      service.control.progress = .parting result →
      Turn plan service .proceed
        { service with
          control := { service.control with progress := .ended result, following := false } }

omit [Resource α] in
theorem synced_of_shows (shows : service.shows .synced = true) :
    service.system.cache.synced = true := by
  have progress : service.cacheProgress = .synced := by
    simpa [Service.shows] using shows
  unfold cacheProgress Cache.progress at progress
  split at progress
  next both => exact (Bool.and_eq_true_iff.mp both).2
  · split at progress <;> cases progress

theorem turn_answer {cue : Cue} (waits : service.control.progress = .waiting)
    (shows : service.shows cue = true) :
    Turn plan service (.notice cue) (service.answer plan cue) := by
  cases cue with
  | synced => exact .opened waits (synced_of_shows shows)
  | abandoned => exact .failed waits (.inr rfl)
  | expired => exact .failed waits (.inl rfl)
  | stopped => exact .failed waits (.inr rfl)

theorem turn_proceed (proceeded : service.proceed plan = some after) :
    Turn plan service .proceed after := by
  unfold proceed at proceeded
  cases progress : service.control.progress with
  | waiting => simp [progress] at proceeded
  | serving =>
      simp only [progress] at proceeded
      split at proceeded
      next told => exact Option.some.inj proceeded ▸ .stopped progress told
      · cases proceeded
  | closing =>
      simp only [progress] at proceeded
      exact Option.some.inj proceeded ▸ .closed progress
  | waking =>
      simp only [progress] at proceeded
      exact Option.some.inj proceeded ▸ .woke progress
  | leaving =>
      simp only [progress] at proceeded
      split at proceeded
      next empty =>
        obtain ⟨nobodyAbsent, deserted⟩ := Bool.and_eq_true_iff.mp empty
        exact Option.some.inj proceeded ▸
          .emptied progress (List.isEmpty_iff.mp nobodyAbsent) deserted
      · cases proceeded
  | parting result =>
      simp only [progress] at proceeded
      exact Option.some.inj proceeded ▸ .ended progress
  | ended result => simp [progress] at proceeded

/-- Every move is one of the rules. -/
theorem turn_of_act (acted : service.act plan move = some after) :
    Turn plan service move after := by
  cases move with
  | act action =>
      simp only [Service.act] at acted
      split at acted
      next permitted =>
        obtain ⟨system, stepped, rfl⟩ := Option.map_eq_some_iff.mp acted
        exact .acted permitted stepped
      · cases acted
  | endWatch =>
      simp only [Service.act] at acted
      split at acted
      · exact Option.some.inj acted ▸ .told nofun
      · cases acted
  | leaveWatch =>
      simp only [Service.act] at acted
      split at acted
      · exact Option.some.inj acted ▸ .told nofun
      · cases acted
  | stop => exact Option.some.inj acted ▸ .told nofun
  | notice cue =>
      simp only [Service.act] at acted
      split at acted
      next waits =>
        split at acted
        next shows => exact Option.some.inj acted ▸ turn_answer waits shows
        · cases acted
      · cases acted
  | callWorker =>
      simp only [Service.act] at acted
      split at acted
      · cases acted
      next absent => exact Option.some.inj acted ▸ .came absent
  | proceed => exact turn_proceed acted

theorem Turn.unopened (turn : Turn plan service move after)
    (unopened : after.control.progress.hasOpened = false) :
    service.control.progress.hasOpened = false := by
  cases turn with
  | acted | told | came => exact unopened
  | opened | stopped | closed | woke | emptied => cases unopened
  | failed waits => rw [waits]; rfl
  | @ended result parts =>
      rw [parts]
      cases result <;> exact unopened

theorem Turn.staysOpen (turn : Turn plan service move after)
    (opened : service.control.progress.hasOpened = true) :
    after.control.progress.hasOpened = true := by
  cases still : after.control.progress.hasOpened with
  | true => rfl
  | false => cases (turn.unopened still).symm.trans opened

/-- Workers are sent for once the cache is synced. -/
theorem Turn.opens (turn : Turn plan service move after)
    (opened : after.control.progress.hasOpened = true) :
    service.control.progress.hasOpened = true ∨ service.system.cache.synced = true := by
  cases turn with
  | acted | told | came => exact .inl opened
  | opened _ synced => exact .inr synced
  | failed => cases opened
  | stopped progress | closed progress | woke progress | emptied progress =>
      left
      rw [progress]
      rfl
  | @ended result parts =>
      left
      rw [parts]
      cases result <;> exact opened

/-! ## The steps of the controller -/

theorem turn_of_permitted {control : Control} {before next : System α ω} {action : Action α ω}
    (permitted : permits control action = true) (acted : before.act plan action = some next) :
    ∃ mark, System.Turn plan before action mark next := by
  cases action with
  | receive order event =>
      cases relay : before.relay with
      | idle =>
          -- A service may meet any order of a listing, fair or not.
          simp only [System.act, relay, Option.some.injEq] at acted
          exact ⟨_, acted ▸ System.turn_receive order event relay⟩
      | passing => simp [System.act, relay] at acted
  | receiveFailure | passOn | advance | fire | alter | elapse =>
      exact ⟨_, System.turn_of_act (show Action.Occurs (fun _ => True) _ from trivial) acted⟩
  | _ => cases permitted

omit [Resource α] in
theorem ne_of_permitted {control : Control} {action : Action α ω}
    (permitted : permits control action = true) :
    (∀ id role, action ≠ .enter id role) ∧ (∀ id, action ≠ .cancel id) ∧ action ≠ .close := by
  refine ⟨?_, ?_, ?_⟩
  · rintro id role rfl
    cases permitted
  · rintro id rfl
    cases permitted
  · rintro rfl
    cases permitted

/-- Whoever has not come, or has left, stays where it is. -/
theorem find?_of_left {control : Control} {before next : System α ω} {action : Action α ω}
    {id : Nat}
    (left : ∀ caller, before.callers.find? id = some caller → caller.hasLeft = true)
    (permitted : permits control action = true) (acted : before.act plan action = some next) :
    next.callers.find? id = before.callers.find? id := by
  obtain ⟨noEntry, noCancel, -⟩ := ne_of_permitted permitted
  obtain ⟨mark, turn⟩ := turn_of_permitted permitted acted
  apply turn.find?_eq _ (noCancel id) (fun role enters => (noEntry id role enters).elim)
  rintro rfl
  have stuck : before.advance plan id = none := System.advance_of_left left
  cases stuck.symm.trans acted

theorem find?_of_absent {control : Control} {before next : System α ω} {action : Action α ω}
    {id : Nat} (absent : before.callers.find? id = none)
    (permitted : permits control action = true) (acted : before.act plan action = some next) :
    next.callers.find? id = none := by
  have left : ∀ caller, before.callers.find? id = some caller → caller.hasLeft = true := by
    intro caller found
    cases absent.symm.trans found
  exact (find?_of_left left permitted acted).trans absent

/-- Every move is a step of the controller, and nobody gives up. -/
theorem Turn.system (turn : Turn plan service move after)
    (new : ∀ id ∈ service.control.absent, service.system.callers.find? id = none) :
    ∃ action mark, System.Turn plan service.system action mark after.system ∧
      (∀ id, action ≠ .cancel id) ∧ ∀ id, action = .advance id ↔ move = .act (.advance id) := by
  have quietly {bell : Bell} {journal : Journal} (other : ∀ action, move ≠ .act action) :
      ∃ action mark, System.Turn plan service.system action mark
          { service.system with bell, journal } ∧
        (∀ id, action ≠ .cancel id) ∧ ∀ id, action = .advance id ↔ move = .act (.advance id) :=
    ⟨.wakeAll, none, .quiet nofun nofun, nofun, fun id => ⟨nofun, fun same => (other _ same).elim⟩⟩
  cases turn with
  | @acted action _ permitted acted =>
      obtain ⟨mark, turn⟩ := turn_of_permitted permitted acted
      exact ⟨action, mark, turn, (ne_of_permitted permitted).2.1,
        fun id => Move.act.injEq _ _ ▸ Iff.rfl⟩
  | told other => exact quietly other
  | opened | stopped | woke | emptied => exact quietly nofun
  | failed | ended => exact quietly nofun
  | @came id absent absentIs =>
      have absent : service.system.callers.find? id = none := new id (by simp [absentIs])
      exact ⟨.enter id .worker, none, .entered absent, nofun, fun _ => ⟨nofun, nofun⟩⟩
  | closed => exact ⟨.close, none, .closed, nofun, fun _ => ⟨nofun, nofun⟩⟩

theorem Turn.synced (turn : Turn plan service move after)
    (synced : service.system.cache.synced = true) : after.system.cache.synced = true := by
  cases turn with
  | @acted action _ permitted acted =>
      by_cases passes : action = .passOn
      · subst passes
        exact System.synced_passOn synced acted
      · obtain ⟨mark, turn⟩ := turn_of_permitted permitted acted
        exact (turn.synced_eq passes).trans synced
  | _ => exact synced

theorem Turn.staysClosed (turn : Turn plan service move after)
    (closed : service.system.queue.closed = true) : after.system.queue.closed = true := by
  cases turn with
  | acted permitted acted =>
      obtain ⟨mark, turn⟩ := turn_of_permitted permitted acted
      exact (turn.closed_eq (ne_of_permitted permitted).2.2).trans closed
  | closed => rfl
  | _ => exact closed

/-! ## What every service keeps true -/

/-- What every service keeps true. -/
structure Orderly (plan : Plan α ω) (settings : Settings) (service : Service α ω) : Prop where
  custody : service.system.Custody
  settings_eq : service.control.settings = settings
  absent_nodup : service.control.absent.Nodup
  absent_new : ∀ id ∈ service.control.absent, service.system.callers.find? id = none
  unopened : service.control.progress.hasOpened = false → service.control.absent = [] ∧
    (∀ id, service.system.callers.find? id = none) ∧
    ∀ ticket, service.system.delayed.find? ticket = none
  synced : service.control.progress.hasOpened = true → service.system.cache.synced = true
  closed : service.system.queue.closed = service.control.progress.hasClosed
  failed : ∀ failure, service.control.progress.outcome? = some (.error failure) →
    failure = .syncTimeout plan.name settings.syncTimeout ∨ failure = .stopped plan.name
  served : service.control.progress.outcome? = some (.ok ()) → service.control.absent = [] ∧
    ∀ id caller, service.system.callers.find? id = some caller → caller.hasLeft = true

namespace Orderly

variable {settings : Settings}

omit [Resource α] in
theorem start (plan : Plan α ω) (settings : Settings) (world : ω) :
    (start plan settings { world }).Orderly plan settings where
  custody := { System.Custody.start world with }
  settings_eq := rfl
  absent_nodup := List.nodup_nil
  absent_new := nofun
  unopened _ := ⟨rfl, fun _ => rfl, fun _ => rfl⟩
  synced := nofun
  closed := rfl
  failed := nofun
  served := nofun

theorem absent_nodup_step (orderly : service.Orderly plan settings)
    (turn : Turn plan service move after) : after.control.absent.Nodup := by
  cases turn with
  | opened => exact List.nodup_range
  | came absentIs =>
      have nodup := orderly.absent_nodup
      rw [absentIs] at nodup
      exact (List.nodup_cons.mp nodup).2
  | _ => exact orderly.absent_nodup

/-- Whoever is still to come has not come. -/
theorem absent_new_step (orderly : service.Orderly plan settings)
    (turn : Turn plan service move after) :
    ∀ id ∈ after.control.absent, after.system.callers.find? id = none := by
  cases turn with
  | acted permitted acted =>
      intro id absent
      exact find?_of_absent (orderly.absent_new id absent) permitted acted
  | opened waits =>
      have nobody := (orderly.unopened (by rw [waits]; rfl)).2.1
      exact fun id _ => nobody id
  | @came id absent absentIs =>
      intro other member
      have nodup := orderly.absent_nodup
      rw [absentIs] at nodup
      have apart : id ≠ other := by
        rintro rfl
        exact (List.nodup_cons.mp nodup).1 member
      show (service.system.callers.insert id _).find? other = none
      rw [Table.find?_insert, if_neg apart]
      exact orderly.absent_new other (by simp [absentIs, member])
  | _ => exact orderly.absent_new

theorem unopened_step (orderly : service.Orderly plan settings)
    (turn : Turn plan service move after) (unopened : after.control.progress.hasOpened = false) :
    after.control.absent = [] ∧ (∀ id, after.system.callers.find? id = none) ∧
      ∀ ticket, after.system.delayed.find? ticket = none := by
  obtain ⟨absent, nobody, nothing⟩ := orderly.unopened (turn.unopened unopened)
  cases turn with
  | @acted _ next permitted acted =>
      obtain ⟨mark, turn⟩ := turn_of_permitted permitted acted
      refine ⟨absent, fun id => find?_of_absent (nobody id) permitted acted, ?_⟩
      intro ticket
      cases found : next.delayed.find? ticket with
      | none => rfl
      | some delayed =>
          rcases System.delayed_of_turn turn found with before | ⟨id, held⟩
          · cases (nothing ticket).symm.trans before
          · simp [System.shown?, nobody id] at held
  | opened => cases unopened
  | came absentIs => cases absentIs.symm.trans absent
  | _ => exact ⟨absent, nobody, nothing⟩

theorem synced_step (orderly : service.Orderly plan settings)
    (turn : Turn plan service move after) (opened : after.control.progress.hasOpened = true) :
    after.system.cache.synced = true := by
  have synced : service.system.cache.synced = true :=
    (turn.opens opened).elim orderly.synced id
  exact turn.synced synced

theorem closed_step (orderly : service.Orderly plan settings)
    (turn : Turn plan service move after) :
    after.system.queue.closed = after.control.progress.hasClosed := by
  have closed := orderly.closed
  cases turn with
  | acted permitted acted =>
      obtain ⟨mark, turn⟩ := turn_of_permitted permitted acted
      exact (turn.closed_eq (ne_of_permitted permitted).2.2).trans closed
  | told | came => exact closed
  | opened progress | failed progress | stopped progress | woke progress | emptied progress =>
      rw [progress] at closed
      exact closed
  | closed => rfl
  | @ended result parts =>
      rw [parts] at closed
      cases result <;> exact closed

theorem failed_step (orderly : service.Orderly plan settings)
    (turn : Turn plan service move after) (failure : Failure)
    (failed : after.control.progress.outcome? = some (.error failure)) :
    failure = .syncTimeout plan.name settings.syncTimeout ∨ failure = .stopped plan.name := by
  cases turn with
  | acted | told | came => exact orderly.failed failure failed
  | opened | stopped | closed | woke | emptied => cases failed
  | failed _ reason =>
      obtain rfl := Except.error.inj (Option.some.inj failed)
      rwa [orderly.settings_eq] at reason
  | ended parts =>
      apply orderly.failed failure
      rw [parts]
      exact failed

theorem served_step (orderly : service.Orderly plan settings)
    (turn : Turn plan service move after)
    (served : after.control.progress.outcome? = some (.ok ())) :
    after.control.absent = [] ∧
      ∀ id caller, after.system.callers.find? id = some caller → caller.hasLeft = true := by
  cases turn with
  | acted permitted acted =>
      obtain ⟨absent, left⟩ := orderly.served served
      refine ⟨absent, fun id caller found => left id caller ?_⟩
      exact (find?_of_left (left id) permitted acted).symm.trans found
  | told => exact orderly.served served
  | opened | failed | stopped | closed | woke => cases served
  | came absentIs =>
      have absent := (orderly.served served).1
      cases absentIs.symm.trans absent
  | emptied _ absent deserted =>
      refine ⟨absent, fun id caller found => ?_⟩
      exact List.all_eq_true.mp deserted caller (Table.mem_values_of_find? found)
  | ended parts =>
      apply orderly.served
      rw [parts]
      exact served

theorem step (orderly : service.Orderly plan settings) (turn : Turn plan service move after) :
    after.Orderly plan settings where
  custody := by
    obtain ⟨action, mark, stepped, -⟩ := turn.system orderly.absent_new
    exact orderly.custody.step stepped
  settings_eq := by cases turn <;> exact orderly.settings_eq
  absent_nodup := orderly.absent_nodup_step turn
  absent_new := orderly.absent_new_step turn
  unopened := orderly.unopened_step turn
  synced := orderly.synced_step turn
  closed := orderly.closed_step turn
  failed := orderly.failed_step turn
  served := orderly.served_step turn

end Orderly

/-! ## Runs -/

theorem run_append {first last : Service α ω} {earlier later : List (Move α ω)}
    (ran : run plan first (earlier ++ later) = some last) :
    ∃ between, run plan first earlier = some between ∧ run plan between later = some last := by
  rw [run, List.foldlM_append] at ran
  exact Option.bind_eq_some_iff.mp ran

theorem run_concat {first last : Service α ω} {moves : List (Move α ω)}
    (ran : run plan first (moves ++ [move]) = some last) :
    ∃ before, run plan first moves = some before ∧ Turn plan before move last := by
  obtain ⟨before, ran, moved⟩ := run_append ran
  refine ⟨before, ran, turn_of_act ?_⟩
  simpa [run] using moved

/-- What holds at first and is kept by every move after a run holds after every run. -/
theorem run_induction {first : Service α ω} {motive : List (Move α ω) → Service α ω → Prop}
    (begins : motive [] first)
    (goesOn : ∀ {moves before move after}, run plan first moves = some before →
      motive moves before → Turn plan before move after → motive (moves ++ [move]) after)
    (moves : List (Move α ω)) : ∀ {last}, run plan first moves = some last →
      motive moves last := by
  induction moves using List.reverseRecOn with
  | nil =>
      intro last ran
      obtain rfl := Option.some.inj ran
      exact begins
  | append_singleton moves move ih =>
      intro last ran
      obtain ⟨before, ranBefore, turn⟩ := run_concat ran
      exact goesOn ranBefore (ih ranBefore) turn

theorem orderly_of_run {settings : Settings} {first last : Service α ω}
    {moves : List (Move α ω)} (begins : first.Orderly plan settings)
    (ran : run plan first moves = some last) : last.Orderly plan settings :=
  run_induction (motive := fun _ service => service.Orderly plan settings) begins
    (fun _ orderly turn => orderly.step turn) moves ran

end Service

end Reconciler
